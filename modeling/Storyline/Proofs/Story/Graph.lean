import Storyline.Proofs.Story.Node
import Storyline.Story.Graph.Document

/-!
# Graphs that are saved and loaded

A graph that is written as a text and read from it is the same graph: every node with its
kind, its texts, guards, effects and links, under its own name. Three things are needed.
No link may be the empty name, since an empty link is read as none. No effect may set
anything to a floating-point number. And the text may nest no deeper than readers enter.
-/

namespace Storyline.Graph

open Json

/-- A graph is read back from its outline if its nodes are. Title and start may be any texts, and
the names of the nodes any different texts, the empty one included. -/
theorem takes_toJson {graph : Graph}
    (each : ∀ entry ∈ graph.nodes.entries, Node.reader.Takes entry.2.toJson entry.2) :
    reader.Takes graph.toJson graph := by
  have title := (Reader.fills_nil [] ({} : Graph)).ifPresent "title" graph.title
    (fun title _ => Reader.takes_someText title) (rfl : parts.find? _ = some _) rfl (by decide)
  have start := Reader.fills_member "startNode" (Reader.takes_text graph.start)
    (rfl : parts.find? _ = some _) rfl rfl { title := graph.title }
  have nodes := start.append
    (Reader.fills_member "nodes" (Reader.takes_table each) rfl rfl rfl _) (by decide)
  exact Reader.takes_record (title.append nodes (by decide)) (by simp [parts, Field.byDefault])

/-- A graph is written without floating-point numbers if its nodes are. All numbers of a story are
in its nodes. -/
theorem exact_toJson {graph : Graph} (each : ∀ entry ∈ graph.nodes.entries, entry.2.toJson.Exact) :
    graph.toJson.Exact := by
  have nodes : (Value.object
      (graph.nodes.entries.map fun entry => (entry.1, entry.2.toJson))).Exact := by
    refine .object fun member listed => ?_
    obtain ⟨entry, among, rfl⟩ := List.mem_map.mp listed
    exact each entry among
  refine .object ?_
  simp only [List.forall_mem_append, List.forall_mem_cons]
  exact ⟨exact_memberIfPresent fun title => .text title, .text _, nodes,
    fun _ listed => by cases listed⟩

/-- A graph is read back from the text it is written as, if no link is the empty name, no effect
sets anything to a floating-point number, and the text nests at most 127 levels.

Nothing else is assumed: the start need not exist, links may lead nowhere, and formulas may have
mistakes.

Proof: the written value holds the graph, by the fields of each record from the inside out, and is
written without floating-point digits; a value so written and no deeper than readers enter is read
as what it holds. -/
theorem ofText_toText {graph : Graph}
    (named : ∀ entry ∈ graph.nodes.entries, ∀ link ∈ entry.2.edges, link ≠ "")
    (exact : ∀ entry ∈ graph.nodes.entries, ∀ effect ∈ entry.2.effects, effect.setsReal = false)
    (shallow : graph.toJson.depth ≤ 127) : ofText graph.toText = .ok graph := by
  have taken : reader.Takes graph.toJson graph := takes_toJson fun entry listed =>
    Node.takes_toJson ⟨named entry listed, exact entry listed⟩
  have written : graph.toJson.Exact := exact_toJson fun entry listed =>
    Node.exact_toJson (exact entry listed)
  exact Reader.document_indented taken written shallow

/-- A lighthouse with nodes of every kind. Its texts need escapes, its guards are nested and have a
mistake, and its numbers are negative. -/
def lighthouse : Graph :=
  { title := some "The \"Light\"\n",
    start := "shore",
    nodes := Table.empty
      |>.insert "shore" (.choice
        { text := .variants [{ content := "🌊\x01", condition := some (.negation none) }],
          choices :=
            [{ next := some "door",
               condition := some (.all [.hasItem "Key", .negate (.hasFlag "tide" false)]),
               effects := [.setFlag "wet" (.text "very"), .setValue "day" (.integer 2)],
               timeCost := some (-5),
               winMessage := some "" }],
          scene := { timeSet := some Int64.minValue, effects := [.addItem "Key"] } })
      |>.insert "door" (.logic
        { condition := some (.any [.unknown]), nextTrue := some "lamp", nextFalse := some "sea" })
      |>.insert "lamp" (.input { text := .plain "Who?", variableName := some "playerName" })
      |>.insert "sea" (.death (some "Cold.")) }

/-- The lighthouse is saved and loaded again. It is within the three limits, and far from the last
level. -/
theorem lighthouse_loads_as_saved :
    (∀ entry ∈ lighthouse.nodes.entries, ∀ link ∈ entry.2.edges, link ≠ "") ∧
      (∀ entry ∈ lighthouse.nodes.entries, ∀ effect ∈ entry.2.effects, effect.setsReal = false) ∧
      lighthouse.toJson.depth = 9 ∧ ofText lighthouse.toText = .ok lighthouse := by
  have named : ∀ entry ∈ lighthouse.nodes.entries, ∀ link ∈ entry.2.edges, link ≠ "" := by decide
  have exact : ∀ entry ∈ lighthouse.nodes.entries, ∀ effect ∈ entry.2.effects,
      effect.setsReal = false := by decide
  have depth : lighthouse.toJson.depth = 9 := by decide
  exact ⟨named, exact, depth, ofText_toText named exact (by omega)⟩

end Storyline.Graph
