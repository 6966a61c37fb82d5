import Storyline.Play.Scene
import Storyline.Table.Lookup

/-!
# Walking through branches

From a node play walks on its own as long as it stands on a branch. The walk stops
at the first node that is not a branch, at a name without a node, at a branch
without the link that its condition selects, or at a branch it has passed before.
Every step passes a branch that was not passed before, so a walk is no longer than
the list of nodes.
-/

namespace Storyline

/-- Where a walk stops. -/
inductive Stop where
  | choice (id : NodeId) (node : ChoiceNode)
  | input (id : NodeId) (node : InputNode)
  | ending (ending : Ending) (message : Option String)
  | missing (id : NodeId)
  | dangling (id : NodeId) (branch : Bool)
  | cycle (id : NodeId)

/-- The link of a branch for a truth value of its condition. -/
def LogicNode.link (node : LogicNode) (branch : Bool) : Option NodeId :=
  if branch then node.nextTrue else node.nextFalse

namespace Graph

/-- The names of a graph that are not among some names. -/
def namesOutside (graph : Graph) (passed : List NodeId) : List NodeId :=
  graph.nodes.names.filter fun name => !passed.contains name

/-- A name with a node is among the names. This is where the end of a walk comes from, as there are
only so many names. -/
theorem mem_names_of_node? {graph : Graph} {id : NodeId} {node : Node}
    (found : graph.node? id = some node) : id ∈ graph.nodes.names := by
  rw [Table.mem_names_iff]
  exact Option.isSome_of_mem found

/-- One more name of the graph among the passed ones leaves fewer outside. A walk that passes a
branch for the first time therefore has fewer left to pass. -/
theorem length_namesOutside_lt {graph : Graph} {passed : List NodeId} {id : NodeId}
    (named : id ∈ graph.nodes.names) (fresh : passed.contains id = false) :
    (graph.namesOutside (passed ++ [id])).length < (graph.namesOutside passed).length := by
  have inside : id ∈ graph.namesOutside passed := by
    simp only [namesOutside, List.mem_filter, fresh, Bool.not_false, and_true]
    exact named
  have narrowed : graph.namesOutside (passed ++ [id]) =
      (graph.namesOutside passed).filter fun name => !decide (name = id) := by
    simp only [namesOutside, List.filter_filter]
    refine List.filter_congr fun name _ => ?_
    by_cases same : name = id <;> simp [same]
  rw [narrowed]
  have notKept : ¬ (!decide (id = id)) = true := by simp
  exact List.length_filter_lt_length_iff_exists.mpr ⟨id, inside, notKept⟩

/-- The walk from a node, with `chooses` telling the truth of each branch. The
first part of the answer lists the branches passed, in order, together with the
branch passed for the second time if there is one. -/
def walk (graph : Graph) (chooses : LogicNode → Bool) (passed : List NodeId) (id : NodeId) :
    List NodeId × Stop :=
  match _found : graph.node? id with
  | none => (passed, .missing id)
  | some (.logic node) =>
    if _fresh : passed.contains id then (passed ++ [id], .cycle id)
    else match node.link (chooses node) with
      | some next => graph.walk chooses (passed ++ [id]) next
      | none => (passed ++ [id], .dangling id (chooses node))
  | some (.choice node) => (passed, .choice id node)
  | some (.input node) => (passed, .input id node)
  | some (.death message) => (passed, .ending .death message)
  | some (.win message) => (passed, .ending .win message)
termination_by (graph.namesOutside passed).length
decreasing_by
  exact length_namesOutside_lt (mem_names_of_node? _found) (Bool.eq_false_iff.mpr _fresh)

end Graph

end Storyline
