import Storyline.Proofs.Story.Effect
import Storyline.Proofs.Story.Text
import Storyline.Story.Node.Document

/-!
# Nodes as they are written

A node of any kind is written as one flat record, in which everything absent or empty is
left out. The record is the node again if no link is the empty name, which a reader takes
for no link, and if no effect sets anything to a floating-point number.
-/

namespace Storyline

open Json

/-- A link is read back unless it is the empty name. A graph that was built in memory may hold such
a link, and the link is then lost. -/
theorem takes_link {id : NodeId} (named : id ≠ "") : linkReader.Takes (.text id) (some id) := by
  intro level shallow
  have kept : (!id.isEmpty) = true := by simpa using named
  have found := Reader.takes_optional (Reader.takes_text id) (by simp) level shallow
  rw [linkReader, found]
  simp [Except.map, kept]

namespace Choice

/-- A choice is read back if its link has a name and its effects are exact. Nothing is assumed of
its guard, of its texts or of the minutes that it costs.

Proof: the members are added in the order they are written in. Each fills one field, if it is
written at all, and a member that is left out stands for what its field holds at the start. -/
theorem takes_toJson {choice : Choice} (named : ∀ id, choice.next = some id → id ≠ "")
    (exact : ∀ effect ∈ choice.effects, effect.setsReal = false) :
    reader.Takes choice.toJson choice := by
  have text := Reader.fills_member "text" (Reader.takes_text choice.text)
    (rfl : fields.find? _ = some _) rfl rfl {}
  have next := text.ifPresent "next" choice.next
    (fun id present => takes_link (named id present)) rfl rfl (by decide)
  have condition := next.ifPresent "condition" choice.condition
    (fun condition _ => condition.takes_some) rfl rfl (by decide)
  have effects := condition.unlessEmpty "effects" choice.effects
    (fun effect member => Effect.takes_toJson (exact effect member)) rfl rfl (by decide)
  have timeCost := effects.ifPresent "timeCost" choice.timeCost
    (fun cost _ => Reader.takes_someWord cost) rfl rfl (by decide)
  have deathMessage := timeCost.ifPresent "deathMessage" choice.deathMessage
    (fun message _ => Reader.takes_someText message) rfl rfl (by decide)
  have winMessage := deathMessage.ifPresent "winMessage" choice.winMessage
    (fun message _ => Reader.takes_someText message) rfl rfl (by decide)
  exact Reader.takes_record winMessage (by simp [fields, Field.byDefault])

/-- A choice is written without floating-point numbers if its effects are exact. Its link and its
guard hold no numbers, and the minutes that it costs are an integer. -/
theorem exact_toJson {choice : Choice} (exact : ∀ effect ∈ choice.effects, effect.setsReal = false) :
    choice.toJson.Exact := by
  refine .object ?_
  simp only [List.forall_mem_append, List.forall_mem_cons]
  refine ⟨⟨⟨⟨⟨⟨.text _, ?_⟩, ?_⟩, ?_⟩, ?_⟩, ?_⟩, ?_⟩
  · exact exact_memberIfPresent fun id => .text id
  · exact exact_memberIfPresent fun condition => condition.exact_toJson
  · exact exact_memberUnlessEmpty fun effect member => Effect.exact_toJson (exact effect member)
  · exact exact_memberIfPresent fun cost => exact_ofInt cost
  · exact exact_memberIfPresent fun message => .text message
  · exact exact_memberIfPresent fun message => .text message

end Choice

/-- The shared part of a scene is written without floating-point numbers if its effects are exact.
The time that a scene is set to is an integer. -/
theorem SceneInfo.exact_toMembers {scene : SceneInfo}
    (exact : ∀ effect ∈ scene.effects, effect.setsReal = false) :
    ∀ member ∈ scene.toMembers, member.2.Exact := by
  simp only [toMembers, List.forall_mem_append]
  refine ⟨⟨⟨?_, ?_⟩, ?_⟩, ?_⟩
  · exact exact_memberUnlessEmpty fun effect member => Effect.exact_toJson (exact effect member)
  · exact exact_memberIfPresent fun place => .text place
  · exact exact_memberIfPresent fun name => .text name
  · exact exact_memberIfPresent fun time => exact_ofInt time

/-- A node whose links all have names and whose effects are exact. A graph whose nodes are all so
is written without loss. -/
structure Node.IsPlain (node : Node) : Prop where
  named : ∀ link ∈ node.edges, link ≠ ""
  exact : ∀ effect ∈ node.effects, effect.setsReal = false

namespace NodeRecord

/-- The shared part of a scene fills a record without one. The members of a scene stand among those
of its node, so they fill the record that the node is read into and not one of their own. -/
theorem fills_scene {record : NodeRecord} (blank : record.scene = {}) (scene : SceneInfo)
    (exact : ∀ effect ∈ scene.effects, effect.setsReal = false) :
    Reader.Fills fields ["effects", "location", "image", "timeSet"] scene.toMembers record
      { record with scene := scene } := by
  -- With its parts named, a record whose scene is replaced by a blank one is the same record.
  obtain ⟨kind, text, choices, next, variableName, condition, nextTrue, nextFalse, deathMessage,
    winMessage, info⟩ := record
  cases blank
  have nothing : Reader.Fills fields [] [] _ _ := Reader.fills_nil [] ⟨kind, text, choices, next,
    variableName, condition, nextTrue, nextFalse, deathMessage, winMessage, {}⟩
  have effects := nothing.unlessEmpty "effects" scene.effects
    (fun effect member => Effect.takes_toJson (exact effect member)) rfl rfl (by decide)
  have location := effects.ifPresent "location" scene.location
    (fun place _ => Reader.takes_someText place) rfl rfl (by decide)
  have image := location.ifPresent "image" scene.image
    (fun name _ => Reader.takes_someText name) rfl rfl (by decide)
  exact image.ifPresent "timeSet" scene.timeSet (fun time _ => Reader.takes_someWord time) rfl rfl
    (by decide)

/-- The type of a node fills a record. It is the first member of every node. -/
theorem fills_kind (kind : String) :
    Reader.Fills fields ["type"] [("type", .text kind)] {} { kind := some kind } := by
  have takes := Reader.takes_someText kind
  exact Reader.fills_member "type" takes (rfl : fields.find? _ = some _) rfl rfl {}

end NodeRecord

namespace Node

open NodeRecord

/-- A node is read from the members that fill its record. What its type makes of the record is the
node; no member is needed, since each may be left out. -/
theorem takes_record {names : List String} {members : List (String × Value)} {record : NodeRecord}
    (fills : Reader.Fills fields names members {} record) :
    reader.Takes (.object members) record.toNode := by
  intro level shallow
  rw [reader, Reader.takes_record fills (by simp [fields, Field.byDefault]) level shallow]
  rfl

/-- A scene with choices is read back. The links and effects of its choices count among its own.

Proof: type, text, choices, link and scene are added one after another; the names they go by are
pairwise different, so no member is taken for a second one of another's name. -/
theorem takes_choice {node : ChoiceNode} (plain : (choice node).IsPlain) :
    reader.Takes (choice node).toJson (choice node) := by
  have offered : ∀ option ∈ node.choices, Choice.reader.Takes option.toJson option :=
    fun option member => Choice.takes_toJson
      (fun id present => plain.named id
        (List.mem_append_left _ (List.mem_filterMap.mpr ⟨option, member, present⟩)))
      (fun effect listed => plain.exact effect
        (List.mem_append_right _ (List.mem_flatMap.mpr ⟨option, member, listed⟩)))
  have text := Reader.fills_member "text" node.text.takes_some (rfl : fields.find? _ = some _) rfl rfl
    { kind := some "choice" }
  have choices := text.unlessEmpty "choices" node.choices offered rfl rfl (by decide)
  have next := choices.ifPresent "next" node.next
    (fun id present => takes_link (plain.named id (by simp [edges, present]))) rfl rfl (by decide)
  have scene := next.append
    (fills_scene rfl node.scene fun effect listed => plain.exact effect (List.mem_append_left _ listed))
    (by decide)
  exact takes_record ((fills_kind "choice").append scene (by decide))

/-- A scene that asks for a text is read back. The name of the variable may be missing, and is
missing again then. -/
theorem takes_input {node : InputNode} (plain : (input node).IsPlain) :
    reader.Takes (input node).toJson (input node) := by
  have text := Reader.fills_member "text" node.text.takes_some (rfl : fields.find? _ = some _) rfl rfl
    { kind := some "input" }
  have next := text.ifPresent "next" node.next
    (fun id present => takes_link (plain.named id (by simp [edges, present]))) rfl rfl (by decide)
  have variableName := next.ifPresent "variable" node.variableName
    (fun name _ => Reader.takes_someText name) rfl rfl (by decide)
  have scene := variableName.append
    (fills_scene rfl node.scene fun effect listed => plain.exact effect listed) (by decide)
  exact takes_record ((fills_kind "input").append scene (by decide))

/-- A branch is read back. It has no effects, so only its two links could be lost. -/
theorem takes_logic {node : LogicNode} (plain : (logic node).IsPlain) :
    reader.Takes (logic node).toJson (logic node) := by
  have condition := (fills_kind "logic").ifPresent "condition" node.condition
    (fun condition _ => condition.takes_some) rfl rfl (by decide)
  have nextTrue := condition.ifPresent "nextTrue" node.nextTrue
    (fun id present => takes_link (plain.named id (by simp [edges, present]))) rfl rfl (by decide)
  have nextFalse := nextTrue.ifPresent "nextFalse" node.nextFalse
    (fun id present => takes_link (plain.named id (by simp [edges, present]))) rfl rfl (by decide)
  exact takes_record nextFalse

/-- A node is read back if its links have names and its effects are exact. Endings have no links
and no effects, so they are always read back.

Proof: by cases of its type, which the first member tells; each type has its own members
behind it. -/
theorem takes_toJson {node : Node} (plain : node.IsPlain) : reader.Takes node.toJson node := by
  cases node with
  | choice node => exact takes_choice plain
  | input node => exact takes_input plain
  | logic node => exact takes_logic plain
  | death message =>
    exact takes_record ((fills_kind "death").ifPresent "deathMessage" message
      (fun message _ => Reader.takes_someText message) rfl rfl (by decide))
  | win message =>
    exact takes_record ((fills_kind "win").ifPresent "winMessage" message
      (fun message _ => Reader.takes_someText message) rfl rfl (by decide))

/-- A node is written without floating-point numbers if its effects are exact. Its links are not
looked at here: the empty name is a text like any other. -/
theorem exact_toJson {node : Node} (exact : ∀ effect ∈ node.effects, effect.setsReal = false) :
    node.toJson.Exact := by
  refine .object (List.forall_mem_cons.mpr ⟨.text _, ?_⟩)
  cases node with
  | choice node =>
    simp only [toMembers, List.forall_mem_append, List.forall_mem_cons]
    refine ⟨⟨⟨node.text.exact_toJson, ?_⟩, ?_⟩, ?_⟩
    · exact exact_memberUnlessEmpty fun option member => Choice.exact_toJson fun effect listed =>
        exact effect (List.mem_append_right _ (List.mem_flatMap.mpr ⟨option, member, listed⟩))
    · exact exact_memberIfPresent fun id => .text id
    · exact SceneInfo.exact_toMembers fun effect listed => exact effect (List.mem_append_left _ listed)
  | input node =>
    simp only [toMembers, List.forall_mem_append, List.forall_mem_cons]
    refine ⟨⟨⟨node.text.exact_toJson, ?_⟩, ?_⟩, SceneInfo.exact_toMembers exact⟩
    · exact exact_memberIfPresent fun id => .text id
    · exact exact_memberIfPresent fun name => .text name
  | logic node =>
    simp only [toMembers, List.forall_mem_append]
    refine ⟨⟨?_, ?_⟩, ?_⟩
    · exact exact_memberIfPresent fun condition => condition.exact_toJson
    · exact exact_memberIfPresent fun id => .text id
    · exact exact_memberIfPresent fun id => .text id
  | death message => exact exact_memberIfPresent fun message => .text message
  | win message => exact exact_memberIfPresent fun message => .text message

end Node

end Storyline
