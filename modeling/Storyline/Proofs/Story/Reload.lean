import Storyline.Proofs.Story.Graph
import Storyline.Proofs.Story.Nesting

/-!
# Stories that are loaded, saved and loaded again

A story that was loaded is saved and loaded again as the same story, with one exception. A
conjunction or a disjunction whose list was left out is saved with an empty list, one level
further down. Where it stood on the last level that readers enter, they refuse the list.

Apart from its guards a story has few levels. So what is saved is read again exactly if its
guards are within the levels that readers enter.
-/

namespace Storyline

open Json

/-! ## Stories whose guards are shallow -/

section Members

variable {α : Type} {level : Nat} {name : String} {write : α → Value}

/-- A thing that is there has its member. Its name is the one that it is asked for. -/
theorem mem_memberIfPresent {thing : Option α} {present : α} (same : thing = some present) :
    (name, write present) ∈ memberIfPresent name write thing := by
  rw [same]
  exact List.mem_cons_self

/-- Things that are there have their member. They stand in one array, whatever their number. -/
theorem mem_memberUnlessEmpty {things : List α} {thing : α} (listed : thing ∈ things) :
    (name, Value.ofList write things) ∈ memberUnlessEmpty name write things := by
  cases things with
  | nil => cases listed
  | cons first rest => exact List.mem_cons_self

/-- A member that may be missing is as shallow as its thing. A thing that is missing has no member,
so nothing is asked of it. -/
theorem shallow_memberIfPresent {thing : Option α}
    (each : ∀ present, thing = some present → (write present).Shallow level) :
    ∀ member ∈ memberIfPresent name write thing, member.2.Shallow level := by
  cases thing with
  | none => exact List.forall_mem_nil _
  | some present => exact List.forall_mem_singleton.mpr (each present rfl)

/-- A member that holds things unless there are none is as shallow as the things. The array is one
level of its own. -/
theorem shallow_memberUnlessEmpty (entered : level + 1 ≤ 127) {things : List α}
    (each : ∀ thing ∈ things, (write thing).Shallow (level + 1)) :
    ∀ member ∈ memberUnlessEmpty name write things, member.2.Shallow level := by
  unfold memberUnlessEmpty
  split
  · exact List.forall_mem_nil _
  · refine List.forall_mem_singleton.mpr (Value.shallow_array entered fun value listed => ?_)
    obtain ⟨thing, given, rfl⟩ := List.mem_map.mp listed
    exact each thing given

end Members

variable {level : Nat}

/-- An effect is written as an object of scalars. No effect holds another, so it needs no more than
its own object. -/
theorem Effect.shallow_toJson (entered : level + 1 ≤ 127) (effect : Effect) :
    effect.toJson.Shallow level := by
  have flat : effect.toJson.depth = 1 := by
    cases effect with
    | setFlag flag value => cases value <;> rfl
    | setValue property value => cases value <;> rfl
    | _ => rfl
  rw [Value.Shallow, flat]
  exact entered

/-- A text is shallow if its guards are. A variant needs two levels besides: the array and its
object. -/
theorem SceneText.shallow_toJson (entered : level + 2 ≤ 127) {text : SceneText}
    (guards : ∀ condition ∈ text.conditions, condition.toJson.Shallow (level + 2)) :
    text.toJson.Shallow level := by
  cases text with
  | plain text => exact Nat.le_of_add_right_le entered
  | variants options =>
    refine Value.shallow_array (by omega) fun value listed => ?_
    obtain ⟨variant, given, rfl⟩ := List.mem_map.mp listed
    refine Value.shallow_object entered (List.forall_mem_cons.mpr ⟨entered, ?_⟩)
    refine shallow_memberIfPresent fun condition guarded => ?_
    exact guards condition (List.mem_filterMap.mpr ⟨variant, given, guarded⟩)

/-- A choice is shallow if its guard is. It needs three levels for its effects, and of the guard
only what is assumed. -/
theorem Choice.shallow_toJson (entered : level + 3 ≤ 127) {choice : Choice}
    (guards : ∀ condition, choice.condition = some condition →
      condition.toJson.Shallow (level + 1)) : choice.toJson.Shallow level := by
  have scalar : level + 1 ≤ 127 := by omega
  refine Value.shallow_object scalar ?_
  simp only [List.forall_mem_append, List.forall_mem_cons]
  refine ⟨⟨⟨⟨⟨⟨scalar, ?_⟩, ?_⟩, ?_⟩, ?_⟩, ?_⟩, ?_⟩
  · exact shallow_memberIfPresent fun _ _ => scalar
  · exact shallow_memberIfPresent guards
  · exact shallow_memberUnlessEmpty (by omega) fun effect _ => effect.shallow_toJson entered
  · exact shallow_memberIfPresent fun _ _ => scalar
  · exact shallow_memberIfPresent fun _ _ => scalar
  · exact shallow_memberIfPresent fun _ _ => scalar

/-- The shared part of a scene has few levels. Its effects are the only members with a level of
their own. -/
theorem SceneInfo.shallow_toMembers (entered : level + 2 ≤ 127) (scene : SceneInfo) :
    ∀ member ∈ scene.toMembers, member.2.Shallow level := by
  have scalar : level ≤ 127 := by omega
  simp only [toMembers, List.forall_mem_append]
  refine ⟨⟨⟨?_, ?_⟩, ?_⟩, ?_⟩
  · exact shallow_memberUnlessEmpty (by omega) fun effect _ => effect.shallow_toJson entered
  · exact shallow_memberIfPresent fun _ _ => scalar
  · exact shallow_memberIfPresent fun _ _ => scalar
  · exact shallow_memberIfPresent fun _ _ => scalar

/-- The guards of a node lie within the levels that readers enter, given the level of the node's
members. Nothing is said of its other members, which need no more than five levels. -/
def Node.GuardsShallow (level : Nat) (node : Node) : Prop :=
  ∀ condition ∈ node.conditions, condition.toJson.Shallow (node.guardLevel level)

/-- A node is shallow if its guards are.

Proof: by cases of the type. The members are scalars, effects, texts and choices, each with levels
of its own that are few; a guard is on the level that its place in the node gives it. -/
theorem Node.shallow_toJson (entered : level + 5 ≤ 127) {node : Node}
    (guards : node.GuardsShallow (level + 1)) : node.toJson.Shallow level := by
  have scalar : level + 1 ≤ 127 := by omega
  refine Value.shallow_object scalar (List.forall_mem_cons.mpr ⟨scalar, ?_⟩)
  cases node with
  | choice node =>
    simp only [toMembers, List.forall_mem_append, List.forall_mem_cons]
    refine ⟨⟨⟨?_, ?_⟩, ?_⟩, node.scene.shallow_toMembers (by omega)⟩
    · exact SceneText.shallow_toJson (by omega) fun condition listed =>
        guards condition (List.mem_append_left _ listed)
    · refine shallow_memberUnlessEmpty (by omega) fun choice listed => ?_
      refine Choice.shallow_toJson entered fun condition guarded => ?_
      exact guards condition
        (List.mem_append_right _ (List.mem_filterMap.mpr ⟨choice, listed, guarded⟩))
    · exact shallow_memberIfPresent fun _ _ => scalar
  | input node =>
    simp only [toMembers, List.forall_mem_append, List.forall_mem_cons]
    refine ⟨⟨⟨?_, ?_⟩, ?_⟩, node.scene.shallow_toMembers (by omega)⟩
    · exact SceneText.shallow_toJson (by omega) guards
    · exact shallow_memberIfPresent fun _ _ => scalar
    · exact shallow_memberIfPresent fun _ _ => scalar
  | logic node =>
    simp only [toMembers, List.forall_mem_append]
    refine ⟨⟨?_, ?_⟩, ?_⟩
    · exact shallow_memberIfPresent fun condition guarded =>
        guards condition (Option.mem_toList.mpr guarded)
    · exact shallow_memberIfPresent fun _ _ => scalar
    · exact shallow_memberIfPresent fun _ _ => scalar
  | death message => exact shallow_memberIfPresent fun _ _ => scalar
  | win message => exact shallow_memberIfPresent fun _ _ => scalar

/-- A graph is within the levels that readers enter if the guards of its nodes are. So only guards
can make a story too deep to be read. -/
theorem Graph.depth_toJson_le {graph : Graph}
    (guards : ∀ entry ∈ graph.nodes.entries, entry.2.GuardsShallow 3) :
    graph.toJson.depth ≤ 127 := by
  have shallow : graph.toJson.Shallow 0 := by
    have scalar : 0 + 1 ≤ 127 := by decide
    refine Value.shallow_object scalar ?_
    simp only [List.forall_mem_append, List.forall_mem_cons]
    refine ⟨?_, scalar, ?_, List.forall_mem_nil _⟩
    · exact shallow_memberIfPresent fun _ _ => scalar
    · refine Value.shallow_object (by decide) fun member listed => ?_
      obtain ⟨entry, given, rfl⟩ := List.mem_map.mp listed
      exact Node.shallow_toJson (by decide) (guards entry given)
  rwa [Value.Shallow, Nat.zero_add] at shallow

/-! ## Guards of stories that are read -/

/-- Where a written condition is read, it is shallow. A reader of tagged values looks at all of the
value, and refuses one that is too deep. -/
theorem Condition.shallow_of_read {condition other : Condition}
    (read : reader (condition.toJson.outline level) = .ok other) : condition.toJson.Shallow level := by
  obtain ⟨kind, members, tagged, untagged⟩ := condition.toJson_eq_tagged
  rw [tagged] at read ⊢
  obtain ⟨found, taken, -⟩ := ok_of_bind read
  exact Reader.shallow_of_tagged untagged taken

/-- Where a written guard is read, it is shallow. It is never null, so a reader of guards that may
be missing reads it as a guard. -/
theorem Condition.shallow_of_optional {condition : Condition} {other : Option Condition}
    (read : Reader.optional reader (condition.toJson.outline level) = .ok other) :
    condition.toJson.Shallow level := by
  have something : (reader (condition.toJson.outline level)).map some = .ok other := by
    obtain ⟨kind, members, tagged, -⟩ := condition.toJson_eq_tagged
    rw [tagged] at read ⊢
    exact read
  obtain ⟨found, taken, -⟩ := ok_of_map something
  exact shallow_of_read taken

/-- Where a written text is read, its guards are shallow. The reader sees the whole text before it
reads any part, so a text that is read is shallow with all that is in it. -/
theorem SceneText.guards_of_read (entered : level ≤ 127) {text : SceneText} {other : Option SceneText}
    (read : Reader.optional reader (text.toJson.outline level) = .ok other) :
    ∀ condition ∈ text.conditions, condition.toJson.Shallow (level + 2) := by
  intro condition listed
  cases text with
  | plain text => cases listed
  | variants options =>
    obtain ⟨found, taken, -⟩ := ok_of_map read
    obtain ⟨value, whole, -⟩ := ok_of_bind taken
    have shallow := Outline.shallow_of_complete_outline entered (ok_of_mapError whole)
    obtain ⟨variant, given, guarded⟩ := List.mem_filterMap.mp listed
    exact (shallow.item (List.mem_map_of_mem given)).member
      (List.mem_cons_of_mem _ (mem_memberIfPresent guarded))

/-- Where a written choice is read, its guard is shallow. What else stands in the choice may be
anything. -/
theorem Choice.guard_of_read {choice other : Choice}
    (read : reader (choice.toJson.outline level) = .ok other) {condition : Condition}
    (guarded : choice.condition = some condition) : condition.toJson.Shallow (level + 1) := by
  have member : ("condition", condition.toJson) ∈
      memberIfPresent "condition" Condition.toJson choice.condition := mem_memberIfPresent guarded
  obtain ⟨-, set, taken⟩ := Reader.read_of_record read
    (by simp [member] : ("condition", condition.toJson) ∈ _) rfl
  obtain ⟨found, here, -⟩ := ok_of_map taken
  exact Condition.shallow_of_optional here

/-- Where a written node is read, its guards are shallow.

Proof: by cases of the type. The member that holds the guard is among those written, so its field
has been read, and its reader says that the guard is shallow. -/
theorem Node.guards_of_read {node other : Node} (read : reader (node.toJson.outline level) = .ok other) :
    node.GuardsShallow (level + 1) := by
  obtain ⟨record, found, -⟩ := ok_of_map read
  cases node with
  | choice node =>
    refine List.forall_mem_append.mpr ⟨?_, fun condition listed => ?_⟩
    · obtain ⟨entered, set, taken⟩ := Reader.read_of_record found
        (by simp [toMembers] : ("text", node.text.toJson) ∈ _) rfl
      obtain ⟨text, here, -⟩ := ok_of_map taken
      exact SceneText.guards_of_read entered here
    · obtain ⟨choice, given, guarded⟩ := List.mem_filterMap.mp listed
      have member : ("choices", Value.ofList Choice.toJson node.choices) ∈
          memberUnlessEmpty "choices" Choice.toJson node.choices := mem_memberUnlessEmpty given
      obtain ⟨-, set, taken⟩ := Reader.read_of_record found
        (by simp [toMembers, member] : ("choices", Value.ofList Choice.toJson node.choices) ∈ _) rfl
      obtain ⟨choices, here, -⟩ := ok_of_map taken
      obtain ⟨other, inside⟩ := Reader.read_of_list here given
      exact Choice.guard_of_read inside guarded
  | input node =>
    obtain ⟨entered, set, taken⟩ := Reader.read_of_record found
      (by simp [toMembers] : ("text", node.text.toJson) ∈ _) rfl
    obtain ⟨text, here, -⟩ := ok_of_map taken
    exact SceneText.guards_of_read entered here
  | logic node =>
    intro condition listed
    have member : ("condition", condition.toJson) ∈
        memberIfPresent "condition" Condition.toJson node.condition :=
      mem_memberIfPresent (Option.mem_toList.mp listed)
    obtain ⟨-, set, taken⟩ := Reader.read_of_record found
      (by simp [toMembers, member] : ("condition", condition.toJson) ∈ _) rfl
    obtain ⟨guard, here, -⟩ := ok_of_map taken
    exact Condition.shallow_of_optional here
  | death message => exact List.forall_mem_nil _
  | win message => exact List.forall_mem_nil _

/-- Where a written graph is read, the guards of its nodes are shallow. The whole table is read, so
the guards of every node are, whatever can be reached. -/
theorem Graph.guards_of_read {graph other : Graph} (read : reader (graph.toJson.outline 0) = .ok other) :
    ∀ entry ∈ graph.nodes.entries, entry.2.GuardsShallow 3 := by
  intro entry listed
  obtain ⟨-, set, taken⟩ := Reader.read_of_record read
    (List.mem_append_right _ (List.mem_cons_of_mem _ List.mem_cons_self)) rfl
  obtain ⟨nodes, here, -⟩ := ok_of_map taken
  have written : (entry.1, entry.2.toJson) ∈
      graph.nodes.entries.map fun entry => (entry.1, entry.2.toJson) :=
    List.mem_map.mpr ⟨entry, listed, rfl⟩
  obtain ⟨node, inside⟩ := Reader.read_of_table here written
  exact Node.guards_of_read inside

namespace Graph

/-- Where a graph was saved and is read, the guards of its nodes are shallow. It need not be read
as the same graph for this. -/
theorem guards_of_ofText {graph other : Graph}
    (exact : ∀ entry ∈ graph.nodes.entries, ∀ effect ∈ entry.2.effects, effect.setsReal = false)
    (read : ofText graph.toText = .ok other) :
    ∀ entry ∈ graph.nodes.entries, entry.2.GuardsShallow 3 := by
  have written : graph.toJson.Exact := exact_toJson fun entry listed =>
    Node.exact_toJson (exact entry listed)
  rw [ofText, toText, Value.indented, Reader.document_write spaced_indented written] at read
  exact guards_of_read read

/-- A story that was loaded and sets nothing to a floating-point number is saved and loaded again
exactly if readers enter every guard in which a conjunction or a disjunction of nothing stands.
What is loaded again is always the same story. The guards that readers do not enter are one level
too deep.

Of the text nothing is assumed but that it was loaded; fields in any order, tags in any place and
parts left out are all allowed.

Proof: every guard that was read fits where it stood, that is, it is shallow unless a list of
nothing stands in it. If the guards that have one are shallow, too, the whole story is within the
levels that readers enter, and comes back by the round trip of its parts; its links have names,
since no link that is read is empty. If it comes back at all, its guards were read, and are
shallow. -/
theorem loaded_story_reloads_iff {text : String} {graph : Graph} (loaded : ofText text = .ok graph)
    (exact : ∀ entry ∈ graph.nodes.entries, ∀ effect ∈ entry.2.effects, effect.setsReal = false) :
    (ofText graph.toText = .ok graph ↔
        ∀ entry ∈ graph.nodes.entries, ∀ condition ∈ entry.2.conditions,
          condition.hasEmptyList = true → condition.toJson.Shallow (entry.2.guardLevel 3)) ∧
      (∀ other, ofText graph.toText = .ok other → other = graph) ∧
      ∀ entry ∈ graph.nodes.entries, ∀ condition ∈ entry.2.conditions,
        entry.2.guardLevel 3 + condition.toJson.depth ≤ 128 := by
  have fits := fits_of_ofText loaded
  have again (guards : ∀ entry ∈ graph.nodes.entries, entry.2.GuardsShallow 3) :
      ofText graph.toText = .ok graph := by
    have taken : reader.Takes graph.toJson graph := takes_toJson fun entry listed =>
      Node.takes_toJson ⟨(fits entry listed).named, exact entry listed⟩
    have written : graph.toJson.Exact := exact_toJson fun entry listed =>
      Node.exact_toJson (exact entry listed)
    exact Reader.document_indented taken written (depth_toJson_le guards)
  refine ⟨⟨fun read entry listed condition guard _ =>
      guards_of_ofText exact read entry listed condition guard,
    fun guards => again fun entry listed condition guard => ?_⟩, fun other read => ?_,
    fun entry listed condition guard => ?_⟩
  · have deep := (fits entry listed).conditions condition guard
    unfold Condition.Fits Condition.excess at deep
    cases empty : condition.hasEmptyList with
    | true => exact guards entry listed condition guard empty
    | false =>
      -- Without a list of nothing a guard is written no deeper than it was read.
      rw [empty] at deep
      exact deep
  · exact Except.ok.inj (read.symm.trans (again (guards_of_ofText exact read)))
  · have deep := (fits entry listed).conditions condition guard
    have atMost : condition.excess ≤ 1 := Bool.toNat_le _
    unfold Condition.Fits at deep
    omega

/-! ### A gate behind negations -/

/-- So many negations of a conjunction of nothing. They are nested in one another, so the formula
is as deep as there are negations. -/
def negations : Nat → Condition
  | 0 => .all []
  | count + 1 => .negation (some (negations count))

/-- The same condition with the list of the conjunction left out. It is read as the same formula,
and has one level less. -/
def bareNegations : Nat → Value
  | 0 => .object [("type", .text Condition.Kind.all.tag)]
  | count + 1 =>
    .object [("type", .text Condition.Kind.negation.tag), ("condition", bareNegations count)]

/-- A story that is nothing but a gate. It has no start and no links, which readers do not
ask for. -/
def gate (count : Nat) : Graph :=
  { nodes := Table.empty.insert "gate" (.logic { condition := some (negations count) }) }

/-- The node of the gate with the list left out. Its guard is the only thing in it that is deep. -/
def bareNode (count : Nat) : Value :=
  .object [("type", .text "logic"), ("condition", bareNegations count)]

/-- The text of the story with the list left out. It leaves out the start as well, which is the
empty name then. -/
def gateText (count : Nat) : String :=
  Value.compact (.object [("nodes", .object [("gate", bareNode count)])])

variable {count : Nat}

/-- The condition is read from memory with its list left out.

Proof: by induction on the negations. Each negation reads what it holds, which is an object and
therefore not null; the innermost conjunction has no member, so its list is empty. -/
theorem ofValue_bareNegations (count : Nat) :
    Condition.ofValue (bareNegations count) = .ok (negations count) := by
  induction count with
  | zero => exact (Condition.ofValue_object .all (List.forall_mem_nil _)).trans rfl
  | succ count inductionHypothesis =>
    -- What may be null is looked at before it is read.
    obtain ⟨members, same⟩ : ∃ members, bareNegations count = .object members := by
      cases count <;> exact ⟨_, rfl⟩
    rw [bareNegations, Condition.ofValue_object .negation (by simp)]
    rw [same] at inductionHypothesis ⊢
    simp only [Condition.assemble, Condition.childIn, if_true, inductionHypothesis]
    rfl

/-- The condition is as deep as it has negations, and one level for the conjunction. The
conjunction is an object without a member that is deep. -/
theorem depth_bareNegations (count : Nat) : (bareNegations count).depth = count + 1 := by
  induction count with
  | zero => rfl
  | succ count inductionHypothesis =>
    simp [bareNegations, Value.depth, membersDepth, inductionHypothesis]

/-- The condition that was read is written one level deeper. The conjunction holds an empty array
now, which is a level. -/
theorem depth_negations (count : Nat) : (negations count).toJson.depth = count + 2 := by
  induction count with
  | zero => rfl
  | succ count inductionHypothesis =>
    simp [negations, Condition.toJson, Value.depth, membersDepth, inductionHypothesis]

/-- The condition is read from a document with its list left out. It is an object, and so is not
taken for a guard that is missing. -/
theorem takes_bareNegations (count : Nat) :
    (Reader.optional Condition.reader).Takes (bareNegations count) (some (negations count)) := by
  have holds := ofValue_bareNegations count
  cases count with
  | zero =>
    have takes := Condition.takes_object .all (List.forall_mem_nil _) holds
    exact Reader.takes_optional takes fun same => by cases same
  | succ count =>
    have takes := Condition.takes_object .negation (by simp) holds
    exact Reader.takes_optional takes fun same => by cases same

/-- The condition is written without numbers. So the digits of a number do not come into it. -/
theorem exact_bareNegations (count : Nat) : (bareNegations count).Exact := by
  induction count with
  | zero => exact .object (by simp [Value.Exact.text])
  | succ count inductionHypothesis => exact .object (by simp [Value.Exact.text, inductionHypothesis])

/-- The gate sets nothing to a floating-point number. It has no effects at all. -/
theorem exact_gate (count : Nat) : ∀ entry ∈ (gate count).nodes.entries, ∀ effect ∈ entry.2.effects,
    effect.setsReal = false := by
  refine List.forall_mem_singleton.mpr fun effect listed => ?_
  cases listed

/-- The gate is loaded as long as readers enter its conjunction. The story, its nodes, the gate and
123 negations leave one level for the conjunction.

Proof: the text holds the story, member by member, and is no deeper than readers enter. -/
theorem ofText_gateText (entered : count ≤ 123) : ofText (gateText count) = .ok (gate count) := by
  have condition : Reader.Fills NodeRecord.fields ["condition"] [("condition", bareNegations count)]
      { kind := some "logic" } { kind := some "logic", condition := some (negations count) } :=
    Reader.fills_member "condition" (takes_bareNegations count) (rfl : NodeRecord.fields.find? _ = some _)
      rfl rfl _
  have node := Node.takes_record ((NodeRecord.fills_kind "logic").append condition (by decide))
  have each : ∀ entry ∈ (gate count).nodes.entries, Node.reader.Takes (bareNode count) entry.2 :=
    List.forall_mem_singleton.mpr node
  have nodes : (Reader.table Node.reader).Takes (.object [("gate", bareNode count)])
      (gate count).nodes := @Reader.takes_table _ _ (fun _ => bareNode count) _ each
  have story : reader.Takes (.object [("nodes", .object [("gate", bareNode count)])]) (gate count) :=
    Reader.takes_record (Reader.fills_member "nodes" nodes (rfl : parts.find? _ = some _) rfl rfl {})
      (by simp [parts, Field.byDefault])
  have exact : (Value.object [("nodes", .object [("gate", bareNode count)])]).Exact := by
    refine .object (List.forall_mem_singleton.mpr (.object (List.forall_mem_singleton.mpr ?_)))
    exact .object (by simp [Value.Exact.text, exact_bareNegations])
  rw [ofText, gateText, Value.compact, Reader.document_write spaced_compact exact]
  refine story 0 ?_
  simp only [Value.Shallow, bareNode, Value.depth, membersDepth, depth_bareNegations]
  omega

/-- The gate behind 123 negations is loaded, and refused where it was saved: its list, left out
when it was loaded, is written on a level that readers do not enter.

Proof: where it was read again, its guard would be shallow, and the guard is written on 125 levels
below the third. -/
theorem gate_not_loaded_as_saved :
    ofText (gateText 123) = .ok (gate 123) ∧
      (∀ entry ∈ (gate 123).nodes.entries, ∀ effect ∈ entry.2.effects, effect.setsReal = false) ∧
      ∀ other, ofText (gate 123).toText ≠ .ok other := by
  refine ⟨ofText_gateText (by decide), exact_gate 123, fun other read => ?_⟩
  have guards := guards_of_ofText (exact_gate 123) read
    ("gate", .logic { condition := some (negations 123) }) List.mem_cons_self
  have shallow := guards (negations 123) List.mem_cons_self
  rw [Value.Shallow, depth_negations] at shallow
  exact absurd shallow (by decide)

/-- The gate behind one negation less is saved and loaded again, although its list was left out:
the list is written on the last level that readers enter. One negation more, and the list is
refused. -/
theorem gate_loaded_as_saved :
    ofText (gateText 122) = .ok (gate 122) ∧
      (∀ entry ∈ (gate 122).nodes.entries, ∀ effect ∈ entry.2.effects, effect.setsReal = false) ∧
      ofText (gate 122).toText = .ok (gate 122) := by
  have loaded : ofText (gateText 122) = .ok (gate 122) := ofText_gateText (by decide)
  refine ⟨loaded, exact_gate 122, (loaded_story_reloads_iff loaded (exact_gate 122)).1.mpr ?_⟩
  refine List.forall_mem_singleton.mpr (List.forall_mem_singleton.mpr fun _ => ?_)
  rw [Value.Shallow, depth_negations]
  decide

end Graph

end Storyline
