import Storyline.Proofs.Inspection.Tally
import Storyline.Story.Node

/-!
# Places in a node

A condition stands with a variant of the text, with a choice, or at a branch, and each of its
parts is reached by indices through the operands. An effect stands on entry or with a choice.
So conditions, their mistakes and effects have places, also where they are equal.

The conditions and effects that a node lists are one for each place, and so are the mistakes
that a condition lists.
-/

namespace Storyline

/-- What a condition is put together of. -/
def Condition.operands : Condition → List Condition
  | .all conditions | .any conditions => conditions
  | .negation operand => operand.toList
  | .hasFlag _ _ | .hasItem _ | .unknown => []

/-- A part of a condition is a mistake. The indices lead to it through the operands. -/
inductive Condition.MistakenAt : Condition → List Nat → Issue → Prop where
  | unknown : MistakenAt .unknown [] .unknownType
  | emptyNegation : MistakenAt (.negation none) [] .emptyNegation
  | inside {condition operand : Condition} {index : Nat} {path : List Nat} {issue : Issue}
      (stands : condition.operands[index]? = some operand) (deeper : MistakenAt operand path issue) :
      MistakenAt condition (index :: path) issue

/-- Where a condition stands at a node: with a variant of the text, with a choice, or at a
branch. -/
inductive GuardPlace where
  | variant (index : Nat)
  | choice (index : Nat)
  | branch

/-- Where an effect stands at a node: on entry, or with a choice. -/
inductive EffectPlace where
  | entry (index : Nat)
  | choice (place index : Nat)

/-- The guard of a variant of a text. -/
def SceneText.guard? : SceneText → Nat → Option Condition
  | .plain _, _ => none
  | .variants options, index => options[index]?.bind Variant.condition

namespace GuardPlace

/-- The guards of the variants of a text have places of their own. The index is the place. -/
theorem variant_injective : GuardPlace.variant.Injective := by
  intro first second same
  cases same
  rfl

/-- The guards of choices have places of their own. The index counts all choices, hidden or not. -/
theorem choice_injective : GuardPlace.choice.Injective := by
  intro first second same
  cases same
  rfl

end GuardPlace

namespace Node

/-- The condition at a place of a node. -/
def guard? : Node → GuardPlace → Option Condition
  | .choice node, .variant index => node.text.guard? index
  | .choice node, .choice index => node.choices[index]?.bind Choice.condition
  | .input node, .variant index => node.text.guard? index
  | .logic node, .branch => node.condition
  | _, _ => none

/-- The effect at a place of a node. -/
def effect? : Node → EffectPlace → Option Effect
  | .choice node, .entry index => node.scene.effects[index]?
  | .choice node, .choice place index => node.choices[place]?.bind fun picked => picked.effects[index]?
  | .input node, .entry index => node.scene.effects[index]?
  | _, _ => none

end Node

/-! ## What is listed -/

/-- The mistakes in several conditions are those in each of them.

Proof: by induction on the conditions, as the two functions that collect mistakes call
each other. -/
theorem Condition.issuesOfAll_eq (conditions : List Condition) :
    issuesOfAll conditions = conditions.flatMap issues := by
  induction conditions with
  | nil => rfl
  | cons first rest inductionHypothesis =>
    simp only [issuesOfAll, inductionHypothesis, List.flatMap_cons]

/-- The mistakes in a condition that is none itself are those in its operands.

Proof: each operand has an index, and the mistakes inside it are reached by that index and a path
of their own. The two together are the path from the whole condition. -/
theorem Condition.oneForEach_of_operands {condition : Condition}
    (proper : ∀ issue, ¬ condition.MistakenAt [] issue)
    (listed : condition.issues = condition.operands.flatMap issues)
    (each : ∀ operand ∈ condition.operands, OneForEach operand.MistakenAt operand.issues) :
    OneForEach condition.MistakenAt condition.issues := by
  rw [listed]
  refine ((OneForEach.ofList condition.operands).flatMap List.cons List.cons.inj each).congr
    fun path issue => ⟨?_, fun mistaken => ?_⟩
  · rintro ⟨index, operand, deeperPath, stands, deeper, rfl⟩
    exact .inside stands deeper
  · cases path with
    | nil => exact absurd mistaken (proper issue)
    | cons index path =>
      cases mistaken with
      | inside stands deeper => exact ⟨_, _, _, stands, deeper, rfl⟩

/-- A condition that is a mistake has no other mistake in it. It has no operands, so no path leads
on from it. -/
theorem Condition.oneForEach_of_mistake {condition : Condition} {issue : Issue}
    (mistaken : condition.MistakenAt [] issue) : OneForEach condition.MistakenAt [issue] := by
  refine (OneForEach.ofOption [] (some issue)).congr fun path other => ⟨?_, fun found => ?_⟩
  · rintro ⟨rfl, same⟩
    cases same
    exact mistaken
  · cases mistaken <;> cases found with
    | inside stands => simp [operands] at stands
    | _ => exact ⟨rfl, rfl⟩

mutual

/-- The mistakes in a condition are listed one for each part that is a mistake.

Proof: by recursion on the condition. A test is no mistake and has no operands, a combination is
looked at operand by operand, and the two mistakes are found where they stand. -/
theorem Condition.oneForEach_issues : ∀ condition : Condition,
    OneForEach condition.MistakenAt condition.issues
  | .hasFlag _ _ | .hasItem _ => by
    apply oneForEach_of_operands
    case proper =>
      intro issue mistaken
      cases mistaken
    case listed => rfl
    case each => exact fun operand member => absurd member List.not_mem_nil
  | .all conditions | .any conditions => by
    apply oneForEach_of_operands
    case proper =>
      intro issue mistaken
      cases mistaken
    case listed => exact issuesOfAll_eq conditions
    case each => exact oneForEach_issues_of_mem conditions
  | .negation (some condition) => by
    apply oneForEach_of_operands
    case proper =>
      intro issue mistaken
      cases mistaken
    case listed => exact (List.append_nil _).symm
    case each =>
      intro operand member
      rw [List.mem_singleton.mp member]
      exact oneForEach_issues condition
  | .negation none => by
    have mistaken : (Condition.negation none).MistakenAt [] .emptyNegation := .emptyNegation
    exact oneForEach_of_mistake mistaken
  | .unknown => by
    have mistaken : Condition.unknown.MistakenAt [] .unknownType := .unknown
    exact oneForEach_of_mistake mistaken

/-- The mistakes in each of several conditions are listed one for each part that is a mistake. It
goes with the theorem before, one operand after another. -/
theorem Condition.oneForEach_issues_of_mem : ∀ conditions : List Condition,
    ∀ condition ∈ conditions, OneForEach condition.MistakenAt condition.issues
  | [], condition, member => absurd member List.not_mem_nil
  | first :: rest, condition, member => by
    rcases List.mem_cons.mp member with same | later
    · rw [same]
      exact oneForEach_issues first
    · exact oneForEach_issues_of_mem rest condition later

end

/-- The guards of a text are listed one for each variant that has one. A plain text has none, and a
variant without a guard is left out. -/
theorem SceneText.oneForEach_conditions (text : SceneText) :
    OneForEach (fun index condition => text.guard? index = some condition) text.conditions := by
  cases text with
  | plain text => exact .none fun _ _ found => by cases found
  | variants options =>
    refine ((OneForEach.ofList options).filterMap Variant.condition).congr fun index condition => ?_
    simp only [guard?, Option.bind_eq_some_iff]

namespace Node

/-- The conditions of a node are listed one for each place that has one.

Proof: by the kind of the node. Those of the text come before those of the choices, and the two
have places of different kinds. -/
theorem oneForEach_conditions (node : Node) :
    OneForEach (fun place condition => node.guard? place = some condition) node.conditions := by
  cases node with
  | choice node =>
    have ofText := node.text.oneForEach_conditions.relabel GuardPlace.variant_injective
    have ofChoices := ((OneForEach.ofList node.choices).filterMap Choice.condition).relabel
      GuardPlace.choice_injective
    refine (ofText.append ofChoices ?_).congr fun place condition => ?_
    · rintro _ _ _ ⟨index, -, rfl⟩ ⟨other, -, same⟩
      cases same
    · cases place <;> simp [guard?, Option.bind_eq_some_iff]
  | input node =>
    have ofText := node.text.oneForEach_conditions.relabel GuardPlace.variant_injective
    refine ofText.congr fun place condition => ?_
    cases place <;> simp [guard?]
  | logic node =>
    refine (OneForEach.ofOption GuardPlace.branch node.condition).congr fun place condition => ?_
    cases place <;> simp [guard?]
  | death message => exact .none fun _ _ found => by cases found
  | win message => exact .none fun _ _ found => by cases found

/-- The effects of a node are listed one for each place that has one.

Proof: by the kind of the node. Those on entry come first; those of a choice have the place of the
choice and an index there. -/
theorem oneForEach_effects (node : Node) :
    OneForEach (fun place effect => node.effect? place = some effect) node.effects := by
  have entry : EffectPlace.entry.Injective := fun _ _ same => by cases same; rfl
  cases node with
  | choice node =>
    have onEntry := (OneForEach.ofList node.scene.effects).relabel entry
    have ofChoices := (OneForEach.ofList node.choices).flatMap EffectPlace.choice
      (fun same => by cases same; exact ⟨rfl, rfl⟩)
      fun picked _ => OneForEach.ofList picked.effects
    refine (onEntry.append ofChoices ?_).congr fun place effect => ?_
    · rintro _ _ _ ⟨index, -, rfl⟩ ⟨other, _, inner, -, -, same⟩
      cases same
    · cases place <;> simp [effect?, Option.bind_eq_some_iff]
  | input node =>
    refine ((OneForEach.ofList node.scene.effects).relabel entry).congr fun place effect => ?_
    cases place <;> simp [effect?]
  | logic node | death message | win message => exact .none fun _ _ found => by cases found

end Node

end Storyline
