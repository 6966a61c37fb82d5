import Storyline.Proofs.Inspection.Places

/-!
# Conditions that are built

An author builds a condition from leaves: flags, items, and the two mistakes. Lists of
conditions are put together as conjunctions and disjunctions, a condition is negated, and two
conditions are joined. A condition that is joined to a conjunction becomes one more operand of
it, so what is built is flatter than the formula that the author has in mind. The truth of the
condition is that of the formula all the same, with a truth value assumed for mistakes, and its
mistakes are those of the formula's leaves, from left to right.
-/

namespace Storyline

/-- The leaves that an author builds conditions from. The mistakes are a type that is unknown and a
negation of nothing. -/
inductive Leaf where
  | flag (name : String)
  | flagUnset (name : String)
  | item (name : String)
  | unknown
  | emptyNegation

namespace Leaf

/-- The condition that a leaf is built as. A flag that must not be set is asked for by its value,
not by a negation. -/
def build : Leaf → Condition
  | .flag name => .flag name
  | .flagUnset name => .flagUnset name
  | .item name => .item name
  | .unknown => .unknown
  | .emptyNegation => .negation none

/-- Whether a leaf is true in a state, with a truth value assumed for mistakes. In play a mistake
is taken for true. -/
def truth (assumed : Bool) (state : State) : Leaf → Bool
  | .flag name => state.flagIsSet name
  | .flagUnset name => !state.flagIsSet name
  | .item name => state.hasItem name
  | .unknown | .emptyNegation => assumed

/-- The mistake that a leaf is, if it is one. Every other leaf is without fault in every state. -/
def issue? : Leaf → Option Condition.Issue
  | .flag _ | .flagUnset _ | .item _ => none
  | .unknown => some .unknownType
  | .emptyNegation => some .emptyNegation

end Leaf

/-- A formula as an author has it in mind, before anything is flattened. It is nested as the author
nested it. -/
inductive Formula where
  | leaf (lone : Leaf)
  | all (parts : List Formula)
  | any (parts : List Formula)
  | negate (part : Formula)
  | and (left right : Formula)
  | or (left right : Formula)

namespace Formula

mutual

/-- The condition that a formula is built as. Only here is anything flattened. -/
def build : Formula → Condition
  | .leaf lone => lone.build
  | .all parts => .all (buildAll parts)
  | .any parts => .any (buildAll parts)
  | .negate part => (build part).negate
  | .and left right => (build left).and (build right)
  | .or left right => (build left).or (build right)

/-- The conditions that several formulas are built as. They keep their order. -/
def buildAll : List Formula → List Condition
  | [] => []
  | first :: rest => build first :: buildAll rest

end

mutual

/-- Whether a formula is true in a state, with a truth value assumed for mistakes. A conjunction of
nothing is true, and a disjunction of nothing is false. -/
def truth (assumed : Bool) (state : State) : Formula → Bool
  | .leaf lone => lone.truth assumed state
  | .all parts => truthOfAll assumed state parts
  | .any parts => truthOfAny assumed state parts
  | .negate part => !truth assumed state part
  | .and left right => truth assumed state left && truth assumed state right
  | .or left right => truth assumed state left || truth assumed state right

/-- Whether all formulas are true. Of none, all are true. -/
def truthOfAll (assumed : Bool) (state : State) : List Formula → Bool
  | [] => true
  | first :: rest => truth assumed state first && truthOfAll assumed state rest

/-- Whether some formula is true. Of none, none is true. -/
def truthOfAny (assumed : Bool) (state : State) : List Formula → Bool
  | [] => false
  | first :: rest => truth assumed state first || truthOfAny assumed state rest

end

mutual

/-- The leaves of a formula, from left to right. A leaf that stands twice is listed twice. -/
def leaves : Formula → List Leaf
  | .leaf lone => [lone]
  | .all parts | .any parts => leavesOfAll parts
  | .negate part => leaves part
  | .and left right | .or left right => leaves left ++ leaves right

/-- The leaves of several formulas, from left to right. The leaves of one formula stay together. -/
def leavesOfAll : List Formula → List Leaf
  | [] => []
  | first :: rest => leaves first ++ leavesOfAll rest

end

end Formula

/-! ## Joined conditions -/

namespace Condition

variable {assumed : Bool} {state : State}

/-- All of appended conditions hold if all of both parts do.

Proof: by induction on the first part. -/
theorem holdAll_append (front back : List Condition) :
    holdAll assumed state (front ++ back) =
      (holdAll assumed state front && holdAll assumed state back) := by
  induction front with
  | nil => rfl
  | cons first rest inductionHypothesis =>
    simp only [List.cons_append, holdAll, inductionHypothesis, Bool.and_assoc]

/-- Some of appended conditions holds if one of either part does.

Proof: by induction on the first part. -/
theorem holdsAny_append (front back : List Condition) :
    holdsAny assumed state (front ++ back) =
      (holdsAny assumed state front || holdsAny assumed state back) := by
  induction front with
  | nil => rfl
  | cons first rest inductionHypothesis =>
    simp only [List.cons_append, holdsAny, inductionHypothesis, Bool.or_assoc]

/-- The mistakes in appended conditions are those in the first and then those in the last. So
taking in an operand moves no mistake. -/
theorem issuesOfAll_append (front back : List Condition) :
    issuesOfAll (front ++ back) = issuesOfAll front ++ issuesOfAll back := by
  simp only [issuesOfAll_eq, List.flatMap_append]

/-- Conditions joined by `and` hold together.

Proof: by cases of the left one. A conjunction takes the right one in as its last operand, and
anything else becomes the first of two. -/
@[simp] theorem holds_and (left right : Condition) :
    (left.and right).holds assumed state =
      (left.holds assumed state && right.holds assumed state) := by
  cases left with
  | all conditions => simp only [and, holds, holdAll_append, holdAll, Bool.and_true]
  | _ => simp only [and, holds, holdAll, Bool.and_true]

/-- Of conditions joined by `or` one holds.

Proof: as for `and`; a disjunction takes the right one in. -/
@[simp] theorem holds_or (left right : Condition) :
    (left.or right).holds assumed state =
      (left.holds assumed state || right.holds assumed state) := by
  cases left with
  | any conditions => simp only [or, holds, holdsAny_append, holdsAny, Bool.or_false]
  | _ => simp only [or, holds, holdsAny, Bool.or_false]

/-- A negated condition holds if the condition does not. This holds of a negation as well, which is
negated again and not undone. -/
@[simp] theorem holds_negate (condition : Condition) :
    condition.negate.holds assumed state = !condition.holds assumed state := by
  rw [negate, holds]

/-- The mistakes in conditions joined by `and` are those in the left one and then those in the
right one. A conjunction that takes in the right one takes it in last, so the order is kept. -/
@[simp] theorem issues_and (left right : Condition) :
    (left.and right).issues = left.issues ++ right.issues := by
  cases left with
  | all conditions => simp only [and, issues, issuesOfAll_append, issuesOfAll, List.append_nil]
  | _ => simp only [and, issues, issuesOfAll, List.append_nil]

/-- The mistakes in conditions joined by `or` are those in the left one and then those in the right
one. A disjunction that takes in the right one takes it in last, so the order is kept. -/
@[simp] theorem issues_or (left right : Condition) :
    (left.or right).issues = left.issues ++ right.issues := by
  cases left with
  | any conditions => simp only [or, issues, issuesOfAll_append, issuesOfAll, List.append_nil]
  | _ => simp only [or, issues, issuesOfAll, List.append_nil]

/-- A negation has the mistakes of what it negates. What is negated is there, so the negation is no
mistake of its own. -/
@[simp] theorem issues_negate (condition : Condition) : condition.negate.issues = condition.issues := by
  rw [negate, issues]

end Condition

/-! ## Built conditions -/

namespace Leaf

/-- A leaf is built as a condition that holds if the leaf is true. No leaf depends on any other
part of the story. -/
theorem holds_build (assumed : Bool) (state : State) (leaf : Leaf) :
    leaf.build.holds assumed state = leaf.truth assumed state := by
  cases leaf <;> simp [build, truth, Condition.flag, Condition.flagUnset, Condition.item,
    Condition.holds]

/-- A leaf is built as a condition with the mistake that the leaf is. A leaf is at most one
mistake. -/
theorem issues_build (leaf : Leaf) : leaf.build.issues = leaf.issue?.toList := by
  cases leaf <;> rfl

end Leaf

namespace Formula

open Condition

mutual

/-- A formula is built as a condition that holds if the formula is true. Nothing is assumed of how
it is nested.

Proof: by induction on the formula, and on the lists in it. Each way of joining means the same for
the conditions as for the formulas. -/
theorem holds_build (assumed : Bool) (state : State) : ∀ formula : Formula,
    formula.build.holds assumed state = formula.truth assumed state
  | .leaf lone => lone.holds_build assumed state
  | .all parts => by
    rw [build, holds, truth]
    exact holdAll_buildAll assumed state parts
  | .any parts => by
    rw [build, holds, truth]
    exact holdsAny_buildAll assumed state parts
  | .negate part => by rw [build, holds_negate, holds_build assumed state part, truth]
  | .and left right => by
    rw [build, holds_and, holds_build assumed state left, holds_build assumed state right, truth]
  | .or left right => by
    rw [build, holds_or, holds_build assumed state left, holds_build assumed state right, truth]

/-- Formulas are built as conditions that all hold if all formulas are true. A list is built one by
one, and nothing in it is flattened. -/
theorem holdAll_buildAll (assumed : Bool) (state : State) : ∀ formulas : List Formula,
    holdAll assumed state (buildAll formulas) = truthOfAll assumed state formulas
  | [] => rfl
  | first :: rest => by
    rw [buildAll, holdAll, truthOfAll, holds_build assumed state first,
      holdAll_buildAll assumed state rest]

/-- Formulas are built as conditions of which one holds if some formula is true. A list is built
one by one, and nothing in it is flattened. -/
theorem holdsAny_buildAll (assumed : Bool) (state : State) : ∀ formulas : List Formula,
    holdsAny assumed state (buildAll formulas) = truthOfAny assumed state formulas
  | [] => rfl
  | first :: rest => by
    rw [buildAll, holdsAny, truthOfAny, holds_build assumed state first,
      holdsAny_buildAll assumed state rest]

end

mutual

/-- A formula is built as a condition with the mistakes among the leaves of the formula. They are
listed in the order of the leaves, one for each.

Proof: by induction on the formula, and on the lists in it. Joined parts list their mistakes one
after the other, as they list their leaves. -/
theorem issues_build : ∀ formula : Formula,
    formula.build.issues = formula.leaves.filterMap Leaf.issue?
  | .leaf lone => by
    rw [build, lone.issues_build, leaves]
    cases lone <;> rfl
  | .all parts | .any parts => by
    rw [build, issues, leaves]
    exact issuesOfAll_buildAll parts
  | .negate part => by rw [build, issues_negate, issues_build part, leaves]
  | .and left right => by
    rw [build, issues_and, issues_build left, issues_build right, leaves, List.filterMap_append]
  | .or left right => by
    rw [build, issues_or, issues_build left, issues_build right, leaves, List.filterMap_append]

/-- Formulas are built as conditions with the mistakes among the leaves of all. They are listed
formula by formula. -/
theorem issuesOfAll_buildAll : ∀ formulas : List Formula,
    issuesOfAll (buildAll formulas) = (leavesOfAll formulas).filterMap Leaf.issue?
  | [] => rfl
  | first :: rest => by
    rw [buildAll, issuesOfAll, leavesOfAll, issues_build first, issuesOfAll_buildAll rest,
      List.filterMap_append]

end

/-- In every state the condition that a formula is built as holds in play exactly if the formula is
true with its mistakes taken as true, and it lists one mistake for each leaf that is one, from left
to right. So whatever conditions are joined and negated, joining is conjunction and disjunction and
negating the complement, a double negation cancels, and each kind of joining is the other one under
negation; and no mistake is lost or moved.

Proof: a formula is settled by induction on it. The laws are those of conjunction, disjunction and
complement, since joining and negating mean these for any conditions whatsoever. -/
theorem built_conditions_mean_formulas (state : State) :
    (∀ formula : Formula,
        formula.build.holds assumedInPlay state = formula.truth true state ∧
          formula.build.issues = formula.leaves.filterMap Leaf.issue?) ∧
      ∀ left right : Condition, let value := holds assumedInPlay state
        value (left.and right) = (value left && value right) ∧
          value (left.or right) = (value left || value right) ∧
          value left.negate = (!value left) ∧
          value left.negate.negate = value left ∧
          value (left.and right).negate = value (left.negate.or right.negate) ∧
          value (left.or right).negate = value (left.negate.and right.negate) ∧
          (left.and right).issues = left.issues ++ right.issues ∧
          (left.or right).issues = left.issues ++ right.issues ∧
          left.negate.issues = left.issues := by
  refine ⟨fun formula => ⟨formula.holds_build assumedInPlay state, formula.issues_build⟩, ?_⟩
  intro left right value
  refine ⟨holds_and left right, holds_or left right, holds_negate left, ?_, ?_, ?_,
    issues_and left right, issues_or left right, issues_negate left⟩
  · simp only [value, holds_negate, Bool.not_not]
  · simp only [value, holds_negate, holds_and, holds_or, Bool.not_and]
  · simp only [value, holds_negate, holds_and, holds_or, Bool.not_or]

/-- A conjunction takes in what is joined to it on the right, and nothing on the left. -/
example :
    let lamp : Formula := .leaf (.flag "lamp")
    let formula : Formula := .and (.and lamp (.negate (.leaf .emptyNegation))) (.leaf .unknown)
    formula.build = .all [.hasFlag "lamp" true, .negation (some (.negation none)), .unknown] ∧
      (Formula.and lamp formula).build = .all [.hasFlag "lamp" true, formula.build] ∧
      formula.build.issues = [.emptyNegation, .unknownType] := ⟨rfl, rfl, rfl⟩

end Formula

end Storyline
