import Storyline.State.Basic

/-!
# Conditions

A condition is a formula over flags and held items. Two of its forms are mistakes
of an author: a type that is not known, and a negation without anything to negate.
Play assumes a truth value for both of them, so that an unfinished story stays
playable; an inspection reports each of them.
-/

namespace Storyline

/-- A formula over flags and items. -/
inductive Condition where
  | hasFlag (flag : String) (value : Bool)
  | hasItem (item : String)
  | all (conditions : List Condition)
  | any (conditions : List Condition)
  | negation (condition : Option Condition)
  | unknown
  deriving BEq

namespace Condition

/-- The formula that a flag is set. -/
def flag (name : String) : Condition := .hasFlag name true

/-- The formula that a flag is not set. -/
def flagUnset (name : String) : Condition := .hasFlag name false

/-- The formula that an item is held. -/
def item (name : String) : Condition := .hasItem name

/-- The opposite of a formula. -/
def negate (condition : Condition) : Condition := .negation (some condition)

/-- Both formulas; a conjunction on the left takes in the right one. -/
def and : Condition → Condition → Condition
  | .all conditions, other => .all (conditions ++ [other])
  | condition, other => .all [condition, other]

/-- One formula or the other; a disjunction on the left takes in the right one. -/
def or : Condition → Condition → Condition
  | .any conditions, other => .any (conditions ++ [other])
  | condition, other => .any [condition, other]

mutual

/-- Whether a formula holds in a state, with a truth value assumed for mistakes. -/
def holds (assumed : Bool) (state : State) : Condition → Bool
  | .hasFlag flag value => state.flagIsSet flag == value
  | .hasItem item => state.hasItem item
  | .all conditions => holdAll assumed state conditions
  | .any conditions => holdsAny assumed state conditions
  | .negation (some condition) => !holds assumed state condition
  | .negation none => assumed
  | .unknown => assumed

/-- Whether all formulas hold. -/
def holdAll (assumed : Bool) (state : State) : List Condition → Bool
  | [] => true
  | first :: rest => holds assumed state first && holdAll assumed state rest

/-- Whether some formula holds. -/
def holdsAny (assumed : Bool) (state : State) : List Condition → Bool
  | [] => false
  | first :: rest => holds assumed state first || holdsAny assumed state rest

end

/-- What play assumes of a mistake. -/
def assumedInPlay : Bool := true

/-- A mistake in a formula. -/
inductive Issue where
  | unknownType
  | emptyNegation
  deriving DecidableEq

mutual

/-- The mistakes in a formula, from left to right. -/
def issues : Condition → List Issue
  | .hasFlag _ _ | .hasItem _ => []
  | .all conditions | .any conditions => issuesOfAll conditions
  | .negation (some condition) => issues condition
  | .negation none => [.emptyNegation]
  | .unknown => [.unknownType]

/-- The mistakes in several formulas, from left to right. -/
def issuesOfAll : List Condition → List Issue
  | [] => []
  | first :: rest => issues first ++ issuesOfAll rest

end

end Condition

/-- Whether a guard lets something pass. Without a guard everything passes. -/
def passes (assumed : Bool) (guard : Option Condition) (state : State) : Bool :=
  guard.all (Condition.holds assumed state)

end Storyline
