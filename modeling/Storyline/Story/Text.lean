import Storyline.Story.Condition

/-!
# Scene texts

The text of a scene is either one text or a list of variants, each with a guard if
it has one. The first variant whose guard passes is shown; the variants behind it
do not matter. If no guard passes, nothing is shown.
-/

namespace Storyline

/-- A text to be shown if its guard passes. -/
structure Variant where
  content : String := ""
  condition : Option Condition := none
  deriving BEq

/-- What a scene says. -/
inductive SceneText where
  | plain (text : String)
  | variants (variants : List Variant)
  deriving BEq

namespace SceneText

/-- The text to show in a state, before anything is filled in. -/
def chosen (assumed : Bool) (state : State) : SceneText → String
  | .plain text => text
  | .variants options =>
    ((options.find? fun variant => passes assumed variant.condition state).map
      Variant.content).getD ""

/-- The guards of the variants. -/
def conditions : SceneText → List Condition
  | .plain _ => []
  | .variants options => options.filterMap Variant.condition

end SceneText

end Storyline
