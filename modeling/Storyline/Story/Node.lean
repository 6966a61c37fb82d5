import Storyline.Story.Effect
import Storyline.Story.Text

/-!
# Nodes of a story

A node is a scene with choices, a scene that asks for a text, a branch that play
passes through without showing it, or one of two endings. Links name other nodes;
a link may lack its target.
-/

namespace Storyline

/-- An option of the player in a scene. -/
structure Choice where
  text : String := ""
  next : Option NodeId := none
  condition : Option Condition := none
  effects : List Effect := []
  timeCost : Option Int64 := none
  deathMessage : Option String := none
  winMessage : Option String := none
  deriving BEq

/-- What the two kinds of shown scenes share. `timeSet` is the time that the clock
is set to on entry, before the effects. -/
structure SceneInfo where
  location : Option String := none
  image : Option String := none
  timeSet : Option Int64 := none
  effects : List Effect := []
  deriving BEq

/-- A scene with choices. `next` leads on if there are no choices. -/
structure ChoiceNode where
  text : SceneText := .plain ""
  choices : List Choice := []
  next : Option NodeId := none
  scene : SceneInfo := {}
  deriving BEq

/-- A scene that asks for a text, and the variable that takes it. -/
structure InputNode where
  text : SceneText := .plain ""
  variableName : Option String := none
  next : Option NodeId := none
  scene : SceneInfo := {}
  deriving BEq

/-- A branch on a condition. -/
structure LogicNode where
  condition : Option Condition := none
  nextTrue : Option NodeId := none
  nextFalse : Option NodeId := none
  deriving BEq

/-- A node of a story. -/
inductive Node where
  | choice (node : ChoiceNode)
  | input (node : InputNode)
  | logic (node : LogicNode)
  | death (message : Option String)
  | win (message : Option String)
  deriving BEq

namespace Node

/-- The name of a node's kind. -/
def typeName : Node → String
  | .choice _ => "choice"
  | .input _ => "input"
  | .logic _ => "logic"
  | .death _ => "death"
  | .win _ => "win"

/-- Whether play ends at a node. -/
def isTerminal : Node → Bool
  | .death _ | .win _ => true
  | _ => false

/-- The targets of all links, whatever their conditions. -/
def edges : Node → List NodeId
  | .choice node => node.choices.filterMap Choice.next ++ node.next.toList
  | .input node => node.next.toList
  | .logic node => node.nextTrue.toList ++ node.nextFalse.toList
  | .death _ | .win _ => []

/-- Whether there is a way out. A choice counts even without a target. -/
def hasExit : Node → Bool
  | .choice node => !node.choices.isEmpty || node.next.isSome
  | .input node => node.next.isSome
  | .logic node => node.nextTrue.isSome || node.nextFalse.isSome
  | .death _ | .win _ => false

/-- All conditions: those of the text first, then those of the choices. -/
def conditions : Node → List Condition
  | .choice node => node.text.conditions ++ node.choices.filterMap Choice.condition
  | .input node => node.text.conditions
  | .logic node => node.condition.toList
  | .death _ | .win _ => []

/-- All effects: those of the entry first, then those of the choices. -/
def effects : Node → List Effect
  | .choice node => node.scene.effects ++ node.choices.flatMap Choice.effects
  | .input node => node.scene.effects
  | .logic _ | .death _ | .win _ => []

end Node

end Storyline
