import Storyline.Play.Outcome
import Storyline.Story.Graph

/-!
# Scenes and resolutions

A scene is what the player sees at a node: the text with everything filled in, the
choices that can be taken, and whether play can simply go on. A resolution is a
scene, an ending, or the request to start again. Errors say why an action could
not be carried out.
-/

namespace Storyline

/-- The two kinds of scenes. -/
inductive SceneKind where
  | choice
  | input
  deriving DecidableEq

/-- How a story ends. -/
inductive Ending where
  | death
  | win
  deriving DecidableEq

/-- A choice that can be taken, by its position among all choices of its node. -/
structure VisibleChoice where
  index : Nat
  text : String
  deriving DecidableEq

/-- What the player sees. -/
structure Scene where
  id : NodeId
  kind : SceneKind
  text : String
  choices : List VisibleChoice := []
  canAdvance : Bool := false
  variableName : Option String := none
  location : Option String := none
  image : Option String := none
  deriving DecidableEq

/-- Where play has come to. -/
inductive Resolution where
  | interactive (scene : Scene)
  | terminal (ending : Ending) (message : String)
  | restart
  deriving DecidableEq

/-- Where play has come to, what changed on the way, and the branches passed. -/
structure Resolved where
  resolution : Resolution
  outcome : Outcome := {}
  path : List NodeId := []
  deriving DecidableEq

namespace Resolved

/-- The scene, if there is one. -/
def scene? (resolved : Resolved) : Option Scene :=
  match resolved.resolution with
  | .interactive scene => some scene
  | _ => none

/-- The ending, if play is over. -/
def ending? (resolved : Resolved) : Option Ending :=
  match resolved.resolution with
  | .terminal ending _ => some ending
  | _ => none

/-- Whether play is over. -/
def isTerminal (resolved : Resolved) : Bool := resolved.ending?.isSome

/-- Whether the story asks to start again. -/
def restartRequested (resolved : Resolved) : Bool :=
  match resolved.resolution with
  | .restart => true
  | _ => false

/-- The same resolution after an earlier outcome. -/
def after (prior : Outcome) (resolved : Resolved) : Resolved :=
  { resolved with outcome := prior.merge resolved.outcome }

end Resolved

/-- Why an action could not be carried out. -/
inductive StoryError where
  | sceneNotFound (id : NodeId)
  | danglingLogicBranch (node : NodeId) (branch : Bool)
  | logicCycle (node : NodeId) (path : List NodeId)
  | missingTarget (node : NodeId)
  | choiceUnavailable (node : NodeId) (index : Nat)
  | wrongSceneKind (node : NodeId) (expected : SceneKind)
  | emptyInput
  | sessionOver
  deriving DecidableEq

namespace StoryError

/-- The name of a kind of scene in a message. -/
def kindName : SceneKind → String
  | .choice => "choice"
  | .input => "input"

/-- The error in words. -/
def message : StoryError → String
  | .sceneNotFound id => "scene '" ++ id ++ "' not found"
  | .danglingLogicBranch node branch =>
    "logic node '" ++ node ++ "' has no " ++ toString branch ++ " branch"
  | .logicCycle node path =>
    "logic cycle detected at '" ++ node ++ "' (path: " ++ " -> ".intercalate path ++ ")"
  | .missingTarget node => "scene '" ++ node ++ "' has no target to continue to"
  | .choiceUnavailable node index =>
    "choice " ++ toString index ++ " is not available in scene '" ++ node ++ "'"
  | .wrongSceneKind node expected =>
    "scene '" ++ node ++ "' is not a " ++ kindName expected ++ " scene"
  | .emptyInput => "input must not be empty"
  | .sessionOver => "the session has ended"

end StoryError

end Storyline
