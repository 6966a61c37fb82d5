import Storyline.Play.Substitution
import Storyline.Play.Walk
import Storyline.Text.Blank

/-!
# The narrator

A narrator plays one story: it resolves names into scenes and endings, and carries
out the actions of the player. The state is handed in and handed back. Entering a
scene makes it the current one, sets the clock if the scene says so, and applies
the effects of the entry; then text and choices are told in the state so reached.
-/

namespace Storyline

/-- Who tells a story: the story, the stand-in for unset flags, and the truth value
assumed of malformed conditions. -/
structure Narrator where
  graph : Graph
  unsetFlagToken : String := ({} : Setup).unsetFlagToken
  assumed : Bool := Condition.assumedInPlay

/-- The answer to an action, and the state after it. -/
structure Turn where
  answer : Except StoryError Resolved
  state : State

namespace Turn

/-- An action that could not be carried out. -/
def failed (error : StoryError) (state : State) : Turn := ⟨.error error, state⟩

/-- A turn after an earlier outcome. -/
def after (prior : Outcome) (turn : Turn) : Turn :=
  { turn with answer := turn.answer.map (Resolved.after prior) }

end Turn

/-- The target that ends play in death if no node has its name. -/
def deathTarget : NodeId := "death"

/-- The target that ends play in victory if no node has its name. -/
def winTarget : NodeId := "win"

namespace Ending

/-- The message of an ending without one of its own. -/
def defaultMessage : Ending → String
  | .death => "You died."
  | .win => "You won!"

/-- An ending's message: the story's own one unless it is missing or empty. -/
def messageOr (ending : Ending) (own : Option String) : String :=
  (own.filter fun message => !message.isEmpty).getD ending.defaultMessage

/-- The ending that a target stands for when no node has its name. -/
def ofTarget? (target : NodeId) : Option Ending :=
  if target = deathTarget then some .death
  else if target = winTarget then some .win
  else none

end Ending

/-- The message that a choice has for an ending. -/
def Choice.messageFor (choice : Choice) : Ending → Option String
  | .death => choice.deathMessage
  | .win => choice.winMessage

/-- Keeps what the player typed. Without a variable it becomes the player's name;
a variable `flags.` names a flag up to the next point; a state field takes it as a
setting; any other name is an extra field. -/
def State.store (state : State) (variableName : Option String) (value : String) :
    Outcome × State :=
  match variableName.filter fun name => !name.isEmpty with
  | none => Effect.applyAll [.setField .playerName (.text value)] state
  | some name =>
    match name.toList with
    | 'f' :: 'l' :: 'a' :: 'g' :: 's' :: '.' :: path =>
      let flag := String.ofList (path.takeWhile (· != '.'))
      Effect.applyAll [.setFlag flag (.text value)] state
    | _ =>
      if (StateField.named? name).isSome then
        Effect.applyAll [.setValue name (.text value)] state
      else ({}, { state with fields := state.fields.insert name value })

namespace Narrator

/-- The narrator of a story with the settings of a session. -/
def ofSetup (graph : Graph) (setup : Setup) : Narrator :=
  { graph, unsetFlagToken := setup.unsetFlagToken }

/-- Whether a guard lets something pass in play. -/
def allows (narrator : Narrator) (state : State) (guard : Option Condition) : Bool :=
  passes narrator.assumed guard state

/-- A text with its variables filled in. -/
def tell (narrator : Narrator) (state : State) (text : String) : String :=
  Substitution.substitute narrator.unsetFlagToken state text

/-- The text of a scene with its variables filled in. -/
def tellScene (narrator : Narrator) (state : State) (text : SceneText) : String :=
  narrator.tell state (text.chosen narrator.assumed state)

/-- The choices whose guards pass, each with its position among all of them. -/
def visibleChoices (narrator : Narrator) (state : State) (choices : List Choice) :
    List VisibleChoice :=
  (choices.zipIdx.filter fun entry => narrator.allows state entry.1.condition).map fun entry =>
    ⟨entry.2, narrator.tell state entry.1.text⟩

/-- The scene of a node with choices. -/
def choiceScene (narrator : Narrator) (state : State) (id : NodeId) (node : ChoiceNode) : Scene :=
  { id, kind := .choice, text := narrator.tellScene state node.text,
    choices := narrator.visibleChoices state node.choices,
    canAdvance := node.choices.isEmpty && node.next.isSome,
    location := node.scene.location, image := node.scene.image }

/-- The scene of a node that asks for a text. -/
def inputScene (narrator : Narrator) (state : State) (id : NodeId) (node : InputNode) : Scene :=
  { id, kind := .input, text := narrator.tellScene state node.text,
    variableName := node.variableName,
    location := node.scene.location, image := node.scene.image }

/-- An ending with its message told. -/
def finish (narrator : Narrator) (state : State) (ending : Ending) (own : Option String) :
    Resolution :=
  .terminal ending (narrator.tell state (ending.messageOr own))

/-- The state in which the effects of an entry begin. -/
def arrival (state : State) (id : NodeId) (scene : SceneInfo) : State :=
  { state with currentScene := id, minutes := scene.timeSet.getD state.minutes }

/-- Enters a scene. A restart among the effects of the entry takes the place of the
scene, which `telling` would give. -/
def enter (state : State) (id : NodeId) (scene : SceneInfo) (path : List NodeId)
    (telling : State → Scene) : Turn :=
  let (outcome, entered) := Effect.applyAll scene.effects (arrival state id scene)
  let resolution := if outcome.restart then .restart else .interactive (telling entered)
  ⟨.ok ⟨resolution, outcome, path⟩, entered⟩

/-- Follows the story from a name until the player is needed. -/
def resolveFrom (narrator : Narrator) (state : State) (id : NodeId) : Turn :=
  match narrator.graph.walk (fun node => narrator.allows state node.condition) [] id with
  | (_, .missing id) => .failed (.sceneNotFound id) state
  | (_, .dangling id branch) => .failed (.danglingLogicBranch id branch) state
  | (path, .cycle id) => .failed (.logicCycle id path) state
  | (path, .ending ending message) => ⟨.ok ⟨narrator.finish state ending message, {}, path⟩, state⟩
  | (path, .choice id node) =>
    enter state id node.scene path fun entered => narrator.choiceScene entered id node
  | (path, .input id node) =>
    enter state id node.scene path fun entered => narrator.inputScene entered id node

/-- The current scene told once more, without entering it again. -/
def view (narrator : Narrator) (state : State) : Except StoryError Resolved :=
  let id := state.currentScene
  match narrator.graph.node? id with
  | none => .error (.sceneNotFound id)
  | some (.choice node) => .ok { resolution := .interactive (narrator.choiceScene state id node) }
  | some (.input node) => .ok { resolution := .interactive (narrator.inputScene state id node) }
  | some _ => .error (.wrongSceneKind id .choice)

/-- Follows a link out of a scene. The targets `death` and `win` end play if no
node has their names; a choice brings its own messages for them. -/
def follow (narrator : Narrator) (state : State) (origin : NodeId) (next : Option NodeId)
    (choice : Option Choice) : Turn :=
  match next with
  | none => .failed (.missingTarget origin) state
  | some target =>
    match if narrator.graph.contains target then none else Ending.ofTarget? target with
    | some ending =>
      let own := choice.bind fun choice => choice.messageFor ending
      ⟨.ok { resolution := narrator.finish state ending own }, state⟩
    | none => narrator.resolveFrom state target

/-- Carries out a choice: its effects, its cost in time, and then its link. -/
def followChoice (narrator : Narrator) (state : State) (origin : NodeId) (choice : Choice) : Turn :=
  let (outcome, changed) := Effect.applyAll choice.effects state
  if outcome.restart then ⟨.ok { resolution := .restart, outcome }, changed⟩
  else
    let later := match choice.timeCost with
      | some minutes => changed.advance minutes
      | none => changed
    (narrator.follow later origin choice.next (some choice)).after outcome

/-- Takes a choice of the current scene by its position. -/
def choose (narrator : Narrator) (state : State) (index : Nat) : Turn :=
  let id := state.currentScene
  match narrator.graph.node? id with
  | none => .failed (.sceneNotFound id) state
  | some (.choice node) =>
    match (node.choices[index]?).filter fun choice => narrator.allows state choice.condition with
    | some choice => narrator.followChoice state id choice
    | none => .failed (.choiceUnavailable id index) state
  | some _ => .failed (.wrongSceneKind id .choice) state

/-- Goes on from a scene without choices. -/
def advance (narrator : Narrator) (state : State) : Turn :=
  let id := state.currentScene
  match narrator.graph.node? id with
  | none => .failed (.sceneNotFound id) state
  | some (.choice node) =>
    if node.choices.isEmpty then narrator.follow state id node.next none
    else .failed (.missingTarget id) state
  | some _ => .failed (.wrongSceneKind id .choice) state

/-- Hands in what the player typed, without the blanks around it. -/
def submit (narrator : Narrator) (state : State) (input : String) : Turn :=
  let id := state.currentScene
  match narrator.graph.node? id with
  | none => .failed (.sceneNotFound id) state
  | some (.input node) =>
    let value := Text.trim input
    if value.isEmpty then .failed .emptyInput state
    else
      let (outcome, stored) := state.store node.variableName value
      (narrator.follow stored id node.next none).after outcome
  | some _ => .failed (.wrongSceneKind id .input) state

end Narrator

end Storyline
