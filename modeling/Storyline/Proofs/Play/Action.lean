import Storyline.Proofs.Play.Link

/-!
# Actions in two stages

An action of the player begins at the current scene and ends with a link. In the
beginning it is refused, or it writes to the state: a choice applies its effects and
takes its time, a typed text is stored. A restart among the effects ends the action
there. Otherwise the link is followed in the state as it has been written, and a
failure of the link does not undo what the beginning wrote.

Every action of the narrator is proved to be its beginning followed by its link, so
what holds of the two stages holds of the actions.
-/

namespace Storyline

/-- What a player can do at a scene. -/
inductive Action where
  | choose (index : Nat)
  | advance
  | submit (input : String)

/-- The kind of scene that an action needs. -/
def Action.kind : Action → SceneKind
  | .choose _ | .advance => .choice
  | .submit _ => .input

/-- The kind of scene that a node is, if it is one. -/
def Node.kind? : Node → Option SceneKind
  | .choice _ => some .choice
  | .input _ => some .input
  | _ => none

/-- How an action begins: it is refused, it asks to start again, or play leaves by a link with the
changes made so far. A choice that is taken comes with its link. -/
inductive Beginning where
  | refused (error : StoryError)
  | restarting (outcome : Outcome) (state : State)
  | leaving (outcome : Outcome) (state : State) (next : Option NodeId) (choice : Option Choice)

/-- The state some time later, if there is a time to pass. -/
def State.later (state : State) (cost : Option Int64) : State :=
  match cost with
  | some minutes => state.advance minutes
  | none => state

/-- The links by which an action may leave a node: those of the choices, the direct one if there is
no choice, and the one behind an input. -/
inductive Node.LeavesBy : Node → Option NodeId → Prop where
  | choice {node : ChoiceNode} {choice : Choice} (listed : choice ∈ node.choices) :
      LeavesBy (.choice node) choice.next
  | direct {node : ChoiceNode} (bare : node.choices.isEmpty = true) :
      LeavesBy (.choice node) node.next
  | input (node : InputNode) : LeavesBy (.input node) node.next

/-- The target of a link by which an action may leave is one of the node's targets. Inspection
looks at exactly those targets, so an action goes nowhere that inspection has not seen. -/
theorem Node.LeavesBy.mem_edges {node : Node} {target : NodeId}
    (leaves : node.LeavesBy (some target)) : target ∈ node.edges := by
  generalize same : some target = next at leaves
  cases leaves with
  | choice listed => exact List.mem_append_left _ (List.mem_filterMap.mpr ⟨_, listed, same.symm⟩)
  | direct bare => exact List.mem_append_right _ (Option.mem_toList.mpr same.symm)
  | input node => exact Option.mem_toList.mpr same.symm

/-- How a choice begins: its effects, and then its cost in time. -/
def Choice.beginning (choice : Choice) (state : State) : Beginning :=
  let (outcome, changed) := Effect.applyAll choice.effects state
  if outcome.restart then .restarting outcome changed
  else .leaving outcome (changed.later choice.timeCost) choice.next (some choice)

/-- How a typed text begins: it is kept without the blanks around it. -/
def InputNode.beginning (node : InputNode) (state : State) (input : String) : Beginning :=
  if (Text.trim input).isEmpty then .refused .emptyInput
  else
    let (outcome, stored) := state.store node.variableName (Text.trim input)
    .leaving outcome stored node.next none

/-- The state that a beginning has reached, from the state before. -/
def Beginning.reached (state : State) : Beginning → State
  | .refused _ => state
  | .restarting _ changed => changed
  | .leaving _ changed _ _ => changed

namespace Narrator

variable {narrator : Narrator} {state : State} {action : Action}

/-- Carries out an action. -/
def perform (narrator : Narrator) (state : State) : Action → Turn
  | .choose index => narrator.choose state index
  | .advance => narrator.advance state
  | .submit input => narrator.submit state input

/-- The choice at a position of a node, if it is visible. -/
def visible? (narrator : Narrator) (state : State) (node : ChoiceNode) (index : Nat) :
    Option Choice :=
  (node.choices[index]?).filter fun choice => narrator.allows state choice.condition

/-- How an action begins at a node with choices. -/
def beginningAtChoices (narrator : Narrator) (state : State) (node : ChoiceNode) :
    Action → Beginning
  | .choose index =>
    match narrator.visible? state node index with
    | some choice => choice.beginning state
    | none => .refused (.choiceUnavailable state.currentScene index)
  | .advance =>
    if node.choices.isEmpty then .leaving {} state node.next none
    else .refused (.missingTarget state.currentScene)
  | .submit _ => .refused (.wrongSceneKind state.currentScene .input)

/-- How an action begins. -/
def beginning (narrator : Narrator) (state : State) (action : Action) : Beginning :=
  match narrator.graph.node? state.currentScene, action with
  | none, _ => .refused (.sceneNotFound state.currentScene)
  | some (.choice node), action => narrator.beginningAtChoices state node action
  | some (.input node), .submit input => node.beginning state input
  | some _, .submit _ => .refused (.wrongSceneKind state.currentScene .input)
  | some _, _ => .refused (.wrongSceneKind state.currentScene .choice)

/-- How an action ends after its beginning. -/
def conclude (narrator : Narrator) (state : State) : Beginning → Turn
  | .refused error => .failed error state
  | .restarting outcome changed => ⟨.ok { resolution := .restart, outcome }, changed⟩
  | .leaving outcome changed next choice =>
    (narrator.follow changed state.currentScene next choice).after outcome

end Narrator

/-- Nothing before an outcome leaves it as it is. The empty outcome has no events, counts nothing
as ignored, and does not ask to start again. -/
@[simp] theorem Outcome.empty_merge (outcome : Outcome) : ({} : Outcome).merge outcome = outcome := by
  simp [merge]

/-- A turn after nothing is that turn. An action that writes nothing before its link is therefore
its link and no more. -/
@[simp] theorem Turn.after_empty (turn : Turn) : turn.after {} = turn := by
  obtain ⟨answer, state⟩ := turn
  cases answer <;> simp [after, Except.map, Resolved.after]

/-- A turn after an earlier outcome fails exactly as the turn does. What happened before is lost
with the failure, while the state that it wrote is kept. -/
@[simp] theorem Turn.after_error_iff {outcome : Outcome} {turn : Turn} {error : StoryError} :
    (turn.after outcome).answer = .error error ↔ turn.answer = .error error := by
  obtain ⟨answer, state⟩ := turn
  cases answer <;> simp [after, Except.map]

/-- A turn after an earlier outcome succeeds exactly as the turn does, with both outcomes in one.
The earlier one comes first, as its events did. -/
theorem Turn.after_ok_iff {outcome : Outcome} {turn : Turn} {resolved : Resolved} :
    (turn.after outcome).answer = .ok resolved ↔
      ∃ later, turn.answer = .ok later ∧ resolved = later.after outcome := by
  obtain ⟨answer, state⟩ := turn
  cases answer with
  | error error => simp [after, Except.map]
  | ok later => simp [after, Except.map, eq_comm]

/-- An earlier outcome does not touch the state. -/
@[simp] theorem Turn.after_state (outcome : Outcome) (turn : Turn) :
    (turn.after outcome).state = turn.state := rfl

namespace Narrator

variable {narrator : Narrator} {state : State} {action : Action}

/-- An action is its beginning followed by its link. The one equation stands for the three actions,
so that refusals, failures and successes are each proved once.

Proof: by the node at the current scene and the action. At a choice scene an index is in range and
visible or refused, and direct links are taken only where there is nothing to choose. -/
theorem perform_eq (narrator : Narrator) (state : State) (action : Action) :
    narrator.perform state action = narrator.conclude state (narrator.beginning state action) := by
  cases action with
  | choose index =>
    simp only [perform, choose, beginning]
    cases narrator.graph.node? state.currentScene with
    | none => rfl
    | some node =>
      cases node with
      | choice node =>
        simp only [beginningAtChoices, visible?]
        cases (node.choices[index]?).filter fun choice => narrator.allows state choice.condition with
        | none => rfl
        | some choice =>
          simp only [followChoice, Choice.beginning, State.later]
          split <;> rfl
      | _ => rfl
  | advance =>
    simp only [perform, advance, beginning]
    cases narrator.graph.node? state.currentScene with
    | none => rfl
    | some node =>
      cases node with
      | choice node =>
        simp only [beginningAtChoices]
        split
        · simp only [conclude, Turn.after_empty]
        · rfl
      | _ => rfl
  | submit input =>
    simp only [perform, submit, beginning]
    cases narrator.graph.node? state.currentScene with
    | none => rfl
    | some node =>
      cases node with
      | input node =>
        simp only [InputNode.beginning]
        split <;> rfl
      | _ => rfl

/-- What is typed at a scene is kept without the blanks around it, and then the link is followed.
The link is followed in the state in which the text is kept, so the scene behind it can show the
text already. -/
theorem submit_eq {node : InputNode} {input : String}
    (found : narrator.graph.node? state.currentScene = some (.input node))
    (something : (Text.trim input).isEmpty = false) :
    narrator.submit state input =
      (narrator.follow (state.store node.variableName (Text.trim input)).2 state.currentScene
        node.next none).after (state.store node.variableName (Text.trim input)).1 := by
  have nonempty : ¬ (Text.trim input).isEmpty = true := by simp [something]
  simp only [submit, found]
  rw [if_neg nonempty]

/-- An action that succeeds has asked to start again, or has left by a link that was followed with
success. In the second case the link's own answer is the action's answer, with what the beginning
did put in front of it. -/
theorem perform_ok {resolved : Resolved}
    (answered : (narrator.perform state action).answer = .ok resolved) :
    (∃ outcome changed, narrator.beginning state action = .restarting outcome changed ∧
        resolved = { resolution := .restart, outcome } ∧
        (narrator.perform state action).state = changed) ∨
      ∃ outcome changed next choice followed,
        narrator.beginning state action = .leaving outcome changed next choice ∧
        (narrator.follow changed state.currentScene next choice).answer = .ok followed ∧
        resolved = followed.after outcome ∧
        (narrator.perform state action).state =
          (narrator.follow changed state.currentScene next choice).state := by
  rw [perform_eq] at answered ⊢
  cases begun : narrator.beginning state action with
  | refused error =>
    rw [begun] at answered
    cases answered
  | restarting outcome changed =>
    rw [begun] at answered
    exact Or.inl ⟨outcome, changed, rfl, (Except.ok.inj answered).symm, rfl⟩
  | leaving outcome changed next choice =>
    rw [begun] at answered
    obtain ⟨followed, reached, same⟩ := Turn.after_ok_iff.mp answered
    exact Or.inr ⟨outcome, changed, next, choice, followed, rfl, reached, same, rfl⟩

/-- A visible choice is one of the choices. Its condition holds as well; that part is left out
where only the list matters. -/
theorem mem_of_visible? {node : ChoiceNode} {index : Nat} {choice : Choice}
    (visible : narrator.visible? state node index = some choice) : choice ∈ node.choices := by
  obtain ⟨listed, -⟩ := Option.filter_eq_some_iff.mp visible
  exact List.mem_of_getElem? listed

/-! ## The ways to begin -/

/-- All ways in which an action begins, said by what stands at the current scene. The first five
refuse the action, the next one asks to start again, and the last three leave by a link. -/
inductive Begins (narrator : Narrator) (state : State) : Action → Beginning → Prop where
  | missing {action : Action} (absent : narrator.graph.node? state.currentScene = none) :
      Begins narrator state action (.refused (.sceneNotFound state.currentScene))
  | unfit {action : Action} {node : Node}
      (found : narrator.graph.node? state.currentScene = some node)
      (other : node.kind? ≠ some action.kind) :
      Begins narrator state action (.refused (.wrongSceneKind state.currentScene action.kind))
  | unavailable {node : ChoiceNode} {index : Nat}
      (found : narrator.graph.node? state.currentScene = some (.choice node))
      (hidden : narrator.visible? state node index = none) :
      Begins narrator state (.choose index)
        (.refused (.choiceUnavailable state.currentScene index))
  | choosing {node : ChoiceNode}
      (found : narrator.graph.node? state.currentScene = some (.choice node))
      (offered : node.choices.isEmpty = false) :
      Begins narrator state .advance (.refused (.missingTarget state.currentScene))
  | blank {node : InputNode} {input : String}
      (found : narrator.graph.node? state.currentScene = some (.input node))
      (nothing : (Text.trim input).isEmpty = true) :
      Begins narrator state (.submit input) (.refused .emptyInput)
  | restarting {node : ChoiceNode} {index : Nat} {choice : Choice} {outcome : Outcome}
      {changed : State} (found : narrator.graph.node? state.currentScene = some (.choice node))
      (visible : narrator.visible? state node index = some choice)
      (applied : Effect.applyAll choice.effects state = (outcome, changed))
      (asked : outcome.restart = true) :
      Begins narrator state (.choose index) (.restarting outcome changed)
  | chosen {node : ChoiceNode} {index : Nat} {choice : Choice} {outcome : Outcome}
      {changed : State} (found : narrator.graph.node? state.currentScene = some (.choice node))
      (visible : narrator.visible? state node index = some choice)
      (applied : Effect.applyAll choice.effects state = (outcome, changed))
      (unasked : outcome.restart = false) :
      Begins narrator state (.choose index)
        (.leaving outcome (changed.later choice.timeCost) choice.next (some choice))
  | direct {node : ChoiceNode}
      (found : narrator.graph.node? state.currentScene = some (.choice node))
      (bare : node.choices.isEmpty = true) :
      Begins narrator state .advance (.leaving {} state node.next none)
  | typed {node : InputNode} {input : String} {outcome : Outcome} {stored : State}
      (found : narrator.graph.node? state.currentScene = some (.input node))
      (something : (Text.trim input).isEmpty = false)
      (kept : state.store node.variableName (Text.trim input) = (outcome, stored)) :
      Begins narrator state (.submit input) (.leaving outcome stored node.next none)

/-- An action begins in one of these ways. The beginnings are told apart by the node and the action
alone, and the state matters only for which choices are visible.

Proof: by the node at the current scene; each kind of node has one row for every action. -/
theorem begins_beginning (narrator : Narrator) (state : State) (action : Action) :
    narrator.Begins state action (narrator.beginning state action) := by
  unfold beginning
  cases found : narrator.graph.node? state.currentScene with
  | none => exact .missing found
  | some node =>
    cases node with
    | choice node =>
      cases action with
      | choose index =>
        simp only [beginningAtChoices]
        cases visible : narrator.visible? state node index with
        | none => exact .unavailable found visible
        | some choice =>
          simp only [Choice.beginning]
          cases asked : (Effect.applyAll choice.effects state).1.restart with
          | true => exact .restarting found visible rfl asked
          | false => exact .chosen found visible rfl asked
      | advance =>
        simp only [beginningAtChoices]
        cases bare : node.choices.isEmpty with
        | true => exact .direct found bare
        | false => exact .choosing found bare
      | submit input => exact .unfit found (by decide : some SceneKind.choice ≠ some .input)
    | input node =>
      cases action with
      | submit input =>
        simp only [InputNode.beginning]
        cases nothing : (Text.trim input).isEmpty with
        | true => exact .blank found nothing
        | false => exact .typed found nothing rfl
      | _ => exact .unfit found (by decide : some SceneKind.input ≠ some .choice)
    | _ => cases action <;> exact .unfit found (by simp [Node.kind?])

/-- An action leaves by a link of the current node. That node is the one at the current scene, and
the link is its own, whatever was written on the way. -/
theorem leavesBy_of_beginning {outcome : Outcome} {changed : State} {next : Option NodeId}
    {choice : Option Choice}
    (begun : narrator.beginning state action = .leaving outcome changed next choice) :
    ∃ node, narrator.graph.node? state.currentScene = some node ∧ node.LeavesBy next := by
  have begins := narrator.begins_beginning state action
  rw [begun] at begins
  cases begins with
  | chosen found visible => exact ⟨_, found, .choice (mem_of_visible? visible)⟩
  | direct found bare => exact ⟨_, found, .direct bare⟩
  | typed found => exact ⟨_, found, .input _⟩

end Narrator

end Storyline
