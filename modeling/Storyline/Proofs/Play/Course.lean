import Mathlib.Data.List.Forall2
import Storyline.Proofs.Play.Request

/-!
# The course of a story

Conditions look at two things: which flags are set, and which items are held. So two
states that stand at one scene and agree on both take the same course. Whatever is asked
for, both are refused with the same error, or both come to the same place past the same
branches, with the same choices to take; and the states they reach agree again.

In all else the states may differ: what a flag that is set holds, how many copies of an
item there are and in what order, day and clock, the player's name, the extra fields. That
shows in texts and in events, and never turns the story.
-/

namespace Storyline

/-- Two states stand at one scene, and no condition tells them apart. -/
structure State.Agree (left right : State) : Prop where
  currentScene : left.currentScene = right.currentScene
  flags : ∀ name, left.flagIsSet name = right.flagIsSet name
  items : ∀ item, left.hasItem item = right.hasItem item

/-- Where play has come to, apart from all texts. -/
inductive Place where
  | scene (id : NodeId) (kind : SceneKind) (choices : List Nat) (canAdvance : Bool)
  | ending (ending : Ending)
  | restart

/-- The place of a resolution. The choices are told by their positions. -/
def Resolution.place : Resolution → Place
  | .interactive scene =>
    .scene scene.id scene.kind (scene.choices.map VisibleChoice.index) scene.canAdvance
  | .terminal ending _ => .ending ending
  | .restart => .restart

/-- The course that play has taken: its place, the branches passed, and the number of
effects ignored. -/
structure Course where
  place : Place
  path : List NodeId
  ignored : Nat

/-- The course of a resolution. -/
def Resolved.course (resolved : Resolved) : Course :=
  ⟨resolved.resolution.place, resolved.path, resolved.outcome.ignored⟩

/-- Two turns fail with one error or take one course, and leave states that agree. -/
structure Turn.Agree (left right : Turn) : Prop where
  course : left.answer.map Resolved.course = right.answer.map Resolved.course
  state : left.state.Agree right.state

variable {left right : State}

/-! ## Conditions -/

mutual

/-- A condition holds in both of two states that agree, or in neither. It also holds of conditions
that are malformed, since both states are judged by one assumed value.

Proof: by recursion on the condition, together with the two lemmas on lists below. -/
theorem Condition.holds_of_agree (agree : left.Agree right) (assumed : Bool) :
    ∀ condition : Condition, condition.holds assumed left = condition.holds assumed right
  | .hasFlag flag value => by simp only [holds, agree.flags]
  | .hasItem item => by simp only [holds, agree.items]
  | .all conditions => by simp only [holds, holdAll_of_agree agree assumed conditions]
  | .any conditions => by simp only [holds, holdsAny_of_agree agree assumed conditions]
  | .negation (some condition) => by simp only [holds, holds_of_agree agree assumed condition]
  | .negation none => by simp only [holds]
  | .unknown => by simp only [holds]

/-- Conditions hold together in both of two states that agree, or in neither. The empty list holds
in both. -/
theorem Condition.holdAll_of_agree (agree : left.Agree right) (assumed : Bool) :
    ∀ conditions : List Condition,
      Condition.holdAll assumed left conditions = Condition.holdAll assumed right conditions
  | [] => rfl
  | first :: rest => by
    simp only [holdAll, holds_of_agree agree assumed first, holdAll_of_agree agree assumed rest]

/-- One of some conditions holds in both of two states that agree, or in neither. The empty list
holds in neither. -/
theorem Condition.holdsAny_of_agree (agree : left.Agree right) (assumed : Bool) :
    ∀ conditions : List Condition,
      Condition.holdsAny assumed left conditions = Condition.holdsAny assumed right conditions
  | [] => rfl
  | first :: rest => by
    simp only [holdsAny, holds_of_agree agree assumed first, holdsAny_of_agree agree assumed rest]

end

/-- A guard lets pass in both of two states that agree, or in neither. The two are equal as
functions of the guard, so a walk through branches is the same walk. -/
theorem Narrator.allows_of_agree (narrator : Narrator) (agree : left.Agree right) :
    narrator.allows left = narrator.allows right := by
  funext guard
  unfold allows passes
  cases guard with
  | none => rfl
  | some condition => exact condition.holds_of_agree agree narrator.assumed

/-! ## Effects -/

namespace State

/-- Writing a flag decides whether that flag is set, and no other one. A text other than the empty
one counts as set, and so does the truth value true. -/
theorem flagIsSet_setFlag (state : State) (name other : String) (value : Flag) :
    (state.setFlag name value).flagIsSet other =
      if other = name then value.isSet else state.flagIsSet other := by
  unfold flagIsSet setFlag
  rw [Table.get?_insert]
  split <;> rfl

/-- After an item is added it is held, beside those held before. Copies are not counted here, so
adding an item that is held changes nothing that is asked. -/
theorem hasItem_addItem (state : State) (item other : String) :
    (state.addItem item).hasItem other = (state.hasItem other || other == item) := by
  simp [hasItem, addItem, Bool.beq_eq_decide_eq]

/-- After an item is removed all others are held that were held before. The item itself is held no
more, however many copies there were. -/
theorem hasItem_removeItem (state : State) (item other : String) :
    (state.removeItem item).hasItem other = (state.hasItem other && other != item) := by
  simp [hasItem, removeItem, bne, Bool.beq_eq_decide_eq]

namespace Agree

/-- Writing a flag keeps two states in agreement, whatever the flag held. Both hold the same value
afterwards. -/
theorem setFlag (agree : left.Agree right) (name : String) (value : Flag) :
    (left.setFlag name value).Agree (right.setFlag name value) where
  currentScene := agree.currentScene
  flags other := by rw [flagIsSet_setFlag, flagIsSet_setFlag, agree.flags]
  items := agree.items

/-- Adding an item keeps two states in agreement, however many copies they hold. Whether it is held
is all that agreement asks. -/
theorem addItem (agree : left.Agree right) (item : String) :
    (left.addItem item).Agree (right.addItem item) where
  currentScene := agree.currentScene
  flags := agree.flags
  items other := by rw [hasItem_addItem, hasItem_addItem, agree.items]

/-- Removing an item keeps two states in agreement, since no copy is left in either. The events of
the two removals may tell different counts. -/
theorem removeItem (agree : left.Agree right) (item : String) :
    (left.removeItem item).Agree (right.removeItem item) where
  currentScene := agree.currentScene
  flags := agree.flags
  items other := by rw [hasItem_removeItem, hasItem_removeItem, agree.items]

end Agree

end State

/-- What one effect comes to in two states: both are changed, or it is ignored for one
reason in both, or it asks for a restart in both. The states agree afterwards, but the
events may tell different counts. -/
inductive Applied.Agree : Applied × State → Applied × State → Prop where
  | changed {event other : Event} {left right : State} (agree : left.Agree right) :
      Agree (.changed event, left) (.changed other, right)
  | ignored (why : Ignored) {left right : State} (agree : left.Agree right) :
      Agree (.ignored why, left) (.ignored why, right)
  | restart {left right : State} (agree : left.Agree right) :
      Agree (.restart, left) (.restart, right)

/-- What some effects come to in two states: as much is ignored, a restart is asked for
in both or in neither, and the states agree. -/
structure Outcome.Agree (left right : Outcome × State) : Prop where
  ignored : left.1.ignored = right.1.ignored
  restart : left.1.restart = right.1.restart
  state : left.2.Agree right.2

/-- A number is written to both of two states that agree, or to neither. Whether the setting is a
number has nothing to do with the state. -/
theorem State.Agree.setNumber (agree : left.Agree right) (field : StateField) (value : Setting)
    {writeLeft writeRight : Int64 → State}
    (written : ∀ number, (writeLeft number).Agree (writeRight number)) :
    Applied.Agree (left.setNumber field value writeLeft)
      (right.setNumber field value writeRight) := by
  unfold State.setNumber
  cases value.toInteger? with
  | none => exact .ignored _ agree
  | some number => exact .changed (written number)

namespace Effect

/-- An effect comes to the same in two states that agree.

Proof: by the constructors of effects. Flags and items keep the agreement, and fields are outside
of it. -/
theorem applySingle_agree (effect : Effect) (agree : left.Agree right) :
    Applied.Agree (effect.applySingle left) (effect.applySingle right) := by
  -- Day, clock and name are outside of the agreement.
  have same {leftDay rightDay leftMinutes rightMinutes : Int64} {leftName rightName : String} :
      ({ left with day := leftDay, minutes := leftMinutes, playerName := leftName } : State).Agree
        { right with day := rightDay, minutes := rightMinutes, playerName := rightName } :=
    ⟨agree.currentScene, agree.flags, agree.items⟩
  cases effect with
  | setFlag flag value => exact .changed (agree.setFlag flag value)
  | addItem item => exact .changed (agree.addItem item)
  | removeItem item => exact .changed (agree.removeItem item)
  | setValue property value =>
    simp only [applySingle]
    cases StateField.named? property with
    | none => exact .ignored _ agree
    | some field =>
      cases field with
      | day => exact agree.setNumber .day value fun _ => same
      | minutes => exact agree.setNumber .minutes value fun _ => same
      | playerName => exact .changed same
  | restart => exact .restart agree
  | unknown => exact .ignored .unknownType agree

/-- Effects come to the same in two states that agree.

Proof: by induction on the effects, along the rest of the list in the two states reached. -/
theorem applyAll_agree (effects : List Effect) (agree : left.Agree right) :
    Outcome.Agree (applyAll effects left) (applyAll effects right) := by
  induction effects generalizing left right with
  | nil => exact ⟨rfl, rfl, agree⟩
  | cons first rest inductionHypothesis =>
    have alike := first.applySingle_agree agree
    unfold applyAll
    generalize first.applySingle left = onLeft at alike
    generalize first.applySingle right = onRight at alike
    cases alike with
    | changed agree =>
      have onward := inductionHypothesis agree
      exact ⟨onward.ignored, onward.restart, onward.state⟩
    | ignored why agree =>
      have onward := inductionHypothesis agree
      exact ⟨congrArg (· + 1) onward.ignored, onward.restart, onward.state⟩
    | restart agree => exact ⟨rfl, rfl, agree⟩

end Effect

/-- A typed text is kept alike in two states that agree. It goes to the same place in both: which
place that is depends only on the name of the variable. -/
theorem State.Agree.store (agree : left.Agree right) (variableName : Option String)
    (value : String) :
    Outcome.Agree (left.store variableName value) (right.store variableName value) := by
  unfold State.store
  split
  · exact Effect.applyAll_agree _ agree
  · split
    · exact Effect.applyAll_agree _ agree
    · split
      · exact Effect.applyAll_agree _ agree
      · exact ⟨rfl, rfl, agree.currentScene, agree.flags, agree.items⟩

/-- Time that passes keeps two states in agreement. The clock is outside of the agreement, and so
is a clock that has come to its bound in one state only. -/
theorem State.Agree.later (agree : left.Agree right) (cost : Option Int64) :
    (left.later cost).Agree (right.later cost) := by
  cases cost with
  | none => exact agree
  | some minutes => exact ⟨agree.currentScene, agree.flags, agree.items⟩

/-! ## Resolutions -/

namespace Narrator

/-- Of some choices the same ones are visible in two states that agree. Their texts may differ, so
the choices are compared by their positions. -/
theorem index_visibleChoices_of_agree (narrator : Narrator) (agree : left.Agree right)
    (choices : List Choice) :
    (narrator.visibleChoices left choices).map VisibleChoice.index =
      (narrator.visibleChoices right choices).map VisibleChoice.index := by
  unfold visibleChoices
  simp only [narrator.allows_of_agree agree, List.map_map, Function.comp_def]

/-- The place of an ending does not depend on what its message tells. The message may tell the
player's name or the time, which the two states need not share. -/
theorem finish_agree (narrator : Narrator) (agree : left.Agree right) (ending : Ending)
    (own : Option String) (path : List NodeId) :
    Turn.Agree ⟨.ok ⟨narrator.finish left ending own, {}, path⟩, left⟩
      ⟨.ok ⟨narrator.finish right ending own, {}, path⟩, right⟩ := by
  refine ⟨?_, agree⟩
  simp only [Except.map, Resolved.course, finish, Resolution.place]

/-- A scene is entered alike from two states that agree, if it is told alike in any two such
states.

Proof: the move to the scene and the time that it sets keep the agreement, the effects of the entry
do so too, and the scene is told in the states that they reach. -/
theorem enter_agree (agree : left.Agree right) (id : NodeId) (scene : SceneInfo)
    (path : List NodeId) {telling : State → Scene}
    (told : ∀ {left right : State}, left.Agree right →
      (Resolution.interactive (telling left)).place =
        (Resolution.interactive (telling right)).place) :
    (enter left id scene path telling).Agree (enter right id scene path telling) := by
  have arrived : (arrival left id scene).Agree (arrival right id scene) :=
    ⟨rfl, agree.flags, agree.items⟩
  have applied := Effect.applyAll_agree scene.effects arrived
  unfold enter
  generalize Effect.applyAll scene.effects (arrival left id scene) = onLeft at applied
  generalize Effect.applyAll scene.effects (arrival right id scene) = onRight at applied
  obtain ⟨leftOutcome, leftEntered⟩ := onLeft
  obtain ⟨rightOutcome, rightEntered⟩ := onRight
  refine ⟨?_, applied.state⟩
  have place : (if leftOutcome.restart then Resolution.restart
        else .interactive (telling leftEntered)).place =
      (if rightOutcome.restart then Resolution.restart
        else .interactive (telling rightEntered)).place := by
    have restart : leftOutcome.restart = rightOutcome.restart := applied.restart
    rw [restart]
    split
    · rfl
    · exact told applied.state
  have ignored : leftOutcome.ignored = rightOutcome.ignored := applied.ignored
  simp only [Except.map, Resolved.course, place, ignored]

/-- A name is resolved alike in two states that agree: every branch on the way is taken in the same
direction.

Proof: the walk is the same in both states, since every branch on it is. It then stops at the same
place, which is taken kind by kind. -/
theorem resolveFrom_agree (narrator : Narrator) (agree : left.Agree right) (id : NodeId) :
    (narrator.resolveFrom left id).Agree (narrator.resolveFrom right id) := by
  unfold resolveFrom
  rw [narrator.allows_of_agree agree]
  generalize narrator.graph.walk (fun node => narrator.allows right node.condition) [] id = walked
  obtain ⟨path, stop⟩ := walked
  cases stop with
  | choice id node =>
    refine enter_agree agree id node.scene path fun entered => ?_
    simp only [Resolution.place, choiceScene, narrator.index_visibleChoices_of_agree entered]
  | input id node =>
    refine enter_agree agree id node.scene path fun entered => ?_
    simp only [Resolution.place, inputScene]
  | ending ending message => exact narrator.finish_agree agree ending message path
  | missing id | dangling id branch | cycle id => exact ⟨rfl, agree⟩

/-- A link is followed alike in two states that agree. A link without a target fails in both, and
an ending without a node is the same ending. -/
theorem follow_agree (narrator : Narrator) (agree : left.Agree right) (origin : NodeId)
    (next : Option NodeId) (choice : Option Choice) :
    (narrator.follow left origin next choice).Agree
      (narrator.follow right origin next choice) := by
  cases next with
  | none => exact ⟨rfl, agree⟩
  | some target =>
    simp only [follow]
    split
    · exact narrator.finish_agree agree _ _ []
    · exact narrator.resolveFrom_agree agree target

end Narrator

/-! ## Actions -/

/-- How an action begins in two states: it is refused with one error, or it asks for a
restart in both, or it leaves by one link. As much has been ignored in both. -/
inductive Beginning.Agree : Beginning → Beginning → Prop where
  | refused (error : StoryError) : Agree (.refused error) (.refused error)
  | restarting {outcome other : Outcome} {left right : State}
      (ignored : outcome.ignored = other.ignored) (agree : left.Agree right) :
      Agree (.restarting outcome left) (.restarting other right)
  | leaving {outcome other : Outcome} {left right : State}
      (ignored : outcome.ignored = other.ignored) (agree : left.Agree right)
      (next : Option NodeId) (choice : Option Choice) :
      Agree (.leaving outcome left next choice) (.leaving other right next choice)

/-- A choice begins alike in two states that agree. The effects are the same list in both states,
so a restart among them stops both. -/
theorem Choice.beginning_agree (choice : Choice) (agree : left.Agree right) :
    (choice.beginning left).Agree (choice.beginning right) := by
  have applied := Effect.applyAll_agree choice.effects agree
  unfold beginning
  dsimp only
  rw [applied.restart]
  split
  · exact .restarting applied.ignored applied.state
  · exact .leaving applied.ignored (applied.state.later choice.timeCost) choice.next (some choice)

/-- Turns that agree do so after outcomes with as much ignored. Of the earlier outcomes only the
number of ignored effects is part of a course. -/
theorem Turn.Agree.after {turn other : Turn} {outcome otherOutcome : Outcome}
    (agree : turn.Agree other) (ignored : outcome.ignored = otherOutcome.ignored) :
    (turn.after outcome).Agree (other.after otherOutcome) := by
  refine ⟨?_, agree.state⟩
  have course := agree.course
  obtain ⟨answer, state⟩ := turn
  obtain ⟨otherAnswer, otherState⟩ := other
  cases answer with
  | error error =>
    cases otherAnswer with
    | error otherError => exact course
    | ok otherResolved => cases course
  | ok resolved =>
    cases otherAnswer with
    | error otherError => cases course
    | ok otherResolved =>
      obtain ⟨place, path, later⟩ := Course.mk.inj (Except.ok.inj course)
      simp only [Turn.after, Except.map, Resolved.course, Resolved.after, Outcome.merge, place,
        path, ignored, later]

namespace Narrator

/-- An action begins alike in two states that agree.

Proof: by the node at the current scene, which is one node, and the action. A choice is visible in
both states or in neither. -/
theorem beginning_agree (narrator : Narrator) (agree : left.Agree right) (action : Action) :
    (narrator.beginning left action).Agree (narrator.beginning right action) := by
  unfold beginning
  rw [agree.currentScene]
  cases narrator.graph.node? right.currentScene with
  | none => exact .refused _
  | some node =>
    cases node with
    | choice node =>
      cases action with
      | choose index =>
        simp only [beginningAtChoices, visible?, narrator.allows_of_agree agree, agree.currentScene]
        split
        · exact Choice.beginning_agree _ agree
        · exact .refused _
      | advance =>
        simp only [beginningAtChoices, agree.currentScene]
        split
        · exact .leaving rfl agree node.next none
        · exact .refused _
      | submit input =>
        simp only [beginningAtChoices, agree.currentScene]
        exact .refused _
    | input node =>
      cases action with
      | submit input =>
        simp only [InputNode.beginning]
        split
        · exact .refused _
        · have stored := agree.store node.variableName (Text.trim input)
          exact .leaving stored.ignored stored.state node.next none
      | _ => exact .refused _
    | _ => cases action <;> exact .refused _

/-- An action is carried out alike in two states that agree.

Proof: the two beginnings agree, and where they leave, they leave by one link, which is followed
alike. -/
theorem perform_agree (narrator : Narrator) (agree : left.Agree right) (action : Action) :
    (narrator.perform left action).Agree (narrator.perform right action) := by
  rw [perform_eq, perform_eq]
  have begun := narrator.beginning_agree agree action
  generalize narrator.beginning left action = onLeft at begun
  generalize narrator.beginning right action = onRight at begun
  cases begun with
  | refused error => exact ⟨rfl, agree⟩
  | restarting ignored changed =>
    refine ⟨?_, changed⟩
    simp only [conclude, Except.map, Resolved.course, ignored]
  | leaving ignored changed next choice =>
    simp only [conclude, agree.currentScene]
    exact (narrator.follow_agree changed right.currentScene next choice).after ignored

/-- A request is answered alike in two states that agree. This is the step of the simulation, and
it covers failures as well as successes. -/
theorem respond_agree (narrator : Narrator) (agree : left.Agree right) (request : Request) :
    (narrator.respond left request).Agree (narrator.respond right request) := by
  cases request with
  | resolve id => exact narrator.resolveFrom_agree agree id
  | act action => exact narrator.perform_agree agree action

/-- The course of a story depends only on the scene where it stands, on which flags are set, and on
which items are held. Two states that agree on these answer any requests, one after another, with
the same errors or the same course, and agree after each of them.

Nothing is assumed of the graph, of the requests, or of what the states hold beyond their
agreement. A request that fails in one state fails in the other, and the states that the two
failures leave behind agree again.

Proof: by induction on the requests. One request is answered alike and leaves states that agree,
and the others are asked of those. -/
theorem agreeing_states_take_one_course (narrator : Narrator) (agree : left.Agree right)
    (requests : List Request) :
    List.Forall₂ Turn.Agree (narrator.turns left requests) (narrator.turns right requests) := by
  induction requests generalizing left right with
  | nil => exact .nil
  | cons request rest inductionHypothesis =>
    have alike := narrator.respond_agree agree request
    exact .cons alike (inductionHypothesis alike.state)

/-- A toll bridge. It is crossed with a coin, and behind it waits a friend for those who
are known. -/
def tollBridge : Narrator :=
  { graph :=
    { start := "bridge",
      nodes := ((Table.empty.insert "far side" (.logic
          { condition := some (.flag "known"), nextTrue := some "win",
            nextFalse := some "bridge" })).insert "bridge" (.choice
          { choices := [{ condition := some (.item "Coin"), next := some "far side",
                          effects := [.removeItem "Coin"] }] })) } }

/-- Whoever is known by name and has three coins takes the course of one who is just
known and has a single coin, at another hour of another day. -/
theorem travellers_take_one_course :
    let rich : State :=
      { flags := (∅ : Table Flag).insert "known" (.text "Ada"),
        inventory := ["Coin", "Lamp", "Coin", "Coin"], day := 0, minutes := 480,
        playerName := "Ada", currentScene := "bridge" }
    let poor : State :=
      { flags := ((∅ : Table Flag).insert "lost" (.bool false)).insert "known" (.bool true),
        inventory := ["Lamp", "Coin"], day := 6, minutes := -5,
        playerName := "Player", currentScene := "bridge" }
    rich.Agree poor ∧
      ∀ requests, List.Forall₂ Turn.Agree (tollBridge.turns rich requests)
        (tollBridge.turns poor requests) := by
  intro rich poor
  have flags (name : String) : rich.flagIsSet name = poor.flagIsSet name := by
    simp only [rich, poor, State.flagIsSet, Table.get?_insert, Table.get?_empty]
    split
    · rfl
    · split <;> rfl
  have items (item : String) : rich.hasItem item = poor.hasItem item := by
    simp only [rich, poor, State.hasItem, List.contains_cons, List.contains_nil]
    cases item == "Coin" <;> cases item == "Lamp" <;> rfl
  have agree : rich.Agree poor := ⟨rfl, flags, items⟩
  exact ⟨agree, agreeing_states_take_one_course tollBridge agree⟩

end Narrator

end Storyline
