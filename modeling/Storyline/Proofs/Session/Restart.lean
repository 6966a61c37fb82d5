import Storyline.Proofs.Play.Batches
import Storyline.Proofs.Session.Operation

/-!
# Starting again

A story may ask to start again: by an effect of the choice that is taken, or by an effect of
the entry of the scene where its link leads, behind any number of branches. By then effects
have been applied, time may have passed, and a text may have been stored.

A session that is asked to start again forgets all of it. It answers as the first start of
the same story and settings does, and is left in the same state, which is that of one
resolution of the start in a fresh state. If that resolution asks to start again once more,
the host is told so and nothing else is done.
-/

namespace Storyline

/-! ## What asks to start again -/

/-- The effects of the entry of a node. Branches and endings are not entered and have none. -/
def Node.entryEffects : Node → List Effect
  | .choice node => node.scene.effects
  | .input node => node.scene.effects
  | _ => []

/-- A name from which a trail leads to a node is itself the name of a node. It is the node's own
name or that of a branch. -/
theorem Graph.Leads.contains {graph : Graph} {chooses : LogicNode → Bool} {start id : NodeId}
    {passed : List NodeId} {node : Node} (led : graph.Leads chooses start passed id)
    (found : graph.node? id = some node) : graph.contains start = true := by
  cases led with
  | here => exact contains_of_node? found
  | past branch => exact contains_of_node? branch

namespace Narrator

variable {narrator : Narrator} {state : State} {action : Action}

/-- All ways in which an action asks to start again: there is a restart among the effects of the
choice that is taken, or among those of the entry of the scene where the link of the action leads.
Where the link leads is decided in the state that the beginning leaves, by the branches passed. -/
inductive AsksRestart (narrator : Narrator) (state : State) : Action → Prop where
  | byChoice {node : ChoiceNode} {index : Nat} {choice : Choice}
      (found : narrator.graph.node? state.currentScene = some (.choice node))
      (visible : narrator.visible? state node index = some choice)
      (listed : .restart ∈ choice.effects) : AsksRestart narrator state (.choose index)
  | byEntry {action : Action} {outcome : Outcome} {changed : State} {target id : NodeId}
      {choice : Option Choice} {passed : List NodeId} {node : Node}
      (left : narrator.beginning state action = .leaving outcome changed (some target) choice)
      (led : narrator.graph.Leads (narrator.branching changed) target passed id)
      (found : narrator.graph.node? id = some node) (listed : .restart ∈ node.entryEffects) :
      AsksRestart narrator state action

/-- An action asks to start again by its beginning exactly if a choice with a restart among its
effects is taken.

Proof: a choice that is taken begins with its effects; the beginning restarts if they ask for it,
and nothing else begins so. -/
theorem beginning_restarting_iff :
    (∃ outcome changed, narrator.beginning state action = .restarting outcome changed) ↔
      ∃ node index choice, action = .choose index ∧
        narrator.graph.node? state.currentScene = some (.choice node) ∧
        narrator.visible? state node index = some choice ∧ .restart ∈ choice.effects := by
  constructor
  · rintro ⟨outcome, changed, begun⟩
    have begins := narrator.begins_beginning state action
    rw [begun] at begins
    cases begins with
    | @restarting node index choice _ _ found visible applied asked =>
      have restarted : (Effect.applyAll choice.effects state).1.restart = true := by rwa [applied]
      exact ⟨node, index, choice, rfl, found, visible, Effect.applyAll_restart_iff.mp restarted⟩
  · rintro ⟨node, index, choice, rfl, found, visible, listed⟩
    have asked : (Effect.applyAll choice.effects state).1.restart = true :=
      Effect.applyAll_restart_iff.mpr listed
    simp only [beginning, found, beginningAtChoices, visible, Choice.beginning, asked, if_true]
    exact ⟨_, _, rfl⟩

/-- Where play arrives it is asked to start again exactly if there is a restart among the effects
of the entry. An ending is reached without effects, so it never asks. -/
theorem Arrives.restart_iff {path : List NodeId} {id : NodeId} {node : Node} {turn : Turn}
    {resolved : Resolved} (arrived : narrator.Arrives state path id node turn)
    (answered : turn.answer = .ok resolved) :
    resolved.resolution = .restart ↔ .restart ∈ node.entryEffects := by
  cases arrived with
  | death | win =>
    cases answered
    simp [Node.entryEffects, finish]
  | choice node applied | input node applied =>
    cases answered
    rw [Node.entryEffects, ← Effect.applyAll_restart_iff, applied]
    split <;> simp [*]

/-- A link is followed to a restart exactly if it leads to a node with a restart among the effects
of its entry.

Proof: by the ways in which a link is followed. A missing link fails, and a link to an ending ends
play, unless a node has that name; any other link leads past branches to where play arrives. -/
theorem follow_restart_iff {origin : NodeId} {next : Option NodeId} {choice : Option Choice} :
    (∃ resolved, (narrator.follow state origin next choice).answer = .ok resolved ∧
        resolved.resolution = .restart) ↔
      ∃ target passed id node, next = some target ∧
        narrator.graph.Leads (narrator.branching state) target passed id ∧
        narrator.graph.node? id = some node ∧ .restart ∈ node.entryEffects := by
  rcases narrator.follow_cases state origin next choice with
    ⟨rfl, same⟩ | ⟨target, ending, rfl, missing, -, same⟩ | ⟨target, rfl, -, same⟩
  · rw [same]
    constructor
    · rintro ⟨resolved, answered, -⟩
      cases answered
    · rintro ⟨_, _, _, _, absent, -⟩
      cases absent
  · rw [same]
    constructor
    · rintro ⟨resolved, answered, restarts⟩
      cases answered
      cases restarts
    · rintro ⟨other, _, _, _, equal, led, found, -⟩
      obtain rfl := Option.some.inj equal
      rw [led.contains found] at missing
      cases missing
  · rw [same]
    constructor
    · rintro ⟨resolved, answered, restarts⟩
      obtain ⟨id, node, led, found, arrived⟩ := resolveFrom_ok answered
      exact ⟨target, _, id, node, rfl, led, found, (arrived.restart_iff answered).mp restarts⟩
    · rintro ⟨other, passed, id, node, equal, led, found, listed⟩
      obtain rfl := Option.some.inj equal
      have shown (branch : LogicNode) : node ≠ .logic branch := by
        rintro rfl
        cases listed
      obtain ⟨-, arrived⟩ := resolveFrom_arrives led found shown
      obtain ⟨resolved, answered, -⟩ := arrived.answer
      exact ⟨resolved, answered, (arrived.restart_iff answered).mpr listed⟩

/-- An action comes to a restart exactly if it asks for one in one of the two ways.

Proof: an action has a beginning and then, if it leaves, a link that is followed. It comes to a
restart by the one or by the other, and each has been characterised. -/
theorem perform_restart_iff :
    (∃ resolved, (narrator.perform state action).answer = .ok resolved ∧
        resolved.resolution = .restart) ↔ narrator.AsksRestart state action := by
  constructor
  · rintro ⟨resolved, answered, restarts⟩
    rcases perform_ok answered with
      ⟨outcome, changed, begun, -⟩ |
        ⟨outcome, changed, next, choice, followed, begun, reached, rfl, -⟩
    · obtain ⟨node, index, choice, rfl, found, visible, listed⟩ :=
        beginning_restarting_iff.mp ⟨outcome, changed, begun⟩
      exact .byChoice found visible listed
    · obtain ⟨target, passed, id, node, rfl, led, found, listed⟩ :=
        follow_restart_iff.mp ⟨followed, reached, restarts⟩
      exact .byEntry begun led found listed
  · intro asks
    rw [perform_eq]
    cases asks with
    | byChoice found visible listed =>
      obtain ⟨outcome, changed, begun⟩ :=
        beginning_restarting_iff.mpr ⟨_, _, _, rfl, found, visible, listed⟩
      rw [begun]
      exact ⟨_, rfl, rfl⟩
    | @byEntry _ outcome changed target id choice passed node left led found listed =>
      obtain ⟨followed, answered, restarts⟩ :
          ∃ followed, (narrator.follow changed state.currentScene (some target) choice).answer =
            .ok followed ∧ followed.resolution = .restart :=
        follow_restart_iff.mpr ⟨target, passed, id, node, rfl, led, found, listed⟩
      rw [left]
      exact ⟨followed.after outcome, Turn.after_ok_iff.mpr ⟨followed, answered, rfl⟩, restarts⟩

end Narrator

namespace Session

variable {session : Session} {action : Action}

/-! ## What a session does when it is asked -/

/-- What a session comes to if it is started again: the answer and the state of a first start, with
no reveal in progress. The start is resolved once in a fresh state, and what it comes to is what is
shown, also if it asks to start again. Of the session before it, only the story and the settings
appear here. -/
structure StartsAnew (session : Session) (ended : Except StoryError Resolved × Session) :
    Prop where
  answer : ended.1 = (ofGraph session.graph session.setup).start.1
  state : ended.2.state = (ofGraph session.graph session.setup).start.2.state
  silent : ended.2.engine.current = none
  once : ⟨ended.1, ended.2.state⟩ = session.narrator.resolveFrom
    (.fresh session.setup session.graph.start) session.graph.start
  shown : ∀ resolved, ended.1 = .ok resolved → ended.2.current = some resolved

/-- An action that comes to a restart starts the session, whatever the action has written.

Proof: the action is performed, since play goes on. Its answer is a restart, and a start does not
depend on the state that the action has left. -/
theorem move_of_restart {resolved : Resolved} (playing : session.isOver = false)
    (answered : (session.narrator.perform session.state action).answer = .ok resolved)
    (restarts : resolved.resolution = .restart) :
    session.move (.act action) = session.start := by
  obtain ⟨resolution, outcome, path⟩ := resolved
  obtain rfl : resolution = .restart := restarts
  have asked : ¬ session.isOver = true := by simp [playing]
  rw [move_act, act, if_neg asked]
  simp only [answered]
  exact session.start_of_state _

/-- Dropping a reveal leaves none in progress. This is also so if none was in progress. -/
theorem stopReveal_silent (session : Session) : session.stopReveal.engine.current = none := by
  unfold stopReveal
  split
  · rename_i handle revealing
    simp only [Reveal.Engine.cancel, revealing, if_true]
    rfl
  · assumption

/-- Taking over a turn keeps the engine. It keeps it whether the turn succeeds or fails. -/
theorem settle_engine (session : Session) (turn : Turn) :
    (session.settle turn).2.engine = session.engine := by
  unfold settle
  split <;> rfl

/-- The state after a start is that of its resolution. It is so for a start that fails as well. -/
theorem start_state (session : Session) :
    session.start.2.state = (session.narrator.resolveFrom
      (.fresh session.setup session.graph.start) session.graph.start).state := by
  unfold start
  exact settle_state _ _

/-- A start does as a first start does, whatever the session was before.

Proof: answer and state are those of one resolution in a fresh state, for this session as for a new
one. -/
theorem start_startsAnew (session : Session) : session.StartsAnew session.start := by
  constructor
  · rw [start_answer, start_answer]
    rfl
  · rw [start_state, start_state]
    rfl
  · rw [start, settle_engine]
    exact session.stopReveal_silent
  · rw [start_answer, start_state]
  · intro resolved answered
    rw [start, settle_answer] at answered
    rw [start, settle_of_ok answered]

/-- An action that comes to a restart asks for it in one of the two ways, and the session starts
anew: nothing of the play before is left in its state or takes part in its answer, and a start that
asks to start again does not start it once more.

It is assumed only that play is not over and that the action comes to a restart; whatever the
action has written by then is lost.

Proof: the two ways in which an action asks are those in which it comes to a restart, and the
session then does what a start does. -/
theorem restart_forgets_play (session : Session) (action : Action) {resolved : Resolved}
    (playing : session.isOver = false)
    (answered : (session.narrator.perform session.state action).answer = .ok resolved)
    (restarts : resolved.resolution = .restart) :
    session.narrator.AsksRestart session.state action ∧
      session.StartsAnew (session.move (.act action)) := by
  constructor
  · exact Narrator.perform_restart_iff.mp ⟨resolved, answered, restarts⟩
  · rw [move_of_restart playing answered restarts]
    exact session.start_startsAnew

/-- A story that starts in a cradle, where a rattle is found and play is asked to start again. From
the hall a choice leads past a branch into an abyss, where it is asked too. So a start of it asks
to start again at once. -/
def cradleStory : Graph :=
  { start := "cradle",
    nodes := (((Table.empty.insert "cradle" (.choice
        { scene := { effects := [.addItem "Rattle", .restart] } })).insert "hall" (.choice
        { choices := [{ next := some "ledge", effects := [.setFlag "bold" (.bool true)],
                        timeCost := some 5 }] })).insert "ledge" (.logic
        { nextTrue := some "abyss" })).insert "abyss" (.choice
        { scene := { effects := [.removeItem "Lamp", .restart] } }) }

/-- A session in the hall with a lamp, while the text of the hall is being revealed. None of what
it has is in the fresh state. -/
def lampInHall : Session :=
  { ofGraph cradleStory {} with
    state :=
      { inventory := ["Lamp"], day := 3, minutes := 600, playerName := "Anna",
        currentScene := "hall" },
    engine := (Reveal.Engine.start { pace := {} } "A hall.").1 }

/-- The leap into the abyss leaves nothing but the rattle of the cradle. The restart that the
cradle asks for is the answer, and the cradle is entered once. Neither the flag of the choice nor
its minutes nor the lost lamp are left, and no text is being revealed. -/
theorem leap_starts_anew :
    let ended := lampInHall.choose 0
    let restarted : Resolved :=
      ⟨.restart, ⟨[.itemAdded "Rattle", .restartRequested], 0, true⟩, []⟩
    lampInHall.engine.current = some 1 ∧
      lampInHall.narrator.AsksRestart lampInHall.state (.choose 0) ∧
      lampInHall.StartsAnew ended ∧
      ended.1 = .ok restarted ∧
      ended.2.state = { State.fresh {} "cradle" with inventory := ["Rattle"] } := by
  intro ended restarted
  let bold : State :=
    { lampInHall.state with
      flags := Table.empty.insert "bold" (.bool true), minutes := 605 }
  have led : cradleStory.Leads (lampInHall.narrator.branching bold) "ledge" ["ledge"] "abyss" :=
    .past rfl rfl (.here "abyss")
  have leaps : lampInHall.narrator.AsksRestart lampInHall.state (.choose 0) :=
    .byEntry rfl led rfl (List.mem_cons_of_mem _ List.mem_cons_self)
  obtain ⟨resolved, answered, restarts⟩ := Narrator.perform_restart_iff.mpr leaps
  obtain ⟨asks, anew⟩ := restart_forgets_play lampInHall (.choose 0) rfl answered restarts
  have entered : lampInHall.narrator.resolveFrom (.fresh {} "cradle") "cradle" =
      ⟨.ok restarted, { State.fresh {} "cradle" with inventory := ["Rattle"] }⟩ :=
    Narrator.resolveFrom_of_resolves (.arrives (.here "cradle") rfl (.choice _ rfl))
  have once := anew.once.trans entered
  exact ⟨rfl, asks, anew, congrArg Turn.answer once, congrArg Turn.state once⟩

end Session

end Storyline
