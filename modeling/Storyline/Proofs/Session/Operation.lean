import Storyline.Proofs.Play.Failure
import Storyline.Proofs.Play.View
import Storyline.Proofs.State.Snapshot

/-!
# Operations on a session

A host calls a session: it makes a move, or restores a snapshot, and is answered. Besides it
works the engine that reveals the text that is shown. Calls and reveals may follow each
other in any order, and any of them may fail.

All of them keep the story and the settings, and a reveal keeps everything but the engine.
A call ends in one of three ways. It tells a resolution, and if that is a scene, a view of
the new state tells it again. Or a start of the story fails and leaves its fresh state
behind. Or something else fails, and play stands where it stood. A call that fails leaves
the last resolution in place.
-/

namespace Storyline.Session

/-- What a session is asked for. A move is a start or an action of the player. -/
inductive Call where
  | move (move : Move)
  | restore (bytes : Snapshot.Bytes)

/-- Answers a call. The session that comes with the answer is the same one after the call. -/
def call (session : Session) : Call → Except RestoreError Resolved × Session
  | .move move => ((session.move move).1.mapError .story, (session.move move).2)
  | .restore bytes => session.restore bytes

/-- What a host does with the text of a session: it starts to reveal what is shown, or a text of
its own, and lets the engine go on, finish, or stop. Handles may be stale or made up. -/
inductive RevealStep where
  | current
  | text (text : String)
  | tick
  | skip (handle : Nat)
  | cancel (handle : Nat)
  | runToEnd

/-- Works the engine. What the engine reports on the way is not kept here. -/
def reveal (session : Session) : RevealStep → Session
  | .current => session.revealCurrent.2
  | .text text => { session with engine := (session.engine.start text).1 }
  | .tick => { session with engine := session.engine.tick.1 }
  | .skip handle => { session with engine := (session.engine.skip handle).2.1 }
  | .cancel handle => { session with engine := (session.engine.cancel handle).2 }
  | .runToEnd => { session with engine := session.engine.runToEnd.1 }

/-- Anything that a host does with a session. Only a call is answered with a resolution. -/
inductive Operation where
  | call (call : Call)
  | reveal (step : RevealStep)

/-- Carries out an operation. The answer of a call is left out. -/
def operate (session : Session) : Operation → Session
  | .call call => (session.call call).2
  | .reveal step => session.reveal step

/-- A session after some operations. They are carried out in their order, whether they succeed or
fail. -/
def after (session : Session) (operations : List Operation) : Session :=
  operations.foldl operate session

/-- The scene that a session shows, if it shows one. An ending and a restart are no scenes. -/
def shown? (session : Session) : Option Scene := session.current.bind Resolved.scene?

/-- Two sessions play one story with the same settings. Their states, their engines and what they
show may differ. -/
structure SameStory (left right : Session) : Prop where
  graph : left.graph = right.graph
  setup : left.setup = right.setup

namespace SameStory

variable {left middle right : Session}

/-- A session plays its own story. -/
theorem refl (session : Session) : session.SameStory session := by
  constructor
  · rfl
  · rfl

/-- What plays the story of another session plays that of a third one with it. -/
theorem trans (first : left.SameStory middle) (second : middle.SameStory right) :
    left.SameStory right := by
  constructor
  · exact first.graph.trans second.graph
  · exact first.setup.trans second.setup

/-- Sessions of one story are told by one narrator. A narrator is made of the story and the
settings alone. -/
theorem narrator_eq (same : left.SameStory right) : left.narrator = right.narrator := by
  unfold Session.narrator
  rw [same.graph, same.setup]

end SameStory

variable {session : Session}

/-! ## What is kept -/

/-- A reveal changes nothing but the engine. This holds of handles that the engine does not know,
too. -/
theorem reveal_eq (session : Session) (step : RevealStep) :
    ∃ engine, session.reveal step = { session with engine } := by
  cases step with
  | current =>
    simp only [Session.reveal, revealCurrent]
    split <;> exact ⟨_, rfl⟩
  | _ => exact ⟨_, rfl⟩

/-- Dropping a reveal keeps all but the engine. If nothing is being revealed the engine stays as
well. -/
theorem stopReveal_eq (session : Session) :
    ∃ engine, session.stopReveal = { session with engine } := by
  unfold stopReveal
  split
  · exact ⟨_, rfl⟩
  · exact ⟨session.engine, rfl⟩

/-! ## How a call ends -/

/-- All ways in which a call ends. A failed start is told apart, since it alone moves play to a
place that it does not show. -/
inductive Ends (session : Session) : Except RestoreError Resolved × Session → Prop where
  | told {resolved : Resolved} {state : State} (engine : Reveal.Engine)
      (shows : ∀ scene, resolved.scene? = some scene → session.narrator.Shows state scene) :
      Ends session (.ok resolved, { session with state, engine, current := some resolved })
  | unstarted {error : StoryError} (engine : Reveal.Engine)
      (failed : session.start.1 = .error error) :
      Ends session (.error (.story error),
        { session with engine, state := .fresh session.setup session.graph.start })
  | failed {error : RestoreError} {state : State}
      (unmoved : state.currentScene = session.state.currentScene)
      (unwritten : ¬ session.graph.HasScene session.state.currentScene → state = session.state) :
      Ends session (.error error, { session with state })

/-- A turn that succeeds is taken over with its resolution. The engine goes on with what it was
revealing. -/
theorem settle_of_ok {turn : Turn} {resolved : Resolved} (answered : turn.answer = .ok resolved) :
    session.settle turn =
      (.ok resolved, { session with state := turn.state, current := some resolved }) := by
  unfold settle
  rw [answered]

/-- Of a turn that fails only the state is taken over. What was shown is still shown. -/
theorem settle_of_error {turn : Turn} {error : StoryError} (failed : turn.answer = .error error) :
    session.settle turn = (.error error, { session with state := turn.state }) := by
  unfold settle
  rw [failed]

/-- The answer to a start is that to the start's name in a fresh state. Nothing of the session is
asked but its story and its settings. -/
theorem start_answer (session : Session) :
    session.start.1 = (session.narrator.resolveFrom
      (.fresh session.setup session.graph.start) session.graph.start).answer := by
  unfold start
  exact settle_answer _ _

/-- How a start ends.

Proof: the engine is stopped first, then the turn is taken over. If the turn fails, its state is
the fresh one, and if it tells a scene, a view of its state shows that scene. -/
theorem ends_start (session : Session) :
    session.Ends (session.start.1.mapError .story, session.start.2) := by
  obtain ⟨engine, stopped⟩ := session.stopReveal_eq
  have answer := session.start_answer
  have started : session.start = settle { session with engine } (session.narrator.resolveFrom
      (.fresh session.setup session.graph.start) session.graph.start) := by
    rw [← stopped]
    rfl
  cases answered : session.start.1 with
  | ok resolved =>
    have resolves := answer.symm.trans answered
    rw [started, settle_of_ok resolves]
    exact .told engine fun scene shown => Narrator.resolveFrom_shows resolves shown
  | error error =>
    have stranded := answer.symm.trans answered
    rw [started, settle_of_error stranded, (Narrator.resolveFrom_error stranded).1]
    exact .unstarted engine answered

/-- How an action ends. Whether play was over is not asked here; the session asks before it
performs anything.

Proof: an action that fails is left where its beginning left it. That is at the same scene, and
where no scene is the beginning is refused and writes nothing. -/
theorem ends_settle_perform (session : Session) (action : Action) :
    let settled := session.settle (session.narrator.perform session.state action)
    session.Ends (settled.1.mapError .story, settled.2) := by
  intro settled
  have unmoved := session.narrator.beginning_currentScene session.state action
  cases answered : (session.narrator.perform session.state action).answer with
  | ok resolved =>
    rw [show settled = _ from settle_of_ok answered]
    exact .told session.engine fun scene shown => Narrator.perform_shows answered shown
  | error error =>
    have reached := (Narrator.perform_error answered).1
    rw [show settled = _ from settle_of_error answered, reached]
    refine .failed unmoved fun nowhere => ?_
    have absent : ¬ session.narrator.graph.HasScene session.state.currentScene := nowhere
    obtain ⟨refusal, begun⟩ := Narrator.beginning_of_no_scene absent action
    rw [begun]
    rfl

/-- All ways in which a restore from some bytes ends. Only the first one changes the session. -/
inductive Restores (session : Session) (bytes : Snapshot.Bytes) :
    Except RestoreError Resolved × Session → Prop where
  | restored {state : State} {scene : Scene} (decoded : Snapshot.read bytes = .ok state)
      (shows : session.narrator.Shows state scene) :
      Restores session bytes (.ok { resolution := .interactive scene },
        { session with state, current := some { resolution := .interactive scene } })
  | unreadable {failure : Snapshot.Failure} (undecoded : Snapshot.read bytes = .error failure) :
      Restores session bytes (.error (.snapshot failure), session)
  | missing {state : State} (decoded : Snapshot.read bytes = .ok state)
      (absent : session.graph.node? state.currentScene = none) :
      Restores session bytes (.error (.story (.sceneNotFound state.currentScene)), session)
  | sceneless {state : State} {node : Node} (decoded : Snapshot.read bytes = .ok state)
      (found : session.graph.node? state.currentScene = some node) (other : node.kind? = none) :
      Restores session bytes
        (.error (.story (.wrongSceneKind state.currentScene .choice)), session)

/-- A restore ends in one of these ways. Nothing is assumed of the bytes.

Proof: by what the bytes hold, and by what stands under the name of the current scene. -/
theorem restores_restore (session : Session) (bytes : Snapshot.Bytes) :
    session.Restores bytes (session.restore bytes) := by
  unfold restore
  cases decoded : Snapshot.read bytes with
  | error failure => exact .unreadable decoded
  | ok state =>
    dsimp only
    unfold Narrator.view
    dsimp only
    cases found : session.narrator.graph.node? state.currentScene with
    | none => exact .missing decoded found
    | some node =>
      cases node with
      | choice node | input node =>
        apply Restores.restored decoded
        simp only [Narrator.Shows, Narrator.view, found]
      | logic node | death message | win message => exact .sceneless decoded found rfl

/-- How a restore ends among the calls. A restore is never a failed start. -/
theorem ends_restore (session : Session) (bytes : Snapshot.Bytes) :
    session.Ends (session.restore bytes) := by
  have restores := session.restores_restore bytes
  generalize session.restore bytes = ended at restores
  cases restores with
  | restored decoded shows =>
    refine .told session.engine fun scene shown => ?_
    obtain rfl := Option.some.inj shown
    exact shows
  | unreadable undecoded | missing decoded absent | sceneless decoded found other =>
    exact .failed rfl fun _ => rfl

/-- Bytes that save a state restore it, if it fits and play stands at a scene in it. What was shown
before, and whether play was over, does not count. -/
theorem restore_of_saves {bytes : Snapshot.Bytes} {state : State} {scene : Scene}
    (saves : Snapshot.Saves bytes state) (fits : Snapshot.Fits state)
    (shows : session.narrator.Shows state scene) :
    session.restore bytes =
      (.ok { resolution := .interactive scene },
        { session with state, current := some { resolution := .interactive scene } }) := by
  have read : Snapshot.read bytes = .ok state := by
    have whole := Snapshot.read_of_saves saves fits []
    rwa [List.append_nil] at whole
  have viewed : session.narrator.view state = .ok { resolution := .interactive scene } := shows
  simp only [restore, read, viewed]

/-- A call ends in one of these ways.

Proof: by cases of the call. A move comes to a start, to a refusal or to an action. -/
theorem ends_call (session : Session) (call : Call) : session.Ends (session.call call) := by
  cases call with
  | restore bytes => exact session.ends_restore bytes
  | move move =>
    unfold Session.call
    dsimp only
    rcases session.move_cases move with same | same | ⟨action, same⟩
    · rw [same]
      exact session.ends_start
    · rw [same]
      exact .failed rfl fun _ => rfl
    · rw [same]
      exact session.ends_settle_perform action

/-- A call keeps the story. It may fail or succeed. -/
theorem call_sameStory (session : Session) (call : Call) :
    (session.call call).2.SameStory session := by
  have ends := session.ends_call call
  generalize session.call call = ended at ends
  cases ends with
  | _ => exact ⟨rfl, rfl⟩

/-- An operation keeps the story. So whatever is known of the story is known of it throughout. -/
theorem operate_sameStory (session : Session) (operation : Operation) :
    (session.operate operation).SameStory session := by
  cases operation with
  | call call => exact session.call_sameStory call
  | reveal step =>
    obtain ⟨engine, same⟩ := session.reveal_eq step
    simp only [operate, same]
    exact ⟨rfl, rfl⟩

/-- Operations keep the story.

Proof: by induction on the operations. -/
theorem after_sameStory (session : Session) (operations : List Operation) :
    (session.after operations).SameStory session := by
  induction operations generalizing session with
  | nil => exact .refl session
  | cons operation rest inductionHypothesis =>
    exact (inductionHypothesis _).trans (session.operate_sameStory operation)

end Storyline.Session
