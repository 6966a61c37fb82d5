import Storyline.Proofs.Session.Operation

/-!
# Going on from a snapshot

A session that shows a scene can be saved, and any session of the same story and settings
can be restored from what was saved. The restored session shows the same scene in the same
state, and whatever it is called for from then on, it answers as the saved one does.

The scene was first told when it was entered, and is told again by a view, which enters
nothing. What comes after depends on four things only: the story, the settings, the state,
and whether play has ended. In these the two sessions match, and every call keeps it so.
The engine, and all else that a session may have shown before, have no part in it.
-/

namespace Storyline.Session

variable {left right : Session}

/-- The answers to some calls, each with the state after it. They are given in the order of the
calls. -/
def answers (session : Session) : List Call → List (Except RestoreError Resolved × State)
  | [] => []
  | call :: rest =>
    let (answer, next) := session.call call
    (answer, next.state) :: next.answers rest

/-- Two sessions agree in all that the answers to calls depend on. What they show is not among it,
as long as it ends play in both or in neither. -/
structure Matches (left right : Session) : Prop extends SameStory left right where
  state : left.state = right.state
  isOver : left.isOver = right.isOver

/-- Two calls are answered alike, and leave sessions that match. Errors count as answers. -/
structure AnswersMatch {ε : Type} (left right : Except ε Resolved × Session) : Prop where
  answer : left.1 = right.1
  session : left.2.Matches right.2

/-! ## One call -/

/-- Whether play has ended is told by the last resolution, not by the engine. The engines may be in
any state. -/
theorem Matches.with_engines (matched : left.Matches right) (first second : Reveal.Engine) :
    Matches { left with engine := first } { right with engine := second } := by
  refine ⟨⟨matched.graph, matched.setup⟩, matched.state, ?_⟩
  exact matched.isOver

/-- The same turn is taken over alike. A turn that fails leaves it to what was shown before whether
play is over, and in that they agree. -/
theorem Matches.settle (matched : left.Matches right) (turn : Turn) :
    AnswersMatch (left.settle turn) (right.settle turn) := by
  cases answered : turn.answer with
  | ok resolved =>
    rw [settle_of_ok answered, settle_of_ok answered]
    exact ⟨rfl, ⟨matched.graph, matched.setup⟩, rfl, rfl⟩
  | error error =>
    rw [settle_of_error answered, settle_of_error answered]
    exact ⟨rfl, ⟨matched.graph, matched.setup⟩, rfl, matched.isOver⟩

/-- A start goes alike.

Proof: both engines are stopped, and then both sessions take over the same turn. -/
theorem Matches.start (matched : left.Matches right) : AnswersMatch left.start right.start := by
  obtain ⟨first, leftStopped⟩ := left.stopReveal_eq
  obtain ⟨second, rightStopped⟩ := right.stopReveal_eq
  unfold Session.start
  rw [matched.narrator_eq, matched.graph, matched.setup, leftStopped, rightStopped]
  exact (matched.with_engines first second).settle _

/-- An action goes alike, also if it is refused or leads to a restart.

Proof: if play is over both refuse. Else both perform the same turn, which either starts them again
or is taken over. -/
theorem Matches.act (matched : left.Matches right) (action : Narrator → State → Turn) :
    AnswersMatch (left.act action) (right.act action) := by
  unfold Session.act
  rw [matched.isOver, matched.narrator_eq, matched.state]
  by_cases ended : right.isOver
  · rw [if_pos ended, if_pos ended]
    exact ⟨rfl, matched⟩
  · rw [if_neg ended, if_neg ended]
    dsimp only
    split
    · rw [left.start_of_state, right.start_of_state]
      exact matched.start
    · exact matched.settle _

/-- A restore goes alike.

Proof: both view the state that the bytes hold, by one narrator. -/
theorem Matches.restore (matched : left.Matches right) (bytes : Snapshot.Bytes) :
    AnswersMatch (left.restore bytes) (right.restore bytes) := by
  unfold Session.restore
  rw [matched.narrator_eq]
  cases Snapshot.read bytes with
  | error failure => exact ⟨rfl, matched⟩
  | ok state =>
    dsimp only
    cases right.narrator.view state with
    | error error => exact ⟨rfl, matched⟩
    | ok resolved => exact ⟨rfl, ⟨matched.graph, matched.setup⟩, rfl, rfl⟩

/-- Every call goes alike. A refusal is told alike, too. -/
theorem Matches.call (matched : left.Matches right) (call : Call) :
    AnswersMatch (left.call call) (right.call call) := by
  cases call with
  | restore bytes => exact matched.restore bytes
  | move move =>
    have moved : AnswersMatch (left.move move) (right.move move) := by
      cases move with
      | start => exact matched.start
      | act action =>
        rw [move_act, move_act]
        exact matched.act _
    exact ⟨congrArg (Except.mapError RestoreError.story) moved.answer, moved.session⟩

/-! ## All calls -/

/-- Sessions that match answer all calls alike, and their states stay equal.

Proof: by induction on the calls; after each the sessions match again. -/
theorem Matches.answers (matched : left.Matches right) (calls : List Call) :
    left.answers calls = right.answers calls := by
  induction calls generalizing left right with
  | nil => rfl
  | cons call rest inductionHypothesis =>
    have first := matched.call call
    have onward := inductionHypothesis first.session
    calc left.answers (call :: rest)
      _ = ((left.call call).1, (left.call call).2.state) :: (left.call call).2.answers rest := rfl
      _ = ((right.call call).1, (right.call call).2.state) :: (right.call call).2.answers rest := by
        rw [first.answer, first.session.state, onward]
      _ = right.answers (call :: rest) := rfl

/-! ## Save and restore -/

/-- A session shows a scene, and a view of its state shows the same. So the state alone tells what
is on the screen. -/
structure InScene (session : Session) (scene : Scene) : Prop where
  shown : session.shown? = some scene
  shows : session.narrator.Shows session.state scene

variable {session : Session} {scene : Scene} {resolved : Resolved}

/-- A call that tells a scene leaves the session in that scene.

Proof: by the ways in which a call ends. Where it tells a scene, a view of the new state tells it
again. -/
theorem inScene_call {call : Call} (answered : (session.call call).1 = .ok resolved)
    (told : resolved.scene? = some scene) : (session.call call).2.InScene scene := by
  have same := session.call_sameStory call
  have ends := session.ends_call call
  generalize session.call call = ended at answered same ends ⊢
  cases ends with
  | told engine shows =>
    cases answered
    exact ⟨told, same.narrator_eq ▸ shows scene told⟩
  | unstarted => cases answered
  | failed => cases answered

/-- Reveals leave a session in its scene.

Proof: by induction on the reveals; each keeps all but the engine. -/
theorem InScene.after_reveals (inScene : session.InScene scene) (steps : List RevealStep) :
    (session.after (steps.map .reveal)).InScene scene := by
  induction steps generalizing session with
  | nil => exact inScene
  | cons step rest inductionHypothesis =>
    obtain ⟨engine, same⟩ := session.reveal_eq step
    have revealed : (session.reveal step).InScene scene := by
      rw [same]
      exact ⟨inScene.shown, inScene.shows⟩
    exact inductionHypothesis revealed

/-- In a scene play has not ended. Only an ending ends it. -/
theorem InScene.isOver (inScene : session.InScene scene) : session.isOver = false := by
  obtain ⟨resolved, current, told⟩ := Option.bind_eq_some_iff.mp inScene.shown
  obtain ⟨resolution, outcome, path⟩ := resolved
  unfold Session.isOver
  rw [current]
  cases resolution with
  | interactive shown => rfl
  | terminal ending message => cases told
  | restart => cases told

/-- From what was saved in a scene every session of the story is restored to that scene, and
matches the saved one. That the state fits is asked, since a count beyond eight bytes cannot be
written. -/
theorem InScene.restore {other : Session} {bytes : Snapshot.Bytes}
    (inScene : session.InScene scene) (fits : Snapshot.Fits session.state)
    (saves : Snapshot.Saves bytes session.state) (same : other.SameStory session) :
    ∃ restored, other.restore bytes = (.ok { resolution := .interactive scene }, restored) ∧
      restored.Matches session := by
  have shows : other.narrator.Shows session.state scene := same.narrator_eq ▸ inScene.shows
  have restored := restore_of_saves saves fits shows
  exact ⟨_, restored, ⟨same.graph, same.setup⟩, rfl, inScene.isOver.symm⟩

/-- A session whose last call told a scene, and whose text may have been revealed since, can be
saved: it shows that scene, and its snapshot, or any bytes that save its state, restore any session
of the same story and settings to that scene and that state. From then on both sessions answer all
calls alike, and have equal states after each.

Nothing is assumed of the session that is restored but its story and settings: it may be new, in
another scene, or over. Of the one saved any operations may have gone before.

Proof: both show the scene and have one state, and the scene was not entered again. So they match,
and sessions that match answer every call alike and match again. -/
theorem restored_session_goes_on_alike (graph : Graph) (setup : Setup)
    (operations : List Operation) (call : Call) (steps : List RevealStep)
    (answered : (((ofGraph graph setup).after operations).call call).1 = .ok resolved)
    (told : resolved.scene? = some scene) :
    let saved := (((ofGraph graph setup).after operations).call call).2.after (steps.map .reveal)
    saved.shown? = some scene ∧ Snapshot.Saves saved.snapshot saved.state ∧
      (Snapshot.Fits saved.state → ∀ bytes, Snapshot.Saves bytes saved.state →
        ∀ other : Session, other.graph = graph → other.setup = setup →
          ∃ restored, other.restore bytes = (.ok { resolution := .interactive scene }, restored) ∧
            restored.state = saved.state ∧
            ∀ calls, restored.answers calls = saved.answers calls) := by
  intro saved
  have inScene : saved.InScene scene := (inScene_call answered told).after_reveals steps
  have story : saved.SameStory (ofGraph graph setup) := by
    have before := (ofGraph graph setup).after_sameStory operations
    have called := call_sameStory ((ofGraph graph setup).after operations) call
    exact (after_sameStory _ (steps.map .reveal)).trans (called.trans before)
  refine ⟨inScene.shown, Snapshot.saves_write saved.state, ?_⟩
  intro fits bytes saves other sameGraph sameSetup
  have same : other.SameStory saved :=
    ⟨sameGraph.trans story.graph.symm, sameSetup.trans story.setup.symm⟩
  obtain ⟨restored, answeredRestore, matched⟩ := inScene.restore fits saves same
  exact ⟨restored, answeredRestore, matched.state, matched.answers⟩

/-- A cellar whose entry sets the clock and brings a lamp. Entering it twice would bring
two lamps. -/
def cellar : ChoiceNode :=
  { choices := [{ next := some "cellar" }],
    scene := { timeSet := some 600, effects := [.addItem "Lamp"] } }

/-- A story that starts in the cellar. Its only choice leads back to the cellar. -/
def lampCellar : Graph :=
  { start := "cellar", nodes := Table.empty.insert "cellar" (.choice cellar) }

/-- The state of a player who has found the lamp. It has one lamp, and the clock that the cellar
sets. -/
def withLamp : State :=
  { inventory := ["Lamp"], day := 0, minutes := 600, playerName := "Player",
    currentScene := "cellar" }

/-- A player saved in the cellar is restored there with one lamp: the cellar is not entered again,
and play goes on alike. The text is being revealed when it is saved, and the session restored has
revealed nothing. -/
theorem restored_with_one_lamp :
    let saved := ((ofGraph lampCellar {}).call (.move .start)).2.after [.reveal .current]
    saved.state = withLamp ∧
      ∃ told restored, (ofGraph lampCellar {}).restore saved.snapshot = (.ok told, restored) ∧
        restored.state = withLamp ∧ ∀ calls, restored.answers calls = saved.answers calls := by
  intro saved
  let shownCellar := (ofGraph lampCellar {}).narrator.choiceScene withLamp "cellar" cellar
  let resolved : Resolved := ⟨.interactive shownCellar, { events := [.itemAdded "Lamp"] }, []⟩
  have entered : (ofGraph lampCellar {}).narrator.resolveFrom (.fresh {} "cellar") "cellar" =
      ⟨.ok resolved, withLamp⟩ :=
    Narrator.resolveFrom_of_resolves (.arrives (.here "cellar") rfl (.choice cellar rfl))
  have started : (ofGraph lampCellar {}).start =
      (ofGraph lampCellar {}).settle ⟨.ok resolved, withLamp⟩ :=
    congrArg (ofGraph lampCellar {}).settle entered
  have answered : ((ofGraph lampCellar {}).call (.move .start)).1 = .ok resolved := by
    simp only [call, move, started]
    rfl
  have reached : saved.state = withLamp := by
    simp only [saved, after, List.foldl, operate, call, move, started]
    rfl
  obtain ⟨-, saves, resume⟩ :=
    restored_session_goes_on_alike lampCellar {} [] (.move .start) [.current] answered rfl
  have fits : Snapshot.Fits saved.state := by
    rw [reached]
    decide
  obtain ⟨restored, told, sameState, alike⟩ :=
    resume fits saved.snapshot saves (ofGraph lampCellar {}) rfl rfl
  exact ⟨reached, _, restored, told, sameState.trans reached, alike⟩

end Storyline.Session
