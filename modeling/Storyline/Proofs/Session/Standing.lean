import Storyline.Proofs.Session.Operation

/-!
# What is shown, and where play stands

A session shows the scene of its last resolution, and the next action goes to the current
scene of its state. Both are the same scene of the story after every operation, with one
exception: a start that fails has already written its fresh state, while the session goes on
showing what it showed. Such a session was restored in a story that cannot be started, since
otherwise it would have nothing to show.

A failure of any other kind moves nothing. Where a failed start has left play there is no
scene, so every move fails, and the session stays as it is until it is restored again.
-/

namespace Storyline.Session

variable {session other : Session}

/-- The story cannot be started, and play stands in the fresh state that a start left. Its state
names the start, which need not be there. -/
structure Unstarted (session : Session) : Prop where
  failing : ∃ error, session.start.1 = .error error
  fresh : session.state = .fresh session.setup session.graph.start

/-- A story whose start is a scene can be started. It may come to a restart, which is an answer and
no failure. -/
theorem start_of_hasScene (hasScene : session.graph.HasScene session.graph.start) :
    ∃ resolved, session.start.1 = .ok resolved := by
  rw [start_answer]
  exact Narrator.resolveFrom_of_hasScene hasScene _

/-- After a failed start play stands at no scene. A start at a scene does not fail, so the name
that it left is none. -/
theorem Unstarted.no_scene (unstarted : session.Unstarted) :
    ¬ session.graph.HasScene session.state.currentScene := by
  obtain ⟨error, failed⟩ := unstarted.failing
  intro hasScene
  rw [unstarted.fresh] at hasScene
  obtain ⟨resolved, started⟩ := start_of_hasScene hasScene
  rw [started] at failed
  cases failed

/-- Whether the story can be started is a matter of the story and the settings. A start looks at
nothing else of a session. -/
theorem SameStory.start_answer (same : session.SameStory other) :
    session.start.1 = other.start.1 := by
  rw [session.start_answer, other.start_answer, same.narrator_eq, same.graph, same.setup]

/-- Nothing but the story and the state tells whether a start has failed. So a reveal leaves such a
session what it is. -/
theorem Unstarted.of_sameStory (unstarted : session.Unstarted) (same : other.SameStory session)
    (state : other.state = session.state) : other.Unstarted where
  failing := by
    rw [same.start_answer]
    exact unstarted.failing
  fresh := by
    rw [state, same.graph, same.setup]
    exact unstarted.fresh

/-! ## What is shown -/

/-- The scene shown is a scene of the story, and play stands there unless a start failed. A session
that shows an ending, a restart or nothing stands well. -/
def Standing (session : Session) : Prop :=
  ∀ scene, session.shown? = some scene →
    session.graph.HasScene scene.id ∧
      (session.state.currentScene = scene.id ∨ session.Unstarted)

/-- A session that shows nothing yet stands well. This holds of every story, also of one that
cannot be started. -/
theorem standing_ofGraph (graph : Graph) (setup : Setup) : (ofGraph graph setup).Standing := by
  intro scene shown
  cases shown

/-- However a call ends, the session stands well if it did before.

Proof: by the ways in which a call ends. A scene that is told is viewed in the state beside it. A
start that fails leaves the scene shown, and its own state. Anything else that fails moves nothing,
and after a failed start it writes nothing either. -/
theorem Ends.standing {ended : Except RestoreError Resolved × Session}
    (ends : session.Ends ended) (standing : session.Standing) : ended.2.Standing := by
  intro scene shown
  cases ends with
  | told engine shows =>
    obtain ⟨current, hasScene⟩ := (shows scene shown).standing
    exact ⟨hasScene, Or.inl current.symm⟩
  | @unstarted error engine failed =>
    obtain ⟨hasScene, -⟩ := standing scene shown
    have same : SameStory
        { session with engine, state := .fresh session.setup session.graph.start } session :=
      ⟨rfl, rfl⟩
    exact ⟨hasScene, Or.inr ⟨⟨error, same.start_answer.trans failed⟩, rfl⟩⟩
  | failed unmoved unwritten =>
    obtain ⟨hasScene, current | unstarted⟩ := standing scene shown
    · exact ⟨hasScene, Or.inl (unmoved.trans current)⟩
    · -- no scene is there for the call that fails, so it has written nothing either
      have kept := unwritten unstarted.no_scene
      exact ⟨hasScene, Or.inr (unstarted.of_sameStory ⟨rfl, rfl⟩ kept)⟩

/-- Every operation lets a session stand well.

Proof: a reveal keeps the state and what is shown. -/
theorem Standing.operate (standing : session.Standing) (operation : Operation) :
    (session.operate operation).Standing := by
  cases operation with
  | call call => exact (session.ends_call call).standing standing
  | reveal step =>
    obtain ⟨engine, same⟩ := session.reveal_eq step
    intro scene shown
    simp only [Session.operate, same] at shown ⊢
    obtain ⟨hasScene, current | unstarted⟩ := standing scene shown
    · exact ⟨hasScene, Or.inl current⟩
    · exact ⟨hasScene, Or.inr (unstarted.of_sameStory ⟨rfl, rfl⟩ rfl)⟩

/-- All operations together let a session stand well.

Proof: by induction on the operations. -/
theorem Standing.after (standing : session.Standing) (operations : List Operation) :
    (session.after operations).Standing := by
  induction operations generalizing session with
  | nil => exact standing
  | cons operation rest inductionHypothesis =>
    exact inductionHypothesis (standing.operate operation)

/-- A session that stands well stands at the scene shown, except after a failed start.

Proof: a scene is shown and is a scene of the story; after a failed start play stands at none. -/
theorem Standing.current_iff (standing : session.Standing) {scene : Scene}
    (shown : session.shown? = some scene) :
    session.state.currentScene = scene.id ↔ ¬ session.Unstarted := by
  obtain ⟨hasScene, current⟩ := standing scene shown
  constructor
  · intro stands unstarted
    rw [← stands] at hasScene
    exact unstarted.no_scene hasScene
  · intro started
    exact current.resolve_right started

/-! ## Without a restore -/

/-- A start has failed, and there is nothing to show. No scene has been entered in it. -/
structure Unbegun (session : Session) : Prop extends Unstarted session where
  nothing : session.current = none

/-- Where a start has failed, every move fails.

Proof: a start fails once more. An action is refused, since play is over or because no scene is
there. -/
theorem Unstarted.move_fails (unstarted : session.Unstarted) (move : Move) :
    ∃ error, (session.move move).1 = .error error := by
  rcases session.move_cases move with same | same | ⟨action, same⟩
  · rw [same]
    exact unstarted.failing
  · rw [same]
    exact ⟨_, rfl⟩
  · have absent : ¬ session.narrator.graph.HasScene session.state.currentScene :=
      unstarted.no_scene
    obtain ⟨error, begun⟩ := Narrator.beginning_of_no_scene absent action
    rw [same, settle_answer, Narrator.perform_eq, begun]
    exact ⟨error, rfl⟩

/-- After a failed start a call that fails changes neither the state nor what is shown. A start
that fails again writes the state that is there already. -/
theorem Ends.unstarted_of_failed {ended : Except RestoreError Resolved × Session}
    {error : RestoreError} (ends : session.Ends ended) (failed : ended.1 = .error error)
    (unstarted : session.Unstarted) :
    ended.2.Unstarted ∧ ended.2.current = session.current := by
  cases ends with
  | told => cases failed
  | unstarted engine => exact ⟨unstarted.of_sameStory ⟨rfl, rfl⟩ unstarted.fresh.symm, rfl⟩
  | failed unmoved unwritten =>
    have kept := unwritten unstarted.no_scene
    exact ⟨unstarted.of_sameStory ⟨rfl, rfl⟩ kept, rfl⟩

/-- Nothing but a restore gives such a session something to show.

Proof: every move fails, and after a failed start a call that fails changes nothing that counts
here. -/
theorem Unbegun.operate (unbegun : session.Unbegun) {operation : Operation}
    (unrestored : ∀ bytes, operation ≠ .call (.restore bytes)) :
    (session.operate operation).Unbegun := by
  cases operation with
  | call call =>
    cases call with
    | restore bytes => exact absurd rfl (unrestored bytes)
    | move move =>
      obtain ⟨error, failed⟩ := unbegun.move_fails move
      have answered : (session.call (.move move)).1 = .error (.story error) :=
        congrArg (Except.mapError RestoreError.story) failed
      obtain ⟨unstarted, current⟩ :=
        (session.ends_call (.move move)).unstarted_of_failed answered unbegun.toUnstarted
      exact ⟨unstarted, current.trans unbegun.nothing⟩
  | reveal step =>
    obtain ⟨engine, same⟩ := session.reveal_eq step
    simp only [Session.operate, same]
    exact ⟨unbegun.toUnstarted.of_sameStory ⟨rfl, rfl⟩ rfl, unbegun.nothing⟩

/-- Without a restore such a session never has anything to show.

Proof: by induction on the operations. -/
theorem Unbegun.after (unbegun : session.Unbegun) {operations : List Operation}
    (unrestored : ∀ bytes, .call (.restore bytes) ∉ operations) :
    (session.after operations).Unbegun := by
  induction operations generalizing session with
  | nil => exact unbegun
  | cons operation rest inductionHypothesis =>
    have here (bytes : Snapshot.Bytes) : operation ≠ .call (.restore bytes) := by
      rintro rfl
      exact unrestored bytes List.mem_cons_self
    have later (bytes : Snapshot.Bytes) : .call (.restore bytes) ∉ rest := fun member =>
      unrestored bytes (List.mem_cons_of_mem _ member)
    exact inductionHypothesis (unbegun.operate here) later

/-- A session that shows a scene and was never restored has not failed to start: it would have
failed from its beginning, and nothing would be shown.

Proof: whether a start fails is known from the story. If it fails, a new session is in the state
that the failure leaves, and without a restore it never comes to show a scene. -/
theorem not_unstarted_of_unrestored {graph : Graph} {setup : Setup} {operations : List Operation}
    {scene : Scene} (unrestored : ∀ bytes, .call (.restore bytes) ∉ operations)
    (shown : ((ofGraph graph setup).after operations).shown? = some scene) :
    ¬ ((ofGraph graph setup).after operations).Unstarted := by
  intro unstarted
  have story := (ofGraph graph setup).after_sameStory operations
  have failing : ∃ error, (ofGraph graph setup).start.1 = .error error :=
    story.start_answer ▸ unstarted.failing
  have begun : (ofGraph graph setup).Unbegun := ⟨⟨failing, rfl⟩, rfl⟩
  have nothing := (begun.after unrestored).nothing
  rw [shown?, nothing] at shown
  cases shown

/-- A scene that a session shows, after any operations, is a scene of its story. It is the current
one unless the session is left in the fresh state of a start that fails; in that state it is never
the current one. In a session that was not restored it always is.

Of the story nothing is assumed, and of the operations only that a scene is shown after them.

Proof: a new session stands well, and every operation lets it stand well. -/
theorem shown_scene_is_current (graph : Graph) (setup : Setup) (operations : List Operation)
    {scene : Scene} (shown : ((ofGraph graph setup).after operations).shown? = some scene) :
    let session := (ofGraph graph setup).after operations
    graph.HasScene scene.id ∧
      (session.state.currentScene = scene.id ↔ ¬ session.Unstarted) ∧
      ((∀ bytes, .call (.restore bytes) ∉ operations) →
        session.state.currentScene = scene.id) := by
  intro session
  have standing : session.Standing := (standing_ofGraph graph setup).after operations
  have sameGraph : session.graph = graph := ((ofGraph graph setup).after_sameStory operations).graph
  have hasScene : graph.HasScene scene.id := sameGraph ▸ (standing scene shown).1
  have current := standing.current_iff shown
  refine ⟨hasScene, current, fun unrestored => ?_⟩
  exact current.mpr (not_unstarted_of_unrestored unrestored shown)

/-- A hall with one choice, to stay. It never leads to a failure. -/
def hall : ChoiceNode := { choices := [{ next := some "hall" }] }

/-- A story of nothing but the hall, which should start at a gate that is missing. Starting it
fails, and restoring a player in it does not. -/
def gatelessHall : Graph :=
  { start := "gate", nodes := Table.empty.insert "hall" (.choice hall) }

/-- The state of a player in the hall. But for the place it is a fresh state. -/
def inHall : State := { day := 0, minutes := 480, playerName := "Player", currentScene := "hall" }

/-- The hall as that player sees it. Its choice leads back to it. -/
def shownHall : Scene := (Narrator.ofSetup gatelessHall {}).choiceScene inHall "hall" hall

/-- A session restored in the hall. It shows the hall and has entered nothing. -/
def restoredHall : Session :=
  { ofGraph gatelessHall {} with
    state := inHall, current := some { resolution := .interactive shownHall } }

/-- A player in the hall can be restored, though the story cannot be started. What is saved is read
back, and the hall is a scene of the story. -/
theorem restore_inHall : (ofGraph gatelessHall {}).restore (Snapshot.write inHall) =
    (.ok { resolution := .interactive shownHall }, restoredHall) := by
  have shows : (ofGraph gatelessHall {}).narrator.Shows inHall shownHall := by
    unfold Narrator.Shows
    rfl
  exact restore_of_saves (Snapshot.saves_write inHall) (by decide) shows

/-- The hall is where a restored player stands, also after a choice that it does not have, and
where one stands who has started there. A story that starts in the hall has no failing start, so
both directions occur. -/
theorem hall_shown_is_current :
    let restored := (ofGraph gatelessHall {}).after
      [.call (.restore (Snapshot.write inHall)), .reveal .current,
        .call (.move (.act (.choose 1)))]
    let started := (ofGraph { gatelessHall with start := "hall" } {}).after [.call (.move .start)]
    (restored.shown? = some shownHall ∧ gatelessHall.HasScene "hall" ∧
        (restored.state.currentScene = "hall" ↔ ¬ restored.Unstarted)) ∧
      ∃ scene, started.shown? = some scene ∧ started.state.currentScene = scene.id := by
  intro restored started
  constructor
  · have shown : restored.shown? = some shownHall := by
      have arrived := congrArg Prod.snd restore_inHall
      simp only [restored, after, List.foldl, operate, call, arrived]
      rfl
    obtain ⟨hasScene, current, -⟩ := shown_scene_is_current gatelessHall {} _ shown
    exact ⟨shown, hasScene, current⟩
  · let story := { gatelessHall with start := "hall" }
    have entered : (ofGraph story {}).narrator.resolveFrom (.fresh {} "hall") "hall" = _ :=
      Narrator.resolveFrom_of_resolves (.arrives (.here "hall") rfl (.choice hall rfl))
    have begun : (ofGraph story {}).start = _ := congrArg (ofGraph story {}).settle entered
    obtain ⟨scene, shown⟩ : ∃ scene, started.shown? = some scene := by
      simp only [started, after, List.foldl, operate, call, move]
      rw [begun]
      exact ⟨_, rfl⟩
    have unrestored (bytes : Snapshot.Bytes) :
        Operation.call (.restore bytes) ∉ [.call (.move .start)] := by simp
    exact ⟨scene, shown, (shown_scene_is_current story {} _ shown).2.2 unrestored⟩

/-- A start fails for want of the gate and yet moves play there, while the hall is shown.
The choice that the hall has is refused then. This is the exception of the general law, at
one session. -/
theorem hall_shown_at_gate :
    let session := (ofGraph gatelessHall {}).after
      [.call (.restore (Snapshot.write inHall)), .call (.move .start)]
    session.shown? = some shownHall ∧ session.state.currentScene = "gate" ∧
      session.state.currentScene ≠ shownHall.id ∧
      (session.choose 0).1 = .error (.sceneNotFound "gate") := by
  intro session
  have stranded : restoredHall.narrator.resolveFrom (.fresh {} "gate") "gate" =
      .failed (.sceneNotFound "gate") (.fresh {} "gate") :=
    Narrator.resolveFrom_of_resolves (.missing (.here "gate") rfl)
  have started : restoredHall.start =
      restoredHall.settle (.failed (.sceneNotFound "gate") (.fresh {} "gate")) :=
    congrArg restoredHall.settle stranded
  have left : session = { restoredHall with state := .fresh {} "gate" } := by
    have restored := congrArg Prod.snd restore_inHall
    simp only [session, after, List.foldl, operate, call, restored, move, started]
    rfl
  rw [left]
  have apart : "gate" ≠ "hall" := by decide
  exact ⟨rfl, rfl, apart, rfl⟩

end Storyline.Session
