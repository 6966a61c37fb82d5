import Storyline.Proofs.Play.Place

/-!
# Actions that fail

An action that is refused has written nothing. An action that fails at its link
keeps what its beginning wrote: the effects and the time of a choice, or the text
that was typed. So an action leaves the state alone on every failure exactly if
nothing is written before a link that strands play. The player's place is kept by
every failure, and going on from a scene without choices writes nothing at all.
-/

namespace Storyline.Narrator

variable {narrator : Narrator} {state : State} {action : Action}

/-- An action that fails was refused, or its link strands play in the state that the beginning
reached. In both cases that is the state after the failure. The error is the one of the stage that
failed, and nothing is undone on the way back. -/
theorem perform_error {error : StoryError}
    (failed : (narrator.perform state action).answer = .error error) :
    (narrator.perform state action).state = (narrator.beginning state action).reached state ∧
      (narrator.beginning state action = .refused error ∨
        ∃ outcome changed next choice,
          narrator.beginning state action = .leaving outcome changed next choice ∧
          (narrator.follow changed state.currentScene next choice).answer = .error error) := by
  rw [perform_eq] at failed ⊢
  cases begun : narrator.beginning state action with
  | refused other =>
    rw [begun] at failed
    obtain rfl := Except.error.inj failed
    exact ⟨rfl, Or.inl rfl⟩
  | restarting outcome changed =>
    rw [begun] at failed
    cases failed
  | leaving outcome changed next choice =>
    rw [begun] at failed
    have stranded := Turn.after_error_iff.mp failed
    exact ⟨follow_error_state stranded, Or.inr ⟨outcome, changed, next, choice, rfl, stranded⟩⟩

/-- An action that leaves by a link fails if the link strands play. The link is followed in the
state as the beginning has changed it, so a choice may strand play by its own effects. -/
theorem perform_fails_of_strands {outcome : Outcome} {changed : State} {next : Option NodeId}
    {choice : Option Choice}
    (begun : narrator.beginning state action = .leaving outcome changed next choice)
    (strands : narrator.Strands changed next) :
    ∃ error, (narrator.perform state action).answer = .error error := by
  obtain ⟨error, failed⟩ : ∃ error,
      (narrator.follow changed state.currentScene next choice).answer = .error error :=
    follow_fails_iff.mpr strands
  refine ⟨error, ?_⟩
  rw [perform_eq, begun]
  exact Turn.after_error_iff.mpr failed

/-- Going on from a scene without choices writes nothing before its link. It is either refused, or
it leaves by the direct link with an empty outcome. -/
theorem beginning_advance_reached (narrator : Narrator) (state : State) :
    (narrator.beginning state .advance).reached state = state := by
  have begins := narrator.begins_beginning state .advance
  generalize narrator.beginning state .advance = begun at begins
  cases begins <;> rfl

/-- What a failing action leaves behind is what its beginning reached, and play stands where it
stood. All failures of an action leave the state alone exactly if it is left alone before any link
that strands play; going on without a choice always leaves it alone.

Nothing is assumed of the graph, the state or the action. In particular the condition in the middle
covers actions that happen to write what was there already, and links that lead to a missing node,
around in a circle, or nowhere at all.

Proof: an action is its beginning followed by its link. A refusal wrote nothing, so only the
failure of a link is left, and that one fails exactly if the link strands play in the state that
was reached. -/
theorem failure_leaves_beginning (narrator : Narrator) (state : State) (action : Action) :
    let turn := narrator.perform state action
    let begun := narrator.beginning state action
    (∀ error, turn.answer = .error error →
        turn.state = begun.reached state ∧ turn.state.currentScene = state.currentScene) ∧
      ((∀ error, turn.answer = .error error → turn.state = state) ↔
        ∀ outcome changed next choice, begun = .leaving outcome changed next choice →
          narrator.Strands changed next → changed = state) ∧
      (action = .advance → ∀ error, turn.answer = .error error → turn.state = state) := by
  intro turn begun
  refine ⟨fun error failed => ?_, ⟨fun unchanged => ?_, fun unwritten error failed => ?_⟩, ?_⟩
  · have left : turn.state = begun.reached state := (perform_error failed).1
    refine ⟨left, ?_⟩
    rw [left]
    exact narrator.beginning_currentScene state action
  · intro outcome changed next choice left strands
    obtain ⟨error, failed⟩ := perform_fails_of_strands left strands
    have reached : turn.state = begun.reached state := (perform_error failed).1
    rw [left] at reached
    exact reached.symm.trans (unchanged error failed)
  · obtain ⟨reached, refused | ⟨outcome, changed, next, choice, left, stranded⟩⟩ :=
      perform_error failed
    · exact reached.trans (by rw [refused]; rfl)
    · have strands : narrator.Strands changed next := follow_fails_iff.mp ⟨error, stranded⟩
      have same : changed = state := unwritten outcome changed next choice left strands
      exact reached.trans (by rw [left]; exact same)
  · rintro rfl error failed
    exact (perform_error failed).1.trans (narrator.beginning_advance_reached state)

/-- A hall with one choice: it gives a key, takes five minutes, and leads to a cellar
that does not exist. -/
def cellarlessHall : Narrator :=
  { graph :=
    { start := "hall",
      nodes := Table.empty.insert "hall" (.choice
        { choices :=
          [{ next := some "cellar", effects := [.addItem "Key"], timeCost := some 5 }] }) } }

/-- The choice in the hall fails for want of the cellar, and yet the player has the key and has
lost the time. Both are kept by the session, and the next action starts from there. -/
theorem cellarless_choice_keeps_key :
    let before : State :=
      { day := 0, minutes := 480, playerName := "Player", currentScene := "hall" }
    let turn := cellarlessHall.perform before (.choose 0)
    turn.answer = .error (.sceneNotFound "cellar") ∧
      turn.state = { before with inventory := ["Key"], minutes := 485 } ∧
      turn.state ≠ before := by
  intro before turn
  have stranded (state : State) :
      cellarlessHall.resolveFrom state "cellar" = .failed (.sceneNotFound "cellar") state :=
    resolveFrom_of_resolves (.missing (.here "cellar") rfl)
  have begun : cellarlessHall.perform before (.choose 0) =
      (cellarlessHall.resolveFrom { before with inventory := ["Key"], minutes := 485 }
        "cellar").after { events := [.itemAdded "Key"] } := perform_eq ..
  have taken : turn =
      .failed (.sceneNotFound "cellar") { before with inventory := ["Key"], minutes := 485 } :=
    begun.trans (by rw [stranded]; rfl)
  rw [taken]
  refine ⟨rfl, rfl, fun same => ?_⟩
  cases congrArg State.inventory same

end Storyline.Narrator
