import Storyline.Proofs.Play.Attempt

/-!
# Effects in batches

A list of effects may be cut into batches that are applied one after another. Each batch is
applied in the state that the batches before it have left, its outcome is merged behind
theirs, and behind a batch that asks for a restart nothing is applied any more. Wherever the
list is cut, the state and the outcome are those of the whole list.

It follows from one law for a list of two parts. Merging is associative and has the empty
outcome on both sides, so it does not matter in which grouping the outcomes are merged.
-/

namespace Storyline

/-- Nothing behind an outcome leaves it as it is. A batch without effects is the usual case of
this. -/
@[simp] theorem Outcome.merge_empty (outcome : Outcome) : outcome.merge {} = outcome := by
  simp [merge]

namespace Effect

/-- Goes on with further effects behind what earlier ones have come to: the further ones are
applied and their outcome is merged, unless a restart has been asked for. -/
def continued (earlier : Outcome × State) (effects : List Effect) : Outcome × State :=
  if earlier.1.restart then earlier
  else
    let later := applyAll effects earlier.2
    (earlier.1.merge later.1, later.2)

/-- Applies batches of effects one after another. -/
def applyBatches (batches : List (List Effect)) (state : State) : Outcome × State :=
  batches.foldl continued ({}, state)

/-! ## Restarts -/

/-- Only a restart comes to a restart. It does so in every state, whereas other effects may be
ignored in one state and not in another. -/
theorem applySingle_restart_iff {effect : Effect} {state : State} :
    (effect.applySingle state).1 = .restart ↔ effect = .restart := by
  constructor
  · intro asked
    unfold applySingle at asked
    split at asked
    · cases asked
    · cases asked
    · cases asked
    · split at asked
      · cases asked
      · unfold State.setNumber at asked
        split at asked <;> cases asked
      · unfold State.setNumber at asked
        split at asked <;> cases asked
      · cases asked
    · rfl
    · cases asked
  · rintro rfl
    rfl

/-- Effects ask to start again exactly if there is a restart among them.

Proof: by induction on the effects. A restart stops the list at once, and any other effect leaves
the question to those behind it. -/
theorem applyAll_restart_iff {effects : List Effect} {state : State} :
    (applyAll effects state).1.restart = true ↔ .restart ∈ effects := by
  induction effects generalizing state with
  | nil => simp [applyAll]
  | cons first rest inductionHypothesis =>
    have single := @applySingle_restart_iff first state
    rw [List.mem_cons, @eq_comm _ Effect.restart, ← single]
    unfold applyAll
    split <;> rename_i applied <;> rw [applied]
    · simpa using inductionHypothesis
    · simpa using inductionHypothesis
    · simp

/-! ## Two parts -/

variable {earlier : Outcome × State} {state : State}

/-- Nothing is applied behind a restart. The outcome stays as well, so the request is told once. -/
theorem continued_of_restart (asked : earlier.1.restart = true) (effects : List Effect) :
    continued earlier effects = earlier := by
  unfold continued
  rw [if_pos asked]

/-- Behind effects without a restart the further ones are applied and merged. The further ones are
applied in the state that the earlier ones have reached. -/
theorem continued_of_proceeding (proceeds : earlier.1.restart = false) (effects : List Effect) :
    continued earlier effects =
      (earlier.1.merge (applyAll effects earlier.2).1, (applyAll effects earlier.2).2) := by
  unfold continued
  rw [proceeds, if_neg Bool.false_ne_true]

/-- Behind nothing effects come to what they come to alone. A list may therefore be begun anywhere,
with an empty batch in front. -/
theorem continued_empty (effects : List Effect) (state : State) :
    continued ({}, state) effects = applyAll effects state := by
  rw [continued_of_proceeding rfl, Outcome.empty_merge]

/-- The first effect of a list is applied alone, and the others are applied behind it. This puts
the recursion into the form in which batches go on, with the first effect as a batch. -/
theorem applyAll_cons (first : Effect) (rest : List Effect) (state : State) :
    applyAll (first :: rest) state =
      continued ((first.applySingle state).1.outcome, (first.applySingle state).2) rest := by
  unfold applyAll
  rcases first.applySingle state with ⟨applied, next⟩
  cases applied with
  | changed event => simp [continued, Applied.outcome, Outcome.merge]
  | ignored why => simp [continued, Applied.outcome, Outcome.merge, Nat.add_comm]
  | restart => rfl

/-- Effects in two parts come to what the second part comes to behind the first.

Proof: by induction on the first part. Behind a restart nothing is applied on either side;
otherwise the outcomes are merged in another grouping, which makes no difference. -/
theorem applyAll_append (first second : List Effect) (state : State) :
    applyAll (first ++ second) state = continued (applyAll first state) second := by
  induction first generalizing state with
  | nil => exact (continued_empty second state).symm
  | cons effect rest inductionHypothesis =>
    rw [List.cons_append, applyAll_cons, applyAll_cons]
    generalize (effect.applySingle state).1.outcome = outcome
    generalize (effect.applySingle state).2 = next
    cases asked : outcome.restart with
    | true =>
      have stopped (effects : List Effect) : continued (outcome, next) effects = (outcome, next) :=
        continued_of_restart asked effects
      rw [stopped, stopped, stopped]
    | false =>
      have onward (effects : List Effect) : continued (outcome, next) effects =
          (outcome.merge (applyAll effects next).1, (applyAll effects next).2) :=
        continued_of_proceeding asked effects
      rw [onward, onward, inductionHypothesis]
      generalize applyAll rest next = middle
      -- The first effect asks for no restart, so the rest alone decides about going on.
      cases stops : middle.1.restart with
      | true =>
        have merged : (outcome.merge middle.1).restart = true := by simp [Outcome.merge, stops]
        rw [continued_of_restart stops, continued_of_restart merged]
      | false =>
        have merged : (outcome.merge middle.1).restart = false := by
          simp [Outcome.merge, asked, stops]
        rw [continued_of_proceeding stops, continued_of_proceeding merged, Outcome.merge_assoc]

/-! ## Any number of parts -/

/-- Batches behind some effects come to what all of it comes to as one list.

Proof: by induction on the batches, each of which is joined to the effects before it. -/
theorem foldl_continued (batches : List (List Effect)) (effects : List Effect) (state : State) :
    batches.foldl continued (applyAll effects state) =
      applyAll (effects ++ batches.flatten) state := by
  induction batches generalizing effects with
  | nil => rw [List.flatten_nil, List.append_nil, List.foldl_nil]
  | cons batch rest inductionHypothesis =>
    rw [List.foldl_cons, ← applyAll_append, inductionHypothesis, List.flatten_cons,
      List.append_assoc]

/-- Effects in two parts come to what the first part comes to, and, if that has asked for no
restart, to what the second part comes to in the state behind it, with the second outcome merged
behind the first. Outcomes may be merged in any grouping, with or without empty ones. So batches
come to what the whole list comes to, wherever it is cut.

Nothing is assumed of the effects, the state or the way in which the list is cut; batches may be
empty, and a restart may stand anywhere in any of them.

Proof: the first part is the law of two parts, and the last one follows from it batch by batch,
beginning with nothing. -/
theorem batches_compose (state : State) :
    (∀ first second, applyAll (first ++ second) state =
      let earlier := applyAll first state
      let later := applyAll second earlier.2
      if earlier.1.restart then earlier else (earlier.1.merge later.1, later.2)) ∧
    (∀ first second third : Outcome,
      (first.merge second).merge third = first.merge (second.merge third)) ∧
    (∀ outcome : Outcome, ({} : Outcome).merge outcome = outcome ∧ outcome.merge {} = outcome) ∧
    ∀ batches, applyBatches batches state = applyAll batches.flatten state := by
  refine ⟨?_, Outcome.merge_assoc, ?_, ?_⟩
  · intro first second
    exact applyAll_append first second state
  · intro outcome
    exact ⟨outcome.empty_merge, outcome.merge_empty⟩
  · intro batches
    exact foldl_continued batches [] state

end Effect

end Storyline
