import Storyline.Proofs.Session.Operation

/-!
# Endings

Whether play is over is not kept anywhere: it is read off the last resolution. Only a call
that succeeds replaces that, so play is over exactly if the last call that succeeded told an
ending, whatever has failed since and whatever was revealed.

Once play is over it stays so until it is started again or restored. Every action of the
player is refused then and leaves the session as it is. A start that fails does not reopen
play either: it leaves the ending in place, though not the state.
-/

namespace Storyline.Session

variable {session : Session} {operation : Operation} {operations more : List Operation}

/-- The call of an operation with its answer; a reveal is not answered. It is empty or has one
entry. -/
def exchange (session : Session) : Operation → List (Call × Except RestoreError Resolved)
  | .call call => [(call, (session.call call).1)]
  | .reveal _ => []

/-- The calls among some operations, each with its answer. The earliest call comes first. -/
def log (session : Session) : List Operation → List (Call × Except RestoreError Resolved)
  | [] => []
  | operation :: rest => session.exchange operation ++ (session.operate operation).log rest

/-- The resolution told by the last of some calls that succeeded. Calls that failed are passed
over. -/
def lastTold? (log : List (Call × Except RestoreError Resolved)) : Option Resolved :=
  (log.filterMap fun entry => entry.2.toOption).getLast?

/-- Whether a call begins play anew if it succeeds. A restart that an action asks for counts as the
action. -/
def Call.begins : Call → Bool
  | .move .start | .restore _ => true
  | .move (.act _) => false

/-- No start and no restore succeeds among some operations. They may be tried, as long as they
fail. -/
def NothingBegins (session : Session) (operations : List Operation) : Prop :=
  ∀ call answer, (call, answer) ∈ session.log operations → call.begins = true →
    ∃ error, answer = .error error

/-! ## The last resolution -/

/-- What a call tells is shown from then on, and a call that fails changes nothing about it.

Proof: by the ways in which a call ends; only one of them tells anything. -/
theorem call_current (session : Session) (call : Call) :
    (session.call call).2.current = (session.call call).1.toOption.or session.current := by
  have ends := session.ends_call call
  generalize session.call call = ended at ends ⊢
  cases ends with
  | told | unstarted | failed => rfl

/-- An operation shows what it tells, if it tells anything. A reveal tells nothing, so it leaves
what is shown. -/
theorem operate_current (session : Session) (operation : Operation) :
    (session.operate operation).current =
      (lastTold? (session.exchange operation)).or session.current := by
  cases operation with
  | call call =>
    simp only [operate, call_current, exchange, lastTold?]
    cases (session.call call).1 <;> rfl
  | reveal step =>
    obtain ⟨engine, same⟩ := session.reveal_eq step
    simp only [operate, same]
    rfl

/-- The last of more calls that succeeded is among the later ones, if any of them did. This is what
lets a log be read operation by operation. -/
theorem lastTold?_append (earlier later : List (Call × Except RestoreError Resolved)) :
    lastTold? (earlier ++ later) = (lastTold? later).or (lastTold? earlier) := by
  rw [lastTold?, List.filterMap_append, List.getLast?_append]
  rfl

/-- A session shows what the last call that succeeded has told.

Proof: by induction on the operations. What the first one tells is shown until a later one tells
something. -/
theorem after_current (session : Session) (operations : List Operation) :
    (session.after operations).current =
      (lastTold? (session.log operations)).or session.current := by
  induction operations generalizing session with
  | nil => rfl
  | cons operation rest inductionHypothesis =>
    calc (session.after (operation :: rest)).current
      _ = ((session.operate operation).after rest).current := rfl
      _ = (lastTold? (session.log (operation :: rest))).or session.current := by
        rw [inductionHypothesis, operate_current, log, lastTold?_append, Option.or_assoc]

/-- A resolution is terminal exactly if it tells an ending. Death and win are endings, and a
restart is none. -/
theorem isTerminal_iff {resolved : Resolved} : resolved.isTerminal = true ↔
    ∃ ending message, resolved.resolution = .terminal ending message := by
  obtain ⟨resolution, outcome, path⟩ := resolved
  cases resolution <;> simp [Resolved.isTerminal, Resolved.ending?]

/-- Play is over exactly if an ending is shown. A session that shows nothing is not over. -/
theorem isOver_iff : session.isOver = true ↔
    ∃ resolved ending message, session.current = some resolved ∧
      resolved.resolution = .terminal ending message := by
  unfold isOver
  cases session.current with
  | none => simp
  | some resolved => simp [isTerminal_iff]

/-- Whether play is over depends on nothing but what is shown. State and engine have no part
in it. -/
theorem isOver_of_current {other : Session} (same : other.current = session.current) :
    other.isOver = session.isOver := by
  rw [isOver, same, isOver]

/-! ## While play is over -/

/-- An action of the player is refused once play is over, and nothing happens. This is so for every
action, also for one that the last scene did not offer. -/
theorem call_act_of_over (ended : session.isOver = true) (action : Action) :
    session.call (.move (.act action)) = (.error (.story .sessionOver), session) := by
  have refused : session.move (.act action) = (.error .sessionOver, session) := by
    rw [move_act, act, if_pos ended]
  simp only [call, refused]
  rfl

/-- A restore that fails changes nothing. So an ending that is shown stays. -/
theorem restore_of_error {bytes : Snapshot.Bytes} {error : RestoreError}
    (failed : (session.restore bytes).1 = .error error) :
    (session.restore bytes).2 = session := by
  have restores := session.restores_restore bytes
  generalize session.restore bytes = ended at restores failed
  cases restores with
  | restored => cases failed
  | unreadable | missing | sceneless => rfl

/-- Nothing begins among some operations if nothing begins in the first one, and then nothing among
the others. The others are looked at in the session that the first one leaves. -/
theorem nothingBegins_cons {rest : List Operation} :
    session.NothingBegins (operation :: rest) ↔
      session.NothingBegins [operation] ∧ (session.operate operation).NothingBegins rest := by
  simp only [NothingBegins, log, List.mem_append, List.append_nil]
  constructor
  · intro nothing
    exact ⟨fun call answer listed => nothing call answer (Or.inl listed),
      fun call answer listed => nothing call answer (Or.inr listed)⟩
  · rintro ⟨here, later⟩ call answer (listed | listed)
    · exact here call answer listed
    · exact later call answer listed

/-- Through some operations play stays over: the ending stays what is shown, every action of the
player among them is refused, and the state stays unless a start is tried. A start that fails
writes a fresh state, which is why the state is kept only without one. -/
structure StaysOver (session : Session) (operations : List Operation) : Prop where
  ended : (session.after operations).isOver = true
  current : (session.after operations).current = session.current
  refused : ∀ action answer, (.move (.act action), answer) ∈ session.log operations →
    answer = .error (.story .sessionOver)
  state : .call (.move .start) ∉ operations → (session.after operations).state = session.state

/-- Play that stays over through one operation and then through others stays over.

Proof: what is asked of the whole is asked of the first one or of the others, and what both keep is
kept. -/
theorem StaysOver.cons {rest : List Operation} (here : session.StaysOver [operation])
    (later : (session.operate operation).StaysOver rest) :
    session.StaysOver (operation :: rest) where
  ended := later.ended
  current := later.current.trans here.current
  refused action answer listed := by
    rw [log, List.mem_append] at listed
    rcases listed with first | behind
    · exact here.refused action answer (List.mem_append_left _ first)
    · exact later.refused action answer behind
  state unstarted := by
    have first : .call (.move .start) ∉ [operation] := fun same =>
      unstarted (List.mem_singleton.mp same ▸ List.mem_cons_self)
    have behind : .call (.move .start) ∉ rest := fun listed =>
      unstarted (List.mem_cons_of_mem _ listed)
    exact (later.state behind).trans (here.state first)

/-- An operation that leaves a session as it is, and is refused if it is an action, lets play stay
over. This covers actions and restores that fail. -/
theorem StaysOver.of_unchanged (ended : session.isOver = true)
    (unchanged : session.after [operation] = session)
    (refused : ∀ action answer, (.move (.act action), answer) ∈ session.log [operation] →
      answer = .error (.story .sessionOver)) : session.StaysOver [operation] where
  ended := by rw [unchanged, ended]
  current := by rw [unchanged]
  refused := refused
  state _ := by rw [unchanged]

/-- Play stays over through a reveal, which works only the engine. -/
theorem staysOver_reveal (ended : session.isOver = true) (step : RevealStep) :
    session.StaysOver [.reveal step] := by
  obtain ⟨engine, same⟩ := session.reveal_eq step
  have kept : session.after [.reveal step] = { session with engine } := same
  have current : (session.after [.reveal step]).current = session.current := by rw [kept]
  refine ⟨(isOver_of_current current).trans ended, current, ?_, fun _ => by rw [kept]⟩
  intro action answer listed
  cases listed

/-- Play stays over through an action, which is refused. -/
theorem staysOver_act (ended : session.isOver = true) (action : Action) :
    session.StaysOver [.call (.move (.act action))] := by
  have refused := call_act_of_over ended action
  refine .of_unchanged ended (congrArg Prod.snd refused) fun other answer listed => ?_
  obtain ⟨-, rfl⟩ := Prod.mk.inj (List.mem_singleton.mp listed)
  exact congrArg Prod.fst refused

/-- Play stays over through a restore that fails, which changes nothing. -/
theorem staysOver_of_restore_error {bytes : Snapshot.Bytes} {error : RestoreError}
    (ended : session.isOver = true) (failed : (session.restore bytes).1 = .error error) :
    session.StaysOver [.call (.restore bytes)] := by
  have unchanged : (session.restore bytes).2 = session := restore_of_error failed
  refine .of_unchanged ended unchanged fun action answer listed => ?_
  cases List.mem_singleton.mp listed

/-- Play stays over through a start that fails. It has replaced the state, so only what is shown is
kept. -/
theorem staysOver_of_start_error {error : RestoreError} (ended : session.isOver = true)
    (failed : (session.call (.move .start)).1 = .error error) :
    session.StaysOver [.call (.move .start)] := by
  have current : (session.after [.call (.move .start)]).current = session.current := by
    have shown := session.call_current (.move .start)
    rw [failed] at shown
    exact shown
  refine ⟨(isOver_of_current current).trans ended, current, ?_, ?_⟩
  · intro action answer listed
    cases List.mem_singleton.mp listed
  · intro unstarted
    exact absurd List.mem_cons_self unstarted

/-- Play stays over through an operation in which nothing begins.

Proof: by cases of the operation. A start and a restore begin play unless they fail, so both fail
here. -/
theorem staysOver_single (ended : session.isOver = true)
    (nothing : session.NothingBegins [operation]) : session.StaysOver [operation] := by
  cases operation with
  | reveal step => exact staysOver_reveal ended step
  | call call =>
    have fails (begins : call.begins = true) : ∃ error, (session.call call).1 = .error error :=
      nothing call _ (List.mem_append_left _ List.mem_cons_self) begins
    cases call with
    | restore bytes =>
      obtain ⟨error, failed⟩ := fails rfl
      exact staysOver_of_restore_error ended failed
    | move move =>
      cases move with
      | act action => exact staysOver_act ended action
      | start =>
        obtain ⟨error, failed⟩ := fails rfl
        exact staysOver_of_start_error ended failed

/-- While nothing begins, play stays over.

Proof: by induction on the operations: play is still over where the first one ends. -/
theorem staysOver_of_nothingBegins (ended : session.isOver = true)
    (nothing : session.NothingBegins operations) : session.StaysOver operations := by
  induction operations generalizing session with
  | nil =>
    refine ⟨ended, rfl, fun action answer listed => ?_, fun _ => rfl⟩
    cases listed
  | cons operation rest inductionHypothesis =>
    obtain ⟨first, behind⟩ := nothingBegins_cons.mp nothing
    have here := staysOver_single ended first
    exact here.cons (inductionHypothesis here.ended behind)

/-- After any operations on a new session play is over exactly if the last call that succeeded has
told an ending. While no start and no restore succeeds it stays over, with the same resolution
shown. Every action of the player is refused until then and changes nothing, also where reveals and
failing starts and restores go on in between.

Nothing is assumed of the story, and the operations before may be any, failures included.

Proof: what is shown is what the last call that succeeded has told, and that alone says whether
play is over. It stays over through each operation in which nothing begins. -/
theorem endings_absorb (graph : Graph) (setup : Setup) (operations : List Operation) :
    let session := (ofGraph graph setup).after operations
    (session.isOver = true ↔ ∃ resolved ending message,
        lastTold? ((ofGraph graph setup).log operations) = some resolved ∧
          resolved.resolution = .terminal ending message) ∧
      (session.isOver = true → ∀ more, session.NothingBegins more →
        session.StaysOver more ∧ ∀ action, (session.after more).call (.move (.act action)) =
          (.error (.story .sessionOver), session.after more)) := by
  intro session
  constructor
  · have current : session.current = lastTold? ((ofGraph graph setup).log operations) :=
      ((ofGraph graph setup).after_current operations).trans Option.or_none
    rw [isOver_iff, current]
  · intro ended more nothing
    have stays := staysOver_of_nothingBegins ended nothing
    exact ⟨stays, call_act_of_over stays.ended⟩

/-- A camp from which one choice leads to a good end. It has no way back. -/
def camp : Graph :=
  { start := "camp",
    nodes := Table.empty.insert "camp" (.choice { choices := [{ next := some "win" }] }) }

/-- The camp is left for good. The player's further actions are refused, while the message is
revealed and a restore from nothing fails. The second call asks for a choice that the camp does not
have, and fails before play is over. -/
theorem camp_left_for_good :
    let session := (ofGraph camp {}).after
      [.call (.move .start), .call (.move (.act (.choose 1))), .call (.move (.act (.choose 0)))]
    let more : List Operation :=
      [.call (.move (.act .advance)), .reveal .current, .call (.restore [])]
    session.isOver = true ∧ session.NothingBegins more ∧ session.StaysOver more ∧
      (session.after more).state = session.state ∧
      (session.after more).call (.move (.act (.choose 0))) =
        (.error (.story .sessionOver), session.after more) := by
  intro session more
  let shownCamp := (ofGraph camp {}).narrator.choiceScene (.fresh {} "camp") "camp"
    { choices := [{ next := some "win" }] }
  have entered : (ofGraph camp {}).narrator.resolveFrom (.fresh {} "camp") "camp" =
      ⟨.ok ⟨.interactive shownCamp, {}, []⟩, .fresh {} "camp"⟩ :=
    Narrator.resolveFrom_of_resolves (.arrives (.here "camp") rfl (.choice _ rfl))
  have started : (ofGraph camp {}).start =
      (ofGraph camp {}).settle ⟨.ok ⟨.interactive shownCamp, {}, []⟩, .fresh {} "camp"⟩ :=
    congrArg (ofGraph camp {}).settle entered
  have ended : session.isOver = true := by
    simp only [session, after, List.foldl, operate, call, move, started]
    rfl
  have nothing : session.NothingBegins more := by
    intro call answer listed begins
    rcases List.mem_cons.mp listed with advance | listed
    · obtain ⟨rfl, -⟩ := Prod.mk.inj advance
      cases begins
    · obtain ⟨-, rfl⟩ := Prod.mk.inj (List.mem_singleton.mp listed)
      exact ⟨_, rfl⟩
  obtain ⟨-, absorbs⟩ := endings_absorb camp {} [.call (.move .start),
    .call (.move (.act (.choose 1))), .call (.move (.act (.choose 0)))]
  obtain ⟨stays, refuses⟩ := absorbs ended more nothing
  have unstarted : .call (.move .start) ∉ more := by simp [more]
  exact ⟨ended, nothing, stays, stays.state unstarted, refuses (.choose 0)⟩

end Storyline.Session
