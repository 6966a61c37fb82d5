import Mathlib.Data.List.Nodup
import Storyline.Proofs.Reveal.History

/-!
# The protocol of reveals

The log of an engine tells which reveal is in progress: the last one started, unless it has
been completed or cancelled since. The engine agrees with its log at every moment. It is
revealing exactly if a reveal is in progress, and once it is done it displays the whole
text of the last reveal that was started.

A reveal ends when it is completed, when it is cancelled, or when a newer one starts, and
nothing is told about it afterwards. Handles only grow, so a handle that is out of date is
never taken for that of the reveal in progress.
-/

namespace Storyline.Reveal

/-- The reveal that a notice is about. -/
def Notice.handle : Notice → Nat
  | .frame handle _ => handle
  | .done handle => handle

namespace Happening

/-- The reveal that is started, with its text. -/
def started? : Happening → Option (Nat × String)
  | .started handle text => some (handle, text)
  | _ => none

/-- The reveal that is completed. -/
def completed? : Happening → Option Nat
  | .told (.done handle) => some handle
  | _ => none

/-- The reveal in progress behind a happening, from the one before it. -/
def leaves (reveal : Option (Nat × String)) : Happening → Option (Nat × String)
  | .started handle text => some (handle, text)
  | .told (.frame _ _) => reveal
  | .told (.done handle) | .cancelled handle => reveal.filter fun reveal => reveal.1 != handle

/-- What ends a reveal: its completion, its cancellation, or the start of a newer one. -/
inductive Ends (handle : Nat) : Happening → Prop where
  | completed : Ends handle (.told (.done handle))
  | cancelled : Ends handle (.cancelled handle)
  | superseded {newer : Nat} (text : String) (older : handle < newer) :
      Ends handle (.started newer text)

/-- Something is told about a reveal. -/
inductive TellsOf (handle : Nat) : Happening → Prop where
  | told {notice : Notice} (about : notice.handle = handle) : TellsOf handle (.told notice)

end Happening

/-- The reveals that were started, in order. -/
def starts (log : List Happening) : List (Nat × String) := log.filterMap Happening.started?

/-- The reveal that is in progress after a log. -/
def inProgress (log : List Happening) : Option (Nat × String) := log.foldl Happening.leaves none

/-- A longer log has the starts of its parts. Starts are listed with their texts, so the last one
tells which text is on display. -/
theorem starts_append (log told : List Happening) :
    starts (log ++ told) = starts log ++ starts told := by
  unfold starts
  rw [List.filterMap_append]

/-- What happens last decides which reveal is in progress. A log is read from its beginning, and
what is in progress is carried along. -/
theorem inProgress_append (log told : List Happening) :
    inProgress (log ++ told) = told.foldl Happening.leaves (inProgress log) := by
  unfold inProgress
  rw [List.foldl_append]

/-- A stage agrees with a log and with what is displayed. -/
inductive Stage.Agrees (log : List Happening) (displayed : List Char) : Stage → Prop where
  | idle (ended : inProgress log = none) : Agrees log displayed .idle
  | revealing {active : Active} (text : String)
      (progress : inProgress log = some (active.handle, text))
      (latest : (starts log).getLast? = some (active.handle, text))
      (parts : text.toList = active.shown ++ active.rest) (shown : displayed = active.shown) :
      Agrees log displayed (.revealing active)
  | done (handle : Nat) (text : String) (ended : inProgress log = none)
      (latest : (starts log).getLast? = some (handle, text)) (whole : displayed = text.toList) :
      Agrees log displayed .done

namespace Stage.Agrees

variable {log : List Happening} {displayed : List Char} {active : Active}

/-- A reveal that shows more of its text stays in progress. Its completion is not told yet, so the
log keeps it in progress as well. -/
theorem advance {more rest : List Char} (agrees : Agrees log displayed (.revealing active))
    (parts : active.rest = more ++ rest) :
    Agrees (log ++ [.told (.frame active.handle (active.shown ++ more))]) (active.shown ++ more)
      (.revealing ⟨active.handle, active.shown ++ more, rest⟩) := by
  cases agrees with
  | revealing text progress latest whole =>
    refine .revealing text ?_ ?_ ?_ rfl
    · rw [inProgress_append, progress]
      rfl
    · rwa [starts_append, show starts [.told (.frame _ _)] = [] from rfl, List.append_nil]
    · rw [whole, parts, List.append_assoc]

/-- A reveal is done when its completion is told and its whole text displayed. With that nothing is
in progress any more, in the log as in the engine. -/
theorem complete (agrees : Agrees log displayed (.revealing active)) :
    Agrees (log ++ [.told (.done active.handle)]) (active.shown ++ active.rest) .done := by
  cases agrees with
  | revealing text progress latest whole =>
    refine .done active.handle text ?_ ?_ whole.symm
    · rw [inProgress_append, progress]
      simp [Happening.leaves]
    · rwa [starts_append, show starts [.told (.done _)] = [] from rfl, List.append_nil]

/-- Before its completion the whole text may be shown. This is how a skip goes, and a tick that
comes to the end of the text.

Proof: a frame of the whole text is a step like any other, and the completion follows. -/
theorem complete_shown (agrees : Agrees log displayed (.revealing active)) :
    Agrees (log ++ [.told (.frame active.handle (active.shown ++ active.rest)),
      .told (.done active.handle)]) (active.shown ++ active.rest) .done := by
  have shown := agrees.advance (List.append_nil active.rest).symm
  have done := shown.complete
  rwa [List.append_nil, ← List.append_cons] at done

end Stage.Agrees

namespace Engine

variable {engine next : Engine} {operation : Operation} {log told : List Happening} {handle : Nat}

/-- A reveal about which something may still be told: the one in progress, or a later one. -/
def MayTell (engine : Engine) (handle : Nat) : Prop :=
  engine.current = some handle ∨ engine.started < handle

/-- An engine agrees with the log of its history. -/
structure Records (engine : Engine) (log : List Happening) : Prop where
  handles : (starts log).map Prod.fst = List.range' 1 engine.started
  stage : engine.stage.Agrees log engine.displayed
  apart : log.Pairwise fun first later => ∀ handle, first.Ends handle → ¬ later.TellsOf handle
  ended : ∀ happening ∈ log, ∀ handle, happening.Ends handle → ¬ engine.MayTell handle

/-- The reveal in progress is one of those that were started. The reveal started last has the
highest handle of all. -/
theorem Records.handle_le (records : engine.Records log) {active : Active}
    (revealing : engine.stage = .revealing active) : active.handle ≤ engine.started := by
  have agrees := records.stage
  rw [revealing] at agrees
  cases agrees with
  | revealing text progress latest =>
    have member := List.mem_map_of_mem (f := Prod.fst) (List.mem_of_getLast? latest)
    rw [records.handles, List.mem_range'_1] at member
    omega

/-- The reveal in progress is the one that the log tells. So the engine holds nothing about a
reveal that its log would not tell. -/
theorem Records.current_eq (records : engine.Records log) :
    engine.current = (inProgress log).map Prod.fst := by
  have agrees := records.stage
  unfold current
  generalize engine.stage = stage at agrees
  cases agrees with
  | idle ended => rw [ended]; rfl
  | revealing text progress => rw [progress]; rfl
  | done handle text ended => rw [ended]; rfl

/-- A handle is the one in progress exactly if the log tells so. The text is part of the log only;
the engine holds what is shown of it and what is left. -/
theorem Records.current_iff (records : engine.Records log) :
    engine.current = some handle ↔ ∃ text, inProgress log = some (handle, text) := by
  rw [records.current_eq]
  simp [Prod.exists]

/-! ## One operation -/

/-- What may be told after an operation may be told before it.

Proof: by the ways to go. No operation puts an older reveal back into progress, and a start uses up
the next handle. -/
theorem Goes.mayTell (goes : engine.Goes operation (next, told)) (mayTell : next.MayTell handle) :
    engine.MayTell handle := by
  cases goes with
  | start text =>
    rcases mayTell with current | later
    · have same : engine.started + 1 = handle := Option.some.inj current
      exact Or.inr (same ▸ Nat.lt_succ_self _)
    · exact Or.inr (Nat.lt_of_succ_lt later)
  | ignored => exact mayTell
  | advanced revealing =>
    rcases mayTell with current | later
    · exact Or.inl (current_eq_some_iff.mpr ⟨_, revealing, Option.some.inj current⟩)
    · exact Or.inr later
  | _ =>
    rcases mayTell with current | later
    · cases current
    · exact Or.inr later

/-- What an operation tells is about the reveal in progress. An operation that starts a reveal
tells nothing, neither about the new one nor about the one it drops. -/
theorem Goes.tells (goes : engine.Goes operation (next, told)) {happening : Happening}
    (member : happening ∈ told) (tells : happening.TellsOf handle) :
    engine.current = some handle := by
  cases tells with
  | told about =>
    cases goes with
    | start text => cases List.mem_singleton.mp member
    | ignored => cases member
    | cancelled revealing => cases List.mem_singleton.mp member
    | emptied revealing | advanced revealing =>
      cases List.mem_singleton.mp member
      exact current_eq_some_iff.mpr ⟨_, revealing, about⟩
    | completed revealing =>
      rcases List.mem_pair.mp member with same | same
      · cases same
        exact current_eq_some_iff.mpr ⟨_, revealing, about⟩
      · cases same
        exact current_eq_some_iff.mpr ⟨_, revealing, about⟩

/-- Nothing may be told about an older reveal when none is in progress. It would have to be in
progress, or yet to come. -/
theorem not_mayTell_of_le (idle : engine.current = none) (older : handle ≤ engine.started) :
    ¬ engine.MayTell handle := by
  rintro (current | later)
  · cases idle.symm.trans current
  · exact Nat.not_lt_of_le older later

/-- About a reveal that an operation ends nothing may be told any more.

Proof: by the ways to go. A start ends all older reveals, which is why handles must grow; a
completion or a cancellation leaves nothing in progress. -/
theorem Goes.not_mayTell (goes : engine.Goes operation (next, told))
    (records : engine.Records log) {happening : Happening} (member : happening ∈ told)
    (ends : happening.Ends handle) : ¬ next.MayTell handle := by
  cases goes with
  | start text =>
    cases List.mem_singleton.mp member
    cases ends with
    | superseded text older =>
      rintro (current | later)
      · exact Nat.ne_of_gt older (Option.some.inj current)
      · exact Nat.lt_asymm older later
  | ignored => cases member
  | advanced revealing =>
    cases List.mem_singleton.mp member
    cases ends
  | cancelled revealing | emptied revealing =>
    cases List.mem_singleton.mp member
    cases ends
    exact not_mayTell_of_le rfl (records.handle_le revealing)
  | completed revealing =>
    rcases List.mem_pair.mp member with same | same
    · cases same
      cases ends
    · cases same
      cases ends
      exact not_mayTell_of_le rfl (records.handle_le revealing)

/-- Within one operation nothing is told behind an end. At most two things happen within one, and
an end is the last of them. -/
theorem Goes.apart (goes : engine.Goes operation (next, told)) :
    told.Pairwise fun first later => ∀ handle, first.Ends handle → ¬ later.TellsOf handle := by
  cases goes with
  | ignored => exact .nil
  | completed => exact List.pairwise_pair.mpr fun _ ends => by cases ends
  | _ => exact List.pairwise_singleton _ _

/-- The stage behind an operation agrees with the log behind it.

Proof: by the ways to go, each of which moves the stage and the log in step. -/
theorem Goes.agrees (goes : engine.Goes operation (next, told))
    (agrees : engine.stage.Agrees log engine.displayed) :
    next.stage.Agrees (log ++ told) next.displayed := by
  cases goes with
  | start text =>
    refine .revealing text ?_ ?_ rfl rfl
    · rw [inProgress_append]
      rfl
    · rw [starts_append]
      exact List.getLast?_concat
  | ignored => rwa [List.append_nil]
  | cancelled revealing =>
    rw [revealing] at agrees
    cases agrees with
    | revealing text progress =>
      refine .idle ?_
      rw [inProgress_append, progress]
      simp [Happening.leaves]
  | emptied revealing empty =>
    rw [revealing] at agrees
    have done := agrees.complete
    rwa [empty, List.append_nil] at done
  | advanced revealing parts =>
    rw [revealing] at agrees
    exact agrees.advance parts
  | completed revealing =>
    rw [revealing] at agrees
    exact agrees.complete_shown

/-- An operation starts a reveal under the next handle, or starts none. Handles are the numbers
from one on, with no gap and no repetition. -/
theorem Goes.handles (goes : engine.Goes operation (next, told))
    (handles : (starts log).map Prod.fst = List.range' 1 engine.started) :
    (starts (log ++ told)).map Prod.fst = List.range' 1 next.started := by
  rw [starts_append, List.map_append, handles]
  cases goes with
  | start text => rw [List.range'_concat, Nat.one_mul, Nat.add_comm engine.started 1]; rfl
  | _ => exact List.append_nil _

/-- An operation keeps an engine in agreement with its log.

Proof: each of the four parts is kept: handles and stage by the lemmas above, and the two about
ends because what ends now was in progress, and nothing may be told of it from here on. -/
theorem Goes.records (goes : engine.Goes operation (next, told)) (records : engine.Records log) :
    next.Records (log ++ told) where
  handles := goes.handles records.handles
  stage := goes.agrees records.stage
  apart := by
    refine List.pairwise_append.mpr ⟨records.apart, goes.apart, ?_⟩
    intro first member later memberLater handle ends tells
    exact records.ended first member handle ends (Or.inl (goes.tells memberLater tells))
  ended := by
    intro happening member handle ends mayTell
    rcases List.mem_append.mp member with earlier | now
    · exact records.ended happening earlier handle ends (goes.mayTell mayTell)
    · exact goes.not_mayTell records now ends mayTell

/-! ## Histories -/

/-- Every engine agrees with the log of its history. The engine is new at the beginning of a
history, with no reveal started and nothing in the log. -/
theorem records_run (pace : Pace) (operations : List Operation) :
    (({ pace } : Engine).run operations).1.Records (({ pace } : Engine).run operations).2 := by
  have fresh : ({ pace } : Engine).Records [] :=
    ⟨rfl, .idle rfl, .nil, fun _ member => absurd member List.not_mem_nil⟩
  exact run_induction (fun goes records => goes.records records) fresh operations

/-- A skip is accepted exactly if its handle is that of the reveal in progress. A skip that is
accepted completes the reveal at once. -/
theorem skip_accepted_iff : (engine.skip handle).1 = true ↔ engine.current = some handle := by
  constructor
  · intro accepted
    by_contra other
    rw [skip_of_current_ne other] at accepted
    cases accepted
  · intro own
    obtain ⟨active, revealing, rfl⟩ := current_eq_some_iff.mp own
    simp only [skip, revealing, if_true]

/-- A cancel is accepted exactly if its handle is that of the reveal in progress. The same handle
is never accepted a second time. -/
theorem cancel_accepted_iff : (engine.cancel handle).1 = true ↔ engine.current = some handle := by
  unfold cancel
  by_cases own : engine.current = some handle <;> simp [own]

/-- A tick completes the reveal in progress or leaves it in progress.

Proof: by the ways in which a tick goes; none of them cancels a reveal or starts one. -/
theorem tick_completes_or_keeps (engine : Engine) (handle : Nat) :
    (.told (.done handle) ∈ (engine.operate .tick).2 ∨
      (engine.operate .tick).1.current = some handle) ↔ engine.current = some handle := by
  have goes := engine.goes_tick
  generalize engine.operate .tick = reached at goes
  cases goes with
  | ignored => simp
  | advanced revealing => simp [current, Stage.active?, revealing]
  | _ revealing => simp [current, Stage.active?, revealing, eq_comm]

/-- A run to the end completes the reveal in progress.

Proof: by the recursion of the run. Each tick completes the reveal or keeps it, and the run does
not stop while there is one. -/
theorem runToEnd_completes_iff (engine : Engine) (handle : Nat) :
    .done handle ∈ engine.runToEnd.2.1 ↔ engine.current = some handle := by
  fun_induction runToEnd engine with
  | case1 engine active revealing last notices ticks same inductionHypothesis =>
    rw [same] at inductionHypothesis
    rw [List.mem_append, inductionHypothesis, ← engine.tick_completes_or_keeps handle]
    simp [operate]
  | case2 engine idle =>
    have nothing : engine.current = none := current_eq_none_iff.mpr idle
    simp [nothing]

/-- A tick tells the completion of a reveal exactly if the reveal is in progress and the tick
displays the end of its text. For an empty text that is the first tick, which displays the end
without a frame. -/
theorem Records.done_told_by_tick_iff (records : engine.Records log) (handle : Nat) :
    .told (.done handle) ∈ (engine.operate .tick).2 ↔
      ∃ text, inProgress log = some (handle, text) ∧
        (engine.operate .tick).1.displayed = text.toList := by
  have goes := engine.goes_tick
  have agrees := records.stage
  generalize engine.operate .tick = reached at goes
  cases goes with
  | ignored idle =>
    have nothing : inProgress log = none :=
      Option.map_eq_none_iff.mp (records.current_eq.symm.trans idle)
    simp [nothing]
  | emptied revealing empty =>
    rw [revealing] at agrees
    cases agrees with
    | revealing text progress latest parts => simp [progress, parts, empty, eq_comm]
  | completed revealing =>
    rw [revealing] at agrees
    cases agrees with
    | revealing text progress latest parts => simp [progress, parts, eq_comm]
  | advanced revealing split _ unfinished =>
    rw [revealing] at agrees
    cases agrees with
    | revealing text progress latest parts => simp [progress, parts, split, unfinished]

/-- The completion of a reveal is told exactly by the operation that completes it: a skip by its
own handle, a run to the end, or the tick that displays the end of its text.

Proof: by the operation. Starts and cancels never tell a completion, a skip does for its own
handle, and the other two go by ticks. -/
theorem Records.done_told_iff (records : engine.Records log) (operation : Operation)
    (handle : Nat) :
    .told (.done handle) ∈ (engine.operate operation).2 ↔
      ∃ text, inProgress log = some (handle, text) ∧
        (operation = .skip handle ∨ operation = .runToEnd ∨
          operation = .tick ∧ engine.tick.1.displayed = text.toList) := by
  have progress : engine.current = some handle ↔ _ := records.current_iff
  cases operation with
  | start text => simp [operate]
  | cancel other => simp [operate]
  | tick =>
    refine (records.done_told_by_tick_iff handle).trans ?_
    simp [operate]
  | runToEnd =>
    simp only [operate, List.mem_map, Happening.told.injEq, exists_eq_right,
      runToEnd_completes_iff, progress]
    simp
  | skip other =>
    rw [operate]
    by_cases own : engine.current = some other
    · -- An accepted skip completes the reveal in progress and tells of no other.
      obtain ⟨active, revealing, rfl⟩ := current_eq_some_iff.mp own
      have accepted : .told (.done handle) ∈
          (engine.skip active.handle).2.2.map Happening.told ↔ active.handle = handle := by
        simp [skip, revealing, eq_comm]
      rw [accepted]
      constructor
      · rintro rfl
        obtain ⟨text, told⟩ := progress.mp own
        exact ⟨text, told, Or.inl rfl⟩
      · rintro ⟨text, told, -⟩
        exact Option.some.inj (own.symm.trans (progress.mpr ⟨text, told⟩))
    · rw [skip_of_current_ne own]
      refine iff_of_false List.not_mem_nil ?_
      rintro ⟨text, told, same | same | ⟨same, -⟩⟩
      · cases same
        exact own (progress.mpr ⟨text, told⟩)
      · cases same
      · cases same

/-- No reveal is completed twice.

Proof: a completion is an end, and another completion behind it would be told about the ended
reveal. -/
theorem Records.completed_nodup (records : engine.Records log) :
    (log.filterMap Happening.completed?).Nodup := by
  refine List.pairwise_filterMap.mpr (records.apart.imp ?_)
  intro first later apart handle completes other completesOther same
  have ending : first = .told (.done handle) := by
    cases first with
    | told notice => cases notice <;> simp_all [Happening.completed?]
    | _ => cases completes
  have telling : later = .told (.done other) := by
    cases later with
    | told notice => cases notice <;> simp_all [Happening.completed?]
    | _ => cases completesOther
  subst ending telling same
  exact apart handle .completed (.told rfl)

/-- The protocol of an engine of any pace, after any operations. Handles grow with every start. The
completion of a reveal is told at most once, and exactly by the operation that completes it.
Nothing is told about a reveal behind its end. Skips and cancels are accepted exactly by the handle
of the reveal in progress, and do nothing otherwise. The engine is revealing exactly if a reveal is
in progress, and once it is done it displays the whole text of the last reveal that was started. A
run to the end does what some ticks do, so all this holds between them too.

Nothing is assumed of the host: it may use handles of any age, start a reveal before the last one
is over, and tick when nothing is in progress. Handles are numbers without a bound here, so no
handle comes round again.

Proof: every engine agrees with the log of its history, because each operation goes in one of six
ways and each of them keeps the agreement. The parts are then read off the agreement. -/
theorem reveals_follow_protocol (pace : Pace) (operations : List Operation) :
    let engine := (({ pace } : Engine).run operations).1
    let log := (({ pace } : Engine).run operations).2
    ((starts log).map Prod.fst).Pairwise (· < ·) ∧
      (log.filterMap Happening.completed?).Nodup ∧
      (∀ operation handle, .told (.done handle) ∈ (engine.operate operation).2 ↔
        ∃ text, inProgress log = some (handle, text) ∧
          (operation = .skip handle ∨ operation = .runToEnd ∨
            operation = .tick ∧ engine.tick.1.displayed = text.toList)) ∧
      (∀ earlier ending later, log = earlier ++ ending :: later → ∀ handle, ending.Ends handle →
        ∀ notice, .told notice ∈ later → notice.handle ≠ handle) ∧
      (∀ handle, ((engine.skip handle).1 = true ↔ ∃ text, inProgress log = some (handle, text)) ∧
        ((engine.skip handle).1 = false → (engine.skip handle).2 = (engine, []))) ∧
      (∀ handle, ((engine.cancel handle).1 = true ↔ ∃ text, inProgress log = some (handle, text)) ∧
        ((engine.cancel handle).1 = false → (engine.cancel handle).2 = engine)) ∧
      ((∃ active, engine.stage = .revealing active) ↔ ∃ reveal, inProgress log = some reveal) ∧
      (engine.stage = .done → ∃ handle text, (starts log).getLast? = some (handle, text) ∧
        engine.displayed = text.toList) ∧
      ∃ count, engine.operate .runToEnd = engine.run (List.replicate count .tick) := by
  intro engine log
  have records : engine.Records log := records_run pace operations
  have progress (handle : Nat) : engine.current = some handle ↔ _ := records.current_iff
  refine ⟨?_, records.completed_nodup, records.done_told_iff, ?_, fun handle => ⟨?_, ?_⟩,
    fun handle => ⟨?_, ?_⟩, ?_, ?_, engine.runToEnd_eq_ticks⟩
  · rw [records.handles]
    exact List.pairwise_lt_range'
  · intro earlier ending later parts handle ends notice member about
    have apart := records.apart
    rw [parts] at apart
    have behind := List.rel_of_pairwise_cons (List.pairwise_append.mp apart).2.1 member
    exact behind handle ends (.told about)
  · exact skip_accepted_iff.trans (progress handle)
  · intro refused
    rw [skip_of_current_ne fun own => by simp [skip_accepted_iff.mpr own] at refused]
  · exact cancel_accepted_iff.trans (progress handle)
  · intro refused
    rw [cancel_of_current_ne fun own => by simp [cancel_accepted_iff.mpr own] at refused]
  · constructor
    · rintro ⟨active, revealing⟩
      obtain ⟨text, told⟩ :=
        (progress active.handle).mp (current_eq_some_iff.mpr ⟨active, revealing, rfl⟩)
      exact ⟨_, told⟩
    · rintro ⟨⟨handle, text⟩, told⟩
      obtain ⟨active, revealing, -⟩ := current_eq_some_iff.mp ((progress handle).mpr ⟨text, told⟩)
      exact ⟨active, revealing⟩
  · intro finished
    have agrees := records.stage
    rw [finished] at agrees
    cases agrees with
    | done handle text ended latest whole => exact ⟨handle, text, latest, whole⟩

end Engine

end Storyline.Reveal
