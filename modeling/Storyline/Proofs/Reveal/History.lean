import Storyline.Proofs.Reveal.Markup
import Storyline.Reveal.Engine

/-!
# Histories of an engine

A host works an engine in any order: it starts reveals, lets the engine tick, and skips or
cancels by any handle, also by one that is long out of date. What happens on the way is
written down in a log: every start with its handle and its text, every notice to the host,
and every reveal that is cancelled.

An operation goes in one of six ways, and letting the engine run to the end goes as its
ticks do. So what every way of going keeps is kept by every history.
-/

namespace Storyline.Reveal

/-- What a host asks of an engine. -/
inductive Operation where
  | start (text : String)
  | tick
  | skip (handle : Nat)
  | cancel (handle : Nat)
  | runToEnd

/-- Something that happens to an engine. -/
inductive Happening where
  | started (handle : Nat) (text : String)
  | told (notice : Notice)
  | cancelled (handle : Nat)

/-- What may show the rest of a text at once: a skip by the handle, or a tick as long as
something is left. -/
inductive Active.ShowsRestBy (active : Active) : Operation → Prop where
  | skip : ShowsRestBy active (.skip active.handle)
  | tick (unfinished : active.rest ≠ []) : ShowsRestBy active .tick

namespace Engine

/-- The engine after an operation, and what happened. -/
def operate (engine : Engine) : Operation → Engine × List Happening
  | .start text => ((engine.start text).1, [.started (engine.start text).2 text])
  | .tick => (engine.tick.1, engine.tick.2.map .told)
  | .skip handle => ((engine.skip handle).2.1, (engine.skip handle).2.2.map .told)
  | .cancel handle =>
    ((engine.cancel handle).2, if (engine.cancel handle).1 then [.cancelled handle] else [])
  | .runToEnd => (engine.runToEnd.1, engine.runToEnd.2.1.map .told)

/-- The engine after some operations, and all that happened, in order. -/
def run (engine : Engine) : List Operation → Engine × List Happening
  | [] => (engine, [])
  | operation :: rest =>
    let (next, first) := engine.operate operation
    let (last, later) := next.run rest
    (last, first ++ later)

/-- An engine in which nothing is in progress that an operation concerns. -/
def Disregards (engine : Engine) : Operation → Prop
  | .tick => engine.current = none
  | .skip handle | .cancel handle => engine.current ≠ some handle
  | .start _ | .runToEnd => False

/-- All ways in which an operation goes that is not a run to the end. -/
inductive Goes (engine : Engine) : Operation → Engine × List Happening → Prop where
  | start (text : String) :
      Goes engine (.start text)
        ({ engine with started := engine.started + 1,
                       stage := .revealing ⟨engine.started + 1, [], text.toList⟩,
                       displayed := [] },
          [.started (engine.started + 1) text])
  | ignored {operation : Operation} (disregarded : engine.Disregards operation) :
      Goes engine operation (engine, [])
  | cancelled {active : Active} (revealing : engine.stage = .revealing active) :
      Goes engine (.cancel active.handle)
        ({ engine with stage := .idle }, [.cancelled active.handle])
  | completed {active : Active} {operation : Operation}
      (revealing : engine.stage = .revealing active) (shows : active.ShowsRestBy operation) :
      Goes engine operation
        ({ engine with stage := .done, displayed := active.shown ++ active.rest },
          [.told (.frame active.handle (active.shown ++ active.rest)),
            .told (.done active.handle)])
  | emptied {active : Active} (revealing : engine.stage = .revealing active)
      (empty : active.rest = []) :
      Goes engine .tick
        ({ engine with stage := .done, displayed := active.shown }, [.told (.done active.handle)])
  | advanced {active : Active} {more rest : List Char}
      (revealing : engine.stage = .revealing active) (parts : active.rest = more ++ rest)
      (progress : more ≠ []) (unfinished : rest ≠ []) (closed : Closed more) :
      Goes engine .tick
        ({ engine with stage := .revealing ⟨active.handle, active.shown ++ more, rest⟩,
                       displayed := active.shown ++ more },
          [.told (.frame active.handle (active.shown ++ more))])

variable {engine : Engine}

/-- The handle in progress is that of the reveal in progress. Hosts see handles only, and the
lemmas are about reveals. -/
theorem current_eq_some_iff {handle : Nat} :
    engine.current = some handle ↔
      ∃ active, engine.stage = .revealing active ∧ active.handle = handle := by
  unfold current
  cases engine.stage with
  | revealing active => simp [Stage.active?]
  | _ => simp [Stage.active?]

/-- Nothing is in progress exactly if no reveal is. An engine that is done has none in progress,
just like an idle one. -/
theorem current_eq_none_iff :
    engine.current = none ↔ ∀ active, engine.stage ≠ .revealing active := by
  unfold current
  cases engine.stage with
  | revealing active => simp [Stage.active?]
  | _ => simp [Stage.active?]

/-- How a tick goes.

Proof: a tick without a reveal is ignored. With one it shows some steps, and the cases are whether
anything was left before it and whether anything is left behind it. -/
theorem goes_tick (engine : Engine) : engine.Goes .tick (engine.operate .tick) := by
  unfold operate tick
  cases revealing : engine.stage with
  | idle => exact .ignored (current_eq_none_iff.mpr (by simp [revealing]))
  | done => exact .ignored (current_eq_none_iff.mpr (by simp [revealing]))
  | revealing active =>
    dsimp only
    by_cases empty : active.rest = []
    · rw [empty, steps_nil]
      simp only [List.append_nil, List.isEmpty_nil, if_true, List.nil_append]
      exact .emptied revealing empty
    · have notEmpty : active.rest.isEmpty = false := by simpa using empty
      -- A pace of no steps is taken for one of a single step, so something is shown.
      have positive : 0 < max engine.pace.stepsPerTick 1 := by omega
      have parts := steps_append (max engine.pace.stepsPerTick 1) active.rest
      have progress := steps_ne_nil positive empty
      have closed := @closed_steps (max engine.pace.stepsPerTick 1) active.rest
      generalize steps (max engine.pace.stepsPerTick 1) active.rest = taken
        at parts progress closed
      obtain ⟨more, rest⟩ := taken
      cases rest with
      | nil =>
        rw [List.append_nil] at parts
        subst parts
        simp only [List.isEmpty_nil, if_true, notEmpty]
        exact .completed revealing (.tick empty)
      | cons c behind =>
        simp only [List.isEmpty_cons, notEmpty]
        exact .advanced revealing parts.symm progress (List.cons_ne_nil c behind)
          (closed (List.cons_ne_nil c behind))

/-- A skip by a handle that is not the one in progress is refused and does nothing. Handles of
reveals that are over, and numbers that were never handles, are all refused alike. -/
theorem skip_of_current_ne {handle : Nat} (other : engine.current ≠ some handle) :
    engine.skip handle = (false, engine, []) := by
  unfold skip
  cases revealing : engine.stage with
  | revealing active =>
    have different : active.handle ≠ handle := fun same =>
      other (current_eq_some_iff.mpr ⟨active, revealing, same⟩)
    simp [different]
  | _ => rfl

/-- A cancel by a handle that is not the one in progress is refused and does nothing. The engine is
the very same, so a late cancel cannot hit a newer reveal. -/
theorem cancel_of_current_ne {handle : Nat} (other : engine.current ≠ some handle) :
    engine.cancel handle = (false, engine) := by
  unfold cancel
  rw [if_neg other]

/-- How a skip goes. It is ignored, or the rest is shown and the reveal completed. -/
theorem goes_skip (engine : Engine) (handle : Nat) :
    engine.Goes (.skip handle) (engine.operate (.skip handle)) := by
  by_cases own : engine.current = some handle
  · obtain ⟨active, revealing, rfl⟩ := current_eq_some_iff.mp own
    simp only [operate, skip, revealing, if_true]
    exact .completed revealing .skip
  · simp only [operate, skip_of_current_ne own]
    exact .ignored own

/-- How a cancel goes. It is ignored, or the reveal ends without its completion being told. -/
theorem goes_cancel (engine : Engine) (handle : Nat) :
    engine.Goes (.cancel handle) (engine.operate (.cancel handle)) := by
  by_cases own : engine.current = some handle
  · obtain ⟨active, revealing, rfl⟩ := current_eq_some_iff.mp own
    simp only [operate, cancel, own, if_true]
    exact .cancelled revealing
  · simp only [operate, cancel_of_current_ne own, Bool.false_eq_true, if_false]
    exact .ignored own

/-- An engine that runs to the end does what some ticks do. How many they are depends on the text
and on the pace, and is told elsewhere.

Proof: by the recursion of the run, which ticks as long as a reveal is in progress. -/
theorem runToEnd_eq_ticks (engine : Engine) :
    ∃ count, engine.operate .runToEnd = engine.run (List.replicate count .tick) := by
  unfold operate
  fun_induction runToEnd engine with
  | case1 engine active revealing last notices ticks same inductionHypothesis =>
    obtain ⟨count, ticking⟩ := inductionHypothesis
    refine ⟨count + 1, ?_⟩
    simp only [List.replicate_succ, run, ← ticking, operate, same, List.map_append]
  | case2 engine idle => exact ⟨0, rfl⟩

/-- What every way of going keeps is kept by every history.

Proof: by induction on the operations. A run to the end is replaced by its ticks, and they are gone
through by an induction on their number. -/
theorem run_induction {Kept : Engine → List Happening → Prop}
    (going : ∀ {engine next : Engine} {operation : Operation} {log told : List Happening},
      engine.Goes operation (next, told) → Kept engine log → Kept next (log ++ told))
    {log : List Happening} (kept : Kept engine log) (operations : List Operation) :
    Kept (engine.run operations).1 (log ++ (engine.run operations).2) := by
  have ticking (count : Nat) {engine : Engine} {log : List Happening} (kept : Kept engine log) :
      Kept (engine.run (List.replicate count .tick)).1
        (log ++ (engine.run (List.replicate count .tick)).2) := by
    induction count generalizing engine log with
    | zero => simpa [run] using kept
    | succ count inductionHypothesis =>
      have onward := inductionHypothesis (going engine.goes_tick kept)
      rwa [List.append_assoc] at onward
  induction operations generalizing engine log with
  | nil => simpa [run] using kept
  | cons operation rest inductionHypothesis =>
    have first : Kept (engine.operate operation).1 (log ++ (engine.operate operation).2) := by
      cases operation with
      | start text => exact going (.start text) kept
      | tick => exact going engine.goes_tick kept
      | skip handle => exact going (engine.goes_skip handle) kept
      | cancel handle => exact going (engine.goes_cancel handle) kept
      | runToEnd =>
        obtain ⟨count, same⟩ := engine.runToEnd_eq_ticks
        rw [same]
        exact ticking count kept
    have onward := inductionHypothesis first
    rwa [List.append_assoc] at onward

end Engine

end Storyline.Reveal
