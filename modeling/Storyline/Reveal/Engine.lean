import Storyline.Reveal.Step
import Storyline.State.Setup
import Storyline.Text.Quoted

/-!
# Revealing text little by little

An engine reveals one text at a time, some steps for each tick. Whoever starts a
reveal gets a handle, one larger each time. A reveal ends when its text is shown
in full, when it is cancelled, or when the next one starts, and from then on its
handle does nothing.
-/

namespace Storyline.Reveal

/-- A reveal in progress: its handle, what is shown, and what is left. -/
structure Active where
  handle : Nat
  shown : List Char
  rest : List Char

/-- What an engine is doing. -/
inductive Stage where
  | idle
  | revealing (active : Active)
  | done

/-- An engine, with the number of reveals started so far and the text displayed. -/
structure Engine where
  pace : Pace
  started : Nat := 0
  stage : Stage := .idle
  displayed : List Char := []

/-- What an engine tells its host about a reveal: the prefix now shown, or that the
whole text is shown. -/
inductive Notice where
  | frame (handle : Nat) (shown : List Char)
  | done (handle : Nat)

namespace Stage

/-- The name of a stage. -/
def name : Stage → String
  | .idle => "Idle"
  | .revealing _ => "Revealing"
  | .done => "Done"

/-- The reveal in progress, if there is one. -/
def active? : Stage → Option Active
  | .revealing active => some active
  | _ => none

/-- A bound on the ticks that still show something, and one more for the last. -/
def left : Stage → Nat
  | .revealing active => active.rest.length + 1
  | _ => 0

end Stage

namespace Engine

/-- The handle of the reveal in progress. -/
def current (engine : Engine) : Option Nat := engine.stage.active?.map Active.handle

/-- Starts to reveal a text. A reveal in progress is dropped. -/
def start (engine : Engine) (text : String) : Engine × Nat :=
  let handle := engine.started + 1
  ({ engine with started := handle, stage := .revealing ⟨handle, [], text.toList⟩,
                 displayed := [] }, handle)

/-- Takes the steps of one tick. -/
def tick (engine : Engine) : Engine × List Notice :=
  match engine.stage with
  | .revealing active =>
    let (more, rest) := steps (max engine.pace.stepsPerTick 1) active.rest
    let shown := active.shown ++ more
    let frames := if active.rest.isEmpty then [] else [Notice.frame active.handle shown]
    if rest.isEmpty then
      ({ engine with stage := .done, displayed := shown }, frames ++ [.done active.handle])
    else
      ({ engine with stage := .revealing { active with shown, rest }, displayed := shown }, frames)
  | _ => (engine, [])

/-- Shows the whole text at once, if the handle is that of the reveal in progress. -/
def skip (engine : Engine) (handle : Nat) : Bool × Engine × List Notice :=
  match engine.stage with
  | .revealing active =>
    if active.handle = handle then
      let whole := active.shown ++ active.rest
      (true, { engine with stage := .done, displayed := whole }, [.frame handle whole, .done handle])
    else (false, engine, [])
  | _ => (false, engine, [])

/-- Drops the reveal in progress, if the handle is its own. -/
def cancel (engine : Engine) (handle : Nat) : Bool × Engine :=
  if engine.current = some handle then (true, { engine with stage := .idle }) else (false, engine)

/-- A tick brings a reveal in progress closer to its end. -/
theorem left_tick {engine : Engine} {active : Active}
    (revealing : engine.stage = .revealing active) :
    (engine.tick).1.stage.left < engine.stage.left := by
  unfold tick
  simp only [revealing]
  split
  · exact Nat.zero_lt_succ _
  · rename_i unfinished
    have more : active.rest ≠ [] := by
      intro empty
      rw [empty, steps_nil] at unfinished
      exact unfinished rfl
    exact Nat.succ_lt_succ (length_steps_lt (Nat.le_max_right _ 1) more)

/-- Ticks until the reveal in progress is done, and counts the ticks. -/
def runToEnd (engine : Engine) : Engine × List Notice × Nat :=
  match _revealing : engine.stage with
  | .revealing _ =>
    let (last, notices, ticks) := runToEnd engine.tick.1
    (last, engine.tick.2 ++ notices, ticks + 1)
  | _ => (engine, [], 0)
termination_by engine.stage.left
decreasing_by exact left_tick _revealing

/-- An engine described for a developer. -/
def described (engine : Engine) : String :=
  "RevealEngine \x7b config: RevealConfig \x7b tick_interval_ms: " ++
    toString engine.pace.tickMilliseconds ++ ", chars_per_tick: " ++
    toString engine.pace.stepsPerTick ++ " \x7d, state: " ++ engine.stage.name ++ ", current: " ++
    (match engine.current with
      | none => "None"
      | some handle => "Some(RevealHandle(" ++ toString handle ++ "))") ++
    ", displayed: " ++ Text.quoted (String.ofList engine.displayed) ++ " \x7d"

end Engine

end Storyline.Reveal
