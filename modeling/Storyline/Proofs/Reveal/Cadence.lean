import Mathlib.Algebra.Order.Floor.Div
import Storyline.Proofs.Reveal.Protocol

/-!
# The cadence of a reveal

A tick takes as many steps as the pace says, and the steps of ticks one after another are
those of one longer tick. So the pace decides how soon a text is shown, and nothing else: an
engine of any pace stands after some ticks where an engine of single steps stands after as
many ticks for each step. A text has a number of steps of its own, and a run to the end
takes the ticks that are needed for so many, at least one.
-/

namespace Storyline.Reveal

/-- The number of steps of a text: one for each character outside tags, one for each tag up
to its first `>`, and one for a `<` that is not closed with everything behind it. -/
inductive Spans : List Char → Nat → Prop where
  | nothing : Spans [] 0
  | plain {c : Char} {rest : List Char} {count : Nat} (outside : c ≠ '<')
      (later : Spans rest count) : Spans (c :: rest) (count + 1)
  | tag {inner rest : List Char} {count : Nat} (first : '>' ∉ inner) (later : Spans rest count) :
      Spans ('<' :: (inner ++ '>' :: rest)) (count + 1)
  | unclosed {inner : List Char} (endless : '>' ∉ inner) : Spans ('<' :: inner) 1

/-! ## One step -/

/-- Outside tags a step is one character. A `>` that closes nothing is such a character. -/
theorem oneStep_plain {c : Char} (outside : c ≠ '<') (rest : List Char) :
    oneStep (c :: rest) = ([c], rest) := by
  unfold oneStep
  split
  · rename_i empty
    cases empty
  · rename_i same
    exact absurd (List.cons.inj same).1 outside
  · rename_i same
    obtain ⟨rfl, rfl⟩ := List.cons.inj same
    rfl

/-- A search for `>` passes over what has none. It is used with a tag's inside in front of
its `>`. -/
theorem dropWhile_of_not_mem {inner : List Char} (absent : '>' ∉ inner) (rest : List Char) :
    (inner ++ rest).dropWhile (· != '>') = rest.dropWhile (· != '>') := by
  refine List.dropWhile_append_of_pos fun c member => ?_
  exact bne_iff_ne.mpr fun same => absent (same ▸ member)

/-- A step over a tag ends behind its first `>`. A further `<` inside the tag belongs to it. -/
theorem rest_oneStep_tag {inner : List Char} (first : '>' ∉ inner) (rest : List Char) :
    (oneStep ('<' :: (inner ++ '>' :: rest))).2 = rest := by
  have stops : (inner ++ '>' :: rest).dropWhile (· != '>') = '>' :: rest := by
    rw [dropWhile_of_not_mem first]
    rfl
  simp only [oneStep, stops]

/-- A step into a tag that is not closed goes to the end. All that is left of the text is then one
step. -/
theorem rest_oneStep_unclosed {inner : List Char} (endless : '>' ∉ inner) :
    (oneStep ('<' :: inner)).2 = [] := by
  have nothing : inner.dropWhile (· != '>') = [] := by
    have passed := dropWhile_of_not_mem endless []
    rwa [List.append_nil] at passed
  simp only [oneStep, nothing]

namespace Spans

variable {text : List Char} {count : Nat}

/-- A text that is not empty has one step more than its rest behind one step.

Proof: by the first character: a step over it is a plain character, a closed tag or an open one, as
there are three rules for counting. -/
theorem cons_iff {c : Char} {behind : List Char} :
    Spans (c :: behind) count ↔
      ∃ fewer, count = fewer + 1 ∧ Spans (oneStep (c :: behind)).2 fewer := by
  constructor
  · intro spans
    cases spans with
    | plain outside later => exact ⟨_, rfl, by rwa [oneStep_plain outside]⟩
    | tag first later => exact ⟨_, rfl, by rwa [rest_oneStep_tag first]⟩
    | unclosed endless => exact ⟨0, rfl, by rw [rest_oneStep_unclosed endless]; exact .nothing⟩
  · rintro ⟨fewer, rfl, later⟩
    by_cases opens : c = '<'
    · subst opens
      by_cases closes : '>' ∈ behind
      · obtain ⟨inner, rest, rfl, first⟩ := List.eq_append_cons_of_mem closes
        rw [rest_oneStep_tag first] at later
        exact .tag first later
      · rw [rest_oneStep_unclosed closes] at later
        cases later
        exact .unclosed closes
    · rw [oneStep_plain opens] at later
      exact .plain opens later

/-- A text that has no step is empty. Every character belongs to some step. -/
theorem eq_zero_iff (spans : Spans text count) : count = 0 ↔ text = [] := by
  cases spans <;> simp

/-- Every text has one number of steps.

Proof: by induction on the length of the text, since a step makes it shorter. -/
theorem exists_unique (text : List Char) : ∃ count, ∀ other, Spans text other ↔ other = count := by
  induction size : text.length using Nat.strongRecOn generalizing text with
  | ind size inductionHypothesis =>
    cases text with
    | nil =>
      refine ⟨0, fun other => ⟨fun spans => spans.eq_zero_iff.mpr rfl, ?_⟩⟩
      rintro rfl
      exact .nothing
    | cons c behind =>
      have shorter := length_oneStep c behind
      rw [size] at shorter
      obtain ⟨fewer, only⟩ := inductionHypothesis _ shorter _ rfl
      refine ⟨fewer + 1, fun other => cons_iff.trans ⟨?_, fun same => ?_⟩⟩
      · rintro ⟨later, rfl, spans⟩
        rw [(only later).mp spans]
      · exact ⟨fewer, same, (only fewer).mpr rfl⟩

/-- What remains behind some steps has so many steps fewer. Taking more steps than there are leaves
nothing, and a number of zero.

Proof: by induction on the steps taken. -/
theorem steps (spans : Spans text count) (taken : Nat) :
    Spans (steps taken text).2 (count - taken) := by
  induction taken generalizing text count with
  | zero => exact spans
  | succ taken inductionHypothesis =>
    cases text with
    | nil =>
      obtain rfl := spans.eq_zero_iff.mpr rfl
      rw [Nat.zero_sub]
      exact .nothing
    | cons c behind =>
      obtain ⟨fewer, rfl, later⟩ := cons_iff.mp spans
      rw [Nat.add_sub_add_right]
      exact inductionHypothesis later

/-- Nothing remains behind some steps exactly if the text has no more of them. So the number of
steps is what a reveal needs at one step for each tick. -/
theorem steps_eq_nil_iff (spans : Spans text count) (taken : Nat) :
    (Reveal.steps taken text).2 = [] ↔ count ≤ taken := by
  rw [← (spans.steps taken).eq_zero_iff]
  exact Nat.sub_eq_zero_iff_le

end Spans

/-! ## Ticks -/

/-- Steps one after another are the steps of both.

Proof: by induction on the first count. -/
theorem steps_add (first later : Nat) (text : List Char) :
    steps (first + later) text =
      ((steps first text).1 ++ (steps later (steps first text).2).1,
        (steps later (steps first text).2).2) := by
  induction first generalizing text with
  | zero => rw [Nat.zero_add]; rfl
  | succ first inductionHypothesis =>
    cases text with
    | nil => simp only [steps_nil, List.append_nil]
    | cons c behind =>
      rw [Nat.succ_add]
      simp only [steps, inductionHypothesis, List.append_assoc]

/-- Steps that leave nothing show the whole text. Nothing is lost between what is shown and what is
left. -/
theorem steps_of_rest_nil {count : Nat} {text : List Char} (finished : (steps count text).2 = []) :
    (steps count text).1 = text := by
  have whole := steps_append count text
  rwa [finished, List.append_nil] at whole

/-- The reveals that a log completes, in order. -/
def completions (log : List Happening) : List Nat := log.filterMap Happening.completed?

/-- A longer log has the completions of its parts. Completions are counted in this way through the
ticks of a run. -/
theorem completions_append (log told : List Happening) :
    completions (log ++ told) = completions log ++ completions told := by
  unfold completions
  rw [List.filterMap_append]

namespace Engine

variable {engine : Engine} {active : Active} {log : List Happening}

/-- The steps that each tick of an engine takes. -/
def stride (engine : Engine) : Nat := max engine.pace.stepsPerTick 1

/-- A tick takes at least one step. A pace of zero steps counts as one, so every reveal comes to
its end. -/
theorem stride_pos (engine : Engine) : 0 < engine.stride := by
  unfold stride
  exact Nat.le_max_right _ _

/-- A tick that leaves nothing shows the whole text and completes the reveal. This covers the empty
text, which is completed by the first tick. -/
theorem tick_of_rest_nil (revealing : engine.stage = .revealing active)
    (finished : (steps engine.stride active.rest).2 = []) :
    engine.tick.1 = { engine with stage := .done, displayed := active.shown ++ active.rest } ∧
      completions (engine.operate .tick).2 = [active.handle] := by
  have whole := steps_of_rest_nil finished
  unfold stride at finished whole
  constructor
  · simp [tick, revealing, finished, whole]
  · by_cases empty : active.rest = []
    · simp [operate, tick, revealing, empty, steps_nil]
      rfl
    · simp [operate, tick, revealing, finished, empty]
      rfl

/-- A tick that leaves something shows its steps and completes nothing. The reveal stays the same,
with its handle. -/
theorem tick_of_rest_ne_nil (revealing : engine.stage = .revealing active)
    (more : (steps engine.stride active.rest).2 ≠ []) :
    engine.tick.1 =
        { engine with
          stage := .revealing ⟨active.handle, active.shown ++ (steps engine.stride active.rest).1,
            (steps engine.stride active.rest).2⟩,
          displayed := active.shown ++ (steps engine.stride active.rest).1 } ∧
      completions (engine.operate .tick).2 = [] := by
  have unfinished : active.rest ≠ [] := by
    intro empty
    rw [empty, steps_nil] at more
    exact more rfl
  unfold stride at more ⊢
  constructor
  · simp [tick, revealing, more]
  · simp [operate, tick, revealing, more, unfinished, completions, Happening.completed?]

/-- A tick keeps the pace. No operation of the host changes the pace either, but only ticks matter
here. -/
theorem stride_tick (engine : Engine) : engine.tick.1.stride = engine.stride := by
  cases revealing : engine.stage with
  | revealing active =>
    by_cases finished : (steps engine.stride active.rest).2 = []
    · rw [(tick_of_rest_nil revealing finished).1]
      rfl
    · rw [(tick_of_rest_ne_nil revealing finished).1]
      rfl
  | _ => simp [tick, revealing]

/-- How an engine stands that has taken some steps of a reveal: the reveal goes on behind
them, or they showed all of it and it was completed, once. -/
inductive Took (active : Active) (count : Nat) (log : List Happening) (engine : Engine) : Prop where
  | going (standing : engine.stage =
        .revealing ⟨active.handle, active.shown ++ (steps count active.rest).1,
          (steps count active.rest).2⟩)
      (shown : engine.displayed = active.shown ++ (steps count active.rest).1)
      (pending : count = 0 ∨ (steps count active.rest).2 ≠ []) (silent : completions log = [])
  | ended (standing : engine.stage = .done) (whole : engine.displayed = active.shown ++ active.rest)
      (finished : count ≠ 0 ∧ (steps count active.rest).2 = [])
      (once : completions log = [active.handle])

namespace Took

variable {count : Nat}

/-- A tick takes its steps more.

Proof: by how the engine stands and by whether its tick leaves anything. Steps of ticks add up, and
an engine that is done takes no more of them. -/
theorem tick (took : engine.Took active count log) :
    engine.tick.1.Took active (count + engine.stride) (log ++ (engine.operate .tick).2) := by
  have positive := engine.stride_pos
  have onward := steps_add count engine.stride active.rest
  cases took with
  | going standing shown pending silent =>
    by_cases finished : (steps engine.stride (steps count active.rest).2).2 = []
    · obtain ⟨reached, completes⟩ := tick_of_rest_nil standing finished
      rw [reached]
      refine .ended rfl ?_ ⟨by omega, by rw [onward]; exact finished⟩ ?_
      · rw [List.append_assoc, steps_append]
      · rw [completions_append, silent, completes]
        rfl
    · obtain ⟨reached, completes⟩ := tick_of_rest_ne_nil standing finished
      rw [reached]
      refine .going ?_ ?_ (.inr (by rw [onward]; exact finished)) ?_
      · rw [onward, List.append_assoc]
      · rw [onward, List.append_assoc]
      · rw [completions_append, silent, completes]
        rfl
  | ended standing whole finished once =>
    have ignored : engine.tick = (engine, []) := by simp [Engine.tick, standing]
    rw [finished.2, steps_nil] at onward
    simp only [operate, ignored, List.map_nil, List.append_nil]
    exact .ended standing whole ⟨by omega, by rw [onward]⟩ once

/-- Ticks take all their steps more.

Proof: by induction on the number of ticks. -/
theorem ticks (took : engine.Took active count log) (number : Nat) :
    (engine.run (List.replicate number .tick)).1.Took active (count + number * engine.stride)
      (log ++ (engine.run (List.replicate number .tick)).2) := by
  induction number generalizing engine count log with
  | zero => simpa [run] using took
  | succ number inductionHypothesis =>
    have onward := inductionHypothesis took.tick
    rw [stride_tick, List.append_assoc, Nat.add_assoc, Nat.add_comm engine.stride,
      ← Nat.succ_mul] at onward
    exact onward

/-- The number of steps tells how an engine stands. This is what makes the pace a speed: two
engines that have taken as many steps of one text cannot be told apart by what they display. -/
theorem alike {other : Engine} {twin : Active} {otherLog : List Happening}
    (took : engine.Took active count log) (otherTook : other.Took twin count otherLog)
    (sameShown : active.shown = twin.shown) (sameRest : active.rest = twin.rest) :
    engine.displayed = other.displayed ∧ engine.stage.name = other.stage.name ∧
      (completions log).length = (completions otherLog).length := by
  cases took with
  | going standing shown pending silent =>
    cases otherTook with
    | going otherStanding otherShown _ otherSilent =>
      rw [standing, otherStanding, shown, otherShown, silent, otherSilent, sameShown, sameRest]
      exact ⟨rfl, rfl, rfl⟩
    | ended _ _ finished =>
      rw [sameRest] at pending
      exact absurd finished.2 (pending.resolve_left finished.1)
  | ended standing whole finished once =>
    cases otherTook with
    | going _ _ pending =>
      rw [sameRest] at finished
      exact absurd finished.2 (pending.resolve_left finished.1)
    | ended otherStanding otherWhole _ otherOnce =>
      rw [standing, otherStanding, whole, otherWhole, once, otherOnce, sameShown, sameRest]
      exact ⟨rfl, rfl, rfl⟩

end Took

/-- A text that is started has taken no step yet. The engine may have had any history before; the
start leaves only its pace and its count of handles. -/
theorem took_start (engine : Engine) (text : String) :
    (engine.start text).1.Took ⟨(engine.start text).2, [], text.toList⟩ 0 [] := by
  apply Took.going
  case standing => rfl
  case shown => rfl
  case pending => exact Or.inl rfl
  case silent => rfl

/-- The ticks for a count of steps that one tick does not take: one, and those for the rest.

Proof: division upwards takes one from its result where the dividend loses one divisor. -/
theorem ticks_needed {count stride : Nat} (positive : 0 < stride) (many : stride < count) :
    max 1 ((count - stride) ⌈/⌉ stride) + 1 = max 1 (count ⌈/⌉ stride) := by
  have one : 0 < (count - stride) ⌈/⌉ stride := by
    by_contra none
    have bound := (ceilDiv_le_iff_le_mul positive).mp (Nat.le_of_not_lt none)
    omega
  have onward : count ⌈/⌉ stride = (count - stride) ⌈/⌉ stride + 1 := by
    rw [Nat.ceilDiv_eq_add_pred_div, Nat.ceilDiv_eq_add_pred_div, ← Nat.add_div_right _ positive]
    congr 1
    omega
  omega

/-- An engine that is done has nothing left to run. It does not tick once more, so no completion is
told twice. -/
theorem runToEnd_of_done (done : engine.stage = .done) : engine.runToEnd = (engine, [], 0) := by
  rw [runToEnd]
  split
  · rename_i revealing
    cases done.symm.trans revealing
  · rfl

/-- A run to the end shows the whole text, and takes the ticks that its steps need.

Proof: by the recursion of the run. The last tick finds no more steps than it takes, and each tick
before it leaves so many fewer. -/
theorem runToEnd_of_spans {count : Nat} (revealing : engine.stage = .revealing active)
    (spans : Spans active.rest count) :
    engine.runToEnd.1.stage = .done ∧
      engine.runToEnd.1.displayed = active.shown ++ active.rest ∧
      engine.runToEnd.2.2 = max 1 (count ⌈/⌉ engine.stride) := by
  fun_induction runToEnd engine generalizing active count with
  | case1 engine _ standing last notices ticks same inductionHypothesis =>
    have positive := engine.stride_pos
    by_cases finished : (steps engine.stride active.rest).2 = []
    · have few : count ≤ engine.stride := (spans.steps_eq_nil_iff _).mp finished
      obtain ⟨reached, -⟩ := tick_of_rest_nil revealing finished
      rw [reached, runToEnd_of_done rfl] at same
      cases same
      have atMostOne : count ⌈/⌉ engine.stride ≤ 1 :=
        (ceilDiv_le_iff_le_mul positive).mpr (by rwa [Nat.mul_one])
      exact ⟨rfl, rfl, (Nat.max_eq_left atMostOne).symm⟩
    · have many : engine.stride < count := by
        have pending := mt (spans.steps_eq_nil_iff engine.stride).mpr finished
        omega
      obtain ⟨reached, -⟩ := tick_of_rest_ne_nil revealing finished
      obtain ⟨done, whole, number⟩ :=
        inductionHypothesis (by rw [reached]) (spans.steps engine.stride)
      rw [same] at done whole number
      refine ⟨done, ?_, ?_⟩
      · rw [whole, List.append_assoc, steps_append]
      · rw [stride_tick] at number
        exact (congrArg Nat.succ number).trans (ticks_needed positive many)
  | case2 engine idle => exact absurd revealing (idle active)

/-- The cadence of a reveal is a speed and nothing else. Behind as many ticks for each step as the
pace takes at once, an engine of single steps displays what an engine of that pace does, is at the
same stage, and has completed the reveal as often. A run to the end of a text that was just started
is done with the whole text on display, behind as many ticks as the steps of the text need, and at
least one.

Nothing is assumed of the two engines, the text or the number of ticks, and a pace of zero steps
counts as one. Ticks are the only operations in between; how frames come under other operations is
the subject of a module of its own.

Proof: both engines have taken the same number of steps of the same text, and that number tells how
an engine stands. The number of ticks in a run to the end follows its recursion. -/
theorem reveal_cadence_is_speed (engine other : Engine) (text : String) (ticks : Nat) :
    let quick := (engine.start text).1.run (List.replicate ticks .tick)
    let single := ({ other with pace := { other.pace with stepsPerTick := 1 } }.start text).1.run
      (List.replicate (ticks * max engine.pace.stepsPerTick 1) .tick)
    (quick.1.displayed = single.1.displayed ∧ quick.1.stage.name = single.1.stage.name ∧
        (completions quick.2).length = (completions single.2).length) ∧
      ∃ count, (∀ number, Spans text.toList number ↔ number = count) ∧
        (engine.start text).1.runToEnd.1.stage = .done ∧
        (engine.start text).1.runToEnd.1.displayed = text.toList ∧
        (engine.start text).1.runToEnd.2.2 =
          max 1 (count ⌈/⌉ max engine.pace.stepsPerTick 1) := by
  intro quick single
  have quickTook := (engine.took_start text).ticks ticks
  have singleTook := (took_start { other with pace := { other.pace with stepsPerTick := 1 } }
    text).ticks (ticks * engine.stride)
  have oneEach : ({ other with pace := { other.pace with stepsPerTick := 1 } }.start text).1.stride
      = 1 := rfl
  rw [oneEach, Nat.mul_one] at singleTook
  obtain ⟨count, only⟩ := Spans.exists_unique text.toList
  have reaches := @runToEnd_of_spans (engine.start text).1 ⟨(engine.start text).2, [], text.toList⟩
    count rfl ((only count).mpr rfl)
  exact ⟨quickTook.alike singleTook rfl rfl, count, only, reaches⟩

/-- A greeting of five steps, one of them a tag, takes three ticks at two steps each. The last tick
takes the fifth step alone. -/
theorem greeting_takes_three_ticks :
    (({ pace := { stepsPerTick := 2 } } : Engine).start "Hi <b>!").1.runToEnd.2.2 = 3 := by
  have spans : Spans "Hi <b>!".toList 5 :=
    .plain (by decide) (.plain (by decide) (.plain (by decide)
      (@Spans.tag ['b'] ['!'] 1 (by decide) (.plain (by decide) .nothing))))
  obtain ⟨-, count, only, -, -, ticks⟩ :=
    reveal_cadence_is_speed { pace := { stepsPerTick := 2 } } { pace := {} } "Hi <b>!" 0
  rw [ticks, ← (only 5).mp spans]
  decide

end Engine

end Storyline.Reveal
