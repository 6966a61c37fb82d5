import Storyline.Proofs.Play.Action
import Storyline.State.Basic

/-!
# What the clock shows

The clock counts minutes over the whole range of a signed word, also before the first
midnight. What it shows is a time of day: two digits for the hour, a colon, and two digits
for the minute. Such a text can be read in one way only, and the minutes since midnight that
it tells are the remainder of the count by a day. So two clocks show the same exactly if
whole days lie between them.

Time that passes is added without a bound first and then cut off at the ends of the range.
Below the ends nothing is lost, and at the ends the clock stops instead of coming out at the
other one, so time that passes never takes it back.
-/

namespace Storyline.Clock

/-! ## Two digits -/

/-- Some characters are two decimal digits that spell a number. A number below ten has a zero in
front. -/
structure InTwoDigits (characters : List Char) (number : Nat) : Prop where
  length : characters.length = 2
  digits : Decimal.isDigits characters = true
  value : Decimal.value characters = number

/-- A number below one hundred is written in two digits. From one hundred on the digits in front
would be lost. -/
theorem inTwoDigits_twoDigits {number : Nat} (small : number < 100) :
    InTwoDigits (twoDigits number) number := by
  have tens : number / 10 % 10 < 10 := Nat.mod_lt _ (by decide)
  have ones : number % 10 < 10 := Nat.mod_lt _ (by decide)
  constructor
  · rfl
  · simp only [Decimal.isDigits, twoDigits, List.isEmpty_cons, List.all_cons, List.all_nil,
      Nat.isDigit_digitChar, decide_eq_true tens, decide_eq_true ones, Bool.not_false, Bool.and_true]
  · have zero : '0'.toNat = 48 := rfl
    simp only [Decimal.value, twoDigits, List.foldl_cons, List.foldl_nil,
      Nat.toNat_digitChar_of_lt_ten tens, Nat.toNat_digitChar_of_lt_ten ones, zero]
    omega

/-! ## Times of day -/

/-- A text tells a time of day: the hour in two digits, a colon, and the minute in two digits.
Nothing else may stand in the text, not even a sign. -/
structure Tells (text : String) (hour minute : Nat) : Prop where
  written : ∃ front back, text.toList = front ++ ':' :: back ∧
    InTwoDigits front hour ∧ InTwoDigits back minute
  hour_le : hour ≤ 23
  minute_le : minute ≤ 59

/-- A text tells one time of day at most.

Proof: the colon stands behind two characters in every such text, so both readings have the same
digits on both sides of it. -/
theorem Tells.unique {text : String} {hour minute otherHour otherMinute : Nat}
    (tells : Tells text hour minute) (others : Tells text otherHour otherMinute) :
    hour = otherHour ∧ minute = otherMinute := by
  obtain ⟨front, back, written, fronted, backed⟩ := tells.written
  obtain ⟨start, tail, rewritten, started, tailed⟩ := others.written
  -- The colon stands behind two digits in both readings.
  have parted : front ++ ':' :: back = start ++ ':' :: tail := written.symm.trans rewritten
  obtain ⟨rfl, behind⟩ := List.append_inj parted (fronted.length.trans started.length.symm)
  obtain rfl : back = tail := List.tail_eq_of_cons_eq behind
  exact ⟨fronted.value.symm.trans started.value, backed.value.symm.trans tailed.value⟩

/-- The clock shows its hour and its minute. This holds of every count, negative ones included. -/
theorem tells_timeOfDay (minutes : Int64) :
    Tells (timeOfDay minutes) (hour minutes) (minute minutes) := by
  have hourBound : hour minutes ≤ 23 := by
    unfold hour
    omega
  have minuteBound : minute minutes ≤ 59 := by
    unfold minute
    omega
  refine ⟨⟨_, _, String.toList_ofList, ?_, ?_⟩, hourBound, minuteBound⟩
  · apply inTwoDigits_twoDigits
    omega
  · apply inTwoDigits_twoDigits
    omega

/-- Hour and minute are the minutes since midnight, also before the first midnight. The remainder
is taken downwards: one minute before the first midnight is the last one of a day. -/
theorem minutes_since_midnight (minutes : Int64) :
    (60 * hour minutes + minute minutes : Int) = minutes.toInt % 1440 := by
  unfold hour minute
  omega

/-- What a clock shows tells its remainder by a day. Whoever reads the text finds this and nothing
else. -/
theorem Tells.minutes_eq {minutes : Int64} {hour minute : Nat}
    (tells : Tells (timeOfDay minutes) hour minute) :
    (60 * hour + minute : Int) = minutes.toInt % 1440 := by
  obtain ⟨rfl, rfl⟩ := tells.unique (tells_timeOfDay minutes)
  exact minutes_since_midnight minutes

/-- Clocks show the same exactly if whole days lie between them.

Proof: the text tells hour and minute in one way, and these tell the remainder and are told
by it. -/
theorem timeOfDay_eq_iff {minutes others : Int64} :
    timeOfDay minutes = timeOfDay others ↔ 1440 ∣ minutes.toInt - others.toInt := by
  constructor
  · intro same
    have tells := tells_timeOfDay minutes
    have first := minutes_since_midnight minutes
    rw [same] at tells
    have second := tells.minutes_eq
    omega
  · intro wholeDays
    have sameHour : hour minutes = hour others := by
      unfold hour
      omega
    have sameMinute : minute minutes = minute others := by
      unfold minute
      omega
    rw [timeOfDay, sameHour, sameMinute, timeOfDay]

/-! ## Time that passes -/

/-- The nearest word to an integer is the integer, cut off at the bounds.

Proof: by the two comparisons that it makes. Between the bounds the integer is a word as it is. -/
theorem toInt_clamped (number : Int) :
    (clamped number).toInt = max Int64.minValue.toInt (min number Int64.maxValue.toInt) := by
  have lowest : Int64.minValue.toInt = -0x8000000000000000 := rfl
  have highest : Int64.maxValue.toInt = 0x7FFFFFFFFFFFFFFF := rfl
  unfold clamped
  by_cases low : number < -0x8000000000000000
  · rw [if_pos low]
    omega
  · by_cases high : 0x8000000000000000 ≤ number
    · rw [if_neg low, if_pos high]
      omega
    · have kept : (Int64.ofInt number).toInt = number :=
        Int64.toInt_ofInt_of_le (by omega) (by omega)
      rw [if_neg low, if_neg high, kept]
      omega

/-- What is clamped to a range that it lies in is kept. Only beyond the bounds is anything
cut off. -/
theorem toInt_clamped_of_mem {number : Int} (above : Int64.minValue.toInt ≤ number)
    (below : number ≤ Int64.maxValue.toInt) : (clamped number).toInt = number := by
  rw [toInt_clamped]
  omega

/-- Time that passes does not take the clock back. At the upper bound it stops, and that is no step
back either. -/
theorem le_advanced (minutes : Int64) {passed : Int64} (forward : 0 ≤ passed) :
    minutes ≤ advanced minutes passed := by
  have upper : minutes.toInt ≤ Int64.maxValue.toInt := minutes.toInt_le
  have onward : 0 ≤ passed.toInt := Int64.le_iff_toInt_le.mp forward
  apply Int64.le_iff_toInt_le.mpr
  rw [advanced, toInt_clamped]
  omega

end Storyline.Clock

namespace Storyline

open Clock

/-- A choice that leaves by its link has passed its time since its effects, and its link is
followed from there. Between the effects and the link nothing else happens. -/
theorem Narrator.choose_of_leaving {narrator : Narrator} {state reached : State} {index : Nat}
    {outcome : Outcome} {next : Option NodeId} {choice : Choice}
    (begun : narrator.beginning state (.choose index) = .leaving outcome reached next (some choice)) :
    reached = (Effect.applyAll choice.effects state).2.later choice.timeCost ∧
      narrator.choose state index =
        (narrator.follow reached state.currentScene next (some choice)).after outcome := by
  constructor
  · have begins := narrator.begins_beginning state (.choose index)
    rw [begun] at begins
    cases begins with
    | chosen found visible applied unasked => rw [applied]
  · have performed := narrator.perform_eq state (.choose index)
    rw [begun] at performed
    exact performed

/-- Whatever the clock of a state counts, it shows a time of day, which is the count's remainder by
a day; so it shows what another clock shows exactly if whole days lie between them. Time that
passes is added and cut off at the bounds of the word, and nothing else changes. Forward it never
takes the clock back, and neither does the time that a choice takes. Where the sum is within the
bounds, the time shown is that of the sum.

Of the state nothing is assumed, and of the graph, its setup and the choice only what is said here:
that the choice is taken and leaves by its link, and that its time is positive.

Proof: the text shown tells hour and minute in one way only, and these are read off the
remainder. The sum is taken over the integers and then cut off, so time that passes forward is
never cut off below where the clock stood. A choice passes its time after its effects, by the
steps of a choice. -/
theorem State.clock_shows_remainder_by_day (state : State) :
    (∃ hour minute, Tells state.timeOfDay hour minute ∧
        (60 * hour + minute : Int) = state.minutes.toInt % 1440) ∧
      (∀ other : State, state.timeOfDay = other.timeOfDay ↔
        1440 ∣ state.minutes.toInt - other.minutes.toInt) ∧
      (∀ passed : Int64, let sum := state.minutes.toInt + passed.toInt
        ∃ minutes, state.advance passed = { state with minutes } ∧
          minutes.toInt = max Int64.minValue.toInt (min sum Int64.maxValue.toInt) ∧
          (0 ≤ passed → state.minutes ≤ minutes) ∧
          (Int64.minValue.toInt ≤ sum → sum ≤ Int64.maxValue.toInt →
            ∃ hour minute, Tells (state.advance passed).timeOfDay hour minute ∧
              (60 * hour + minute : Int) = sum % 1440)) ∧
      ∀ (narrator : Narrator) index outcome reached next choice cost,
        narrator.beginning state (.choose index) = .leaving outcome reached next (some choice) →
          choice.timeCost = some cost → 0 < cost →
            narrator.choose state index =
                (narrator.follow reached state.currentScene next (some choice)).after outcome ∧
              reached = (Effect.applyAll choice.effects state).2.advance cost ∧
              (Effect.applyAll choice.effects state).2.minutes ≤ reached.minutes := by
  refine ⟨?_, fun other => timeOfDay_eq_iff, fun passed => ?_, ?_⟩
  · exact ⟨_, _, tells_timeOfDay state.minutes, minutes_since_midnight state.minutes⟩
  · refine ⟨_, rfl, toInt_clamped _, le_advanced state.minutes, fun above below => ?_⟩
    have exact : (advanced state.minutes passed).toInt = state.minutes.toInt + passed.toInt :=
      toInt_clamped_of_mem above below
    rw [← exact]
    exact ⟨_, _, tells_timeOfDay _, minutes_since_midnight _⟩
  · intro narrator index outcome reached next choice cost begun costs forward
    obtain ⟨arrived, followed⟩ := Narrator.choose_of_leaving begun
    rw [costs] at arrived
    refine ⟨followed, arrived, ?_⟩
    rw [arrived]
    exact le_advanced _ (Int64.le_of_lt forward)

/-- A state at the first minute that the clock can count. It is far before the first midnight. -/
def atFirstMinute : State :=
  { day := 0, minutes := Int64.minValue, playerName := "Player", currentScene := "shore" }

/-- To wait for the tide takes as long as the clock can count. No choice can take longer. -/
def waiting : Choice := { next := some "win", timeCost := some Int64.maxValue }

/-- A shore where one can wait for the tide. -/
def shore : Graph :=
  { start := "shore", nodes := Table.empty.insert "shore" (.choice { choices := [waiting] }) }

/-- The clock shows a time of day at its first minute, and a day later the same one. Further back
it does not go. Waiting for the tide leads to the minute before midnight. All of these are cases of
the general law, at the bounds of the word. -/
theorem waiting_from_first_minute :
    let narrator : Narrator := .ofSetup shore {}
    let reached := atFirstMinute.advance Int64.maxValue
    (∃ hour minute, Tells atFirstMinute.timeOfDay hour minute ∧
        (60 * hour + minute : Int) = 352) ∧
      atFirstMinute.timeOfDay = (atFirstMinute.advance 1440).timeOfDay ∧
      (∃ minutes, atFirstMinute.advance (-5) = { atFirstMinute with minutes } ∧
        minutes.toInt = Int64.minValue.toInt) ∧
      (∃ hour minute, Tells reached.timeOfDay hour minute ∧
        (60 * hour + minute : Int) = 1439) ∧
      narrator.choose atFirstMinute 0 =
        (narrator.follow reached "shore" (some "win") (some waiting)).after {} ∧
      atFirstMinute.minutes ≤ reached.minutes := by
  intro narrator reached
  obtain ⟨shown, alike, passing, taking⟩ := atFirstMinute.clock_shows_remainder_by_day
  obtain ⟨stopped, backward, cut, -, -⟩ := passing (-5)
  obtain ⟨-, -, -, -, within⟩ := passing Int64.maxValue
  have begun : narrator.beginning atFirstMinute (.choose 0) =
      .leaving {} reached (some "win") (some waiting) := rfl
  obtain ⟨followed, -, forward⟩ :=
    taking narrator 0 {} reached (some "win") waiting Int64.maxValue begun rfl (by decide)
  refine ⟨shown, (alike _).mpr (by decide), ⟨stopped, backward, cut⟩, ?_, followed, forward⟩
  exact within (by decide) (by decide)

end Storyline
