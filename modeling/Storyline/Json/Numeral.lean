import Storyline.Decimal.Reading
import Storyline.Json.Refusal

/-!
# JSON numerals

A numeral is a minus sign if it has one, digits without a leading zero, a point
with digits behind it if it has one, and a power of ten if it has one. An integer
within 64 bits is kept exactly. Any other numeral becomes a floating-point number
by a short rule: as many leading digits as fit 64 unsigned bits form a count, the
count is converted, and the result is multiplied or divided by a power of ten.
-/

namespace Storyline.Json

/-- A place where a text stops being JSON. A value there is refused for `reading`
when it is wanted, for `skipping` when it is passed over, and for `naming` when
only a text or an object may stand there. -/
structure Break where
  reading : Fault
  skipping : Fault
  naming : Fault

/-- A break inside a number or a word, which can never become a name. -/
def Break.inScalar (reading skipping : Fault) : Break := ⟨reading, skipping, .malformed⟩

/-- A break that every reader meets alike. -/
def Break.plain (fault : Fault) : Break := ⟨fault, fault, fault⟩

/-- The parts of a numeral; `power` starts with whether its sign is a minus. -/
structure Numeral where
  negative : Bool
  whole : List Char
  fraction : Option (List Char)
  power : Option (Bool × List Char)

namespace Numeral

/-- Digits that have to be there, and the rest. A text that ends in their place
ends too early for a reader, while one who passes over it finds no number. -/
def takeDigits (characters : List Char) : Except Break (List Char × List Char) :=
  match characters.takeWhile Char.isDigit with
  | [] => .error (.inScalar (if characters.isEmpty then .truncated else .malformed) .malformed)
  | digits => .ok (digits, characters.dropWhile Char.isDigit)

/-- The digits in front of the point. A zero stands alone. -/
def takeWhole : List Char → Except Break (List Char × List Char)
  | '0' :: rest =>
    match rest with
    | next :: _ =>
      if next.isDigit then .error (.inScalar .malformed .malformed) else .ok (['0'], rest)
    | [] => .ok (['0'], [])
  | characters => takeDigits characters

/-- The point and the digits behind it, if there is a point. -/
def takeFraction : List Char → Except Break (Option (List Char) × List Char)
  | '.' :: rest => (takeDigits rest).map fun (digits, after) => (some digits, after)
  | characters => .ok (none, characters)

/-- The power of ten, if there is one. -/
def takePower : List Char → Except Break (Option (Bool × List Char) × List Char)
  | mark :: rest =>
    if mark = 'e' || mark = 'E' then
      let (negative, unsigned) := Decimal.signed rest
      (takeDigits unsigned).map fun (digits, after) => (some (negative, digits), after)
    else .ok (none, mark :: rest)
  | [] => .ok (none, [])

/-- Splits an optional minus sign from what it signs. -/
def takeMinus : List Char → Bool × List Char
  | '-' :: rest => (true, rest)
  | rest => (false, rest)

/-- The numeral at the start of a text, and the rest. -/
def take (characters : List Char) : Except Break (Numeral × List Char) := do
  let (negative, unsigned) := takeMinus characters
  let (whole, afterWhole) ← takeWhole unsigned
  let (fraction, afterFraction) ← takeFraction afterWhole
  let (power, rest) ← takePower afterFraction
  return (⟨negative, whole, fraction, power⟩, rest)

/-- Digits that were taken shorten the text. Taking digits never succeeds with none, so the rest is
shorter by one character at least. -/
theorem length_of_takeDigits {characters digits rest : List Char}
    (taken : takeDigits characters = .ok (digits, rest)) : rest.length < characters.length := by
  unfold takeDigits at taken
  split at taken
  · exact absurd taken (by simp)
  · rename_i digits' notEmpty
    cases characters with
    | nil => exact absurd rfl notEmpty
    | cons c tail =>
      have behind : List.dropWhile Char.isDigit (c :: tail) = rest := by
        simpa using (Prod.mk.inj (Except.ok.inj taken)).2
      have digit : c.isDigit = true := by
        by_cases digit : c.isDigit = true
        · exact digit
        · exact absurd (List.takeWhile_cons_of_neg digit) notEmpty
      rw [← behind, List.dropWhile_cons_of_pos digit]
      exact Nat.lt_succ_of_le (List.dropWhile_sublist _).length_le

/-- Digits in front of the point that were taken shorten the text: a zero that stands alone is one
character, and other digits are at least one. -/
theorem length_of_takeWhole {characters digits rest : List Char}
    (taken : takeWhole characters = .ok (digits, rest)) : rest.length < characters.length := by
  unfold takeWhole at taken
  split at taken
  · split at taken
    · split at taken
      · exact absurd taken (by simp)
      · have same : _ = rest := (Prod.mk.inj (Except.ok.inj taken)).2
        subst same
        simp
    · have same : _ = rest := (Prod.mk.inj (Except.ok.inj taken)).2
      subst same
      simp
  · exact length_of_takeDigits taken

/-- What follows the point and its digits is no longer than the text from the point on. Without a
point it is just as long, since a numeral need have none. -/
theorem length_of_takeFraction {characters : List Char} {fraction : Option (List Char)}
    {rest : List Char} (taken : takeFraction characters = .ok (fraction, rest)) :
    rest.length ≤ characters.length := by
  unfold takeFraction at taken
  split at taken
  · rename_i behind
    cases digits : takeDigits behind with
    | error place => simp [digits, Except.map] at taken
    | ok found =>
      obtain ⟨written, after⟩ := found
      have shorter := length_of_takeDigits digits
      simp only [digits, Except.map, Except.ok.injEq, Prod.mk.injEq] at taken
      obtain ⟨-, rfl⟩ := taken
      simp only [List.length_cons]
      omega
  · have same : _ = rest := (Prod.mk.inj (Except.ok.inj taken)).2
    exact Nat.le_of_eq (congrArg List.length same.symm)

/-- What follows a power of ten is no longer than the text from the power on. Without a power it is
just as long, as with the point. -/
theorem length_of_takePower {characters : List Char} {power : Option (Bool × List Char)}
    {rest : List Char} (taken : takePower characters = .ok (power, rest)) :
    rest.length ≤ characters.length := by
  unfold takePower at taken
  split at taken
  · rename_i mark behind
    split at taken
    · cases digits : takeDigits (Decimal.signed behind).2 with
      | error place => simp [digits, Except.map] at taken
      | ok found =>
        obtain ⟨written, after⟩ := found
        have shorter := length_of_takeDigits digits
        have unsigned := Decimal.length_signed behind
        simp only [digits, Except.map, Except.ok.injEq, Prod.mk.injEq] at taken
        obtain ⟨-, rfl⟩ := taken
        simp only [List.length_cons]
        omega
    · have same : _ = rest := (Prod.mk.inj (Except.ok.inj taken)).2
      exact Nat.le_of_eq (congrArg List.length same.symm)
  · have same : _ = rest := (Prod.mk.inj (Except.ok.inj taken)).2
    exact Nat.le_of_eq (congrArg List.length same.symm)

/-- What follows the minus sign is no longer than the text from it on, whether there is a sign or
not. -/
theorem length_takeMinus (characters : List Char) :
    (takeMinus characters).2.length ≤ characters.length := by
  unfold takeMinus
  split <;> simp

/-- A numeral takes up at least one character. -/
theorem length_of_take {characters rest : List Char} {numeral : Numeral}
    (taken : take characters = .ok (numeral, rest)) : rest.length < characters.length := by
  have unsigned := length_takeMinus characters
  simp only [take, bind, Except.bind, pure, Except.pure] at taken
  cases whole : takeWhole (takeMinus characters).2 with
  | error place => simp [whole] at taken
  | ok wholeFound =>
    cases fraction : takeFraction wholeFound.2 with
    | error place => simp [whole, fraction] at taken
    | ok fractionFound =>
      cases power : takePower fractionFound.2 with
      | error place => simp [whole, fraction, power] at taken
      | ok powerFound =>
        simp only [whole, fraction, power, Except.ok.injEq, Prod.mk.injEq] at taken
        obtain ⟨-, rfl⟩ := taken
        have first := length_of_takeWhole whole
        have second := length_of_takeFraction fraction
        have third := length_of_takePower power
        omega

/-- Appends digits to a count as long as it fits 64 unsigned bits; the second part
holds the digits left over. -/
def gather (count : Nat) : List Char → Nat × List Char
  | [] => (count, [])
  | digit :: rest =>
    let next := 10 * count + (digit.toNat - '0'.toNat)
    if next < 0x10000000000000000 then gather next rest else (count, digit :: rest)

/-- A number times a power of ten, in steps that the powers up to `10 ^ 308` allow.
What leaves the range of the numbers is refused; what vanishes is zero. -/
def scale (number : Float) (power : Int) : Option Float :=
  if 0 ≤ power then
    if power ≤ 308 then
      let scaled := number * Float.ofScientific 1 false power.natAbs
      if scaled.isInf then none else some scaled
    else if number == 0 then some number else none
  else if -308 ≤ power then some (number / Float.ofScientific 1 false power.natAbs)
  else if number == 0 then some number
  else scale (number / Float.ofScientific 1 false 308) (power + 308)
termination_by (-power).toNat

/-- The power that is written behind `e`, with its sign. -/
def writtenPower (negative : Bool) (digits : List Char) : Int :=
  if negative then -(Decimal.value digits : Int) else Decimal.value digits

/-- The floating-point number of a numeral. Digits of the whole part that do not
fit raise the power, digits of the fraction that do not fit are lost. A power
beyond 31 bits is too large for any count but zero. -/
def real? (numeral : Numeral) : Option Float :=
  let (wholeCount, beyond) := gather 0 numeral.whole
  let fraction := numeral.fraction.getD []
  let (count, lost) := gather wholeCount fraction
  let places : Int := (beyond.length : Int) - ((fraction.length : Int) - (lost.length : Int))
  let magnitude : Option Float := match numeral.power with
    | none => scale count.toUInt64.toFloat places
    | some (negative, digits) =>
      let power := writtenPower negative digits
      if power.natAbs < 0x80000000 then scale count.toUInt64.toFloat (places + power)
      else if count = 0 || negative then some 0 else none
  magnitude.map fun number => if numeral.negative then -number else number

/-- The number of a numeral. Digits alone are an integer if 64 bits hold it,
except that minus zero is floating-point. -/
def number (numeral : Numeral) : Except Fault Number :=
  let exact : Option Int :=
    if numeral.fraction.isNone && numeral.power.isNone then
      match gather 0 numeral.whole with
      | (count, []) =>
        if !numeral.negative then some count
        else if 0 < count && count ≤ 0x8000000000000000 then some (-(count : Int))
        else none
      | (_, _ :: _) => none
    else none
  match exact with
  | some value => .ok (.integer value)
  | none => match numeral.real? with
    | some value => .ok (.real value)
    | none => .error .malformed

end Numeral

end Storyline.Json
