/-!
# The fewest digits that read back

A binary number `m · 2 ^ q` owns an interval of reals: all that round to it. Among
the decimals in that interval those with the fewest digits are of interest, and of
those the one nearest to the number. The search looks at grids of powers of ten
from coarse to fine. On each it tries the two neighbours of the number, in exact
arithmetic on natural numbers; the first grid with a hit has the fewest digits.
-/

namespace Storyline.Decimal

/-- Which of two decimals at the same distance is taken. -/
inductive Tie where
  | toEven
  | upward
  deriving DecidableEq

/-- A positive number `mantissa · 2 ^ exponent`. At the foot of a power of two the
next smaller number is half as far away as the next larger one. -/
structure Binary where
  mantissa : Nat
  exponent : Int
  atFoot : Bool

/-- A positive decimal by its digits, the last of them not zero, and the power of
ten that the first digit counts. -/
structure Digits where
  digits : List Char
  leading : Int

/-- A natural number as a power of a base, or one where the power is negative. -/
def wholePower (base : Nat) (power : Int) : Nat := Nat.pow base power.toNat

namespace Binary

/-- The size of a quarter of the last binary place over the size of a decimal
place, as numerator and denominator. -/
def quarterOver (number : Binary) (place : Int) : Nat × Nat :=
  let quarter := number.exponent - 2
  (wholePower 2 quarter * wholePower 10 (-place), wholePower 2 (-quarter) * wholePower 10 place)

/-- Whether `multiple · 10 ^ place` rounds to the number. The interval's ends do
so exactly for an even mantissa. -/
def owns (number : Binary) (place : Int) (multiple : Nat) : Bool :=
  let (quarters, unit) := number.quarterOver place
  let low := (4 * number.mantissa - if number.atFoot then 1 else 2) * quarters
  let high := (4 * number.mantissa + 2) * quarters
  let point := multiple * unit
  if number.mantissa % 2 = 0 then low ≤ point && point ≤ high else low < point && point < high

/-- The decimal on the grid of one place that rounds to the number and is nearest
to it, if there is one. -/
def onGrid (number : Binary) (tie : Tie) (place : Int) : Option Nat :=
  let (quarters, unit) := number.quarterOver place
  let below := 4 * number.mantissa * quarters / unit
  let above := below + 1
  match number.owns place below, number.owns place above with
  | false, false => none
  | true, false => some below
  | false, true => some above
  | true, true =>
    let twiceNumber := 2 * (4 * number.mantissa * quarters)
    let twiceMiddle := (below + above) * unit
    if twiceNumber < twiceMiddle then some below
    else if twiceMiddle < twiceNumber then some above
    else match tie with
      | .toEven => some (if below % 2 = 0 then below else above)
      | .upward => some above

/-- The power of ten of the first digit. Every positive number of this size holds
at least one unit of `10 ^ -324`, so the count of those units has a first digit. -/
def leadingPower (number : Binary) : Int :=
  let units := number.mantissa * wholePower 10 324 * wholePower 2 number.exponent /
    wholePower 2 (-number.exponent)
  ((Nat.toDigits 10 units).length : Int) - 325

/-- The decimal of the fewest digits that rounds to the number, nearest first.
Seventeen digits tell any two numbers of 53 binary places apart, so the finest of
the seventeen grids has a hit. -/
def shortest (number : Binary) (tie : Tie) : Digits :=
  let top := number.leadingPower
  let grids := (List.range 17).map fun (finer : Nat) => top - (finer : Int)
  let hit := grids.findSome? fun place =>
    (number.onGrid tie place).map fun multiple => (place, Nat.toDigits 10 multiple)
  match hit with
  | none => ⟨['0'], 0⟩
  | some (place, all) =>
    ⟨(all.reverse.dropWhile (· == '0')).reverse, place + (all.length : Int) - 1⟩

end Binary

end Storyline.Decimal
