import Storyline.Decimal.Reading

/-!
# The clock

The clock counts minutes from midnight of day zero in a signed 64-bit word. It may
run past a day or stand before its beginning; the time of day is the remainder,
never negative. Advancing stops at the bounds of the word.
-/

namespace Storyline.Clock

/-- A number below one hundred as two digits. -/
def twoDigits (number : Nat) : List Char :=
  [Nat.digitChar (number / 10 % 10), Nat.digitChar (number % 10)]

/-- The hour of the day. -/
def hour (minutes : Int64) : Nat := (minutes.toInt / 60 % 24).toNat

/-- The minute of the hour. -/
def minute (minutes : Int64) : Nat := (minutes.toInt % 60).toNat

/-- The time of day as `HH:MM`. -/
def timeOfDay (minutes : Int64) : String :=
  String.ofList (twoDigits (hour minutes) ++ ':' :: twoDigits (minute minutes))

/-- The nearest 64-bit word to an integer. -/
def clamped (number : Int) : Int64 :=
  if number < -0x8000000000000000 then Int64.minValue
  else if 0x8000000000000000 ≤ number then Int64.maxValue
  else Int64.ofInt number

/-- The clock some minutes later, or earlier for a negative count. -/
def advanced (minutes passed : Int64) : Int64 := clamped (minutes.toInt + passed.toInt)

end Storyline.Clock
