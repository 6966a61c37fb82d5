/-!
# Numbers written by people

A text counts as a number if it is an optional sign followed by digits, or a
decimal numeral with a point, a power of ten, or both. The first kind is read
exactly within 64 bits. Everything else is rounded to the nearest floating-point
number, must be finite, and loses its fraction; what is too large for 64 bits
becomes the nearest bound.
-/

namespace Storyline.Decimal

/-- The number that decimal digits spell. -/
def value (digits : List Char) : Nat :=
  digits.foldl (fun total digit => 10 * total + (digit.toNat - '0'.toNat)) 0

/-- An integer as a 64-bit word, if it fits. -/
def word? (number : Int) : Option Int64 :=
  if -0x8000000000000000 ≤ number ∧ number < 0x8000000000000000 then some (Int64.ofInt number)
  else none

/-- Splits an optional sign from what it signs; the first part tells a minus. -/
def signed : List Char → Bool × List Char
  | '+' :: rest => (false, rest)
  | '-' :: rest => (true, rest)
  | rest => (false, rest)

/-- A sign takes up characters, its absence takes up none. -/
theorem length_signed (characters : List Char) :
    (signed characters).2.length ≤ characters.length := by
  unfold signed
  split <;> simp

/-- Whether a text consists of at least one decimal digit and nothing else. -/
def isDigits (characters : List Char) : Bool :=
  !characters.isEmpty && characters.all Char.isDigit

/-- A signed run of digits, read exactly. -/
def integer? (characters : List Char) : Option Int :=
  let (negative, digits) := signed characters
  if isDigits digits then
    some (if negative then -(value digits : Int) else value digits)
  else none

/-- The power of ten behind `e` or `E`; none of either means power zero. -/
def power? : List Char → Option Int
  | [] => some 0
  | mark :: rest => if mark = 'e' || mark = 'E' then integer? rest else none

/-- An unsigned numeral as a count of units of a power of ten. Digits may be
missing on one side of the point, but not on both. -/
def numeral? (characters : List Char) : Option (Nat × Int) :=
  let whole : List Char := characters.takeWhile Char.isDigit
  let behind := characters.dropWhile Char.isDigit
  let (fraction, tail) := match behind with
    | '.' :: rest => (rest.takeWhile Char.isDigit, rest.dropWhile Char.isDigit)
    | rest => ([], rest)
  if whole.isEmpty && fraction.isEmpty then none
  else (power? tail).map fun power => (value (whole ++ fraction), power - (fraction.length : Int))

/-- The floating-point number nearest to `units · 10 ^ power`, if it is finite.
Every number with more than 310 places before the point is beyond the largest
one, and every number below `10 ^ -330` is nearest to zero. -/
def nearest? (units : Nat) (power : Int) : Option Float :=
  let places := ((Nat.toDigits 10 units).length : Int) + power
  if units = 0 || places < -330 then some 0
  else if 310 < places then none
  else
    let number := Float.ofScientific units (decide (power < 0)) power.natAbs
    if number.isFinite then some number else none

/-- A finite number without its fraction, at most as far as the 64-bit bounds. -/
def truncated (number : Float) : Int64 := number.toInt64

/-- The 64-bit integer that a text without surrounding blanks denotes. -/
def toInteger? (characters : List Char) : Option Int64 :=
  match (integer? characters).bind word? with
  | some number => some number
  | none =>
    let (negative, unsigned) := signed characters
    (numeral? unsigned).bind fun (units, power) =>
      (nearest? units power).map fun number => truncated (if negative then -number else number)

end Storyline.Decimal
