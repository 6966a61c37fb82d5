import Storyline.Decimal.Shortest

/-!
# Written forms of a floating-point number

A finite number is written with the fewest digits that read back. A form says
which powers of ten are written out in positions, whether a whole number keeps a
point and a zero behind it, and which decimal is taken at a tie. The power behind
`e` always has its sign.
-/

namespace Storyline.Decimal

/-- The decisions that one way of writing numbers makes. -/
structure Form where
  tie : Tie
  isPositional : Int → Bool
  keepsPoint : Bool

/-- Whether the sign bit is set. -/
def isNegative (number : Float) : Bool := number.toBits ≥ 0x8000000000000000

/-- The magnitude of a finite number in binary, or nothing for zero. -/
def magnitude (number : Float) : Option Binary :=
  let bits : Nat := number.toBits.toNat % 0x8000000000000000
  let field : Nat := bits / 0x10000000000000
  let fraction : Nat := bits % 0x10000000000000
  if bits = 0 then none
  else if field = 0 then some ⟨fraction, -1074, false⟩
  else some ⟨0x10000000000000 + fraction, (field : Int) - 1075, fraction = 0 && 1 < field⟩

/-- Digits written in positions around the point. -/
def positional (number : Digits) (keepsPoint : Bool) : List Char :=
  let count := number.digits.length
  if number.leading < 0 then
    ['0', '.'] ++ List.replicate (-number.leading - 1).toNat '0' ++ number.digits
  else
    let whole := number.leading.toNat + 1
    if count ≤ whole then
      number.digits ++ List.replicate (whole - count) '0' ++ (if keepsPoint then ['.', '0'] else [])
    else
      number.digits.take whole ++ ['.'] ++ number.digits.drop whole

/-- Digits written with one of them in front of the point and the power behind. -/
def scientific (number : Digits) : List Char :=
  let power := Nat.toDigits 10 number.leading.natAbs
  let sign := if number.leading < 0 then '-' else '+'
  match number.digits with
  | [only] => only :: 'e' :: sign :: power
  | first :: rest => first :: '.' :: rest ++ 'e' :: sign :: power
  | [] => []

/-- A finite number in a given form. -/
def Form.write (form : Form) (number : Float) : List Char :=
  let sign := if isNegative number then ['-'] else []
  let digits := match magnitude number with
    | none => ⟨['0'], 0⟩
    | some binary => binary.shortest form.tie
  sign ++ if form.isPositional digits.leading then positional digits form.keepsPoint
    else scientific digits

/-- Numbers in documents: positions between `10 ^ -5` and `10 ^ 16`, always with a
point, and at a tie the even decimal. -/
def documentForm : Form := ⟨.toEven, fun power => -5 ≤ power && power < 16, true⟩

/-- Numbers in running text: positions only, no point behind a whole number, and
at a tie the larger decimal. -/
def textForm : Form := ⟨.upward, fun _ => true, false⟩

end Storyline.Decimal
