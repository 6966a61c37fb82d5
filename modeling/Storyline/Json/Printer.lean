import Storyline.Decimal.Written
import Storyline.Json.Value

/-!
# Writing JSON

There are two layouts. The compact one puts nothing between the tokens. The
indented one gives every item and member a line of its own, indented by two
spaces for each level, and a space behind each colon; empty arrays and objects
stay on one line. Texts are written as they are, apart from the double quote, the
backslash and the control characters below the space.
-/

namespace Storyline.Json

/-- What stands between tokens. -/
structure Layout where
  afterColon : List Char
  line : Nat → List Char

/-- Nothing between tokens. -/
def Layout.compact : Layout := ⟨[], fun _ => []⟩

/-- One line for every item and member. -/
def Layout.indented : Layout := ⟨[' '], fun depth => '\n' :: List.replicate (2 * depth) ' '⟩

/-- A digit of the last two places of a control character's code. -/
def hexDigit (digit : Nat) : Char := Nat.digitChar (digit % 16)

/-- A character inside a written text. -/
def escaped (c : Char) : List Char :=
  match c with
  | '"' => ['\\', '"']
  | '\\' => ['\\', '\\']
  | '\x08' => ['\\', 'b']
  | '\t' => ['\\', 't']
  | '\n' => ['\\', 'n']
  | '\x0c' => ['\\', 'f']
  | '\r' => ['\\', 'r']
  | c =>
    if c.toNat < 0x20 then ['\\', 'u', '0', '0', hexDigit (c.toNat / 16), hexDigit c.toNat] else [c]

/-- A text between its quotes. -/
def writeText (text : String) : List Char := '"' :: text.toList.flatMap escaped ++ ['"']

/-- An integer in decimal digits. -/
def writeInteger (value : Int) : List Char :=
  if value < 0 then '-' :: Nat.toDigits 10 value.natAbs else Nat.toDigits 10 value.natAbs

/-- A number. No JSON number is infinite or undefined; such a one becomes null. -/
def Number.write : Number → List Char
  | .integer value => writeInteger value
  | .real value =>
    if value.isFinite then Decimal.documentForm.write value else ['n', 'u', 'l', 'l']

mutual

/-- A value in a given layout, at a given level of nesting. -/
def Value.write (layout : Layout) (depth : Nat) : Value → List Char
  | .null => ['n', 'u', 'l', 'l']
  | .bool true => ['t', 'r', 'u', 'e']
  | .bool false => ['f', 'a', 'l', 's', 'e']
  | .number value => value.write
  | .text value => writeText value
  | .array [] => ['[', ']']
  | .array (first :: rest) =>
    '[' :: layout.line (depth + 1) ++ first.write layout (depth + 1) ++
      writeItems layout depth rest ++ layout.line depth ++ [']']
  | .object [] => ['\x7b', '\x7d']
  | .object ((name, value) :: rest) =>
    '\x7b' :: layout.line (depth + 1) ++ writeText name ++ ':' :: layout.afterColon ++
      value.write layout (depth + 1) ++ writeMembers layout depth rest ++
      layout.line depth ++ ['\x7d']

/-- The items behind the first one. -/
def writeItems (layout : Layout) (depth : Nat) : List Value → List Char
  | [] => []
  | item :: rest =>
    ',' :: layout.line (depth + 1) ++ item.write layout (depth + 1) ++
      writeItems layout depth rest

/-- The members behind the first one. -/
def writeMembers (layout : Layout) (depth : Nat) : List (String × Value) → List Char
  | [] => []
  | (name, value) :: rest =>
    ',' :: layout.line (depth + 1) ++ writeText name ++ ':' :: layout.afterColon ++
      value.write layout (depth + 1) ++ writeMembers layout depth rest

end

/-- A value on one line. -/
def Value.compact (value : Value) : String := String.ofList (value.write .compact 0)

/-- A value with a line for every item and member. -/
def Value.indented (value : Value) : String := String.ofList (value.write .indented 0)

end Storyline.Json
