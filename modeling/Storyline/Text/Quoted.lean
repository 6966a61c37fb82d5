import Storyline.Text.Combining
import Storyline.Text.Ignorable
import Storyline.Text.Unprintable

/-!
# Quoted text in messages

A message that shows a text puts it between double quotes and makes every
character of it visible: the four control characters with a letter of their own,
the backslash and the double quote are written with a backslash, and a character
without a shape of its own is written by its code point, as in `\u{200b}`.
-/

namespace Storyline.Text

/-- The code point of a character in lower-case hexadecimal digits. -/
def codePoint (c : Char) : List Char := Nat.toDigits 16 c.toNat

/-- Whether a character stands in a cell of its own although it extends the one
before it. The two half-width sound marks of Katakana do. -/
def isSoundMark (c : Char) : Bool := c.toNat == 0xFF9E || c.toNat == 0xFF9F

/-- Whether a character shows itself, or needs its code point to be told. -/
def isVisible (c : Char) : Bool :=
  if c.toNat < 0x7F then 0x20 ≤ c.toNat
  else isSoundMark c || !(isCombining c || isIgnorable c || isUnprintable c)

/-- How a quoted text shows one character. -/
def shown (c : Char) : List Char :=
  match c with
  | '\x00' => ['\\', '0']
  | '\t' => ['\\', 't']
  | '\r' => ['\\', 'r']
  | '\n' => ['\\', 'n']
  | '\\' => ['\\', '\\']
  | '"' => ['\\', '"']
  | c => if isVisible c then [c] else ['\\', 'u', '\x7b'] ++ codePoint c ++ ['\x7d']

/-- A text as a message shows it, between double quotes. -/
def quoted (text : String) : String :=
  String.ofList ('"' :: text.toList.flatMap shown ++ ['"'])

end Storyline.Text
