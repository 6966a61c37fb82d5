/-!
# Texts from bytes

Bytes are taken as UTF-8. Bytes that are not UTF-8 are refused at the first
sequence that cannot be a character: the longest start of a character that stands
there, or the one byte that starts no character. A character that the end of the
bytes cuts off is a refused sequence without a length.
-/

namespace Storyline.Text.Utf8

/-- A refused sequence: its place, and the number of its bytes unless the end of
the bytes cuts it off. -/
structure Refused where
  place : Nat
  length : Option Nat
  deriving DecidableEq

/-- Whether a byte continues a character of UTF-8. -/
def continues (byte : UInt8) : Bool := 0x80 ≤ byte && byte ≤ 0xBF

/-- The second bytes that the first byte of a character allows; none for a byte
that starts no character of several bytes. The bounds exclude overlong forms,
surrogates, and what lies beyond the last code point. -/
def secondBytes (first : UInt8) : Option (UInt8 × UInt8) :=
  if first < 0xC2 then none
  else if first = 0xE0 then some (0xA0, 0xBF)
  else if first = 0xED then some (0x80, 0x9F)
  else if first = 0xF0 then some (0x90, 0xBF)
  else if first = 0xF4 then some (0x80, 0x8F)
  else if first < 0xF4 then some (0x80, 0xBF)
  else none

/-- How many bytes behind the second one a character has, by its first byte. -/
def tailLength (first : UInt8) : Nat :=
  if first < 0xE0 then 0 else if first < 0xF0 then 1 else 2

/-- Whether some more bytes continue a character, of which `seen` bytes are seen; if
not, the length of the sequence refused. -/
def refusedTail (seen : Nat) : Nat → List UInt8 → Except (Option Nat) Unit
  | 0, _ => .ok ()
  | _ + 1, [] => .error none
  | more + 1, byte :: rest =>
    if continues byte then refusedTail (seen + 1) more rest else .error (some seen)

/-- The number of bytes behind its first one that a character has, or the length of
the sequence refused. -/
def furtherBytes (first : UInt8) (behind : List UInt8) : Except (Option Nat) Nat :=
  if first < 0x80 then .ok 0
  else match secondBytes first, behind with
    | none, _ => .error (some 1)
    | some _, [] => .error none
    | some (low, high), second :: rest =>
      if low ≤ second && second ≤ high then
        (refusedTail 2 (tailLength first) rest).map fun _ => tailLength first + 1
      else .error (some 1)

/-- The first sequence that is not UTF-8, of bytes among which there is one. `index`
is the position of the first of the bytes. -/
def firstRefused (index : Nat) : List UInt8 → Refused
  | [] => ⟨index, none⟩
  | first :: behind =>
    match furtherBytes first behind with
    | .error length => ⟨index, length⟩
    | .ok further => firstRefused (index + further + 1) (behind.drop further)
termination_by bytes => bytes.length
decreasing_by exact Nat.lt_succ_of_le (by simp)

/-- The text that bytes spell, or the first sequence that is refused. -/
def ofBytes (bytes : List UInt8) : Except Refused String :=
  match String.fromUTF8? ⟨bytes.toArray⟩ with
  | some text => .ok text
  | none => .error (firstRefused 0 bytes)

end Storyline.Text.Utf8
