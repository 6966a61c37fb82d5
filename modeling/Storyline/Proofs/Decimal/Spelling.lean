import Mathlib.Data.List.Induction
import Storyline.Json.Printer
import Storyline.Proofs.Json.Reader
import Storyline.Proofs.Text.Trimming

/-!
# Spellings of integers

An integer is spelled by its decimal digits, behind any number of leading zeros, with a minus in
front if it is negative and possibly a plus if it is not. In a text, blanks may stand around the
spelling. These texts are the ones that are read digit by digit, and what is read is the integer
that they spell.

Only what is not read in this way is rounded to a floating-point number. So every spelling of an
integer that fits a signed word is read as that integer, also where floating-point numbers are
further than one apart.
-/

namespace Storyline.Decimal

/-- The digits of a natural number behind some leading zeros. The number zero has the digit zero of
its own behind them. -/
def padded (zeros magnitude : Nat) : List Char :=
  List.replicate zeros '0' ++ Nat.toDigits 10 magnitude

/-- Some characters spell an integer. Zero may have either sign. -/
inductive Spells : List Char → Int → Prop where
  | unsigned (zeros magnitude : Nat) : Spells (padded zeros magnitude) magnitude
  | plus (zeros magnitude : Nat) : Spells ('+' :: padded zeros magnitude) magnitude
  | minus (zeros magnitude : Nat) : Spells ('-' :: padded zeros magnitude) (-magnitude)

/-- A text spells an integer, with blanks around the spelling. What blanks are is what trimming
takes off. -/
def Tells (text : String) (number : Int) : Prop :=
  ∃ front middle back, text.toList = front ++ middle ++ back ∧
    Text.Blanks front ∧ Text.Blanks back ∧ Spells middle number

variable {characters digits : List Char} {number : Int}

/-! ## Digits -/

/-- Digits spell what the library reads them as. So the library's lemmas on reading digits are at
hand. -/
theorem value_eq_ofDigitChars (digits : List Char) :
    value digits = Nat.ofDigitChars 10 digits 0 := rfl

/-- Leading zeros do not count. What is left is the number's own digits, which the library reads
back. -/
theorem value_padded (zeros magnitude : Nat) : value (padded zeros magnitude) = magnitude := by
  rw [value_eq_ofDigitChars, padded, Nat.ofDigitChars_append, Nat.ofDigitChars_replicate_zero,
    Nat.mul_zero, Nat.ofDigitChars_ten_toDigits]

/-- Digits behind leading zeros are digits. There is always at least one of them, also for zero
without leading zeros. -/
theorem isDigits_padded (zeros magnitude : Nat) : isDigits (padded zeros magnitude) = true := by
  have all : ∀ c ∈ padded zeros magnitude, c.isDigit = true := by
    intro c member
    rcases List.mem_append.mp member with zero | digit
    · rw [List.eq_of_mem_replicate zero]
      rfl
    · exact Nat.isDigit_of_mem_toDigits (by decide) (by decide) digit
  have written : padded zeros magnitude ≠ [] := by simp [padded]
  simp only [isDigits, Bool.and_eq_true, Bool.not_eq_true', List.isEmpty_eq_false_iff,
    List.all_eq_true]
  exact ⟨written, all⟩

/-- A digit stands for a number below ten, and is the digit of that number. Only the ten digits
from zero to nine count, not those of other scripts. -/
theorem digitChar_of_isDigit {c : Char} (digit : c.isDigit = true) :
    c.toNat - '0'.toNat < 10 ∧ Nat.digitChar (c.toNat - '0'.toNat) = c := by
  have zero : '0'.toNat = 48 := rfl
  obtain ⟨lower, upper⟩ : 48 ≤ c.toNat ∧ c.toNat ≤ 57 := Char.isDigit_iff_toNat.mp digit
  have small : c.toNat - '0'.toNat < 10 := by omega
  refine ⟨small, Char.toNat_inj.mp ?_⟩
  rw [Nat.toNat_digitChar_of_lt_ten small]
  omega

/-- One more digit behind a number with leading zeros makes a number with leading zeros. The
exception is zero, whose digit becomes one more leading zero. -/
theorem padded_concat (zeros magnitude : Nat) {units : Nat} (small : units < 10) :
    ∃ others,
      padded zeros magnitude ++ [units.digitChar] = padded others (10 * magnitude + units) := by
  cases magnitude with
  | zero =>
    -- Zero itself becomes one more leading zero.
    refine ⟨zeros + 1, ?_⟩
    rw [Nat.mul_zero, Nat.zero_add, padded, padded, Nat.toDigits_zero,
      Nat.toDigits_of_lt_base small, List.replicate_succ']
  | succ lesser =>
    refine ⟨zeros, ?_⟩
    rw [padded, padded, List.append_assoc, ← Nat.toDigits_of_lt_base small,
      Nat.toDigits_append_toDigits (by decide) (Nat.succ_pos lesser) small]

/-- Digits are those of the number that they spell, behind leading zeros.

Proof: by induction on the digits from behind: the last one counts ones, and those in front of it
spell the tens. A lone digit is a number without leading zeros. -/
theorem eq_padded_of_isDigits (all : isDigits digits = true) :
    ∃ zeros, digits = padded zeros (value digits) := by
  -- From behind, since it is the last digit that counts ones.
  induction digits using List.reverseRecOn with
  | nil => cases all
  | append_singleton front last inductionHypothesis =>
    simp only [isDigits, List.all_append, Bool.and_eq_true, List.all_cons, List.all_nil,
      Bool.and_true] at all
    obtain ⟨-, frontDigits, lastDigit⟩ := all
    obtain ⟨small, digit⟩ := digitChar_of_isDigit lastDigit
    have whole : value (front ++ [last]) = 10 * value front + (last.toNat - '0'.toNat) := by
      simp [value]
    rw [whole]
    by_cases empty : front = []
    · subst empty
      refine ⟨0, ?_⟩
      rw [show value [] = 0 from rfl, Nat.mul_zero, Nat.zero_add, padded,
        Nat.toDigits_of_lt_base small, digit]
      rfl
    · obtain ⟨zeros, spelled⟩ := inductionHypothesis (by simp [isDigits, frontDigits, empty])
      obtain ⟨others, longer⟩ := padded_concat zeros (value front) small
      refine ⟨others, ?_⟩
      rw [← longer, ← spelled, digit]

/-! ## Signs -/

/-- A sign is taken off where there is one. Only one sign is taken off; a second one would stand
where digits should. -/
theorem signed_cases (characters : List Char) :
    (∃ rest, characters = '+' :: rest ∧ signed characters = (false, rest)) ∨
      (∃ rest, characters = '-' :: rest ∧ signed characters = (true, rest)) ∨
      signed characters = (false, characters) := by
  unfold signed
  split
  · exact Or.inl ⟨_, rfl, rfl⟩
  · exact Or.inr (Or.inl ⟨_, rfl, rfl⟩)
  · exact Or.inr (Or.inr rfl)

/-- Digits have no sign in front. Neither sign is a digit. -/
theorem signed_of_isDigits (all : isDigits digits = true) : signed digits = (false, digits) := by
  rcases signed_cases digits with ⟨rest, rfl, -⟩ | ⟨rest, rfl, -⟩ | unsigned
  · cases all
  · cases all
  · exact unsigned

/-- What stands behind the sign is read if it consists of digits. An empty rest has no digits, so a
sign alone is not read. -/
theorem integer?_of_signed {negative : Bool} (split : signed characters = (negative, digits)) :
    integer? characters = if isDigits digits then
      some (if negative then -(value digits : Int) else value digits) else none := by
  unfold integer?
  rw [split]

/-- An integer is read from some characters exactly if they spell it.

Proof: a sign is taken off in either direction; what is left is digits, and digits are those of a
number behind leading zeros. -/
theorem integer?_eq_some_iff : integer? characters = some number ↔ Spells characters number := by
  constructor
  · intro read
    rcases signed_cases characters with ⟨digits, rfl, split⟩ | ⟨digits, rfl, split⟩ | split
    all_goals
      rw [integer?_of_signed split, Option.ite_none_right_eq_some] at read
      obtain ⟨all, found⟩ := read
      obtain rfl := Option.some.inj found
      obtain ⟨zeros, spelled⟩ := eq_padded_of_isDigits all
      rw [spelled, value_padded]
    · exact .plus zeros _
    · exact .minus zeros _
    · exact .unsigned zeros _
  · intro spells
    cases spells with
    | unsigned zeros magnitude =>
      have all := isDigits_padded zeros magnitude
      rw [integer?_of_signed (signed_of_isDigits all), if_pos all, value_padded]
      rfl
    | plus zeros magnitude =>
      have split : signed ('+' :: padded zeros magnitude) = (false, padded zeros magnitude) := rfl
      rw [integer?_of_signed split, if_pos (isDigits_padded zeros magnitude), value_padded]
      rfl
    | minus zeros magnitude =>
      have split : signed ('-' :: padded zeros magnitude) = (true, padded zeros magnitude) := rfl
      rw [integer?_of_signed split, if_pos (isDigits_padded zeros magnitude), value_padded]
      rfl

/-- A written integer spells itself. It is written without leading zeros, and without a plus. -/
theorem spells_writeInteger (number : Int) : Spells (Json.writeInteger number) number := by
  unfold Json.writeInteger
  split
  · rename_i negative
    have whole : -(number.natAbs : Int) = number := by omega
    have spells := Spells.minus 0 number.natAbs
    rw [whole] at spells
    exact spells
  · rename_i notNegative
    have whole : (number.natAbs : Int) = number := by omega
    have spells := Spells.unsigned 0 number.natAbs
    rw [whole] at spells
    exact spells

/-! ## Texts -/

/-- There are no blanks among digits. So trimming stops at a digit on either side. -/
theorem isBlank_of_isDigit {c : Char} (digit : c.isDigit = true) : Text.isBlank c = false := by
  obtain ⟨lower, upper⟩ : 48 ≤ c.toNat ∧ c.toNat ≤ 57 := Char.isDigit_iff_toNat.mp digit
  simp only [Text.isBlank, Bool.or_eq_false_iff, Bool.and_eq_false_iff, decide_eq_false_iff_not,
    beq_eq_false_iff_ne]
  omega

/-- A spelling has characters, and no blanks among them. Its signs are no blanks either. -/
theorem Spells.unblank (spells : Spells characters number) :
    characters ≠ [] ∧ ∀ c ∈ characters, Text.isBlank c = false := by
  have digits (zeros magnitude : Nat) : ∀ c ∈ padded zeros magnitude, Text.isBlank c = false := by
    intro c member
    have all := isDigits_padded zeros magnitude
    simp only [isDigits, Bool.and_eq_true] at all
    exact isBlank_of_isDigit (List.all_eq_true.mp all.2 c member)
  cases spells with
  | unsigned zeros magnitude => exact ⟨by simp [padded], digits zeros magnitude⟩
  | plus zeros magnitude | minus zeros magnitude =>
    exact ⟨List.cons_ne_nil _ _, List.forall_mem_cons.mpr ⟨rfl, digits zeros magnitude⟩⟩

/-- A text tells an integer exactly if what is left without the blanks around it spells the
integer.

Proof: blanks around a spelling are taken off and nothing more, since a spelling has none of its
own; and whatever is taken off is blanks. -/
theorem tells_iff {text : String} :
    Tells text number ↔ Spells (Text.trimmed text.toList) number := by
  constructor
  · rintro ⟨front, middle, back, whole, before, behind, spells⟩
    obtain ⟨written, unblank⟩ := spells.unblank
    rw [whole, Text.trimmed_around before behind written unblank]
    exact spells
  · intro spells
    obtain ⟨front, back, whole, before, behind⟩ := Text.blanks_around_trimmed text.toList
    exact ⟨front, _, back, whole, before, behind, spells⟩

/-- What spells an integer tells it without any blanks. No blanks are blanks around it, too. -/
theorem Spells.tells (spells : Spells characters number) :
    Tells (String.ofList characters) number := by
  refine ⟨[], characters, [], ?_, ?_, ?_, spells⟩
  · rw [String.toList_ofList, List.append_nil, List.nil_append]
  · exact List.forall_mem_nil _
  · exact List.forall_mem_nil _

/-- A text that tells an integer goes on to tell it without the blanks around it. What is left is
not empty, so it is no missing answer. -/
theorem Tells.trim {text : String} (tells : Tells text number) :
    Tells (Text.trim text) number ∧ (Text.trim text).isEmpty = false := by
  have spells : Spells (Text.trimmed text.toList) number := tells_iff.mp tells
  constructor
  · exact spells.tells
  · simp [Text.trim, spells.unblank.1]

/-- A text that tells a word is read as the word. No floating-point number comes into it, however
large the word is. -/
theorem Tells.toInteger?_eq {text : String} {word : Int64} (tells : Tells text word.toInt) :
    toInteger? (Text.trimmed text.toList) = some word := by
  have read : integer? (Text.trimmed text.toList) = some word.toInt :=
    integer?_eq_some_iff.mpr (tells_iff.mp tells)
  unfold Decimal.toInteger?
  rw [read, Option.bind_some, Json.Reader.word?_toInt]

end Storyline.Decimal
