import Storyline.Json.Printer
import Storyline.Json.Numeral

/-!
# Integers in digits

A written integer is a numeral without a point and without a power. Wherever the text
behind it does not go on with a digit, a point or a power, the numeral ends there, and its
number is the integer that was written, as long as 64 bits hold it.
-/

namespace Storyline.Json

/-- An integer that 64 bits hold, signed or unsigned. -/
def Kept (value : Int) : Prop := -0x8000000000000000 ≤ value ∧ value < 0x10000000000000000

namespace Numeral

/-- A text that a numeral in front of it does not go on with. -/
def EndsBefore (rest : List Char) : Prop :=
  ∀ c behind, rest = c :: behind → c.isDigit = false ∧ c ≠ '.' ∧ c ≠ 'e' ∧ c ≠ 'E'

/-- A numeral ends where the text ends. A document that is a number and nothing else is of this
kind. -/
theorem endsBefore_nil : EndsBefore [] := by
  intro c behind same
  cases same

/-- A numeral ends before any character that numerals do not contain. Signs and leading zeros do
not matter here, since they stand in front of a numeral. -/
theorem endsBefore_cons {c : Char} (rest : List Char) (notDigit : c.isDigit = false)
    (notPoint : c ≠ '.') (notPower : c ≠ 'e') (notBigPower : c ≠ 'E') :
    EndsBefore (c :: rest) := by
  intro d behind same
  obtain ⟨rfl, rfl⟩ := List.cons.inj same
  exact ⟨notDigit, notPoint, notPower, notBigPower⟩

variable {rest : List Char}

/-- Digits are taken up to where they end.

Proof: the digits are those taken while there are digits, and the rest begins with none. -/
theorem takeDigits_append {digits : List Char} (notEmpty : digits ≠ [])
    (all : ∀ c ∈ digits, c.isDigit = true) (ends : EndsBefore rest) :
    takeDigits (digits ++ rest) = .ok (digits, rest) := by
  have taken : (digits ++ rest).takeWhile Char.isDigit = digits := by
    rw [List.takeWhile_append_of_pos all]
    cases rest with
    | nil => simp
    | cons c behind => simp [(ends c behind rfl).1]
  have dropped : (digits ++ rest).dropWhile Char.isDigit = rest := by
    rw [List.dropWhile_append_of_pos all]
    cases rest with
    | nil => rfl
    | cons c behind => simp [(ends c behind rfl).1]
  unfold takeDigits
  rw [taken, dropped]
  cases digits with
  | nil => exact absurd rfl notEmpty
  | cons c more => rfl

/-- Only zero is written with a leading zero.

Proof: by induction on the number. Its first digit is that of its tenth part, and a single digit is
zero only for the number zero. -/
theorem toDigits_ne_zero_cons {n : Nat} (positive : 0 < n) (tail : List Char) :
    Nat.toDigits 10 n ≠ '0' :: tail := by
  induction n using Nat.strongRecOn generalizing tail with
  | _ n inductionHypothesis =>
    intro leading
    by_cases small : n < 10
    · rw [Nat.toDigits_of_lt_base small] at leading
      have zero : n.digitChar = '0' := (List.cons.inj leading).1
      rw [Nat.digitChar_eq_zero] at zero
      omega
    -- The first digit is that of the tenth part.
    · rw [Nat.toDigits_of_base_le (by decide) (Nat.le_of_not_lt small)] at leading
      cases front : Nat.toDigits 10 (n / 10) with
      | nil => exact Nat.toDigits_ne_nil front
      | cons c more =>
        rw [front, List.cons_append] at leading
        obtain ⟨rfl, -⟩ := List.cons.inj leading
        exact inductionHypothesis (n / 10) (by omega) (by omega) more front

/-- The digits of a natural number are the whole part of a numeral.

Proof: zero stands alone, and any other number does not begin with a zero, so all its digits are
taken. -/
theorem takeWhole_toDigits (n : Nat) (ends : EndsBefore rest) :
    takeWhole (Nat.toDigits 10 n ++ rest) = .ok (Nat.toDigits 10 n, rest) := by
  by_cases zero : n = 0
  · subst zero
    rw [Nat.toDigits_zero, List.cons_append, List.nil_append]
    unfold takeWhole
    cases rest with
    | nil => rfl
    | cons c behind => simp [(ends c behind rfl).1]
  · unfold takeWhole
    split
    · rename_i behind leading
      cases front : Nat.toDigits 10 n with
      | nil => exact absurd front Nat.toDigits_ne_nil
      | cons c more =>
        rw [front, List.cons_append] at leading
        obtain ⟨rfl, -⟩ := List.cons.inj leading
        exact absurd front (toDigits_ne_zero_cons (Nat.pos_of_ne_zero zero) more)
    · exact takeDigits_append Nat.toDigits_ne_nil
        (fun c member => Nat.isDigit_of_mem_toDigits (by decide) (by decide) member) ends

/-- No fraction is taken where the numeral ends. The point is what would start one. -/
theorem takeFraction_of_endsBefore (ends : EndsBefore rest) :
    takeFraction rest = .ok (none, rest) := by
  unfold takeFraction
  split
  · exact absurd rfl (ends _ _ rfl).2.1
  · rfl

/-- No power is taken where the numeral ends. It could start with a small or with a big letter. -/
theorem takePower_of_endsBefore (ends : EndsBefore rest) : takePower rest = .ok (none, rest) := by
  cases rest with
  | nil => rfl
  | cons c behind =>
    obtain ⟨-, -, notPower, notBigPower⟩ := ends c behind rfl
    simp [takePower, notPower, notBigPower]

/-- Digits have no sign. A number without a sign is therefore not negative. -/
theorem takeMinus_toDigits (n : Nat) :
    takeMinus (Nat.toDigits 10 n ++ rest) = (false, Nat.toDigits 10 n ++ rest) := by
  cases front : Nat.toDigits 10 n with
  | nil => exact absurd front Nat.toDigits_ne_nil
  | cons c more =>
    have digit : c.isDigit = true :=
      Nat.isDigit_of_mem_toDigits (by decide) (by decide)
        (front ▸ List.mem_cons_self : c ∈ Nat.toDigits 10 n)
    unfold takeMinus
    split
    · rename_i minus
      obtain ⟨rfl, -⟩ := List.cons.inj minus
      cases digit
    · rfl

/-- The numeral of a written integer. -/
def ofInteger (value : Int) : Numeral :=
  ⟨decide (value < 0), Nat.toDigits 10 value.natAbs, none, none⟩

/-- A written integer is taken as its numeral.

Proof: sign and digits are taken from the front, and nothing of the rest belongs to the numeral. -/
theorem take_writeInteger (value : Int) (ends : EndsBefore rest) :
    take (writeInteger value ++ rest) = .ok (ofInteger value, rest) := by
  have minus : takeMinus (writeInteger value ++ rest) =
      (decide (value < 0), Nat.toDigits 10 value.natAbs ++ rest) := by
    unfold writeInteger
    split
    · rename_i negative
      simp [takeMinus, negative]
    · rename_i notNegative
      rw [takeMinus_toDigits, decide_eq_false notNegative]
  unfold take
  rw [minus]
  simp only [takeWhole_toDigits _ ends, bind, Except.bind, takeFraction_of_endsBefore ends,
    takePower_of_endsBefore ends]
  rfl

/-- Further digits make a count no smaller.

Proof: by induction on the digits, each of which makes ten times the count and more. -/
theorem le_ofDigitChars (count : Nat) (digits : List Char) :
    count ≤ Nat.ofDigitChars 10 digits count := by
  induction digits generalizing count with
  | nil => exact Nat.le_refl count
  | cons digit rest inductionHypothesis =>
    rw [Nat.ofDigitChars_cons]
    refine Nat.le_trans ?_ (inductionHypothesis _)
    omega

/-- Digits whose count fits 64 bits are gathered to the last one.

Proof: by induction on the digits. No count on the way is larger than the last one, so none is too
large to be kept. -/
theorem gather_eq {count : Nat} {digits : List Char}
    (fits : Nat.ofDigitChars 10 digits count < 0x10000000000000000) :
    gather count digits = (Nat.ofDigitChars 10 digits count, []) := by
  induction digits generalizing count with
  | nil => rfl
  | cons digit rest inductionHypothesis =>
    rw [Nat.ofDigitChars_cons] at fits ⊢
    have next := Nat.lt_of_le_of_lt (le_ofDigitChars _ rest) fits
    unfold gather
    simp only [if_pos next]
    exact inductionHypothesis fits

/-- A numeral written for an integer within 64 bits is read as that integer. The range is the one
of both signed and unsigned words, as readers take either. -/
theorem number_ofInteger {value : Int} (kept : Kept value) :
    (ofInteger value).number = .ok (.integer value) := by
  obtain ⟨lower, upper⟩ := kept
  have gathered : gather 0 (Nat.toDigits 10 value.natAbs) = (value.natAbs, []) := by
    have whole : Nat.ofDigitChars 10 (Nat.toDigits 10 value.natAbs) 0 = value.natAbs :=
      Nat.ofDigitChars_ten_toDigits
    have fits : value.natAbs < 0x10000000000000000 := by omega
    rw [gather_eq (whole.symm ▸ fits), whole]
  unfold number ofInteger
  simp only [gathered, Option.isNone_none, Bool.and_self, if_true]
  by_cases negative : value < 0
  · have positive : 0 < value.natAbs := by omega
    have bounded : value.natAbs ≤ 0x8000000000000000 := by omega
    have restored : -(value.natAbs : Int) = value := by omega
    simp only [negative, positive, bounded, restored, decide_true, Bool.not_true, Bool.false_eq_true,
      if_false, Bool.and_self, if_true]
  · have restored : (value.natAbs : Int) = value := by omega
    simp only [negative, restored, decide_false, Bool.not_false, if_true]

end Numeral

end Storyline.Json
