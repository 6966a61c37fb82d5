import Storyline.Json.Escape
import Storyline.Json.Printer

/-!
# Texts between their quotes

Every character of a written text is one piece: the character itself, an escape by a
letter, or an escape by the code of a control character. So a text is read back from
between its quotes, whatever characters it has.
-/

namespace Storyline.Json

namespace Piece

/-- The digit of a hexadecimal place is read as what it stands for. There are sixteen of them, and
each is tried. -/
theorem hexValue?_hexDigit {place : Nat} (small : place < 16) :
    hexValue? (hexDigit place) = some place := by
  have all : ∀ place : Fin 16, hexValue? (hexDigit place) = some place.val := by decide
  exact all ⟨place, small⟩

/-- A code of two hexadecimal digits behind two zeros is read back. Control characters have codes
below that, and only they are written by their codes. -/
theorem unit?_hexDigits {code : Nat} (small : code < 0x100) :
    unit? '0' '0' (hexDigit (code / 16)) (hexDigit code) = some code := by
  have zero : hexValue? '0' = some 0 := by decide
  have high := hexValue?_hexDigit (show code / 16 < 16 by omega)
  have low : hexValue? (hexDigit code) = some (code % 16) := by
    have sameDigit : hexDigit code = hexDigit (code % 16) := by simp [hexDigit]
    rw [sameDigit, hexValue?_hexDigit (Nat.mod_lt _ (by decide))]
  have value : ((0 * 16 + 0) * 16 + code / 16) * 16 + code % 16 = code := by omega
  simp only [unit?, zero, high, low, bind, Option.bind, pure, value]

/-- A piece that stands for a character, whatever follows. -/
def StandsFor (piece : Piece) (c : Char) : Prop :=
  ∀ rest, characters? (piece :: rest) = (characters? rest).map (c :: ·)

/-- A plain character stands for itself. It never joins with what follows. -/
theorem standsFor_plain (c : Char) : (plain c).StandsFor c := by
  intro rest
  rfl

/-- A code unit below all surrogates stands for its character. Two units that are surrogates would
have to be taken together. -/
theorem standsFor_unit {c : Char} (small : c.toNat < 0xD800) : (unit c.toNat).StandsFor c := by
  have notHigh : isHigh c.toNat = false := by
    rw [isHigh, Bool.and_eq_false_iff]
    exact Or.inl (decide_eq_false (Nat.not_le_of_lt small))
  have notLow : isLow c.toNat = false := by
    rw [isLow, Bool.and_eq_false_iff]
    exact Or.inl (decide_eq_false (by omega))
  intro rest
  cases rest with
  | nil => simp [characters?, notHigh, notLow]
  | cons next behind =>
    cases next with
    | plain d => simp [characters?, notHigh, notLow]
    | unit code => rw [characters?, if_neg (by simp [notHigh]), if_neg (by simp [notLow]),
        Char.ofNat_toNat]

/-- An escape by a letter is scanned as the character of that letter. The letter that starts a code
is not among them. -/
theorem scan_letter {letter c : Char} (known : ofLetter? letter = some c) (rest : List Char) :
    scan ('\\' :: letter :: rest) = (.plain c :: (scan rest).1, (scan rest).2) := by
  have notCode : letter ≠ 'u' := by
    rintro rfl
    cases known
  rw [scan, known]
  · exact fun _ _ _ _ _ same _ => notCode same
  · exact notCode

/-- A character without an escape is scanned as itself. Control characters, quotation marks and the
escape mark itself may not stand there as they are. -/
theorem scan_plain {c : Char} (notQuote : c ≠ '"') (notMark : c ≠ '\\') (visible : ¬ c.toNat < 0x20)
    (rest : List Char) : scan (c :: rest) = (.plain c :: (scan rest).1, (scan rest).2) := by
  rw [scan, if_neg visible]
  · exact notQuote
  · exact fun mark _ => notMark mark
  · exact fun _ _ _ _ _ mark _ => notMark mark
  · exact fun _ mark _ => notMark mark
  · exact fun _ _ mark _ => notMark mark

/-- A written character is scanned as one piece that stands for it.

Proof: by the cases in which a character is written: seven letters, a code, or as itself. -/
theorem scan_escaped (c : Char) (rest : List Char) :
    ∃ piece : Piece, piece.StandsFor c ∧
      scan (escaped c ++ rest) = (piece :: (scan rest).1, (scan rest).2) := by
  unfold escaped
  split
  case h_8 =>
    rename_i notQuote notMark _ _ _ _ _
    split
    · rename_i control
      -- The code of a control character has two digits, the other two are zero.
      refine ⟨.unit c.toNat, standsFor_unit (by omega), ?_⟩
      simp only [List.cons_append, List.nil_append]
      rw [scan, unit?_hexDigits (by omega)]
    · rename_i visible
      exact ⟨.plain c, standsFor_plain c, scan_plain notQuote notMark visible rest⟩
  all_goals exact ⟨.plain _, standsFor_plain _, scan_letter rfl rest⟩

/-- Written characters are scanned up to the closing quote, and the pieces stand for them.

Proof: by induction on the characters, each of which is one piece in front of the others. -/
theorem scan_flatMap_escaped (text rest : List Char) :
    ∃ pieces, scan (text.flatMap escaped ++ '"' :: rest) = (pieces, .ok rest) ∧
      characters? pieces = some text := by
  induction text with
  | nil => exact ⟨[], rfl, rfl⟩
  | cons c behind inductionHypothesis =>
    obtain ⟨pieces, scanned, whole⟩ := inductionHypothesis
    obtain ⟨piece, stands, first⟩ := scan_escaped c (behind.flatMap escaped ++ '"' :: rest)
    refine ⟨piece :: pieces, ?_, ?_⟩
    · rw [List.flatMap_cons, List.append_assoc, first, scanned]
    · rw [stands, whole, Option.map_some]

end Piece

/-- A written text is read back from behind its opening quote. Nothing is assumed of the text,
which may hold quotes, control characters and characters of any plane. -/
theorem takeText_flatMap_escaped (text : String) (rest : List Char) :
    takeText (text.toList.flatMap escaped ++ '"' :: rest) = .ok (.ok text, rest) := by
  obtain ⟨pieces, scanned, whole⟩ := Piece.scan_flatMap_escaped text.toList rest
  simp only [takeText, scanned, whole, String.ofList_toList]

end Storyline.Json
