import Mathlib.Data.List.TakeWhile
import Storyline.Text.Blank

/-!
# What trimming leaves

Trimming leaves nothing exactly of a text that is blank throughout. Of any text it leaves a
middle part with blanks on both sides, and it leaves all of a part that has no blanks itself.
-/

namespace Storyline.Text

/-- Nothing is left of some characters exactly if all of them are blank.

Proof: blanks are dropped from the front first. The first character that is left is no blank, so it
is not dropped from behind, and nothing is left only if there was no such character. -/
theorem trimmed_eq_nil_iff {characters : List Char} :
    trimmed characters = [] ↔ ∀ c ∈ characters, isBlank c = true := by
  rw [← List.dropWhile_eq_nil_iff]
  unfold trimmed
  constructor
  · intro nothing
    have blank := List.dropWhile_eq_nil_iff.mp (List.reverse_eq_nil_iff.mp nothing)
    have first := List.head?_dropWhile_not isBlank characters
    cases left : characters.dropWhile isBlank with
    | nil => rfl
    | cons c rest =>
      -- The first character that is left is no blank, and yet the second trimming drops it.
      rw [left] at first blank
      have dropped : isBlank c = true := blank c (by simp)
      simp [dropped] at first
  · intro nothing
    rw [nothing]
    rfl

/-- Something is left of a text with a character that is not blank. One such character is enough,
wherever it stands. -/
theorem trim_isEmpty_eq_false {text : String} (written : ∃ c ∈ text.toList, isBlank c = false) :
    (trim text).isEmpty = false := by
  obtain ⟨c, member, notBlank⟩ := written
  have left : trimmed text.toList ≠ [] := by
    intro nothing
    rw [trimmed_eq_nil_iff.mp nothing c member] at notBlank
    cases notBlank
  simp [trim, left]

/-- Some characters are blanks throughout. An empty list is one of them. -/
def Blanks (characters : List Char) : Prop := ∀ c ∈ characters, isBlank c = true

variable {characters front middle back : List Char}

/-- Blanks are blanks from behind too. Trimming from behind is trimming from the front of the
reversed text. -/
theorem Blanks.reverse (blanks : Blanks characters) : Blanks characters.reverse := by
  intro c member
  exact blanks c (List.mem_reverse.mp member)

/-- A text is what trimming leaves of it, with blanks on both sides. Either side may be empty.

Proof: each of the two trimmings parts the text into blanks and what begins with none. -/
theorem blanks_around_trimmed (characters : List Char) :
    ∃ front back, characters = front ++ trimmed characters ++ back ∧
      Blanks front ∧ Blanks back := by
  let onward : List Char := characters.dropWhile isBlank
  refine ⟨characters.takeWhile isBlank, (onward.reverse.takeWhile isBlank).reverse, ?_, ?_, ?_⟩
  · have split : trimmed characters ++ (onward.reverse.takeWhile isBlank).reverse = onward := by
      rw [trimmed, ← List.reverse_append, List.takeWhile_append_dropWhile, List.reverse_reverse]
    rw [List.append_assoc, split, List.takeWhile_append_dropWhile]
  · exact fun c member => List.mem_takeWhile_imp member
  · exact Blanks.reverse fun c member => List.mem_takeWhile_imp member

/-- Blanks in front are dropped up to the first character that is none. What stands behind it may
have blanks again, which are kept. -/
theorem dropWhile_blanks (blanks : Blanks front) (written : middle ≠ [])
    (unblank : ∀ c ∈ middle, isBlank c = false) :
    (front ++ (middle ++ back)).dropWhile isBlank = middle ++ back := by
  rw [List.dropWhile_append_of_pos blanks]
  cases middle with
  | nil => exact absurd rfl written
  | cons c rest => simp [unblank c List.mem_cons_self]

/-- Of something without blanks trimming leaves all, whatever blanks there are on both sides. That
it has a character at all is needed, since blanks alone are trimmed away.

Proof: the blanks in front are dropped up to its first character, and those behind, read in
reverse, up to its last. -/
theorem trimmed_around (blanksBefore : Blanks front) (blanksBehind : Blanks back)
    (written : middle ≠ []) (unblank : ∀ c ∈ middle, isBlank c = false) :
    trimmed (front ++ middle ++ back) = middle := by
  have fromBehind : (middle ++ back).reverse = back.reverse ++ (middle.reverse ++ []) := by simp
  unfold trimmed
  rw [List.append_assoc, dropWhile_blanks blanksBefore written unblank, fromBehind,
    dropWhile_blanks blanksBehind.reverse (by simpa using written)
      fun c member => unblank c (List.mem_reverse.mp member)]
  simp

end Storyline.Text
