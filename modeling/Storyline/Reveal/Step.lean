/-!
# Steps through a text with markup

A step is one character, or a whole span of markup from `<` to the first `>`;
markup that is not closed is one step to the end. What some steps show therefore
never ends inside a tag that is closed later.
-/

namespace Storyline.Reveal

/-- What the next step shows, and what remains after it. -/
def oneStep : List Char → List Char × List Char
  | [] => ([], [])
  | '<' :: behind =>
    match behind.dropWhile (· != '>') with
    | [] => ('<' :: behind, [])
    | close :: rest => ('<' :: behind.takeWhile (· != '>') ++ [close], rest)
  | c :: rest => ([c], rest)

/-- What some steps show, and what remains after them. -/
def steps : Nat → List Char → List Char × List Char
  | 0, rest => ([], rest)
  | _ + 1, [] => ([], [])
  | count + 1, c :: behind =>
    let (first, rest) := oneStep (c :: behind)
    let (more, last) := steps count rest
    (first ++ more, last)

/-- Nothing remains of nothing. -/
theorem steps_nil (count : Nat) : steps count [] = ([], []) := by
  cases count <;> rfl

/-- A step makes the rest shorter. -/
theorem length_oneStep (c : Char) (behind : List Char) :
    (oneStep (c :: behind)).2.length < (c :: behind).length := by
  unfold oneStep
  split
  · rename_i absurdity
    exact nomatch absurdity
  · rename_i tag same
    obtain ⟨-, rfl⟩ := List.cons.inj same
    split
    · exact Nat.zero_lt_succ _
    · rename_i close rest closed
      have shorter := (List.dropWhile_sublist (l := behind) (· != '>')).length_le
      rw [closed, List.length_cons] at shorter
      simp only [List.length_cons]
      omega
  · rename_i first rest _ same
    obtain ⟨-, rfl⟩ := List.cons.inj same
    exact Nat.lt_succ_self _

/-- Steps never make the rest longer. -/
theorem length_steps (count : Nat) (text : List Char) :
    (steps count text).2.length ≤ text.length := by
  induction count generalizing text with
  | zero => exact Nat.le_refl _
  | succ count inductionHypothesis =>
    cases text with
    | nil => exact Nat.le_refl _
    | cons c behind =>
      have first := length_oneStep c behind
      have later := inductionHypothesis (oneStep (c :: behind)).2
      simp only [steps]
      omega

/-- At least one step makes a rest shorter that is not empty. -/
theorem length_steps_lt {count : Nat} {text : List Char} (positive : 0 < count)
    (more : text ≠ []) : (steps count text).2.length < text.length := by
  obtain ⟨count, rfl⟩ := Nat.exists_eq_succ_of_ne_zero (Nat.ne_of_gt positive)
  cases text with
  | nil => exact absurd rfl more
  | cons c behind =>
    have first := length_oneStep c behind
    have later := length_steps count (oneStep (c :: behind)).2
    simp only [steps]
    omega

end Storyline.Reveal
