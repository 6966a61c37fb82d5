import Storyline.Reveal.Step

/-!
# Steps keep tags whole

Steps cut a text in two and lose nothing. A step never stops inside a tag, unless the tag
is not closed, and then the step goes to the end of the text. So what some steps show ends
inside a tag only where nothing is left to show.
-/

namespace Storyline.Reveal

/-- A text that does not end inside a tag: behind its last `>` there is no `<`. -/
def Closed (text : List Char) : Prop := ∀ tail, tail <:+ text → '>' ∉ tail → '<' ∉ tail

/-- Nothing is closed. An engine shows nothing at the start of a reveal. -/
theorem closed_nil : Closed [] := by
  intro tail suffix _ opens
  rw [List.suffix_nil.mp suffix] at opens
  cases opens

/-- Closed texts one after another are closed.

Proof: a part of the two without `>` that reaches into the first one has the whole second one in
it, and so neither of them has a `<` there. -/
theorem Closed.append {first second : List Char} (firstClosed : Closed first)
    (secondClosed : Closed second) : Closed (first ++ second) := by
  intro tail suffix absent opens
  obtain ⟨front, whole⟩ := suffix
  rcases List.append_eq_append_iff.mp whole with ⟨overlap, rfl, rfl⟩ | ⟨overlap, -, rfl⟩
  · rcases List.mem_append.mp opens with inFirst | inSecond
    · exact firstClosed overlap (List.suffix_append front overlap)
        (fun closes => absent (List.mem_append_left _ closes)) inFirst
    · exact secondClosed second List.suffix_rfl
        (fun closes => absent (List.mem_append_right _ closes)) inSecond
  · exact secondClosed tail (List.suffix_append overlap tail) absent opens

/-- A character that opens no tag is closed. It may be a `>`, also one that closes nothing. -/
theorem closed_singleton {c : Char} (plain : c ≠ '<') : Closed [c] := by
  intro tail suffix _ opens
  have member : '<' ∈ [c] := suffix.subset opens
  exact plain (List.mem_singleton.mp member).symm

/-- A text that ends with `>` is closed. What stands before it may have open tags, of which this is
the end. -/
theorem closed_of_close (text : List Char) : Closed (text ++ ['>']) := by
  intro tail suffix absent opens
  rcases List.suffix_concat_iff.mp suffix with rfl | ⟨front, rfl, -⟩
  · cases opens
  · exact absent (List.mem_append_right _ (List.mem_singleton_self _))

/-- A step cuts a text in two. So nothing is lost or doubled where a text is cut. -/
theorem oneStep_append (text : List Char) : (oneStep text).1 ++ (oneStep text).2 = text := by
  unfold oneStep
  split
  · rfl
  · rename_i behind
    have parts := List.takeWhile_append_dropWhile (p := (· != '>')) (l := behind)
    split
    · exact List.append_nil _
    · rename_i close rest closed
      rw [closed] at parts
      simp only [List.cons_append, List.append_assoc, List.nil_append, parts]
  · rfl

/-- A step that leaves something shows no open tag.

Proof: a step is a character other than `<`, or a whole tag with its `>` at the end; only a tag
that is not closed leaves nothing. -/
theorem closed_oneStep {text : List Char} (more : (oneStep text).2 ≠ []) :
    Closed (oneStep text).1 := by
  unfold oneStep at more ⊢
  split at more
  · exact absurd rfl more
  · rename_i behind
    split at more
    · exact absurd rfl more
    · rename_i close rest closed
      have isClose : close = '>' := by
        have stopped := List.head?_dropWhile_not (· != '>') behind
        rw [closed] at stopped
        simpa using stopped
      subst isClose
      exact closed_of_close ('<' :: behind.takeWhile (· != '>'))
  · rename_i c rest plain
    exact closed_singleton fun opens => plain (opens ▸ rfl)

/-- Some steps cut a text in two.

Proof: by induction on the count, each step cutting what the steps before it have left. -/
theorem steps_append (count : Nat) (text : List Char) :
    (steps count text).1 ++ (steps count text).2 = text := by
  induction count generalizing text with
  | zero => rfl
  | succ count inductionHypothesis =>
    cases text with
    | nil => rfl
    | cons c behind =>
      simp only [steps]
      rw [List.append_assoc, inductionHypothesis, oneStep_append]

/-- Steps that leave something show no open tag.

Proof: by induction on the count. If something is left behind the last step, something was left
behind each of them, and closed pieces join to a closed one. -/
theorem closed_steps {count : Nat} {text : List Char} (more : (steps count text).2 ≠ []) :
    Closed (steps count text).1 := by
  induction count generalizing text with
  | zero => exact closed_nil
  | succ count inductionHypothesis =>
    cases text with
    | nil => exact closed_nil
    | cons c behind =>
      simp only [steps] at more ⊢
      have left : (oneStep (c :: behind)).2 ≠ [] := by
        intro empty
        rw [empty, steps_nil] at more
        exact more rfl
      exact (closed_oneStep left).append (inductionHypothesis more)

/-- At least one step shows something of a text that is not empty. Every tick that finds something
left therefore shows something. -/
theorem steps_ne_nil {count : Nat} {text : List Char} (positive : 0 < count) (more : text ≠ []) :
    (steps count text).1 ≠ [] := by
  intro nothing
  have shorter := length_steps_lt positive more
  have whole := steps_append count text
  rw [nothing, List.nil_append] at whole
  rw [whole] at shorter
  exact Nat.lt_irrefl _ shorter

end Storyline.Reveal
