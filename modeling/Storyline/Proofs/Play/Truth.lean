import Storyline.Play.Outcome
import Storyline.Proofs.Story.Condition
import Storyline.Proofs.Story.Effect

/-!
# The truth of a loose value

A story may give any scalar to store under a flag, and any scalar to test a flag against.
The two are read by rules of their own. A number that is stored is kept as the text that
writes it out, and a text counts as set unless it is empty. A number that is tested against
counts by being other than zero. Written numbers are never empty, so the two rules agree on
every scalar but the number zero, and a flag set to a scalar passes the test against the same
scalar unless it is that number.

Null is no scalar here: stored, it clears the flag, and tested against, it stands for true.
-/

namespace Storyline

open Json

/-! ## Written numbers -/

/-- Digits in positions come to some character, even if there are no digits.

Proof: by the place of the leading digit: below the point a zero stands in front, within the digits
the digits do, and behind them zeros fill up to the point. -/
theorem Decimal.positional_ne_nil (number : Digits) (keepsPoint : Bool) :
    positional number keepsPoint ≠ [] := by
  by_cases small : number.leading < 0
  · simp [positional, small]
  · by_cases whole : number.digits.length ≤ number.leading.toNat + 1
    · -- The zeros behind the digits fill every position in front of the point.
      have filled : (number.digits ++
          List.replicate (number.leading.toNat + 1 - number.digits.length) '0').length =
            number.leading.toNat + 1 := by
        rw [List.length_append, List.length_replicate]
        omega
      simp only [positional, if_neg small, if_pos whole]
      exact List.append_ne_nil_of_left_ne_nil (List.ne_nil_of_length_pos (by omega)) _
    · simp [positional, small, whole]

/-- A number in running text is never empty. This holds of all numbers that there are, also of
floating-point numbers that no document spells. -/
theorem Json.Number.isEmpty_inText (number : Json.Number) : number.inText.isEmpty = false := by
  have written : ∃ characters, number.inText = String.ofList characters ∧ characters ≠ [] := by
    cases number with
    | integer value =>
      obtain ⟨first, more, written, -⟩ := writeInteger_eq_cons value
      exact ⟨writeInteger value, rfl, written ▸ List.cons_ne_nil first more⟩
    | real value =>
      refine ⟨Decimal.textForm.write value, rfl, List.append_ne_nil_of_right_ne_nil _ ?_⟩
      exact Decimal.positional_ne_nil _ _
  obtain ⟨characters, same, some⟩ := written
  rw [same]
  simpa using some

/-! ## Scalars -/

/-- Whether a number counts as zero. What is not a number counts as zero too, although no document
spells it. -/
def Json.Number.isZero : Json.Number → Bool
  | .integer value => value == 0
  | .real value => value == 0 || value.isNaN

/-- A scalar other than null. -/
inductive Scalar where
  | bool (value : Bool)
  | number (value : Json.Number)
  | text (value : String)

namespace Scalar

/-- The scalar as a document gives it. -/
def toJson : Scalar → Value
  | .bool value => .bool value
  | .number value => .number value
  | .text value => .text value

/-- What a flag is when the scalar is stored under it. -/
def stored : Scalar → Flag
  | .bool value => .bool value
  | .number value => .text value.inText
  | .text value => .text value

/-- What a flag is compared with when it is tested against the scalar. -/
def tested : Scalar → Bool
  | .bool value => value
  | .number value => !value.isZero
  | .text value => !value.isEmpty

/-- Whether the scalar is the number zero. -/
def isZero : Scalar → Bool
  | .number value => value.isZero
  | .bool _ | .text _ => false

/-- The object that sets a flag to the scalar. -/
def setsFlag (flag : String) (scalar : Scalar) : Value :=
  .object [("type", .text "SET_FLAG"), ("flag", .text flag), ("value", scalar.toJson)]

/-- The object that tests a flag against the scalar. -/
def testsFlag (flag : String) (scalar : Scalar) : Value :=
  .object [("type", .text "HAS_FLAG"), ("flag", .text flag), ("value", scalar.toJson)]

/-- The flag that is read of a scalar. Readers see of a value only its face, which for scalars is
all there is to see. -/
theorem asFlag_face (scalar : Scalar) : scalar.toJson.face.asFlag = .ok scalar.stored := by
  cases scalar <;> rfl

/-- The truth that is read of a scalar.

Proof: by the kind of the scalar; a floating-point number counts if it is neither zero nor no
number at all. -/
theorem truthOf_face (scalar : Scalar) :
    Condition.truthOf scalar.toJson.face = .ok scalar.tested := by
  cases scalar with
  | bool value => rfl
  | text value => rfl
  | number value =>
    cases value with
    | integer value => rfl
    | real value =>
      have other : (value != 0 && !value.isNaN) = !(value == 0 || value.isNaN) :=
        (Bool.not_or _ _).symm
      exact congrArg Except.ok other

/-- Stored and tested, a scalar counts the same unless it is the number zero.

Proof: by the kind of the scalar. A truth value and a text count by the same rule on both sides. A
number is stored as a text that is not empty and so counts as set, whether it is zero or not. -/
theorem isSet_stored_iff (scalar : Scalar) :
    scalar.stored.isSet = scalar.tested ↔ scalar.isZero = false := by
  cases scalar with
  | bool value => simp [stored, tested, isZero, Flag.isSet]
  | text value => simp [stored, tested, isZero, Flag.isSet]
  | number value =>
    simp only [stored, tested, isZero, Flag.isSet, value.isEmpty_inText]
    cases value.isZero <;> decide

/-- The effect that sets a flag to a scalar is read of its object. The value is read as a flag, so
a number in its place is turned into its text. -/
theorem takes_setsFlag (flag : String) (scalar : Scalar) :
    Effect.reader.Takes (scalar.setsFlag flag) (.setFlag flag scalar.stored) := by
  have filled : (Body.members [("flag", .text flag), ("value", scalar.toJson)]).record
      "struct variant Effect::SetFlag" Effect.flagFields ("", .bool true) =
        .ok (flag, scalar.stored) := by
    have taken : orMismatch scalar.toJson.face.asFlag = .ok scalar.stored := by
      rw [asFlag_face, orMismatch_ok]
    exact Body.record_two rfl rfl rfl rfl (Field.read_byDefault taken) rfl
  refine Effect.takes_object (by simp) ?_
  simp only [Effect.ofTagged, filled]
  rfl

/-- The condition that tests a flag against a scalar is read of its object. A value that is tested
against is read as its truth and not kept as such. -/
theorem takes_testsFlag (flag : String) (scalar : Scalar) :
    Condition.reader.Takes (scalar.testsFlag flag) (.hasFlag flag scalar.tested) := by
  have filled : (Body.members [("flag", .text flag), ("value", scalar.toJson)]).record
      Condition.flagTitle Condition.flagFields ("", true) = .ok (flag, scalar.tested) := by
    have taken : orMismatch (Condition.truthOf scalar.toJson.face) = .ok scalar.tested := by
      rw [truthOf_face, orMismatch_ok]
    exact Body.record_two rfl rfl rfl rfl (Field.read_byDefault taken) rfl
  refine Condition.takes_object .hasFlag (by simp) ?_
  rw [Condition.ofValue_object .hasFlag (by simp)]
  simp only [Condition.assemble, filled]
  rfl

/-- No reader stops at the nesting of an object that sets a flag or tests one. An object with
scalars in it is one level deep. -/
theorem shallow_object (tag flag : String) (scalar : Scalar) :
    (Value.object [("type", .text tag), ("flag", .text flag), ("value", scalar.toJson)]).Shallow
      0 := by
  have flat : scalar.toJson.depth = 0 := by cases scalar <;> rfl
  simp [Value.Shallow, Value.depth, membersDepth, flat]

end Scalar

/-! ## Setting a flag and testing it -/

/-- A text spells a value if it outlines the value and nothing is left behind it. -/
def Json.Value.SpelledBy (value : Value) (text : String) : Prop :=
  Outline.ofText text = (value.outline 0, [])

/-- A value without numbers other than integers within 64 bits is spelled by what is written of it
on one line. Floating-point numbers are left out, as what is written of them need not be read back
digit by digit. -/
theorem Json.Value.spelledBy_compact {value : Value} (exact : value.Exact) :
    value.SpelledBy value.compact := by
  unfold SpelledBy
  exact ofText_write spaced_compact exact

/-- A document that spells a value is read as the thing that the value is taken for.
Spellings differ in blanks, in escapes and in how numbers are written out, and all are the
same to a reader. -/
theorem Json.Reader.document_of_spelledBy {α : Type} {read : Reader α} {value : Value} {thing : α}
    {text : String} (takes : read.Takes value thing) (shallow : value.Shallow 0)
    (spelled : value.SpelledBy text) : Reader.document read text = .ok thing := by
  simp only [Reader.document, show Outline.ofText text = _ from spelled, takes 0 shallow]
  rfl

namespace Scalar

/-- After a flag was set the test compares what is stored with the truth tested for. What the flag
held before plays no part, and neither does any other flag. -/
theorem holds_after_setFlag (assumed : Bool) (state : State) (flag : String) (value : Flag)
    (truth : Bool) :
    (Condition.hasFlag flag truth).holds assumed (Effect.applyAll [.setFlag flag value] state).2 =
      (value.isSet == truth) := by
  have found : (state.setFlag flag value).flags.get? flag = some value := by
    simp [State.setFlag]
  simp only [Effect.applyAll, Effect.applySingle, Condition.holds, State.flagIsSet, found]
  rfl

/-- However a document spells them, the object that sets a flag to a scalar is read as the effect
that stores it, and the object that tests the flag against the scalar as the condition that tests
for it. In every state the condition holds behind the effect exactly if the scalar is not the
number zero.

Nothing is assumed of the flag, which may have any name and any value before, nor of the scalar or
the state. The condition is judged with any value assumed of malformed ones, as this one is not.

Proof: both objects are taken by their readers, whatever spells them, and behind the effect the
test compares the two truths of one scalar. -/
theorem set_flag_passes_own_test_iff (flag : String) (scalar : Scalar) :
    (∀ text, (scalar.setsFlag flag).SpelledBy text →
        Reader.document Effect.reader text = .ok (.setFlag flag scalar.stored)) ∧
      (∀ text, (scalar.testsFlag flag).SpelledBy text →
        Reader.document Condition.reader text = .ok (.hasFlag flag scalar.tested)) ∧
      ∀ assumed state, (Condition.hasFlag flag scalar.tested).holds assumed
          (Effect.applyAll [.setFlag flag scalar.stored] state).2 = true ↔
        scalar.isZero = false := by
  refine ⟨fun text spelled => ?_, fun text spelled => ?_, fun assumed state => ?_⟩
  · exact Reader.document_of_spelledBy (scalar.takes_setsFlag flag)
      (scalar.shallow_object "SET_FLAG" flag) spelled
  · exact Reader.document_of_spelledBy (scalar.takes_testsFlag flag)
      (scalar.shallow_object "HAS_FLAG" flag) spelled
  · rw [holds_after_setFlag, beq_iff_eq]
    exact scalar.isSet_stored_iff

/-- A lamp that is set to zero does not pass the test against zero. It is stored as the text of one
digit, which counts as set, while the test asks for a flag that does not. -/
theorem lamp_set_to_zero_is_not_zero :
    let setting := "\x7b\"type\":\"SET_FLAG\",\"flag\":\"lamp\",\"value\":0\x7d"
    let test := "\x7b\"type\":\"HAS_FLAG\",\"flag\":\"lamp\",\"value\":0\x7d"
    Reader.document Effect.reader setting = .ok (.setFlag "lamp" (.text "0")) ∧
      Reader.document Condition.reader test = .ok (.hasFlag "lamp" false) ∧
      (Condition.hasFlag "lamp" false).holds Condition.assumedInPlay
        (Effect.applyAll [.setFlag "lamp" (.text "0")] (.fresh {} "hall")).2 = false := by
  intro setting test
  let zero : Scalar := .number (.integer 0)
  have kept : zero.toJson.Exact := .integer ⟨by decide, by decide⟩
  have exact (tag : String) :
      (Value.object [("type", .text tag), ("flag", .text "lamp"), ("value", zero.toJson)]).Exact :=
    .object (by simp [Value.Exact.text, kept])
  refine ⟨?_, ?_, by decide⟩
  · exact Reader.document_of_spelledBy (zero.takes_setsFlag "lamp")
      (zero.shallow_object "SET_FLAG" "lamp") (Value.spelledBy_compact (exact "SET_FLAG"))
  · exact Reader.document_of_spelledBy (zero.takes_testsFlag "lamp")
      (zero.shallow_object "HAS_FLAG" "lamp") (Value.spelledBy_compact (exact "HAS_FLAG"))

end Scalar

end Storyline
