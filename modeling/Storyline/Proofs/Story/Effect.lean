import Storyline.Proofs.Json.Reader
import Storyline.Story.Effect.Document

/-!
# Effects as they are written

An effect is written as an object that starts with its tag, and is read back from it. Only
a setting that is a floating-point number is left out of account: its digits are not
followed here.
-/

namespace Storyline

open Json

/-- A flag is written without numbers. A flag that was set to a number is kept as a text and is
written as one. -/
theorem Flag.exact_toJson (flag : Flag) : flag.toJson.Exact := by
  cases flag with
  | bool value => exact .bool value
  | text value => exact .text value

namespace Effect

/-- Whether an effect sets something to a floating-point number. Every other effect is written and
read back without a floating-point digit. -/
def setsReal : Effect → Bool
  | .setValue _ (.real _) => true
  | _ => false

/-- A setting that is no floating-point number is read back from memory. An integer comes back as
the integer it is, whatever its size; a text and a truth value are kept as they stand. -/
theorem ofFace_toJson {property : String} {setting : Setting}
    (exact : (setValue property setting).setsReal = false) :
    Setting.ofFace setting.toJson.face = .ok setting := by
  cases setting with
  | integer value =>
    simp only [Setting.toJson, Value.ofInt, Value.face, Setting.ofFace, Reader.word?_toInt]
  | real number => cases exact
  | text value => rfl
  | bool value => rfl

/-- What a tag and its members mean is read of their object. The tag is known first, and the
members behind it are not named like it. -/
theorem takes_object {tag : String} {members : List (String × Value)} {effect : Effect}
    (untagged : ∀ member ∈ members, member.1 ≠ "type")
    (means : ofTagged tag (.members members) = .ok effect) :
    reader.Takes (.object (("type", .text tag) :: members)) effect := by
  intro level shallow
  rw [reader, Reader.takes_tagged _ _ untagged level shallow]
  exact means

/-- An effect is read back from a document. It is assumed only that no floating-point number is
set; an effect that is unknown stays one.

Proof: by cases of the effect. The members of each are filled into its fields in the order they are
written in; only a setting has a value of more than one kind, and its reading is a lemma of its
own. -/
theorem takes_toJson {effect : Effect} (exact : effect.setsReal = false) :
    reader.Takes effect.toJson effect := by
  cases effect with
  | setFlag flag value =>
    refine takes_object (by simp) ?_
    cases value <;> rfl
  | addItem item => exact takes_object (by simp) rfl
  | removeItem item => exact takes_object (by simp) rfl
  | setValue property value =>
    have kept := ofFace_toJson exact
    have filled : (Body.members [("property", .text property), ("value", value.toJson)]).record
        "struct variant Effect::SetValue" settingFields ("", .integer 0) = .ok (property, value) := by
      have taken : orMismatch (Setting.ofFace value.toJson.face) = .ok value := by
        rw [kept, orMismatch_ok]
      exact Body.record_two rfl rfl rfl rfl (Field.read_byDefault taken) rfl
    refine takes_object (by simp) ?_
    simp only [ofTagged, filled]
    rfl
  | restart => exact takes_object (by simp) rfl
  | unknown => exact takes_object (by simp) rfl

/-- An effect is written without floating-point numbers if it sets nothing to one. An integer that
is set is the one number an effect may be written with. -/
theorem exact_toJson {effect : Effect} (exact : effect.setsReal = false) : effect.toJson.Exact := by
  cases effect with
  | setFlag flag value => exact .object (by simp [Value.Exact.text, value.exact_toJson])
  | addItem item => exact .object (by simp [Value.Exact.text])
  | removeItem item => exact .object (by simp [Value.Exact.text])
  | setValue property value =>
    have setting : value.toJson.Exact := by
      cases value with
      | integer value => exact exact_ofInt value
      | real number => cases exact
      | text value => exact .text value
      | bool value => exact .bool value
    exact .object (by simp [Value.Exact.text, setting])
  | restart => exact .object (by simp [Value.Exact.text])
  | unknown => exact .object (by simp [Value.Exact.text])

end Effect

end Storyline
