import Storyline.Proofs.Story.Condition
import Storyline.Story.Text.Document

/-!
# Scene texts as they are written

A scene text is written as a text or as an array of its variants, and read back from
either. A variant without a guard is written without one.
-/

namespace Storyline

open Json

namespace Variant

/-- A variant is read back from memory. A guard that is missing is left out, and is missing again
when it is read. -/
theorem ofValue_toJson (variant : Variant) : ofValue variant.toJson = .ok variant := by
  obtain ⟨content, guard⟩ := variant
  cases guard with
  | none => rfl
  | some condition =>
    have inner := condition.ofValue_toJson
    obtain ⟨kind, members, tagged, -⟩ := condition.toJson_eq_tagged
    rw [toJson, memberIfPresent, ofValue, Body.record, Body.foldlM_known rfl rfl rfl]
    rw [tagged] at inner ⊢
    rw [Body.foldlM_known rfl rfl (Field.read_byDefault (congrArg (Except.map some) inner))]
    rfl

/-- A variant is written without numbers. Its guard is a condition, which is written without
numbers, too. -/
theorem exact_toJson (variant : Variant) : variant.toJson.Exact := by
  obtain ⟨content, guard⟩ := variant
  cases guard with
  | none => exact .object (by simp [memberIfPresent, Value.Exact.text])
  | some condition =>
    exact .object (by simp [memberIfPresent, Value.Exact.text, condition.exact_toJson])

end Variant

namespace SceneText

/-- A scene text is read back from memory. A plain text stays a plain text, and a list of variants
stays one, also if it is empty or has a single variant. -/
theorem ofValue_toJson (text : SceneText) : ofValue text.toJson = .ok text := by
  cases text with
  | plain text => rfl
  | variants options =>
    have all : (options.map Variant.toJson).mapM Variant.ofValue = .ok options :=
      mapM_map_ok fun variant _ => variant.ofValue_toJson
    rw [toJson, Value.ofList, ofValue, all]

/-- A scene text is read back from a document. A document is looked at in outline first, since a
text may be of either form; a scene text that is not too deep has a complete outline. -/
theorem takes_toJson (text : SceneText) : reader.Takes text.toJson text := by
  intro level shallow
  rw [reader, Outline.complete_outline shallow, orFault_ok, ok_bind, ofValue_toJson, orMismatch_ok]

/-- A scene text is written without numbers. This holds of both forms. -/
theorem exact_toJson (text : SceneText) : text.toJson.Exact := by
  cases text with
  | plain text => exact .text text
  | variants options =>
    refine .array fun value member => ?_
    obtain ⟨variant, -, rfl⟩ := List.mem_map.mp member
    exact variant.exact_toJson

/-- A scene text that may be missing is read back if it is there. Neither form is null, which would
stand for a scene text that is missing. -/
theorem takes_some (text : SceneText) :
    (Reader.optional reader).Takes text.toJson (some text) := by
  refine Reader.takes_optional text.takes_toJson fun same => ?_
  cases text <;> cases same

end SceneText

end Storyline
