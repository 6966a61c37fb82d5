import Storyline.Story.Condition.Document
import Storyline.Story.Text

/-!
# Scene texts in documents

A scene text is a text or an array of variants. The value is taken into memory as
a whole; whatever is wrong inside it, the refusal only says that it is no scene
text.
-/

namespace Storyline

open Json

namespace Variant

/-- The fields of a variant that is read straight from the document. -/
def fields : List (Field Outline Variant) :=
  [.byDefault "content" Reader.text fun value variant => { variant with content := value },
    .byDefault "condition" (Reader.optional Condition.reader) fun value variant =>
      { variant with condition := value }]

/-- The fields of a variant in memory. -/
def fieldsInMemory : List (Field Value Variant) :=
  [.byDefault "content" (fun value => orMismatch value.face.asText) fun value variant =>
      { variant with content := value },
    .byDefault "condition" (fun
      | .null => .ok none
      | value => (Condition.ofValue value).map some) fun value variant =>
      { variant with condition := value }]

/-- How messages call a variant. -/
def title : String := "struct TextVariant"

/-- Reads a variant. -/
def reader : Reader Variant := Reader.record title fields {}

/-- The variant that a value in memory holds. -/
def ofValue : Value → Except Refusal Variant
  | .object members => (Body.members members).record title fieldsInMemory {}
  | .array items => (Body.items items).record title fieldsInMemory {}
  | other => refuse (.wrongType other.face title)

/-- A variant as an object. -/
def toJson (variant : Variant) : Value :=
  .object (("content", .text variant.content) ::
    memberIfPresent "condition" Condition.toJson variant.condition)

end Variant

namespace SceneText

/-- The scene text that a value in memory holds. -/
def ofValue : Value → Except Mismatch SceneText
  | .text text => .ok (.plain text)
  | .array items =>
    match items.mapM Variant.ofValue with
    | .ok options => .ok (.variants options)
    | .error _ => .error (.noVariant "TextEntry")
  | _ => .error (.noVariant "TextEntry")

/-- Reads a scene text. -/
def reader : Reader SceneText := fun outline => do
  let value ← orFault outline.complete
  orMismatch (ofValue value)

/-- A scene text as a text or an array. -/
def toJson : SceneText → Value
  | .plain text => .text text
  | .variants options => .ofList Variant.toJson options

end SceneText

end Storyline
