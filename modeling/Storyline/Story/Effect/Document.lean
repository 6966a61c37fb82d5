import Storyline.Json.Tagged
import Storyline.Story.Effect

/-!
# Effects in documents

An effect is a tagged value. An unknown tag makes an unknown effect, whatever else
the value holds. A setting is whatever scalar the document gives: an integer that
fits a signed word, another number, a text or a truth value.
-/

namespace Storyline

open Json

/-- A setting from what a value shows. -/
def Setting.ofFace : Face → Except Mismatch Setting
  | .number (.integer value) =>
    match Decimal.word? value with
    | some word => .ok (.integer word)
    | none => .ok (.real (Float.ofInt value))
  | .number (.real value) => .ok (.real value)
  | .text value => .ok (.text value)
  | .bool value => .ok (.bool value)
  | _ => .error (.noVariant "SettingValue")

/-- Reads a setting. The value is taken into memory as a whole before it is looked
at. -/
def Setting.reader : Reader Setting := fun outline => do
  let value ← orFault outline.complete
  orMismatch (Setting.ofFace value.face)

/-- A setting as a scalar. -/
def Setting.toJson : Setting → Value
  | .integer value => .ofInt value.toInt
  | .real value => .number (.real value)
  | .text value => .text value
  | .bool value => .bool value

namespace Effect

/-- A field that holds a text. -/
def textField {σ : Type} (name : String) (set : String → σ → σ) : Field Value σ :=
  .required name (fun value => orMismatch value.face.asText) set

/-- The fields of a flag effect. Without a value the flag becomes true. -/
def flagFields : List (Field Value (String × Flag)) :=
  [textField "flag" fun flag pair => (flag, pair.2),
    .byDefault "value" (fun value => orMismatch value.face.asFlag) fun value pair =>
      (pair.1, value)]

/-- The field of an item effect. -/
def itemFields : List (Field Value String) := [textField "item" fun item _ => item]

/-- The fields of a setting effect. Without a value the setting is zero. -/
def settingFields : List (Field Value (String × Setting)) :=
  [textField "property" fun property pair => (property, pair.2),
    .byDefault "value" (fun value => orMismatch (Setting.ofFace value.face)) fun value pair =>
      (pair.1, value)]

/-- The effect of a tagged value. Effects without fields accept any members, but
no items. -/
def ofTagged (tag : String) (body : Body) : Except Refusal Effect :=
  match tag with
  | "SET_FLAG" => do
    let (flag, value) ← body.record "struct variant Effect::SetFlag" flagFields ("", .bool true)
    return .setFlag flag value
  | "ADD_ITEM" => (body.record "struct variant Effect::AddItem" itemFields "").map .addItem
  | "REMOVE_ITEM" =>
    (body.record "struct variant Effect::RemoveItem" itemFields "").map .removeItem
  | "SET_VALUE" => do
    let (property, value) ←
      body.record "struct variant Effect::SetValue" settingFields ("", .integer 0)
    return .setValue property value
  | "RESTART" => (body.record "unit variant Effect::Restart" [] ()).map fun _ => .restart
  | _ => (body.record "unit variant Effect::Unknown" [] ()).map fun _ => .unknown

/-- Reads an effect. -/
def reader : Reader Effect := fun outline => do
  let (tag, body) ← Reader.tagged "internally tagged enum Effect" outline
  ofTagged tag body

/-- An effect as an object. -/
def toJson : Effect → Value
  | .setFlag flag value =>
    .object [("type", .text "SET_FLAG"), ("flag", .text flag), ("value", value.toJson)]
  | .addItem item => .object [("type", .text "ADD_ITEM"), ("item", .text item)]
  | .removeItem item => .object [("type", .text "REMOVE_ITEM"), ("item", .text item)]
  | .setValue property value =>
    .object [("type", .text "SET_VALUE"), ("property", .text property), ("value", value.toJson)]
  | .restart => .object [("type", .text "RESTART")]
  | .unknown => .object [("type", .text "UNKNOWN")]

end Effect

end Storyline
