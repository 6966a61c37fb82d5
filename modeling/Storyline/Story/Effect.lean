import Storyline.State.Basic
import Storyline.Text.Blank

/-!
# Effects

An effect is one change that a story can make to the state. A value for a state
field may come as a number or as text, and is turned into what the field holds:
for day and clock an integer, if the value can be read as one, and for the
player's name a text. Effects of an unknown type do nothing.
-/

namespace Storyline

/-- A value for a state field, as the story gives it. -/
inductive Setting where
  | integer (value : Int64)
  | real (value : Float)
  | text (value : String)
  | bool (value : Bool)
  deriving BEq

namespace Setting

/-- The value as an integer: a finite number loses its fraction, a text is read
without the blanks around it, and a truth value is no number. -/
def toInteger? : Setting → Option Int64
  | .integer value => some value
  | .real value => if value.isFinite then some (Decimal.truncated value) else none
  | .text value => Decimal.toInteger? (Text.trimmed value.toList)
  | .bool _ => none

/-- The value as a text. -/
def toText : Setting → String
  | .integer value => String.ofList (Json.writeInteger value.toInt)
  | .real value => String.ofList (Decimal.textForm.write value)
  | .text value => value
  | .bool value => toString value

/-- The value as a message shows it, with its kind in front. -/
def shown : Setting → String
  | .integer value => "Integer(" ++ String.ofList (Json.writeInteger value.toInt) ++ ")"
  | .real value => "Float(" ++ String.ofList (Decimal.documentForm.write value) ++ ")"
  | .text value => "Text(" ++ Text.quoted value ++ ")"
  | .bool value => "Bool(" ++ toString value ++ ")"

end Setting

/-- One change to the state. -/
inductive Effect where
  | setFlag (flag : String) (value : Flag)
  | addItem (item : String)
  | removeItem (item : String)
  | setValue (property : String) (value : Setting)
  | restart
  | unknown
  deriving BEq

namespace Effect

/-- The effect that writes a state field. -/
def setField (field : StateField) (value : Setting) : Effect := .setValue field.name value

/-- Whether an effect concerns the inventory. -/
def touchesInventory : Effect → Bool
  | .addItem _ | .removeItem _ => true
  | _ => false

end Effect

end Storyline
