import Storyline.Json.Printer
import Storyline.Json.Reader

/-!
# Flags

A flag holds a truth value or a text. It counts as set if it is true or a text
that is not empty. A document may give any scalar: a number is kept as the text
that writes it out, and null is false.
-/

namespace Storyline

/-- What is stored under a flag. -/
inductive Flag where
  | bool (value : Bool)
  | text (value : String)
  deriving DecidableEq

namespace Flag

/-- Whether a flag counts as set. -/
def isSet : Flag → Bool
  | .bool value => value
  | .text value => !value.isEmpty

/-- A flag as it is shown in a text. -/
def shown : Flag → String
  | .bool value => toString value
  | .text value => value

/-- A flag as a JSON scalar. -/
def toJson : Flag → Json.Value
  | .bool value => .bool value
  | .text value => .text value

end Flag

/-- A number written out in running text. -/
def Json.Number.inText : Json.Number → String
  | .integer value => String.ofList (Json.writeInteger value)
  | .real value => String.ofList (Decimal.textForm.write value)

/-- A flag from a scalar of any kind. -/
def Json.Face.asFlag : Json.Face → Except Json.Mismatch Flag
  | .bool value => .ok (.bool value)
  | .text value => .ok (.text value)
  | .number value => .ok (.text value.inText)
  | .null => .ok (.bool false)
  | other => .error (.wrongType other "a boolean or a string")

/-- Reads a flag. -/
def Flag.reader : Json.Reader Flag := Json.Reader.scalar Json.Face.asFlag

end Storyline
