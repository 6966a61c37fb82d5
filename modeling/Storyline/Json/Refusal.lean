import Storyline.Decimal.Written
import Storyline.Json.Value
import Storyline.Text.Quoted

/-!
# Why a document is refused

A document is refused either because its text is not JSON, or because it is JSON
of another shape than wanted. A text that is not JSON is malformed or ends too
early; such a fault has no wording. A mismatch tells what was found and what was
wanted.
-/

namespace Storyline.Json

/-- How a text fails to be JSON. -/
inductive Fault where
  | malformed
  | truncated
  deriving DecidableEq

/-- What is found at the outermost level of a value. `unitVariant` is the bare name
of an alternative. -/
inductive Face where
  | null
  | bool (value : Bool)
  | number (value : Number)
  | text (value : String)
  | sequence
  | map
  | unitVariant

/-- How a value fails to have the shape that is wanted. -/
inductive Mismatch where
  | wrongType (found : Face) (wanted : String)
  | wrongValue (found : Face) (wanted : String)
  | wrongLength (length : Nat) (wanted : String)
  | missingField (name : String)
  | duplicateField (name : String)
  | unknownVariant (name : String) (known : List String)
  | noVariant (enumeration : String)

/-- Why a document is refused. -/
inductive Refusal where
  | fault (fault : Fault)
  | mismatch (mismatch : Mismatch)

/-- What was found, in the words of a message. -/
def Face.wording : Face → String
  | .null => "null"
  | .bool value => "boolean `" ++ toString value ++ "`"
  | .number (.integer value) => "integer `" ++ toString value ++ "`"
  | .number (.real value) =>
    "floating point `" ++ String.ofList (Decimal.documentForm.write value) ++ "`"
  | .text value => "string " ++ Text.quoted value
  | .sequence => "sequence"
  | .map => "map"
  | .unitVariant => "unit variant"

/-- Names to choose from: one alone, two joined by "or", more in a list. -/
def choiceOf (names : List String) : String :=
  let ticked := names.map fun name => "`" ++ name ++ "`"
  match ticked with
  | [only] => only
  | [first, second] => first ++ " or " ++ second
  | several => "one of " ++ ", ".intercalate several

/-- The wording of a mismatch. -/
def Mismatch.message : Mismatch → String
  | .wrongType found wanted => "invalid type: " ++ found.wording ++ ", expected " ++ wanted
  | .wrongValue found wanted => "invalid value: " ++ found.wording ++ ", expected " ++ wanted
  | .wrongLength length wanted => "invalid length " ++ toString length ++ ", expected " ++ wanted
  | .missingField name => "missing field `" ++ name ++ "`"
  | .duplicateField name => "duplicate field `" ++ name ++ "`"
  | .unknownVariant name known =>
    "unknown variant `" ++ name ++ "`, expected " ++ choiceOf known
  | .noVariant enumeration => "data did not match any variant of untagged enum " ++ enumeration

/-- The wording of a refusal. -/
def Refusal.message : Refusal → String
  | .fault .malformed => "JSON error: malformed text"
  | .fault .truncated => "JSON error: the text ends too early"
  | .mismatch why => "JSON error: " ++ why.message

/-- The count of a record's fields or a sequence's items, with its noun. -/
def elementCount (count : Nat) : String :=
  toString count ++ if count = 1 then " element" else " elements"

end Storyline.Json
