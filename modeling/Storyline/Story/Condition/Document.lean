import Storyline.Json.Tagged
import Storyline.Story.Condition

/-!
# Conditions in documents

A condition is a tagged value. An unknown tag makes an unknown condition, whatever
else the value holds. The value a flag is compared with may be any scalar and is
taken by its truth: numbers other than zero and texts other than the empty one are
true, and so is null. Inside a value that is already in memory a tag may also be
given as the position of a type in the list of types.
-/

namespace Storyline.Condition

open Json

/-- The types of conditions. -/
inductive Kind where
  | hasFlag
  | hasItem
  | all
  | any
  | negation
  | unknown
  deriving DecidableEq

namespace Kind

/-- The type's tag. -/
def tag : Kind → String
  | .hasFlag => "HAS_FLAG"
  | .hasItem => "HAS_ITEM"
  | .all => "AND"
  | .any => "OR"
  | .negation => "NOT"
  | .unknown => "UNKNOWN"

/-- The types with tags of their own, in order. -/
def known : List Kind := [.hasFlag, .hasItem, .all, .any, .negation]

/-- The type that a tag means. -/
def ofTag (tag : String) : Kind := (known.find? (·.tag == tag)).getD .unknown

/-- The type that a tag in memory means. -/
def ofFace : Face → Except Mismatch Kind
  | .text tag => .ok (ofTag tag)
  | .number (.integer position) =>
    if 0 ≤ position then .ok ((known[position.toNat]?).getD .unknown)
    else .error (.wrongType (.number (.integer position)) "variant identifier")
  | other => .error (.wrongType other "variant identifier")

end Kind

/-- The truth of a scalar that a flag is compared with. -/
def truthOf : Face → Except Mismatch Bool
  | .bool value => .ok value
  | .number (.integer value) => .ok (value != 0)
  | .number (.real value) => .ok (value != 0 && !value.isNaN)
  | .text value => .ok (!value.isEmpty)
  | .null => .ok true
  | other => .error (.wrongType other "a boolean or a scalar")

/-- How messages call a flag condition. -/
def flagTitle : String := "struct variant Condition::HasFlag"

/-- How messages call an item condition. -/
def itemTitle : String := "struct variant Condition::HasItem"

/-- The fields of a flag condition: the flag and the value compared with. -/
def flagFields : List (Field Value (String × Bool)) :=
  [.required "flag" (fun value => orMismatch value.face.asText) fun flag pair => (flag, pair.2),
    .byDefault "value" (fun value => orMismatch (truthOf value.face)) fun truth pair =>
      (pair.1, truth)]

/-- The field of an item condition. -/
def itemFields : List (Field Value String) :=
  [.required "item" (fun value => orMismatch value.face.asText) fun item _ => item]

/-- Refuses items beyond the one that a type has a field for, or beyond none. -/
def refuseExtra (fields : Nat) (items : List Value) : Except Refusal Unit :=
  if items.length ≤ fields then .ok ()
  else refuse (.wrongLength items.length (elementCount fields ++ " in sequence"))

/-- Refuses a second member of a name. -/
def refuseAgain (name : String) (rest : List (String × Value)) : Except Refusal Unit :=
  if rest.any (·.1 == name) then refuse (.duplicateField name) else .ok ()

/-- The type that the member `type` gives. -/
def kindIn : List (String × Value) → Except Refusal Kind
  | [] => refuse (.missingField "type")
  | (name, value) :: rest =>
    if name = "type" then do
      let kind ← orMismatch (Kind.ofFace value.face)
      refuseAgain "type" rest
      return kind
    else kindIn rest

/-- The condition of a type, given its body and what the body holds in the place
of a list of conditions and in the place of a single one. -/
def assemble (kind : Kind) (body : Body) (list : Unit → Except Refusal (List Condition))
    (child : Unit → Except Refusal (Option Condition)) : Except Refusal Condition :=
  match kind with
  | .hasFlag => do
    let (flag, value) ← body.record flagTitle flagFields ("", true)
    return .hasFlag flag value
  | .hasItem => do
    let item ← body.record itemTitle itemFields ""
    return .hasItem item
  | .all => (list ()).map .all
  | .any => (list ()).map .any
  | .negation => (child ()).map .negation
  | .unknown =>
    match body with
    | .members _ => .ok .unknown
    | .items items => (refuseExtra 0 items).map fun _ => .unknown

mutual

/-- The condition that a value in memory holds. -/
def ofValue : Value → Except Refusal Condition
  | .object members => do
    let kind ← kindIn members
    assemble kind (.members members) (fun _ => listIn members) (fun _ => childIn members)
  | .array [] => refuse (.missingField "type")
  | .array (tag :: items) => do
    let kind ← orMismatch (Kind.ofFace tag.face)
    assemble kind (.items items) (fun _ => listAt items) (fun _ => childAt items)
  | other => refuse (.wrongType other.face "internally tagged enum Condition")

/-- The conditions that the items of an array hold. -/
def ofValues : List Value → Except Refusal (List Condition)
  | [] => .ok []
  | first :: rest => do
    let condition ← ofValue first
    let conditions ← ofValues rest
    return condition :: conditions

/-- The conditions of an array. -/
def listOf : Value → Except Refusal (List Condition)
  | .array items => ofValues items
  | other => refuse (.wrongType other.face "a sequence")

/-- The conditions under the member `conditions`; none if it is missing. -/
def listIn : List (String × Value) → Except Refusal (List Condition)
  | [] => .ok []
  | (name, value) :: rest =>
    if name = "conditions" then do
      let conditions ← listOf value
      refuseAgain "conditions" rest
      return conditions
    else listIn rest

/-- The conditions in the only item; none if it is missing. -/
def listAt : List Value → Except Refusal (List Condition)
  | [] => .ok []
  | first :: rest => do
    let conditions ← listOf first
    refuseExtra 1 (first :: rest)
    return conditions

/-- The condition under the member `condition`, if there is one. -/
def childIn : List (String × Value) → Except Refusal (Option Condition)
  | [] => .ok none
  | (name, value) :: rest =>
    if name = "condition" then do
      let child ← match value with
        | .null => .ok none
        | _ => (ofValue value).map some
      refuseAgain "condition" rest
      return child
    else childIn rest

/-- The condition in the only item, if there is one. -/
def childAt : List Value → Except Refusal (Option Condition)
  | [] => .ok none
  | first :: rest => do
    let child ← match first with
      | .null => .ok none
      | _ => (ofValue first).map some
    refuseExtra 1 (first :: rest)
    return child

end

/-- The condition of a tagged value. -/
def ofTagged (tag : String) (body : Body) : Except Refusal Condition :=
  match body with
  | .members members =>
    assemble (Kind.ofTag tag) body (fun _ => listIn members) (fun _ => childIn members)
  | .items items =>
    assemble (Kind.ofTag tag) body (fun _ => listAt items) (fun _ => childAt items)

/-- Reads a condition. -/
def reader : Reader Condition := fun outline => do
  let (tag, body) ← Reader.tagged "internally tagged enum Condition" outline
  ofTagged tag body

mutual

/-- A condition as an object. The value true of a flag condition, and what a
negation lacks, are left out. -/
def toJson : Condition → Value
  | .hasFlag flag value =>
    .object ([("type", .text Kind.hasFlag.tag), ("flag", .text flag)] ++
      if value then [] else [("value", .bool false)])
  | .hasItem item => .object [("type", .text Kind.hasItem.tag), ("item", .text item)]
  | .all conditions =>
    .object [("type", .text Kind.all.tag), ("conditions", .array (toJsons conditions))]
  | .any conditions =>
    .object [("type", .text Kind.any.tag), ("conditions", .array (toJsons conditions))]
  | .negation (some condition) =>
    .object [("type", .text Kind.negation.tag), ("condition", toJson condition)]
  | .negation none => .object [("type", .text Kind.negation.tag)]
  | .unknown => .object [("type", .text Kind.unknown.tag)]

/-- Conditions as objects. -/
def toJsons : List Condition → List Value
  | [] => []
  | first :: rest => toJson first :: toJsons rest

end

end Storyline.Condition
