import Storyline.Json.Outline
import Storyline.Table

/-!
# Readers

A reader takes an outline to a thing of the story or refuses it. Readers look at a
document from left to right and stop at the first fault or mismatch. A value of
the wrong kind is refused as soon as it shows: an array or an object at its
opening bracket, anything else when it has been scanned.
-/

namespace Storyline.Json

/-- What a value shows at its outermost level. -/
def Value.face : Value → Face
  | .null => .null
  | .bool value => .bool value
  | .number value => .number value
  | .text value => .text value
  | .array _ => .sequence
  | .object _ => .map

namespace Outline

/-- What an outline shows at its outermost level. -/
def face : Outline → Except Fault Face
  | .null => .ok .null
  | .bool value => .ok (.bool value)
  | .number reading => reading.map .number
  | .text reading => reading.map .text
  | .array .. => .ok .sequence
  | .object .. => .ok .map
  | .broken place => .error place.reading

/-- A level of nesting that readers still enter. -/
def enter (level : Nat) : Except Fault Unit :=
  if level ≤ 127 then .ok () else .error .malformed

/-- The closing bracket, or the fault in its place. -/
def close : Option Fault → Except Fault Unit
  | none => .ok ()
  | some fault => .error fault

end Outline

/-- A member's name, where only names may stand. -/
def Key.name : Key → Except Fault String
  | .text reading => reading
  | .cut place => .error place.reading
  | .other => .error .malformed

/-- A member's name that is passed over. -/
def Key.skip : Key → Except Fault Unit
  | .text _ => .ok ()
  | .cut place => .error place.skipping
  | .other => .error .malformed

namespace Outline

mutual

/-- The whole value, with every part of it read. -/
def complete : Outline → Except Fault Value
  | .null => .ok .null
  | .bool value => .ok (.bool value)
  | .number reading => reading.map .number
  | .text reading => reading.map .text
  | .array level items ending => do
    enter level
    let values ← completeItems items
    close ending
    return .array values
  | .object level members ending => do
    enter level
    let values ← completeMembers members
    close ending
    return .object values
  | .broken place => .error place.reading

/-- All items, read in order. -/
def completeItems : List Outline → Except Fault (List Value)
  | [] => .ok []
  | first :: rest => do
    let value ← complete first
    let values ← completeItems rest
    return value :: values

/-- All members, read in order. -/
def completeMembers : List (Key × Outline) → Except Fault (List (String × Value))
  | [] => .ok []
  | (key, first) :: rest => do
    let name ← key.name
    let value ← complete first
    let values ← completeMembers rest
    return (name, value) :: values

end

mutual

/-- Passes over a value. Neither its nesting nor its numbers and surrogates are
looked at. -/
def skip : Outline → Except Fault Unit
  | .null | .bool _ | .number _ | .text _ => .ok ()
  | .array _ items ending => do
    skipItems items
    close ending
  | .object _ members ending => do
    skipMembers members
    close ending
  | .broken place => .error place.skipping

/-- Passes over items in order. -/
def skipItems : List Outline → Except Fault Unit
  | [] => .ok ()
  | first :: rest => do
    skip first
    skipItems rest

/-- Passes over members in order. -/
def skipMembers : List (Key × Outline) → Except Fault Unit
  | [] => .ok ()
  | (key, first) :: rest => do
    key.skip
    skip first
    skipMembers rest

end

end Outline

/-- A fault as a reason to refuse. -/
def orFault {α : Type} (found : Except Fault α) : Except Refusal α := found.mapError .fault

/-- A mismatch as a reason to refuse. -/
def orMismatch {α : Type} (found : Except Mismatch α) : Except Refusal α :=
  found.mapError .mismatch

/-- Refuses for one mismatch. -/
def refuse {α : Type} (mismatch : Mismatch) : Except Refusal α := .error (.mismatch mismatch)

namespace Face

/-- A text. -/
def asText : Face → Except Mismatch String
  | .text value => .ok value
  | other => .error (.wrongType other "a string")

/-- A truth value. -/
def asBool : Face → Except Mismatch Bool
  | .bool value => .ok value
  | other => .error (.wrongType other "a boolean")

/-- A signed integer of 64 bits. -/
def asWord : Face → Except Mismatch Int64
  | .number (.integer value) =>
    match Decimal.word? value with
    | some word => .ok word
    | none => .error (.wrongValue (.number (.integer value)) "i64")
  | other => .error (.wrongType other "i64")

/-- An unsigned integer of 64 bits, under the name that its type goes by. -/
def asNatural (wanted : String) : Face → Except Mismatch Nat
  | .number (.integer value) =>
    if 0 ≤ value then .ok value.toNat
    else .error (.wrongValue (.number (.integer value)) wanted)
  | other => .error (.wrongType other wanted)

/-- The name of an alternative. -/
def asTag : Face → Except Mismatch String
  | .text name => .ok name
  | other => .error (.wrongType other "variant identifier")

end Face

/-- Takes an outline to a thing, or refuses it. -/
abbrev Reader (α : Type) : Type := Outline → Except Refusal α

namespace Reader

variable {α : Type}

/-- Refuses an outline by what it shows. -/
def wrongType (wanted : String) : Reader α := fun outline => do
  let face ← orFault outline.face
  refuse (.wrongType face wanted)

/-- A reader that needs no more than what an outline shows. -/
def scalar (read : Face → Except Mismatch α) : Reader α := fun outline => do
  let face ← orFault outline.face
  orMismatch (read face)

/-- A text. -/
def text : Reader String := scalar Face.asText

/-- A truth value. -/
def bool : Reader Bool := scalar Face.asBool

/-- A signed integer of 64 bits. -/
def word : Reader Int64 := scalar Face.asWord

/-- An unsigned integer of 64 bits. -/
def natural (wanted : String) : Reader Nat := scalar (Face.asNatural wanted)

/-- Nothing for null. -/
def optional (read : Reader α) : Reader (Option α)
  | .null => .ok none
  | outline => (read outline).map some

/-- All items of an array. -/
def list (read : Reader α) : Reader (List α)
  | .array level items ending => do
    orFault (Outline.enter level)
    let things ← items.mapM read
    orFault (Outline.close ending)
    return things
  | outline => wrongType "a sequence" outline

/-- All members of an object; of equal names the last one counts. -/
def table (read : Reader α) : Reader (Table α)
  | .object level members ending => do
    orFault (Outline.enter level)
    let things ← members.foldlM (fun (table : Table α) (key, value) => do
      let name ← orFault key.name
      let thing ← read value
      return table.insert name thing) ∅
    orFault (Outline.close ending)
    return things
  | outline => wrongType "a map" outline

/-- A whole document. Nothing but gaps may follow its value. -/
def document (read : Reader α) (source : String) : Except Refusal α := do
  let (outline, behind) := Outline.ofText source
  let thing ← read outline
  if behind.isEmpty then return thing else .error (.fault .malformed)

end Reader

end Storyline.Json
