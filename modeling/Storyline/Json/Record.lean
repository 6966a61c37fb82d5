import Storyline.Json.Reader

/-!
# Records

A record is read from an object by the names of its fields, or from an array by
their order. Fields are filled in the order of the document, a field given twice
is refused when its second name shows, and unknown members are passed over. What
happens to a field that is missing is the field's own affair.
-/

namespace Storyline.Json

/-- What a missing field means: its default value; nothing, for a name that is
missing in an object but not for an item missing in an array; or a refusal. -/
inductive Absence where
  | byDefault
  | asNothing
  | refused
  deriving DecidableEq

/-- A field of a record `σ`, read from a value of type `ν`. -/
structure Field (ν σ : Type) where
  name : String
  read : ν → Except Refusal (σ → σ)
  absence : Absence
  otherName : Option String := none

namespace Field

variable {ν σ α : Type}

/-- A field that keeps its default value when it is missing. -/
def byDefault (name : String) (read : ν → Except Refusal α) (set : α → σ → σ) : Field ν σ :=
  { name, read := fun value => (read value).map set, absence := .byDefault }

/-- A field that may be left out of an object. -/
def asNothing (name : String) (read : ν → Except Refusal α) (set : α → σ → σ) : Field ν σ :=
  { name, read := fun value => (read value).map set, absence := .asNothing }

/-- A field that has to be there. -/
def required (name : String) (read : ν → Except Refusal α) (set : α → σ → σ) : Field ν σ :=
  { name, read := fun value => (read value).map set, absence := .refused }

/-- Whether a member's name means the field. -/
def answersTo (field : Field ν σ) (name : String) : Bool :=
  field.name == name || field.otherName == some name

end Field

/-- A record in the making: the names of the fields seen so far, and the record
with these fields filled. -/
structure Draft (σ : Type) where
  seen : List String
  record : σ

namespace Draft

variable {ν σ : Type}

/-- Fills the field that a member's name means. -/
def fill (fields : List (Field ν σ)) (skip : ν → Except Refusal Unit) (draft : Draft σ)
    (name : String) (value : ν) : Except Refusal (Draft σ) :=
  match fields.find? (·.answersTo name) with
  | none => do
    skip value
    return draft
  | some field =>
    if draft.seen.contains field.name then refuse (.duplicateField field.name)
    else do
      let set ← field.read value
      return ⟨field.name :: draft.seen, set draft.record⟩

/-- The finished record, unless a field that has to be there is missing. -/
def finish (fields : List (Field ν σ)) (draft : Draft σ) : Except Refusal σ :=
  match fields.find? fun field =>
      decide (field.absence = .refused) && !draft.seen.contains field.name with
  | some field => refuse (.missingField field.name)
  | none => .ok draft.record

end Draft

/-- Fills fields from items in order, and gives back the items left over. `count`
tells how many have been used and `atEnd` what refuses the end of the items. -/
def fillInOrder {ν σ : Type} (title : String) (size : Nat) (atEnd : Except Refusal Unit)
    (count : Nat) (record : σ) : List (Field ν σ) → List ν → Except Refusal (σ × List ν)
  | [], rest => .ok (record, rest)
  | field :: fields, value :: rest => do
    let set ← field.read value
    fillInOrder title size atEnd (count + 1) (set record) fields rest
  | field :: fields, [] => do
    atEnd
    if field.absence = .byDefault then
      fillInOrder title size atEnd count record fields []
    else refuse (.wrongLength count (title ++ " with " ++ elementCount size))

/-- A record that is read straight from the document, from either form. -/
def Reader.record {σ : Type} (title : String) (fields : List (Field Outline σ)) (blank : σ) :
    Reader σ
  | .object level members ending => do
    orFault (Outline.enter level)
    let draft ← members.foldlM (fun (draft : Draft σ) (key, value) => do
      let name ← orFault key.name
      draft.fill fields (fun value => orFault value.skip) name value) ⟨[], blank⟩
    orFault (Outline.close ending)
    draft.finish fields
  | .array level items ending => do
    orFault (Outline.enter level)
    let (record, extra) ← fillInOrder title fields.length (orFault (Outline.close ending)) 0
      blank fields items
    if extra.isEmpty then
      orFault (Outline.close ending)
      return record
    else .error (.fault .malformed)
  | outline => Reader.wrongType title outline

end Storyline.Json
