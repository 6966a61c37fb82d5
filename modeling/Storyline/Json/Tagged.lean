import Storyline.Json.Record

/-!
# Tagged values

A tagged value is an object whose member `type` names an alternative, or an array
that starts with the name. It is taken into memory as a whole, apart from its tag,
before its fields are looked at; these are then read from what is in memory.
-/

namespace Storyline.Json

/-- What a tagged value holds besides its tag. -/
inductive Body where
  | members (members : List (String × Value))
  | items (items : List Value)

/-- A record that is read from a body in memory. -/
def Body.record {σ : Type} (title : String) (fields : List (Field Value σ)) (blank : σ) :
    Body → Except Refusal σ
  | .members written => do
    let draft ← written.foldlM (fun (draft : Draft σ) (name, value) =>
      draft.fill fields (fun _ => .ok ()) name value) ⟨[], blank⟩
    draft.finish fields
  | .items written => do
    let (record, extra) ← fillInOrder title fields.length (.ok ()) 0 blank fields written
    if extra.isEmpty then return record
    else refuse (.wrongLength written.length (elementCount fields.length ++ " in sequence"))

/-- A tagged value: its tag and everything else in it. -/
def Reader.tagged (title : String) : Reader (String × Body)
  | .object level members ending => do
    orFault (Outline.enter level)
    let found ← members.foldlM (fun (found : Option String × List (String × Value))
        (key, value) => do
      let name ← orFault key.name
      if name = "type" then
        if found.1.isSome then refuse (.duplicateField "type")
        else
          let tag ← Reader.scalar Face.asTag value
          return (some tag, found.2)
      else
        let value ← orFault value.complete
        return (found.1, found.2 ++ [(name, value)])) (none, [])
    orFault (Outline.close ending)
    match found with
    | (none, _) => refuse (.missingField "type")
    | (some tag, members) => return (tag, .members members)
  | .array level items ending => do
    orFault (Outline.enter level)
    match items with
    | [] =>
      orFault (Outline.close ending)
      refuse (.missingField "type")
    | first :: rest =>
      let tag ← Reader.scalar Face.asTag first
      let values ← orFault (Outline.completeItems rest)
      orFault (Outline.close ending)
      return (tag, .items values)
  | outline => Reader.wrongType title outline

end Storyline.Json
