import Storyline.Json.Reader

/-!
# Named alternatives

A named alternative is written by its name alone, or as an object with its name as
the only member and its contents under it. Anything else is no JSON for this
purpose.
-/

namespace Storyline.Json

/-- One of several named alternatives: what its bare name means, and how to read
what stands under its name. -/
structure Alternative (α : Type) where
  name : String
  bare : Except Mismatch α
  body : Reader α

namespace Alternative

variable {α : Type}

/-- An alternative that is nothing but its name. -/
def constant (name : String) (thing : α) : Alternative α :=
  { name, bare := .ok thing,
    body := Reader.scalar fun
      | .null => .ok thing
      | other => .error (.wrongType other "unit") }

/-- An alternative with fields of its own. -/
def record (name : String) (read : Reader α) : Alternative α :=
  { name, bare := .error (.wrongType .unitVariant "struct variant"), body := read }

/-- An alternative that wraps one thing. -/
def wrapper (name : String) (read : Reader α) : Alternative α :=
  { name, bare := .error (.wrongType .unitVariant "newtype variant"), body := read }

/-- The alternative of a given name. -/
def named (alternatives : List (Alternative α)) (name : String) :
    Except Refusal (Alternative α) :=
  match alternatives.find? (·.name == name) with
  | some alternative => .ok alternative
  | none => refuse (.unknownVariant name (alternatives.map (·.name)))

end Alternative

/-- One of several named alternatives. Only a text or an object with one member
can be one; anything else is no JSON for this purpose. -/
def Reader.alternative {α : Type} (alternatives : List (Alternative α)) : Reader α
  | .text reading => do
    let name ← orFault reading
    let chosen ← Alternative.named alternatives name
    orMismatch chosen.bare
  | .object level members ending => do
    orFault (Outline.enter level)
    match members with
    | [] =>
      orFault (Outline.close ending)
      .error (.fault .malformed)
    | (key, value) :: more =>
      let name ← orFault key.name
      let chosen ← Alternative.named alternatives name
      let thing ← chosen.body value
      if more.isEmpty then
        orFault (Outline.close ending)
        return thing
      else .error (.fault .malformed)
  | .broken place => .error (.fault place.naming)
  | _ => .error (.fault .malformed)

end Storyline.Json
