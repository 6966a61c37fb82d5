/-!
# JSON values

A number is an integer as long as it is written without a point and without a
power and fits 64 bits, signed or unsigned; any other number is floating-point.
The members of an object keep their order.
-/

namespace Storyline.Json

/-- A number by the way it is kept. -/
inductive Number where
  | integer (value : Int)
  | real (value : Float)

/-- A JSON document in memory. -/
inductive Value where
  | null
  | bool (value : Bool)
  | number (value : Number)
  | text (value : String)
  | array (items : List Value)
  | object (members : List (String × Value))

namespace Value

/-- The JSON number of an integer. -/
def ofInt (value : Int) : Value := .number (.integer value)

/-- The JSON number of a natural number. -/
def ofNat (value : Nat) : Value := .number (.integer value)

/-- The value itself, or null if there is none. -/
def ofOption {α : Type} (write : α → Value) : Option α → Value
  | none => .null
  | some value => write value

/-- The array of some things, each written on its own. -/
def ofList {α : Type} (write : α → Value) (things : List α) : Value := .array (things.map write)

end Value

/-- One member, or no member for an absent thing. -/
def memberIfPresent {α : Type} (name : String) (write : α → Value) (thing : Option α) :
    List (String × Value) :=
  match thing with
  | none => []
  | some value => [(name, write value)]

/-- One member that holds a list, or no member for an empty list. -/
def memberUnlessEmpty {α : Type} (name : String) (write : α → Value) (things : List α) :
    List (String × Value) :=
  if things.isEmpty then [] else [(name, Value.ofList write things)]

end Storyline.Json
