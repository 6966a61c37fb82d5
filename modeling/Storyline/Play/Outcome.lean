import Storyline.Story.Effect

/-!
# What effects do

Effects are applied in order. Each one changes the state, is ignored for a reason,
or asks for a restart, which ends the list. An outcome lists the changes in the
order in which they were made, counts what was ignored, and tells whether a
restart was asked for.
-/

namespace Storyline

/-- A change made to the state. Removal tells how many copies there were. -/
inductive Event where
  | flagSet (flag : String) (value : Flag)
  | itemAdded (item : String)
  | itemRemoved (item : String) (count : Nat)
  | valueSet (field : StateField)
  | restartRequested
  deriving DecidableEq

/-- Whether an event concerns the inventory. -/
def Event.isInventoryChange : Event → Bool
  | .itemAdded _ | .itemRemoved _ _ => true
  | _ => false

/-- Why an effect does nothing. -/
inductive Ignored where
  | notWritable (property : String)
  | notANumber (value : Setting) (field : StateField)
  | unknownType

/-- The reason in words. -/
def Ignored.reason : Ignored → String
  | .notWritable property => "property '" ++ property ++ "' is not writable"
  | .notANumber value field => value.shown ++ " is not a number for '" ++ field.name ++ "'"
  | .unknownType => "unknown effect type"

/-- What one effect comes to. -/
inductive Applied where
  | changed (event : Event)
  | ignored (why : Ignored)
  | restart

/-- What a list of effects comes to. -/
structure Outcome where
  events : List Event := []
  ignored : Nat := 0
  restart : Bool := false
  deriving DecidableEq

namespace Outcome

/-- Whether any event concerns the inventory. -/
def inventoryChanged (outcome : Outcome) : Bool := outcome.events.any Event.isInventoryChange

/-- One outcome after another. -/
def merge (first second : Outcome) : Outcome :=
  ⟨first.events ++ second.events, first.ignored + second.ignored, first.restart || second.restart⟩

end Outcome

/-- Writes a number to a numeric field, if the value is one. -/
def State.setNumber (state : State) (field : StateField) (value : Setting)
    (write : Int64 → State) : Applied × State :=
  match value.toInteger? with
  | some number => (.changed (.valueSet field), write number)
  | none => (.ignored (.notANumber value field), state)

namespace Effect

/-- Applies one effect. -/
def applySingle (effect : Effect) (state : State) : Applied × State :=
  match effect with
  | .setFlag flag value => (.changed (.flagSet flag value), state.setFlag flag value)
  | .addItem item => (.changed (.itemAdded item), state.addItem item)
  | .removeItem item =>
    (.changed (.itemRemoved item (state.itemCount item)), state.removeItem item)
  | .setValue property value =>
    match StateField.named? property with
    | none => (.ignored (.notWritable property), state)
    | some .day => state.setNumber .day value fun number => { state with day := number }
    | some .minutes => state.setNumber .minutes value fun number => { state with minutes := number }
    | some .playerName =>
      (.changed (.valueSet .playerName), { state with playerName := value.toText })
  | .restart => (.restart, state)
  | .unknown => (.ignored .unknownType, state)

/-- Applies effects in order, up to the first restart. -/
def applyAll : List Effect → State → Outcome × State
  | [], state => ({}, state)
  | first :: rest, state =>
    match first.applySingle state with
    | (.changed event, next) =>
      let (outcome, last) := applyAll rest next
      ({ outcome with events := event :: outcome.events }, last)
    | (.ignored _, next) =>
      let (outcome, last) := applyAll rest next
      ({ outcome with ignored := outcome.ignored + 1 }, last)
    | (.restart, next) => (⟨[.restartRequested], 0, true⟩, next)

end Effect

end Storyline
