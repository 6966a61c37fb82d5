import Storyline.Json.Alternative
import Storyline.Json.Record
import Storyline.Play.Outcome

/-!
# Outcomes in documents

Events and state fields are named alternatives.
-/

namespace Storyline

open Json

/-- Reads the name of a state field. -/
def StateField.reader : Reader StateField :=
  Reader.alternative (all.map fun field => .constant field.name field)

/-- A state field by its name. -/
def StateField.toJson (field : StateField) : Value := .text field.name

namespace Event

/-- The fields of a flag event. -/
def flagFields : List (Field Outline (String × Flag)) :=
  [.required "flag" Reader.text fun flag pair => (flag, pair.2),
    .required "value" Flag.reader fun value pair => (pair.1, value)]

/-- The field of an event about an item that came. -/
def itemFields : List (Field Outline String) := [.required "item" Reader.text fun item _ => item]

/-- The fields of an event about an item that went. -/
def removalFields : List (Field Outline (String × Nat)) :=
  [.required "item" Reader.text fun item pair => (item, pair.2),
    .required "count" (Reader.natural "usize") fun count pair => (pair.1, count)]

/-- The field of an event about a state field. -/
def valueFields : List (Field Outline StateField) :=
  [.required "field" StateField.reader fun field _ => field]

/-- Reads an event. -/
def reader : Reader Event :=
  Reader.alternative
    [.record "FlagSet" fun outline =>
        (Reader.record "struct variant StateEvent::FlagSet" flagFields ("", .bool true)
          outline).map fun (flag, value) => .flagSet flag value,
      .record "ItemAdded" fun outline =>
        (Reader.record "struct variant StateEvent::ItemAdded" itemFields "" outline).map .itemAdded,
      .record "ItemRemoved" fun outline =>
        (Reader.record "struct variant StateEvent::ItemRemoved" removalFields ("", 0)
          outline).map fun (item, count) => .itemRemoved item count,
      .record "ValueSet" fun outline =>
        (Reader.record "struct variant StateEvent::ValueSet" valueFields .day outline).map
          .valueSet,
      .constant "RestartRequested" .restartRequested]

/-- An event as an alternative. -/
def toJson : Event → Value
  | .flagSet flag value =>
    .object [("FlagSet", .object [("flag", .text flag), ("value", value.toJson)])]
  | .itemAdded item => .object [("ItemAdded", .object [("item", .text item)])]
  | .itemRemoved item count =>
    .object [("ItemRemoved", .object [("item", .text item), ("count", .ofNat count)])]
  | .valueSet field => .object [("ValueSet", .object [("field", field.toJson)])]
  | .restartRequested => .text "RestartRequested"

end Event

namespace Outcome

/-- The fields of an outcome. -/
def fields : List (Field Outline Outcome) :=
  [.required "events" (Reader.list Event.reader) fun value outcome =>
      { outcome with events := value },
    .required "ignored" (Reader.natural "usize") fun value outcome =>
      { outcome with ignored := value },
    .required "restart" Reader.bool fun value outcome => { outcome with restart := value }]

/-- Reads an outcome. -/
def reader : Reader Outcome := Reader.record "struct EffectOutcome" fields {}

/-- An outcome as an object. -/
def toJson (outcome : Outcome) : Value :=
  .object [("events", .ofList Event.toJson outcome.events), ("ignored", .ofNat outcome.ignored),
    ("restart", .bool outcome.restart)]

end Outcome

end Storyline
