import Storyline.State.Basic

/-!
# States in documents

A state is written as one object. The order in which flags and fields are written
is free; by default it is the order of their names.
-/

namespace Storyline

/-- Named things as the members of an object, in the order given. -/
def membersOf {α : Type} (write : α → Json.Value) (entries : List (String × α)) : Json.Value :=
  .object (entries.map fun entry => (entry.1, write entry.2))

namespace State

/-- A state as an object, with its flags and fields in a given order. -/
def toJsonInOrder (flags : List (String × Flag)) (fields : List (String × String))
    (state : State) : Json.Value :=
  .object [("flags", membersOf Flag.toJson flags),
    ("inventory", .ofList .text state.inventory),
    ("dayIndex", .ofInt state.day.toInt),
    ("timeMinutes", .ofInt state.minutes.toInt),
    ("playerName", .text state.playerName),
    ("currentScene", .text state.currentScene),
    ("fields", membersOf .text fields)]

/-- A state as an object. -/
def toJson (state : State) : Json.Value :=
  state.toJsonInOrder state.flags.entries state.fields.entries

/-- The parts of a state in a document. Only the extra fields may be left out. -/
def parts : List (Json.Field Json.Outline State) :=
  [.required "flags" (Json.Reader.table Flag.reader) fun value state =>
      { state with flags := value },
    .required "inventory" (Json.Reader.list Json.Reader.text) fun value state =>
      { state with inventory := value },
    .required "dayIndex" Json.Reader.word fun value state => { state with day := value },
    .required "timeMinutes" Json.Reader.word fun value state => { state with minutes := value },
    .required "playerName" Json.Reader.text fun value state => { state with playerName := value },
    .required "currentScene" Json.Reader.text fun value state =>
      { state with currentScene := value },
    .byDefault "fields" (Json.Reader.table Json.Reader.text) fun value state =>
      { state with fields := value }]

/-- Reads a state. -/
def reader : Json.Reader State :=
  Json.Reader.record "struct GameState" parts
    { day := 0, minutes := 0, playerName := "", currentScene := "" }

end State

end Storyline
