import Storyline.State.Clock
import Storyline.State.Flag
import Storyline.State.Setup

/-!
# The state of a session

Everything that play remembers: flags, the items held in the order in which they
came, day and clock, the player's name, the scene last entered, and extra fields
that input scenes fill. Removing an item removes every copy of it.
-/

namespace Storyline

/-- The name of a node of the story. The empty name stands for no node in links
that come from a document. -/
abbrev NodeId : Type := String

/-- What a session remembers. -/
structure State where
  flags : Table Flag := ∅
  inventory : List String := []
  day : Int64
  minutes : Int64
  playerName : String
  currentScene : NodeId
  fields : Table String := ∅
  deriving BEq

/-- The fixed fields that a story may write. -/
inductive StateField where
  | day
  | minutes
  | playerName
  deriving DecidableEq

namespace StateField

/-- A field's name in a story. -/
def name : StateField → String
  | .day => "dayIndex"
  | .minutes => "timeMinutes"
  | .playerName => "playerName"

/-- All fields, in the order in which messages list them. -/
def all : List StateField := [.day, .minutes, .playerName]

/-- The field of a name. -/
def named? (name : String) : Option StateField := all.find? (·.name == name)

end StateField

namespace State

/-- The state of a session that has not begun. -/
def fresh (setup : Setup) (start : NodeId) : State :=
  { day := setup.startDay, minutes := setup.startMinutes, playerName := setup.playerName,
    currentScene := start }

/-- Whether a flag is set. -/
def flagIsSet (state : State) (name : String) : Bool := (state.flags.get? name).any Flag.isSet

/-- The state with one flag written. -/
def setFlag (state : State) (name : String) (value : Flag) : State :=
  { state with flags := state.flags.insert name value }

/-- Whether an item is held. -/
def hasItem (state : State) (item : String) : Bool := state.inventory.contains item

/-- The number of copies of an item. -/
def itemCount (state : State) (item : String) : Nat := state.inventory.count item

/-- The state with one more copy of an item. -/
def addItem (state : State) (item : String) : State :=
  { state with inventory := state.inventory ++ [item] }

/-- The state without any copy of an item. -/
def removeItem (state : State) (item : String) : State :=
  { state with inventory := state.inventory.filter (· != item) }

/-- The time of day. -/
def timeOfDay (state : State) : String := Clock.timeOfDay state.minutes

/-- The state some minutes later. -/
def advance (state : State) (minutes : Int64) : State :=
  { state with minutes := Clock.advanced state.minutes minutes }

/-- The first two letters of the day and the time of day. -/
def clockLabel (state : State) (setup : Setup) : String :=
  String.ofList ((setup.dayName state.day).toList.take 2) ++ " " ++ state.timeOfDay

/-- The text of a field: of a fixed one, or of an extra one of that name. -/
def fieldText (state : State) (name : String) : Option String :=
  match name with
  | "playerName" => some state.playerName
  | "dayIndex" => some (String.ofList (Json.writeInteger state.day.toInt))
  | "timeMinutes" => some (String.ofList (Json.writeInteger state.minutes.toInt))
  | "currentScene" => some state.currentScene
  | "inventory" => some (",".intercalate state.inventory)
  | name => state.fields.get? name

end State

end Storyline
