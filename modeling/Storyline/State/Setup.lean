import Storyline.Json.Printer
import Storyline.Json.Record

/-!
# How a session is set up

A setup gives a fresh state its player, day and time, names the days, provides the
text that stands in for an unset flag, and sets the pace of the reveal. In a
document every part may be left out; the parts below are the defaults.
-/

namespace Storyline

/-- How fast text is revealed: the milliseconds between two ticks, and the steps
taken in one tick. -/
structure Pace where
  tickMilliseconds : Nat := 10
  stepsPerTick : Nat := 1
  deriving DecidableEq

/-- The pace with at least one step for each tick. -/
def Pace.ofSteps (tickMilliseconds steps : Nat) : Pace := ⟨tickMilliseconds, max steps 1⟩

/-- What a session starts with. -/
structure Setup where
  playerName : String := "Player"
  startDay : Int64 := 0
  startMinutes : Int64 := 480
  dayNames : List String :=
    ["Monday", "Tuesday", "Wednesday", "Thursday", "Friday", "Saturday", "Sunday"]
  overflowDayName : String := "Weekend"
  unsetFlagToken : String := "onbekend"
  pace : Pace := {}
  deriving DecidableEq

/-- The name of a day, or the overflow name for a day that has none. -/
def Setup.dayName (setup : Setup) (day : Int64) : String :=
  if day.toInt < 0 then setup.overflowDayName
  else (setup.dayNames[day.toInt.toNat]?).getD setup.overflowDayName

namespace Pace

/-- The fields of a pace in a document. -/
def fields : List (Json.Field Json.Outline Pace) :=
  [.byDefault "tickIntervalMs" (Json.Reader.natural "u64") fun value pace =>
      { pace with tickMilliseconds := value },
    .byDefault "charsPerTick" (Json.Reader.natural "usize") fun value pace =>
      { pace with stepsPerTick := value }]

/-- Reads a pace. -/
def reader : Json.Reader Pace := Json.Reader.record "struct RevealConfig" fields {}

/-- A pace as an object. -/
def toJson (pace : Pace) : Json.Value :=
  .object [("tickIntervalMs", .ofNat pace.tickMilliseconds),
    ("charsPerTick", .ofNat pace.stepsPerTick)]

end Pace

namespace Setup

/-- The fields of a setup in a document. -/
def fields : List (Json.Field Json.Outline Setup) :=
  [.byDefault "playerName" Json.Reader.text fun value setup => { setup with playerName := value },
    .byDefault "startDay" Json.Reader.word fun value setup => { setup with startDay := value },
    .byDefault "startTimeMinutes" Json.Reader.word fun value setup =>
      { setup with startMinutes := value },
    .byDefault "dayNames" (Json.Reader.list Json.Reader.text) fun value setup =>
      { setup with dayNames := value },
    .byDefault "overflowDayName" Json.Reader.text fun value setup =>
      { setup with overflowDayName := value },
    .byDefault "unsetFlagToken" Json.Reader.text fun value setup =>
      { setup with unsetFlagToken := value },
    .byDefault "reveal" Pace.reader fun value setup => { setup with pace := value }]

/-- Reads a setup. -/
def reader : Json.Reader Setup := Json.Reader.record "struct SessionConfig" fields {}

/-- A setup as an object. -/
def toJson (setup : Setup) : Json.Value :=
  .object [("playerName", .text setup.playerName),
    ("startDay", .ofInt setup.startDay.toInt),
    ("startTimeMinutes", .ofInt setup.startMinutes.toInt),
    ("dayNames", .ofList .text setup.dayNames),
    ("overflowDayName", .text setup.overflowDayName),
    ("unsetFlagToken", .text setup.unsetFlagToken),
    ("reveal", setup.pace.toJson)]

end Setup

end Storyline
