import Storyline.Play.Outcome.Document
import Storyline.Play.Scene

/-!
# Resolutions in documents

Kinds, endings and resolutions are named alternatives; a scene and a resolution
with its outcome are records in which only what is optional may be left out.
-/

namespace Storyline

open Json

/-- Reads a kind of scene. -/
def SceneKind.reader : Reader SceneKind :=
  Reader.alternative [.constant "Choice" .choice, .constant "Input" .input]

/-- A kind of scene by its name. -/
def SceneKind.toJson : SceneKind → Value
  | .choice => .text "Choice"
  | .input => .text "Input"

/-- Reads an ending. -/
def Ending.reader : Reader Ending :=
  Reader.alternative [.constant "Death" .death, .constant "Win" .win]

/-- An ending by its name. -/
def Ending.toJson : Ending → Value
  | .death => .text "Death"
  | .win => .text "Win"

/-- Reads a visible choice. -/
def VisibleChoice.reader : Reader VisibleChoice :=
  Reader.record "struct VisibleChoice"
    [.required "index" (Reader.natural "usize") fun value choice => { choice with index := value },
      .required "text" Reader.text fun value choice => { choice with text := value }] ⟨0, ""⟩

/-- A visible choice as an object. -/
def VisibleChoice.toJson (choice : VisibleChoice) : Value :=
  .object [("index", .ofNat choice.index), ("text", .text choice.text)]

namespace Scene

/-- The fields of a scene. -/
def fields : List (Field Outline Scene) :=
  [.required "id" Reader.text fun value scene => { scene with id := value },
    .required "kind" SceneKind.reader fun value scene => { scene with kind := value },
    .required "text" Reader.text fun value scene => { scene with text := value },
    .required "choices" (Reader.list VisibleChoice.reader) fun value scene =>
      { scene with choices := value },
    .required "can_advance" Reader.bool fun value scene => { scene with canAdvance := value },
    .asNothing "variable" (Reader.optional Reader.text) fun value scene =>
      { scene with variableName := value },
    .asNothing "location" (Reader.optional Reader.text) fun value scene =>
      { scene with location := value },
    .asNothing "image" (Reader.optional Reader.text) fun value scene =>
      { scene with image := value }]

/-- Reads a scene. -/
def reader : Reader Scene :=
  Reader.record "struct Scene" fields { id := "", kind := .choice, text := "" }

/-- A scene as an object. -/
def toJson (scene : Scene) : Value :=
  .object [("id", .text scene.id), ("kind", scene.kind.toJson), ("text", .text scene.text),
    ("choices", .ofList VisibleChoice.toJson scene.choices),
    ("can_advance", .bool scene.canAdvance),
    ("variable", .ofOption .text scene.variableName),
    ("location", .ofOption .text scene.location),
    ("image", .ofOption .text scene.image)]

end Scene

namespace Resolution

/-- Reads a resolution. -/
def reader : Reader Resolution :=
  Reader.alternative
    [.wrapper "Interactive" fun outline => (Scene.reader outline).map .interactive,
      .record "Terminal" fun outline =>
        (Reader.record "struct variant Resolution::Terminal"
          [.required "ending" Ending.reader fun value pair => (value, pair.2),
            .required "message" Reader.text fun value pair => (pair.1, value)]
          (Ending.death, "") outline).map fun (ending, message) => .terminal ending message,
      .constant "Restart" .restart]

/-- A resolution as an alternative. -/
def toJson : Resolution → Value
  | .interactive scene => .object [("Interactive", scene.toJson)]
  | .terminal ending message =>
    .object [("Terminal", .object [("ending", ending.toJson), ("message", .text message)])]
  | .restart => .text "Restart"

end Resolution

namespace Resolved

/-- Reads a resolution with its outcome and path. -/
def reader : Reader Resolved :=
  Reader.record "struct Resolved"
    [.required "resolution" Resolution.reader fun value resolved =>
        { resolved with resolution := value },
      .required "outcome" Outcome.reader fun value resolved => { resolved with outcome := value },
      .required "path" (Reader.list Reader.text) fun value resolved =>
        { resolved with path := value }] { resolution := .restart }

/-- A resolution with its outcome and path as an object. -/
def toJson (resolved : Resolved) : Value :=
  .object [("resolution", resolved.resolution.toJson), ("outcome", resolved.outcome.toJson),
    ("path", .ofList .text resolved.path)]

end Resolved

end Storyline
