import Storyline.Story.Effect.Document
import Storyline.Story.Node
import Storyline.Story.Text.Document

/-!
# Nodes in documents

A document has one flat record for all kinds of nodes; the field `type` tells the
kind, and fields of other kinds are read but not kept. A node without a type, or
of an unknown one, is a scene with choices. A link that is null or empty is no
link. Written records leave out whatever is absent or empty.
-/

namespace Storyline

open Json

/-- Reads a link. -/
def linkReader : Reader (Option NodeId) := fun outline =>
  (Reader.optional Reader.text outline).map fun link => link.filter fun id => !id.isEmpty

/-- A word as a JSON number. -/
def wordToJson (word : Int64) : Value := .ofInt word.toInt

namespace Choice

/-- The fields of a choice. -/
def fields : List (Field Outline Choice) :=
  [.byDefault "text" Reader.text fun value choice => { choice with text := value },
    .byDefault "next" linkReader fun value choice => { choice with next := value },
    .byDefault "condition" (Reader.optional Condition.reader) fun value choice =>
      { choice with condition := value },
    .byDefault "effects" (Reader.list Effect.reader) fun value choice =>
      { choice with effects := value },
    .byDefault "timeCost" (Reader.optional Reader.word) fun value choice =>
      { choice with timeCost := value },
    .byDefault "deathMessage" (Reader.optional Reader.text) fun value choice =>
      { choice with deathMessage := value },
    .byDefault "winMessage" (Reader.optional Reader.text) fun value choice =>
      { choice with winMessage := value }]

/-- Reads a choice. -/
def reader : Reader Choice := Reader.record "struct Choice" fields {}

/-- A choice as an object. -/
def toJson (choice : Choice) : Value :=
  .object (("text", .text choice.text) ::
    memberIfPresent "next" .text choice.next ++
    memberIfPresent "condition" Condition.toJson choice.condition ++
    memberUnlessEmpty "effects" Effect.toJson choice.effects ++
    memberIfPresent "timeCost" wordToJson choice.timeCost ++
    memberIfPresent "deathMessage" .text choice.deathMessage ++
    memberIfPresent "winMessage" .text choice.winMessage)

end Choice

namespace SceneInfo

/-- The fields of the shared part of scenes. -/
def fields : List (Field Outline SceneInfo) :=
  [.byDefault "location" (Reader.optional Reader.text) fun value scene =>
      { scene with location := value },
    .byDefault "image" (Reader.optional Reader.text) fun value scene =>
      { scene with image := value },
    .byDefault "timeSet" (Reader.optional Reader.word) fun value scene =>
      { scene with timeSet := value },
    .byDefault "effects" (Reader.list Effect.reader) fun value scene =>
      { scene with effects := value }]

/-- Reads the shared part of scenes. -/
def reader : Reader SceneInfo := Reader.record "struct SceneInfo" fields {}

/-- The shared part of scenes as an object of its own, with every field. -/
def toJson (scene : SceneInfo) : Value :=
  .object [("location", .ofOption .text scene.location),
    ("image", .ofOption .text scene.image),
    ("timeSet", .ofOption wordToJson scene.timeSet),
    ("effects", .ofList Effect.toJson scene.effects)]

/-- The shared part of scenes as members of a node. -/
def toMembers (scene : SceneInfo) : List (String × Value) :=
  memberUnlessEmpty "effects" Effect.toJson scene.effects ++
    memberIfPresent "location" .text scene.location ++
    memberIfPresent "image" .text scene.image ++
    memberIfPresent "timeSet" wordToJson scene.timeSet

end SceneInfo

/-- The flat record of a node of any kind. -/
structure NodeRecord where
  kind : Option String := none
  text : Option SceneText := none
  choices : List Choice := []
  next : Option NodeId := none
  variableName : Option String := none
  condition : Option Condition := none
  nextTrue : Option NodeId := none
  nextFalse : Option NodeId := none
  deathMessage : Option String := none
  winMessage : Option String := none
  scene : SceneInfo := {}

namespace NodeRecord

/-- The fields of the flat record. -/
def fields : List (Field Outline NodeRecord) :=
  [.byDefault "type" (Reader.optional Reader.text) fun value node => { node with kind := value },
    .byDefault "text" (Reader.optional SceneText.reader) fun value node =>
      { node with text := value },
    .byDefault "choices" (Reader.list Choice.reader) fun value node =>
      { node with choices := value },
    .byDefault "next" linkReader fun value node => { node with next := value },
    .byDefault "variable" (Reader.optional Reader.text) fun value node =>
      { node with variableName := value },
    .byDefault "condition" (Reader.optional Condition.reader) fun value node =>
      { node with condition := value },
    .byDefault "nextTrue" linkReader fun value node => { node with nextTrue := value },
    .byDefault "nextFalse" linkReader fun value node => { node with nextFalse := value },
    .byDefault "deathMessage" (Reader.optional Reader.text) fun value node =>
      { node with deathMessage := value },
    .byDefault "winMessage" (Reader.optional Reader.text) fun value node =>
      { node with winMessage := value },
    .byDefault "effects" (Reader.list Effect.reader) fun value node =>
      { node with scene := { node.scene with effects := value } },
    .byDefault "location" (Reader.optional Reader.text) fun value node =>
      { node with scene := { node.scene with location := value } },
    .byDefault "image" (Reader.optional Reader.text) fun value node =>
      { node with scene := { node.scene with image := value } },
    .byDefault "timeSet" (Reader.optional Reader.word) fun value node =>
      { node with scene := { node.scene with timeSet := value } }]

/-- The node that a record describes. -/
def toNode (node : NodeRecord) : Node :=
  match node.kind with
  | some "logic" => .logic ⟨node.condition, node.nextTrue, node.nextFalse⟩
  | some "death" => .death node.deathMessage
  | some "win" => .win node.winMessage
  | some "input" =>
    .input ⟨node.text.getD (.plain ""), node.variableName, node.next, node.scene⟩
  | _ => .choice ⟨node.text.getD (.plain ""), node.choices, node.next, node.scene⟩

end NodeRecord

namespace Node

/-- Reads a node. -/
def reader : Reader Node := fun outline =>
  (Reader.record "struct RawNode" NodeRecord.fields {} outline).map NodeRecord.toNode

/-- The members of a node's record behind its type. -/
def toMembers : Node → List (String × Value)
  | .choice node =>
    ("text", node.text.toJson) ::
      memberUnlessEmpty "choices" Choice.toJson node.choices ++
      memberIfPresent "next" .text node.next ++ node.scene.toMembers
  | .input node =>
    ("text", node.text.toJson) ::
      memberIfPresent "next" .text node.next ++
      memberIfPresent "variable" .text node.variableName ++ node.scene.toMembers
  | .logic node =>
    memberIfPresent "condition" Condition.toJson node.condition ++
      memberIfPresent "nextTrue" .text node.nextTrue ++
      memberIfPresent "nextFalse" .text node.nextFalse
  | .death message => memberIfPresent "deathMessage" .text message
  | .win message => memberIfPresent "winMessage" .text message

/-- A node as an object. -/
def toJson (node : Node) : Value := .object (("type", .text node.typeName) :: node.toMembers)

end Node

end Storyline
