import Storyline.Json.Printer
import Storyline.Story.Graph
import Storyline.Story.Node.Document

/-!
# Graphs in documents

Every part of a graph may be left out of its document. The start may also stand
under `startNodeId`. A graph is written with a line for every item and member and
with its nodes in the order of their names.
-/

namespace Storyline.Graph

open Json

/-- The parts of a graph. -/
def parts : List (Field Outline Graph) :=
  [.byDefault "title" (Reader.optional Reader.text) fun value graph =>
      { graph with title := value },
    { Field.byDefault "startNode" Reader.text fun value graph => { graph with start := value } with
      otherName := some "startNodeId" },
    .byDefault "nodes" (Reader.table Node.reader) fun value graph => { graph with nodes := value }]

/-- Reads a graph. -/
def reader : Reader Graph := Reader.record "struct StoryGraph" parts {}

/-- The graph that a text describes. -/
def ofText (text : String) : Except Refusal Graph := Reader.document reader text

/-- A graph as an object. -/
def toJson (graph : Graph) : Value :=
  .object (memberIfPresent "title" .text graph.title ++
    [("startNode", .text graph.start),
      ("nodes", .object (graph.nodes.entries.map fun entry => (entry.1, entry.2.toJson)))])

/-- A graph as a text. -/
def toText (graph : Graph) : String := graph.toJson.indented

end Storyline.Graph
