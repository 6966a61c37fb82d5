import Storyline.Story.Node

/-!
# Story graphs

A graph is the start node's name and all nodes under their names. The start may
name a node that does not exist, and so may every link.
-/

namespace Storyline

/-- A whole story. -/
structure Graph where
  title : Option String := none
  start : NodeId := ""
  nodes : Table Node := ∅
  deriving BEq

namespace Graph

/-- The node of a name. -/
def node? (graph : Graph) (id : NodeId) : Option Node := graph.nodes.get? id

/-- Whether a node of a name exists. -/
def contains (graph : Graph) (id : NodeId) : Bool := graph.nodes.contains id

/-- A name with a node is in the graph. Looking up and asking go to one table. -/
theorem contains_of_node? {graph : Graph} {id : NodeId} {node : Node}
    (found : graph.node? id = some node) : graph.contains id = true := by
  unfold contains Table.contains
  exact Option.isSome_of_mem found

/-- A name without a node is not. -/
theorem not_contains_of_node? {graph : Graph} {id : NodeId} (absent : graph.node? id = none) :
    ¬ graph.contains id = true := by
  intro contained
  obtain ⟨node, found⟩ := Option.isSome_iff_exists.mp contained
  cases absent.symm.trans found

/-- A name is not in a graph exactly if it has no node. -/
theorem contains_eq_false_iff {graph : Graph} {id : NodeId} :
    graph.contains id = false ↔ graph.node? id = none := by
  rw [← Bool.not_eq_true]
  exact Option.not_isSome_iff_eq_none

/-- The start node, if it exists. -/
def startNode? (graph : Graph) : Option Node := graph.node? graph.start

/-- The graph with one node added or replaced. -/
def insert (graph : Graph) (id : NodeId) (node : Node) : Graph :=
  { graph with nodes := graph.nodes.insert id node }

end Graph

end Storyline
