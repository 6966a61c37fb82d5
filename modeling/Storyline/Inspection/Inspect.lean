import Storyline.Inspection.Reachability
import Storyline.Inspection.Report
import Storyline.Play.Narrator

/-!
# Inspecting a story

An inspection looks at a graph without playing it. It reports a start that does
not exist, nodes that cannot be reached, nodes without a way out, links without a
target or to no node, and conditions and effects that are not known. Without a
start nothing is called unreachable. The targets `death` and `win` need no node,
except behind a branch.
-/

namespace Storyline.Graph

/-- The start does not exist. -/
def startFindings (graph : Graph) : List Finding :=
  if graph.start.isEmpty then [⟨graph.start, .missingStart, "no start node is set"⟩]
  else if graph.contains graph.start then []
  else [⟨graph.start, .missingStart, "start node '" ++ graph.start ++ "' does not exist"⟩]

/-- Nodes that cannot be reached. -/
def reachFindings (graph : Graph) : List Finding :=
  if graph.contains graph.start then
    let reachable := graph.reachable
    (graph.nodes.names.filter fun id => !reachable.contains id).map fun id =>
      ⟨id, .unreachable, "not reachable from the start node"⟩
  else []

/-- A node without a way out. -/
def exitFindings (id : NodeId) (node : Node) : List Finding :=
  if node.isTerminal || node.hasExit then []
  else
    let message := match node with
      | .logic _ => "logic node has neither a true nor a false branch"
      | other => other.typeName ++ " node has no way out"
    [⟨id, .deadEnd, message⟩]

/-- What is wrong with a link that has to name a node, if it is there. -/
def linkProblem (graph : Graph) (what : String) (link : Option NodeId) : Option String :=
  link.bind fun target =>
    if graph.contains target then none
    else some (what ++ " points to missing node '" ++ target ++ "'")

/-- A link without the targets that end play. -/
def withoutEndings (link : Option NodeId) : Option NodeId :=
  link.filter fun target => (Ending.ofTarget? target).isNone

/-- What is wrong with the link of a choice. -/
def choiceProblem (graph : Graph) (choice : Choice) (index : Nat) : Option String :=
  let what := "choice " ++ toString index ++ " ('" ++ choice.text ++ "')"
  match choice.next with
  | none => some (what ++ " has no target")
  | link => graph.linkProblem what (withoutEndings link)

/-- What is wrong with the links of a node. -/
def linkProblems (graph : Graph) : Node → List String
  | .choice node =>
    node.choices.zipIdx.filterMap (fun entry => graph.choiceProblem entry.1 entry.2) ++
      (graph.linkProblem "next" (withoutEndings node.next)).toList
  | .input node => (graph.linkProblem "next" (withoutEndings node.next)).toList
  | .logic node =>
    (graph.linkProblem "true branch" node.nextTrue).toList ++
      (graph.linkProblem "false branch" node.nextFalse).toList
  | .death _ | .win _ => []

/-- A mistake in a condition. -/
def issueFinding (id : NodeId) : Condition.Issue → Finding
  | .unknownType => ⟨id, .unknownCondition, "unknown condition type, treated as true"⟩
  | .emptyNegation => ⟨id, .emptyNegation, "NOT condition has no child"⟩

/-- Conditions and effects of a node that are not known. -/
def vocabularyFindings (id : NodeId) (node : Node) : List Finding :=
  (node.conditions.flatMap Condition.issues).map (issueFinding id) ++
    (node.effects.filter fun
      | .unknown => true
      | _ => false).map fun _ => ⟨id, .unknownEffect, "unknown effect type, skipped"⟩

/-- Everything that is wrong at one node, apart from its being out of reach. -/
def nodeFindings (graph : Graph) (id : NodeId) (node : Node) : List Finding :=
  exitFindings id node ++
    (graph.linkProblems node).map (fun message => ⟨id, .brokenLink, message⟩) ++
    vocabularyFindings id node

/-- Everything that is wrong, in the order of the passes. -/
def findings (graph : Graph) : List Finding :=
  graph.startFindings ++ graph.reachFindings ++
    graph.nodes.entries.flatMap fun entry => graph.nodeFindings entry.1 entry.2

/-- The report on a graph. -/
def inspect (graph : Graph) : Report := .ofFindings graph.findings

end Storyline.Graph
