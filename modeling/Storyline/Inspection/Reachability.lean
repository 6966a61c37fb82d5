import Storyline.Play.Walk

/-!
# Reachability

A node is reachable if it is the start or the target of a link of a reachable
node, whatever the conditions on the way. The search keeps a list of the nodes
seen and a list of names to look at; each name is either dropped or, when it names
a node not yet seen, adds that node's links.
-/

namespace Storyline.Graph

/-- The nodes seen when all pending names have been looked at. -/
def search (graph : Graph) (seen pending : List NodeId) : List NodeId :=
  match pending with
  | [] => seen
  | id :: rest =>
    match _found : graph.node? id with
    | none => graph.search seen rest
    | some node =>
      if _fresh : seen.contains id then graph.search seen rest
      else graph.search (seen ++ [id]) (node.edges ++ rest)
termination_by ((graph.namesOutside seen).length, pending.length)
decreasing_by
  · exact Prod.Lex.right _ (Nat.lt_succ_self _)
  · exact Prod.Lex.right _ (Nat.lt_succ_self _)
  · exact Prod.Lex.left _ _
      (length_namesOutside_lt (mem_names_of_node? _found) (Bool.eq_false_iff.mpr _fresh))

/-- The nodes that play could reach from the start. -/
def reachable (graph : Graph) : List NodeId := graph.search [] [graph.start]

end Storyline.Graph
