import Mathlib.Order.Bounds.Basic
import Storyline.Proofs.Inspection.Reach

/-!
# What is reached, exactly

The names that a story reaches are said without a search: they are the least ones that include
the start, if it exists, and with each node all targets of its links that exist. Cycles, links
of a node to itself, links given twice and links to no node are no cases of their own.

The search finds exactly these names and lists each of them once. An inspection reports every
other node once, if the start exists, and reports none without a start.
-/

namespace Storyline.Graph

variable {graph : Graph} {id : NodeId}

/-- Some names include the start, if it exists, and all targets that their links reach. -/
structure Saturated (graph : Graph) (ids : Set NodeId) : Prop where
  start : graph.contains graph.start = true → graph.start ∈ ids
  closed : ∀ id ∈ ids, ∀ node, graph.node? id = some node →
    ∀ target ∈ node.edges, graph.contains target = true → target ∈ ids

/-! ## What the search lists -/

/-- A search lists no name twice.

Proof: by the recursion of the search, which adds a name only if it has not been seen. -/
theorem nodup_search {seen pending : List NodeId} (distinct : seen.Nodup) :
    (graph.search seen pending).Nodup := by
  fun_induction search graph seen pending with
  | case1 => exact distinct
  | case2 _ _ _ _ inductionHypothesis => exact inductionHypothesis distinct
  | case3 _ _ _ _ _ _ inductionHypothesis => exact inductionHypothesis distinct
  | case4 seen first rest node found fresh inductionHypothesis =>
    have unseen : first ∉ seen := by simpa using fresh
    apply inductionHypothesis
    rw [List.nodup_append]
    refine ⟨distinct, List.pairwise_singleton _ first, ?_⟩
    intro old known new added
    rw [List.mem_singleton.mp added]
    rintro rfl
    exact unseen known

/-- The names that are reached include the start and all targets that their links reach. As a set,
they are one of those among which they are the least. -/
theorem saturated_reachable (graph : Graph) : graph.Saturated {id | id ∈ graph.reachable} := by
  constructor
  case start => exact start_mem_reachable
  case closed => exact graph.closed_reachable

/-- The names that are reached are among any names that include the start and all targets that
their links reach. The other names may be infinitely many, and need not be names of nodes.

Proof: the names that are nodes are listed, and the search that begins in such a list stays
in it. -/
theorem mem_of_saturated {ids : Set NodeId} (saturated : graph.Saturated ids)
    (member : id ∈ graph.reachable) : id ∈ ids := by
  classical
  -- The search is known to stay in lists of names, so the names are cut down to those of nodes.
  let kept := graph.nodes.names.filter fun name => decide (name ∈ ids)
  have mem_kept {name : NodeId} : name ∈ kept ↔ graph.contains name = true ∧ name ∈ ids := by
    rw [List.mem_filter, decide_eq_true_iff, Table.mem_names_iff]
    exact Iff.rfl
  have closed : graph.Closed kept := by
    intro name inside node found target linked contained
    have reached := saturated.closed name (mem_kept.mp inside).2 node found target linked contained
    exact mem_kept.mpr ⟨contained, reached⟩
  have pendingKept : ∀ next ∈ [graph.start], graph.contains next = true → next ∈ kept := by
    intro next pending contained
    obtain rfl := List.mem_singleton.mp pending
    exact mem_kept.mpr ⟨contained, saturated.start contained⟩
  have inside : id ∈ kept :=
    mem_of_mem_search closed (fun old known => absurd known List.not_mem_nil) pendingKept member
  exact (mem_kept.mp inside).2

/-- Without a start nothing is reached.

Proof: no names at all are saturated then, and the names reached are among them. -/
theorem reachable_eq_nil (missing : graph.contains graph.start = false) : graph.reachable = [] := by
  have nothing : graph.Saturated ∅ := by
    constructor
    · intro contained
      rw [missing] at contained
      cases contained
    · intro name impossible
      exact absurd impossible (Set.notMem_empty name)
  rw [List.eq_nil_iff_forall_not_mem]
  exact fun name member => Set.notMem_empty name (mem_of_saturated nothing member)

/-! ## What an inspection reports -/

/-- What an inspection reports as unreachable was found by the search for reachable nodes.

Proof: the findings are taken pass by pass, and those of the other passes are of other kinds. -/
theorem ofKind_unreachable_perm (graph : Graph) :
    (graph.inspect.ofKind .unreachable).Perm graph.reachFindings := by
  have fromSearch : graph.findings.filter (fun finding => finding.kind == .unreachable) =
      graph.reachFindings := by
    unfold findings
    rw [List.filter_append, List.filter_append]
    have atStart : graph.startFindings.filter (fun finding => finding.kind == .unreachable) = [] := by
      rw [List.filter_eq_nil_iff]
      intro finding member
      have severity := severity_of_mem_startFindings member
      intro unreachable
      rw [beq_iff_eq.mp unreachable] at severity
      cases severity
    have outOfReach : graph.reachFindings.filter (fun finding => finding.kind == .unreachable) =
        graph.reachFindings := by
      rw [List.filter_eq_self]
      exact fun finding member => beq_iff_eq.mpr (kind_of_mem_reachFindings member)
    have atNodes : (graph.nodes.entries.flatMap fun entry =>
        graph.nodeFindings entry.1 entry.2).filter (fun finding => finding.kind == .unreachable) =
          [] := by
      rw [List.filter_eq_nil_iff]
      intro finding member unreachable
      obtain ⟨entry, -, made⟩ := List.mem_flatMap.mp member
      exact (kind_ne_of_mem_nodeFindings made).1 (beq_iff_eq.mp unreachable)
    rw [atStart, outOfReach, atNodes, List.nil_append, List.append_nil]
  rw [← fromSearch]
  exact (Report.findings_ofFindings_perm graph.findings).filter _

/-- The nodes found unreachable are those that are not reached, if the start exists. Each of them
is found once, since a table has no name twice. -/
theorem map_node_reachFindings (graph : Graph) :
    graph.reachFindings.map Finding.node =
      if graph.contains graph.start then
        graph.nodes.names.filter fun id => !graph.reachable.contains id
      else [] := by
  unfold reachFindings
  split
  · rw [List.map_map]
    exact List.map_id _
  · rfl

/-- The search ends with the least names that include the start, if it exists, and all targets that
their links reach. It lists each of them once, and none without a start. An inspection reports a
name as unreachable once if it is that of a node that is not reached from a start that exists, and
otherwise never.

Nothing is assumed of the graph: links may lead to no node, to themselves or around in a circle,
and the start may be missing.

Proof: the search keeps to any saturated names and its result is saturated. It adds no name twice,
so the nodes left over are counted once each. -/
theorem reachable_is_least (graph : Graph) :
    IsLeast {ids : Set NodeId | graph.Saturated ids} {id | id ∈ graph.reachable} ∧
      graph.reachable.Nodup ∧
      (graph.contains graph.start = true ∨ graph.reachable = []) ∧
      ∀ id, ((graph.inspect.ofKind .unreachable).map Finding.node).count id =
        if graph.contains graph.start = true ∧ graph.contains id = true ∧ id ∉ graph.reachable
        then 1 else 0 := by
  refine ⟨⟨graph.saturated_reachable, ?_⟩, nodup_search List.nodup_nil, ?_, ?_⟩
  · intro ids saturated id member
    exact mem_of_saturated saturated member
  · cases contained : graph.contains graph.start with
    | true => exact Or.inl rfl
    | false => exact Or.inr (reachable_eq_nil contained)
  · intro id
    have reported := (graph.ofKind_unreachable_perm.map Finding.node).count_eq id
    rw [reported, map_node_reachFindings]
    by_cases contained : graph.contains graph.start = true
    · have distinct : (graph.nodes.names.filter fun id => !graph.reachable.contains id).Nodup :=
        List.filter_sublist.nodup graph.nodes.nodup_names
      rw [if_pos contained, distinct.count]
      simp only [List.mem_filter, Table.mem_names_iff, contained, true_and, Bool.not_eq_true',
        List.contains_eq_mem, decide_eq_false_iff_not]
      rfl
    · rw [if_neg contained, List.count_nil, if_neg]
      exact fun found => contained found.1

end Storyline.Graph
