import Storyline.Proofs.Inspection.Findings

/-!
# What the search for reachable nodes keeps

The search keeps what it has seen, sees every pending name that has a node, and with
each node that it sees for the first time it sees the targets of its links. So the
nodes reached from the start are closed under links: no link of theirs leads to a
node outside. A start that exists is among them, and they are among any other names
that are closed and include the start.

An inspection calls exactly the other nodes unreachable, if the start exists. Without
a start it calls none so.
-/

namespace Storyline.Graph

variable {graph : Graph} {id : NodeId}

/-- No link of a kept node leads to a node that is not kept. -/
def Closed (graph : Graph) (kept : List NodeId) : Prop :=
  ∀ id ∈ kept, ∀ node, graph.node? id = some node →
    ∀ target ∈ node.edges, graph.contains target = true → target ∈ kept

/-- An inspection has a finding that a name is unreachable. -/
def ReportedUnreachable (graph : Graph) (id : NodeId) : Prop :=
  ∃ finding ∈ graph.inspect.findings, finding.kind = .unreachable ∧ finding.node = id

/-- A search keeps what it has seen.

Proof: by the recursion of the search, which only ever adds to what it has seen. -/
theorem mem_search_of_seen {seen pending : List NodeId} (member : id ∈ seen) :
    id ∈ graph.search seen pending := by
  fun_induction search graph seen pending with
  | case1 => exact member
  | case2 _ _ _ _ inductionHypothesis => exact inductionHypothesis member
  | case3 _ _ _ _ _ _ inductionHypothesis => exact inductionHypothesis member
  | case4 _ _ _ _ _ _ inductionHypothesis =>
    exact inductionHypothesis (List.mem_append_left _ member)

/-- A search sees every pending name that has a node.

Proof: by the recursion of the search. The name is looked at in its turn, and by then it has been
seen or is seen now. -/
theorem mem_search_of_pending {seen pending : List NodeId} (member : id ∈ pending)
    (contained : graph.contains id = true) : id ∈ graph.search seen pending := by
  fun_induction search graph seen pending with
  | case1 => exact absurd member List.not_mem_nil
  | case2 seen first rest absent inductionHypothesis =>
    rcases List.mem_cons.mp member with rfl | later
    · exact absurd contained (not_contains_of_node? absent)
    · exact inductionHypothesis later
  | case3 seen first rest node found old inductionHypothesis =>
    rcases List.mem_cons.mp member with rfl | later
    · exact mem_search_of_seen (List.contains_iff_mem.mp old)
    · exact inductionHypothesis later
  | case4 seen first rest node found fresh inductionHypothesis =>
    rcases List.mem_cons.mp member with rfl | later
    · exact mem_search_of_seen (List.mem_append_right _ List.mem_cons_self)
    · exact inductionHypothesis (List.mem_append_right _ later)

/-- With a node seen for the first time a search sees the targets of its links.

Proof: by the recursion of the search. When the node is seen its targets become pending, and
pending names with a node are seen. -/
theorem mem_search_of_edge {seen pending : List NodeId} {node : Node} {target : NodeId}
    (member : id ∈ graph.search seen pending) (fresh : id ∉ seen)
    (found : graph.node? id = some node) (linked : target ∈ node.edges)
    (contained : graph.contains target = true) : target ∈ graph.search seen pending := by
  fun_induction search graph seen pending with
  | case1 => exact absurd member fresh
  | case2 _ _ _ _ inductionHypothesis => exact inductionHypothesis member fresh
  | case3 _ _ _ _ _ _ inductionHypothesis => exact inductionHypothesis member fresh
  | case4 seen first rest other otherFound _ inductionHypothesis =>
    by_cases same : id = first
    · subst same
      obtain rfl := Option.some.inj (found.symm.trans otherFound)
      exact mem_search_of_pending (List.mem_append_left _ linked) contained
    · exact inductionHypothesis member (by simp [fresh, same])

/-- The nodes reached from the start are closed under links. The search begins with nothing seen,
so every node reached was seen for the first time. -/
theorem closed_reachable (graph : Graph) : graph.Closed graph.reachable := by
  intro id member node found target linked contained
  exact mem_search_of_edge member List.not_mem_nil found linked contained

/-- A start that exists is reached. It is the only name that is pending at the beginning. -/
theorem start_mem_reachable (contained : graph.contains graph.start = true) :
    graph.start ∈ graph.reachable := by
  unfold reachable
  exact mem_search_of_pending List.mem_cons_self contained

/-- A search stays among names that are closed under links if it begins there.

Proof: by the recursion of the search. A node that is seen is among the names, and with it, as they
are closed, are the targets that it makes pending. -/
theorem mem_of_mem_search {kept seen pending : List NodeId} (closed : graph.Closed kept)
    (seenKept : ∀ old ∈ seen, old ∈ kept)
    (pendingKept : ∀ next ∈ pending, graph.contains next = true → next ∈ kept)
    (member : id ∈ graph.search seen pending) : id ∈ kept := by
  fun_induction search graph seen pending with
  | case1 seen => exact seenKept id member
  | case2 seen first rest absent inductionHypothesis
  | case3 seen first rest node found old inductionHypothesis =>
    have restKept := (List.forall_mem_cons.mp pendingKept).2
    exact inductionHypothesis seenKept restKept member
  | case4 seen first rest node found fresh inductionHypothesis =>
    obtain ⟨firstKept, restKept⟩ := List.forall_mem_cons.mp pendingKept
    have inside : first ∈ kept := firstKept (contains_of_node? found)
    apply inductionHypothesis _ _ member
    · intro old known
      rcases List.mem_append.mp known with before | new
      · exact seenKept old before
      · rw [List.mem_singleton.mp new]
        exact inside
    · intro next listed contained
      rcases List.mem_append.mp listed with linked | later
      · exact closed first inside node found next linked contained
      · exact restKept next later contained

/-- The nodes reached are among any names that are closed under links and include the start. If
there is a start, the nodes reached are the least names of this kind. -/
theorem mem_of_mem_reachable {kept : List NodeId} (closed : graph.Closed kept)
    (start : graph.start ∈ kept) (member : id ∈ graph.reachable) : id ∈ kept := by
  apply mem_of_mem_search closed _ _ member
  · intro old known
    exact absurd known List.not_mem_nil
  · intro next pending _
    rw [List.mem_singleton.mp pending]
    exact start

/-! ## What is called unreachable -/

/-- Nothing but the search for reachable nodes finds nodes unreachable. Findings about the start
and at nodes are of other kinds. -/
theorem mem_reachFindings_of_kind {finding : Finding} (made : finding ∈ graph.findings)
    (kind : finding.kind = .unreachable) : finding ∈ graph.reachFindings := by
  rcases List.mem_append.mp made with general | special
  · rcases List.mem_append.mp general with atStart | outOfReach
    · have severity := severity_of_mem_startFindings atStart
      rw [kind] at severity
      cases severity
    · exact outOfReach
  · obtain ⟨entry, -, atNode⟩ := List.mem_flatMap.mp special
    exact absurd kind (kind_ne_of_mem_nodeFindings atNode).1

/-- A node is called unreachable exactly if the start exists and the search from it does not come
to the node. A start that does not exist silences the whole pass, and is reported by itself. -/
theorem reportedUnreachable_iff :
    graph.ReportedUnreachable id ↔
      graph.contains graph.start = true ∧ graph.contains id = true ∧ id ∉ graph.reachable := by
  constructor
  · rintro ⟨finding, reported, kind, rfl⟩
    have made := mem_reachFindings_of_kind (Report.mem_findings_ofFindings.mp reported) kind
    unfold reachFindings at made
    split at made
    · rename_i contained
      obtain ⟨id, unseen, rfl⟩ := List.mem_map.mp made
      obtain ⟨named, absent⟩ := List.mem_filter.mp unseen
      exact ⟨contained, Table.mem_names_iff.mp named, by simpa using absent⟩
    · exact absurd made List.not_mem_nil
  · rintro ⟨start, contained, absent⟩
    have unseen : id ∈ graph.nodes.names.filter fun id => !graph.reachable.contains id :=
      List.mem_filter.mpr ⟨Table.mem_names_iff.mpr contained, by simpa using absent⟩
    have made : ⟨id, .unreachable, "not reachable from the start node"⟩ ∈ graph.reachFindings := by
      unfold reachFindings
      rw [if_pos start]
      exact List.mem_map.mpr ⟨id, unseen, rfl⟩
    have everywhere := List.mem_append_left (graph.nodes.entries.flatMap fun entry =>
      graph.nodeFindings entry.1 entry.2) (List.mem_append_right graph.startFindings made)
    exact ⟨_, Report.mem_findings_ofFindings.mpr everywhere, rfl, rfl⟩

end Storyline.Graph
