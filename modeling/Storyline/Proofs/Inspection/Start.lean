import Storyline.Proofs.Inspection.Links
import Storyline.Proofs.Inspection.Reach
import Storyline.Proofs.Inspection.Vocabulary
import Storyline.Proofs.Session.Operation

/-!
# A start that is missing

An inspection says that the start is missing if the start has no node, and also if its name
is empty. Play does not look at the name: it starts wherever there is a node. The two agree
unless there is a node under the empty name and the story starts there.

Such a start is reported as missing although play finds it. And it is searched from, so that
nodes may be called unreachable beside it, which never happens with any other start that is
reported as missing.
-/

namespace Storyline

namespace Graph

variable {graph : Graph} {id : NodeId}

/-- The start has a node, but its name is empty. -/
def StartsUnnamed (graph : Graph) : Prop :=
  graph.start = "" ∧ graph.contains graph.start = true

/-- A start is reported as missing exactly if it has no name or no node.

Proof: only the pass over the start makes such findings, and it makes one in just these
two cases. -/
theorem missingStart_reported_iff :
    graph.inspect.ofKind .missingStart ≠ [] ↔
      graph.start = "" ∨ graph.contains graph.start = false := by
  have nothing : graph.inspect.ofKind .missingStart = [] ↔ graph.startFindings = [] := by
    rw [ofKind_inspect_eq_nil_iff]
    constructor
    · intro absent
      refine List.eq_nil_iff_forall_not_mem.mpr fun finding member => ?_
      have made : finding ∈ graph.findings :=
        List.mem_append_left _ (List.mem_append_left _ member)
      exact absent finding made (kind_of_mem_startFindings member)
    · intro none finding made kind
      rcases List.mem_append.mp made with general | special
      · rcases List.mem_append.mp general with atStart | outOfReach
        · rw [none] at atStart
          cases atStart
        · cases kind.symm.trans (kind_of_mem_reachFindings outOfReach)
      · obtain ⟨entry, -, atNode⟩ := List.mem_flatMap.mp special
        exact (kind_ne_of_mem_nodeFindings atNode).2 kind
  rw [ne_eq, nothing, startFindings_eq_nil_iff, ← Bool.not_eq_true]
  by_cases named : graph.start = ""
  · simp [named]
  · simp [named]

/-- Some node is reported as unreachable exactly if the start has a node and the search from it
does not come to all nodes. That the start has no name does not keep the search from running. -/
theorem unreachable_reported_iff :
    graph.inspect.ofKind .unreachable ≠ [] ↔
      graph.contains graph.start = true ∧
        ∃ id, graph.contains id = true ∧ id ∉ graph.reachable := by
  have listed : graph.inspect.ofKind .unreachable ≠ [] ↔ ∃ id, graph.ReportedUnreachable id := by
    constructor
    · intro some
      obtain ⟨finding, member⟩ := List.exists_mem_of_ne_nil _ some
      obtain ⟨reported, kind⟩ := List.mem_filter.mp member
      exact ⟨finding.node, finding, reported, beq_iff_eq.mp kind, rfl⟩
    · rintro ⟨id, finding, reported, kind, -⟩
      exact List.ne_nil_of_mem (List.mem_filter.mpr ⟨reported, beq_iff_eq.mpr kind⟩)
  rw [listed]
  constructor
  · rintro ⟨id, reported⟩
    obtain ⟨start, contained, unseen⟩ := reportedUnreachable_iff.mp reported
    exact ⟨start, id, contained, unseen⟩
  · rintro ⟨start, id, contained, unseen⟩
    exact ⟨id, reportedUnreachable_iff.mpr ⟨start, contained, unseen⟩⟩

end Graph

namespace Session

/-- A session does not find its start exactly if the start has no node. Any other failure of a
start, at a branch behind it, names another error. -/
theorem start_notFound_iff (session : Session) :
    session.start.1 = .error (.sceneNotFound session.graph.start) ↔
      session.graph.contains session.graph.start = false := by
  rw [start_answer]
  exact Narrator.resolveFrom_absent_iff

/-- An inspection reports a start as missing if and only if no session finds it, unless the story
starts at a node without a name. Such a start is reported, and found. Nodes are reported as
unreachable beside a missing start only there, and then if the search from that node does not come
to all of them.

Nothing is assumed of the session, and nothing of its story. The error of a session is compared in
full, with the name of the start in it.

Proof: inspection reports a start for its name or for its node, and a session fails for its node
only. The pass over reach runs exactly if there is a node, so it runs beside a report exactly if
the name is what was reported. -/
theorem missing_start_matches_play (session : Session) :
    let graph := session.graph
    let reported := graph.inspect.ofKind .missingStart ≠ []
    let notFound := session.start.1 = .error (.sceneNotFound graph.start)
    ((reported ↔ notFound) ↔ ¬ graph.StartsUnnamed) ∧
      (graph.StartsUnnamed → reported) ∧
      ((reported → graph.inspect.ofKind .unreachable = []) ↔
        ¬ (graph.StartsUnnamed ∧ ∃ id, graph.contains id = true ∧ id ∉ graph.reachable)) := by
  intro graph reported notFound
  have reports : reported ↔ graph.start = "" ∨ graph.contains graph.start = false :=
    Graph.missingStart_reported_iff
  have fails : notFound ↔ graph.contains graph.start = false := session.start_notFound_iff
  have unreachable := graph.unreachable_reported_iff
  rw [reports, fails]
  refine ⟨?_, fun unnamed => Or.inl unnamed.1, ?_⟩
  · unfold Graph.StartsUnnamed
    cases graph.contains graph.start <;> simp
  · constructor
    · rintro silent ⟨unnamed, unseen⟩
      exact unreachable.mpr ⟨unnamed.2, unseen⟩ (silent (Or.inl unnamed.1))
    · intro apart missing
      refine Classical.byContradiction fun found => ?_
      obtain ⟨start, unseen⟩ := unreachable.mp found
      rcases missing with unnamed | absent
      · exact apart ⟨⟨unnamed, start⟩, unseen⟩
      · cases start.symm.trans absent

/-- A story that starts at a node without a name, with an attic that nothing leads to. -/
def nameless : Graph :=
  { start := "",
    nodes := (Table.empty.insert "" (.win none)).insert "attic" (.win none) }

/-- The nameless start is reported as missing, and the attic as unreachable, although a session
starts and comes to its end there. The three parts are three ways in which the report and the play
do not match. -/
theorem nameless_start_is_found :
    let session := Session.ofGraph nameless {}
    ¬ (nameless.inspect.ofKind .missingStart ≠ [] ↔
        session.start.1 = .error (.sceneNotFound nameless.start)) ∧
      ¬ (nameless.inspect.ofKind .missingStart ≠ [] →
        nameless.inspect.ofKind .unreachable = []) ∧
      ∃ message, session.start.1 = .ok { resolution := .terminal .win message } := by
  intro session
  have reported : nameless.inspect.ofKind .missingStart ≠ [] :=
    Graph.missingStart_reported_iff.mpr (Or.inl rfl)
  have alone : nameless.Closed [""] := by
    intro id member node found target linked
    obtain rfl := List.mem_singleton.mp member
    obtain rfl := Option.some.inj (found.symm.trans rfl : some node = some (.win none))
    cases linked
  have unseen : "attic" ∉ nameless.reachable := by
    intro member
    have inside : "attic" ∈ [""] := Graph.mem_of_mem_reachable alone List.mem_cons_self member
    revert inside
    decide
  refine ⟨fun agree => ?_, fun silent => ?_, ?_⟩
  · have absent := session.start_notFound_iff.mp (agree.mp reported)
    cases absent
  · exact Graph.unreachable_reported_iff.mpr ⟨rfl, "attic", rfl, unseen⟩ (silent reported)
  · rw [start_answer]
    exact ⟨_, congrArg Turn.answer (Narrator.resolveFrom_of_resolves
      (.arrives (.here "") rfl (.win none)))⟩

end Session

end Storyline
