import Storyline.Proofs.Inspection.Faults

/-!
# What a report says, completely and in order

A report has one finding for each fault of a story and no other finding. Its errors and its
warnings are each in the order of their nodes, and at one node in the order of the passes that
look at it: the start first, then reach, exits, links, conditions, and effects.
-/

namespace Storyline

/-- The pass in which a kind of problem is looked for. -/
def FindingKind.pass : FindingKind → Nat
  | .missingStart => 0
  | .unreachable => 1
  | .deadEnd => 2
  | .brokenLink => 3
  | .unknownCondition | .emptyNegation => 4
  | .unknownEffect => 5

/-- Of two findings at one node the first is not of a later pass. -/
def Finding.InPasses (first second : Finding) : Prop :=
  first.node = second.node → first.kind.pass ≤ second.kind.pass

namespace Report

variable {findings : List Finding}

/-- Findings at one node keep their order when all findings are ordered. Names are compared, and
equal names do not make the sort change places. -/
theorem filter_node_inOrder (findings : List Finding) (id : NodeId) :
    (inOrder findings).filter (fun finding => finding.node == id) =
      findings.filter fun finding => finding.node == id := by
  apply filter_inOrder
  apply List.pairwise_of_forall_mem_list
  intro first member second otherMember
  have atNode := (List.mem_filter.mp member).2
  have otherAtNode := (List.mem_filter.mp otherMember).2
  have same : first.node = second.node :=
    (beq_iff_eq.mp atNode).trans (beq_iff_eq.mp otherAtNode).symm
  exact same ▸ String.le_refl first.node

/-- Findings in the order of the passes are ordered by node, and at one node by pass.

Proof: the sort is by node. Two findings at one node keep the order in which they were made, and
that is the order of the passes. -/
theorem pairwise_inOrder (made : findings.Pairwise Finding.InPasses) :
    (inOrder findings).Pairwise fun first second =>
      first.node ≤ second.node ∧ first.InPasses second := by
  have byNode : (inOrder findings).Pairwise fun first second =>
      decide (first.node ≤ second.node) = true :=
    List.pairwise_mergeSort node_le_trans node_le_total findings
  refine List.Pairwise.and (byNode.imp of_decide_eq_true) ?_
  rw [List.pairwise_iff_forall_sublist]
  intro first second behind same
  have kept := behind.filter fun finding => finding.node == first.node
  rw [filter_node_inOrder] at kept
  have inMade : [first, second].Sublist findings := by
    refine .trans ?_ (kept.trans List.filter_sublist)
    simp [same]
  exact List.pairwise_iff_forall_sublist.mp made inMade same

end Report

namespace Graph

variable {graph : Graph} {id : NodeId} {node : Node} {pass : Nat} {findings : List Finding}

/-- A fault at a place is of a kind that the pass over the place looks for. Both kinds of mistakes
in conditions are looked for in one pass. -/
theorem NodeFault.pass_eq {place : NodePlace} {finding : Finding}
    (fault : graph.NodeFault id node place finding) :
    finding.node = id ∧ finding.kind.pass = place.pass := by
  cases fault <;> exact ⟨rfl, rfl⟩

/-- Findings at a node that some pass or later ones make, in their order. -/
structure PassesFrom (id : NodeId) (pass : Nat) (findings : List Finding) : Prop where
  about : ∀ finding ∈ findings, finding.node = id ∧ pass ≤ finding.kind.pass
  ordered : findings.Pairwise Finding.InPasses

/-- What one pass finds at a node goes before what later passes find there.

Proof: all findings of one pass are of the kinds of that pass, and those behind are of
later ones. -/
theorem PassesFrom.after {later : List Finding} {next : Nat} (behind : PassesFrom id next later)
    (earlier : pass ≤ next) (each : OneForEach (graph.PassFault id node pass) findings) :
    PassesFrom id pass (findings ++ later) := by
  have ofPass : ∀ finding ∈ findings, finding.node = id ∧ finding.kind.pass = pass := by
    intro finding member
    obtain ⟨place, fault, atPass⟩ := each.mem_iff.mp member
    obtain ⟨about, ofPlace⟩ := fault.pass_eq
    exact ⟨about, ofPlace.trans atPass⟩
  constructor
  · intro finding member
    rcases List.mem_append.mp member with now | later
    · obtain ⟨about, same⟩ := ofPass finding now
      exact ⟨about, Nat.le_of_eq same.symm⟩
    · obtain ⟨about, beyond⟩ := behind.about finding later
      exact ⟨about, Nat.le_trans earlier beyond⟩
  · refine List.pairwise_append.mpr ⟨?_, behind.ordered, fun first member second other _ => ?_⟩
    · apply List.pairwise_of_forall_mem_list
      intro first member second other _
      rw [(ofPass first member).2, (ofPass second other).2]
    · rw [(ofPass first member).2]
      exact Nat.le_trans earlier (behind.about second other).2

/-- What is found at a node is in the order of the passes.

Proof: beginning with the last pass, each earlier one is put in front of what was found before. -/
theorem passesFrom_nodeFindings (graph : Graph) (id : NodeId) (node : Node) :
    PassesFrom id 2 (graph.nodeFindings id node) := by
  have none : PassesFrom id 5 [] := ⟨fun _ member => absurd member List.not_mem_nil, .nil⟩
  have all := (((none.after (Nat.le_refl 5) (graph.oneForEach_effectFindings id node)).after
    (by decide) (graph.oneForEach_guardFindings id node)).after
    (by decide) (graph.oneForEach_linkFindings id node)).after
    (by decide) (graph.oneForEach_exitFindings id node)
  rwa [List.append_nil, ← List.append_assoc] at all

/-- Everything is found in the order of the passes over its node.

Proof: start and reach are looked at before any node, and the nodes one after another. Two nodes
have different names, so findings at one of them are never compared with those at the other. -/
theorem inPasses_findings (graph : Graph) : graph.findings.Pairwise Finding.InPasses := by
  have early : (graph.startFindings ++ graph.reachFindings).Pairwise Finding.InPasses := by
    refine List.pairwise_append.mpr ⟨?_, ?_, fun first member second _ _ => ?_⟩
    · apply List.pairwise_of_forall_mem_list
      intro first member second other _
      rw [kind_of_mem_startFindings member, kind_of_mem_startFindings other]
    · apply List.pairwise_of_forall_mem_list
      intro first member second other _
      rw [kind_of_mem_reachFindings member, kind_of_mem_reachFindings other]
    · rw [kind_of_mem_startFindings member]
      exact Nat.zero_le _
  have late : (graph.nodes.entries.flatMap fun entry =>
      graph.nodeFindings entry.1 entry.2).Pairwise Finding.InPasses := by
    refine List.pairwise_flatMap.mpr ⟨fun entry _ =>
      (graph.passesFrom_nodeFindings entry.1 entry.2).ordered, graph.nodes.increasing.imp ?_⟩
    intro entry other smaller first member second otherMember same
    have atEntry := ((graph.passesFrom_nodeFindings entry.1 entry.2).about first member).1
    have atOther := ((graph.passesFrom_nodeFindings other.1 other.2).about second otherMember).1
    rw [← atEntry, ← atOther, same] at smaller
    exact absurd smaller (String.lt_irrefl _)
  refine List.pairwise_append.mpr ⟨early, late, fun first member second otherMember _ => ?_⟩
  have few : first.kind.pass ≤ 1 := by
    rcases List.mem_append.mp member with atStart | outOfReach
    · rw [kind_of_mem_startFindings atStart]
      decide
    · rw [kind_of_mem_reachFindings outOfReach]
      decide
  obtain ⟨entry, -, atNode⟩ := List.mem_flatMap.mp otherMember
  have later := ((graph.passesFrom_nodeFindings entry.1 entry.2).about second atNode).2
  omega

/-- Only the start may be found missing. Places out of reach and places at nodes have faults of
other kinds. -/
theorem Fault.eq_start {place : FaultPlace} {finding : Finding} (fault : graph.Fault place finding)
    (missing : finding.kind = .missingStart) : place = .start := by
  cases fault with
  | unset => rfl
  | missing => rfl
  | unreachable => cases missing
  | atNode found fault => cases fault <;> cases missing

/-- An inspection finds every fault of a story once and finds nothing else; splitting and sorting
lose none and double none. At most one finding says that the start is missing. The kind of a
finding tells errors and warnings apart. Each of both lists is ordered by node, and the findings at
one node keep the order in which the passes made them.

Nothing is assumed of the graph. Faults are told apart by their places, so equal findings at
different places are found as often as there are places. The faults themselves are said without the
passes: by rules for what is wrong at a place.

Proof: the findings of each pass are one for each of its places, and splitting and sorting only
reorder them. The sort is stable, so the order of the passes is kept at each node. -/
theorem inspection_finds_each_fault_once (graph : Graph) :
    let report := graph.inspect
    OneForEach graph.Fault (report.errors ++ report.warnings) ∧
      (report.ofKind .missingStart).length ≤ 1 ∧
      (∀ finding ∈ report.errors, finding.kind.severity = .error) ∧
      (∀ finding ∈ report.warnings, finding.kind.severity = .warning) ∧
      (∀ listed ∈ [report.errors, report.warnings], listed.Pairwise fun first second =>
        first.node ≤ second.node ∧
          (first.node = second.node → first.kind.pass ≤ second.kind.pass)) ∧
      ∀ id,
        report.errors.filter (fun finding => finding.node == id) =
          (graph.findings.filter fun finding => finding.kind.severity == .error).filter
            (fun finding => finding.node == id) ∧
        report.warnings.filter (fun finding => finding.node == id) =
          (graph.findings.filter fun finding => finding.kind.severity == .warning).filter
            (fun finding => finding.node == id) := by
  intro report
  have each : OneForEach graph.Fault (report.errors ++ report.warnings) :=
    graph.oneForEach_findings.perm (Report.findings_ofFindings_perm graph.findings).symm
  have severe {finding : Finding} {severity : Severity}
      (member : finding ∈ Report.inOrder
        (graph.findings.filter fun finding => finding.kind.severity == severity)) :
      finding.kind.severity = severity :=
    beq_iff_eq.mp (List.mem_filter.mp ((Report.inOrder_perm _).mem_iff.mp member)).2
  have ordered (severity : Severity) := Report.pairwise_inOrder
    (graph.inPasses_findings.filter fun finding => finding.kind.severity == severity)
  refine ⟨each, ?_, fun finding => severe, fun finding => severe, ?_, fun id => ⟨?_, ?_⟩⟩
  · apply (each.filter fun finding => finding.kind == .missingStart).length_le_one .start
    rintro place finding ⟨fault, missing⟩
    exact fault.eq_start (beq_iff_eq.mp missing)
  · intro listed member
    rcases List.mem_pair.mp member with rfl | rfl
    · exact ordered .error
    · exact ordered .warning
  · exact Report.filter_node_inOrder _ id
  · exact Report.filter_node_inOrder _ id

/-- A chapel with a prayer for whoever has a candle or lacks what nobody knows. -/
def chapel : Graph :=
  let prayer : Choice :=
    { text := "Pray", next := some winTarget,
      condition := some (.any [.item "candle", .negate .unknown]) }
  { start := "chapel",
    nodes := Table.empty.insert "chapel" (.choice { choices := [prayer] }) }

/-- The part that nobody knows is found, though it is inside a negation inside a disjunction. Its
place is that of the choice's guard, with a path of two indices. -/
theorem chapel_has_unknown_condition :
    ⟨"chapel", .unknownCondition, "unknown condition type, treated as true"⟩ ∈
      chapel.inspect.errors ++ chapel.inspect.warnings := by
  have each := (inspection_finds_each_fault_once chapel).1
  have mistaken : (Condition.any [.item "candle", .negate .unknown]).MistakenAt [1, 0]
      .unknownType := .inside rfl (.inside rfl .unknown)
  have fault : chapel.Fault (.node "chapel" (.guard (.choice 0) [1, 0]))
      ⟨"chapel", .unknownCondition, "unknown condition type, treated as true"⟩ :=
    .atNode rfl (.unknownCondition rfl mistaken)
  exact each.mem_iff.mpr ⟨_, fault⟩

end Graph

end Storyline
