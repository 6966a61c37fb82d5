import Storyline.Inspection.Inspect

/-!
# Findings and their report

Sorting and splitting lose no finding and add none: a finding is in the report if
it was made. Findings that stand in the order of their nodes are not moved among each
other. A story is playable if no finding was made that stands in the way of
play. Nodes out of reach never do, so only the start and the nodes themselves count.
-/

namespace Storyline

namespace Report

variable {findings : List Finding}

/-- Findings are compared by their nodes, and so transitively. The form is the one that a stable
sort asks for. -/
theorem node_le_trans (first second third : Finding)
    (before : decide (first.node ≤ second.node) = true)
    (after : decide (second.node ≤ third.node) = true) :
    decide (first.node ≤ third.node) = true := by
  rw [decide_eq_true_eq] at before after ⊢
  exact String.le_trans before after

/-- Any two findings compare. Findings at one node compare both ways, which is why the sort has to
be a stable one. -/
theorem node_le_total (first second : Finding) :
    (decide (first.node ≤ second.node) || decide (second.node ≤ first.node)) = true := by
  simpa using String.le_total first.node second.node

/-- Ordering findings keeps each of them as often as it was made. Two findings at one node may even
be equal, and both are kept. -/
theorem inOrder_perm (findings : List Finding) : (inOrder findings).Perm findings := by
  unfold inOrder
  exact List.mergeSort_perm _ _

/-- A report has exactly the findings it was made of. Every kind is either an error or a warning,
so the two lists take up all of them. -/
theorem mem_findings_ofFindings {finding : Finding} :
    finding ∈ (ofFindings findings).findings ↔ finding ∈ findings := by
  simp only [Report.findings, ofFindings, List.mem_append, (inOrder_perm _).mem_iff,
    List.mem_filter]
  cases finding.kind.severity <;> simp

/-- A report has each finding as often as it was made.

Proof: each of the two lists has the findings of its severity, and what is no error is a warning. -/
theorem findings_ofFindings_perm (findings : List Finding) :
    (ofFindings findings).findings.Perm findings := by
  have others : findings.filter (fun finding => finding.kind.severity == .warning) =
      findings.filter (fun finding => !(finding.kind.severity == .error)) := by
    refine List.filter_congr fun finding _ => ?_
    cases finding.kind.severity <;> rfl
  have parted := List.filter_append_perm (fun finding => finding.kind.severity == .error) findings
  rw [← others] at parted
  exact ((inOrder_perm _).append (inOrder_perm _)).trans parted

/-- Findings that stand in the order of their nodes are not moved among each other when all
findings are ordered.

Proof: the sort is stable, so findings that are in order already come out as they went in. -/
theorem filter_inOrder {chosen : Finding → Bool}
    (ordered : (findings.filter chosen).Pairwise fun first second => first.node ≤ second.node) :
    (inOrder findings).filter chosen = findings.filter chosen := by
  have kept : (findings.filter chosen).Sublist (inOrder findings) := by
    apply List.sublist_mergeSort node_le_trans node_le_total _ List.filter_sublist
    exact ordered.imp decide_eq_true
  have chosenKept := kept.filter chosen
  rw [List.filter_filter] at chosenKept
  simp only [Bool.and_self] at chosenKept
  have sameLength := ((inOrder_perm findings).filter chosen).length_eq
  exact (chosenKept.eq_of_length sameLength.symm).symm

/-- A report has the findings of one kind as they were made, if these stand in the order of their
nodes.

Proof: findings of one kind are of one severity, so they are all in one of the two lists, where the
sort does not move them. The other list has none of them. -/
theorem ofKind_ofFindings {kind : FindingKind}
    (ordered : (findings.filter fun finding => finding.kind == kind).Pairwise
      fun first second => first.node ≤ second.node) :
    (ofFindings findings).ofKind kind = findings.filter fun finding => finding.kind == kind := by
  have part (severity : Severity) :
      (inOrder (findings.filter fun finding => finding.kind.severity == severity)).filter
          (fun finding => finding.kind == kind) =
        if kind.severity = severity then findings.filter fun finding => finding.kind == kind
        else [] := by
    have chosen : (findings.filter fun finding => finding.kind.severity == severity).filter
        (fun finding => finding.kind == kind) =
          if kind.severity = severity then findings.filter fun finding => finding.kind == kind
          else [] := by
      rw [List.filter_filter]
      split
      · rename_i same
        refine List.filter_congr fun finding _ => ?_
        by_cases known : finding.kind = kind
        · simp [known, same]
        · simp [known]
      · rename_i other
        refine List.filter_eq_nil_iff.mpr fun finding _ => ?_
        by_cases known : finding.kind = kind
        · simp [known, other]
        · simp [known]
    rw [← chosen]
    refine filter_inOrder ?_
    rw [chosen]
    split
    · exact ordered
    · exact .nil
  unfold ofKind Report.findings ofFindings
  rw [List.filter_append, part, part]
  cases kind.severity <;> simp

/-- A report of some findings is playable if none of them is an error. Warnings play no part in it,
however many there are. -/
theorem isPlayable_ofFindings_iff :
    (ofFindings findings).isPlayable = true ↔
      ∀ finding ∈ findings, finding.kind.severity ≠ .error := by
  have nothing (some : List Finding) : inOrder some = [] ↔ some = [] := by
    constructor
    · intro ordered
      exact List.nil_perm.mp (ordered ▸ inOrder_perm some)
    · rintro rfl
      exact List.perm_nil.mp (inOrder_perm [])
  simp only [isPlayable, ofFindings, List.isEmpty_iff, nothing, List.filter_eq_nil_iff, beq_iff_eq,
    ne_eq]

end Report

/-- Findings of other kinds have none of one kind. It is used for the passes that make findings of
one kind only. -/
theorem filter_kind_eq_nil {findings : List Finding} {kind : FindingKind}
    (others : ∀ finding ∈ findings, finding.kind ≠ kind) :
    findings.filter (fun finding => finding.kind == kind) = [] := by
  rw [List.filter_eq_nil_iff]
  intro finding member same
  exact others finding member (beq_iff_eq.mp same)

namespace Graph

variable {graph : Graph}

/-- Whatever is found about reach says that a node is out of reach. Without a start there are none
of these. -/
theorem kind_of_mem_reachFindings {finding : Finding} (member : finding ∈ graph.reachFindings) :
    finding.kind = .unreachable := by
  unfold reachFindings at member
  split at member
  · obtain ⟨id, -, rfl⟩ := List.mem_map.mp member
    rfl
  · exact absurd member List.not_mem_nil

/-- Whatever is found about the start says that the start is missing. There is at most one,
whichever way the start is missing. -/
theorem kind_of_mem_startFindings {finding : Finding} (member : finding ∈ graph.startFindings) :
    finding.kind = .missingStart := by
  unfold startFindings at member
  split at member
  · rw [List.mem_singleton.mp member]
  · split at member
    · exact absurd member List.not_mem_nil
    · rw [List.mem_singleton.mp member]

/-- Whatever is found about the start is an error. So a story without a start is never playable. -/
theorem severity_of_mem_startFindings {finding : Finding}
    (member : finding ∈ graph.startFindings) : finding.kind.severity = .error := by
  rw [kind_of_mem_startFindings member]
  rfl

/-- Nothing is found about a start exactly if it has a name and a node. A node under the empty name
does not help here, although play would find it. -/
theorem startFindings_eq_nil_iff :
    graph.startFindings = [] ↔ graph.start ≠ "" ∧ graph.contains graph.start = true := by
  unfold startFindings
  split
  · rename_i unnamed
    simp [String.isEmpty_iff.mp unnamed]
  · rename_i named
    have different : graph.start ≠ "" := fun same => named (String.isEmpty_iff.mpr same)
    cases contained : graph.contains graph.start <;> simp [different]

/-- Whatever is found about the exit of a node says that it is a dead end. Its message depends on
the type of the node, and its kind does not. -/
theorem kind_of_mem_exitFindings {id : NodeId} {node : Node} {finding : Finding}
    (member : finding ∈ exitFindings id node) : finding.kind = .deadEnd := by
  unfold exitFindings at member
  split at member
  · exact absurd member List.not_mem_nil
  · rw [List.mem_singleton.mp member]

/-- Whatever is found in the words of a node says that a condition or an effect is not known, or
that a negation is empty. Of these three only the empty negation is an error. -/
theorem kind_of_mem_vocabularyFindings {id : NodeId} {node : Node} {finding : Finding}
    (member : finding ∈ vocabularyFindings id node) :
    finding.kind = .unknownCondition ∨ finding.kind = .emptyNegation ∨
      finding.kind = .unknownEffect := by
  rcases List.mem_append.mp member with condition | effect
  · obtain ⟨issue, -, rfl⟩ := List.mem_map.mp condition
    cases issue with
    | unknownType => exact Or.inl rfl
    | emptyNegation => exact Or.inr (Or.inl rfl)
  · obtain ⟨_, -, rfl⟩ := List.mem_map.mp effect
    exact Or.inr (Or.inr rfl)

/-- No finding at a node says that the node is out of reach, or that the start is missing. Those
two kinds belong to passes over the whole story. -/
theorem kind_ne_of_mem_nodeFindings {id : NodeId} {node : Node} {finding : Finding}
    (member : finding ∈ graph.nodeFindings id node) :
    finding.kind ≠ .unreachable ∧ finding.kind ≠ .missingStart := by
  rcases List.mem_append.mp member with atLinks | inWords
  · rcases List.mem_append.mp atLinks with atExit | broken
    · rw [kind_of_mem_exitFindings atExit]
      decide
    · obtain ⟨message, -, rfl⟩ := List.mem_map.mp broken
      constructor <;> intro same <;> cases same
  · rcases kind_of_mem_vocabularyFindings inWords with kind | kind | kind
    · rw [kind]
      decide
    · rw [kind]
      decide
    · rw [kind]
      decide

/-- A story is playable if nothing is wrong with its start and no node has an error.

Proof: the findings of the three passes are looked at apart. One about the start is an error, one
about reach is none, and those at the nodes are as they are. -/
theorem isPlayable_inspect_iff :
    graph.inspect.isPlayable = true ↔
      graph.startFindings = [] ∧ ∀ entry ∈ graph.nodes.entries,
        ∀ finding ∈ graph.nodeFindings entry.1 entry.2, finding.kind.severity ≠ .error := by
  unfold inspect
  rw [Report.isPlayable_ofFindings_iff]
  unfold findings
  constructor
  · intro harmless
    refine ⟨List.eq_nil_iff_forall_not_mem.mpr fun finding member => ?_,
      fun entry inside finding member => ?_⟩
    · exact harmless finding (List.mem_append_left _ (List.mem_append_left _ member))
        (severity_of_mem_startFindings member)
    · exact harmless finding
        (List.mem_append_right _ (List.mem_flatMap.mpr ⟨entry, inside, member⟩))
  · rintro ⟨start, nodes⟩ finding member
    rcases List.mem_append.mp member with general | special
    · rcases List.mem_append.mp general with atStart | outOfReach
      · rw [start] at atStart
        exact absurd atStart List.not_mem_nil
      · rw [kind_of_mem_reachFindings outOfReach]
        intro same
        cases same
    · obtain ⟨entry, inside, made⟩ := List.mem_flatMap.mp special
      exact nodes entry inside finding made

end Graph

end Storyline
