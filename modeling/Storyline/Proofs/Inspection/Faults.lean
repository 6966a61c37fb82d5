import Storyline.Proofs.Inspection.Exact
import Storyline.Proofs.Inspection.Links
import Storyline.Proofs.Inspection.Places

/-!
# What is wrong with a story

A fault of a story stands at a place: the start, a node that is out of reach, the exit of a
node, one of its links, a part of one of its conditions, or one of its effects. The places are
said without an inspection, and two faults are the same one only if their places are.

The passes of an inspection find each fault once and nothing else.
-/

namespace Storyline

/-- A node that does not end play has no way out, with what a message says of it. -/
inductive Node.DeadEnd : Node → String → Prop where
  | choice {node : ChoiceNode} (bare : node.choices = []) (unlinked : node.next = none) :
      DeadEnd (.choice node) "choice node has no way out"
  | input {node : InputNode} (unlinked : node.next = none) :
      DeadEnd (.input node) "input node has no way out"
  | logic {node : LogicNode} (whenTrue : node.nextTrue = none) (whenFalse : node.nextFalse = none) :
      DeadEnd (.logic node) "logic node has neither a true nor a false branch"

/-- A place at a node. -/
inductive NodePlace where
  | exit
  | link (link : Link)
  | guard (place : GuardPlace) (path : List Nat)
  | effect (place : EffectPlace)

/-- A place of a story. -/
inductive FaultPlace where
  | start
  | reach (id : NodeId)
  | node (id : NodeId) (place : NodePlace)

namespace Graph

/-- Play could come to a node from the start, whatever the conditions on the way. -/
inductive Reaches (graph : Graph) : NodeId → Prop where
  | start (contained : graph.contains graph.start = true) : Reaches graph graph.start
  | link {id : NodeId} {node : Node} {target : NodeId} (reached : Reaches graph id)
      (found : graph.node? id = some node) (linked : target ∈ node.edges)
      (contained : graph.contains target = true) : Reaches graph target

/-- What is wrong at a place of a node, with the finding that says so. -/
inductive NodeFault (graph : Graph) (id : NodeId) (node : Node) : NodePlace → Finding → Prop where
  | deadEnd {message : String} (deadEnd : node.DeadEnd message) :
      NodeFault graph id node .exit ⟨id, .deadEnd, message⟩
  | brokenLink {link : Link} (linked : link ∈ node.links) (broken : graph.breaks link = true) :
      NodeFault graph id node (.link link) (link.finding id)
  | unknownCondition {place : GuardPlace} {condition : Condition} {path : List Nat}
      (guarded : node.guard? place = some condition)
      (mistaken : condition.MistakenAt path .unknownType) :
      NodeFault graph id node (.guard place path)
        ⟨id, .unknownCondition, "unknown condition type, treated as true"⟩
  | emptyNegation {place : GuardPlace} {condition : Condition} {path : List Nat}
      (guarded : node.guard? place = some condition)
      (mistaken : condition.MistakenAt path .emptyNegation) :
      NodeFault graph id node (.guard place path)
        ⟨id, .emptyNegation, "NOT condition has no child"⟩
  | unknownEffect {place : EffectPlace} (unknown : node.effect? place = some .unknown) :
      NodeFault graph id node (.effect place) ⟨id, .unknownEffect, "unknown effect type, skipped"⟩

/-- What is wrong at a place of a story, with the finding that says so. The start may be
missing in one of two ways, never in both. Without a start nothing is out of reach. -/
inductive Fault (graph : Graph) : FaultPlace → Finding → Prop where
  | unset (unset : graph.start = "") :
      Fault graph .start ⟨graph.start, .missingStart, "no start node is set"⟩
  | missing (set : graph.start ≠ "") (absent : graph.contains graph.start = false) :
      Fault graph .start
        ⟨graph.start, .missingStart, "start node '" ++ graph.start ++ "' does not exist"⟩
  | unreachable {id : NodeId} (started : graph.contains graph.start = true)
      (contained : graph.contains id = true) (unreached : ¬ graph.Reaches id) :
      Fault graph (.reach id) ⟨id, .unreachable, "not reachable from the start node"⟩
  | atNode {id : NodeId} {node : Node} {place : NodePlace} {finding : Finding}
      (found : graph.node? id = some node) (fault : graph.NodeFault id node place finding) :
      Fault graph (.node id place) finding

end Graph

/-! ## What is found at a node -/

namespace Node

/-- No link of a node is listed twice. Two choices with the same text and target are different
links by their indices.

Proof: by the kind of the node; links that lead on and links of choices are of different kinds. -/
theorem nodup_links (node : Node) : node.links.Nodup := by
  cases node with
  | choice node =>
    have choices : (node.choices.zipIdx.map fun entry => Link.choice entry.2 entry.1).Nodup := by
      let index : Link → Nat
        | .choice index _ => index
        | _ => 0
      refine List.Nodup.of_map index ?_
      rw [List.map_map, show index ∘ (fun entry : Choice × Nat => Link.choice entry.2 entry.1) =
        Prod.snd from rfl, List.zipIdx_map_snd]
      exact List.nodup_range'
    refine List.nodup_append.mpr ⟨choices, ?_, ?_⟩
    · cases node.next <;> simp
    · rintro _ member _ otherMember rfl
      obtain ⟨entry, -, rfl⟩ := List.mem_map.mp member
      obtain ⟨target, -, same⟩ := List.mem_map.mp otherMember
      cases same
  | input node =>
    change (node.next.toList.map Link.next).Nodup
    cases node.next <;> simp
  | logic node =>
    change (node.nextTrue.toList.map (Link.branch true) ++
      node.nextFalse.toList.map (Link.branch false)).Nodup
    cases node.nextTrue <;> cases node.nextFalse <;> simp
  | death message => exact List.nodup_nil
  | win message => exact List.nodup_nil

end Node

/-- The pass that looks at a place of a node. -/
def NodePlace.pass : NodePlace → Nat
  | .exit => 2
  | .link _ => 3
  | .guard _ _ => 4
  | .effect _ => 5

namespace Graph

variable {graph : Graph} {id : NodeId} {node : Node}

/-- What is wrong at the places of a node that one pass looks at. -/
def PassFault (graph : Graph) (id : NodeId) (node : Node) (pass : Nat) (place : NodePlace)
    (finding : Finding) : Prop :=
  graph.NodeFault id node place finding ∧ place.pass = pass

/-- A node is found without a way out exactly if it is a dead end.

Proof: by the kind of the node. Endings are never found here, whatever their message. -/
theorem mem_exitFindings_iff {finding : Finding} :
    finding ∈ exitFindings id node ↔
      ∃ message, node.DeadEnd message ∧ finding = ⟨id, .deadEnd, message⟩ := by
  constructor
  · intro member
    unfold exitFindings at member
    split at member
    · cases member
    · rename_i closed
      refine ⟨_, ?_, List.mem_singleton.mp member⟩
      cases node with
      | choice node =>
        have parts : node.choices = [] ∧ node.next = none := by
          simpa [Node.isTerminal, Node.hasExit] using closed
        exact .choice parts.1 parts.2
      | input node =>
        have unlinked : node.next = none := by
          simpa [Node.isTerminal, Node.hasExit] using closed
        exact .input unlinked
      | logic node =>
        have parts : node.nextTrue = none ∧ node.nextFalse = none := by
          simpa [Node.isTerminal, Node.hasExit] using closed
        exact .logic parts.1 parts.2
      | death message => exact absurd rfl closed
      | win message => exact absurd rfl closed
  · rintro ⟨message, deadEnd, rfl⟩
    cases deadEnd with
    | choice bare unlinked =>
      simp [exitFindings, Node.isTerminal, Node.hasExit, bare, unlinked]
      rfl
    | input unlinked =>
      simp [exitFindings, Node.isTerminal, Node.hasExit, unlinked]
      rfl
    | logic whenTrue whenFalse =>
      simp [exitFindings, Node.isTerminal, Node.hasExit, whenTrue, whenFalse]

/-- A node without a way out is found once. The exit is one place, so there is at most one finding
of it. -/
theorem oneForEach_exitFindings (graph : Graph) (id : NodeId) (node : Node) :
    OneForEach (graph.PassFault id node 2) (exitFindings id node) := by
  have few : (exitFindings id node).length ≤ 1 := by
    unfold exitFindings
    split
    · exact Nat.zero_le 1
    · exact Nat.le_refl 1
  refine (OneForEach.ofFew NodePlace.exit few).congr fun place finding => ?_
  rw [mem_exitFindings_iff]
  constructor
  · rintro ⟨rfl, message, deadEnd, rfl⟩
    exact ⟨.deadEnd deadEnd, rfl⟩
  · rintro ⟨fault, pass⟩
    cases fault with
    | deadEnd deadEnd => exact ⟨rfl, _, deadEnd, rfl⟩
    | _ => cases pass

/-- The broken links of a node are found one by one.

Proof: the links of a node are listed once each and are places of their own; the broken ones are
chosen and turned into findings. -/
theorem oneForEach_linkFindings (graph : Graph) (id : NodeId) (node : Node) :
    OneForEach (graph.PassFault id node 3)
      ((graph.linkProblems node).map fun message => ⟨id, .brokenLink, message⟩) := by
  have label : NodePlace.link.Injective := fun _ _ same => by cases same; rfl
  have distinct : (node.links.map fun link => link).Nodup := by
    rw [List.map_id']
    exact node.nodup_links
  have each := (((OneForEach.ofKeys _ distinct).filter graph.breaks).map
    (Link.finding id)).relabel label
  rw [linkProblems_eq, List.map_map]
  refine each.congr fun place finding => ⟨?_, ?_⟩
  · rintro ⟨_, ⟨link, ⟨⟨linked, rfl⟩, broken⟩, rfl⟩, rfl⟩
    exact ⟨.brokenLink linked broken, rfl⟩
  · rintro ⟨fault, pass⟩
    cases fault with
    | brokenLink linked broken => exact ⟨_, ⟨_, ⟨⟨linked, rfl⟩, broken⟩, rfl⟩, rfl⟩
    | _ => cases pass

/-- The mistakes in the conditions of a node are found one by one.

Proof: conditions have places at the node, and mistakes have paths in a condition. The two are
joined to a place of the mistake. -/
theorem oneForEach_guardFindings (graph : Graph) (id : NodeId) (node : Node) :
    OneForEach (graph.PassFault id node 4)
      ((node.conditions.flatMap Condition.issues).map (issueFinding id)) := by
  have each := (node.oneForEach_conditions.flatMap NodePlace.guard
    (fun same => by cases same; exact ⟨rfl, rfl⟩)
    fun condition _ => condition.oneForEach_issues).map (issueFinding id)
  refine each.congr fun place finding => ⟨?_, ?_⟩
  · rintro ⟨issue, ⟨place, condition, path, guarded, mistaken, rfl⟩, rfl⟩
    cases issue with
    | unknownType => exact ⟨.unknownCondition guarded mistaken, rfl⟩
    | emptyNegation => exact ⟨.emptyNegation guarded mistaken, rfl⟩
  · rintro ⟨fault, pass⟩
    cases fault with
    | unknownCondition guarded mistaken => exact ⟨_, ⟨_, _, _, guarded, mistaken, rfl⟩, rfl⟩
    | emptyNegation guarded mistaken => exact ⟨_, ⟨_, _, _, guarded, mistaken, rfl⟩, rfl⟩
    | _ => cases pass

/-- The unknown effects of a node are found one by one.

Proof: effects have places at the node, of which those of unknown effects are chosen. -/
theorem oneForEach_effectFindings (graph : Graph) (id : NodeId) (node : Node) :
    OneForEach (graph.PassFault id node 5)
      ((node.effects.filter fun
        | .unknown => true
        | _ => false).map fun _ => ⟨id, .unknownEffect, "unknown effect type, skipped"⟩) := by
  have label : NodePlace.effect.Injective := fun _ _ same => by cases same; rfl
  refine ((node.oneForEach_effects.filter _).map _ |>.relabel label).congr
    fun place finding => ⟨?_, ?_⟩
  · rintro ⟨place, ⟨effect, ⟨found, chosen⟩, rfl⟩, rfl⟩
    cases effect with
    | unknown => exact ⟨.unknownEffect found, rfl⟩
    | _ => cases chosen
  · rintro ⟨fault, pass⟩
    cases fault with
    | unknownEffect found => exact ⟨_, ⟨_, ⟨found, rfl⟩, rfl⟩, rfl⟩
    | _ => cases pass

/-- What is wrong at a node is found one by one.

Proof: the four passes look at different places, so their lists can be put together; every fault at
a node is found by one of them. -/
theorem oneForEach_nodeFindings (graph : Graph) (id : NodeId) (node : Node) :
    OneForEach (graph.NodeFault id node) (graph.nodeFindings id node) := by
  have apart {pass other : Nat} (different : pass ≠ other) (place : NodePlace)
      (finding another : Finding) (first : graph.PassFault id node pass place finding) :
      ¬ graph.PassFault id node other place another :=
    fun second => different (first.2.symm.trans second.2)
  have atLinks := (graph.oneForEach_exitFindings id node).append
    (graph.oneForEach_linkFindings id node) (apart (by decide))
  have inWords := (graph.oneForEach_guardFindings id node).append
    (graph.oneForEach_effectFindings id node) (apart (by decide))
  refine (atLinks.append inWords ?_).congr fun place finding => ⟨?_, fun fault => ?_⟩
  · rintro place finding another (first | first) (second | second)
    · exact apart (by decide) place finding another first second
    · exact apart (by decide) place finding another first second
    · exact apart (by decide) place finding another first second
    · exact apart (by decide) place finding another first second
  · rintro ((found | found) | (found | found)) <;> exact found.1
  · cases fault with
    | deadEnd deadEnd => exact .inl (.inl ⟨.deadEnd deadEnd, rfl⟩)
    | brokenLink linked broken => exact .inl (.inr ⟨.brokenLink linked broken, rfl⟩)
    | unknownCondition guarded mistaken =>
      exact .inr (.inl ⟨.unknownCondition guarded mistaken, rfl⟩)
    | emptyNegation guarded mistaken => exact .inr (.inl ⟨.emptyNegation guarded mistaken, rfl⟩)
    | unknownEffect unknown => exact .inr (.inr ⟨.unknownEffect unknown, rfl⟩)

/-! ## What is found in a story -/

/-- The nodes that the search lists are those that play could come to.

Proof: the search is closed under links and begins with the start. The other way round, what play
could come to is saturated, and the search stays in it. -/
theorem reaches_iff : graph.Reaches id ↔ id ∈ graph.reachable := by
  constructor
  · intro reaches
    induction reaches with
    | start contained => exact start_mem_reachable contained
    | link reached found linked contained inductionHypothesis =>
      exact graph.closed_reachable _ inductionHypothesis _ found _ linked contained
  · intro member
    have saturated : graph.Saturated {id | graph.Reaches id} :=
      ⟨.start, fun id reached node found target linked contained =>
        .link reached found linked contained⟩
    exact mem_of_saturated saturated member

/-- What is wrong with the start is found once. It is missing in one way or in the other, and the
two have different messages. -/
theorem oneForEach_startFindings (graph : Graph) :
    OneForEach (fun place finding => place = FaultPlace.start ∧ graph.Fault place finding)
      graph.startFindings := by
  have few : graph.startFindings.length ≤ 1 := by
    unfold startFindings
    split
    · exact Nat.le_refl 1
    · split
      · exact Nat.zero_le 1
      · exact Nat.le_refl 1
  refine (OneForEach.ofFew FaultPlace.start few).congr fun place finding =>
    and_congr_right fun same => ?_
  subst same
  unfold startFindings
  constructor
  · intro member
    split at member
    · rename_i unset
      rw [List.mem_singleton.mp member]
      exact .unset (String.isEmpty_iff.mp unset)
    · rename_i set
      split at member
      · cases member
      · rename_i absent
        rw [List.mem_singleton.mp member]
        exact .missing (fun unset => set (String.isEmpty_iff.mpr unset))
          (Bool.not_eq_true _ ▸ absent)
  · intro fault
    cases fault with
    | unset unset => simp [unset]
    | missing set absent => simp [set, absent]

/-- Nodes that are out of reach are found one by one. If the start is missing there is nothing of
this kind, and nothing is found either. -/
theorem oneForEach_reachFindings (graph : Graph) :
    OneForEach (fun place finding => (∃ id, place = FaultPlace.reach id) ∧ graph.Fault place finding)
      graph.reachFindings := by
  have label : FaultPlace.reach.Injective := fun _ _ same => by cases same; rfl
  by_cases started : graph.contains graph.start = true
  · have distinct : (graph.nodes.names.map fun name => name).Nodup := by
      rw [List.map_id']
      exact graph.nodes.nodup_names
    have each := (((OneForEach.ofKeys _ distinct).filter fun id => !graph.reachable.contains id).map
      fun id => (⟨id, .unreachable, "not reachable from the start node"⟩ : Finding)).relabel label
    rw [reachFindings, if_pos started]
    refine each.congr fun place finding => ⟨?_, ?_⟩
    · rintro ⟨_, ⟨id, ⟨⟨named, rfl⟩, unlisted⟩, rfl⟩, rfl⟩
      have unreached : ¬ graph.Reaches id := by
        rw [reaches_iff]
        simpa using unlisted
      exact ⟨⟨id, rfl⟩, .unreachable started (Table.mem_names_iff.mp named) unreached⟩
    · rintro ⟨⟨id, rfl⟩, fault⟩
      cases fault with
      | unreachable started contained unreached =>
        rw [reaches_iff] at unreached
        exact ⟨id, ⟨id, ⟨⟨Table.mem_names_iff.mpr contained, rfl⟩, by simpa using unreached⟩, rfl⟩,
          rfl⟩
  · rw [reachFindings, if_neg started]
    refine .none ?_
    rintro place finding ⟨⟨id, rfl⟩, fault⟩
    cases fault with
    | unreachable begun => exact started begun

/-- What is wrong at the nodes is found one by one.

Proof: nodes have names of their own, so a name and a place at the node are a place of the story. -/
theorem oneForEach_allNodeFindings (graph : Graph) :
    OneForEach (fun place finding => (∃ id inner, place = FaultPlace.node id inner) ∧
        graph.Fault place finding)
      (graph.nodes.entries.flatMap fun entry => graph.nodeFindings entry.1 entry.2) := by
  have each := (OneForEach.ofKeys Prod.fst graph.nodes.nodup_names).flatMap FaultPlace.node
    (fun same => by cases same; exact ⟨rfl, rfl⟩)
    fun entry _ => graph.oneForEach_nodeFindings entry.1 entry.2
  refine each.congr fun place finding => ⟨?_, ?_⟩
  · rintro ⟨_, ⟨id, node⟩, inner, ⟨member, rfl⟩, fault, rfl⟩
    exact ⟨⟨id, inner, rfl⟩, .atNode (Table.get?_eq_some_iff.mpr member) fault⟩
  · rintro ⟨⟨id, inner, rfl⟩, fault⟩
    cases fault with
    | @atNode _ node _ _ found fault =>
      exact ⟨id, (id, node), inner, ⟨Table.get?_eq_some_iff.mp found, rfl⟩, fault, rfl⟩

/-- The faults of a story are found one by one.

Proof: the start, nodes out of reach and places at nodes are places of three kinds, and each fault
is at a place of the kind that its pass looks at. -/
theorem oneForEach_findings (graph : Graph) : OneForEach graph.Fault graph.findings := by
  refine ((graph.oneForEach_startFindings.append graph.oneForEach_reachFindings ?_).append
    graph.oneForEach_allNodeFindings ?_).congr fun place finding => ⟨?_, fun fault => ?_⟩
  · rintro _ _ _ ⟨rfl, -⟩ ⟨⟨id, same⟩, -⟩
    cases same
  · rintro _ _ _ (⟨rfl, -⟩ | ⟨⟨id, rfl⟩, -⟩) ⟨⟨other, inner, same⟩, -⟩
    · cases same
    · cases same
  · rintro ((found | found) | found) <;> exact found.2
  · cases place with
    | start => exact .inl (.inl ⟨rfl, fault⟩)
    | reach id => exact .inl (.inr ⟨⟨id, rfl⟩, fault⟩)
    | node id inner => exact .inr ⟨⟨id, inner, rfl⟩, fault⟩

end Graph

end Storyline
