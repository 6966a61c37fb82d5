import Storyline.Proofs.Inspection.Findings
import Storyline.Proofs.Play.Action

/-!
# Broken links

A link stands at a choice, leads on from a scene, or belongs to a branch. Only a choice may
be without a target. A link is broken if it has no target, or if its target is no node. The
two targets that end play need no node, but behind a branch they do.

Play follows each of these links in its own way, and fails at once for want of the target
exactly if the link is broken. That does not depend on the state. An inspection finds each
broken link once, and no other link.
-/

namespace Storyline

/-- A link of a node: that of a choice, with its place among all choices, the one that leads on
from a scene, or that of a branch for a truth value. -/
inductive Link where
  | choice (index : Nat) (choice : Choice)
  | next (target : NodeId)
  | branch (value : Bool) (target : NodeId)

namespace Link

/-- The target of a link. -/
def target? : Link → Option NodeId
  | .choice _ picked => picked.next
  | .next target => some target
  | .branch _ target => some target

/-- Whether a link belongs to a branch. -/
def isBranch : Link → Bool
  | .branch _ _ => true
  | _ => false

/-- What a message calls a link. -/
def name : Link → String
  | .choice index picked => "choice " ++ toString index ++ " ('" ++ picked.text ++ "')"
  | .next _ => "next"
  | .branch true _ => "true branch"
  | .branch false _ => "false branch"

/-- What is wrong with a broken link. -/
def problem (link : Link) : String :=
  match link.target? with
  | none => link.name ++ " has no target"
  | some target => link.name ++ " points to missing node '" ++ target ++ "'"

/-- The finding that a link of a node is broken. -/
def finding (id : NodeId) (link : Link) : Finding := ⟨id, .brokenLink, link.problem⟩

/-- The error of a link of a node that fails for want of its target. -/
def failure (id : NodeId) (link : Link) : StoryError :=
  match link.target? with
  | none => .missingTarget id
  | some target => .sceneNotFound target

end Link

/-- The links of a node: those of all choices, the one that leads on, and those of a branch that
are there. -/
def Node.links : Node → List Link
  | .choice node =>
    node.choices.zipIdx.map (fun entry => .choice entry.2 entry.1) ++ node.next.toList.map .next
  | .input node => node.next.toList.map .next
  | .logic node =>
    node.nextTrue.toList.map (.branch true) ++ node.nextFalse.toList.map (.branch false)
  | .death _ | .win _ => []

namespace Narrator

/-- Follows a link of a node from a state. -/
def followLink (narrator : Narrator) (state : State) (id : NodeId) : Link → Turn
  | .choice _ choice => narrator.follow state id choice.next (some choice)
  | .next target => narrator.follow state id (some target) none
  | .branch _ target => narrator.resolveFrom state target

/-- Whether following a link of a node from a state fails at once for want of its target. -/
def failsAtOnce (narrator : Narrator) (state : State) (id : NodeId) (link : Link) : Bool :=
  match (narrator.followLink state id link).answer with
  | .ok _ => false
  | .error error => error == link.failure id

/-- Play follows a link of a node: the player takes a choice whose effects do not ask to start
again, goes on from a scene without choices, or hands in a text that is not blank, or play passes a
branch. -/
inductive Follows (narrator : Narrator) (id : NodeId) : Link → Turn → Prop where
  | chosen {state : State} {node : ChoiceNode} {index : Nat} {choice : Choice}
      (stands : state.currentScene = id) (found : narrator.graph.node? id = some (.choice node))
      (visible : narrator.visible? state node index = some choice)
      (staying : (Effect.applyAll choice.effects state).1.restart = false) :
      Follows narrator id (.choice index choice) (narrator.choose state index)
  | advanced {state : State} {node : ChoiceNode} {target : NodeId}
      (stands : state.currentScene = id) (found : narrator.graph.node? id = some (.choice node))
      (bare : node.choices = []) (linked : node.next = some target) :
      Follows narrator id (.next target) (narrator.advance state)
  | typed {state : State} {node : InputNode} {target : NodeId} {input : String}
      (stands : state.currentScene = id) (found : narrator.graph.node? id = some (.input node))
      (notBlank : (Text.trim input).isEmpty = false) (linked : node.next = some target) :
      Follows narrator id (.next target) (narrator.submit state input)
  | passed {state : State} {node : LogicNode} {target : NodeId}
      (found : narrator.graph.node? id = some (.logic node))
      (linked : node.link (narrator.branching state node) = some target) :
      Follows narrator id (.branch (narrator.branching state node) target)
        (narrator.resolveFrom state id)

end Narrator

namespace Graph

variable {graph : Graph}

/-- Whether a link is broken. -/
def breaks (graph : Graph) (link : Link) : Bool :=
  link.target?.all fun target =>
    !graph.contains target && (link.isBranch || (Ending.ofTarget? target).isNone)

/-- A link with a target has a problem if it is broken. Only a branch needs a node also for the
targets that end play. The two rules of the inspection are thus one rule with the kind of the link
in it. -/
theorem linkProblem_eq {link : Link} {target : NodeId} (targeted : link.target? = some target) :
    graph.linkProblem link.name
        (if link.isBranch then some target else withoutEndings (some target)) =
      if graph.breaks link then some link.problem else none := by
  have problem : link.problem = link.name ++ " points to missing node '" ++ target ++ "'" := by
    simp only [Link.problem, targeted]
  have breaks : graph.breaks link =
      (!graph.contains target && (link.isBranch || (Ending.ofTarget? target).isNone)) := by
    simp only [Graph.breaks, targeted, Option.all_some]
  rw [problem, breaks]
  generalize link.name = what
  cases contained : graph.contains target <;> cases link.isBranch <;>
    cases named : Ending.ofTarget? target <;>
    simp [linkProblem, withoutEndings, Option.filter, contained, named]

/-- The one link that an optional target makes has a problem if it is broken. The four kinds of
single links of a node are cases of this, with their names in messages. -/
theorem linkProblems_of_target (graph : Graph) (what : String) (branched : Bool) (make : NodeId → Link)
    (named : ∀ target, (make target).name = what)
    (targeted : ∀ target, (make target).target? = some target)
    (placed : ∀ target, (make target).isBranch = branched) (link : Option NodeId) :
    (graph.linkProblem what (if branched then link else withoutEndings link)).toList =
      ((link.toList.map make).filter graph.breaks).map Link.problem := by
  cases link with
  | none => cases branched <;> rfl
  | some target =>
    have same := graph.linkProblem_eq (targeted target)
    rw [named, placed] at same
    rw [same, Option.toList_some, List.map_singleton, List.filter_cons]
    cases graph.breaks (make target) <;> rfl

/-- A choice has a problem if its link is broken. A choice without a target is broken by a rule of
its own, and the message says so. -/
theorem choiceProblem_eq (choice : Choice) (index : Nat) :
    graph.choiceProblem choice index =
      if graph.breaks (.choice index choice) then some (Link.choice index choice).problem
      else none := by
  cases linked : choice.next with
  | none =>
    have untargeted : (Link.choice index choice).target? = none := linked
    simp only [choiceProblem, breaks, Link.problem, untargeted, linked, Option.all_none, if_true]
    rfl
  | some target =>
    have targeted : (Link.choice index choice).target? = some target := linked
    rw [← linkProblem_eq targeted]
    simp only [choiceProblem, linked]
    rfl

/-- The problems with the links of a node are those of its broken links, in order.

Proof: by the kind of the node. Choices are looked at with their places, and each single link is as
it was shown before. -/
theorem linkProblems_eq (node : Node) :
    graph.linkProblems node = (node.links.filter graph.breaks).map Link.problem := by
  cases node with
  | choice node =>
    have choices (placed : List (Choice × Nat)) :
        placed.filterMap (fun entry => graph.choiceProblem entry.1 entry.2) =
          ((placed.map fun entry => Link.choice entry.2 entry.1).filter graph.breaks).map
            Link.problem := by
      induction placed with
      | nil => rfl
      | cons entry rest inductionHypothesis =>
        rw [List.filterMap_cons, choiceProblem_eq, List.map_cons, List.filter_cons]
        split <;> simp_all
    have onward := graph.linkProblems_of_target "next" false .next (fun _ => rfl)
      (fun _ => rfl) (fun _ => rfl) node.next
    simp only [linkProblems, Node.links, List.filter_append, List.map_append, choices, ← onward]
    rfl
  | input node =>
    exact graph.linkProblems_of_target "next" false .next (fun _ => rfl) (fun _ => rfl) (fun _ => rfl)
      node.next
  | logic node =>
    have whenTrue := graph.linkProblems_of_target "true branch" true (.branch true)
      (fun _ => rfl) (fun _ => rfl) (fun _ => rfl) node.nextTrue
    have whenFalse := graph.linkProblems_of_target "false branch" true (.branch false)
      (fun _ => rfl) (fun _ => rfl) (fun _ => rfl) node.nextFalse
    simp only [linkProblems, Node.links, List.filter_append, List.map_append, ← whenTrue,
      ← whenFalse]
    rfl
  | death message => rfl
  | win message => rfl

/-- Of what is found at a node, exactly the findings about its broken links say that a link is
broken.

Proof: of the three groups of findings at a node only the one about links has the kind, and it has
no other. -/
theorem filter_nodeFindings_brokenLink (id : NodeId) (node : Node) :
    (graph.nodeFindings id node).filter (fun finding => finding.kind == .brokenLink) =
      (node.links.filter graph.breaks).map (Link.finding id) := by
  have atExit : (exitFindings id node).filter (fun finding => finding.kind == .brokenLink) = [] := by
    apply filter_kind_eq_nil
    intro finding member
    rw [kind_of_mem_exitFindings member]
    decide
  have inWords : (vocabularyFindings id node).filter
      (fun finding => finding.kind == .brokenLink) = [] := by
    apply filter_kind_eq_nil
    intro finding member
    rcases kind_of_mem_vocabularyFindings member with kind | kind | kind
    · rw [kind]
      decide
    · rw [kind]
      decide
    · rw [kind]
      decide
  have atLinks : ((graph.linkProblems node).map fun message =>
      (⟨id, .brokenLink, message⟩ : Finding)).filter (fun finding => finding.kind == .brokenLink) =
        (node.links.filter graph.breaks).map (Link.finding id) := by
    rw [linkProblems_eq, List.map_map]
    refine List.filter_eq_self.mpr fun finding member => ?_
    obtain ⟨link, -, rfl⟩ := List.mem_map.mp member
    rfl
  rw [nodeFindings, List.filter_append, List.filter_append, atExit, atLinks, inWords,
    List.nil_append, List.append_nil]

/-- An inspection finds the broken links of all nodes, each of them once, in the order of the nodes
and of the links of a node.

Proof: findings of this kind are made in the order of the nodes, so the report does not move them,
and the passes over start and reach make none. -/
theorem ofKind_brokenLink (graph : Graph) :
    graph.inspect.ofKind .brokenLink =
      graph.nodes.entries.flatMap fun entry =>
        (entry.2.links.filter graph.breaks).map (Link.finding entry.1) := by
  have found : graph.findings.filter (fun finding => finding.kind == .brokenLink) =
      graph.nodes.entries.flatMap fun entry =>
        (entry.2.links.filter graph.breaks).map (Link.finding entry.1) := by
    have atStart : graph.startFindings.filter (fun finding => finding.kind == .brokenLink) = [] := by
      apply filter_kind_eq_nil
      intro finding member
      rw [kind_of_mem_startFindings member]
      decide
    have outOfReach : graph.reachFindings.filter
        (fun finding => finding.kind == .brokenLink) = [] := by
      apply filter_kind_eq_nil
      intro finding member
      rw [kind_of_mem_reachFindings member]
      decide
    rw [findings, List.filter_append, List.filter_append, atStart, outOfReach, List.nil_append,
      List.nil_append, List.filter_flatMap]
    simp only [filter_nodeFindings_brokenLink]
  have ordered : (graph.nodes.entries.flatMap fun entry =>
      (entry.2.links.filter graph.breaks).map (Link.finding entry.1)).Pairwise
        fun first second => first.node ≤ second.node := by
    refine List.pairwise_flatMap.mpr ⟨fun entry _ => ?_, graph.nodes.increasing.imp ?_⟩
    · exact List.pairwise_map.mpr (List.pairwise_of_forall fun _ _ => String.le_refl entry.1)
    · intro first second smaller finding member other otherMember
      obtain ⟨_, -, rfl⟩ := List.mem_map.mp member
      obtain ⟨_, -, rfl⟩ := List.mem_map.mp otherMember
      exact String.not_lt.mp (String.lt_asymm smaller)
  rw [inspect, Report.ofKind_ofFindings (found ▸ ordered), found]

end Graph

namespace Narrator

variable {narrator : Narrator} {state : State} {id : NodeId} {link : Link} {turn : Turn}

/-- A name is not found where it is looked for exactly if it has no node. A name that is found may
still lead on to one that is not, and then another name is in the error. -/
theorem resolveFrom_absent_iff :
    (narrator.resolveFrom state id).answer = .error (.sceneNotFound id) ↔
      narrator.graph.contains id = false := by
  rw [resolveFrom_sceneNotFound_iff, Graph.contains_eq_false_iff]
  constructor
  · rintro ⟨passed, -, absent⟩
    exact absent
  · intro absent
    exact ⟨[], .here id, absent⟩

/-- Following a link of a scene fails for want of its target exactly if the link has no target, or
the target is no node and stands for no ending.

Proof: by the three ways to follow a link. The error of a resolution that fails further on has
another name in it. -/
theorem follow_lacks_iff {next : Option NodeId} {choice : Option Choice} :
    (narrator.follow state id next choice).answer =
        .error (next.elim (.missingTarget id) .sceneNotFound) ↔
      next.all (fun target => !narrator.graph.contains target &&
        (Ending.ofTarget? target).isNone) = true := by
  rcases narrator.follow_cases state id next choice with
    ⟨rfl, same⟩ | ⟨target, ending, rfl, missing, named, same⟩ | ⟨target, rfl, needed, same⟩
  · rw [same]
    exact iff_of_true rfl rfl
  · rw [same]
    refine iff_of_false (fun failed => by cases failed) ?_
    simp [named]
  · rw [same, Option.elim_some, resolveFrom_absent_iff]
    rcases needed with contained | unnamed
    · simp [contained]
    · simp [unnamed]

/-- Following a link fails for want of its target exactly if the link is broken. The state plays no
part in it, which is what lets an inspection know. -/
theorem followLink_fails_iff (narrator : Narrator) (state : State) (id : NodeId) (link : Link) :
    (narrator.followLink state id link).answer = .error (link.failure id) ↔
      narrator.graph.breaks link = true := by
  cases link with
  | choice index choice =>
    have failure : (Link.choice index choice).failure id =
        choice.next.elim (.missingTarget id) .sceneNotFound := by
      simp only [Link.failure, Link.target?]
      cases choice.next <;> rfl
    rw [failure]
    exact follow_lacks_iff
  | next target => exact follow_lacks_iff
  | branch value target =>
    refine resolveFrom_absent_iff.trans ?_
    simp [Graph.breaks, Link.target?, Link.isBranch]

/-- A link that fails at once is a broken one. Whether a link is followed with success or fails
elsewhere makes no difference here. -/
theorem failsAtOnce_eq : narrator.failsAtOnce state id link = narrator.graph.breaks link := by
  rw [Bool.eq_iff_iff, ← narrator.followLink_fails_iff state id link, failsAtOnce]
  cases (narrator.followLink state id link).answer with
  | ok resolved => simp
  | error error => simp

/-- Wherever play follows a link, it fails for want of the link's target exactly if the link is
broken.

Proof: by the ways in which play follows a link. What the action writes before its link changes the
state, and the law of single links holds in every state. -/
theorem Follows.fails_iff (follows : narrator.Follows id link turn) :
    turn.answer = .error (link.failure id) ↔ narrator.graph.breaks link = true := by
  cases follows with
  | @chosen state node index choice stands found visible staying =>
    subst stands
    have begun : narrator.beginning state (.choose index) = choice.beginning state := by
      simp only [beginning, found, beginningAtChoices, visible]
    have performed := narrator.perform_eq state (.choose index)
    rw [begun, Choice.beginning] at performed
    simp only [staying, Bool.false_eq_true, if_false] at performed
    rw [show narrator.choose state index = _ from performed]
    exact Turn.after_error_iff.trans
      (narrator.followLink_fails_iff _ state.currentScene (.choice index choice))
  | @advanced state node target stands found bare linked =>
    subst stands
    have same : narrator.advance state = narrator.follow state state.currentScene node.next none := by
      simp only [advance, found, bare, List.isEmpty_nil, if_true]
    rw [same, linked]
    exact narrator.followLink_fails_iff state state.currentScene (.next target)
  | @typed state node target input stands found notBlank linked =>
    subst stands
    rw [submit_eq found notBlank, linked]
    exact Turn.after_error_iff.trans
      (narrator.followLink_fails_iff _ state.currentScene (.next target))
  | @passed state node target found linked =>
    have broken : narrator.graph.breaks (.branch (narrator.branching state node) target) = true ↔
        narrator.graph.contains target = false := by
      simp [Graph.breaks, Link.target?, Link.isBranch]
    have failure : (Link.branch (narrator.branching state node) target).failure id =
        .sceneNotFound target := rfl
    rw [broken, failure, resolveFrom_sceneNotFound_iff, Graph.contains_eq_false_iff]
    constructor
    · rintro ⟨passed, -, absent⟩
      exact absent
    · intro absent
      exact ⟨_, .past found linked (.here target), absent⟩

/-- Play follows only links that are there. So there is no link of play that an inspection would
not look at. -/
theorem Follows.mem_links (follows : narrator.Follows id link turn) :
    ∃ node, narrator.graph.node? id = some node ∧ link ∈ node.links := by
  cases follows with
  | @chosen state node index choice stands found visible staying =>
    have placed : node.choices[index]? = some choice := (Option.filter_eq_some_iff.mp visible).1
    exact ⟨_, found, List.mem_append_left _
      (List.mem_map.mpr ⟨(choice, index), List.mem_zipIdx_iff_getElem?.mpr placed, rfl⟩)⟩
  | advanced stands found bare linked =>
    exact ⟨_, found, List.mem_append_right _ (List.mem_map_of_mem (Option.mem_toList.mpr linked))⟩
  | typed stands found notBlank linked =>
    exact ⟨_, found, List.mem_map_of_mem (Option.mem_toList.mpr linked)⟩
  | @passed state node target found linked =>
    refine ⟨_, found, ?_⟩
    cases selected : narrator.branching state node with
    | true =>
      rw [selected] at linked
      exact List.mem_append_left _ (List.mem_map_of_mem (Option.mem_toList.mpr linked))
    | false =>
      rw [selected] at linked
      exact List.mem_append_right _ (List.mem_map_of_mem (Option.mem_toList.mpr linked))

/-- The two targets that end play. Which of the two endings it is plays no part. -/
theorem isSome_ofTarget? {target : NodeId} (ends : target = deathTarget ∨ target = winTarget) :
    (Ending.ofTarget? target).isSome = true := by
  rcases ends with rfl | rfl <;> rfl

/-- An inspection and play agree on every link, whatever the state. The links that are found broken
are those that fail at once for want of their targets, and each of them is found once. Wherever
play follows a link, be it by an action or past a branch, it is a link of the node, and it fails
for want of its target exactly if it is one of them. No link to a node is broken, whatever the
node's name. A link to no node that names an ending is broken behind a branch only.

Nothing is assumed of the graph or of the state. That a link fails at once means that the error
names its own target, or the node of a choice that has none; failures further on are not counted.

Proof: a broken link is found by one rule for all kinds of links, and following a link fails by the
same rule in every state. What an action does before its link leaves the rule as it is. -/
theorem broken_links_are_those_that_fail (narrator : Narrator) (state : State) :
    narrator.graph.inspect.ofKind .brokenLink =
        (narrator.graph.nodes.entries.flatMap fun entry =>
          (entry.2.links.filter (narrator.failsAtOnce state entry.1)).map (Link.finding entry.1)) ∧
      (∀ id link turn, narrator.Follows id link turn →
        (∃ node, narrator.graph.node? id = some node ∧ link ∈ node.links) ∧
          (turn.answer = .error (link.failure id) ↔
            narrator.failsAtOnce state id link = true)) ∧
      (∀ id link target, link.target? = some target → narrator.graph.contains target = true →
        narrator.failsAtOnce state id link = false) ∧
      (∀ id link target, link.target? = some target → narrator.graph.contains target = false →
        target = deathTarget ∨ target = winTarget →
          narrator.failsAtOnce state id link = link.isBranch) := by
  have same : narrator.failsAtOnce state = fun _ link => narrator.graph.breaks link := by
    funext id link
    exact failsAtOnce_eq
  rw [same]
  refine ⟨narrator.graph.ofKind_brokenLink, fun id link turn follows => ?_,
    fun id link target targeted contained => ?_, fun id link target targeted missing ends => ?_⟩
  · exact ⟨follows.mem_links, follows.fails_iff⟩
  · simp [Graph.breaks, targeted, contained]
  · have named := isSome_ofTarget? ends
    simp [Graph.breaks, targeted, missing, Option.isNone_eq_false_iff.mpr named]

/-- A crossing from where one choice leads nowhere, one to death, and one has no target, with a
signpost that leads to death or back. -/
def crossing : Narrator :=
  { graph :=
    { start := "crossing",
      nodes := (Table.empty.insert "crossing" (.choice
          { choices := [{ text := "ghost", next := some "nowhere" },
              { text := "die", next := some "death" }, { text := "empty" }],
            next := some "win" })).insert "signpost" (.logic
          { condition := some (.flag "x"), nextTrue := some "crossing",
            nextFalse := some "death" }) } }

/-- At the crossing two choices are broken, and so is the way to death behind the signpost. Whoever
passes the signpost without the flag does not find death. The choice that leads to death is none of
them, as it stands at a scene. -/
theorem crossing_has_three_broken_links :
    let astray : State := { day := 0, minutes := 480, playerName := "Player", currentScene := "" }
    (crossing.graph.inspect.ofKind .brokenLink).map Finding.message =
        ["choice 0 ('ghost') points to missing node 'nowhere'", "choice 2 ('empty') has no target",
          "false branch points to missing node 'death'"] ∧
      (crossing.resolveFrom astray "signpost").answer = .error (.sceneNotFound "death") := by
  intro astray
  obtain ⟨reported, followed, -, behindBranch⟩ := broken_links_are_those_that_fail crossing astray
  constructor
  · have same : crossing.failsAtOnce astray = fun _ link => crossing.graph.breaks link := by
      funext id link
      exact failsAtOnce_eq
    rw [reported, same]
    decide
  · have passing : crossing.Follows "signpost" (.branch false "death")
        (crossing.resolveFrom astray "signpost") := by
      have unset : crossing.branching astray
          { condition := some (.flag "x"), nextTrue := some "crossing",
            nextFalse := some "death" } = false := rfl
      rw [← unset]
      exact .passed rfl rfl
    have broken := behindBranch "signpost" (.branch false "death") "death" rfl rfl (Or.inl rfl)
    exact (followed _ _ _ passing).2.mpr broken

end Narrator

end Storyline
