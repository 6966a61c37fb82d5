import Storyline.Proofs.Inspection.Findings
import Storyline.Proofs.Play.Offer

/-!
# Playable stories play

An inspection that finds no error has made sure of every link that play can follow:
the start exists, a branch that has a link has one to a node, and every link out of a
scene has a target that exists or stands for an ending. So what a scene offers can
always be carried out, and the start can always be resolved, unless branches stand in
the way: a branch may lack the link that a state selects, and branches may lead back
to each other. Neither is an error of the inspection.
-/

namespace Storyline

/-- The two errors that branches cause in spite of sound links. -/
def StoryError.IsOfBranches : StoryError → Prop
  | .danglingLogicBranch _ _ | .logicCycle _ _ => True
  | _ => False

namespace Graph

variable {graph : Graph}

/-- A link of a scene has a target that exists or stands for an ending. -/
def Usable (graph : Graph) (next : Option NodeId) : Prop :=
  ∃ target, next = some target ∧
    (graph.contains target = true ∨ ∃ ending, Ending.ofTarget? target = some ending)

/-- All links that play can follow lead somewhere. -/
structure SoundLinks (graph : Graph) : Prop where
  start : graph.contains graph.start = true
  branches : ∀ {id node branch target}, graph.node? id = some (.logic node) →
    node.link branch = some target → graph.contains target = true
  exits : ∀ {id node next}, graph.node? id = some node → node.LeavesBy next → graph.Usable next

/-- Nothing is wrong with a link exactly if its target exists, when it has one. A link that is not
there has nothing wrong with it here; whether it ought to be there is asked elsewhere. -/
theorem linkProblem_eq_none_iff {what : String} {link : Option NodeId} :
    graph.linkProblem what link = none ↔
      ∀ target, link = some target → graph.contains target = true := by
  cases link with
  | none => simp [linkProblem]
  | some target => simp [linkProblem]

/-- A link that may stand for an ending is usable if it has a target and nothing is wrong with it.
The two targets that end play are taken out before the link is looked at. -/
theorem usable_of_linkProblem {what : String} {link : Option NodeId} (linked : link.isSome = true)
    (nothing : graph.linkProblem what (withoutEndings link) = none) : graph.Usable link := by
  obtain ⟨target, rfl⟩ := Option.isSome_iff_exists.mp linked
  refine ⟨target, rfl, ?_⟩
  cases named : Ending.ofTarget? target with
  | some ending => exact Or.inr ⟨ending, rfl⟩
  | none => exact Or.inl (linkProblem_eq_none_iff.mp nothing target (by simp [withoutEndings, named]))

/-- The link of a choice is usable if nothing is wrong with the choice. A choice without a target
is reported, so it has one. -/
theorem usable_of_choiceProblem {choice : Choice} {index : Nat}
    (nothing : graph.choiceProblem choice index = none) : graph.Usable choice.next := by
  unfold choiceProblem at nothing
  cases link : choice.next with
  | none => simp [link] at nothing
  | some target =>
    simp only [link] at nothing
    exact usable_of_linkProblem rfl nothing

/-- A node without an error has a way out, unless it is an ending, and nothing is wrong with its
links. A dead end and a broken link are both errors, and these are the only two that matter for
play. -/
theorem links_of_harmless {id : NodeId} {node : Node}
    (harmless : ∀ finding ∈ graph.nodeFindings id node, finding.kind.severity ≠ .error) :
    (node.isTerminal || node.hasExit) = true ∧ graph.linkProblems node = [] := by
  unfold nodeFindings at harmless
  constructor
  · refine Classical.byContradiction fun noExit => ?_
    have reported : ∃ finding ∈ exitFindings id node, finding.kind = .deadEnd := by
      unfold exitFindings
      rw [if_neg noExit]
      exact ⟨_, List.mem_singleton.mpr rfl, rfl⟩
    obtain ⟨finding, made, kind⟩ := reported
    exact harmless finding (List.mem_append_left _ (List.mem_append_left _ made)) (by rw [kind]; rfl)
  · refine List.eq_nil_iff_forall_not_mem.mpr fun message made => ?_
    refine harmless ⟨id, .brokenLink, message⟩ ?_ rfl
    exact List.mem_append_left _ (List.mem_append_right _ (List.mem_map.mpr ⟨message, made, rfl⟩))

/-- Every link out of a scene is usable if nothing is wrong with its node.

Proof: by the ways to leave. A choice is looked at with its own position; the direct link and the
link of an input are there because the node has a way out. -/
theorem usable_of_leavesBy {node : Node} {next : Option NodeId}
    (exit : (node.isTerminal || node.hasExit) = true) (nothing : graph.linkProblems node = [])
    (leaves : node.LeavesBy next) : graph.Usable next := by
  cases leaves with
  | @choice node choice listed =>
    obtain ⟨index, placed⟩ := List.getElem?_of_mem listed
    have fine := List.filterMap_eq_nil_iff.mp (List.append_eq_nil_iff.mp nothing).1
      (choice, index) (List.mem_zipIdx_iff_getElem?.mpr placed)
    exact usable_of_choiceProblem fine
  | @direct node bare =>
    have linked : node.next.isSome = true := by
      simpa [Node.isTerminal, Node.hasExit, List.isEmpty_iff.mp bare] using exit
    exact usable_of_linkProblem linked
      (Option.toList_eq_nil_iff.mp (List.append_eq_nil_iff.mp nothing).2)
  | input node =>
    have linked : node.next.isSome = true := by
      simpa [Node.isTerminal, Node.hasExit] using exit
    exact usable_of_linkProblem linked (Option.toList_eq_nil_iff.mp nothing)

/-- An inspection without errors has made sure of all links.

Proof: the start is there since nothing is found about it, and every node that is looked up stands
among the entries that the inspection has gone through. -/
theorem soundLinks_of_isPlayable (playable : graph.inspect.isPlayable = true) :
    graph.SoundLinks := by
  obtain ⟨start, nodes⟩ := isPlayable_inspect_iff.mp playable
  have links {id : NodeId} {node : Node} (found : graph.node? id = some node) :=
    links_of_harmless (nodes (id, node) (Table.mem_entries_of_get? found))
  refine ⟨?_, fun found selected => ?_, fun found leaves => ?_⟩
  · exact (startFindings_eq_nil_iff.mp start).2
  · rename_i id node branch target
    have nothing := (links found).2
    obtain ⟨whenTrue, whenFalse⟩ := List.append_eq_nil_iff.mp nothing
    cases branch with
    | true => exact linkProblem_eq_none_iff.mp (Option.toList_eq_nil_iff.mp whenTrue) target selected
    | false =>
      exact linkProblem_eq_none_iff.mp (Option.toList_eq_nil_iff.mp whenFalse) target selected
  · obtain ⟨exit, nothing⟩ := links found
    exact usable_of_leavesBy exit nothing leaves

/-- Along sound links a trail leads from nodes to nodes only.

Proof: by induction on the trail. A branch that leads on has the link that is followed, and that
link is sound. -/
theorem SoundLinks.contains_of_leads {chooses : LogicNode → Bool} {start last : NodeId}
    {passed : List NodeId} (sound : graph.SoundLinks)
    (led : graph.Leads chooses start passed last) (contained : graph.contains start = true) :
    graph.contains last = true := by
  induction led with
  | here => exact contained
  | past found selected _ inductionHypothesis =>
    exact inductionHypothesis (sound.branches found selected)

end Graph

namespace Narrator

variable {narrator : Narrator} {state : State}

/-- Along sound links a resolution from a node fails at branches only. Of the three errors that a
resolution has, only a missing scene is ruled out. -/
theorem resolveFrom_error_isOfBranches {start : NodeId} {error : StoryError}
    (sound : narrator.graph.SoundLinks) (contained : narrator.graph.contains start = true)
    (failed : (narrator.resolveFrom state start).answer = .error error) : error.IsOfBranches := by
  obtain ⟨-, ⟨_, id, led, absent, -⟩ | ⟨_, _, _, -, -, -, rfl⟩ | ⟨_, _, -, -, -, rfl⟩⟩ :=
    resolveFrom_error failed
  · exact absurd (sound.contains_of_leads led contained) (Graph.not_contains_of_node? absent)
  · trivial
  · trivial

/-- Along sound links a usable link fails at branches only.

Proof: by the three ways to follow a link. It has a target, an ending does not fail, and a target
that is resolved is a node. -/
theorem follow_error_isOfBranches {origin : NodeId} {next : Option NodeId} {choice : Option Choice}
    {error : StoryError} (sound : narrator.graph.SoundLinks) (usable : narrator.graph.Usable next)
    (failed : (narrator.follow state origin next choice).answer = .error error) :
    error.IsOfBranches := by
  obtain ⟨target, rfl, exists_or_ends⟩ := usable
  rcases narrator.follow_cases state origin (some target) choice with
    ⟨absent, -⟩ | ⟨_, _, -, -, -, same⟩ | ⟨other, equal, needed, same⟩
  · cases absent
  · rw [same] at failed
    cases failed
  · obtain rfl := Option.some.inj equal
    rw [same] at failed
    refine resolveFrom_error_isOfBranches sound ?_ failed
    rcases exists_or_ends with contained | ⟨ending, named⟩
    · exact contained
    · exact needed.resolve_right (by simp [named])

/-- In a playable story the start resolves, and everything that a scene offers can be carried out,
in every state: the only failures are those of branches.

Nothing is assumed of the state beyond that it stands at a scene: flags, items and fields may be
anything. Warnings may be there too, such as unknown conditions, unknown effects and nodes out of
reach. The two errors left depend on the state or on a cycle of branches, which no inspection of
single links can see.

Proof: an offered action is not refused, so it leaves by a link of its node. Inspection has made
that link usable and all links behind it sound, and along those only branches can fail. -/
theorem playable_story_plays (narrator : Narrator)
    (playable : narrator.graph.inspect.isPlayable = true) :
    (∀ state error, (narrator.resolveFrom state narrator.graph.start).answer = .error error →
        error.IsOfBranches) ∧
      ∀ state, narrator.graph.HasScene state.currentScene →
        ∃ scene, narrator.view state = .ok { resolution := .interactive scene } ∧
          ∀ action, scene.Offers action → ∀ error,
            (narrator.perform state action).answer = .error error → error.IsOfBranches := by
  have sound := Graph.soundLinks_of_isPlayable playable
  refine ⟨fun state error failed => resolveFrom_error_isOfBranches sound sound.start failed,
    fun state hasScene => ?_⟩
  obtain ⟨scene, viewed⟩ := exists_view hasScene
  refine ⟨scene, viewed, fun action offered error failed => ?_⟩
  rw [perform_eq] at failed
  cases begun : narrator.beginning state action with
  | refused other => exact absurd begun (beginning_ne_refused viewed rfl offered other)
  | restarting outcome changed =>
    rw [begun] at failed
    cases failed
  | leaving outcome changed next choice =>
    rw [begun] at failed
    obtain ⟨node, found, leaves⟩ := leavesBy_of_beginning begun
    exact follow_error_isOfBranches sound (sound.exits found leaves)
      (Turn.after_error_iff.mp failed)

/-- A hall that leads to a gate and to death. The gate has a way through for who holds
the key, and none for others. Behind it a guard asks for a name, and the story is won. -/
def gatehouse : Narrator :=
  { graph :=
    { start := "hall",
      nodes := ((Table.empty.insert "gate" (.logic
          { condition := some (.item "Key"), nextTrue := some "guard" })).insert "guard" (.input
          { next := some "win" })).insert "hall" (.choice
          { choices := [{ next := some "gate" }, { next := some "death" }] }) } }

/-- The gatehouse is playable, and whatever its hall offers to a player without the key fails at a
branch if it fails. The way through the gate does fail for want of the key, by the error of a
branch. -/
theorem gatehouse_plays :
    let atHall : State :=
      { day := 0, minutes := 480, playerName := "Player", currentScene := "hall" }
    gatehouse.graph.inspect.isPlayable = true ∧ gatehouse.graph.HasScene "hall" ∧
      ∃ scene, gatehouse.view atHall = .ok { resolution := .interactive scene } ∧
        ∀ action, scene.Offers action → ∀ error,
          (gatehouse.perform atHall action).answer = .error error → error.IsOfBranches := by
  intro atHall
  have playable : gatehouse.graph.inspect.isPlayable = true := by
    rw [Graph.isPlayable_inspect_iff]
    decide
  have hasScene : gatehouse.graph.HasScene "hall" := Or.inl ⟨_, rfl⟩
  exact ⟨playable, hasScene, (playable_story_plays gatehouse playable).2 atHall hasScene⟩

end Narrator

end Storyline
