import Storyline.Play.Narrator
import Storyline.Proofs.Play.Trail

/-!
# What a resolution comes to

A resolution follows the trail through the branches as their conditions stand in
the state that is handed in. It fails where the trail leads to no node, to a branch
without the selected link, or back to a branch; otherwise play arrives at the first
node that is no branch. Only the entry of a scene changes the state.

The relation between a start and a turn is said here by the trail alone. It is
proved to hold of exactly the turn that the narrator gives.
-/

namespace Storyline.Narrator

variable {narrator : Narrator} {state : State} {start : NodeId} {turn : Turn}

/-- Whether the condition of a branch holds in a state. A branch without a
condition is taken to hold. -/
def branching (narrator : Narrator) (state : State) (node : LogicNode) : Bool :=
  narrator.allows state node.condition

/-- A branch is taken as true unless it has a condition that does not hold. -/
theorem branching_iff {node : LogicNode} :
    narrator.branching state node = true ↔ ∀ condition, node.condition = some condition →
      condition.holds narrator.assumed state = true := by
  unfold branching allows passes
  cases node.condition with
  | none => simp
  | some condition => simp

/-- What play comes to at a node that is no branch, behind the branches of a path.
An ending leaves the state alone. A scene becomes the current one, sets the clock if
it has a time, and applies its effects; it is told in the state so reached. -/
inductive Arrives (narrator : Narrator) (state : State) (path : List NodeId) (id : NodeId) :
    Node → Turn → Prop where
  | death (message : Option String) :
      Arrives narrator state path id (.death message)
        ⟨.ok ⟨narrator.finish state .death message, {}, path⟩, state⟩
  | win (message : Option String) :
      Arrives narrator state path id (.win message)
        ⟨.ok ⟨narrator.finish state .win message, {}, path⟩, state⟩
  | choice (node : ChoiceNode) {outcome : Outcome} {entered : State}
      (applied : Effect.applyAll node.scene.effects
        { state with currentScene := id, minutes := node.scene.timeSet.getD state.minutes } =
          (outcome, entered)) :
      Arrives narrator state path id (.choice node)
        ⟨.ok ⟨if outcome.restart then .restart
          else .interactive (narrator.choiceScene entered id node), outcome, path⟩, entered⟩
  | input (node : InputNode) {outcome : Outcome} {entered : State}
      (applied : Effect.applyAll node.scene.effects
        { state with currentScene := id, minutes := node.scene.timeSet.getD state.minutes } =
          (outcome, entered)) :
      Arrives narrator state path id (.input node)
        ⟨.ok ⟨if outcome.restart then .restart
          else .interactive (narrator.inputScene entered id node), outcome, path⟩, entered⟩

/-- What a resolution from a name comes to, said by the trail from it. -/
inductive Resolves (narrator : Narrator) (state : State) (start : NodeId) : Turn → Prop where
  | missing {passed : List NodeId} {id : NodeId}
      (led : narrator.graph.Leads (narrator.branching state) start passed id)
      (absent : narrator.graph.node? id = none) :
      Resolves narrator state start (.failed (.sceneNotFound id) state)
  | dangling {passed : List NodeId} {id : NodeId} {node : LogicNode}
      (led : narrator.graph.Leads (narrator.branching state) start passed id)
      (found : narrator.graph.node? id = some (.logic node))
      (absent : node.link (narrator.branching state node) = none) :
      Resolves narrator state start
        (.failed (.danglingLogicBranch id (narrator.branching state node)) state)
  | cycle {passed : List NodeId} {id : NodeId}
      (led : narrator.graph.Leads (narrator.branching state) start passed id)
      (distinct : passed.Nodup) (again : id ∈ passed) :
      Resolves narrator state start (.failed (.logicCycle id (passed ++ [id])) state)
  | arrives {passed : List NodeId} {id : NodeId} {node : Node} {turn : Turn}
      (led : narrator.graph.Leads (narrator.branching state) start passed id)
      (found : narrator.graph.node? id = some node)
      (arrived : narrator.Arrives state passed id node turn) :
      Resolves narrator state start turn

/-- Play arrives at any node that is no branch. -/
theorem exists_arrives (narrator : Narrator) (state : State) (path : List NodeId) (id : NodeId)
    {node : Node} (shown : ∀ branch, node ≠ .logic branch) :
    ∃ turn, narrator.Arrives state path id node turn := by
  cases node with
  | choice node => exact ⟨_, .choice node rfl⟩
  | input node => exact ⟨_, .input node rfl⟩
  | logic node => exact absurd rfl (shown node)
  | death message => exact ⟨_, .death message⟩
  | win message => exact ⟨_, .win message⟩

/-- Every trail leads to a turn: a trail that does not halt comes back to a branch. So the relation
is not empty for any start, and what is proved of it below is proved of every resolution. -/
theorem exists_resolves (narrator : Narrator) (state : State) (start : NodeId) :
    ∃ turn, narrator.Resolves state start turn := by
  obtain ⟨passed, id, led, distinct, halted | ⟨again, -⟩⟩ :=
    Graph.walk_stops (.here start : narrator.graph.Leads (narrator.branching state) start [] start)
      List.nodup_nil
  · have halts := Graph.halts_of_halt? halted
    cases found : narrator.graph.node? id with
    | none => exact ⟨_, .missing led found⟩
    | some node =>
      by_cases branch : ∃ inner, node = .logic inner
      · obtain ⟨inner, rfl⟩ := branch
        exact ⟨_, .dangling led found (halts inner found)⟩
      · obtain ⟨turn, arrived⟩ := narrator.exists_arrives state passed id
          fun inner same => branch ⟨inner, same⟩
        exact ⟨turn, .arrives led found arrived⟩
  · exact ⟨_, .cycle led distinct again⟩

/-- The narrator gives the turn that the trail calls for.

Proof: in each case the trail fixes where the walk stops, at a halt or at the first branch that it
comes back to; the narrator's answer for that stop is the turn of the case. -/
theorem resolveFrom_of_resolves (resolves : narrator.Resolves state start turn) :
    narrator.resolveFrom state start = turn := by
  -- The question that the narrator asks of a branch is the one by which the trail leads on.
  have told {answer : List NodeId × Stop}
      (walked : narrator.graph.walk (narrator.branching state) [] start = answer) :
      narrator.graph.walk (fun node => narrator.allows state node.condition) [] start = answer :=
    walked
  unfold resolveFrom
  cases resolves with
  | @missing passed id led absent =>
    have halted : narrator.graph.halt? (narrator.branching state) passed id =
        some (passed, .missing id) := by simp only [Graph.halt?, absent]
    rw [told (Graph.walk_of_halt led halted)]
  | @dangling passed id node led found absent =>
    have halted : narrator.graph.halt? (narrator.branching state) passed id =
        some (passed ++ [id], .dangling id (narrator.branching state node)) := by
      simp only [Graph.halt?, found, absent]
    rw [told (Graph.walk_of_halt led halted)]
  | cycle led distinct again => rw [told (Graph.walk_of_revisit led distinct again)]
  | @arrives passed id node turn led found arrived =>
    cases arrived with
    | death message =>
      have halted : narrator.graph.halt? (narrator.branching state) passed id =
          some (passed, .ending .death message) := by simp only [Graph.halt?, found]
      rw [told (Graph.walk_of_halt led halted)]
    | win message =>
      have halted : narrator.graph.halt? (narrator.branching state) passed id =
          some (passed, .ending .win message) := by simp only [Graph.halt?, found]
      rw [told (Graph.walk_of_halt led halted)]
    | choice node applied =>
      have halted : narrator.graph.halt? (narrator.branching state) passed id =
          some (passed, .choice id node) := by simp only [Graph.halt?, found]
      rw [told (Graph.walk_of_halt led halted)]
      simp only [enter, arrival, applied]
    | input node applied =>
      have halted : narrator.graph.halt? (narrator.branching state) passed id =
          some (passed, .input id node) := by simp only [Graph.halt?, found]
      rw [told (Graph.walk_of_halt led halted)]
      simp only [enter, arrival, applied]

/-- A resolution gives a turn exactly if the trail calls for it. The second half needs that some
turn is called for: by the first half it is the narrator's own. -/
theorem resolveFrom_eq_iff :
    narrator.resolveFrom state start = turn ↔ narrator.Resolves state start turn := by
  refine ⟨?_, resolveFrom_of_resolves⟩
  rintro rfl
  obtain ⟨turn, resolves⟩ := narrator.exists_resolves state start
  rwa [resolveFrom_of_resolves resolves]

/-- The turn of a resolution is one that the trail calls for. Every fact about resolutions is read
off from here, by the cases of the trail and never by those of the walk. -/
theorem resolves_resolveFrom (narrator : Narrator) (state : State) (start : NodeId) :
    narrator.Resolves state start (narrator.resolveFrom state start) := by
  apply resolveFrom_eq_iff.mp
  rfl

/-- An arrival is answered with the branches passed. -/
theorem Arrives.answer {path : List NodeId} {id : NodeId} {node : Node}
    (arrived : narrator.Arrives state path id node turn) :
    ∃ resolved, turn.answer = .ok resolved ∧ resolved.path = path := by
  cases arrived <;> exact ⟨_, rfl, rfl⟩

/-- Where play arrives the trail halts. Nothing is asked about the choices at branches, since there
is none to make. -/
theorem Arrives.halts {path : List NodeId} {id : NodeId} {node : Node}
    {chooses : LogicNode → Bool} (arrived : narrator.Arrives state path id node turn)
    (found : narrator.graph.node? id = some node) : narrator.graph.Halts chooses id := by
  intro branch other
  obtain rfl := Option.some.inj (found.symm.trans other)
  cases arrived

/-! ## Each answer by itself -/

/-- A resolution that fails leaves the state as it was, and tells which of the three ways the trail
has failed in. No hypothesis on the graph is needed: play may have been led anywhere. -/
theorem resolveFrom_error {error : StoryError}
    (failed : (narrator.resolveFrom state start).answer = .error error) :
    (narrator.resolveFrom state start).state = state ∧
      ((∃ passed id, narrator.graph.Leads (narrator.branching state) start passed id ∧
          narrator.graph.node? id = none ∧ error = .sceneNotFound id) ∨
        (∃ passed id node, narrator.graph.Leads (narrator.branching state) start passed id ∧
          narrator.graph.node? id = some (.logic node) ∧
          node.link (narrator.branching state node) = none ∧
          error = .danglingLogicBranch id (narrator.branching state node)) ∨
        (∃ passed id, narrator.graph.Leads (narrator.branching state) start passed id ∧
          passed.Nodup ∧ id ∈ passed ∧ error = .logicCycle id (passed ++ [id]))) := by
  have resolves := narrator.resolves_resolveFrom state start
  generalize narrator.resolveFrom state start = turn at failed resolves
  cases resolves with
  | missing led absent =>
    cases failed
    exact ⟨rfl, Or.inl ⟨_, _, led, absent, rfl⟩⟩
  | dangling led found absent =>
    cases failed
    exact ⟨rfl, Or.inr (Or.inl ⟨_, _, _, led, found, absent, rfl⟩)⟩
  | cycle led distinct again =>
    cases failed
    exact ⟨rfl, Or.inr (Or.inr ⟨_, _, led, distinct, again, rfl⟩)⟩
  | arrives _ _ arrived =>
    obtain ⟨resolved, answered, -⟩ := arrived.answer
    cases failed.symm.trans answered

/-- A resolution that does not fail has followed its path to a node and arrived. The path of the
answer is the list of branches that were passed, and nothing else. -/
theorem resolveFrom_ok {resolved : Resolved}
    (answered : (narrator.resolveFrom state start).answer = .ok resolved) :
    ∃ id node, narrator.graph.Leads (narrator.branching state) start resolved.path id ∧
      narrator.graph.node? id = some node ∧
      narrator.Arrives state resolved.path id node (narrator.resolveFrom state start) := by
  have resolves := narrator.resolves_resolveFrom state start
  generalize narrator.resolveFrom state start = turn at answered resolves
  cases resolves with
  | missing | dangling | cycle => cases answered
  | arrives led found arrived =>
    obtain ⟨other, otherAnswered, rfl⟩ := arrived.answer
    obtain rfl := Except.ok.inj (otherAnswered.symm.trans answered)
    exact ⟨_, _, led, found, arrived⟩

/-- A scene is not found exactly if the trail leads to a name without a node. The name is the one
that the trail leads to, which need not be the one that play was asked to go to. -/
theorem resolveFrom_sceneNotFound_iff {id : NodeId} :
    (narrator.resolveFrom state start).answer = .error (.sceneNotFound id) ↔
      ∃ passed, narrator.graph.Leads (narrator.branching state) start passed id ∧
        narrator.graph.node? id = none := by
  constructor
  · intro failed
    obtain ⟨-, ⟨_, _, led, absent, same⟩ | ⟨_, _, _, _, _, _, same⟩ | ⟨_, _, _, _, _, same⟩⟩ :=
      resolveFrom_error failed
    · cases same
      exact ⟨_, led, absent⟩
    · cases same
    · cases same
  · rintro ⟨passed, led, absent⟩
    rw [resolveFrom_of_resolves (.missing led absent)]
    rfl

/-- A branch dangles exactly if the trail leads to it and the link that its condition selects is
absent. The answer names the branch and the side of it that has no link. -/
theorem resolveFrom_dangling_iff {id : NodeId} {branch : Bool} :
    (narrator.resolveFrom state start).answer = .error (.danglingLogicBranch id branch) ↔
      ∃ passed node, narrator.graph.Leads (narrator.branching state) start passed id ∧
        narrator.graph.node? id = some (.logic node) ∧
        narrator.branching state node = branch ∧ node.link branch = none := by
  constructor
  · intro failed
    obtain ⟨-, ⟨_, _, _, _, same⟩ | ⟨_, _, _, led, found, absent, same⟩ | ⟨_, _, _, _, _, same⟩⟩ :=
      resolveFrom_error failed
    · cases same
    · cases same
      exact ⟨_, _, led, found, rfl, absent⟩
    · cases same
  · rintro ⟨passed, node, led, found, rfl, absent⟩
    rw [resolveFrom_of_resolves (.dangling led found absent)]
    rfl

/-- A cycle is reported exactly if the trail comes back to a branch. The path is the trail up to
there. That the branches up to there are distinct makes it the first return. -/
theorem resolveFrom_cycle_iff {id : NodeId} {path : List NodeId} :
    (narrator.resolveFrom state start).answer = .error (.logicCycle id path) ↔
      ∃ passed, path = passed ++ [id] ∧
        narrator.graph.Leads (narrator.branching state) start passed id ∧
        passed.Nodup ∧ id ∈ passed := by
  constructor
  · intro failed
    obtain ⟨-, ⟨_, _, _, _, same⟩ | ⟨_, _, _, _, _, _, same⟩ | ⟨_, _, led, distinct, again, same⟩⟩ :=
      resolveFrom_error failed
    · cases same
    · cases same
    · cases same
      exact ⟨_, rfl, led, distinct, again⟩
  · rintro ⟨passed, rfl, led, distinct, again⟩
    rw [resolveFrom_of_resolves (.cycle led distinct again)]
    rfl

/-- A cycle is reported exactly if the trail is endless.

Proof: a return makes the trail endless. For the other half each way in which a resolution goes is
looked at; all but the cycle halt, and a trail that halts is not endless. -/
theorem resolveFrom_cycle_iff_endless :
    (∃ id path, (narrator.resolveFrom state start).answer = .error (.logicCycle id path)) ↔
      narrator.graph.Endless (narrator.branching state) start := by
  constructor
  · rintro ⟨id, path, failed⟩
    obtain ⟨passed, -, led, -, again⟩ := resolveFrom_cycle_iff.mp failed
    exact led.endless_of_revisit again
  · intro endless
    have resolves := narrator.resolves_resolveFrom state start
    generalize narrator.resolveFrom state start = turn at resolves
    cases resolves with
    | missing led absent =>
      exact absurd endless (led.not_endless_of_halts fun _ found => by
        cases absent.symm.trans found)
    | dangling led found absent =>
      refine absurd endless (led.not_endless_of_halts fun node other => ?_)
      obtain rfl := Node.logic.inj (Option.some.inj (found.symm.trans other))
      exact absent
    | cycle led distinct again => exact ⟨_, _, rfl⟩
    | arrives led found arrived =>
      exact absurd endless (led.not_endless_of_halts (arrived.halts found))

/-- Where the trail leads to a node that is no branch, play arrives there, and the branches passed
are distinct. That they are distinct is not assumed; it follows from the halt. -/
theorem resolveFrom_arrives {passed : List NodeId} {id : NodeId} {node : Node}
    (led : narrator.graph.Leads (narrator.branching state) start passed id)
    (found : narrator.graph.node? id = some node) (shown : ∀ branch, node ≠ .logic branch) :
    passed.Nodup ∧ narrator.Arrives state passed id node (narrator.resolveFrom state start) := by
  obtain ⟨turn, arrived⟩ := narrator.exists_arrives state passed id shown
  rw [resolveFrom_of_resolves (.arrives led found arrived)]
  exact ⟨led.nodup_of_halts (arrived.halts found), arrived⟩

/-- Of all answers only the entry of a scene may change the state. An answer that ends play cannot
come from a scene, which tells a scene or asks for a restart. -/
theorem Arrives.state_of_terminal {path : List NodeId} {id : NodeId} {node : Node}
    {resolved : Resolved} (arrived : narrator.Arrives state path id node turn)
    (answered : turn.answer = .ok resolved) (terminal : resolved.isTerminal = true) :
    turn.state = state := by
  cases arrived with
  | death => rfl
  | win => rfl
  | choice node applied | input node applied =>
    cases answered
    revert terminal
    split <;> intro same <;> cases same

/-- A resolution is the deterministic walk along its trail, and ends. Its branches are chosen by
their conditions in the state handed in. It visits each branch once, and one of them for the second
time if the trail never halts; only then is a cycle reported, with the trail up to the first
repetition. A name without a node and a selected link that is absent are reported exactly where the
trail leads to them. Otherwise play arrives at the first node that is no branch, behind distinct
branches. Errors and endings leave the state as it was. Nothing is assumed about the story, the
state or the name.

Proof: the laws of the single answers, each of them an equivalence with the trail, and the bound on
the walk. All of them rest on `resolveFrom_eq_iff`, which says that the narrator gives exactly the
turn that the trail calls for. -/
theorem resolution_follows_trail (narrator : Narrator) (state : State) (start : NodeId) :
    let graph := narrator.graph
    let chooses := narrator.branching state
    let leads := graph.Leads chooses start
    let turn := narrator.resolveFrom state start
    (∀ node, chooses node = true ↔ ∀ condition, node.condition = some condition →
        condition.holds narrator.assumed state = true) ∧
      (graph.walk chooses [] start).1.length ≤ graph.branches.length + 1 ∧
      (∀ id, turn.answer = .error (.sceneNotFound id) ↔
        ∃ passed, leads passed id ∧ graph.node? id = none) ∧
      (∀ id branch, turn.answer = .error (.danglingLogicBranch id branch) ↔
        ∃ passed node, leads passed id ∧ graph.node? id = some (.logic node) ∧
          chooses node = branch ∧ node.link branch = none) ∧
      ((∃ id path, turn.answer = .error (.logicCycle id path)) ↔ graph.Endless chooses start) ∧
      (∀ id path, turn.answer = .error (.logicCycle id path) ↔
        ∃ passed, path = passed ++ [id] ∧ leads passed id ∧ passed.Nodup ∧ id ∈ passed) ∧
      (∀ passed id node, leads passed id → graph.node? id = some node →
        (∀ branch, node ≠ .logic branch) →
          passed.Nodup ∧ narrator.Arrives state passed id node turn) ∧
      (∀ resolved, turn.answer = .ok resolved → ∃ id node, leads resolved.path id ∧
        graph.node? id = some node ∧ narrator.Arrives state resolved.path id node turn) ∧
      (∀ error, turn.answer = .error error → turn.state = state ∧
        ((∃ id, error = .sceneNotFound id) ∨
          (∃ id branch, error = .danglingLogicBranch id branch) ∨
          ∃ id path, error = .logicCycle id path)) ∧
      (∀ resolved, turn.answer = .ok resolved → resolved.isTerminal = true →
        turn.state = state) := by
  intro graph chooses leads turn
  refine ⟨fun _ => branching_iff, graph.length_walk_le chooses start,
    fun _ => resolveFrom_sceneNotFound_iff, fun _ _ => resolveFrom_dangling_iff,
    resolveFrom_cycle_iff_endless,
    fun _ _ => resolveFrom_cycle_iff, fun _ _ _ => resolveFrom_arrives,
    fun _ => resolveFrom_ok, fun error failed => ?_, fun resolved answered terminal => ?_⟩
  · obtain ⟨unchanged, causes⟩ := resolveFrom_error failed
    refine ⟨unchanged, ?_⟩
    rcases causes with ⟨_, id, _, _, same⟩ | ⟨_, id, _, _, _, _, same⟩ | ⟨_, id, _, _, _, same⟩
    · exact Or.inl ⟨id, same⟩
    · exact Or.inr (Or.inl ⟨id, _, same⟩)
    · exact Or.inr (Or.inr ⟨id, _, same⟩)
  · obtain ⟨id, node, -, -, arrived⟩ := resolveFrom_ok answered
    exact arrived.state_of_terminal answered terminal

end Storyline.Narrator
