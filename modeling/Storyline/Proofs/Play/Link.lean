import Storyline.Proofs.Play.Resolution

/-!
# Links out of scenes

A link out of a scene may lack its target, may stand for an ending that no node of
that name provides, or is resolved like any name. It strands play where it lacks its
target, or where the trail from the target never comes to a node that is no branch.
Following a link fails exactly if it strands play, and then leaves the state alone.
-/

namespace Storyline.Narrator

variable {narrator : Narrator} {state : State} {origin : NodeId} {next : Option NodeId}
  {choice : Option Choice}

/-- A link of a scene leads to no place where play could arrive. The endings that
need no node are such places. -/
def Strands (narrator : Narrator) (state : State) (next : Option NodeId) : Prop :=
  ∀ target, next = some target →
    (narrator.graph.contains target = true ∨ Ending.ofTarget? target = none) ∧
      ∀ passed id node, narrator.graph.Leads (narrator.branching state) target passed id →
        narrator.graph.node? id = some node → ∃ branch, node = .logic branch

/-- The three ways in which a link is followed. Only the last of them resolves anything, and it
alone can change the state. The choice that led here is passed on with the success, and plays no
part in a failure. -/
theorem follow_cases (narrator : Narrator) (state : State) (origin : NodeId)
    (next : Option NodeId) (choice : Option Choice) :
    (next = none ∧
        narrator.follow state origin next choice = .failed (.missingTarget origin) state) ∨
      (∃ target ending, next = some target ∧ narrator.graph.contains target = false ∧
        Ending.ofTarget? target = some ending ∧
        narrator.follow state origin next choice =
          ⟨.ok { resolution :=
            narrator.finish state ending (choice.bind fun choice => choice.messageFor ending) },
            state⟩) ∨
      (∃ target, next = some target ∧
        (narrator.graph.contains target = true ∨ Ending.ofTarget? target = none) ∧
        narrator.follow state origin next choice = narrator.resolveFrom state target) := by
  cases next with
  | none => exact Or.inl ⟨rfl, rfl⟩
  | some target =>
    cases contained : narrator.graph.contains target with
    | true =>
      refine Or.inr (Or.inr ⟨target, rfl, Or.inl contained, ?_⟩)
      simp only [follow, contained, if_true]
    | false =>
      cases named : Ending.ofTarget? target with
      | none =>
        refine Or.inr (Or.inr ⟨target, rfl, Or.inr named, ?_⟩)
        simp only [follow, contained, named, Bool.false_eq_true, if_false]
      | some ending =>
        refine Or.inr (Or.inl ⟨target, ending, rfl, contained, named, ?_⟩)
        simp only [follow, contained, named, Bool.false_eq_true, if_false]

/-- Following a link that fails leaves the state as it was. A link without a target has touched
nothing yet, and a resolution that fails has entered no scene. -/
theorem follow_error_state {error : StoryError}
    (failed : (narrator.follow state origin next choice).answer = .error error) :
    (narrator.follow state origin next choice).state = state := by
  rcases narrator.follow_cases state origin next choice with
    ⟨-, same⟩ | ⟨_, _, -, -, -, same⟩ | ⟨_, -, -, same⟩
  · rw [same]
    rfl
  · rw [same]
  · rw [same] at failed ⊢
    exact (resolveFrom_error failed).1

/-- Following a link that succeeds ends play with the state untouched, or play arrives at a node.
Nothing is assumed of the graph: a target that stands for an ending may be without a node, and then
play ends at the scene where it stood. -/
theorem follow_ok {resolved : Resolved}
    (answered : (narrator.follow state origin next choice).answer = .ok resolved) :
    (∃ ending own, resolved = { resolution := narrator.finish state ending own } ∧
        (narrator.follow state origin next choice).state = state) ∨
      ∃ id node, narrator.graph.node? id = some node ∧
        narrator.Arrives state resolved.path id node
          (narrator.follow state origin next choice) := by
  rcases narrator.follow_cases state origin next choice with
    ⟨-, same⟩ | ⟨_, ending, -, -, -, same⟩ | ⟨_, -, -, same⟩
  · rw [same] at answered
    cases answered
  · rw [same] at answered ⊢
    exact Or.inl ⟨ending, _, (Except.ok.inj answered).symm, rfl⟩
  · rw [same] at answered ⊢
    obtain ⟨id, node, -, found, arrived⟩ := resolveFrom_ok answered
    exact Or.inr ⟨id, node, found, arrived⟩

/-- A resolution fails exactly if its trail comes to no node that is no branch.

Proof: a trail either comes to a node that is no branch, where it arrives, or to a name without a
node or a branch for the second time, and there is no other way for it to stop. -/
theorem resolveFrom_fails_iff {start : NodeId} :
    (∃ error, (narrator.resolveFrom state start).answer = .error error) ↔
      ∀ passed id node, narrator.graph.Leads (narrator.branching state) start passed id →
        narrator.graph.node? id = some node → ∃ branch, node = .logic branch := by
  constructor
  · rintro ⟨error, failed⟩ passed id node led found
    refine Classical.byContradiction fun shown => ?_
    obtain ⟨-, arrived⟩ := resolveFrom_arrives led found fun branch same => shown ⟨branch, same⟩
    obtain ⟨resolved, answered, -⟩ := arrived.answer
    cases failed.symm.trans answered
  · intro branches
    cases answered : (narrator.resolveFrom state start).answer with
    | error error => exact ⟨error, rfl⟩
    | ok resolved =>
      obtain ⟨id, node, led, found, arrived⟩ := resolveFrom_ok answered
      obtain ⟨branch, rfl⟩ := branches _ id node led found
      cases arrived

/-- Following a link fails exactly if the link strands play. So whether a link can be followed is
read off the graph and the branches taken in the state, with nothing about the choice or the scene
that it leaves.

Proof: the three ways of following a link are taken one by one. A missing target strands
play at once, an ending without a node never does, and a target that is resolved fails with
its resolution. -/
theorem follow_fails_iff :
    (∃ error, (narrator.follow state origin next choice).answer = .error error) ↔
      narrator.Strands state next := by
  rcases narrator.follow_cases state origin next choice with
    ⟨rfl, same⟩ | ⟨target, ending, rfl, missing, named, same⟩ | ⟨target, rfl, needed, same⟩
  · rw [same]
    constructor
    · rintro - target absent
      cases absent
    · exact fun _ => ⟨_, rfl⟩
  · rw [same]
    constructor
    · rintro ⟨error, failed⟩
      cases failed
    · intro strands
      obtain ⟨contained | unnamed, -⟩ := strands target rfl
      · rw [missing] at contained
        cases contained
      · rw [named] at unnamed
        cases unnamed
  · rw [same, resolveFrom_fails_iff]
    constructor
    · intro branches other equal
      obtain rfl := Option.some.inj equal
      exact ⟨needed, branches⟩
    · intro strands
      exact (strands target rfl).2

end Storyline.Narrator
