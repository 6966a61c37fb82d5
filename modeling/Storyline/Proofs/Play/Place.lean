import Storyline.Proofs.Play.Action

/-!
# Where play stands

Play stands at the current scene, and only the entry of a scene moves it. Effects,
time that passes and texts that are kept never do, so an action has not moved when
it comes to its link. After any action play stands where it stood, or at a scene of
the graph. Endings and failures do not move it.
-/

namespace Storyline

/-- A name has a scene that play can stand at. -/
def Graph.HasScene (graph : Graph) (id : NodeId) : Prop :=
  (∃ node, graph.node? id = some (.choice node)) ∨ ∃ node, graph.node? id = some (.input node)

/-- A name with a scene has a node. The converse fails for branches and endings, where play never
stands. -/
theorem Graph.HasScene.contains {graph : Graph} {id : NodeId} (hasScene : graph.HasScene id) :
    graph.contains id = true := by
  rcases hasScene with ⟨node, found⟩ | ⟨node, found⟩
  · exact contains_of_node? found
  · exact contains_of_node? found

/-! ## What does not move play -/

/-- No effect moves play. Effects write flags, items, fields and the clock, and leave the player's
place to the resolver. -/
theorem Effect.applySingle_currentScene (effect : Effect) (state : State) :
    (effect.applySingle state).2.currentScene = state.currentScene := by
  unfold applySingle
  split
  · rfl
  · rfl
  · rfl
  · split
    · rfl
    · unfold State.setNumber
      split <;> rfl
    · unfold State.setNumber
      split <;> rfl
    · rfl
  · rfl
  · rfl

/-- No list of effects moves play. A restart among them ends the list early and does not move play
either. -/
@[simp] theorem Effect.applyAll_currentScene (effects : List Effect) (state : State) :
    (Effect.applyAll effects state).2.currentScene = state.currentScene := by
  induction effects generalizing state with
  | nil => rfl
  | cons first rest inductionHypothesis =>
    have kept := first.applySingle_currentScene state
    unfold applyAll
    split <;> rename_i applied <;> rw [applied] at kept
    · exact (inductionHypothesis _).trans kept
    · exact (inductionHypothesis _).trans kept
    · exact kept

/-- The state that effects reach stands where they began. The form is the one in which a beginning
tells what it has applied. -/
theorem Effect.currentScene_of_applied {effects : List Effect} {before after : State}
    {outcome : Outcome} (applied : applyAll effects before = (outcome, after)) :
    after.currentScene = before.currentScene := by
  have kept := applyAll_currentScene effects before
  rwa [applied] at kept

/-- No time that passes moves play. Neither does a time that is not there, which changes nothing. -/
@[simp] theorem State.later_currentScene (state : State) (cost : Option Int64) :
    (state.later cost).currentScene = state.currentScene := by
  cases cost <;> rfl

/-- No text that is kept moves play. Wherever the text goes, to the player's name, to a flag or to
an extra field, the place is another part of the state. -/
@[simp] theorem State.store_currentScene (state : State) (variableName : Option String)
    (value : String) : (state.store variableName value).2.currentScene = state.currentScene := by
  unfold store
  split
  · exact Effect.applyAll_currentScene _ state
  · split
    · exact Effect.applyAll_currentScene _ state
    · split
      · exact Effect.applyAll_currentScene _ state
      · rfl

namespace Narrator

variable {narrator : Narrator} {state : State}

/-- No action moves play by its beginning. A link is therefore always followed from the scene at
which the action was taken. -/
theorem beginning_currentScene (narrator : Narrator) (state : State) (action : Action) :
    ((narrator.beginning state action).reached state).currentScene = state.currentScene := by
  have begins := narrator.begins_beginning state action
  generalize narrator.beginning state action = begun at begins
  cases begins with
  | restarting _ _ applied => exact Effect.currentScene_of_applied applied
  | @chosen _ _ choice _ changed _ _ applied =>
    have kept := Effect.currentScene_of_applied applied
    exact (changed.later_currentScene choice.timeCost).trans kept
  | @typed node input _ _ _ _ stored =>
    have kept := state.store_currentScene node.variableName (Text.trim input)
    rw [stored] at kept
    exact kept
  | _ => rfl

/-- Where play stands at no scene every action is refused. So it is in a fresh state whose start is
a branch, an ending or no node at all. -/
theorem beginning_of_no_scene (absent : ¬ narrator.graph.HasScene state.currentScene)
    (action : Action) : ∃ error, narrator.beginning state action = .refused error := by
  have begins := narrator.begins_beginning state action
  generalize narrator.beginning state action = begun at begins
  cases begins with
  | missing | unfit | unavailable | choosing | blank => exact ⟨_, rfl⟩
  | restarting found | chosen found | direct found => exact absurd (Or.inl ⟨_, found⟩) absent
  | typed found => exact absurd (Or.inr ⟨_, found⟩) absent

/-! ## What may move play -/

/-- Where play arrives it stands, if it is a scene; an ending leaves it where it was. No branch is
ever arrived at, so the two kinds of scenes and the three endings are all there is. -/
theorem Arrives.currentScene {path : List NodeId} {id : NodeId} {node : Node} {turn : Turn}
    (arrived : narrator.Arrives state path id node turn)
    (found : narrator.graph.node? id = some node) :
    turn.state.currentScene = state.currentScene ∨
      turn.state.currentScene = id ∧ narrator.graph.HasScene id := by
  cases arrived with
  | death => exact Or.inl rfl
  | win => exact Or.inl rfl
  | choice node applied =>
    exact Or.inr ⟨Effect.currentScene_of_applied applied, Or.inl ⟨node, found⟩⟩
  | input node applied =>
    exact Or.inr ⟨Effect.currentScene_of_applied applied, Or.inr ⟨node, found⟩⟩

/-- The name of a scene always resolves. A scene is the end of its own trail, which has passed no
branch before it. -/
theorem resolveFrom_of_hasScene {id : NodeId} (hasScene : narrator.graph.HasScene id)
    (state : State) : ∃ resolved, (narrator.resolveFrom state id).answer = .ok resolved := by
  obtain ⟨node, found, shown⟩ :
      ∃ node, narrator.graph.node? id = some node ∧ ∀ branch, node ≠ .logic branch := by
    rcases hasScene with ⟨node, found⟩ | ⟨node, found⟩
    · exact ⟨_, found, fun branch same => by cases same⟩
    · exact ⟨_, found, fun branch same => by cases same⟩
  have led : narrator.graph.Leads (narrator.branching state) id [] id := .here id
  obtain ⟨-, arrived⟩ := resolveFrom_arrives led found shown
  obtain ⟨resolved, answered, -⟩ := arrived.answer
  exact ⟨resolved, answered⟩

/-- After a resolution play stands where it stood, or at a scene. A resolution that fails is
included, and stands where it stood. -/
theorem resolveFrom_currentScene (narrator : Narrator) (state : State) (start : NodeId) :
    (narrator.resolveFrom state start).state.currentScene = state.currentScene ∨
      narrator.graph.HasScene (narrator.resolveFrom state start).state.currentScene := by
  cases answered : (narrator.resolveFrom state start).answer with
  | error error =>
    rw [(resolveFrom_error answered).1]
    exact Or.inl rfl
  | ok resolved =>
    obtain ⟨id, node, -, found, arrived⟩ := resolveFrom_ok answered
    rcases arrived.currentScene found with unmoved | ⟨moved, hasScene⟩
    · exact Or.inl unmoved
    · rw [moved]
      exact Or.inr hasScene

/-- After a link play stands where it stood, or at a scene. Nothing is assumed of the scene that
the link leaves or of its target. -/
theorem follow_currentScene (narrator : Narrator) (state : State) (origin : NodeId)
    (next : Option NodeId) (choice : Option Choice) :
    (narrator.follow state origin next choice).state.currentScene = state.currentScene ∨
      narrator.graph.HasScene
        (narrator.follow state origin next choice).state.currentScene := by
  rcases narrator.follow_cases state origin next choice with
    ⟨-, same⟩ | ⟨_, _, -, -, -, same⟩ | ⟨target, -, -, same⟩
  · rw [same]
    exact Or.inl rfl
  · rw [same]
    exact Or.inl rfl
  · rw [same]
    exact narrator.resolveFrom_currentScene state target

/-- After an action play stands where it stood, or at a scene. Whatever the action was and however
it ended, play is never left at a branch, at an ending or at a name without a node, unless it stood
there before.

Proof: the beginning never moves play, and of what is left only the link can, by the entry of a
scene. -/
theorem perform_currentScene (narrator : Narrator) (state : State) (action : Action) :
    (narrator.perform state action).state.currentScene = state.currentScene ∨
      narrator.graph.HasScene (narrator.perform state action).state.currentScene := by
  have unmoved := narrator.beginning_currentScene state action
  rw [perform_eq]
  cases begun : narrator.beginning state action with
  | refused error => exact Or.inl rfl
  | restarting outcome changed =>
    rw [begun] at unmoved
    exact Or.inl unmoved
  | leaving outcome changed next choice =>
    rw [begun] at unmoved
    rcases narrator.follow_currentScene changed state.currentScene next choice with
      still | hasScene
    · exact Or.inl (still.trans unmoved)
    · exact Or.inr hasScene

end Narrator

end Storyline
