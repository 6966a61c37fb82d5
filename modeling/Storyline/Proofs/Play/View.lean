import Storyline.Proofs.Play.Moves

/-!
# Scenes told once more

A scene is told in two ways: on its entry, in the state that the effects of the entry have
reached, and later by a view of the current scene. Both tell the same. What a request shows
is what a view of the state left by it tells, and a view changes nothing, so the scene can
be told once more at any time.

A scene can be told exactly where play stands at a scene, and it is that scene.
-/

namespace Storyline.Narrator

variable {narrator : Narrator} {state : State} {scene : Scene}

/-- A view tells one scene of a state. -/
def Shows (narrator : Narrator) (state : State) (scene : Scene) : Prop :=
  narrator.view state = .ok { resolution := .interactive scene }

/-- A view that succeeds shows a scene, with no outcome and no path. Endings and requests to start
again are never the answer to a view. -/
theorem view_ok {resolved : Resolved} (viewed : narrator.view state = .ok resolved) :
    ∃ scene, resolved = { resolution := .interactive scene } ∧ narrator.Shows state scene := by
  have shown : ∃ scene, resolved = { resolution := .interactive scene } := by
    unfold view at viewed
    dsimp only at viewed
    split at viewed
    · cases viewed
    · exact ⟨_, (Except.ok.inj viewed).symm⟩
    · exact ⟨_, (Except.ok.inj viewed).symm⟩
    · cases viewed
  obtain ⟨scene, rfl⟩ := shown
  exact ⟨scene, rfl, viewed⟩

/-- The scene shown is the current one, and is one of the story's scenes. So the name of a scene
that was seen tells where play stands. -/
theorem Shows.standing (shows : narrator.Shows state scene) :
    scene.id = state.currentScene ∧ narrator.graph.HasScene scene.id := by
  unfold Shows view at shows
  dsimp only at shows
  split at shows
  · cases shows
  · rename_i node found
    cases shows
    exact ⟨rfl, Or.inl ⟨node, found⟩⟩
  · rename_i node found
    cases shows
    exact ⟨rfl, Or.inr ⟨node, found⟩⟩
  · cases shows

/-- Where play arrives at a scene, a view of the state reached shows that scene. A restart among
the effects of the entry shows no scene, so nothing is claimed of it.

Proof: by the ways to arrive. The state is the one reached by the effects of the entry, where the
scene was told. -/
theorem Arrives.shows {path : List NodeId} {id : NodeId} {node : Node} {turn : Turn}
    {resolved : Resolved} (arrived : narrator.Arrives state path id node turn)
    (found : narrator.graph.node? id = some node) (answered : turn.answer = .ok resolved)
    (shown : resolved.scene? = some scene) : narrator.Shows turn.state scene := by
  cases arrived with
  | death | win =>
    cases answered
    cases shown
  | choice node applied | input node applied =>
    cases answered
    obtain rfl := Resolved.eq_of_scene?_entry shown
    have standing := Effect.currentScene_of_applied applied
    simp only [Shows, view, standing, found]

/-- The scene that a resolution shows is the one that a view shows afterwards. The state in which
it was told is the one that the resolution leaves. -/
theorem resolveFrom_shows {start : NodeId} {resolved : Resolved}
    (answered : (narrator.resolveFrom state start).answer = .ok resolved)
    (shown : resolved.scene? = some scene) :
    narrator.Shows (narrator.resolveFrom state start).state scene := by
  obtain ⟨id, node, -, found, arrived⟩ := resolveFrom_ok answered
  exact arrived.shows found answered shown

/-- The scene that an action shows is the one that a view shows afterwards. It was told behind the
action's link, since the beginning of an action shows nothing. -/
theorem perform_shows {action : Action} {resolved : Resolved}
    (answered : (narrator.perform state action).answer = .ok resolved)
    (shown : resolved.scene? = some scene) :
    narrator.Shows (narrator.perform state action).state scene := by
  rcases perform_ok answered with
    ⟨outcome, changed, -, rfl, -⟩ |
      ⟨outcome, changed, next, choice, followed, -, answeredLink, rfl, reached⟩
  · cases shown
  · rw [reached]
    rcases follow_ok answeredLink with ⟨ending, own, rfl, -⟩ | ⟨id, node, found, arrived⟩
    · cases shown
    · exact arrived.shows found answeredLink shown

end Storyline.Narrator
