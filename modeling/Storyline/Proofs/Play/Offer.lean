import Storyline.Proofs.Play.Place
import Storyline.Proofs.Text.Trimming

/-!
# What a scene offers

A scene lists the choices that can be taken, tells whether play can simply go on,
and asks for a text if it is such a scene. Those are the actions it offers. An
offered action is never refused at the scene that offers it.
-/

namespace Storyline

/-- An action that a scene offers: a choice that it lists, going on if it says so, or a
text that is not blank where it asks for one. -/
def Scene.Offers (scene : Scene) : Action → Prop
  | .choose index => index ∈ scene.choices.map VisibleChoice.index
  | .advance => scene.canAdvance = true
  | .submit input => scene.kind = .input ∧ ∃ c ∈ input.toList, Text.isBlank c = false

namespace Narrator

variable {narrator : Narrator} {state : State}

/-- The positions listed are those of the visible choices. Positions count all choices of the node,
so hidden ones leave gaps in the list. -/
theorem mem_visibleChoices_iff {node : ChoiceNode} {index : Nat} :
    index ∈ (narrator.visibleChoices state node.choices).map VisibleChoice.index ↔
      ∃ choice, narrator.visible? state node index = some choice := by
  simp only [visibleChoices, visible?, List.map_map, List.mem_map, List.mem_filter,
    Function.comp_apply, Option.filter_eq_some_iff]
  constructor
  · rintro ⟨⟨choice, position⟩, ⟨listed, allowed⟩, rfl⟩
    exact ⟨choice, List.mem_zipIdx_iff_getElem?.mp listed, allowed⟩
  · rintro ⟨choice, listed, allowed⟩
    exact ⟨(choice, index), ⟨List.mem_zipIdx_iff_getElem?.mpr listed, allowed⟩, rfl⟩

/-- The current scene can be told wherever there is one. Telling a scene has no other condition:
texts are filled in whatever the flags and fields are. -/
theorem exists_view (hasScene : narrator.graph.HasScene state.currentScene) :
    ∃ scene, narrator.view state = .ok { resolution := .interactive scene } := by
  rcases hasScene with ⟨node, found⟩ | ⟨node, found⟩ <;>
    exact ⟨_, by simp only [view, found]; rfl⟩

/-- An action that the current scene offers asks for a scene of the kind that is there. -/
theorem kind?_of_offers {node : Node} {scene : Scene} {action : Action} {resolved : Resolved}
    (found : narrator.graph.node? state.currentScene = some node)
    (viewed : narrator.view state = .ok resolved) (shown : resolved.scene? = some scene)
    (offered : scene.Offers action) : node.kind? = some action.kind := by
  simp only [view, found] at viewed
  cases node with
  | choice node =>
    cases viewed
    cases shown
    cases action with
    | submit input => cases offered.1
    | choose _ | advance => rfl
  | input node =>
    cases viewed
    cases shown
    cases action with
    | choose index => exact absurd offered List.not_mem_nil
    | advance => cases offered
    | submit input => rfl
  | logic _ | death _ | win _ => cases viewed

/-- An action that the current scene offers is not refused. The action is taken in the state in
which the scene was told; another state may hide a choice.

Proof: by the ways in which an action is refused. Its kind is that of the current scene, and each
of the other refusals is ruled out by the one offer that it could answer. -/
theorem beginning_ne_refused {scene : Scene} {action : Action} {resolved : Resolved}
    (viewed : narrator.view state = .ok resolved) (shown : resolved.scene? = some scene)
    (offered : scene.Offers action) (error : StoryError) :
    narrator.beginning state action ≠ .refused error := by
  intro begun
  have begins := narrator.begins_beginning state action
  rw [begun] at begins
  cases begins with
  | missing absent =>
    simp only [view, absent] at viewed
    cases viewed
  | unfit found other => exact other (kind?_of_offers found viewed shown offered)
  | unavailable found hidden =>
    simp only [view, found] at viewed
    cases viewed
    cases shown
    obtain ⟨choice, visible⟩ := mem_visibleChoices_iff.mp offered
    cases hidden.symm.trans visible
  | choosing found some =>
    simp only [view, found] at viewed
    cases viewed
    cases shown
    obtain ⟨bare, -⟩ := Bool.and_eq_true_iff.mp offered
    cases some.symm.trans bare
  | blank found nothing =>
    cases nothing.symm.trans (Text.trim_isEmpty_eq_false offered.2)

end Narrator

end Storyline
