import Storyline.Proofs.Session.Resumption
import Storyline.Proofs.State.Decoding

/-!
# Restoring is all or nothing

A restore has two stages that can fail, and both lie before anything is written: the bytes
have to hold a state, and that state has to stand at a scene of the story. If one of them fails
the session is what it was, down to a reveal in progress. If neither does, the session takes
over the state as it stands in the bytes, and shows its scene without entering it.
-/

namespace Storyline.Session

variable {session : Session} {bytes : Snapshot.Bytes}

/-- A node that is no scene is none under its name. A name stands for one node only. -/
theorem not_hasScene_of_kind? {graph : Graph} {id : NodeId} {node : Node}
    (found : graph.node? id = some node) (other : node.kind? = none) : ¬ graph.HasScene id := by
  rintro (⟨scene, same⟩ | ⟨scene, same⟩)
  · rw [found] at same
    cases same
    cases other
  · rw [found] at same
    cases same
    cases other

/-- Bytes restore a session exactly if they hold a state that stands at a scene of the story.

Proof: by the ways in which a restore ends. Bytes hold one state at most, and a name stands for one
node. -/
theorem restore_ok_iff : (∃ resolved, (session.restore bytes).1 = .ok resolved) ↔
    ∃ state, Snapshot.read bytes = .ok state ∧ session.graph.HasScene state.currentScene := by
  have restores := session.restores_restore bytes
  generalize session.restore bytes = ended at restores
  constructor
  · rintro ⟨resolved, answered⟩
    cases restores with
    | restored decoded shows =>
      obtain ⟨current, hasScene⟩ := shows.standing
      exact ⟨_, decoded, current ▸ hasScene⟩
    | unreadable | missing | sceneless => cases answered
  · rintro ⟨state, held, hasScene⟩
    cases restores with
    | restored => exact ⟨_, rfl⟩
    | unreadable undecoded =>
      rw [held] at undecoded
      cases undecoded
    | missing decoded absent =>
      obtain rfl := Except.ok.inj (held.symm.trans decoded)
      rcases hasScene with ⟨node, found⟩ | ⟨node, found⟩
      · cases absent.symm.trans found
      · cases absent.symm.trans found
    | sceneless decoded found other =>
      obtain rfl := Except.ok.inj (held.symm.trans decoded)
      exact absurd hasScene (not_hasScene_of_kind? found other)

/-- A restore succeeds exactly if the bytes hold a state whose current scene is a scene of the
story. Then the state of the session is that state as it is written in the bytes, nothing has been
entered on the way, and play goes on; story, settings and a reveal in progress stay. A restore that
fails leaves all of the session as it is, whether the bytes hold no state, or a state at a name
without a node, or one at a node that is no scene.

Nothing is assumed of the bytes, which need not come from a session, nor of the session, which may
be over.

Proof: a restore ends in one of four ways. In one of them the state has been decoded and viewed,
and bytes that are read spell what is read; in the others nothing has been written. -/
theorem restore_is_all_or_nothing (session : Session) (bytes : Snapshot.Bytes) :
    ((∃ resolved, (session.restore bytes).1 = .ok resolved) ↔
        ∃ state, Snapshot.read bytes = .ok state ∧
          session.graph.HasScene state.currentScene) ∧
      (∀ resolved restored, session.restore bytes = (.ok resolved, restored) →
        ∃ state scene, Snapshot.read bytes = .ok state ∧ Snapshot.Spells bytes state ∧
          resolved.resolution = .interactive scene ∧ scene.id = state.currentScene ∧
          resolved.outcome = {} ∧ resolved.path = [] ∧
          restored = { session with state, current := some resolved } ∧
          restored.isOver = false) ∧
      ∀ error kept, session.restore bytes = (.error error, kept) → kept = session ∧
        ((∃ failure, Snapshot.read bytes = .error failure ∧ error = .snapshot failure) ∨
          ∃ state, Snapshot.read bytes = .ok state ∧
            ((session.graph.node? state.currentScene = none ∧
                error = .story (.sceneNotFound state.currentScene)) ∨
              ∃ node, session.graph.node? state.currentScene = some node ∧ node.kind? = none ∧
                error = .story (.wrongSceneKind state.currentScene .choice))) := by
  have restores := session.restores_restore bytes
  refine ⟨restore_ok_iff, fun resolved restored answered => ?_, fun error kept answered => ?_⟩
  · rw [answered] at restores
    cases restores with
    | restored decoded shows =>
      exact ⟨_, _, decoded, Snapshot.spells_of_read decoded, rfl, shows.standing.1, rfl, rfl, rfl,
        rfl⟩
  · rw [answered] at restores
    cases restores with
    | unreadable undecoded => exact ⟨rfl, Or.inl ⟨_, undecoded, rfl⟩⟩
    | missing decoded absent => exact ⟨rfl, Or.inr ⟨_, decoded, Or.inl ⟨absent, rfl⟩⟩⟩
    | sceneless decoded found other =>
      exact ⟨rfl, Or.inr ⟨_, decoded, Or.inr ⟨_, found, other, rfl⟩⟩⟩

/-- The state of a player in the cellar who has not found the lamp, before the cellar's time.
Entering the cellar would change both. -/
def withoutLamp : State := { withLamp with inventory := [], minutes := 0 }

/-- A player without the lamp is restored in the cellar without it, and the clock is not set. A
player in an attic that the story lacks is not restored, and no bytes restore nobody. All three are
read off the general law. -/
theorem restored_without_lamp :
    let session := ofGraph lampCellar {}
    let attic := { withoutLamp with currentScene := "attic" }
    (∃ resolved restored, session.restore (Snapshot.write withoutLamp ++ [255]) =
        (.ok resolved, restored) ∧ restored.state = withoutLamp ∧ resolved.outcome = {} ∧
          restored.isOver = false) ∧
      (∃ error, session.restore (Snapshot.write attic) = (.error error, session)) ∧
      ∃ error, session.restore [] = (.error error, session) := by
  intro session attic
  have inCellar : Snapshot.read (Snapshot.write withoutLamp ++ [255]) = .ok withoutLamp :=
    Snapshot.read_of_saves (Snapshot.saves_write withoutLamp) (by decide) [255]
  have inAttic : Snapshot.read (Snapshot.write attic) = .ok attic := by
    have whole := Snapshot.read_of_saves (Snapshot.saves_write attic) (by decide) []
    rwa [List.append_nil] at whole
  -- Whoever is not restored is refused with an error, and the session stays.
  have refused {bytes : Snapshot.Bytes}
      (fails : ¬ ∃ resolved, (session.restore bytes).1 = .ok resolved) :
      ∃ error, session.restore bytes = (.error error, session) := by
    cases ended : session.restore bytes with
    | mk answer kept =>
      cases answer with
      | ok resolved => exact absurd ⟨resolved, congrArg Prod.fst ended⟩ fails
      | error error =>
        obtain ⟨rfl, -⟩ := (session.restore_is_all_or_nothing bytes).2.2 error kept ended
        exact ⟨error, rfl⟩
  refine ⟨?_, refused ?_, refused ?_⟩
  · obtain ⟨succeeds, restores, -⟩ :=
      session.restore_is_all_or_nothing (Snapshot.write withoutLamp ++ [255])
    obtain ⟨resolved, answered⟩ := succeeds.mpr ⟨withoutLamp, inCellar, Or.inl ⟨cellar, rfl⟩⟩
    obtain ⟨state, scene, decoded, -, -, -, quiet, -, made, goesOn⟩ :=
      restores resolved _ (Prod.ext answered rfl)
    obtain rfl := Except.ok.inj (inCellar.symm.trans decoded)
    exact ⟨resolved, _, Prod.ext answered rfl, by rw [made], quiet, goesOn⟩
  · intro succeeds
    obtain ⟨state, decoded, hasScene⟩ :=
      (session.restore_is_all_or_nothing (Snapshot.write attic)).1.mp succeeds
    obtain rfl := Except.ok.inj (inAttic.symm.trans decoded)
    rcases hasScene with ⟨node, found⟩ | ⟨node, found⟩
    · cases found
    · cases found
  · intro succeeds
    obtain ⟨state, decoded, -⟩ := (session.restore_is_all_or_nothing []).1.mp succeeds
    cases decoded

end Storyline.Session
