import Storyline.Proofs.Play.Action

/-!
# Requests to a narrator

A narrator is asked to resolve a name, or to carry out an action of the player. Requests
may follow each other in any order: each is answered in the state that the one before it
has left, also where that one failed.
-/

namespace Storyline.Narrator

/-- What a narrator can be asked for. -/
inductive Request where
  | resolve (id : NodeId)
  | act (action : Action)

/-- Does what a request asks for. -/
def respond (narrator : Narrator) (state : State) : Request → Turn
  | .resolve id => narrator.resolveFrom state id
  | .act action => narrator.perform state action

/-- The turns of some requests, each in the state that the turn before it left. -/
def turns (narrator : Narrator) (state : State) : List Request → List Turn
  | [] => []
  | request :: rest =>
    let turn := narrator.respond state request
    turn :: narrator.turns turn.state rest

end Storyline.Narrator
