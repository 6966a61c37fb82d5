import Storyline.Play.Narrator
import Storyline.Reveal.Engine
import Storyline.State.Snapshot

/-!
# Sessions

A session is one play of a story: the state, the engine that reveals text, and the
last resolution that an action came to. An action that fails leaves that
resolution in place. After an ending the player's actions are refused until the
session is started again or restored. A restart that the story asks for starts the
session over; one that the start scene itself asks for is left to the host.
-/

namespace Storyline

/-- One play of a story. -/
structure Session where
  graph : Graph
  setup : Setup
  state : State
  engine : Reveal.Engine
  current : Option Resolved := none

/-- Why a snapshot could not be restored. -/
inductive RestoreError where
  | snapshot (failure : Snapshot.Failure)
  | story (error : StoryError)

namespace Session

/-- A session before its start. -/
def ofGraph (graph : Graph) (setup : Setup) : Session :=
  { graph, setup, state := .fresh setup graph.start, engine := { pace := setup.pace } }

/-- The narrator of a session. -/
def narrator (session : Session) : Narrator := .ofSetup session.graph session.setup

/-- Whether an ending was reached. -/
def isOver (session : Session) : Bool := session.current.any Resolved.isTerminal

/-- Day and time of a session. -/
def clockLabel (session : Session) : String := session.state.clockLabel session.setup

/-- Takes over the state of a turn, and its resolution if there is one. -/
def settle (session : Session) (turn : Turn) : Except StoryError Resolved × Session :=
  match turn.answer with
  | .error error => (.error error, { session with state := turn.state })
  | .ok resolved => (.ok resolved, { session with state := turn.state, current := some resolved })

/-- Drops a reveal in progress. -/
def stopReveal (session : Session) : Session :=
  match session.engine.current with
  | some handle => { session with engine := (session.engine.cancel handle).2 }
  | none => session

/-- Starts over with a fresh state. -/
def start (session : Session) : Except StoryError Resolved × Session :=
  let fresh := State.fresh session.setup session.graph.start
  session.stopReveal.settle (session.narrator.resolveFrom fresh session.graph.start)

/-- Carries out an action of the player, and starts over if it leads to a restart. -/
def act (session : Session) (action : Narrator → State → Turn) :
    Except StoryError Resolved × Session :=
  if session.isOver then (.error .sessionOver, session)
  else
    let turn := action session.narrator session.state
    match turn.answer with
    | .ok ⟨.restart, _, _⟩ => start { session with state := turn.state }
    | _ => session.settle turn

/-- Takes a choice. -/
def choose (session : Session) (index : Nat) : Except StoryError Resolved × Session :=
  session.act fun narrator state => narrator.choose state index

/-- Goes on from a scene without choices. -/
def advance (session : Session) : Except StoryError Resolved × Session :=
  session.act Narrator.advance

/-- Hands in what the player typed. -/
def submit (session : Session) (input : String) : Except StoryError Resolved × Session :=
  session.act fun narrator state => narrator.submit state input

/-- The text that a resolution shows. -/
def shownText : Resolution → Option String
  | .interactive scene => some scene.text
  | .terminal _ message => some message
  | .restart => none

/-- Starts to reveal what the current resolution shows, and gives the handle. -/
def revealCurrent (session : Session) : Option Nat × Session :=
  match session.current.bind fun resolved => shownText resolved.resolution with
  | none => (none, session)
  | some text =>
    let (engine, handle) := session.engine.start text
    (some handle, { session with engine })

/-- The state of a session as a snapshot. -/
def snapshot (session : Session) : Snapshot.Bytes := Snapshot.write session.state

/-- Replaces the state by that of a snapshot and tells its scene without entering
it. Any failure leaves the session as it was. -/
def restore (session : Session) (bytes : Snapshot.Bytes) :
    Except RestoreError Resolved × Session :=
  match Snapshot.read bytes with
  | .error failure => (.error (.snapshot failure), session)
  | .ok state =>
    match session.narrator.view state with
    | .error error => (.error (.story error), session)
    | .ok resolved => (.ok resolved, { session with state, current := some resolved })

end Session

end Storyline
