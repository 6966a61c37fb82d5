import Storyline.Play.Session
import Storyline.Proofs.Play.Place

/-!
# Plays

A play is a list of moves in a session: its start, or an action of the player. Each
move is answered and leaves a state; moves may fail, and play goes on after them.

Whatever a move does, the session keeps its story and its settings. The answers show
scenes, and branches on the way to them. Each name shown is that of a node, in every
play, and so is the name of the current scene if the start exists.
-/

namespace Storyline

variable {narrator : Narrator} {state : State} {id : NodeId}

/-- The names that an answer shows: the branches on its path, also on that of a cycle,
and its scene. -/
def shownNames : Except StoryError Resolved → List NodeId
  | .ok resolved => resolved.path ++ (resolved.scene?.map Scene.id).toList
  | .error (.logicCycle _ path) => path
  | .error _ => []

/-- An earlier outcome does not change what an answer shows. An outcome has events and a count, and
no names of nodes. -/
@[simp] theorem Turn.after_shownNames (outcome : Outcome) (turn : Turn) :
    shownNames (turn.after outcome).answer = shownNames turn.answer := by
  obtain ⟨answer, state⟩ := turn
  cases answer <;> rfl

/-- The entry of a scene shows that scene, unless it asks to start again. Where it does ask, there
is no scene at all, so the condition is never met. -/
theorem Resolved.eq_of_scene?_entry {restart : Bool} {told scene : Scene} {outcome : Outcome}
    {path : List NodeId}
    (shown : scene? ⟨if restart then .restart else .interactive told, outcome, path⟩ = some scene) :
    scene = told := by
  cases restart with
  | true => cases shown
  | false => exact (Option.some.inj shown).symm

namespace Narrator

/-- A scene that is shown is the one where play has arrived. Its name is not copied from the node,
which has none, but from the place where the node was found. -/
theorem Arrives.scene_id {path : List NodeId} {node : Node} {turn : Turn} {resolved : Resolved}
    {scene : Scene} (arrived : narrator.Arrives state path id node turn)
    (answered : turn.answer = .ok resolved) (shown : resolved.scene? = some scene) :
    scene.id = id := by
  cases arrived with
  | death | win =>
    cases answered
    cases shown
  | choice node applied | input node applied =>
    cases answered
    rw [Resolved.eq_of_scene?_entry shown]
    rfl

/-- What a resolution shows are names of nodes. Failures are included: the path of a cycle shows
the branches that it went through.

Proof: a scene that is shown was arrived at, and every name on a path was passed as a branch, which
only a node can be. -/
theorem contains_of_shown_resolveFrom {start : NodeId}
    (shown : id ∈ shownNames (narrator.resolveFrom state start).answer) :
    narrator.graph.contains id = true := by
  have ofBranch {passed : List NodeId} {last : NodeId}
      (led : narrator.graph.Leads (narrator.branching state) start passed last)
      (member : id ∈ passed) : narrator.graph.contains id = true := by
    obtain ⟨node, next, found, -⟩ := led.branch_of_mem member
    exact Graph.contains_of_node? found
  cases answered : (narrator.resolveFrom state start).answer with
  | error error =>
    rw [answered] at shown
    obtain ⟨-, ⟨_, _, -, -, rfl⟩ | ⟨_, _, _, -, -, -, rfl⟩ | ⟨_, _, led, -, again, rfl⟩⟩ :=
      resolveFrom_error answered
    · exact absurd shown List.not_mem_nil
    · exact absurd shown List.not_mem_nil
    · rcases List.mem_append.mp shown with before | repeated
      · exact ofBranch led before
      · obtain rfl := List.mem_singleton.mp repeated
        exact ofBranch led again
  | ok resolved =>
    rw [answered] at shown
    obtain ⟨last, node, led, found, arrived⟩ := resolveFrom_ok answered
    rcases List.mem_append.mp shown with onPath | asScene
    · exact ofBranch led onPath
    · obtain ⟨scene, told, rfl⟩ := Option.map_eq_some_iff.mp (Option.mem_toList.mp asScene)
      rw [arrived.scene_id answered told]
      exact Graph.contains_of_node? found

/-- What is shown behind a link are names of nodes. An ending without a node shows no name, and so
does a link without a target. -/
theorem contains_of_shown_follow {origin : NodeId} {next : Option NodeId} {choice : Option Choice}
    (shown : id ∈ shownNames (narrator.follow state origin next choice).answer) :
    narrator.graph.contains id = true := by
  rcases narrator.follow_cases state origin next choice with
    ⟨-, same⟩ | ⟨_, _, -, -, -, same⟩ | ⟨target, -, -, same⟩
  · rw [same] at shown
    exact absurd shown List.not_mem_nil
  · rw [same] at shown
    exact absurd shown List.not_mem_nil
  · rw [same] at shown
    exact contains_of_shown_resolveFrom shown

/-- An action that is refused shows nothing. Refusals come before any link, so none of them can be
a cycle. -/
theorem shownNames_of_refused {action : Action} {error : StoryError}
    (begun : narrator.beginning state action = .refused error) :
    shownNames (.error error) = [] := by
  have begins := narrator.begins_beginning state action
  rw [begun] at begins
  cases begins <;> rfl

/-- What an action shows are names of nodes. Nothing is assumed of the graph or of the place where
play stands. -/
theorem contains_of_shown_perform {action : Action}
    (shown : id ∈ shownNames (narrator.perform state action).answer) :
    narrator.graph.contains id = true := by
  rw [perform_eq] at shown
  cases begun : narrator.beginning state action with
  | refused error =>
    have nothing : id ∈ shownNames (.error error) := by rwa [begun] at shown
    rw [shownNames_of_refused begun] at nothing
    exact absurd nothing List.not_mem_nil
  | restarting outcome changed =>
    rw [begun] at shown
    exact absurd shown List.not_mem_nil
  | leaving outcome changed next choice =>
    rw [begun] at shown
    simp only [conclude, Turn.after_shownNames] at shown
    exact contains_of_shown_follow shown

end Narrator

namespace Session

/-- One step of a play. -/
inductive Move where
  | start
  | act (action : Action)

/-- Makes a move. -/
def move (session : Session) : Move → Except StoryError Resolved × Session
  | .start => session.start
  | .act (.choose index) => session.choose index
  | .act .advance => session.advance
  | .act (.submit input) => session.submit input

/-- The answers to some moves, each with the state after it. -/
def play (session : Session) : List Move → List (Except StoryError Resolved × State)
  | [] => []
  | move :: rest =>
    let (answer, next) := session.move move
    (answer, next.state) :: next.play rest

variable {session : Session} {moves : List Move}

/-- A move of the player carries out the action. Each kind of action has its own function in a
session; they differ only in what they ask of the narrator. -/
theorem move_act (session : Session) (action : Action) :
    session.move (.act action) =
      session.act fun narrator state => narrator.perform state action := by
  cases action <;> rfl

/-! ## What a move does -/

/-- Taking over a turn keeps its answer. It makes no difference here whether the turn has failed. -/
@[simp] theorem settle_answer (session : Session) (turn : Turn) :
    (session.settle turn).1 = turn.answer := by
  unfold settle
  split <;> simp only [*]

/-- Taking over a turn takes over its state. The state of a turn that has failed is taken over as
well. -/
@[simp] theorem settle_state (session : Session) (turn : Turn) :
    (session.settle turn).2.state = turn.state := by
  unfold settle
  split <;> rfl

/-- Taking over a turn keeps the story. So a narrator that is asked later plays the same story. -/
@[simp] theorem settle_graph (session : Session) (turn : Turn) :
    (session.settle turn).2.graph = session.graph := by
  unfold settle
  split <;> rfl

/-- Dropping a reveal keeps the story. Only the engine changes. -/
@[simp] theorem stopReveal_graph (session : Session) : session.stopReveal.graph = session.graph := by
  unfold stopReveal
  split <;> rfl

/-- The state before does not matter to a start. A start puts a fresh state in its place and asks
the narrator only then. -/
theorem start_of_state (session : Session) (state : State) :
    start { session with state } = session.start := by
  obtain ⟨graph, setup, _, engine, current⟩ := session
  unfold start stopReveal settle
  dsimp only
  cases engine.current <;> rfl

/-- A move starts the session over, is refused because play has ended, or is an action whose turn
is taken over. A turn that asks to start again belongs to the first case.

Proof: a move of the player is refused if play is over, and otherwise its turn is either taken over
or thrown away for a start. -/
theorem move_cases (session : Session) (move : Move) :
    session.move move = session.start ∨
      session.move move = (.error .sessionOver, session) ∨
      ∃ action, session.move move =
        session.settle (session.narrator.perform session.state action) := by
  cases move with
  | start => exact Or.inl rfl
  | act action =>
    rw [move_act]
    unfold act
    split
    · exact Or.inr (Or.inl rfl)
    · dsimp only
      split
      · exact Or.inl (session.start_of_state _)
      · exact Or.inr (Or.inr ⟨action, rfl⟩)

/-- A move keeps the story. Whatever is read off the graph holds throughout a play. -/
theorem move_graph (session : Session) (move : Move) :
    (session.move move).2.graph = session.graph := by
  rcases session.move_cases move with same | same | ⟨action, same⟩
  · rw [same]
    simp [start]
  · rw [same]
  · rw [same]
    simp

/-- What a move shows are names of nodes. It does not matter whether the move starts anew, is
refused or fails. -/
theorem contains_of_shown_move {move : Move} (shown : id ∈ shownNames (session.move move).1) :
    session.graph.contains id = true := by
  rcases session.move_cases move with same | same | ⟨action, same⟩
  · rw [same, start, settle_answer] at shown
    exact Narrator.contains_of_shown_resolveFrom shown
  · rw [same] at shown
    exact absurd shown List.not_mem_nil
  · rw [same, settle_answer] at shown
    exact Narrator.contains_of_shown_perform shown

/-- After a move play stands where it stood, or at the start, or at a scene. The start is named
apart, as a fresh state stands there also when the start is no scene. -/
theorem move_currentScene (session : Session) (move : Move) :
    (session.move move).2.state.currentScene = session.state.currentScene ∨
      (session.move move).2.state.currentScene = session.graph.start ∨
      session.graph.HasScene (session.move move).2.state.currentScene := by
  rcases session.move_cases move with same | same | ⟨action, same⟩
  · rw [same, start, settle_state]
    exact Or.inr (session.narrator.resolveFrom_currentScene _ _)
  · rw [same]
    exact Or.inl rfl
  · rw [same, settle_state]
    rcases session.narrator.perform_currentScene session.state action with unmoved | hasScene
    · exact Or.inl unmoved
    · exact Or.inr (Or.inr hasScene)

/-- A move leaves play at a node, if play is at one and the start exists. Both are needed: a failed
move may stay where it was, and a restart goes back to the start. -/
theorem contains_currentScene_move (session : Session) (move : Move)
    (start : session.graph.contains session.graph.start = true)
    (standing : session.graph.contains session.state.currentScene = true) :
    session.graph.contains (session.move move).2.state.currentScene = true := by
  rcases session.move_currentScene move with unmoved | restarted | hasScene
  · rw [unmoved]
    exact standing
  · rw [restarted]
    exact start
  · exact hasScene.contains

/-- In a play that begins at a node of a story whose start exists, every name shown and every
current scene is that of a node.

Proof: by induction on the moves; each of them keeps the story, shows only nodes, and leaves play
at a node for the next one. -/
theorem contains_of_mem_play (session : Session) {told : Except StoryError Resolved × State}
    (start : session.graph.contains session.graph.start = true)
    (standing : session.graph.contains session.state.currentScene = true)
    (member : told ∈ session.play moves)
    (named : id ∈ shownNames told.1 ∨ id = told.2.currentScene) :
    session.graph.contains id = true := by
  induction moves generalizing session with
  | nil => exact absurd member List.not_mem_nil
  | cons move rest inductionHypothesis =>
    have kept := session.move_graph move
    have stands := session.contains_currentScene_move move start standing
    rcases List.mem_cons.mp member with rfl | later
    · rcases named with shown | rfl
      · exact contains_of_shown_move shown
      · exact stands
    · rw [← kept] at start stands ⊢
      exact inductionHypothesis _ start stands later

end Session

end Storyline
