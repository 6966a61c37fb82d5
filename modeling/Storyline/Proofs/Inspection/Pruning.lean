import Storyline.Proofs.Inspection.Reach
import Storyline.Proofs.Play.Moves

/-!
# Stories without their unreachable nodes

Nodes may be left out of a story if the links of the kept ones never lead to them. A
name then is alike if the smaller story has the same node under it as the whole one,
or neither has any: the names kept are alike, and so are all targets of their links.
Play moves among names that are alike. So it is answered alike in both stories, move
by move, also where a move fails, and a target `death` or `win` stands for an ending
in the one where it does in the other.

The nodes reached from a start that exists may be kept in this way. The others are
those that an inspection calls unreachable, and no play ever shows one of them.
-/

namespace Storyline

/-- The entries of a table under the kept names. -/
def Table.restrict {α : Type} (table : Table α) (kept : List String) : Table α :=
  ⟨table.entries.filter fun entry => kept.contains entry.1, table.increasing.filter _⟩

/-- A restricted table answers for the kept names only.

Proof: by induction on the entries, of which those under other names are left out. -/
theorem Table.get?_restrict {α : Type} (table : Table α) (kept : List String) (name : String) :
    (table.restrict kept).get? name = if name ∈ kept then table.get? name else none := by
  unfold get? restrict
  dsimp only
  induction table.entries with
  | nil => simp
  | cons head rest inductionHypothesis =>
    by_cases headKept : head.1 ∈ kept
    · rw [List.filter_cons_of_pos (by simpa using headKept), lookup_cons, lookup_cons,
        inductionHypothesis]
      by_cases same : name = head.1
      · simp [same, headKept]
      · simp [same]
    · rw [List.filter_cons_of_neg (by simpa using headKept), lookup_cons, inductionHypothesis]
      by_cases same : name = head.1
      · simp [same, headKept]
      · simp [same]

/-- A link of a branch is one of its links as a node. Inspection follows both links of a branch,
and play one of them. -/
theorem LogicNode.mem_edges_of_link {node : LogicNode} {branch : Bool} {target : NodeId}
    (selected : node.link branch = some target) : target ∈ (Node.logic node).edges := by
  cases branch with
  | true => exact List.mem_append_left _ (Option.mem_toList.mpr selected)
  | false => exact List.mem_append_right _ (Option.mem_toList.mpr selected)

namespace Graph

variable {graph : Graph} {kept : List NodeId} {id : NodeId}

/-- A story with the kept nodes only. -/
def restricted (graph : Graph) (kept : List NodeId) : Graph :=
  { graph with nodes := graph.nodes.restrict kept }

/-- A story without the nodes that cannot be reached. -/
def pruned (graph : Graph) : Graph := graph.restricted graph.reachable

/-- The smaller story has what the whole one has under a name. -/
def Alike (graph : Graph) (kept : List NodeId) (id : NodeId) : Prop :=
  (graph.restricted kept).node? id = graph.node? id

/-- A restricted story has the kept nodes. Start and title stay, so the start may be left without a
node. -/
theorem node?_restricted (graph : Graph) (kept : List NodeId) (id : NodeId) :
    (graph.restricted kept).node? id = if id ∈ kept then graph.node? id else none := by
  unfold node? restricted
  exact Table.get?_restrict graph.nodes kept id

/-- A node of a restricted story is a kept one. This is how facts about plays of the smaller story
become facts about the kept names. -/
theorem mem_of_contains_restricted (contained : (graph.restricted kept).contains id = true) :
    id ∈ kept := by
  by_cases member : id ∈ kept
  · exact member
  · have absent : (graph.restricted kept).node? id = none := by
      rw [node?_restricted, if_neg member]
    exact absurd contained (not_contains_of_node? absent)

/-- A kept name is alike. It may have no node at all, in either story. -/
theorem alike_of_mem (graph : Graph) (member : id ∈ kept) : graph.Alike kept id := by
  unfold Alike
  rw [node?_restricted, if_pos member]

/-- A name that is alike has a node in the smaller story if it has one in the whole. What matters
to a link is only whether its target is there. -/
theorem Alike.contains (alike : graph.Alike kept id) :
    (graph.restricted kept).contains id = graph.contains id := by
  unfold Graph.contains Table.contains
  exact congrArg Option.isSome alike

/-- The links of a node whose name is alike lead to names that are alike.

Proof: a target with a node is kept, as the kept nodes are closed; a target without one has none in
the smaller story either. -/
theorem Closed.alike_of_edge {node : Node} {target : NodeId} (closed : graph.Closed kept)
    (alike : graph.Alike kept id) (found : graph.node? id = some node)
    (linked : target ∈ node.edges) : graph.Alike kept target := by
  have member : id ∈ kept :=
    mem_of_contains_restricted (alike.contains.trans (contains_of_node? found))
  cases targetFound : graph.node? target with
  | some other =>
    have contained : graph.contains target = true := contains_of_node? targetFound
    exact graph.alike_of_mem (closed id member node found target linked contained)
  | none =>
    unfold Alike
    rw [node?_restricted, targetFound]
    split <;> rfl

/-- A trail from a name that is alike is one in the smaller story too.

Proof: by induction on the trail, each of whose branches is found in both stories. -/
theorem Leads.restricted {chooses : LogicNode → Bool} {start last : NodeId}
    {passed : List NodeId} (led : graph.Leads chooses start passed last)
    (closed : graph.Closed kept) (alike : graph.Alike kept start) :
    (graph.restricted kept).Leads chooses start passed last ∧ graph.Alike kept last := by
  induction led with
  | here => exact ⟨.here _, alike⟩
  | past found selected _ inductionHypothesis =>
    have nextAlike := closed.alike_of_edge alike found (LogicNode.mem_edges_of_link selected)
    obtain ⟨onward, lastAlike⟩ := inductionHypothesis nextAlike
    exact ⟨.past (alike.trans found) selected onward, lastAlike⟩

end Graph

namespace Narrator

variable {narrator : Narrator} {kept : List NodeId} {state : State}

/-- The narrator of the story with the kept nodes only. -/
def keeping (narrator : Narrator) (kept : List NodeId) : Narrator :=
  { narrator with graph := narrator.graph.restricted kept }

/-- Play arrives alike in the smaller story. The node is the same, and the narrator's other
settings are not touched. -/
theorem Arrives.keeping {path : List NodeId} {id : NodeId} {node : Node} {turn : Turn}
    (arrived : narrator.Arrives state path id node turn) :
    (narrator.keeping kept).Arrives state path id node turn := by
  cases arrived with
  | death message => exact .death message
  | win message => exact .win message
  | choice node applied => exact .choice node applied
  | input node applied => exact .input node applied

/-- A name that is alike is resolved alike. Errors are included: a missing name, a dangling branch
and a cycle are the same ones.

Proof: by the cases of what the trail comes to; the trail is one in the smaller story, and ends at
a name that is alike. -/
theorem resolveFrom_keeping (narrator : Narrator) (state : State) {start : NodeId}
    (closed : narrator.graph.Closed kept) (alike : narrator.graph.Alike kept start) :
    (narrator.keeping kept).resolveFrom state start = narrator.resolveFrom state start := by
  apply resolveFrom_of_resolves
  have resolves := narrator.resolves_resolveFrom state start
  generalize narrator.resolveFrom state start = turn at resolves ⊢
  cases resolves with
  | missing led absent =>
    obtain ⟨kept, lastAlike⟩ := led.restricted closed alike
    exact .missing kept (lastAlike.trans absent)
  | dangling led found absent =>
    obtain ⟨kept, lastAlike⟩ := led.restricted closed alike
    exact .dangling kept (lastAlike.trans found) absent
  | cycle led distinct again => exact .cycle (led.restricted closed alike).1 distinct again
  | arrives led found arrived =>
    obtain ⟨kept, lastAlike⟩ := led.restricted closed alike
    exact .arrives kept (lastAlike.trans found) arrived.keeping

/-- A link to a name that is alike is followed alike. A target that stands for an ending needs no
node, so it must be missing in both stories or in none. -/
theorem follow_keeping {next : Option NodeId} (closed : narrator.graph.Closed kept)
    (alike : ∀ target, next = some target → narrator.graph.Alike kept target)
    (origin : NodeId) (choice : Option Choice) :
    (narrator.keeping kept).follow state origin next choice =
      narrator.follow state origin next choice := by
  cases next with
  | none => rfl
  | some target =>
    have targetAlike := alike target rfl
    have contained : (narrator.keeping kept).graph.contains target =
        narrator.graph.contains target := targetAlike.contains
    unfold follow
    dsimp only
    rw [contained, narrator.resolveFrom_keeping state closed targetAlike]
    rfl

/-- An action begins alike at a scene whose name is alike. A beginning looks at the node of the
current scene and at no other one. -/
theorem beginning_keeping (alike : narrator.graph.Alike kept state.currentScene) (action : Action) :
    (narrator.keeping kept).beginning state action = narrator.beginning state action := by
  have same : (narrator.keeping kept).graph.node? state.currentScene =
      narrator.graph.node? state.currentScene := alike
  unfold beginning
  rw [same]
  rfl

/-- An action is carried out alike at a scene whose name is alike.

Proof: the beginnings are the same, and the link by which the action leaves is one of the node's
own, so its target is alike. -/
theorem perform_keeping (narrator : Narrator) (closed : narrator.graph.Closed kept)
    (alike : narrator.graph.Alike kept state.currentScene) (action : Action) :
    (narrator.keeping kept).perform state action = narrator.perform state action := by
  rw [perform_eq, perform_eq, beginning_keeping alike]
  cases begun : narrator.beginning state action with
  | refused error => rfl
  | restarting outcome changed => rfl
  | leaving outcome changed next choice =>
    obtain ⟨node, found, leaves⟩ := leavesBy_of_beginning begun
    have targetAlike : ∀ target, next = some target → narrator.graph.Alike kept target := by
      rintro target rfl
      exact closed.alike_of_edge alike found leaves.mem_edges
    simp only [conclude, follow_keeping closed targetAlike]

end Narrator

namespace Session

variable {session : Session} {kept : List NodeId}

/-- The session of the story with the kept nodes only. -/
def keeping (session : Session) (kept : List NodeId) : Session :=
  { session with graph := session.graph.restricted kept }

/-- A turn is taken over alike. Only state and resolution are taken over, and neither of them has
the story in it. -/
theorem settle_keeping (session : Session) (kept : List NodeId) (turn : Turn) :
    (session.keeping kept).settle turn =
      ((session.settle turn).1, (session.settle turn).2.keeping kept) := by
  unfold settle
  split <;> rfl

/-- A reveal is dropped alike. The engine knows texts, not nodes. -/
theorem stopReveal_keeping (session : Session) (kept : List NodeId) :
    (session.keeping kept).stopReveal = session.stopReveal.keeping kept := by
  unfold stopReveal
  have same : (session.keeping kept).engine = session.engine := rfl
  rw [same]
  split <;> rfl

/-- A session starts alike if the name of its start is alike. The session it leaves is the same but
for the story. -/
theorem start_keeping (session : Session) (closed : session.graph.Closed kept)
    (alike : session.graph.Alike kept session.graph.start) :
    (session.keeping kept).start = (session.start.1, session.start.2.keeping kept) := by
  have resolved : (session.keeping kept).narrator.resolveFrom
      (.fresh session.setup session.graph.start) session.graph.start =
        session.narrator.resolveFrom (.fresh session.setup session.graph.start)
          session.graph.start := session.narrator.resolveFrom_keeping _ closed alike
  calc (session.keeping kept).start
    _ = (session.keeping kept).stopReveal.settle (session.narrator.resolveFrom
          (.fresh session.setup session.graph.start) session.graph.start) :=
        congrArg (session.keeping kept).stopReveal.settle resolved
    _ = (session.start.1, session.start.2.keeping kept) := by
        rw [stopReveal_keeping, settle_keeping]
        rfl

/-- A move is answered alike, and leaves the same session of the smaller story.

Proof: by the move. An action is carried out alike, and where it asks to start again, both sessions
start again. -/
theorem move_keeping (session : Session) (closed : session.graph.Closed kept)
    (startAlike : session.graph.Alike kept session.graph.start)
    (alike : session.graph.Alike kept session.state.currentScene) (move : Move) :
    (session.keeping kept).move move =
      ((session.move move).1, (session.move move).2.keeping kept) := by
  cases move with
  | start => exact session.start_keeping closed startAlike
  | act action =>
    have performed : (session.keeping kept).narrator.perform session.state action =
        session.narrator.perform session.state action :=
      session.narrator.perform_keeping closed alike action
    rw [move_act, move_act]
    unfold act
    by_cases ended : session.isOver = true
    · have keptEnded : (session.keeping kept).isOver = true := ended
      rw [if_pos ended, if_pos keptEnded]
    · have keptPlaying : ¬ (session.keeping kept).isOver = true := ended
      rw [if_neg ended, if_neg keptPlaying]
      have sameState : (session.keeping kept).state = session.state := rfl
      dsimp only
      rw [sameState, performed]
      split
      · rw [session.start_of_state, (session.keeping kept).start_of_state]
        exact session.start_keeping closed startAlike
      · exact session.settle_keeping kept _

/-- A play that begins at a kept node is told alike, if the start is kept.

Proof: by induction on the moves. A move leaves play at a node of the smaller story, so the next
one begins at a kept name again. -/
theorem play_keeping (session : Session) (closed : session.graph.Closed kept) (moves : List Move)
    (start : (session.graph.restricted kept).contains session.graph.start = true)
    (standing : (session.graph.restricted kept).contains session.state.currentScene = true) :
    (session.keeping kept).play moves = session.play moves := by
  induction moves generalizing session with
  | nil => rfl
  | cons move rest inductionHypothesis =>
    have startAlike := session.graph.alike_of_mem (Graph.mem_of_contains_restricted start)
    have alike := session.graph.alike_of_mem (Graph.mem_of_contains_restricted standing)
    have moved := session.move_keeping closed startAlike alike move
    have stands : (session.graph.restricted kept).contains
        (session.move move).2.state.currentScene = true := by
      have keptStands := (session.keeping kept).contains_currentScene_move move start standing
      rw [moved] at keptStands
      exact keptStands
    rw [← session.move_graph move] at closed start stands
    have onward := inductionHypothesis _ closed start stands
    unfold play
    rw [moved]
    exact congrArg _ onward

/-- Leaving out the unreachable nodes of a story whose start exists changes no play: all moves are
answered alike and leave the same state. The nodes left out are those that an inspection calls
unreachable, and no play shows one of them or stands at one.

Assumed is only that the start exists; without it inspection calls nothing unreachable. The moves
are any, also ones that fail, and the play may go on after an ending by starting anew.

Proof: the nodes reached are closed under links and include the start, so every move goes from
names that are alike to names that are alike. -/
theorem pruned_plays_alike (graph : Graph) (setup : Setup) (moves : List Move)
    (contained : graph.contains graph.start = true) :
    let played := (ofGraph graph setup).play moves
    (∀ id, graph.ReportedUnreachable id ↔ graph.contains id = true ∧ id ∉ graph.reachable) ∧
      (∀ id, graph.ReportedUnreachable id → graph.pruned.node? id = none) ∧
      (∀ id, ¬ graph.ReportedUnreachable id → graph.pruned.node? id = graph.node? id) ∧
      (ofGraph graph.pruned setup).play moves = played ∧
      ∀ told ∈ played, ∀ id, id ∈ shownNames told.1 ∨ id = told.2.currentScene →
        ¬ graph.ReportedUnreachable id := by
  intro played
  have start : graph.pruned.contains graph.start = true :=
    (graph.alike_of_mem (Graph.start_mem_reachable contained)).contains.trans contained
  have same : (ofGraph graph.pruned setup).play moves = played :=
    (ofGraph graph setup).play_keeping graph.closed_reachable moves start start
  refine ⟨fun id => ?_, fun id reported => ?_, fun id unreported => ?_, same, ?_⟩
  · rw [Graph.reportedUnreachable_iff]
    exact and_iff_right contained
  · obtain ⟨-, -, absent⟩ := Graph.reportedUnreachable_iff.mp reported
    rw [Graph.pruned, Graph.node?_restricted, if_neg absent]
  · rw [Graph.pruned, Graph.node?_restricted]
    split
    · rfl
    · rename_i absent
      cases found : graph.node? id with
      | none => rfl
      | some node =>
        have named : graph.contains id = true := Graph.contains_of_node? found
        exact absurd (Graph.reportedUnreachable_iff.mpr ⟨contained, named, absent⟩) unreported
  · intro told member id named reported
    rw [← same] at member
    have inside : graph.pruned.contains id = true :=
      (ofGraph graph.pruned setup).contains_of_mem_play start start member named
    obtain ⟨-, -, absent⟩ := Graph.reportedUnreachable_iff.mp reported
    exact absent (Graph.mem_of_contains_restricted inside)

/-- A shore from which a boat leads to death, and an attic to which nothing leads but
its own window. -/
def lakeside : Graph :=
  { start := "shore",
    nodes := (Table.empty.insert "attic" (.choice
      { choices := [{ next := some "attic" }, { next := some "shore" }] })).insert "shore" (.choice
      { choices := [{ next := some "death" }, { next := some "shore" }] }) }

/-- The attic is called unreachable, and without it the lakeside plays as before. Its links into
the lakeside do not matter; what counts is that none leads to it. -/
theorem lakeside_plays_without_attic :
    lakeside.contains lakeside.start = true ∧ lakeside.ReportedUnreachable "attic" ∧
      lakeside.pruned.node? "attic" = none ∧
      ∀ moves, (ofGraph lakeside.pruned {}).play moves = (ofGraph lakeside {}).play moves := by
  have contained : lakeside.contains lakeside.start = true := rfl
  have unreachable := pruned_plays_alike lakeside {} [] contained
  have closed : lakeside.Closed ["shore"] := by
    intro id member node found target linked targetContained
    rw [List.mem_singleton.mp member] at found
    obtain rfl := Option.some.inj found
    have linkedTo : target = "death" ∨ target = "shore" := by simpa [Node.edges] using linked
    rcases linkedTo with rfl | rfl
    · exact absurd targetContained (by decide)
    · exact List.mem_cons_self
  have absent : "attic" ∉ lakeside.reachable := by
    intro member
    have kept : "attic" ∈ ["shore"] := Graph.mem_of_mem_reachable closed List.mem_cons_self member
    exact absurd kept (by decide)
  have reported : lakeside.ReportedUnreachable "attic" := (unreachable.1 "attic").mpr ⟨rfl, absent⟩
  refine ⟨contained, reported, unreachable.2.1 "attic" reported, fun moves => ?_⟩
  exact (pruned_plays_alike lakeside {} moves contained).2.2.2.1

end Session

end Storyline
