import Storyline.Play.Walk

/-!
# Trails through branches

A trail leads from one name to another past branches, each of which goes on by the
link that is chosen for it. It is said without a search: nothing is remembered on
the way, and a trail may pass a branch as often as it likes. Two trails from one
name agree as far as the shorter one goes. So a trail that comes back to a branch
can be followed for ever, and from a name there is at most one halt.

The walk of play keeps to the trail. It answers with the halt if there is one, and
otherwise with the first branch that it comes back to. Each answer is given exactly
where the trail calls for it, so no cycle is reported on a trail that halts.
-/

namespace Storyline.Graph

variable {graph : Graph} {chooses : LogicNode → Bool}

/-- One name leads to another past some branches, which are listed in order. -/
inductive Leads (graph : Graph) (chooses : LogicNode → Bool) :
    NodeId → List NodeId → NodeId → Prop where
  | here (id : NodeId) : Leads graph chooses id [] id
  | past {id next last : NodeId} {passed : List NodeId} {node : LogicNode}
      (found : graph.node? id = some (.logic node))
      (selected : node.link (chooses node) = some next)
      (onward : Leads graph chooses next passed last) :
      Leads graph chooses id (id :: passed) last

/-- The trail from a name passes any number of branches. -/
def Endless (graph : Graph) (chooses : LogicNode → Bool) (start : NodeId) : Prop :=
  ∀ count, ∃ passed last, passed.length = count ∧ graph.Leads chooses start passed last

/-- No trail leads on from a name: it is no branch, or a branch without the link
that is chosen for it. -/
def Halts (graph : Graph) (chooses : LogicNode → Bool) (id : NodeId) : Prop :=
  ∀ node, graph.node? id = some (.logic node) → node.link (chooses node) = none

/-- What is answered at a name after some branches, unless the trail leads on. -/
def halt? (graph : Graph) (chooses : LogicNode → Bool) (passed : List NodeId) (id : NodeId) :
    Option (List NodeId × Stop) :=
  match graph.node? id with
  | none => some (passed, .missing id)
  | some (.logic node) =>
    match node.link (chooses node) with
    | some _ => none
    | none => some (passed ++ [id], .dangling id (chooses node))
  | some (.choice node) => some (passed, .choice id node)
  | some (.input node) => some (passed, .input id node)
  | some (.death message) => some (passed, .ending .death message)
  | some (.win message) => some (passed, .ending .win message)

namespace Leads

/-- A trail may be followed by another one from where it leads. The branches of both are listed one
behind the other. -/
theorem append {start middle last : NodeId} {passed more : List NodeId}
    (led : graph.Leads chooses start passed middle) (onward : graph.Leads chooses middle more last) :
    graph.Leads chooses start (passed ++ more) last := by
  induction led with
  | here => exact onward
  | past found selected _ inductionHypothesis =>
    exact .past found selected (inductionHypothesis onward)

/-- A trail that passes any branches begins with the name that it leads from. -/
theorem head_eq {start first last : NodeId} {passed : List NodeId}
    (led : graph.Leads chooses start (first :: passed) last) : first = start := by
  cases led
  rfl

/-- A trail may be cut between any two of its branches. The place in between is the one that the
first part leads to, and it need not be known in advance. -/
theorem split {start last : NodeId} {passed more : List NodeId}
    (led : graph.Leads chooses start (passed ++ more) last) :
    ∃ middle, graph.Leads chooses start passed middle ∧ graph.Leads chooses middle more last := by
  induction passed generalizing start with
  | nil => exact ⟨start, .here start, led⟩
  | cons first rest inductionHypothesis =>
    cases led with
    | past found selected onward =>
      obtain ⟨middle, before, after⟩ := inductionHypothesis onward
      exact ⟨middle, .past found selected before, after⟩

/-- Of two trails from one name the longer one begins with the shorter one. Nothing is assumed
about where the trails end: a name has one node, and a branch one chosen link, so both trails take
the same steps as long as both go on. -/
theorem extends_shorter {start last other : NodeId} {passed others : List NodeId}
    (led : graph.Leads chooses start passed last) (otherLed : graph.Leads chooses start others other)
    (shorter : passed.length ≤ others.length) :
    ∃ rest, others = passed ++ rest ∧ graph.Leads chooses last rest other := by
  induction led generalizing others with
  | here => exact ⟨others, rfl, otherLed⟩
  | past found selected _ inductionHypothesis =>
    cases otherLed with
    | here => exact absurd shorter (Nat.not_succ_le_zero _)
    | past otherFound otherSelected otherOnward =>
      obtain rfl := Node.logic.inj (Option.some.inj (found.symm.trans otherFound))
      obtain rfl := Option.some.inj (selected.symm.trans otherSelected)
      obtain ⟨rest, same, further⟩ := inductionHypothesis otherOnward (Nat.le_of_succ_le_succ shorter)
      exact ⟨rest, congrArg _ same, further⟩

/-- A trail that is longer than another one passes the name that the other leads to. It is the
strict form of the law before it, and the one by which two trails of different length are told
apart. -/
theorem passes_shorter {start last other : NodeId} {passed others : List NodeId}
    (led : graph.Leads chooses start passed last) (otherLed : graph.Leads chooses start others other)
    (shorter : passed.length < others.length) : ∃ rest, others = passed ++ last :: rest := by
  obtain ⟨rest, rfl, further⟩ := led.extends_shorter otherLed (Nat.le_of_lt shorter)
  cases rest with
  | nil => exact absurd shorter (by simp)
  | cons first rest =>
    obtain rfl := further.head_eq
    exact ⟨rest, rfl⟩

/-- Trails of one length from one name are the same trail. So a trail is known from its length, and
uniqueness becomes a comparison of lengths. -/
theorem eq_of_length {start last other : NodeId} {passed others : List NodeId}
    (led : graph.Leads chooses start passed last) (otherLed : graph.Leads chooses start others other)
    (same : passed.length = others.length) : passed = others ∧ last = other := by
  obtain ⟨rest, rfl, further⟩ := led.extends_shorter otherLed (Nat.le_of_eq same)
  obtain rfl : rest = [] := List.length_eq_zero_iff.mp (by simpa using same)
  cases further
  exact ⟨(List.append_nil _).symm, rfl⟩

/-- What a trail passes is a branch with the link that is chosen for it. This is what keeps a trail
from passing scenes, endings, and names without a node. -/
theorem branch_of_mem {start last id : NodeId} {passed : List NodeId}
    (led : graph.Leads chooses start passed last) (member : id ∈ passed) :
    ∃ node next, graph.node? id = some (.logic node) ∧ node.link (chooses node) = some next := by
  induction led with
  | here => exact absurd member List.not_mem_nil
  | past found selected _ inductionHypothesis =>
    rcases List.mem_cons.mp member with rfl | later
    · exact ⟨_, _, found, selected⟩
    · exact inductionHypothesis later

/-- No trail passes a halt. -/
theorem not_mem_of_halts {start last id : NodeId} {passed : List NodeId}
    (led : graph.Leads chooses start passed last) (halts : graph.Halts chooses id) :
    id ∉ passed := by
  intro member
  obtain ⟨node, next, found, selected⟩ := led.branch_of_mem member
  rw [halts node found] at selected
  cases selected

/-- No trail is longer than one that leads to a halt. A longer one would pass the halt, which has
no link to go on by. -/
theorem length_le_of_halts {start last other : NodeId} {passed others : List NodeId}
    (led : graph.Leads chooses start passed last) (halts : graph.Halts chooses last)
    (otherLed : graph.Leads chooses start others other) : others.length ≤ passed.length := by
  refine Nat.le_of_not_lt fun longer => ?_
  obtain ⟨rest, rfl⟩ := led.passes_shorter otherLed longer
  exact otherLed.not_mem_of_halts halts (by simp)

/-- A trail without repetition is no longer than one that comes back to a branch. A longer one
would pass the branch that the other one comes back to a second time. -/
theorem length_le_of_revisit {start last other : NodeId} {passed others : List NodeId}
    (led : graph.Leads chooses start passed last) (again : last ∈ passed)
    (otherLed : graph.Leads chooses start others other) (distinct : others.Nodup) :
    others.length ≤ passed.length := by
  refine Nat.le_of_not_lt fun longer => ?_
  obtain ⟨rest, rfl⟩ := led.passes_shorter otherLed longer
  exact (List.nodup_append.mp distinct).2.2 last again last List.mem_cons_self rfl

/-- A trail that comes back to a branch can be followed for ever: the part between the two visits
leads from the branch to itself, as often as one likes.

Proof: the cut at the earlier visit leaves a trail from the branch to itself. By induction on how
often it is appended there are trails of any length or more, and a longer trail is cut to the
length that is asked for. -/
theorem endless_of_revisit {start last : NodeId} {passed : List NodeId}
    (led : graph.Leads chooses start passed last) (again : last ∈ passed) :
    graph.Endless chooses start := by
  obtain ⟨before, after, same⟩ := List.append_of_mem again
  obtain ⟨middle, _, loop⟩ := (same ▸ led).split
  obtain rfl := loop.head_eq
  have longEnough : ∀ count, ∃ more, count ≤ more.length ∧ graph.Leads chooses start more last := by
    intro count
    induction count with
    | zero => exact ⟨passed, Nat.zero_le _, led⟩
    | succ count inductionHypothesis =>
      obtain ⟨more, bound, reached⟩ := inductionHypothesis
      exact ⟨more ++ last :: after, by simp; omega, reached.append loop⟩
  intro count
  obtain ⟨more, bound, reached⟩ := longEnough count
  obtain ⟨place, cut, _⟩ := (List.take_append_drop count more ▸ reached).split
  exact ⟨more.take count, place, List.length_take_of_le bound, cut⟩

/-- A trail to a halt is not endless. Among its trails there would be one that is longer than the
trail to the halt. -/
theorem not_endless_of_halts {start last : NodeId} {passed : List NodeId}
    (led : graph.Leads chooses start passed last) (halts : graph.Halts chooses last) :
    ¬ graph.Endless chooses start := by
  intro endless
  obtain ⟨others, other, length, otherLed⟩ := endless (passed.length + 1)
  have bound := led.length_le_of_halts halts otherLed
  omega

/-- The trail from a name has at most one halt. Neither trail is longer than the other, so they
have one length. -/
theorem halt_unique {start last other : NodeId} {passed others : List NodeId}
    (led : graph.Leads chooses start passed last) (halts : graph.Halts chooses last)
    (otherLed : graph.Leads chooses start others other) (otherHalts : graph.Halts chooses other) :
    passed = others ∧ last = other := by
  have noLonger : passed.length ≤ others.length := otherLed.length_le_of_halts otherHalts led
  have noShorter : others.length ≤ passed.length := led.length_le_of_halts halts otherLed
  exact led.eq_of_length otherLed (Nat.le_antisymm noLonger noShorter)

/-- The trail from a name comes back for the first time at one place only. Both are assumed to be
without repetition up to that place; without this, a trail could go round once more. -/
theorem revisit_unique {start last other : NodeId} {passed others : List NodeId}
    (led : graph.Leads chooses start passed last) (distinct : passed.Nodup) (again : last ∈ passed)
    (otherLed : graph.Leads chooses start others other) (otherDistinct : others.Nodup)
    (otherAgain : other ∈ others) : passed = others ∧ last = other := by
  have noLonger : passed.length ≤ others.length :=
    otherLed.length_le_of_revisit otherAgain led distinct
  have noShorter : others.length ≤ passed.length :=
    led.length_le_of_revisit again otherLed otherDistinct
  exact led.eq_of_length otherLed (Nat.le_antisymm noLonger noShorter)

end Leads

/-- An answer is given at halts only. -/
theorem halts_of_halt? {id : NodeId} {passed : List NodeId} {answer : List NodeId × Stop}
    (halted : graph.halt? chooses passed id = some answer) : graph.Halts chooses id := by
  intro node found
  simp only [halt?, found] at halted
  split at halted
  · cases halted
  · assumption

/-- From any place on a trail the walk goes on to the halt of the trail or to the first branch that
the trail comes back to. The trail so far must be without repetition, which is what the walk itself
tests at each branch.

Proof: by induction on the walk. Wherever it stops at once, the halt is read off or the branch has
been passed. At a fresh branch with its link the trail is one branch longer and still without
repetition, and the rest is the induction hypothesis. -/
theorem walk_stops {start id : NodeId} {passed : List NodeId}
    (led : graph.Leads chooses start passed id) (distinct : passed.Nodup) :
    ∃ all last, graph.Leads chooses start all last ∧ all.Nodup ∧
      (graph.halt? chooses all last = some (graph.walk chooses passed id) ∨
        last ∈ all ∧ graph.walk chooses passed id = (all ++ [last], .cycle last)) := by
  fun_induction walk graph chooses passed id with
  | case1 passed id absent =>
    exact ⟨passed, id, led, distinct, Or.inl (by simp only [halt?, absent])⟩
  | case2 passed id node found again =>
    exact ⟨passed, id, led, distinct, Or.inr ⟨List.contains_iff_mem.mp again, rfl⟩⟩
  | case3 passed id node found fresh next selected inductionHypothesis =>
    have absent : id ∉ passed := fun member => fresh (List.contains_iff_mem.mpr member)
    refine inductionHypothesis (led.append (.past found selected (.here next))) ?_
    exact List.nodup_append.mpr ⟨distinct, by simp, fun other member last same => by
      obtain rfl := List.mem_singleton.mp same
      exact fun equal => absent (equal ▸ member)⟩
  | case4 passed id node found fresh absent =>
    exact ⟨passed, id, led, distinct, Or.inl (by simp only [halt?, found, absent])⟩
  | case5 passed id node found | case6 passed id node found | case7 passed id message found
  | case8 passed id message found =>
    exact ⟨passed, id, led, distinct, Or.inl (by simp only [halt?, found])⟩

/-- A trail that halts passes no branch twice. Freedom from repetition is not assumed but comes
from the walk, which finds a trail that has it; two trails to a halt are the same. -/
theorem Leads.nodup_of_halts {start last : NodeId} {passed : List NodeId}
    (led : graph.Leads chooses start passed last) (halts : graph.Halts chooses last) :
    passed.Nodup := by
  obtain ⟨all, other, otherLed, distinct, halted | ⟨again, -⟩⟩ :=
    walk_stops (.here start : graph.Leads chooses start [] start) List.nodup_nil
  · obtain ⟨rfl, -⟩ := led.halt_unique halts otherLed (halts_of_halt? halted)
    exact distinct
  · exact absurd (otherLed.endless_of_revisit again) (led.not_endless_of_halts halts)

/-- Where the trail from a name halts, there the walk from it stops. The walk might also have
reported a cycle; but a trail with a cycle is endless, and this one halts. -/
theorem walk_of_halt {start last : NodeId} {passed : List NodeId} {answer : List NodeId × Stop}
    (led : graph.Leads chooses start passed last)
    (halted : graph.halt? chooses passed last = some answer) :
    graph.walk chooses [] start = answer := by
  have halts := halts_of_halt? halted
  obtain ⟨all, other, otherLed, -, reached | ⟨again, -⟩⟩ :=
    walk_stops (.here start : graph.Leads chooses start [] start) List.nodup_nil
  · obtain ⟨rfl, rfl⟩ := led.halt_unique halts otherLed (halts_of_halt? reached)
    exact Option.some.inj (reached.symm.trans halted)
  · exact absurd (otherLed.endless_of_revisit again) (led.not_endless_of_halts halts)

/-- Where the trail from a name comes back for the first time, there the walk from it stops. It
cannot have found a halt, since the trail goes on for ever. -/
theorem walk_of_revisit {start last : NodeId} {passed : List NodeId}
    (led : graph.Leads chooses start passed last) (distinct : passed.Nodup) (again : last ∈ passed) :
    graph.walk chooses [] start = (passed ++ [last], .cycle last) := by
  obtain ⟨all, other, otherLed, otherDistinct, reached | ⟨otherAgain, reached⟩⟩ :=
    walk_stops (.here start : graph.Leads chooses start [] start) List.nodup_nil
  · exact absurd (led.endless_of_revisit again)
      (otherLed.not_endless_of_halts (halts_of_halt? reached))
  · obtain ⟨rfl, rfl⟩ := led.revisit_unique distinct again otherLed otherDistinct otherAgain
    exact reached

/-- The names of all branches. -/
def branches (graph : Graph) : List NodeId :=
  graph.nodes.entries.filterMap fun entry =>
    match entry.2 with
    | .logic _ => some entry.1
    | _ => none

/-- A branch is among the branches. The list is the one by which the length of a walk is bounded. -/
theorem mem_branches_of_node? {id : NodeId} {node : LogicNode}
    (found : graph.node? id = some (.logic node)) : id ∈ graph.branches := by
  have listed : (id, Node.logic node) ∈ graph.nodes.entries := Table.mem_entries_of_get? found
  exact List.mem_filterMap.mpr ⟨(id, .logic node), listed, rfl⟩

/-- A halt adds to the branches passed at most itself. -/
theorem length_of_halt? {id : NodeId} {passed : List NodeId} {answer : List NodeId × Stop}
    (halted : graph.halt? chooses passed id = some answer) :
    answer.1.length ≤ passed.length + 1 := by
  unfold halt? at halted
  split at halted
  case h_2 =>
    split at halted
    · cases halted
    · obtain rfl := Option.some.inj halted
      simp
  all_goals
    obtain rfl := Option.some.inj halted
    exact Nat.le_succ _

/-- The walk visits each branch once, and at the end one of them perhaps for the second time.

Proof: what the walk passes is a trail without repetition, and every name on it is a branch. So
there are no more of them than there are branches, and the answer adds at most one name. -/
theorem length_walk_le (graph : Graph) (chooses : LogicNode → Bool) (start : NodeId) :
    (graph.walk chooses [] start).1.length ≤ graph.branches.length + 1 := by
  obtain ⟨all, last, led, distinct, stopped⟩ :=
    walk_stops (.here start : graph.Leads chooses start [] start) List.nodup_nil
  have bound : all.length ≤ graph.branches.length := by
    refine distinct.length_le_of_subset fun id member => ?_
    obtain ⟨node, next, found, -⟩ := led.branch_of_mem member
    exact mem_branches_of_node? found
  have longer : (graph.walk chooses [] start).1.length ≤ all.length + 1 := by
    rcases stopped with halted | ⟨-, revisited⟩
    · exact length_of_halt? halted
    · rw [revisited, List.length_append]
      exact Nat.le_refl _
  omega

end Storyline.Graph
