import Storyline.Proofs.Play.Request

/-!
# The effects that a request attempts

A request attempts effects in order: those by which an action begins, and then those of the
scene where play arrives. Each is attempted in the state that the one before it has left, and
a restart ends its list. The attempts are listed here beside the state in which each of them is
made. What they come to one by one, taken together, is the outcome of the request. So the
effects that an outcome counts as ignored are those among the attempts that are ignored where
they are made.
-/

namespace Storyline

/-- An effect, and the state in which it is attempted. -/
structure Attempt where
  effect : Effect
  state : State

/-- What an attempt comes to. -/
def Attempt.applied (attempt : Attempt) : Applied := (attempt.effect.applySingle attempt.state).1

/-- What one effect comes to, as the outcome of a list with no other effect. -/
def Applied.outcome : Applied → Outcome
  | .changed event => { events := [event] }
  | .ignored _ => { ignored := 1 }
  | .restart => { events := [.restartRequested], restart := true }

/-- Whether an effect is ignored. -/
def Applied.isIgnored : Applied → Bool
  | .ignored _ => true
  | _ => false

/-- What some attempts come to together. -/
def Outcome.ofAttempts (attempts : List Attempt) : Outcome :=
  attempts.foldr (fun attempt outcome => attempt.applied.outcome.merge outcome) {}

/-- The effects of a list that are attempted one after another, up to a restart. -/
def Effect.attempts : List Effect → State → List Attempt
  | [], _ => []
  | first :: rest, state =>
    ⟨first, state⟩ :: match first.applySingle state with
      | (.restart, _) => []
      | (_, next) => attempts rest next

/-- The effects by which a typed text is kept; none for an extra field. -/
def Effect.keeping (variableName : Option String) (value : String) : List Effect :=
  match variableName.filter fun name => !name.isEmpty with
  | none => [.setField .playerName (.text value)]
  | some name =>
    match name.toList with
    | 'f' :: 'l' :: 'a' :: 'g' :: 's' :: '.' :: path =>
      [.setFlag (String.ofList (path.takeWhile (· != '.'))) (.text value)]
    | _ => if (StateField.named? name).isSome then [.setValue name (.text value)] else []

namespace Narrator

/-- The effects attempted on the way from a name: those of the scene where play arrives. -/
def entryAttempts (narrator : Narrator) (state : State) (start : NodeId) : List Attempt :=
  match (narrator.graph.walk (narrator.branching state) [] start).2 with
  | .choice id node => Effect.attempts node.scene.effects (arrival state id node.scene)
  | .input id node => Effect.attempts node.scene.effects (arrival state id node.scene)
  | _ => []

/-- The effects attempted in the beginning of an action: those of the choice taken, or those
by which a typed text is kept. -/
def beginningAttempts (narrator : Narrator) (state : State) (action : Action) : List Attempt :=
  match narrator.graph.node? state.currentScene, action with
  | some (.choice node), .choose index =>
    match narrator.visible? state node index with
    | some choice => Effect.attempts choice.effects state
    | none => []
  | some (.input node), .submit input =>
    Effect.attempts (Effect.keeping node.variableName (Text.trim input)) state
  | _, _ => []

/-- The effects that a request attempts. -/
def attempts (narrator : Narrator) (state : State) : Request → List Attempt
  | .resolve id => narrator.entryAttempts state id
  | .act action =>
    narrator.beginningAttempts state action ++
      match narrator.beginning state action with
      | .leaving _ changed (some target) _ => narrator.entryAttempts changed target
      | _ => []

end Narrator

/-! ## Outcomes -/

namespace Outcome

/-- Outcomes may be merged in any grouping. Events are lists that are joined, ignored effects are
counted, and restarts are asked for or not. -/
theorem merge_assoc (first second third : Outcome) :
    (first.merge second).merge third = first.merge (second.merge third) := by
  simp only [merge, List.append_assoc, Nat.add_assoc, Bool.or_assoc]

/-- Attempts after others come to what both come to. Where the line between them is drawn, for
example between a choice and the scene behind it, makes no difference. -/
theorem ofAttempts_append (first second : List Attempt) :
    ofAttempts (first ++ second) = (ofAttempts first).merge (ofAttempts second) := by
  induction first with
  | nil => exact (empty_merge _).symm
  | cons attempt rest inductionHypothesis =>
    rw [ofAttempts, List.cons_append, List.foldr_cons]
    exact (congrArg _ inductionHypothesis).trans (merge_assoc ..).symm

/-- As many effects are counted as ignored as attempts are ignored. An effect that is attempted
twice and ignored twice counts twice.

Proof: by induction on the attempts, of which each adds one or nothing. -/
theorem ignored_ofAttempts (attempts : List Attempt) :
    (ofAttempts attempts).ignored =
      (attempts.filter fun attempt => attempt.applied.isIgnored).length := by
  induction attempts with
  | nil => rfl
  | cons attempt rest inductionHypothesis =>
    have counted : (ofAttempts (attempt :: rest)).ignored =
        attempt.applied.outcome.ignored + (ofAttempts rest).ignored := rfl
    rw [counted, inductionHypothesis, List.filter_cons]
    cases attempt.applied with
    | changed event => exact Nat.zero_add _
    | ignored why => exact Nat.add_comm ..
    | restart => exact Nat.zero_add _

end Outcome

namespace Effect

variable {state : State}

/-- What effects come to is what they come to one by one.

Proof: by induction on the effects, since the rest of a list is attempted in the very state in
which it is applied. -/
theorem applyAll_outcome (effects : List Effect) (state : State) :
    (applyAll effects state).1 = .ofAttempts (attempts effects state) := by
  induction effects generalizing state with
  | nil => rfl
  | cons first rest inductionHypothesis =>
    have single : (⟨first, state⟩ : Attempt).applied = (first.applySingle state).1 := rfl
    rw [attempts, Outcome.ofAttempts, List.foldr_cons, single]
    unfold applyAll
    rcases first.applySingle state with ⟨applied, next⟩
    have onward := inductionHypothesis next
    cases applied with
    | changed event =>
      simp only [onward, Applied.outcome, Outcome.merge, List.singleton_append, Nat.zero_add,
        Bool.false_or, Outcome.ofAttempts]
    | ignored why =>
      simp only [onward, Applied.outcome, Outcome.merge, List.nil_append, Bool.false_or,
        Outcome.ofAttempts, Nat.add_comm]
    | restart => rfl

/-- What is attempted of a list is one of its effects. The converse fails for the effects behind a
restart. -/
theorem mem_of_mem_attempts {effects : List Effect} {attempt : Attempt}
    (member : attempt ∈ attempts effects state) : attempt.effect ∈ effects := by
  induction effects generalizing state with
  | nil => cases member
  | cons first rest inductionHypothesis =>
    rcases List.mem_cons.mp member with rfl | later
    · exact List.mem_cons_self
    · rcases applied : first.applySingle state with ⟨_ | _ | _, next⟩
      · rw [applied] at later
        exact List.mem_cons_of_mem _ (inductionHypothesis later)
      · rw [applied] at later
        exact List.mem_cons_of_mem _ (inductionHypothesis later)
      · rw [applied] at later
        cases later

end Effect

section Keeping

variable {variableName : Option String} {name : String}

/-- A text is kept in a flag under the path of the flag. What stands behind a second point in the
name plays no part. -/
theorem Effect.keeping_flag (named : (variableName.filter fun name => !name.isEmpty) = some name)
    {path : List Char} (spelled : name.toList = 'f' :: 'l' :: 'a' :: 'g' :: 's' :: '.' :: path)
    (value : String) : keeping variableName value =
      [.setFlag (String.ofList (path.takeWhile (· != '.'))) (.text value)] := by
  simp only [keeping, named, spelled]

/-- A text is kept in the field of another name, if there is one. A name that is no state field has
no effect to keep it, and is written to the extra fields instead. -/
theorem Effect.keeping_other (named : (variableName.filter fun name => !name.isEmpty) = some name)
    (noFlag : ∀ path, name.toList ≠ 'f' :: 'l' :: 'a' :: 'g' :: 's' :: '.' :: path)
    (value : String) : keeping variableName value =
      if (StateField.named? name).isSome then [.setValue name (.text value)] else [] := by
  unfold keeping
  rw [named]
  dsimp only
  split
  · rename_i path spelled
    exact absurd spelled (noFlag path)
  · rfl

/-- A typed text is kept with the outcome of the effects that keep it.

Proof: by the name of the variable: none, a flag's path, a state field's name, or any other. -/
theorem State.store_outcome (state : State) (variableName : Option String) (value : String) :
    (state.store variableName value).1 =
      .ofAttempts (Effect.attempts (Effect.keeping variableName value) state) := by
  rw [← Effect.applyAll_outcome]
  unfold State.store
  cases named : variableName.filter fun name => !name.isEmpty with
  | none =>
    unfold Effect.keeping
    rw [named]
  | some name =>
    dsimp only
    split
    · rename_i path spelled
      rw [Effect.keeping_flag named spelled]
    · rename_i noFlag
      rw [Effect.keeping_other named noFlag]
      split
      · rfl
      · rfl

end Keeping

/-! ## Requests -/

namespace Graph

variable {graph : Graph} {chooses : LogicNode → Bool} {passed path : List NodeId} {start id : NodeId}

/-- Where a walk stops at a scene with choices, the graph has that scene. The walk looks nodes up
by name and stops at the one that it has found. -/
theorem node?_of_walk_choice {node : ChoiceNode}
    (walked : graph.walk chooses passed start = (path, .choice id node)) :
    graph.node? id = some (.choice node) := by
  fun_induction walk graph chooses passed start with
  | case3 passed start node found fresh next selected inductionHypothesis =>
    exact inductionHypothesis walked
  | case5 passed start node found =>
    cases walked
    exact found
  | _ => cases walked

/-- Where a walk stops at a scene that asks for a text, the graph has that scene. As with choices,
the name is the one at which the walk stopped, and not the one where it began. -/
theorem node?_of_walk_input {node : InputNode}
    (walked : graph.walk chooses passed start = (path, .input id node)) :
    graph.node? id = some (.input node) := by
  fun_induction walk graph chooses passed start with
  | case3 passed start node found fresh next selected inductionHypothesis =>
    exact inductionHypothesis walked
  | case6 passed start node found =>
    cases walked
    exact found
  | _ => cases walked

end Graph

namespace Narrator

variable {narrator : Narrator} {state : State}

/-- A name that is resolved comes to the outcome of the effects attempted on the way. An ending
attempts nothing, and a name that does not resolve is outside of this. -/
theorem resolveFrom_outcome {start : NodeId} {resolved : Resolved}
    (answered : (narrator.resolveFrom state start).answer = .ok resolved) :
    resolved.outcome = .ofAttempts (narrator.entryAttempts state start) := by
  have sameWalk : narrator.graph.walk (fun node => narrator.allows state node.condition) [] start =
      narrator.graph.walk (narrator.branching state) [] start := rfl
  unfold resolveFrom at answered
  unfold entryAttempts
  rw [sameWalk] at answered
  generalize narrator.graph.walk (narrator.branching state) [] start = walked at answered ⊢
  obtain ⟨path, stop⟩ := walked
  cases stop with
  | choice id node | input id node =>
    cases answered
    exact Effect.applyAll_outcome _ _
  | ending ending message =>
    cases answered
    rfl
  | missing id | dangling id branch | cycle id => cases answered

/-- A target that has no node leads to no effects. The targets that stand for endings without a
node are of this kind. -/
theorem entryAttempts_of_absent {target : NodeId} (absent : narrator.graph.contains target = false) :
    narrator.entryAttempts state target = [] := by
  have missing : narrator.graph.node? target = none := Option.not_isSome_iff_eq_none.mp (by
    rw [Bool.not_eq_true]
    exact absent)
  have walked : narrator.graph.walk (narrator.branching state) [] target = ([], .missing target) :=
    Graph.walk_of_halt (.here target) (by simp only [Graph.halt?, missing])
  rw [entryAttempts, walked]

/-- A link that is followed comes to the outcome of the effects attempted behind it. A link without
a target cannot succeed, which is why there is one. -/
theorem follow_outcome {origin : NodeId} {next : Option NodeId} {choice : Option Choice}
    {resolved : Resolved}
    (answered : (narrator.follow state origin next choice).answer = .ok resolved) :
    ∃ target, next = some target ∧
      resolved.outcome = .ofAttempts (narrator.entryAttempts state target) := by
  rcases narrator.follow_cases state origin next choice with
    ⟨-, same⟩ | ⟨target, ending, linked, absent, -, same⟩ | ⟨target, linked, -, same⟩
  · rw [same] at answered
    cases answered
  · rw [same] at answered
    cases answered
    exact ⟨target, linked, by rw [entryAttempts_of_absent absent]; rfl⟩
  · rw [same] at answered
    exact ⟨target, linked, resolveFrom_outcome answered⟩

/-- What an action writes in its beginning comes to the outcome of the effects attempted there.

Proof: by the ways to begin. A choice attempts its effects, a typed text those that keep it, and a
direct link none. -/
theorem Begins.outcome {action : Action} {begun : Beginning} {outcome : Outcome} {changed : State}
    (begins : narrator.Begins state action begun)
    (wrote : begun = .restarting outcome changed ∨
      ∃ next choice, begun = .leaving outcome changed next choice) :
    outcome = .ofAttempts (narrator.beginningAttempts state action) := by
  unfold beginningAttempts
  cases begins with
  | @restarting node index choice _ _ found visible applied =>
    rcases wrote with same | ⟨_, _, same⟩
    · cases same
      simp only [found, visible, ← Effect.applyAll_outcome, applied]
    · cases same
  | @chosen node index choice _ _ found visible applied =>
    rcases wrote with same | ⟨_, _, same⟩
    · cases same
    · cases same
      simp only [found, visible, ← Effect.applyAll_outcome, applied]
  | direct found =>
    rcases wrote with same | ⟨_, _, same⟩
    · cases same
    · cases same
      rw [found]
      rfl
  | @typed node input _ _ found _ kept =>
    rcases wrote with same | ⟨_, _, same⟩
    · cases same
    · cases same
      simp only [found, ← State.store_outcome, kept]
  | _ => rcases wrote with same | ⟨_, _, same⟩ <;> cases same

/-- A request that succeeds comes to the outcome of the effects that it attempts. So what a host is
told of a request can be computed from the effects that the request runs into.

Proof: for an action the attempts of its beginning come first, and those behind the link are merged
after them. -/
theorem respond_outcome {request : Request} {resolved : Resolved}
    (answered : (narrator.respond state request).answer = .ok resolved) :
    resolved.outcome = .ofAttempts (narrator.attempts state request) := by
  cases request with
  | resolve id => exact resolveFrom_outcome answered
  | act action =>
    have begins := narrator.begins_beginning state action
    change resolved.outcome = .ofAttempts (narrator.beginningAttempts state action ++ _)
    rcases perform_ok answered with
      ⟨outcome, changed, begun, rfl, -⟩ |
        ⟨outcome, changed, next, choice, followed, begun, answeredLink, rfl, -⟩
    · rw [begun, List.append_nil]
      exact begins.outcome (Or.inl begun)
    · obtain ⟨target, rfl, behind⟩ := follow_outcome answeredLink
      rw [begun, Outcome.ofAttempts_append, ← behind,
        ← begins.outcome (Or.inr ⟨some target, choice, begun⟩)]
      rfl

/-- What a request attempts is an effect of a node of the story, or keeps a typed text. Whether the
request succeeds plays no part.

Proof: the effects of a beginning belong to the node where play stands, and those of an entry to
the node where play arrives. -/
theorem mem_attempts {request : Request} {attempt : Attempt}
    (member : attempt ∈ narrator.attempts state request) :
    (∃ id node, narrator.graph.node? id = some node ∧ attempt.effect ∈ node.effects) ∨
      ∃ variableName value, attempt.effect ∈ Effect.keeping variableName value := by
  have entering {state : State} {start : NodeId}
      (member : attempt ∈ narrator.entryAttempts state start) :
      ∃ id node, narrator.graph.node? id = some node ∧ attempt.effect ∈ node.effects := by
    unfold entryAttempts at member
    rcases walked : narrator.graph.walk (narrator.branching state) [] start with ⟨path, stop⟩
    rw [walked] at member
    cases stop with
    | choice id node =>
      exact ⟨id, _, Graph.node?_of_walk_choice walked,
        List.mem_append_left _ (Effect.mem_of_mem_attempts member)⟩
    | input id node =>
      exact ⟨id, _, Graph.node?_of_walk_input walked, Effect.mem_of_mem_attempts member⟩
    | _ => cases member
  cases request with
  | resolve id => exact Or.inl (entering member)
  | act action =>
    rcases List.mem_append.mp member with atFirst | behind
    · unfold beginningAttempts at atFirst
      split at atFirst
      · rename_i node index found
        split at atFirst
        · rename_i choice visible
          have listed := Effect.mem_of_mem_attempts atFirst
          exact Or.inl ⟨_, _, found, List.mem_append_right _
            (List.mem_flatMap.mpr ⟨choice, mem_of_visible? visible, listed⟩)⟩
        · cases atFirst
      · exact Or.inr ⟨_, _, Effect.mem_of_mem_attempts atFirst⟩
      · cases atFirst
    · split at behind
      · exact Or.inl (entering behind)
      · cases behind

end Narrator

end Storyline
