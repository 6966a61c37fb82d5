import Storyline.Proofs.Inspection.Findings
import Storyline.Proofs.Play.Attempt
import Storyline.Proofs.Play.View

/-!
# Stories whose vocabulary is known

Play assumes a truth value for conditions that it cannot read. An inspection that finds none
of them has looked at every condition that play can come to: the guards of choices and of the
variants of a text, and those of branches, at any depth. In such a story nothing depends on
the value assumed. Every request is answered alike whatever is assumed, every scene is told
alike, and the states reached are the same.

It is the same with effects that play cannot read, and ignores. An inspection that finds none
has looked at every effect that a request can attempt. What is still ignored then is a value
that does not fit the field it is meant for, or that is meant for no field.
-/

namespace Storyline

variable {state : State}

/-! ## Conditions -/

mutual

/-- What is assumed of mistakes does not matter to a condition without any.

Proof: by recursion on the condition. The two mistakes are ruled out, and tests look at the state
only. -/
theorem Condition.holds_of_issues (assumed other : Bool) : ∀ condition : Condition,
    condition.issues = [] → condition.holds assumed state = condition.holds other state
  | .hasFlag _ _, _ => by simp only [holds]
  | .hasItem _, _ => by simp only [holds]
  | .all conditions, faultless => by
    simp only [holds, holdAll_of_issues assumed other conditions faultless]
  | .any conditions, faultless => by
    simp only [holds, holdsAny_of_issues assumed other conditions faultless]
  | .negation (some condition), faultless => by
    simp only [holds, holds_of_issues assumed other condition faultless]

/-- What is assumed of mistakes does not matter to conditions without any that have to hold
together. The mistakes of a list are those of its members, so there is none in any of them. -/
theorem Condition.holdAll_of_issues (assumed other : Bool) : ∀ conditions : List Condition,
    issuesOfAll conditions = [] →
      holdAll assumed state conditions = holdAll other state conditions
  | [], _ => rfl
  | first :: rest, faultless => by
    obtain ⟨head, tail⟩ := List.append_eq_nil_iff.mp faultless
    simp only [holdAll, holds_of_issues assumed other first head,
      holdAll_of_issues assumed other rest tail]

/-- What is assumed of mistakes does not matter to conditions without any of which one has to hold.
As with all of them, it is enough to go from one to the next. -/
theorem Condition.holdsAny_of_issues (assumed other : Bool) : ∀ conditions : List Condition,
    issuesOfAll conditions = [] →
      holdsAny assumed state conditions = holdsAny other state conditions
  | [], _ => rfl
  | first :: rest, faultless => by
    obtain ⟨head, tail⟩ := List.append_eq_nil_iff.mp faultless
    simp only [holdsAny, holds_of_issues assumed other first head,
      holdsAny_of_issues assumed other rest tail]

end

/-- A guard without mistakes lets the same states pass whatever is assumed. A guard that is not
there lets everything pass. -/
theorem passes_of_issues (assumed other : Bool) {guard : Option Condition}
    (faultless : ∀ condition, guard = some condition → condition.issues = []) :
    passes assumed guard state = passes other guard state := by
  cases guard with
  | none => rfl
  | some condition => exact condition.holds_of_issues assumed other (faultless condition rfl)

/-- A text whose guards are without mistakes shows the same variant whatever is assumed.

Proof: a plain text has no choice to make, and the first variant whose guard passes is the same
one. -/
theorem SceneText.chosen_of_issues (assumed other : Bool) {text : SceneText}
    (faultless : ∀ condition ∈ text.conditions, condition.issues = []) :
    text.chosen assumed state = text.chosen other state := by
  cases text with
  | plain text => rfl
  | variants options =>
    have alike : ∀ variant ∈ options, passes assumed variant.condition state =
        passes other variant.condition state := fun variant listed =>
      passes_of_issues assumed other fun condition guarded =>
        faultless condition (List.mem_filterMap.mpr ⟨variant, listed, guarded⟩)
    have shown : options.find? (fun variant => passes assumed variant.condition state) =
        options.find? fun variant => passes other variant.condition state := by
      clear faultless
      induction options with
      | nil => rfl
      | cons first rest inductionHypothesis =>
        rw [List.find?_cons, List.find?_cons, alike first List.mem_cons_self,
          inductionHypothesis fun variant listed => alike variant (List.mem_cons_of_mem _ listed)]
    simp only [chosen, shown]

/-! ## Stories -/

namespace Graph

variable {graph : Graph}

/-- No condition of a story has a mistake. -/
def Faultless (graph : Graph) : Prop :=
  ∀ {id node}, graph.node? id = some node → ∀ condition ∈ node.conditions, condition.issues = []

/-- An inspection has nothing to say of one kind if nothing of that kind was found. Hosts see the
report, and the passes make the findings; sorting stands between them. -/
theorem ofKind_inspect_eq_nil_iff {kind : FindingKind} :
    graph.inspect.ofKind kind = [] ↔ ∀ finding ∈ graph.findings, finding.kind ≠ kind := by
  unfold Report.ofKind
  rw [List.filter_eq_nil_iff]
  constructor
  · intro nothing finding found same
    exact nothing finding (Report.mem_findings_ofFindings.mpr found) (beq_iff_eq.mpr same)
  · intro nothing finding reported same
    exact nothing finding (Report.mem_findings_ofFindings.mp reported) (beq_iff_eq.mp same)

/-- What is found in the words of a node is among the findings. Inspection looks at every node,
also at those out of reach. -/
theorem mem_findings_of_vocabulary {id : NodeId} {node : Node} {finding : Finding}
    (found : graph.node? id = some node) (told : finding ∈ vocabularyFindings id node) :
    finding ∈ graph.findings := by
  refine List.mem_append_right _ (List.mem_flatMap.mpr ⟨(id, node), ?_, ?_⟩)
  · exact Table.mem_entries_of_get? found
  · exact List.mem_append_right _ told

/-- A story is faultless if an inspection finds neither an unknown condition nor an empty negation.
The report need not be clean otherwise: links may be broken and the start may be missing. -/
theorem faultless_of_inspect (unknown : graph.inspect.ofKind .unknownCondition = [])
    (empty : graph.inspect.ofKind .emptyNegation = []) : graph.Faultless := by
  intro id node found condition listed
  refine List.eq_nil_iff_forall_not_mem.mpr fun issue made => ?_
  have told : issueFinding id issue ∈ vocabularyFindings id node :=
    List.mem_append_left _ (List.mem_map_of_mem (List.mem_flatMap.mpr ⟨condition, listed, made⟩))
  have reported := mem_findings_of_vocabulary found told
  cases issue with
  | unknownType => exact ofKind_inspect_eq_nil_iff.mp unknown _ reported rfl
  | emptyNegation => exact ofKind_inspect_eq_nil_iff.mp empty _ reported rfl

/-- No node has an unknown effect if an inspection finds none. Effects on entry and those of
choices are both among the effects of a node. -/
theorem not_mem_unknown_of_inspect (known : graph.inspect.ofKind .unknownEffect = [])
    {id : NodeId} {node : Node} (found : graph.node? id = some node) :
    Effect.unknown ∉ node.effects := by
  intro listed
  have told : ⟨id, .unknownEffect, "unknown effect type, skipped"⟩ ∈ vocabularyFindings id node :=
    List.mem_append_right _ (List.mem_map.mpr ⟨.unknown, List.mem_filter.mpr ⟨listed, rfl⟩, rfl⟩)
  exact ofKind_inspect_eq_nil_iff.mp known _ (mem_findings_of_vocabulary found told) rfl

/-- Branches that are chosen alike at all nodes of a story lead to the same place.

Proof: by the recursion of the walk, which asks about nodes of the story only. -/
theorem walk_of_chosen_alike {chooses other : LogicNode → Bool}
    (alike : ∀ {id node}, graph.node? id = some (.logic node) → chooses node = other node)
    (passed : List NodeId) (id : NodeId) :
    graph.walk chooses passed id = graph.walk other passed id := by
  fun_induction walk graph other passed id with
  | case1 passed id absent => rw [walk, absent]
  | case2 passed id node found again =>
    rw [walk, found]
    exact dif_pos again
  | case3 passed id node found fresh next selected inductionHypothesis =>
    rw [walk, found]
    dsimp only
    rw [dif_neg fresh, alike found, selected]
    exact inductionHypothesis
  | case4 passed id node found fresh absent =>
    rw [walk, found]
    dsimp only
    rw [dif_neg fresh, alike found, absent]
  | case5 passed id node found | case6 passed id node found | case7 passed id message found
  | case8 passed id message found => rw [walk, found]

end Graph

/-! ## Narrators -/

namespace Narrator

variable {narrator : Narrator}

/-- The narrator who assumes a truth value of malformed conditions. -/
def assuming (narrator : Narrator) (assumed : Bool) : Narrator := { narrator with assumed }

/-- A guard without mistakes lets the same states pass, whatever a narrator assumes. A guard with a
mistake would be judged by what is assumed. -/
theorem allows_assuming (assumed : Bool) {guard : Option Condition}
    (faultless : ∀ condition, guard = some condition → condition.issues = []) :
    (narrator.assuming assumed).allows state guard = narrator.allows state guard := by
  unfold allows
  exact passes_of_issues assumed narrator.assumed faultless

/-- The scene of a node with choices is told alike if its conditions are without mistakes.

Proof: the text shows the same variant, and the same choices are visible, with the
same positions. -/
theorem choiceScene_assuming (assumed : Bool) (id : NodeId) {node : ChoiceNode}
    (faultless : ∀ condition ∈ (Node.choice node).conditions, condition.issues = []) :
    (narrator.assuming assumed).choiceScene state id node = narrator.choiceScene state id node := by
  have text : (narrator.assuming assumed).tellScene state node.text =
      narrator.tellScene state node.text := by
    refine congrArg (narrator.tell state) (SceneText.chosen_of_issues _ _ fun condition listed => ?_)
    exact faultless condition (List.mem_append_left _ listed)
  have choices : (narrator.assuming assumed).visibleChoices state node.choices =
      narrator.visibleChoices state node.choices := by
    unfold visibleChoices
    refine congrArg _ (List.filter_congr fun entry placed => ?_)
    refine allows_assuming assumed fun condition guarded => ?_
    have listed : entry.1 ∈ node.choices :=
      List.mem_of_getElem? (List.mem_zipIdx_iff_getElem?.mp placed)
    exact faultless condition
      (List.mem_append_right _ (List.mem_filterMap.mpr ⟨entry.1, listed, guarded⟩))
  simp only [choiceScene, text, choices]

/-- The scene of a node that asks for a text is told alike if its conditions are without mistakes.
Such a scene has no choices, so its text is all there is to compare. -/
theorem inputScene_assuming (assumed : Bool) (id : NodeId) {node : InputNode}
    (faultless : ∀ condition ∈ (Node.input node).conditions, condition.issues = []) :
    (narrator.assuming assumed).inputScene state id node = narrator.inputScene state id node := by
  have text : (narrator.assuming assumed).tellScene state node.text =
      narrator.tellScene state node.text :=
    congrArg (narrator.tell state) (SceneText.chosen_of_issues _ _ faultless)
  simp only [inputScene, text]

/-- In a faultless story a name is resolved alike, whatever is assumed.

Proof: the walk goes the same way, and where it stops at a scene, the scene is told alike in the
state that the entry reaches. -/
theorem resolveFrom_assuming (faultless : narrator.graph.Faultless) (assumed : Bool) (state : State)
    (start : NodeId) :
    (narrator.assuming assumed).resolveFrom state start = narrator.resolveFrom state start := by
  have branches {id : NodeId} {node : LogicNode}
      (found : narrator.graph.node? id = some (.logic node)) :
      (narrator.assuming assumed).allows state node.condition =
        narrator.allows state node.condition :=
    allows_assuming assumed fun condition guarded =>
      faultless found condition (Option.mem_toList.mpr guarded)
  have sameWalk : (narrator.assuming assumed).graph.walk
        (fun node => (narrator.assuming assumed).allows state node.condition) [] start =
      narrator.graph.walk (fun node => narrator.allows state node.condition) [] start :=
    Graph.walk_of_chosen_alike branches [] start
  unfold resolveFrom
  rw [sameWalk]
  rcases walked : narrator.graph.walk (fun node => narrator.allows state node.condition) [] start with
    ⟨path, stop⟩
  cases stop with
  | choice id node =>
    have told (entered : State) : (narrator.assuming assumed).choiceScene entered id node =
        narrator.choiceScene entered id node :=
      choiceScene_assuming assumed id (faultless (Graph.node?_of_walk_choice walked))
    simp only [told]
  | input id node =>
    have told (entered : State) : (narrator.assuming assumed).inputScene entered id node =
        narrator.inputScene entered id node :=
      inputScene_assuming assumed id (faultless (Graph.node?_of_walk_input walked))
    simp only [told]
  | ending ending message | missing id | dangling id branch | cycle id => rfl

/-- In a faultless story a link is followed alike, whatever is assumed. Endings without a node are
told without any condition. -/
theorem follow_assuming (faultless : narrator.graph.Faultless) (assumed : Bool) (state : State)
    (origin : NodeId) (next : Option NodeId) (choice : Option Choice) :
    (narrator.assuming assumed).follow state origin next choice =
      narrator.follow state origin next choice := by
  cases next with
  | none => rfl
  | some target =>
    unfold follow
    dsimp only
    rw [resolveFrom_assuming faultless]
    rfl

/-- In a faultless story an action begins alike, whatever is assumed.

Proof: by the node at the current scene; only the guard of a choice has anything to do with what is
assumed. -/
theorem beginning_assuming (faultless : narrator.graph.Faultless) (assumed : Bool) (state : State)
    (action : Action) :
    (narrator.assuming assumed).beginning state action = narrator.beginning state action := by
  have sameGraph : (narrator.assuming assumed).graph = narrator.graph := rfl
  unfold beginning
  rw [sameGraph]
  cases found : narrator.graph.node? state.currentScene with
  | none => rfl
  | some node =>
    cases node with
    | choice node =>
      have visible (index : Nat) : (narrator.assuming assumed).visible? state node index =
          narrator.visible? state node index := by
        unfold visible?
        cases placed : node.choices[index]? with
        | none => rfl
        | some choice =>
          have allowed : (narrator.assuming assumed).allows state choice.condition =
              narrator.allows state choice.condition :=
            allows_assuming assumed fun condition guarded =>
              faultless found condition (List.mem_append_right _
                (List.mem_filterMap.mpr ⟨choice, List.mem_of_getElem? placed, guarded⟩))
          simp only [Option.filter_some, allowed]
      cases action with
      | choose index => simp only [beginningAtChoices, visible]
      | advance => rfl
      | submit input => rfl
    | _ => cases action <;> rfl

/-- In a faultless story a request is answered alike, whatever is assumed. Answer and state are
both the same, so this goes on through any number of requests. -/
theorem respond_assuming (faultless : narrator.graph.Faultless) (assumed : Bool) (state : State)
    (request : Request) :
    (narrator.assuming assumed).respond state request = narrator.respond state request := by
  cases request with
  | resolve id => exact resolveFrom_assuming faultless assumed state id
  | act action =>
    simp only [respond, perform_eq, beginning_assuming faultless]
    cases narrator.beginning state action with
    | refused error => rfl
    | restarting outcome changed => rfl
    | leaving outcome changed next choice => simp only [conclude, follow_assuming faultless]

/-- In a faultless story a scene is viewed alike, whatever is assumed.

Proof: by the node at the current scene, as a view tells it in the state that is there. -/
theorem view_assuming (faultless : narrator.graph.Faultless) (assumed : Bool) (state : State) :
    (narrator.assuming assumed).view state = narrator.view state := by
  have sameGraph : (narrator.assuming assumed).graph = narrator.graph := rfl
  unfold view
  dsimp only
  rw [sameGraph]
  cases found : narrator.graph.node? state.currentScene with
  | none => rfl
  | some node =>
    cases node with
    | choice node =>
      simp only [choiceScene_assuming assumed state.currentScene (faultless found)]
    | input node =>
      simp only [inputScene_assuming assumed state.currentScene (faultless found)]
    | _ => rfl

end Narrator

/-! ## Ignored effects -/

/-- An effect sets a value that does not fit: no field may be written under its name, or the
field holds a number and the value is none. -/
inductive Effect.IsUnfit : Effect → Prop where
  | notWritable {property : String} {value : Setting}
      (noField : StateField.named? property = none) : IsUnfit (.setValue property value)
  | notANumber {property : String} {value : Setting} {field : StateField}
      (named : StateField.named? property = some field) (numeric : field ≠ .playerName)
      (noNumber : value.toInteger? = none) : IsUnfit (.setValue property value)

/-- An effect that is ignored is unknown or sets a value that does not fit.

Proof: by the constructors of effects; all but settings and unknown ones always do something. -/
theorem Attempt.unfit_of_ignored {attempt : Attempt}
    (ignored : attempt.applied.isIgnored = true) :
    attempt.effect = .unknown ∨ attempt.effect.IsUnfit := by
  obtain ⟨effect, before⟩ := attempt
  have number {field : StateField} {value : Setting} {write : Int64 → State}
      (ignored : (before.setNumber field value write).1.isIgnored = true) :
      value.toInteger? = none := by
    unfold State.setNumber at ignored
    cases known : value.toInteger? with
    | none => rfl
    | some number =>
      rw [known] at ignored
      cases ignored
  cases effect with
  | setValue property value =>
    unfold applied Effect.applySingle at ignored
    cases named : StateField.named? property with
    | none => exact Or.inr (.notWritable named)
    | some field =>
      simp only [named] at ignored
      cases field with
      | day => exact Or.inr (.notANumber named (by decide) (number ignored))
      | minutes => exact Or.inr (.notANumber named (by decide) (number ignored))
      | playerName => cases ignored
  | unknown => exact Or.inl rfl
  | _ => cases ignored

/-- No unknown effect keeps a typed text. The effects that keep a typed text are made by play
itself, and play knows what it makes. -/
theorem Effect.not_mem_unknown_keeping (variableName : Option String) (value : String) :
    Effect.unknown ∉ keeping variableName value := by
  unfold keeping
  split
  · simp [setField]
  · split
    · simp
    · split <;> simp

namespace Narrator

/-- In a story in which an inspection finds no condition with a mistake, nothing depends on what
play assumes of such conditions: every request is answered alike and leaves the same state, and
every scene is viewed alike. If no unknown effect is found either, all that a request ignores are
settings whose value does not fit: of the effects that it attempts, whose outcomes make up its own,
as many are counted as ignored as are ignored where they are attempted, and each of these is such a
setting. A view attempts no effect.

What is assumed is only that the report has no finding of the two or three kinds. Everything else
may be wrong with the story, and nodes out of reach count as well. The requests and states are any.

Proof: the mistakes that inspection lists are those at any depth of every condition of every node,
and a condition without mistakes holds alike. What a request attempts comes from a node or keeps a
typed text, and neither is unknown. -/
theorem inspected_vocabulary_suffices {narrator : Narrator}
    (unknown : narrator.graph.inspect.ofKind .unknownCondition = [])
    (empty : narrator.graph.inspect.ofKind .emptyNegation = []) :
    (∀ assumed state,
      (∀ request, (narrator.assuming assumed).respond state request =
        narrator.respond state request) ∧
      (narrator.assuming assumed).view state = narrator.view state) ∧
    (narrator.graph.inspect.ofKind .unknownEffect = [] → ∀ state resolved,
      (∀ request, (narrator.respond state request).answer = .ok resolved →
        let attempts := narrator.attempts state request
        let ignored := attempts.filter fun attempt => attempt.applied.isIgnored
        resolved.outcome = .ofAttempts attempts ∧ resolved.outcome.ignored = ignored.length ∧
          ∀ attempt ∈ ignored, attempt.effect.IsUnfit) ∧
      (narrator.view state = .ok resolved → resolved.outcome.ignored = 0)) := by
  have faultless : narrator.graph.Faultless := Graph.faultless_of_inspect unknown empty
  refine ⟨fun assumed state => ⟨?_, ?_⟩, fun known state resolved => ⟨?_, ?_⟩⟩
  · exact respond_assuming faultless assumed state
  · exact view_assuming faultless assumed state
  · intro request answered attempts ignored
    have outcome : resolved.outcome = .ofAttempts attempts := respond_outcome answered
    refine ⟨outcome, ?_, fun attempt member => ?_⟩
    · rw [outcome]
      exact Outcome.ignored_ofAttempts attempts
    · obtain ⟨attempted, isIgnored⟩ := List.mem_filter.mp member
      rcases Attempt.unfit_of_ignored isIgnored with isUnknown | unfit
      · exfalso
        rcases mem_attempts attempted with ⟨id, node, found, listed⟩ | ⟨name, value, kept⟩
        · exact Graph.not_mem_unknown_of_inspect known found (isUnknown ▸ listed)
        · exact Effect.not_mem_unknown_keeping name value (isUnknown ▸ kept)
      · exact unfit
  · intro viewed
    obtain ⟨scene, rfl, -⟩ := view_ok viewed
    rfl

/-- A tavern that lets in who is not without a coin. At the table the day is set to a number,
and the mood, which no field holds, to another. -/
def tavern : Narrator :=
  { graph :=
    { start := "door",
      nodes := (Table.empty.insert "table" (.input
          { next := some "win",
            scene := { effects := [.setValue "dayIndex" (.integer 3), .setValue "mood" (.integer 5)] }
          })).insert "door" (.choice
          { choices := [{ next := some "table",
                          condition := some (.all [.negation (some (.flagUnset "coin"))]) }] }) } }

/-- The tavern's vocabulary is known. Who has a coin is let in, whatever is assumed of malformed
conditions, and only the mood is ignored at the table. The number for the day is written, as it
fits. -/
theorem tavern_ignores_mood :
    let before : State :=
      { flags := Table.empty.insert "coin" (.bool true), day := 1, minutes := 480,
        playerName := "Player", currentScene := "door" }
    let request : Request := .act (.choose 0)
    tavern.graph.inspect.ofKind .unknownCondition = [] ∧
      tavern.graph.inspect.ofKind .emptyNegation = [] ∧
      tavern.graph.inspect.ofKind .unknownEffect = [] ∧
      (tavern.assuming false).respond before request = tavern.respond before request ∧
      ∃ resolved, (tavern.respond before request).answer = .ok resolved ∧
        resolved.outcome.ignored = 1 ∧ (Effect.setValue "mood" (.integer 5)).IsUnfit := by
  intro before request
  have clean : ∀ finding ∈ tavern.graph.findings, finding.kind = .unreachable := by
    intro finding found
    rcases List.mem_append.mp found with special | inside
    · rcases List.mem_append.mp special with atStart | outOfReach
      · have nothing : tavern.graph.startFindings = [] := by decide
        rw [nothing] at atStart
        cases atStart
      · exact Graph.kind_of_mem_reachFindings outOfReach
    · have nothing : (tavern.graph.nodes.entries.flatMap fun entry =>
          tavern.graph.nodeFindings entry.1 entry.2) = [] := by decide
      rw [nothing] at inside
      cases inside
  have known {kind : FindingKind} (other : kind ≠ .unreachable) :
      tavern.graph.inspect.ofKind kind = [] :=
    Graph.ofKind_inspect_eq_nil_iff.mpr fun finding found same =>
      other (same.symm.trans (clean finding found))
  have unknown := known (by decide : FindingKind.unknownCondition ≠ .unreachable)
  have empty := known (by decide : FindingKind.emptyNegation ≠ .unreachable)
  have effects := known (by decide : FindingKind.unknownEffect ≠ .unreachable)
  obtain ⟨alike, settings⟩ := inspected_vocabulary_suffices unknown empty
  have entering : tavern.respond before request = (tavern.resolveFrom before "table").after {} :=
    perform_eq tavern before (.choose 0)
  have seated := resolveFrom_of_resolves
    (.arrives (.here "table") rfl (.input _ rfl) : tavern.Resolves before "table" _)
  rw [seated] at entering
  have walked : tavern.graph.walk (tavern.branching before) [] "table" = ([], .input "table" _) :=
    Graph.walk_of_halt (.here "table") rfl
  obtain ⟨moody, attempted⟩ :
      ∃ state, ⟨.setValue "mood" (.integer 5), state⟩ ∈ tavern.attempts before request := by
    have onlyEntry : tavern.attempts before request = tavern.entryAttempts before "table" := rfl
    rw [onlyEntry, entryAttempts, walked]
    exact ⟨_, List.mem_cons_of_mem _ List.mem_cons_self⟩
  have answered := congrArg Turn.answer entering
  obtain ⟨-, -, unfit⟩ := (settings effects before _).1 request answered
  exact ⟨unknown, empty, effects, (alike false before).1 request, _, answered, rfl,
    unfit ⟨.setValue "mood" (.integer 5), moody⟩ (List.mem_filter.mpr ⟨attempted, rfl⟩)⟩

end Narrator

end Storyline
