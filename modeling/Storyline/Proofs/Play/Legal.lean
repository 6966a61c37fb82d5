import Storyline.Proofs.Play.Failure
import Storyline.Proofs.Play.Offer
import Storyline.Proofs.Play.Request
import Storyline.Proofs.Play.View

/-!
# The legal actions of a scene

A scene has an action if it lists the choice, if it says that play can go on, or if it asks
for a text. An action that the scene does not have is declined, by an error that says so:
the choice is not available, there is no target to go on to, or the scene is of another
kind. Other errors come from blank texts and from links, and decline nothing.

In the state that shows a scene an action is declined exactly if the scene does not have
it. The scene that a request shows is shown by the state it leaves, so what the player sees
is an exact account of what can be done.
-/

namespace Storyline

/-- The actions that a scene has: the choices it lists, going on if it says so, and any
text if it asks for one. -/
def Scene.Has (scene : Scene) : Action → Prop
  | .choose index => index ∈ scene.choices.map VisibleChoice.index
  | .advance => scene.canAdvance = true
  | .submit _ => scene.kind = .input

/-- The errors which say that a scene does not have an action. -/
inductive StoryError.Declines : Action → StoryError → Prop where
  | unavailable (index : Nat) (id : NodeId) (position : Nat) :
      Declines (.choose index) (.choiceUnavailable id position)
  | untargeted (id : NodeId) : Declines .advance (.missingTarget id)
  | unfit (action : Action) (id : NodeId) (kind : SceneKind) :
      Declines action (.wrongSceneKind id kind)

namespace Narrator

variable {narrator : Narrator} {state : State} {scene : Scene} {action : Action}

/-- The choices of a scene are listed in their order. No position is listed twice, and the hidden
ones leave gaps. -/
theorem increasing_visibleChoices (narrator : Narrator) (state : State) (choices : List Choice) :
    ((narrator.visibleChoices state choices).map VisibleChoice.index).Pairwise (· < ·) := by
  have positions : (choices.zipIdx.map Prod.snd).Pairwise (· < ·) := by
    rw [List.zipIdx_map_snd]
    exact List.pairwise_lt_range'
  have kept := positions.sublist
    (List.filter_sublist (p := fun entry => narrator.allows state entry.1.condition).map Prod.snd)
  rwa [visibleChoices, List.map_map]

/-- A link declines an action only where going on from a scene has no target. Any other failure of
a link is about nodes and branches behind it, and says nothing about the action. -/
theorem follow_declines {origin : NodeId} {next : Option NodeId} {choice : Option Choice}
    {error : StoryError}
    (failed : (narrator.follow state origin next choice).answer = .error error)
    (declines : error.Declines action) : action = .advance ∧ next = none := by
  rcases narrator.follow_cases state origin next choice with
    ⟨absent, same⟩ | ⟨_, _, -, -, -, same⟩ | ⟨target, -, -, same⟩
  · rw [same] at failed
    cases failed
    cases declines
    exact ⟨rfl, absent⟩
  · rw [same] at failed
    cases failed
  · rw [same] at failed
    obtain ⟨-, ⟨_, _, -, -, rfl⟩ | ⟨_, _, _, -, -, -, rfl⟩ | ⟨_, _, -, -, -, rfl⟩⟩ :=
      resolveFrom_error failed
    all_goals cases declines

/-- A scene that is shown is the one told of the node where play stands. The two ways are those of
the two kinds of scenes; branches and endings are never told. -/
theorem Shows.told (shows : narrator.Shows state scene) :
    (∃ node, narrator.graph.node? state.currentScene = some (.choice node) ∧
        scene = narrator.choiceScene state state.currentScene node) ∨
      ∃ node, narrator.graph.node? state.currentScene = some (.input node) ∧
        scene = narrator.inputScene state state.currentScene node := by
  unfold Shows view at shows
  dsimp only at shows
  split at shows
  · cases shows
  · rename_i node found
    cases shows
    exact Or.inl ⟨node, found, rfl⟩
  · rename_i node found
    cases shows
    exact Or.inr ⟨node, found, rfl⟩
  · cases shows

/-- Going on from a scene that says so leaves by a link with a target. The link is the direct one,
and the scene says that play can go on only if that link has a target. -/
theorem Shows.isSome_of_leaving (shows : narrator.Shows state scene)
    (goesOn : scene.canAdvance = true) {outcome : Outcome} {changed : State}
    {next : Option NodeId} {choice : Option Choice}
    (begun : narrator.beginning state .advance = .leaving outcome changed next choice) :
    next.isSome = true := by
  rcases shows.told with ⟨node, found, rfl⟩ | ⟨node, found, rfl⟩
  · obtain ⟨bare, targeted⟩ := Bool.and_eq_true_iff.mp goesOn
    simp only [beginning, found, beginningAtChoices, bare, if_true] at begun
    cases begun
    exact targeted
  · cases goesOn

/-- What a scene has is not declined, in the state that shows the scene. The action may still fail:
a text may be blank, and a link may lead nowhere.

Proof: an action that fails was refused at the scene or failed at its link. The scene rules out the
first, and a link declines only where it lacks the target that the scene promises. -/
theorem Shows.not_declines_of_has (shows : narrator.Shows state scene) (has : scene.Has action)
    {error : StoryError} (failed : (narrator.perform state action).answer = .error error) :
    ¬ error.Declines action := by
  intro declines
  obtain ⟨-, begun | ⟨_, _, next, choice, begun, stranded⟩⟩ := perform_error failed
  · cases action with
    | choose index =>
      have offered : scene.Offers (.choose index) := has
      exact beginning_ne_refused shows rfl offered error begun
    | advance =>
      have offered : scene.Offers .advance := has
      exact beginning_ne_refused shows rfl offered error begun
    | submit input =>
      have begins := narrator.begins_beginning state (.submit input)
      rw [begun] at begins
      cases begins with
      | missing => cases declines
      | blank => cases declines
      | unfit standing other =>
        rcases shows.told with ⟨node, found, rfl⟩ | ⟨node, found, rfl⟩
        · cases has
        · obtain rfl := Option.some.inj (found.symm.trans standing)
          exact other rfl
  · obtain ⟨rfl, rfl⟩ := follow_declines stranded declines
    cases shows.isSome_of_leaving has begun

/-- What a scene does not have is declined, in the state that shows the scene.

Proof: by the node that was told and the action. A hidden choice is not available, a direct link is
missing or stands behind choices, and an action of the other kind does not fit. -/
theorem Shows.declines_of_not_has (shows : narrator.Shows state scene)
    (lacks : ¬ scene.Has action) :
    ∃ error, (narrator.perform state action).answer = .error error ∧ error.Declines action := by
  rw [perform_eq]
  rcases shows.told with ⟨node, found, rfl⟩ | ⟨node, found, rfl⟩
  · simp only [beginning, found]
    cases action with
    | choose index =>
      have hidden : narrator.visible? state node index = none :=
        Option.eq_none_iff_forall_ne_some.mpr fun choice visible =>
          lacks (mem_visibleChoices_iff.mpr ⟨choice, visible⟩)
      simp only [beginningAtChoices, hidden]
      exact ⟨_, rfl, .unavailable index _ _⟩
    | advance =>
      simp only [beginningAtChoices]
      cases bare : node.choices.isEmpty with
      | false => exact ⟨_, rfl, .untargeted _⟩
      | true =>
        have untargeted : node.next = none := by
          rw [← Option.not_isSome_iff_eq_none]
          exact fun targeted => lacks (Bool.and_eq_true_iff.mpr ⟨bare, targeted⟩)
        simp only [if_true, untargeted]
        exact ⟨_, rfl, .untargeted _⟩
    | submit input => exact ⟨_, rfl, .unfit _ _ _⟩
  · simp only [beginning, found]
    cases action with
    | choose index => exact ⟨_, rfl, .unfit _ _ _⟩
    | advance => exact ⟨_, rfl, .unfit _ _ _⟩
    | submit input => exact absurd rfl lacks

/-- A scene has an action exactly if the action is not declined in the state that shows the scene.
So what a scene has can be found out by trying, and what can be tried is told by the scene. -/
theorem Shows.has_iff (shows : narrator.Shows state scene) (action : Action) :
    scene.Has action ↔
      ∀ error, error.Declines action → (narrator.perform state action).answer ≠ .error error := by
  constructor
  · exact fun has error declines failed => shows.not_declines_of_has has failed declines
  · refine fun free => Classical.byContradiction fun lacks => ?_
    obtain ⟨error, failed, declines⟩ := shows.declines_of_not_has lacks
    exact free error declines failed

/-- The scene that a request shows is the one that a view of the state left by it shows. Nothing
happens between the two, and the view writes nothing. -/
theorem respond_shows {request : Request} {resolved : Resolved}
    (answered : (narrator.respond state request).answer = .ok resolved)
    (shown : resolved.scene? = some scene) :
    narrator.Shows (narrator.respond state request).state scene := by
  cases request with
  | resolve id => exact resolveFrom_shows answered shown
  | act action => exact perform_shows answered shown

/-- The choices of a scene that is shown are listed in their order. A scene that asks for a text
lists no choices. -/
theorem Shows.increasing (shows : narrator.Shows state scene) :
    (scene.choices.map VisibleChoice.index).Pairwise (· < ·) := by
  rcases shows.told with ⟨node, -, rfl⟩ | ⟨node, -, rfl⟩
  · exact narrator.increasing_visibleChoices state node.choices
  · exact List.Pairwise.nil

/-- A scene that a request shows is an exact account of what can be done in the state that the
request leaves. It is the current one, a view shows it once more, and it lists its choices in their
order. A choice is not declined exactly if it is listed, going on is not declined exactly if the
scene says that it can be done, and a text is not declined exactly if the scene asks for one.

What is assumed is only that the request succeeds and shows a scene. The actions are tried in the
state that the request leaves, at any position and with any text, and nothing is said of how those
that are not declined end.

Proof: the scene that a request shows is what a view of the state tells, and in that state a scene
has exactly the actions that are not declined. The last three parts are this law for each action. -/
theorem shown_scene_is_account_of_actions (narrator : Narrator) (state : State)
    (request : Request) {resolved : Resolved} {scene : Scene}
    (answered : (narrator.respond state request).answer = .ok resolved)
    (shown : resolved.scene? = some scene) :
    let after := (narrator.respond state request).state
    after.currentScene = scene.id ∧
      narrator.view after = .ok { resolution := .interactive scene } ∧
      (scene.choices.map VisibleChoice.index).Pairwise (· < ·) ∧
      (∀ index, ((∀ id position,
            (narrator.choose after index).answer ≠ .error (.choiceUnavailable id position)) ∧
          ∀ id kind, (narrator.choose after index).answer ≠ .error (.wrongSceneKind id kind)) ↔
        index ∈ scene.choices.map VisibleChoice.index) ∧
      (((∀ id, (narrator.advance after).answer ≠ .error (.missingTarget id)) ∧
          ∀ id kind, (narrator.advance after).answer ≠ .error (.wrongSceneKind id kind)) ↔
        scene.canAdvance = true) ∧
      ∀ input, (∀ id kind,
          (narrator.submit after input).answer ≠ .error (.wrongSceneKind id kind)) ↔
        scene.kind = .input := by
  intro after
  have shows : narrator.Shows after scene := respond_shows answered shown
  refine ⟨shows.standing.1.symm, shows, shows.increasing, fun index => ?_, ?_, fun input => ?_⟩
  · refine Iff.trans ?_ (shows.has_iff (.choose index)).symm
    constructor
    · rintro ⟨available, fit⟩ error declines
      cases declines with
      | unavailable _ id position => exact available id position
      | unfit _ id kind => exact fit id kind
    · exact fun free => ⟨fun id position => free _ (.unavailable index id position),
        fun id kind => free _ (.unfit _ id kind)⟩
  · refine Iff.trans ?_ (shows.has_iff .advance).symm
    constructor
    · rintro ⟨targeted, fit⟩ error declines
      cases declines with
      | untargeted id => exact targeted id
      | unfit _ id kind => exact fit id kind
    · exact fun free => ⟨fun id => free _ (.untargeted id), fun id kind => free _ (.unfit _ id kind)⟩
  · refine Iff.trans ?_ (shows.has_iff (.submit input)).symm
    constructor
    · rintro fit error declines
      cases declines with
      | unfit _ id kind => exact fit id kind
    · exact fun free id kind => free _ (.unfit _ id kind)

/-- A fork where a map is found. The way into the mine is open to who holds a lamp, the way
home to everybody. -/
def fork : Narrator :=
  { graph :=
    { start := "fork",
      nodes := Table.empty.insert "fork" (.choice
        { scene := { effects := [.addItem "Map"] },
          choices := [{ next := some "mine", condition := some (.item "Lamp") },
            { next := some "home" }] }) } }

/-- Without a lamp the fork lists its second choice only. That one is not declined and the
first one is, and so is every text. -/
theorem fork_without_lamp_lists_way_home :
    let before : State :=
      { day := 0, minutes := 480, playerName := "Player", currentScene := "fork" }
    let turn := fork.respond before (.resolve "fork")
    ∃ resolved scene, turn.answer = .ok resolved ∧ resolved.scene? = some scene ∧
      scene.choices.map VisibleChoice.index = [1] ∧
      fork.view turn.state = .ok { resolution := .interactive scene } ∧
      (∀ id position, (fork.choose turn.state 1).answer ≠
        .error (.choiceUnavailable id position)) ∧
      (fork.choose turn.state 0).answer = .error (.choiceUnavailable "fork" 0) ∧
      ¬ ∀ id kind, (fork.submit turn.state "Anna").answer ≠ .error (.wrongSceneKind id kind) := by
  intro before turn
  have resolved : turn = _ := resolveFrom_of_resolves
    (.arrives (.here "fork") rfl (.choice _ rfl) : fork.Resolves before "fork" _)
  obtain ⟨outcome, scene, answered, shown, listed, asked⟩ :
      ∃ resolved scene, turn.answer = .ok resolved ∧ resolved.scene? = some scene ∧
        scene.choices.map VisibleChoice.index = [1] ∧ scene.kind = .choice := by
    rw [resolved]
    exact ⟨_, _, rfl, rfl, rfl, rfl⟩
  obtain ⟨-, viewed, -, choices, -, texts⟩ :=
    shown_scene_is_account_of_actions fork before (.resolve "fork") answered shown
  refine ⟨outcome, scene, answered, shown, listed, viewed, ((choices 1).mpr ?_).1, ?_, ?_⟩
  · rw [listed]
    exact List.mem_singleton_self 1
  · have state : turn.state = { before with inventory := ["Map"] } := by
      rw [resolved]
      rfl
    rw [state]
    rfl
  · rw [texts, asked]
    decide

end Narrator

end Storyline
