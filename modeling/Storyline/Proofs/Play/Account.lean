import Storyline.Proofs.Play.Request

/-!
# Events as an account

The events of an outcome account for all that became of the flags and of the items held.
Replayed in their order on what was held before, they give what is held after, and each
removal tells how many copies it met at its place. Day and name change only with an event
of their own.

An account may be continued by another one, so a request that succeeds is accounted for
by its parts: what was stored or what a choice did, and then the effects of an entry. A
request for a restart ends the account early and changes nothing itself. The clock and
the extra fields are outside of the account: time passes, and typed texts are kept in
fields, without an event.
-/

namespace Storyline

/-- What events tell in full: the flags, and the items held. -/
structure Holdings where
  flags : Table Flag
  inventory : List String

/-- The flags and the items of a state. -/
def State.holdings (state : State) : Holdings := ⟨state.flags, state.inventory⟩

namespace Holdings

/-- What one event makes of holdings: a flag is written, an item comes last, or every
copy of an item is gone. Other events do nothing. -/
def record (holdings : Holdings) : Event → Holdings
  | .flagSet flag value => { holdings with flags := holdings.flags.insert flag value }
  | .itemAdded item => { holdings with inventory := holdings.inventory ++ [item] }
  | .itemRemoved item _ => { holdings with inventory := holdings.inventory.filter (· != item) }
  | .valueSet _ | .restartRequested => holdings

/-- What some events make of holdings, one after another. -/
def replay (holdings : Holdings) (events : List Event) : Holdings := events.foldl record holdings

/-- Events after others are replayed on what the others have made. An account may therefore be read
in pieces, wherever it is cut. -/
theorem replay_append (holdings : Holdings) (first second : List Event) :
    holdings.replay (first ++ second) = (holdings.replay first).replay second := by
  unfold replay
  rw [List.foldl_append]

/-- Every removal among some events tells the number of copies held at its place. -/
def Counts (holdings : Holdings) (events : List Event) : Prop :=
  ∀ before item count after, events = before ++ .itemRemoved item count :: after →
    count = (holdings.replay before).inventory.count item

/-- No removal tells a wrong number where nothing is told. A request that only moves play says
nothing and is right in saying so. -/
theorem counts_nil (holdings : Holdings) : holdings.Counts [] := by
  intro before item count after told
  cases before <;> cases told

/-- One event tells the right number if it does so of what is held. Nothing is asked of events that
are no removals. -/
theorem counts_singleton {holdings : Holdings} {event : Event}
    (right : ∀ item count, event = .itemRemoved item count →
      count = holdings.inventory.count item) : holdings.Counts [event] := by
  intro before item count after told
  cases before with
  | nil => exact right item count (List.cons.inj told).1
  | cons first rest =>
    have nothing : [] = rest ++ .itemRemoved item count :: after := (List.cons.inj told).2
    simp at nothing

/-- The removals of two lists of events tell the right numbers together if those of the second do
so of what the first has made.

Proof: a removal among all events stands in the first list or in the second, and in the second one
the whole first list has been replayed before it. -/
theorem Counts.append {holdings : Holdings} {first second : List Event}
    (counts : holdings.Counts first) (onward : (holdings.replay first).Counts second) :
    holdings.Counts (first ++ second) := by
  intro before item count after told
  rcases List.append_eq_append_iff.mp told with
    ⟨middle, rfl, inSecond⟩ | ⟨middle, inFirst, reached⟩
  · rw [replay_append]
    exact onward middle item count after inSecond
  · cases middle with
    | nil =>
      have whole : first = before := by simpa using inFirst
      have head : second = [] ++ .itemRemoved item count :: after := reached.symm
      rw [← whole]
      exact onward [] item count after head
    | cons removal rest =>
      obtain ⟨rfl, -⟩ := List.cons.inj reached
      exact counts before item count rest inFirst

end Holdings

/-- Events account for the way from one state to another. -/
structure Account (before : State) (events : List Event) (after : State) : Prop where
  replayed : before.holdings.replay events = after.holdings
  counts : before.holdings.Counts events
  day : .valueSet .day ∉ events → after.day = before.day
  playerName : .valueSet .playerName ∉ events → after.playerName = before.playerName

namespace Account

variable {before middle after : State} {events : List Event}

/-- Nothing has to be told where holdings, day and name stay. The clock, the place of play and the
extra fields may change without a word. -/
theorem silent (holdings : after.holdings = before.holdings) (day : after.day = before.day)
    (playerName : after.playerName = before.playerName) : Account before [] after where
  replayed := holdings.symm
  counts := before.holdings.counts_nil
  day _ := day
  playerName _ := playerName

/-- An account may be continued by another one. The middle state is needed in full, since day and
name have to stay through both halves. -/
theorem trans {more : List Event} (first : Account before events middle)
    (second : Account middle more after) : Account before (events ++ more) after where
  replayed := by rw [Holdings.replay_append, first.replayed, second.replayed]
  counts := first.counts.append (first.replayed ▸ second.counts)
  day absent := by
    have absentFirst : .valueSet .day ∉ events := fun told =>
      absent (List.mem_append_left _ told)
    have absentSecond : .valueSet .day ∉ more := fun told =>
      absent (List.mem_append_right _ told)
    exact (second.day absentSecond).trans (first.day absentFirst)
  playerName absent := by
    have absentFirst : .valueSet .playerName ∉ events := fun told =>
      absent (List.mem_append_left _ told)
    have absentSecond : .valueSet .playerName ∉ more := fun told =>
      absent (List.mem_append_right _ told)
    exact (second.playerName absentSecond).trans (first.playerName absentFirst)

/-- Where no event concerns the inventory, the inventory stays. This is what a host relies on that
redraws the inventory only when it is told to.

Proof: by induction on the events, each of which leaves the inventory alone when it is replayed. -/
theorem inventory_eq (account : Account before events after)
    (untouched : events.any Event.isInventoryChange = false) :
    after.inventory = before.inventory := by
  have kept (holdings : Holdings) : (holdings.replay events).inventory = holdings.inventory := by
    clear account
    induction events generalizing holdings with
    | nil => rfl
    | cons event rest inductionHypothesis =>
      obtain ⟨harmless, others⟩ := Bool.or_eq_false_iff.mp untouched
      refine (inductionHypothesis others _).trans ?_
      cases event with
      | itemAdded item => cases harmless
      | itemRemoved item count => cases harmless
      | _ => rfl
  have replayed := congrArg Holdings.inventory account.replayed
  exact replayed.symm.trans (kept before.holdings)

end Account

/-! ## Effects -/

/-- What an effect comes to is accounted for by its event if it changes the state; if it
does not, there is nothing to account for. -/
inductive Applied.Accounted (before : State) : Applied × State → Prop where
  | changed {event : Event} {after : State} (account : Account before [event] after) :
      Accounted before (.changed event, after)
  | ignored (why : Ignored) : Accounted before (.ignored why, before)
  | restart : Accounted before (.restart, before)

/-- A number that is written to a field is accounted for if the field's event is. A value that is
no number writes nothing, and is ignored with nothing to account for. -/
theorem State.setNumber_accounted {state : State} {field : StateField} {write : Int64 → State}
    (account : ∀ number, Account state [.valueSet field] (write number)) (value : Setting) :
    Applied.Accounted state (state.setNumber field value write) := by
  unfold setNumber
  cases value.toInteger? with
  | none => exact .ignored _
  | some number => exact .changed (account number)

namespace Effect

/-- The event of an effect accounts for what it does.

Proof: by the constructors of effects; a field that is set goes by the field named. -/
theorem applySingle_accounted (effect : Effect) (state : State) :
    Applied.Accounted state (effect.applySingle state) := by
  cases effect with
  | setFlag flag value =>
    have counts : state.holdings.Counts [.flagSet flag value] :=
      Holdings.counts_singleton fun _ _ other => by cases other
    exact .changed ⟨rfl, counts, fun _ => rfl, fun _ => rfl⟩
  | addItem item =>
    have counts : state.holdings.Counts [.itemAdded item] :=
      Holdings.counts_singleton fun _ _ other => by cases other
    exact .changed ⟨rfl, counts, fun _ => rfl, fun _ => rfl⟩
  | removeItem item =>
    have counts : state.holdings.Counts [.itemRemoved item (state.itemCount item)] :=
      Holdings.counts_singleton fun _ _ same => by
        cases same
        rfl
    exact .changed ⟨rfl, counts, fun _ => rfl, fun _ => rfl⟩
  | setValue property value =>
    have counts (field : StateField) : state.holdings.Counts [.valueSet field] :=
      Holdings.counts_singleton fun _ _ other => by cases other
    simp only [applySingle]
    cases StateField.named? property with
    | none => exact .ignored _
    | some field =>
      cases field with
      | day =>
        refine State.setNumber_accounted (fun number => ?_) value
        exact ⟨rfl, counts .day, fun absent => absurd List.mem_cons_self absent, fun _ => rfl⟩
      | minutes =>
        refine State.setNumber_accounted (fun number => ?_) value
        exact ⟨rfl, counts .minutes, fun _ => rfl, fun _ => rfl⟩
      | playerName =>
        exact .changed ⟨rfl, counts .playerName, fun _ => rfl,
          fun absent => absurd List.mem_cons_self absent⟩
  | restart => exact .restart
  | unknown => exact .ignored .unknownType

/-- The events of some effects account for what they do, up to a restart.

Proof: by induction on the effects. An effect that changes something continues the account with its
own event, an ignored one with none, and a restart ends it. -/
theorem applyAll_account (effects : List Effect) (state : State) :
    Account state (applyAll effects state).1.events (applyAll effects state).2 := by
  induction effects generalizing state with
  | nil => exact .silent rfl rfl rfl
  | cons first rest inductionHypothesis =>
    have accounted := first.applySingle_accounted state
    unfold applyAll
    generalize first.applySingle state = applied at accounted
    cases accounted with
    | changed account => exact account.trans (inductionHypothesis _)
    | ignored why => exact inductionHypothesis state
    | restart =>
      have counts : state.holdings.Counts [.restartRequested] :=
        Holdings.counts_singleton fun _ _ other => by cases other
      exact ⟨rfl, counts, fun _ => rfl, fun _ => rfl⟩

end Effect

/-- The events of a text that is kept account for it; a text in an extra field has none. Extra
fields are outside of the account, so there it is a silent one. -/
theorem State.store_account (state : State) (variableName : Option String) (value : String) :
    Account state (state.store variableName value).1.events
      (state.store variableName value).2 := by
  unfold store
  split
  · exact Effect.applyAll_account _ state
  · split
    · exact Effect.applyAll_account _ state
    · split
      · exact Effect.applyAll_account _ state
      · exact .silent rfl rfl rfl

/-- Time that passes needs no account. The clock is outside of the account, and the day that is
told with it is derived and not stored. -/
theorem State.later_account (state : State) (cost : Option Int64) :
    Account state [] (state.later cost) := by
  cases cost with
  | none => exact .silent rfl rfl rfl
  | some minutes => exact .silent rfl rfl rfl

/-! ## Requests -/

namespace Narrator

variable {narrator : Narrator} {state : State}

/-- Where play arrives, the events tell what the effects of the entry did. The move and the time
that is set are not among them.

Proof: at an ending nothing happens; a scene changes place and clock silently and then applies its
effects, and the two accounts are continued. -/
theorem Arrives.account {path : List NodeId} {id : NodeId} {node : Node} {turn : Turn}
    {resolved : Resolved} (arrived : narrator.Arrives state path id node turn)
    (answered : turn.answer = .ok resolved) :
    Account state resolved.outcome.events turn.state := by
  -- Both kinds of scenes begin their effects in the state with place and time changed.
  have entering (scene : SceneInfo) {outcome : Outcome} {entered : State}
      (applied : Effect.applyAll scene.effects
        { state with currentScene := id, minutes := scene.timeSet.getD state.minutes } =
          (outcome, entered)) : Account state outcome.events entered := by
    have silent : Account state []
        { state with currentScene := id, minutes := scene.timeSet.getD state.minutes } :=
      .silent rfl rfl rfl
    have account := silent.trans (Effect.applyAll_account scene.effects _)
    rwa [applied] at account
  cases arrived with
  | death | win =>
    cases answered
    exact .silent rfl rfl rfl
  | choice node applied | input node applied =>
    cases answered
    exact entering node.scene applied

/-- The events behind a link account for what happened behind it. At an ending without a node that
is nothing, and the state is as it was. -/
theorem follow_account {origin : NodeId} {next : Option NodeId} {choice : Option Choice}
    {resolved : Resolved} (answered : (narrator.follow state origin next choice).answer = .ok resolved) :
    Account state resolved.outcome.events (narrator.follow state origin next choice).state := by
  rcases follow_ok answered with ⟨ending, own, rfl, unchanged⟩ | ⟨id, node, -, arrived⟩
  · rw [unchanged]
    exact .silent rfl rfl rfl
  · exact arrived.account answered

/-- What an action writes in its beginning is accounted for by the outcome so far. For a choice
this includes the time that it takes, and for a typed text the place where it is kept.

Proof: by the ways to begin; the refusals have written nothing, and a direct link has an empty
outcome. -/
theorem Begins.account {action : Action} {begun : Beginning} {outcome : Outcome} {changed : State}
    (begins : narrator.Begins state action begun)
    (wrote : begun = .restarting outcome changed ∨
      ∃ next choice, begun = .leaving outcome changed next choice) :
    Account state outcome.events changed := by
  cases begins with
  | @restarting _ _ choice _ _ _ _ applied =>
    rcases wrote with same | ⟨_, _, same⟩
    · cases same
      have account := Effect.applyAll_account choice.effects state
      rwa [applied] at account
    · cases same
  | @chosen _ _ choice _ earlier _ _ applied =>
    rcases wrote with same | ⟨_, _, same⟩
    · cases same
    · cases same
      have account := Effect.applyAll_account choice.effects state
      rw [applied] at account
      have onward := account.trans (earlier.later_account choice.timeCost)
      rwa [List.append_nil] at onward
  | direct =>
    rcases wrote with same | ⟨_, _, same⟩
    · cases same
    · cases same
      exact .silent rfl rfl rfl
  | @typed node input _ _ _ _ kept =>
    rcases wrote with same | ⟨_, _, same⟩
    · cases same
    · cases same
      have account := state.store_account node.variableName (Text.trim input)
      rwa [kept] at account
  | _ => rcases wrote with same | ⟨_, _, same⟩ <;> cases same

/-- The events of an action account for it: those of its beginning, and then those behind its link.

Proof: the account of the beginning is continued by the one behind the link, in the order in which
the outcomes were merged. -/
theorem perform_account {action : Action} {resolved : Resolved}
    (answered : (narrator.perform state action).answer = .ok resolved) :
    Account state resolved.outcome.events (narrator.perform state action).state := by
  have begins := narrator.begins_beginning state action
  rcases perform_ok answered with
    ⟨outcome, changed, begun, rfl, reached⟩ |
      ⟨outcome, changed, next, choice, followed, begun, answeredLink, rfl, reached⟩
  · rw [reached]
    exact begins.account (Or.inl begun)
  · rw [reached]
    have written := begins.account (Or.inr ⟨next, choice, begun⟩)
    exact written.trans (follow_account answeredLink)

/-- The events of a request that succeeds account for all that it did to flags and items: replayed
in order on those held before, they give those held after, and every removal tells the number of
copies held at its place. The day changes only with an event for it, and so does the player's name.
If no event concerns the inventory, the inventory stays.

Nothing is assumed of the graph, the state or the request, beyond that the request succeeds: what a
failed request wrote is told by no event. Flags are compared as whole tables and the inventory as a
list, so the order of items counts.

Proof: effects account for themselves one by one, accounts are continued through lists of effects
and from the beginning of an action to the entry behind its link, and the five parts are then read
off. -/
theorem events_account_for_response (narrator : Narrator) (state : State) (request : Request)
    {resolved : Resolved} (answered : (narrator.respond state request).answer = .ok resolved) :
    let events := resolved.outcome.events
    let after := (narrator.respond state request).state
    state.holdings.replay events = after.holdings ∧
      (∀ earlier item count later, events = earlier ++ .itemRemoved item count :: later →
        count = (state.holdings.replay earlier).inventory.count item) ∧
      (.valueSet .day ∉ events → after.day = state.day) ∧
      (.valueSet .playerName ∉ events → after.playerName = state.playerName) ∧
      (resolved.outcome.inventoryChanged = false → after.inventory = state.inventory) := by
  intro events after
  have account : Account state events after := by
    cases request with
    | resolve id =>
      obtain ⟨last, node, -, -, arrived⟩ := resolveFrom_ok answered
      exact arrived.account answered
    | act action => exact perform_account answered
  exact ⟨account.replayed, account.counts, account.day, account.playerName, account.inventory_eq⟩

/-- A stall where all coins are given for the way to a bakery, which hands out bread. -/
def market : Narrator :=
  { graph :=
    { start := "stall",
      nodes := (Table.empty.insert "bakery" (.choice
          { scene := { effects := [.addItem "Bread"] } })).insert "stall" (.choice
          { choices := [{ next := some "bakery",
                          effects := [.removeItem "Coin", .setFlag "traded" (.bool true)] }] }) } }

/-- The trade takes two coins and brings bread, and its events say so. -/
theorem market_trade_accounted :
    let before : State :=
      { inventory := ["Coin", "Lamp", "Coin"], day := 0, minutes := 480,
        playerName := "Player", currentScene := "stall" }
    let events : List Event :=
      [.itemRemoved "Coin" 2, .flagSet "traded" (.bool true), .itemAdded "Bread"]
    let turn := market.respond before (.act (.choose 0))
    (∃ resolved, turn.answer = .ok resolved ∧ resolved.outcome.events = events) ∧
      before.holdings.replay events = turn.state.holdings ∧
      turn.state.inventory = ["Lamp", "Bread"] ∧ turn.state.playerName = "Player" := by
  intro before events turn
  have resolved (state : State) := resolveFrom_of_resolves
    (.arrives (.here "bakery") rfl (.choice _ rfl) : market.Resolves state "bakery" _)
  obtain ⟨outcome, answered, told⟩ :
      ∃ resolved, turn.answer = .ok resolved ∧ resolved.outcome.events = events := by
    have begun : turn = (market.resolveFrom
        { before with inventory := ["Lamp"], flags := Table.empty.insert "traded" (.bool true) }
        "bakery").after { events := [.itemRemoved "Coin" 2, .flagSet "traded" (.bool true)] } :=
      perform_eq market before (.choose 0)
    rw [begun, resolved]
    exact ⟨_, rfl, rfl⟩
  obtain ⟨replayed, -, -, named, -⟩ :=
    events_account_for_response market before (.act (.choose 0)) answered
  rw [told] at replayed named
  refine ⟨⟨outcome, answered, told⟩, replayed, ?_, named (by decide)⟩
  exact (congrArg Holdings.inventory replayed).symm

end Narrator

end Storyline
