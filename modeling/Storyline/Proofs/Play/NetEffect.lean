import Storyline.Proofs.Play.Batches
import Storyline.Table.Lookup

/-!
# What a list of effects amounts to

Effects are applied one after another, but what they amount to is told at once. Nothing counts
behind the first restart. Before it the last write to a flag or to a field is the one that
stays. Of the items that were held and those that are added, in this order, every copy stays
that no later effect removes.

Each single effect has this form, and what two lists amount to one after the other is what
their concatenation amounts to: the later writes go before the earlier ones, and a removal in
the second list meets every copy that the first one has left.
-/

namespace Storyline

namespace Effect

/-- Whether an effect is a restart. -/
def isRestart : Effect → Bool
  | .restart => true
  | _ => false

/-- The effects before the first restart; all of them if there is none. -/
def untilRestart (effects : List Effect) : List Effect := effects.takeWhile fun effect =>
  !effect.isRestart

/-- What an effect writes to a flag, if it writes to it. -/
def flagWritten? (name : String) : Effect → Option Flag
  | .setFlag flag value => if flag = name then some value else none
  | _ => none

/-- The number that an effect writes to a field: its setting, if that is one. -/
def numberWritten? (field : StateField) : Effect → Option Int64
  | .setValue property value => if property = field.name then value.toInteger? else none
  | _ => none

/-- The text that an effect writes to a field. -/
def textWritten? (field : StateField) : Effect → Option String
  | .setValue property value => if property = field.name then some value.toText else none
  | _ => none

/-- The item that an effect adds, if it adds one. -/
def itemAdded? : Effect → Option String
  | .addItem item => some item
  | _ => none

/-- Whether an effect removes an item. -/
def removes (item : String) : Effect → Bool
  | .removeItem other => other == item
  | _ => false

/-- The last of the writes that some effects make. -/
def lastWritten? {α : Type} (written? : Effect → Option α) (effects : List Effect) : Option α :=
  (effects.filterMap written?).getLast?

/-- The items that effects add, each with the effects behind its addition. -/
def additions : List Effect → List (String × List Effect)
  | [] => []
  | first :: rest => (first.itemAdded?.map fun item => (item, rest)).toList ++ additions rest

/-- All copies of items that were held or are added, each with the effects behind it. -/
def copies (held : List String) (effects : List Effect) : List (String × List Effect) :=
  held.map (fun item => (item, effects)) ++ additions effects

/-- The items of the copies that no effect behind them removes. -/
def remaining (copies : List (String × List Effect)) : List String :=
  (copies.filter fun copy => !copy.2.any (removes copy.1)).map Prod.fst

end Effect

open Effect

/-- What effects without a restart amount to, from one state to another. -/
structure NetEffect (effects : List Effect) (before after : State) : Prop where
  flags : ∀ name, after.flags.get? name =
    (lastWritten? (flagWritten? name) effects).or (before.flags.get? name)
  inventory : after.inventory = remaining (copies before.inventory effects)
  day : after.day = (lastWritten? (numberWritten? .day) effects).getD before.day
  minutes : after.minutes = (lastWritten? (numberWritten? .minutes) effects).getD before.minutes
  playerName : after.playerName =
    (lastWritten? (textWritten? .playerName) effects).getD before.playerName
  currentScene : after.currentScene = before.currentScene
  fields : after.fields = before.fields

namespace Effect

variable {α : Type}

/-! ## Writes -/

/-- The last write of one effect is its only one. There may be none at all. -/
theorem lastWritten?_singleton (written? : Effect → Option α) (effect : Effect) :
    lastWritten? written? [effect] = written? effect := by
  unfold lastWritten?
  cases written : written? effect <;> simp [written]

/-- The last write of two lists is that of the second one, if it writes at all. This is the law of
flags and of fields alike, whatever is written. -/
theorem lastWritten?_append (written? : Effect → Option α) (first second : List Effect) :
    lastWritten? written? (first ++ second) =
      (lastWritten? written? second).or (lastWritten? written? first) := by
  unfold lastWritten?
  rw [List.filterMap_append, List.getLast?_append]

/-! ## Copies -/

/-- What the first of two lists adds has the second one behind it.

Proof: by induction on the first list, since the effects behind an addition are the rest of its
list. -/
theorem additions_append (first second : List Effect) :
    additions (first ++ second) =
      (additions first).map (fun copy => (copy.1, copy.2 ++ second)) ++ additions second := by
  induction first with
  | nil => rfl
  | cons effect rest inductionHypothesis =>
    rw [List.cons_append, additions, inductionHypothesis, additions, List.map_append,
      List.append_assoc]
    cases effect.itemAdded? <;> rfl

/-- The copies of two lists are those of the first one, with the second one behind them, and what
the second one adds. What the first one adds is treated just like what was held before it, which is
why the order of additions and removals comes out right. -/
theorem copies_append (held : List String) (first second : List Effect) :
    copies held (first ++ second) =
      (copies held first).map (fun copy => (copy.1, copy.2 ++ second)) ++ additions second := by
  rw [copies, additions_append, copies, List.map_append, List.map_map, List.append_assoc]
  rfl

/-- Of two parts the copies remain that remain of each part. Copies do not depend on each other;
each is judged by the effects behind it. -/
theorem remaining_append (first second : List (String × List Effect)) :
    remaining (first ++ second) = remaining first ++ remaining second := by
  rw [remaining, List.filter_append, List.map_append]
  rfl

/-- Of copies with the same effects behind them those remain whose item is not removed. Either
every copy of an item stays, or none of them does. -/
theorem remaining_same (held : List String) (effects : List Effect) :
    remaining (held.map fun item => (item, effects)) =
      held.filter fun item => !effects.any (removes item) := by
  rw [remaining, List.filter_map, List.map_map]
  exact List.map_id _

/-- A copy remains behind two lists if it remains behind the first one and then behind the second
one.

Proof: a removal among the effects of both lists is one among the first or one among the second. -/
theorem remaining_behind (held : List (String × List Effect)) (second : List Effect) :
    remaining (held.map fun copy => (copy.1, copy.2 ++ second)) =
      remaining ((remaining held).map fun item => (item, second)) := by
  rw [remaining_same, remaining, remaining, List.filter_map, List.filter_map, List.map_map,
    List.filter_filter]
  refine congrArg (List.map _) (List.filter_congr fun copy _ => ?_)
  simp only [Function.comp_apply, List.any_append, Bool.not_or, Bool.and_comm]

/-- The copies are of the items that were held and of those that are added, in order. The removals
are left out of account here, so this is all that could be held at most. -/
theorem copies_items (held : List String) (effects : List Effect) :
    (copies held effects).map Prod.fst = held ++ effects.filterMap itemAdded? := by
  have added : (additions effects).map Prod.fst = effects.filterMap itemAdded? := by
    induction effects with
    | nil => rfl
    | cons effect rest inductionHypothesis =>
      rw [additions, List.map_append, inductionHypothesis, List.filterMap_cons]
      cases effect.itemAdded? <;> rfl
  rw [copies, List.map_append, added, List.map_map]
  congr 1
  exact List.map_id held

/-- Of the copies of a single effect those remain that it does not remove, and what it adds. An
added item has nothing behind it that could remove it. -/
theorem remaining_single (held : List String) (effect : Effect) :
    remaining (copies held [effect]) =
      (held.filter fun item => !removes item effect) ++ effect.itemAdded?.toList := by
  rw [copies, remaining_append, remaining_same]
  simp only [List.any_cons, List.any_nil, Bool.or_false]
  cases added : effect.itemAdded? <;> simp [additions, added, remaining]

/-- An effect that neither removes nor adds anything leaves all copies. Flags, fields and restarts
are such effects, and so are those of an unknown type. -/
theorem remaining_kept (held : List String) {effect : Effect} (unadded : effect.itemAdded? = none)
    (unremoved : ∀ item, removes item effect = false) :
    remaining (copies held [effect]) = held := by
  rw [remaining_single, unadded, Option.toList_none, List.append_nil]
  exact List.filter_eq_self.mpr fun item _ => by rw [unremoved, Bool.not_false]

end Effect

/-- A name is that of a field exactly if the field is found by it. Fields have different names, so
a write by one name is never a write to another field. -/
theorem StateField.named?_eq_some_iff {property : String} {field : StateField} :
    named? property = some field ↔ property = field.name := by
  constructor
  · intro found
    have same : (field.name == property) = true :=
      List.find?_some (p := fun field : StateField => field.name == property) found
    exact (beq_iff_eq.mp same).symm
  · rintro rfl
    cases field <;> rfl

/-! ## One effect and many -/

namespace NetEffect

variable {first second : List Effect} {before middle after : State}

/-- No effects amount to nothing. No name is written to, and every copy remains. -/
theorem nil (state : State) : NetEffect [] state state where
  flags _ := rfl
  inventory := by
    rw [copies, remaining_append, remaining_same]
    exact ((List.append_nil _).trans (List.filter_eq_self.mpr fun _ _ => rfl)).symm
  day := rfl
  minutes := rfl
  playerName := rfl
  currentScene := rfl
  fields := rfl

/-- What one list amounts to and then another is what both amount to together. This is the step on
which the whole account rests, and it uses nothing about what the effects are.

Proof: later writes go before earlier ones, and what is left of the first list's copies is what the
second list finds. -/
theorem trans (earlier : NetEffect first before middle) (later : NetEffect second middle after) :
    NetEffect (first ++ second) before after where
  flags name := by
    rw [later.flags, earlier.flags, lastWritten?_append, Option.or_assoc]
  inventory := by
    rw [later.inventory, earlier.inventory, copies_append, remaining_append, remaining_behind,
      ← remaining_append, ← copies]
  day := by rw [later.day, earlier.day, lastWritten?_append, Option.getD_or]
  minutes := by rw [later.minutes, earlier.minutes, lastWritten?_append, Option.getD_or]
  playerName := by rw [later.playerName, earlier.playerName, lastWritten?_append, Option.getD_or]
  currentScene := later.currentScene.trans earlier.currentScene
  fields := later.fields.trans earlier.fields

end NetEffect

namespace Effect

/-- A setting amounts to a write of the field that it names, if it fits the field. A day or a
minute count takes numbers only; the player's name takes any setting as its text.

Proof: by the field that is named, if one is; a name of no field writes nothing. -/
theorem setValue_net (property : String) (value : Setting) (state : State) :
    NetEffect [.setValue property value] state ((setValue property value).applySingle state).2 := by
  have kept : remaining (copies state.inventory [.setValue property value]) = state.inventory :=
    remaining_kept _ rfl fun _ => rfl
  simp only [applySingle]
  cases named : StateField.named? property with
  | none =>
    have other (field : StateField) : property ≠ field.name := by
      intro same
      rw [StateField.named?_eq_some_iff.mpr same] at named
      cases named
    refine ⟨fun _ => rfl, kept.symm, ?_, ?_, ?_, rfl, rfl⟩
    all_goals simp [lastWritten?_singleton, numberWritten?, textWritten?, other]
  | some field =>
    obtain rfl := StateField.named?_eq_some_iff.mp named
    cases field with
    | day | minutes =>
      unfold State.setNumber
      cases read : value.toInteger?
      all_goals
        refine ⟨fun _ => rfl, kept.symm, ?_, ?_, ?_, rfl, rfl⟩
        all_goals
          simp [lastWritten?_singleton, numberWritten?, textWritten?, StateField.name, read]
    | playerName =>
      refine ⟨fun _ => rfl, kept.symm, ?_, ?_, ?_, rfl, rfl⟩
      all_goals simp [lastWritten?_singleton, numberWritten?, textWritten?, StateField.name]

/-- A single effect amounts to what it writes, adds and removes.

Proof: by the constructors of effects, each of which writes to one place and leaves the others. -/
theorem applySingle_net (effect : Effect) (state : State) :
    NetEffect [effect] state (effect.applySingle state).2 := by
  cases effect with
  | setFlag flag value =>
    refine ⟨fun name => ?_, ?_, rfl, rfl, rfl, rfl, rfl⟩
    · rw [lastWritten?_singleton]
      simp only [applySingle, State.setFlag, Table.get?_insert, flagWritten?]
      by_cases same : name = flag
      · simp [same]
      · simp [same, Ne.symm same]
    · exact (remaining_kept state.inventory rfl fun _ => rfl).symm
  | addItem item =>
    refine ⟨fun _ => rfl, ?_, rfl, rfl, rfl, rfl, rfl⟩
    rw [remaining_single]
    exact congrArg (· ++ [item]) (List.filter_eq_self.mpr fun _ _ => rfl).symm
  | removeItem item =>
    refine ⟨fun _ => rfl, ?_, rfl, rfl, rfl, rfl, rfl⟩
    rw [remaining_single]
    simp [applySingle, State.removeItem, removes, itemAdded?, bne, Bool.beq_comm]
  | setValue property value => exact setValue_net property value state
  | restart | unknown =>
    refine ⟨fun _ => rfl, ?_, rfl, rfl, rfl, rfl, rfl⟩
    exact (remaining_kept state.inventory rfl fun _ => rfl).symm

/-! ## The part before a restart -/

/-- No restart stands before the first one. It holds even if there is no restart at all. -/
theorem not_mem_untilRestart (effects : List Effect) : .restart ∉ untilRestart effects := by
  intro listed
  have fine := List.all_takeWhile (p := fun effect : Effect => !effect.isRestart) (l := effects)
  exact absurd (List.all_eq_true.mp fine _ listed) (by simp [isRestart])

/-- Effects are those before the first restart and what is behind them: nothing, or a restart and
what nobody gets to.

Proof: by induction on the effects; the first restart is found where the taking stops. -/
theorem untilRestart_cases (effects : List Effect) :
    (.restart ∉ effects ∧ untilRestart effects = effects) ∨
      ∃ unreached, effects = untilRestart effects ++ .restart :: unreached := by
  induction effects with
  | nil => exact Or.inl ⟨List.not_mem_nil, rfl⟩
  | cons first rest inductionHypothesis =>
    by_cases asks : first.isRestart = true
    · have restart : first = .restart := by
        cases first with
        | restart => rfl
        | _ => cases asks
      refine Or.inr ⟨rest, ?_⟩
      rw [untilRestart, List.takeWhile_cons_of_neg (by simp [asks]), restart, List.nil_append]
    · have other : .restart ≠ first := by
        rintro rfl
        exact asks rfl
      rw [untilRestart, List.takeWhile_cons_of_pos (by simp [asks]), ← untilRestart]
      rcases inductionHypothesis with ⟨absent, whole⟩ | ⟨unreached, split⟩
      · exact Or.inl ⟨fun listed => (List.mem_cons.mp listed).elim other absent, by rw [whole]⟩
      · exact Or.inr ⟨unreached, by rw [List.cons_append, ← split]⟩

/-- Effects come to what those before the first restart come to, and to the restart itself if there
is one. What stands behind the restart plays no part in the state or in the outcome. -/
theorem applyAll_untilRestart (effects : List Effect) (state : State) :
    (.restart ∉ effects ∧ applyAll effects state = applyAll (untilRestart effects) state) ∨
      (.restart ∈ effects ∧ applyAll effects state =
        ((applyAll (untilRestart effects) state).1.merge ⟨[.restartRequested], 0, true⟩,
          (applyAll (untilRestart effects) state).2)) := by
  rcases untilRestart_cases effects with ⟨absent, whole⟩ | ⟨unreached, split⟩
  · exact Or.inl ⟨absent, by rw [whole]⟩
  · have listed : .restart ∈ effects := by
      rw [split]
      exact List.mem_append_right _ List.mem_cons_self
    refine Or.inr ⟨listed, ?_⟩
    have proceeds : (applyAll (untilRestart effects) state).1.restart = false :=
      Bool.eq_false_iff.mpr fun asked =>
        not_mem_untilRestart effects (applyAll_restart_iff.mp asked)
    calc applyAll effects state
      _ = applyAll (untilRestart effects ++ .restart :: unreached) state :=
        congrArg (applyAll · state) split
      _ = _ := by
        rw [applyAll_append, continued_of_proceeding proceeds]
        rfl

end Effect

/-! ## Events and ignored effects -/

/-- An outcome of so many effects, none of them a restart. -/
structure Outcome.Tallies (outcome : Outcome) (count : Nat) : Prop where
  proceeds : outcome.restart = false
  unasked : .restartRequested ∉ outcome.events
  total : outcome.events.length + outcome.ignored = count

/-- Effects behind others add to their number. Neither of the two asks for a restart, so neither
does what they come to. -/
theorem Outcome.Tallies.merge {first second : Outcome} {before behind : Nat}
    (earlier : first.Tallies before) (later : second.Tallies behind) :
    (first.merge second).Tallies (before + behind) where
  proceeds := by simp [Outcome.merge, earlier.proceeds, later.proceeds]
  unasked := by simp [Outcome.merge, earlier.unasked, later.unasked]
  total := by
    rw [← earlier.total, ← later.total]
    simp only [Outcome.merge, List.length_append]
    omega

/-- Where no restart is asked for, no event requests one. The three parts are in the form in which
a whole list is told about, with no restart in it. -/
theorem Outcome.Tallies.without_restart {outcome : Outcome} {count : Nat}
    (tallies : outcome.Tallies count) :
    (outcome.events.getLast? = some .restartRequested ↔ outcome.restart = true) ∧
      outcome.events.count .restartRequested = (if outcome.restart then 1 else 0) ∧
      outcome.events.length + outcome.ignored = count + (if outcome.restart then 1 else 0) := by
  have never : outcome.events.getLast? ≠ some .restartRequested := fun last =>
    tallies.unasked (List.mem_of_getLast? last)
  simp [tallies.proceeds, never, List.count_eq_zero.mpr tallies.unasked, tallies.total]

/-- Behind effects that ask for no restart, a restart is requested once and last. It is counted as
one more event, beside the one event or the one ignored effect of each other effect. -/
theorem Outcome.Tallies.with_restart {earlier : Outcome} {count : Nat}
    (tallies : earlier.Tallies count) :
    let outcome := earlier.merge ⟨[.restartRequested], 0, true⟩
    (outcome.events.getLast? = some .restartRequested ↔ outcome.restart = true) ∧
      outcome.events.count .restartRequested = (if outcome.restart then 1 else 0) ∧
      outcome.events.length + outcome.ignored = count + (if outcome.restart then 1 else 0) := by
  have once : (earlier.events ++ [Event.restartRequested]).count .restartRequested = 1 := by
    rw [List.count_append, List.count_eq_zero.mpr tallies.unasked]
    rfl
  intro outcome
  have asked : outcome.restart = true := Bool.or_true _
  rw [asked]
  refine ⟨iff_of_true List.getLast?_concat rfl, once, ?_⟩
  have total := tallies.total
  simp only [outcome, Outcome.merge, List.length_append, List.length_singleton, if_true]
  omega

namespace Effect

/-- Any effect but a restart has one event of its own, or is ignored.

Proof: by the constructors of effects; a field that is set has an event exactly if it
was written. -/
theorem applySingle_tallies {effect : Effect} (other : effect ≠ .restart) (state : State) :
    (effect.applySingle state).1.outcome.Tallies 1 := by
  have ignored (why : Ignored) : (Applied.ignored why).outcome.Tallies 1 :=
    ⟨rfl, List.not_mem_nil, rfl⟩
  have changed {event : Event} (unasked : .restartRequested ≠ event) :
      (Applied.changed event).outcome.Tallies 1 :=
    ⟨rfl, fun listed => unasked (List.mem_singleton.mp listed), rfl⟩
  cases effect with
  | setFlag flag value | addItem item | removeItem item => exact changed (by simp)
  | setValue property value =>
    simp only [applySingle, State.setNumber]
    split
    · exact ignored _
    · split
      · exact changed (by simp)
      · exact ignored _
    · split
      · exact changed (by simp)
      · exact ignored _
    · exact changed (by simp)
  | restart => exact absurd rfl other
  | unknown => exact ignored _

/-- Effects without a restart amount to what they write, add and remove, and each of them has one
event of its own, or is ignored.

Proof: by induction on the effects. A single effect amounts to itself, and is continued by what the
others amount to in the state behind it. -/
theorem applyAll_net {effects : List Effect} (unasked : .restart ∉ effects) (state : State) :
    NetEffect effects state (applyAll effects state).2 ∧
      (applyAll effects state).1.Tallies effects.length := by
  induction effects generalizing state with
  | nil => exact ⟨.nil state, rfl, List.not_mem_nil, rfl⟩
  | cons first rest inductionHypothesis =>
    have other : first ≠ .restart := by
      rintro rfl
      exact unasked List.mem_cons_self
    have onward := inductionHypothesis fun listed => unasked (List.mem_cons_of_mem _ listed)
    have tallies := applySingle_tallies other state
    obtain ⟨net, tally⟩ := onward (first.applySingle state).2
    rw [applyAll_cons, continued_of_proceeding tallies.proceeds]
    constructor
    · exact (applySingle_net first state).trans net
    · rw [List.length_cons, Nat.add_comm]
      exact tallies.merge tally

/-- What a list of effects amounts to is what the effects before its first restart amount to: the
last write to each flag and field stays, and of the items held and added, in this order, those
copies that none of these effects removes later on. The outcome asks for a restart exactly if there
is one among the effects. The request is then its last event and the only one of its kind. All
other effects that count have one event each, or are ignored.

Nothing is assumed of the effects or the state: writes to names of no field, settings that are no
numbers, removals of what is not held and effects of unknown types are all among them.

Proof: the list is cut at its first restart. The part before it amounts to its net effect by
induction, and the restart itself writes nothing. -/
theorem list_amounts_to_net_effect (effects : List Effect) (state : State) :
    let counted := untilRestart effects
    let outcome := (applyAll effects state).1
    NetEffect counted state (applyAll effects state).2 ∧
      (copies state.inventory counted).map Prod.fst =
        state.inventory ++ counted.filterMap itemAdded? ∧
      (outcome.restart = true ↔ .restart ∈ effects) ∧
      (outcome.events.getLast? = some .restartRequested ↔ outcome.restart = true) ∧
      outcome.events.count .restartRequested = (if outcome.restart then 1 else 0) ∧
      outcome.events.length + outcome.ignored =
        counted.length + (if outcome.restart then 1 else 0) := by
  intro counted outcome
  obtain ⟨net, tally⟩ := applyAll_net (not_mem_untilRestart effects) state
  refine ⟨?_, copies_items _ _, applyAll_restart_iff, ?_⟩
  · rcases applyAll_untilRestart effects state with ⟨-, same⟩ | ⟨-, same⟩
    · rw [same]
      exact net
    · rw [same]
      exact net
  · rcases applyAll_untilRestart effects state with ⟨-, same⟩ | ⟨-, same⟩
    · rw [show outcome = _ from congrArg Prod.fst same]
      exact tally.without_restart
    · rw [show outcome = _ from congrArg Prod.fst same]
      exact tally.with_restart

/-- A coin that was held is taken, another one is found, and nothing is found after a restart. -/
example :
    let state : State :=
      { inventory := ["Coin", "Rope"], day := 0, minutes := 480, playerName := "Player",
        currentScene := "stall" }
    (applyAll [.removeItem "Coin", .addItem "Coin", .restart, .addItem "Lamp"] state).2.inventory =
      ["Rope", "Coin"] := by decide

end Effect

end Storyline
