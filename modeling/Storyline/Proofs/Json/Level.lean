import Storyline.Json.Reader
import Storyline.Proofs.Json.Outline

/-!
# Levels that readers have entered

Readers count the arrays and objects around them and refuse to enter more than 127. The
outline of a text carries the levels that they count: each array and each object knows how
many others stand around it. So a value that was read in full has none of its levels beyond
those that readers enter.
-/

namespace Storyline.Json

variable {α β ε : Type}

/-! ## Steps that succeed -/

/-- What follows something succeeds only behind its success. Long readers are taken apart with it,
one step after another. -/
theorem ok_of_bind {found : Except ε α} {next : α → Except ε β} {result : β}
    (succeeds : (found >>= next) = .ok result) :
    ∃ middle, found = .ok middle ∧ next middle = .ok result := by
  cases found with
  | error problem => cases succeeds
  | ok middle => exact ⟨middle, rfl, succeeds⟩

/-- What is made of something was made of what was found. A failure is passed on as it is. -/
theorem ok_of_map {found : Except ε α} {make : α → β} {result : β}
    (succeeds : found.map make = .ok result) : ∃ middle, found = .ok middle ∧ make middle = result := by
  cases found with
  | error problem => cases succeeds
  | ok middle => exact ⟨middle, rfl, Except.ok.inj succeeds⟩

/-- What succeeds, however its problems are told, was found. Only failures are told in
another way. -/
theorem ok_of_mapError {found : Except ε α} {tell : ε → β} {result : α}
    (succeeds : found.mapError tell = .ok result) : found = .ok result := by
  cases found with
  | error problem => cases succeeds
  | ok thing =>
    cases succeeds
    rfl

/-- Each of several things found together was found in one of the places.

Proof: by induction on the places, each of which gives one thing. -/
theorem exists_of_mem_mapM {find : α → Except ε β} {places : List α} {things : List β}
    (found : places.mapM find = .ok things) {thing : β} (listed : thing ∈ things) :
    ∃ place ∈ places, find place = .ok thing := by
  induction places generalizing things with
  | nil =>
    cases found
    cases listed
  | cons place rest inductionHypothesis =>
    rw [List.mapM_cons] at found
    obtain ⟨first, here, onward⟩ := ok_of_bind found
    obtain ⟨others, behind, made⟩ := ok_of_bind onward
    cases made
    rcases List.mem_cons.mp listed with rfl | later
    · exact ⟨place, List.mem_cons_self, here⟩
    · obtain ⟨other, among, there⟩ := inductionHypothesis behind later
      exact ⟨other, List.mem_cons_of_mem _ among, there⟩

/-- Where several things are found together, one is found in each of the places.

Proof: by induction on the places; a place where nothing is found stops the whole. -/
theorem exists_of_mapM {find : α → Except ε β} {places : List α} {things : List β}
    (found : places.mapM find = .ok things) {place : α} (listed : place ∈ places) :
    ∃ thing, find place = .ok thing := by
  induction places generalizing things with
  | nil => cases listed
  | cons first rest inductionHypothesis =>
    rw [List.mapM_cons] at found
    obtain ⟨thing, here, onward⟩ := ok_of_bind found
    obtain ⟨others, behind, -⟩ := ok_of_bind onward
    rcases List.mem_cons.mp listed with rfl | later
    · exact ⟨thing, here⟩
    · exact inductionHypothesis behind later

/-! ## Levels of an outline -/

namespace Outline

/-- An outline whose arrays and objects know how many of them stand around each one, given the
number around the whole. -/
inductive Leveled : Nat → Outline → Prop where
  | null {level : Nat} : Leveled level .null
  | bool {level : Nat} (value : Bool) : Leveled level (.bool value)
  | number {level : Nat} (reading : Except Fault Number) : Leveled level (.number reading)
  | text {level : Nat} (reading : Except Fault String) : Leveled level (.text reading)
  | broken {level : Nat} (place : Break) : Leveled level (.broken place)
  | array {level : Nat} {items : List Outline} (each : ∀ item ∈ items, Leveled (level + 1) item)
      (ending : Option Fault) : Leveled level (.array (level + 1) items ending)
  | object {level : Nat} {members : List (Key × Outline)}
      (each : ∀ member ∈ members, Leveled (level + 1) member.2) (ending : Option Fault) :
      Leveled level (.object (level + 1) members ending)

mutual

/-- The outline of a value is leveled.

Proof: by recursion on the tokens, together with the four theorems below: a bracket or a brace
opens the next level, and everything inside is leveled from there. -/
theorem leveled_value (level : Nat) (tokens : List Token) :
    ((value level tokens).1.1).Leveled level := by
  cases tokens with
  | nil =>
    rw [value]
    exact .broken _
  | cons token rest =>
    cases token with
    | openBracket =>
      have inner := leveled_firstItem (level + 1) rest
      rw [value]
      generalize firstItem (level + 1) rest = behind at inner
      obtain ⟨⟨⟨items, ending⟩, after⟩, shorter⟩ := behind
      exact .array inner ending
    | openBrace =>
      have inner := leveled_firstMember (level + 1) rest
      rw [value]
      generalize firstMember (level + 1) rest = behind at inner
      obtain ⟨⟨⟨members, ending⟩, after⟩, shorter⟩ := behind
      exact .object inner ending
    | _ =>
      simp only [value]
      constructor
termination_by (tokens.length, 0)

/-- The outlines of the items behind an opening bracket are leveled. There is none if the bracket
is closed at once. -/
theorem leveled_firstItem (level : Nat) (tokens : List Token) :
    ∀ outline ∈ (firstItem level tokens).1.1.1, outline.Leveled level := by
  cases tokens with
  | nil =>
    rw [firstItem]
    exact List.forall_mem_nil _
  | cons token rest =>
    by_cases closes : token = .closeBracket
    · rw [closes, firstItem]
      exact List.forall_mem_nil _
    · have inner := leveled_item level (token :: rest)
      rw [firstItem]
      · exact inner
      · exact fun nothing => by cases nothing
      · exact fun _ same => closes (List.cons.inj same).1
termination_by (tokens.length, 2)

/-- The outlines of an item and of the items behind it are leveled. Items stand at the level of the
array that they are in. -/
theorem leveled_item (level : Nat) (tokens : List Token) :
    ∀ outline ∈ (item level tokens).1.1.1, outline.Leveled level := by
  have first := leveled_value level tokens
  rw [item]
  generalize found : value level tokens = behind at first
  obtain ⟨⟨outline, after⟩, shorter⟩ := behind
  cases after with
  | nil => exact List.forall_mem_singleton.mpr first
  | cons token rest =>
    cases token with
    | comma =>
      have others := leveled_item level rest
      dsimp only
      generalize item level rest = behind at others
      obtain ⟨⟨⟨items, ending⟩, left⟩, evenShorter⟩ := behind
      exact List.forall_mem_cons.mpr ⟨first, others⟩
    | _ => exact List.forall_mem_singleton.mpr first
termination_by (tokens.length, 1)

/-- The outlines of the members behind an opening brace are leveled. There is none if the brace is
closed at once. -/
theorem leveled_firstMember (level : Nat) (tokens : List Token) :
    ∀ found ∈ (firstMember level tokens).1.1.1, found.2.Leveled level := by
  cases tokens with
  | nil =>
    rw [firstMember]
    exact List.forall_mem_nil _
  | cons token rest =>
    by_cases closes : token = .closeBrace
    · rw [closes, firstMember]
      exact List.forall_mem_nil _
    · have inner := leveled_member level (token :: rest)
      rw [firstMember]
      · exact inner
      · exact fun nothing => by cases nothing
      · exact fun _ same => closes (List.cons.inj same).1
termination_by (tokens.length, 2)

/-- The outlines of a member and of the members behind it are leveled. Their names have no level. -/
theorem leveled_member (level : Nat) (tokens : List Token) :
    ∀ found ∈ (member level tokens).1.1.1, found.2.Leveled level := by
  have alone {key : Key} {outline : Outline} (leveled : outline.Leveled level) :
      ∀ found ∈ [(key, outline)], found.2.Leveled level := List.forall_mem_singleton.mpr leveled
  unfold member
  split
  · exact alone (.broken _)
  · rename_i reading inner
    have first := leveled_value level inner
    generalize value level inner = behind at first
    obtain ⟨⟨outline, after⟩, shorter⟩ := behind
    cases after with
    | nil => exact alone first
    | cons token rest =>
      cases token with
      | comma =>
        have fewer : rest.length < inner.length := shorter
        have others := leveled_member level rest
        dsimp only
        generalize member level rest = behind at others
        obtain ⟨⟨⟨members, ending⟩, left⟩, evenShorter⟩ := behind
        exact List.forall_mem_cons.mpr ⟨first, others⟩
      | _ => exact alone first
  · exact alone (.broken _)
  · exact alone (.broken _)
termination_by (tokens.length, 1)
decreasing_by
  all_goals
    subst_vars
    simp only [List.length_cons, Prod.lex_def] at *
    omega

end

/-- The outline of a text is leveled from the outside. Nothing stands around the outermost value. -/
theorem leveled_ofText (text : String) : (ofText text).1.Leveled 0 := by
  unfold ofText
  exact leveled_value 0 _

end Outline

/-! ## Values that were read in full -/

/-- Items are within a depth exactly if each of them is.

Proof: by induction on the items, as a greatest depth is within a bound if both of two are. -/
theorem itemsDepth_le_iff {items : List Value} {bound : Nat} :
    itemsDepth items ≤ bound ↔ ∀ item ∈ items, item.depth ≤ bound := by
  induction items with
  | nil => simp [itemsDepth]
  | cons item rest inductionHypothesis =>
    rw [itemsDepth, Nat.max_le, inductionHypothesis, List.forall_mem_cons]

/-- Members are within a depth exactly if each of them is.

Proof: by induction on the members, as with items. -/
theorem membersDepth_le_iff {members : List (String × Value)} {bound : Nat} :
    membersDepth members ≤ bound ↔ ∀ member ∈ members, member.2.depth ≤ bound := by
  induction members with
  | nil => simp [membersDepth]
  | cons member rest inductionHypothesis =>
    obtain ⟨name, value⟩ := member
    rw [membersDepth, Nat.max_le, inductionHypothesis, List.forall_mem_cons]

variable {level : Nat}

/-- An array is shallow if its items are, one level further down. An array without items is one
level deep, so its own level counts too. -/
theorem Value.shallow_array {items : List Value} (entered : level + 1 ≤ 127)
    (each : ∀ item ∈ items, item.Shallow (level + 1)) : (Value.array items).Shallow level := by
  have deepest : itemsDepth items ≤ 127 - (level + 1) := itemsDepth_le_iff.mpr fun item listed => by
    have shallow := each item listed
    unfold Shallow at shallow
    omega
  unfold Shallow depth
  omega

/-- An object is shallow if its members are, one level further down. The names of its members do
not count. -/
theorem Value.shallow_object {members : List (String × Value)} (entered : level + 1 ≤ 127)
    (each : ∀ member ∈ members, member.2.Shallow (level + 1)) :
    (Value.object members).Shallow level := by
  have deepest : membersDepth members ≤ 127 - (level + 1) :=
    membersDepth_le_iff.mpr fun member listed => by
      have shallow := each member listed
      unfold Shallow at shallow
      omega
  unfold Shallow depth
  omega

namespace Outline

/-- Whoever enters a level is within the levels that readers enter. The bound is the one at which
readers stop. -/
theorem le_of_enter {ok : Unit} (entered : enter level = .ok ok) : level ≤ 127 := by
  by_cases within : level ≤ 127
  · exact within
  · rw [enter, if_neg within] at entered
    cases entered

/-- Items are read in full one by one. The recursion goes along with that of whole values, so it is
not written as a map. -/
theorem completeItems_eq_mapM (items : List Outline) : completeItems items = items.mapM complete := by
  induction items with
  | nil => rfl
  | cons first rest inductionHypothesis =>
    rw [List.mapM_cons, ← inductionHypothesis]
    rfl

/-- Members are read in full one by one, each with its name. The name is read first, and a fault in
it comes before one in the value. -/
theorem completeMembers_eq_mapM (members : List (Key × Outline)) :
    completeMembers members = members.mapM fun member => do
      let name ← member.1.name
      let value ← member.2.complete
      return (name, value) := by
  induction members with
  | nil => rfl
  | cons first rest inductionHypothesis =>
    rw [List.mapM_cons, ← inductionHypothesis, completeMembers]
    simp only [bind_assoc, pure_bind]

/-- A value that is read in full has all its levels within those that readers enter.

Proof: by induction on the levels of the outline. Where an array or an object was read in full, its
level was entered and its parts were read in full. -/
theorem shallow_of_complete {outline : Outline} (leveled : outline.Leveled level)
    (entered : level ≤ 127) {value : Value} (complete : outline.complete = .ok value) :
    value.Shallow level := by
  induction leveled generalizing value with
  | null | bool truth =>
    cases complete
    exact entered
  | number reading | text reading =>
    obtain ⟨_, -, rfl⟩ := ok_of_map complete
    exact entered
  | broken place => cases complete
  | @array level items each ending inductionHypothesis =>
    obtain ⟨_, inside, onward⟩ := ok_of_bind complete
    obtain ⟨values, whole, onward⟩ := ok_of_bind onward
    obtain ⟨_, -, made⟩ := ok_of_bind onward
    cases made
    refine Value.shallow_array (le_of_enter inside) fun value listed => ?_
    obtain ⟨item, among, found⟩ :=
      exists_of_mem_mapM (completeItems_eq_mapM items ▸ whole) listed
    exact inductionHypothesis item among (le_of_enter inside) found
  | @object level members each ending inductionHypothesis =>
    obtain ⟨_, inside, onward⟩ := ok_of_bind complete
    obtain ⟨values, whole, onward⟩ := ok_of_bind onward
    obtain ⟨_, -, made⟩ := ok_of_bind onward
    cases made
    refine Value.shallow_object (le_of_enter inside) fun value listed => ?_
    obtain ⟨member, among, found⟩ :=
      exists_of_mem_mapM (completeMembers_eq_mapM members ▸ whole) listed
    obtain ⟨name, -, onward⟩ := ok_of_bind found
    obtain ⟨inner, read, made⟩ := ok_of_bind onward
    cases made
    exact inductionHypothesis member among (le_of_enter inside) read

/-- A written value that is read in full has all its levels within those that readers enter.

Proof: by induction on the value, whose outline has the levels of its parts. -/
theorem shallow_of_complete_outline {value other : Value} (entered : level ≤ 127)
    (complete : (value.outline level).complete = .ok other) : value.Shallow level := by
  induction value generalizing level other with
  | array items each =>
    rw [Value.outline, Outline.complete, itemOutlines_eq_map, completeItems_eq_mapM] at complete
    obtain ⟨_, inside, onward⟩ := ok_of_bind complete
    obtain ⟨values, whole, -⟩ := ok_of_bind onward
    refine Value.shallow_array (le_of_enter inside) fun item listed => ?_
    obtain ⟨found, read⟩ := exists_of_mapM whole (List.mem_map_of_mem listed)
    exact each item listed (le_of_enter inside) read
  | object members each =>
    rw [Value.outline, Outline.complete, memberOutlines_eq_map, completeMembers_eq_mapM] at complete
    obtain ⟨_, inside, onward⟩ := ok_of_bind complete
    obtain ⟨values, whole, -⟩ := ok_of_bind onward
    refine Value.shallow_object (le_of_enter inside) fun member listed => ?_
    obtain ⟨found, read⟩ := exists_of_mapM whole (List.mem_map_of_mem listed)
    obtain ⟨name, -, onward⟩ := ok_of_bind read
    obtain ⟨inner, read, -⟩ := ok_of_bind onward
    exact each member listed (le_of_enter inside) read
  | _ => exact entered

end Outline

end Storyline.Json
