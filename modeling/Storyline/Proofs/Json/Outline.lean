import Storyline.Json.Reader
import Storyline.Proofs.Json.Token

/-!
# The outline of a written value

The tokens of a value amount to one outline, in which nothing is broken and every text and
number is there. Reading the whole of it gives the value back as long as its nesting goes
no deeper than readers enter.
-/

namespace Storyline.Json

/-- What holds of every value if it holds of arrays and objects whose parts it holds of. Parts are
reached through their lists, so a proof about values needs no second statement for items and a
third for members. -/
@[induction_eliminator]
theorem Value.induction {Holds : Value → Prop} (null : Holds .null)
    (bool : ∀ value, Holds (.bool value)) (number : ∀ value, Holds (.number value))
    (text : ∀ value, Holds (.text value))
    (array : ∀ items, (∀ item ∈ items, Holds item) → Holds (.array items))
    (object : ∀ members, (∀ member ∈ members, Holds member.2) → Holds (.object members)) :
    ∀ value, Holds value
  | .null => null
  | .bool value => bool value
  | .number value => number value
  | .text value => text value
  | .array items => array items fun item _ =>
    Value.induction null bool number text array object item
  | .object members => object members fun member listed =>
    have smaller : sizeOf member.2 < sizeOf members := by
      have within := List.sizeOf_lt_of_mem listed
      obtain ⟨name, value⟩ := member
      simp only [Prod.mk.sizeOf_spec] at within ⊢
      omega
    Value.induction null bool number text array object member.2

mutual

/-- The outline of a value at a level of nesting. -/
def Value.outline (level : Nat) : Value → Outline
  | .null => .null
  | .bool value => .bool value
  | .number value => .number (.ok value)
  | .text value => .text (.ok value)
  | .array items => .array (level + 1) (itemOutlines (level + 1) items) none
  | .object members => .object (level + 1) (memberOutlines (level + 1) members) none

/-- The outlines of items. -/
def itemOutlines (level : Nat) : List Value → List Outline
  | [] => []
  | item :: rest => item.outline level :: itemOutlines level rest

/-- The outlines of members. -/
def memberOutlines (level : Nat) : List (String × Value) → List (Key × Outline)
  | [] => []
  | (name, value) :: rest => (.text (.ok name), value.outline level) :: memberOutlines level rest

end

mutual

/-- How many arrays and objects stand around the innermost part of a value. -/
def Value.depth : Value → Nat
  | .array items => itemsDepth items + 1
  | .object members => membersDepth members + 1
  | _ => 0

/-- The depth of the deepest item. -/
def itemsDepth : List Value → Nat
  | [] => 0
  | item :: rest => max item.depth (itemsDepth rest)

/-- The depth of the deepest member. -/
def membersDepth : List (String × Value) → Nat
  | [] => 0
  | (_, value) :: rest => max value.depth (membersDepth rest)

end

/-- Items are outlined one by one. The recursion goes along with that on values, so it could not be
written as a map. -/
theorem itemOutlines_eq_map (level : Nat) (items : List Value) :
    itemOutlines level items = items.map (Value.outline level) := by
  induction items with
  | nil => rfl
  | cons item rest inductionHypothesis => rw [itemOutlines, inductionHypothesis, List.map_cons]

/-- Members are outlined one by one. Each has its name as its key, read in full. -/
theorem memberOutlines_eq_map (level : Nat) (members : List (String × Value)) :
    memberOutlines level members =
      members.map fun member => (.text (.ok member.1), member.2.outline level) := by
  induction members with
  | nil => rfl
  | cons member rest inductionHypothesis =>
    obtain ⟨name, value⟩ := member
    rw [memberOutlines, inductionHypothesis, List.map_cons]

/-- Members one behind another are outlined one behind another. Objects are often written in parts,
such as those that are left out when they are empty. -/
theorem memberOutlines_append (level : Nat) (members later : List (String × Value)) :
    memberOutlines level (members ++ later) =
      memberOutlines level members ++ memberOutlines level later := by
  simp only [memberOutlines_eq_map, List.map_append]

/-- No item is deeper than the deepest one.

Proof: by induction on the items, of which the deepest one counts. -/
theorem depth_le_itemsDepth {items : List Value} {item : Value} (member : item ∈ items) :
    item.depth ≤ itemsDepth items := by
  induction items with
  | nil => cases member
  | cons first rest inductionHypothesis =>
    rw [itemsDepth]
    rcases List.mem_cons.mp member with rfl | later
    · exact Nat.le_max_left _ _
    · exact Nat.le_trans (inductionHypothesis later) (Nat.le_max_right _ _)

/-- No member is deeper than the deepest one.

Proof: by induction on the members, as with items. -/
theorem depth_le_membersDepth {members : List (String × Value)} {member : String × Value}
    (listed : member ∈ members) : member.2.depth ≤ membersDepth members := by
  induction members with
  | nil => cases listed
  | cons first rest inductionHypothesis =>
    obtain ⟨name, value⟩ := first
    rw [membersDepth]
    rcases List.mem_cons.mp listed with rfl | later
    · exact Nat.le_max_left _ _
    · exact Nat.le_trans (inductionHypothesis later) (Nat.le_max_right _ _)

namespace Outline

variable {level : Nat} {tokens rest : List Token} {first : Outline} {items : List Outline}
  {members : List (Key × Outline)} {ending : Option Fault}

/-! ## One token -/

/-- An opening bracket starts the array of the items behind it. Where the items break off, so does
the array. -/
theorem value_openBracket (found : (firstItem (level + 1) tokens).1 = ((items, ending), rest)) :
    (value level (.openBracket :: tokens)).1 = (.array (level + 1) items ending, rest) := by
  rw [value]
  -- What is found comes with a bound on the tokens left, so both are named before it is opened.
  generalize firstItem (level + 1) tokens = behind at found
  obtain ⟨_, _⟩ := behind
  cases found
  rfl

/-- An opening brace starts the object of the members behind it. Where the members break off, so
does the object. -/
theorem value_openBrace (found : (firstMember (level + 1) tokens).1 = ((members, ending), rest)) :
    (value level (.openBrace :: tokens)).1 = (.object (level + 1) members ending, rest) := by
  rw [value]
  generalize firstMember (level + 1) tokens = behind at found
  obtain ⟨_, _⟩ := behind
  cases found
  rfl

/-- A closing bracket ends the items. The item was the last one, and nothing was broken. -/
theorem item_closeBracket (found : (value level tokens).1 = (first, .closeBracket :: rest)) :
    (item level tokens).1 = (([first], none), rest) := by
  rw [item]
  generalize value level tokens = behind at found
  obtain ⟨_, _⟩ := behind
  cases found
  rfl

/-- Behind a comma another item follows. The items behind the comma are taken as they come, broken
or not. -/
theorem item_comma {after : List Token} (found : (value level tokens).1 = (first, .comma :: after))
    (onward : (item level after).1 = ((items, ending), rest)) :
    (item level tokens).1 = ((first :: items, ending), rest) := by
  rw [item]
  generalize value level tokens = behind at found
  obtain ⟨_, _⟩ := behind
  cases found
  dsimp only
  generalize item level after = behind at onward
  obtain ⟨_, _⟩ := behind
  cases onward
  rfl

variable {name : String}

/-- A closing brace ends the members. Its name and the colon stand in front of the value. -/
theorem member_closeBrace (found : (value level tokens).1 = (first, .closeBrace :: rest)) :
    (member level (.text (.ok name) :: .colon :: tokens)).1 =
      (([(.text (.ok name), first)], none), rest) := by
  rw [member]
  generalize value level tokens = behind at found
  obtain ⟨_, _⟩ := behind
  cases found
  rfl

/-- Behind a comma another member follows. A name, a colon and a value make up each member. -/
theorem member_comma {after : List Token} (found : (value level tokens).1 = (first, .comma :: after))
    (onward : (member level after).1 = ((members, ending), rest)) :
    (member level (.text (.ok name) :: .colon :: tokens)).1 =
      (((.text (.ok name), first) :: members, ending), rest) := by
  rw [member]
  generalize value level tokens = behind at found
  obtain ⟨_, _⟩ := behind
  cases found
  dsimp only
  generalize member level after = behind at onward
  obtain ⟨_, _⟩ := behind
  cases onward
  rfl

/-! ## Whole values -/

/-- No value starts with a closing bracket. So an array with a value in it is never taken for an
empty one. -/
theorem tokens_eq_cons (value : Value) :
    ∃ token behind, value.tokens = token :: behind ∧ token ≠ .closeBracket := by
  cases value with
  | null | bool value | number value | text value => exact ⟨_, _, rfl, fun same => by cases same⟩
  | array items => cases items <;> exact ⟨_, _, rfl, fun same => by cases same⟩
  | object members => cases members <;> exact ⟨_, _, rfl, fun same => by cases same⟩

/-- Items start where a value starts. The first item is looked at apart only because there may be
none. -/
theorem firstItem_tokens (value : Value) (rest : List Token) :
    firstItem level (value.tokens ++ rest) = item level (value.tokens ++ rest) := by
  obtain ⟨token, behind, same, notClose⟩ := tokens_eq_cons value
  rw [same, List.cons_append, firstItem]
  · exact fun nothing => by cases nothing
  · exact fun _ close => notClose (List.cons.inj close).1

end Outline

/-- A value whose tokens have its outline, at every level and whatever follows. -/
def Value.IsOutlined (value : Value) : Prop :=
  ∀ (level : Nat) (rest : List Token),
    (Outline.value level (value.tokens ++ rest)).1 = (value.outline level, rest)

/-- The tokens of an item and of those behind it have the outlines of the items.

Proof: by induction on the items behind the first one; a comma goes before each, and a bracket
behind all. -/
theorem item_tokens (level : Nat) {first : Value} {more : List Value}
    (each : ∀ item ∈ first :: more, item.IsOutlined) (rest : List Token) :
    (Outline.item level (first.tokens ++ (itemTokens more ++ rest))).1 =
      ((itemOutlines level (first :: more), none), rest) := by
  induction more generalizing first with
  | nil => exact Outline.item_closeBracket (each first List.mem_cons_self level _)
  | cons second more inductionHypothesis =>
    have head := each first List.mem_cons_self level (itemTokens (second :: more) ++ rest)
    have tail := inductionHypothesis (fun item member => each item (List.mem_cons_of_mem _ member))
    rw [itemTokens, List.cons_append, List.append_assoc] at head
    rw [itemTokens, List.cons_append, List.append_assoc]
    exact Outline.item_comma head tail

/-- The tokens of a member and of those behind it have the outlines of the members.

Proof: by induction on the members behind the first one, as with items. -/
theorem member_tokens (level : Nat) {name : String} {first : Value} {more : List (String × Value)}
    (each : ∀ member ∈ (name, first) :: more, member.2.IsOutlined) (rest : List Token) :
    (Outline.member level
        (.text (.ok name) :: .colon :: (first.tokens ++ (memberTokens more ++ rest)))).1 =
      ((memberOutlines level ((name, first) :: more), none), rest) := by
  induction more generalizing name first with
  | nil => exact Outline.member_closeBrace (each _ List.mem_cons_self level _)
  | cons second more inductionHypothesis =>
    obtain ⟨secondName, second⟩ := second
    have head := each _ List.mem_cons_self level (memberTokens ((secondName, second) :: more) ++ rest)
    have tail := inductionHypothesis (fun item member => each item (List.mem_cons_of_mem _ member))
    rw [memberTokens, List.cons_append, List.cons_append, List.cons_append, List.append_assoc] at head
    rw [memberTokens, List.cons_append, List.cons_append, List.cons_append, List.append_assoc]
    exact Outline.member_comma head tail

/-- The tokens of a value have its outline.

Proof: by induction on the value. A value of one token is outlined at once, and arrays and objects
are so because their parts are. -/
theorem isOutlined (value : Value) : value.IsOutlined := by
  induction value with
  | null | bool value | number value | text value =>
    intro level rest
    rw [Value.tokens, List.cons_append, List.nil_append, Outline.value]
    rfl
  | array items each =>
    intro level rest
    cases items with
    | nil =>
      refine Outline.value_openBracket ?_
      rw [List.append_eq, List.cons_append, Outline.firstItem]
      rfl
    | cons first more =>
      rw [Value.tokens, List.cons_append, List.append_assoc]
      refine Outline.value_openBracket ?_
      rw [Outline.firstItem_tokens]
      exact item_tokens (level + 1) each rest
  | object members each =>
    intro level rest
    cases members with
    | nil =>
      refine Outline.value_openBrace ?_
      rw [List.append_eq, List.cons_append, Outline.firstMember]
      rfl
    | cons first more =>
      obtain ⟨name, first⟩ := first
      rw [Value.tokens, List.cons_append, List.cons_append, List.cons_append, List.append_assoc]
      refine Outline.value_openBrace ?_
      rw [Outline.firstMember]
      · exact member_tokens (level + 1) each rest
      · exact fun nothing => by cases nothing
      · exact fun _ close => by cases close

/-- A value that is written with gaps between its tokens is outlined again, and nothing is left
behind it.

Proof: the text is cut into the tokens of the value, and those have its outline. -/
theorem ofText_write {layout : Layout} (spaced : layout.Spaced) {value : Value}
    (exact : value.Exact) :
    Outline.ofText (String.ofList (value.write layout 0)) = (value.outline 0, []) := by
  have cut := isCut_of_exact spaced exact 0 Numeral.endsBefore_nil
  have nothing : tokens [] = [] := by rw [tokens]
  rw [List.append_nil, nothing] at cut
  rw [Outline.ofText, String.toList_ofList, cut]
  exact isOutlined value 0 []

/-! ## Reading the whole outline -/

/-- A value all of whose levels readers enter, if it stands at a level of nesting. -/
def Value.Shallow (level : Nat) (value : Value) : Prop := level + value.depth ≤ 127

section Shallow

variable {level : Nat} {items : List Value} {members : List (String × Value)}

/-- The items of a shallow array are shallow one level further down. An array is one level deeper
than its deepest item. -/
theorem Value.Shallow.item (shallow : (Value.array items).Shallow level) {item : Value}
    (member : item ∈ items) : item.Shallow (level + 1) := by
  have deepest := depth_le_itemsDepth member
  unfold Shallow depth at shallow
  unfold Shallow
  omega

/-- The members of a shallow object are shallow one level further down. An object is one level
deeper than its deepest member. -/
theorem Value.Shallow.member (shallow : (Value.object members).Shallow level)
    {member : String × Value} (listed : member ∈ members) : member.2.Shallow (level + 1) := by
  have deepest := depth_le_membersDepth listed
  unfold Shallow depth at shallow
  unfold Shallow
  omega

/-- Readers enter a shallow array. The level of the array itself is what is asked about, whatever
is in it. -/
theorem Outline.enter_array (shallow : (Value.array items).Shallow level) :
    enter (level + 1) = .ok () := by
  unfold Value.Shallow Value.depth at shallow
  exact if_pos (by omega)

/-- Readers enter a shallow object. Arrays and objects count alike as levels. -/
theorem Outline.enter_object (shallow : (Value.object members).Shallow level) :
    enter (level + 1) = .ok () := by
  unfold Value.Shallow Value.depth at shallow
  exact if_pos (by omega)

end Shallow

namespace Outline

/-- Items that are read in full one by one are read in full together.

Proof: by induction on the items. The list has no broken end. -/
theorem completeItems_itemOutlines {level : Nat} {items : List Value}
    (each : ∀ item ∈ items, (item.outline level).complete = .ok item) :
    completeItems (itemOutlines level items) = .ok items := by
  induction items with
  | nil => rfl
  | cons item rest inductionHypothesis =>
    have head := each item List.mem_cons_self
    have tail := inductionHypothesis fun other member => each other (List.mem_cons_of_mem _ member)
    simp only [itemOutlines, completeItems, head, tail, bind, Except.bind, pure, Except.pure]

/-- Members that are read in full one by one are read in full together.

Proof: by induction on the members, whose names are read in full as well. -/
theorem completeMembers_memberOutlines {level : Nat} {members : List (String × Value)}
    (each : ∀ member ∈ members, (member.2.outline level).complete = .ok member.2) :
    completeMembers (memberOutlines level members) = .ok members := by
  induction members with
  | nil => rfl
  | cons member rest inductionHypothesis =>
    obtain ⟨name, value⟩ := member
    have head : (value.outline level).complete = .ok value := each (name, value) List.mem_cons_self
    have tail := inductionHypothesis fun other listed => each other (List.mem_cons_of_mem _ listed)
    simp only [memberOutlines, completeMembers, Key.name, head, tail, bind, Except.bind, pure,
      Except.pure]

/-- A value is read back from the whole of its outline if readers enter all its levels.

Proof: by induction on the value, with the level one higher in each array and object. -/
theorem complete_outline {value : Value} {level : Nat} (shallow : value.Shallow level) :
    (value.outline level).complete = .ok value := by
  induction value generalizing level with
  | null | bool value | number value | text value => rfl
  | array items each =>
    have all : completeItems (itemOutlines (level + 1) items) = .ok items :=
      completeItems_itemOutlines fun item member => each item member (shallow.item member)
    simp only [Value.outline, complete, enter_array shallow, all, close, bind, Except.bind, pure,
      Except.pure]
  | object members each =>
    have all : completeMembers (memberOutlines (level + 1) members) = .ok members :=
      completeMembers_memberOutlines fun member listed => each member listed (shallow.member listed)
    simp only [Value.outline, complete, enter_object shallow, all, close, bind, Except.bind, pure,
      Except.pure]

end Outline

end Storyline.Json
