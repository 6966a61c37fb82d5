import Storyline.Json.Tagged
import Storyline.Proofs.Json.Level
import Storyline.Table.Lookup

/-!
# What readers ensure

A reader ensures something of the things that it reads, each at the level at which it was
found. Readers that are built from others ensure what these ensure, one level further down
for each array and each object that they enter. What a record ensures is kept by each of its
fields, in whatever form and order the document gives them.
-/

namespace Storyline.Json

variable {α β σ ν ε : Type}

/-! ## Several things -/

/-- What each step keeps is kept by all steps together.

Proof: by induction on the things. -/
theorem foldlM_keeps (Holds : β → Prop) {step : β → α → Except ε β} {things : List α}
    (keeps : ∀ thing ∈ things, ∀ {before after}, Holds before → step before thing = .ok after →
      Holds after)
    {first last : β} (start : Holds first) (folded : things.foldlM step first = .ok last) :
    Holds last := by
  induction things generalizing first with
  | nil =>
    cases folded
    exact start
  | cons thing rest inductionHypothesis =>
    rw [List.foldlM_cons] at folded
    obtain ⟨middle, stepped, onward⟩ := ok_of_bind folded
    exact inductionHypothesis (fun other listed => keeps other (List.mem_cons_of_mem _ listed))
      (keeps thing List.mem_cons_self start stepped) onward

/-- Each of several steps that succeed together succeeds.

Proof: by induction on the things; a step that fails ends the whole. -/
theorem exists_of_foldlM {step : β → α → Except ε β} {things : List α} {first last : β}
    (folded : things.foldlM step first = .ok last) {thing : α} (listed : thing ∈ things) :
    ∃ before after, step before thing = .ok after := by
  induction things generalizing first with
  | nil => cases listed
  | cons head rest inductionHypothesis =>
    rw [List.foldlM_cons] at folded
    obtain ⟨middle, stepped, onward⟩ := ok_of_bind folded
    rcases List.mem_cons.mp listed with rfl | later
    · exact ⟨first, middle, stepped⟩
    · exact inductionHypothesis onward later

/-! ## Fields -/

/-- A field keeps something of a record whatever it reads from a place of some sort. -/
def Field.Keeps (field : Field ν σ) (sort : ν → Prop) (invariant : σ → Prop) : Prop :=
  ∀ ⦃value set record⦄, sort value → field.read value = .ok set → invariant record →
    invariant (set record)

section Fields

variable {sort : ν → Prop} {invariant : σ → Prop} {fields : List (Field ν σ)}

/-- A field keeps what its thing does not break. The thing that it reads may depend on the sort of
place, such as the level. -/
theorem Field.keeps_of_read {field : Field ν σ} {read : ν → Except Refusal α} {set : α → σ → σ}
    {holds : α → Prop} (reads : field.read = fun value => (read value).map set)
    (found : ∀ {value thing}, sort value → read value = .ok thing → holds thing)
    (kept : ∀ {thing record}, holds thing → invariant record → invariant (set thing record)) :
    field.Keeps sort invariant := by
  intro value set record sorted taken before
  rw [reads] at taken
  obtain ⟨thing, read, rfl⟩ := ok_of_map taken
  exact kept (found sorted read) before

/-- A field keeps what no thing of its own concerns. A title has nothing to do with conditions, for
example. -/
theorem Field.keeps_of_apart {field : Field ν σ} {read : ν → Except Refusal α} {set : α → σ → σ}
    (reads : field.read = fun value => (read value).map set)
    (apart : ∀ thing {record}, invariant record → invariant (set thing record)) :
    field.Keeps sort invariant := by
  intro value set record _ taken before
  rw [reads] at taken
  obtain ⟨thing, -, rfl⟩ := ok_of_map taken
  exact apart thing before

/-- A member keeps what each field keeps, also if it names none.

Proof: by whether the name is that of a field. A member that is passed over changes nothing. -/
theorem Draft.fill_keeps (keeps : ∀ field ∈ fields, field.Keeps sort invariant)
    {skip : ν → Except Refusal Unit} {draft filled : Draft σ} {name : String} {value : ν}
    (sorted : sort value) (succeeds : draft.fill fields skip name value = .ok filled)
    (before : invariant draft.record) : invariant filled.record := by
  unfold fill at succeeds
  split at succeeds
  · obtain ⟨_, -, same⟩ := ok_of_bind succeeds
    cases same
    exact before
  · rename_i field found
    split at succeeds
    · cases succeeds
    · obtain ⟨set, taken, made⟩ := ok_of_bind succeeds
      cases made
      exact keeps field (List.mem_of_find?_eq_some found) sorted taken before

/-- A draft is finished as it is. Finishing only asks whether something is missing. -/
theorem Draft.finish_eq {draft : Draft σ} {record : σ}
    (finished : draft.finish fields = .ok record) : record = draft.record := by
  unfold finish at finished
  split at finished
  · cases finished
  · cases finished
    rfl

/-- Items in order keep what each field keeps.

Proof: by induction on the fields, along the values that are left. A field without a value keeps
its default. -/
theorem fillInOrder_keeps (keeps : ∀ field ∈ fields, field.Keeps sort invariant) {title : String}
    {size count : Nat} {atEnd : Except Refusal Unit} {record : σ} {values : List ν} {found : σ × List ν}
    (sorted : ∀ value ∈ values, sort value)
    (filled : fillInOrder title size atEnd count record fields values = .ok found)
    (before : invariant record) : invariant found.1 := by
  induction fields generalizing count record values with
  | nil =>
    cases filled
    exact before
  | cons field rest inductionHypothesis =>
    have onward := @inductionHypothesis fun other listed => keeps other (List.mem_cons_of_mem _ listed)
    cases values with
    | nil =>
      obtain ⟨_, -, behind⟩ := ok_of_bind filled
      split at behind
      · exact onward (List.forall_mem_nil _) behind before
      · cases behind
    | cons value later =>
      obtain ⟨set, taken, behind⟩ := ok_of_bind filled
      obtain ⟨first, others⟩ := List.forall_mem_cons.mp sorted
      exact onward others behind (keeps field List.mem_cons_self first taken before)

end Fields

/-- The depth of the deepest thing in a body. -/
def Body.depth : Body → Nat
  | .members written => membersDepth written
  | .items written => itemsDepth written

/-- A record that is read from a body in memory keeps what its fields keep of things that are as
deep as the body.

Proof: members fill the record by name and items by order, and each of them is as deep as the body
at most. -/
theorem Body.record_keeps {bound : Nat} (invariant : σ → Prop) {fields : List (Field Value σ)}
    (keeps : ∀ field ∈ fields, field.Keeps (fun value => value.depth ≤ bound) invariant)
    {body : Body} (within : body.depth ≤ bound) {title : String} {blank record : σ}
    (start : invariant blank) (read : body.record title fields blank = .ok record) :
    invariant record := by
  cases body with
  | members members =>
    have each := membersDepth_le_iff.mp within
    obtain ⟨draft, filled, finished⟩ := ok_of_bind read
    rw [Draft.finish_eq finished]
    exact foldlM_keeps (fun draft => invariant draft.record) (fun member listed _ _ before stepped =>
      Draft.fill_keeps keeps (each member listed) stepped before) start filled
  | items items =>
    obtain ⟨⟨made, extra⟩, filled, behind⟩ := ok_of_bind read
    have kept := fillInOrder_keeps keeps (itemsDepth_le_iff.mp within) filled start
    dsimp only at behind
    split at behind
    · cases behind
      exact kept
    · cases behind

/-! ## Readers -/

/-- A reader ensures something of the things that it reads and of the levels at which they stand. -/
def Reader.Ensures (read : Reader α) (holds : Nat → α → Prop) : Prop :=
  ∀ ⦃level outline thing⦄, Outline.Leveled level outline → level ≤ 127 → read outline = .ok thing →
    holds level thing

namespace Reader

variable {read : Reader α} {holds : Nat → α → Prop}

/-- A value that was taken into memory is shallow. Conditions and effects are read in this way,
since their tags may stand anywhere in them. -/
theorem ensures_complete :
    Reader.Ensures (fun outline => orFault outline.complete)
      fun level value => value.Shallow level := by
  intro level outline value leveled entered read
  have whole := ok_of_mapError read
  exact Outline.shallow_of_complete leveled entered whole

/-- What may be missing is as its reader ensures if it is there. Null stands for nothing, of which
there is nothing to ensure. -/
theorem Ensures.optional (ensures : read.Ensures holds) :
    (Reader.optional read).Ensures fun level thing => ∀ present, thing = some present →
      holds level present := by
  rintro level outline thing leveled entered found present rfl
  have something : (read outline).map some = .ok (some present) := by
    cases outline with
    | null => cases found
    | _ => exact found
  obtain ⟨same, here, made⟩ := ok_of_map something
  cases made
  exact ensures leveled entered here

/-- All items of a list are as their reader ensures, one level further down.

Proof: the items stand one level further down, and each of them was read for a thing. -/
theorem Ensures.list (ensures : read.Ensures holds) :
    (Reader.list read).Ensures fun level things => ∀ thing ∈ things, holds (level + 1) thing := by
  intro level outline things leveled _ found thing listed
  cases leveled with
  | array each ending =>
    obtain ⟨_, inside, onward⟩ := ok_of_bind found
    obtain ⟨all, whole, onward⟩ := ok_of_bind onward
    obtain ⟨_, -, made⟩ := ok_of_bind onward
    cases made
    obtain ⟨item, among, here⟩ := exists_of_mem_mapM whole listed
    exact ensures (each item among) (Outline.le_of_enter (ok_of_mapError inside)) here
  | _ =>
    obtain ⟨_, -, refused⟩ := ok_of_bind found
    cases refused

/-- All entries of a table are as their reader ensures, one level further down.

Proof: each member keeps it of the table made so far, since inserting adds one entry and none
besides. An entry that gives way to a later one of its name is no longer asked about. -/
theorem Ensures.table (ensures : read.Ensures holds) :
    (Reader.table read).Ensures fun level things => ∀ entry ∈ things.entries,
      holds (level + 1) entry.2 := by
  intro level outline things leveled _ found
  cases leveled with
  | object each ending =>
    obtain ⟨_, inside, onward⟩ := ok_of_bind found
    obtain ⟨all, whole, onward⟩ := ok_of_bind onward
    obtain ⟨_, -, made⟩ := ok_of_bind onward
    cases made
    have entered := Outline.le_of_enter (ok_of_mapError inside)
    refine foldlM_keeps (fun table : Table α => ∀ entry ∈ table.entries,
      holds (level + 1) entry.2) (fun member among before after kept stepped => ?_)
      (List.forall_mem_nil _) whole
    obtain ⟨name, -, onward⟩ := ok_of_bind stepped
    obtain ⟨thing, here, made⟩ := ok_of_bind onward
    cases made
    intro entry listed
    rcases Table.mem_of_mem_place listed with rfl | earlier
    · exact ensures (each member among) entered here
    · exact kept entry earlier
  | _ =>
    obtain ⟨_, -, refused⟩ := ok_of_bind found
    cases refused

/-- A field keeps what the thing that it reads does not break. The level is one that
readers enter. -/
theorem Ensures.keeps (ensures : read.Ensures holds) {level : Nat} (entered : level ≤ 127)
    {field : Field Outline σ} {set : α → σ → σ} {invariant : σ → Prop}
    (reads : field.read = fun value => (read value).map set)
    (kept : ∀ {thing record}, holds level thing → invariant record → invariant (set thing record)) :
    field.Keeps (Outline.Leveled level) invariant := by
  have found {outline : Outline} {thing : α} (leveled : outline.Leveled level)
      (taken : read outline = .ok thing) : holds level thing := ensures leveled entered taken
  exact Field.keeps_of_read reads found kept

/-- A record is as its fields keep it, one level further down.

Proof: by the form of the value. The members of an object and the items of an array both stand one
level further down, and fields keep what is ensured. -/
theorem ensures_record (invariant : Nat → σ → Prop) {title : String}
    {fields : List (Field Outline σ)} {blank : σ} (start : ∀ level, invariant level blank)
    (keeps : ∀ level ≤ 127, ∀ field ∈ fields, field.Keeps (Outline.Leveled level) (invariant level)) :
    (Reader.record title fields blank).Ensures fun level record => invariant (level + 1) record := by
  intro level outline record leveled _ found
  cases leveled with
  | object each ending =>
    obtain ⟨_, inside, onward⟩ := ok_of_bind found
    obtain ⟨draft, filled, onward⟩ := ok_of_bind onward
    obtain ⟨_, -, finished⟩ := ok_of_bind onward
    rw [Draft.finish_eq finished]
    have entered := Outline.le_of_enter (ok_of_mapError inside)
    refine foldlM_keeps (fun draft : Draft σ => invariant (level + 1) draft.record)
      (fun member listed before after kept stepped => ?_) (start _) filled
    obtain ⟨name, -, stepped⟩ := ok_of_bind stepped
    exact Draft.fill_keeps (keeps _ entered) (each member listed) stepped kept
  | array each ending =>
    obtain ⟨_, inside, onward⟩ := ok_of_bind found
    obtain ⟨⟨made, extra⟩, filled, behind⟩ := ok_of_bind onward
    have entered := Outline.le_of_enter (ok_of_mapError inside)
    have kept := fillInOrder_keeps (keeps _ entered) each filled (start _)
    dsimp only at behind
    split at behind
    · obtain ⟨_, -, same⟩ := ok_of_bind behind
      cases same
      exact kept
    · cases behind
  | _ =>
    obtain ⟨_, -, refused⟩ := ok_of_bind found
    cases refused

/-- The members that are taken into memory beside a tag are shallow. A tag may be among them at any
place and is left out. -/
theorem shallow_of_untagged {level : Nat} {members : List (Key × Outline)}
    {tag : Option String} {taken : List (String × Value)} (entered : level ≤ 127)
    (each : ∀ member ∈ members, member.2.Leveled level)
    (found : members.foldlM (fun (found : Option String × List (String × Value)) (key, value) => do
      let name ← orFault key.name
      if name = "type" then
        if found.1.isSome then refuse (.duplicateField "type")
        else
          let tag ← Reader.scalar Face.asTag value
          return (some tag, found.2)
      else
        let value ← orFault value.complete
        return (found.1, found.2 ++ [(name, value)])) (none, []) = .ok (tag, taken)) :
    ∀ member ∈ taken, member.2.Shallow level := by
  refine foldlM_keeps (fun found : Option String × List (String × Value) =>
    ∀ member ∈ found.2, member.2.Shallow level)
    (fun member listed before after kept stepped => ?_) (List.forall_mem_nil _) found
  obtain ⟨name, -, stepped⟩ := ok_of_bind stepped
  split at stepped
  · split at stepped
    · cases stepped
    · obtain ⟨tag, -, same⟩ := ok_of_bind stepped
      cases same
      exact kept
  · obtain ⟨value, whole, same⟩ := ok_of_bind stepped
    cases same
    have shallow := ensures_complete (each member listed) entered whole
    exact List.forall_mem_append.mpr ⟨kept, List.forall_mem_singleton.mpr shallow⟩

/-- The items that are taken into memory behind a tag are shallow, as they are read in full. -/
theorem shallow_of_completeItems {level : Nat} {items : List Outline} {values : List Value}
    (entered : level ≤ 127) (each : ∀ item ∈ items, item.Leveled level)
    (found : orFault (Outline.completeItems items) = .ok values) :
    ∀ value ∈ values, value.Shallow level := by
  intro value listed
  have read := ok_of_mapError found
  rw [Outline.completeItems_eq_mapM] at read
  obtain ⟨item, among, whole⟩ := exists_of_mem_mapM read listed
  exact Outline.shallow_of_complete (each item among) entered whole

/-- All that a tagged value holds besides its tag is within the levels that readers enter.

Proof: by the form of the value. An object has its members taken into memory beside the tag, and an
array its items behind it; both are within one level more than their parts. -/
theorem ensures_tagged (title : String) :
    (tagged title).Ensures fun level found => level + 1 + found.2.depth ≤ 127 := by
  intro level outline result leveled _ found
  cases leveled with
  | object each ending =>
    obtain ⟨_, inside, onward⟩ := ok_of_bind found
    obtain ⟨⟨tag, members⟩, taken, onward⟩ := ok_of_bind onward
    obtain ⟨_, -, made⟩ := ok_of_bind onward
    have entered := Outline.le_of_enter (ok_of_mapError inside)
    cases tag with
    | none => cases made
    | some tag =>
      cases made
      have whole := Value.shallow_object entered (shallow_of_untagged entered each taken)
      unfold Value.Shallow Value.depth at whole
      change level + 1 + membersDepth members ≤ 127
      omega
  | @array _ items each ending =>
    obtain ⟨_, inside, onward⟩ := ok_of_bind found
    have entered := Outline.le_of_enter (ok_of_mapError inside)
    cases items with
    | nil =>
      obtain ⟨_, -, refused⟩ := ok_of_bind onward
      cases refused
    | cons first rest =>
      obtain ⟨tag, -, onward⟩ := ok_of_bind onward
      obtain ⟨values, whole, onward⟩ := ok_of_bind onward
      obtain ⟨_, -, made⟩ := ok_of_bind onward
      cases made
      have behind : ∀ item ∈ rest, item.Leveled (level + 1) :=
        fun item among => each item (List.mem_cons_of_mem _ among)
      have shallow := Value.shallow_array entered (shallow_of_completeItems entered behind whole)
      unfold Value.Shallow Value.depth at shallow
      change level + 1 + itemsDepth values ≤ 127
      omega
  | _ =>
    obtain ⟨_, -, refused⟩ := ok_of_bind found
    cases refused

/-- A document is as its reader ensures at the outermost level. Nothing stands around the value of
a document. -/
theorem Ensures.document (ensures : read.Ensures holds) {source : String} {thing : α}
    (found : document read source = .ok thing) : holds 0 thing := by
  obtain ⟨same, here, onward⟩ := ok_of_bind found
  split at onward
  · cases onward
    exact ensures (Outline.leveled_ofText source) (Nat.zero_le _) here
  · cases onward

/-! ## Written values that were read -/

section Written

variable {level : Nat} {members : List (String × Value)}

/-- Where a record was read, every member that names a field was read for it.

Proof: the members were gone through one after another, and this one's step succeeded. -/
theorem read_of_record {title : String} {fields : List (Field Outline σ)} {blank record : σ}
    (found : Reader.record title fields blank ((Value.object members).outline level) = .ok record)
    {name : String} {value : Value} (listed : (name, value) ∈ members) {field : Field Outline σ}
    (known : fields.find? (·.answersTo name) = some field) :
    level + 1 ≤ 127 ∧ ∃ set, field.read (value.outline (level + 1)) = .ok set := by
  obtain ⟨_, inside, onward⟩ := ok_of_bind found
  obtain ⟨draft, filled, -⟩ := ok_of_bind onward
  refine ⟨Outline.le_of_enter (ok_of_mapError inside), ?_⟩
  rw [memberOutlines_eq_map] at filled
  obtain ⟨before, after, stepped⟩ := exists_of_foldlM filled (List.mem_map_of_mem listed)
  obtain ⟨_, named, filled⟩ := ok_of_bind stepped
  cases named
  simp only [Draft.fill, known] at filled
  split at filled
  · cases filled
  · obtain ⟨set, taken, -⟩ := ok_of_bind filled
    exact ⟨set, taken⟩

/-- Where a list was read, each of its things was. So what one reader takes of a written thing is
known to be taken. -/
theorem read_of_list {write : β → Value} {things : List β} {found : List α}
    (taken : Reader.list read ((Value.ofList write things).outline level) = .ok found) {thing : β}
    (listed : thing ∈ things) : ∃ other, read ((write thing).outline (level + 1)) = .ok other := by
  obtain ⟨_, -, onward⟩ := ok_of_bind taken
  obtain ⟨all, whole, -⟩ := ok_of_bind onward
  rw [itemOutlines_eq_map] at whole
  exact exists_of_mapM whole (List.mem_map_of_mem (List.mem_map_of_mem listed))

/-- Where a table was read, each of its members was. Members of the same name are all read, also
those that give way. -/
theorem read_of_table {found : Table α}
    (taken : Reader.table read ((Value.object members).outline level) = .ok found)
    {member : String × Value} (listed : member ∈ members) :
    ∃ other, read (member.2.outline (level + 1)) = .ok other := by
  obtain ⟨_, -, onward⟩ := ok_of_bind taken
  obtain ⟨all, whole, -⟩ := ok_of_bind onward
  rw [memberOutlines_eq_map] at whole
  obtain ⟨before, after, stepped⟩ := exists_of_foldlM whole (List.mem_map_of_mem listed)
  obtain ⟨name, -, onward⟩ := ok_of_bind stepped
  obtain ⟨other, here, -⟩ := ok_of_bind onward
  exact ⟨other, here⟩

/-- Where a tagged value was read, it lies within the levels that readers enter.

Proof: a tag and a body that were taken into memory are all that the value has, and both are within
the levels. -/
theorem shallow_of_tagged {title tag : String} {found : String × Body}
    (untagged : ∀ member ∈ members, member.1 ≠ "type")
    (read : tagged title ((Value.object (("type", .text tag) :: members)).outline level) = .ok found) :
    (Value.object (("type", .text tag) :: members)).Shallow level := by
  obtain ⟨_, inside, onward⟩ := ok_of_bind read
  obtain ⟨_, taken, -⟩ := ok_of_bind onward
  have entered := Outline.le_of_enter (ok_of_mapError inside)
  refine Value.shallow_object entered (List.forall_mem_cons.mpr ⟨entered, fun member listed => ?_⟩)
  rw [memberOutlines_eq_map] at taken
  obtain ⟨before, after, stepped⟩ :=
    exists_of_foldlM taken (List.mem_map_of_mem (List.mem_cons_of_mem _ listed))
  obtain ⟨_, named, stepped⟩ := ok_of_bind stepped
  cases named
  rw [if_neg (untagged member listed)] at stepped
  obtain ⟨value, whole, -⟩ := ok_of_bind stepped
  exact Outline.shallow_of_complete_outline entered (ok_of_mapError whole)

end Written

end Reader

end Storyline.Json
