import Storyline.Json.Record
import Storyline.Json.Tagged
import Storyline.Proofs.Json.Level
import Storyline.Table.Lookup

/-!
# Reading what was written

A reader takes a value for a thing if it reads the thing from the value's outline, at every
level at which the value stays within the levels that readers enter. Readers that are built
from others take what is written part by part. A record takes members under the names of
its fields: each fills its field, and a member that is left out stands for what the field
already holds.
-/

namespace Storyline.Json

variable {α σ : Type}

/-- What has been read is passed on. Readers are written as steps, and this is how a step that
succeeds is taken. -/
theorem ok_bind {ε β : Type} (found : α) (next : α → Except ε β) :
    (Except.ok found >>= next) = next found := rfl

/-- A name that was read stands in its place. A name that is passed over need not be readable, and
this is one that is read. -/
theorem key_name (reading : Except Fault String) : (Key.text reading).name = reading := rfl

/-- What is found is no fault. It only says how a fault would be told. -/
theorem orFault_ok (found : α) : orFault (.ok found) = .ok found := rfl

/-- What matches is no mismatch. It only says how a mismatch would be told. -/
theorem orMismatch_ok (found : α) : orMismatch (.ok found) = .ok found := rfl

/-- Written things are read one by one.

Proof: by induction on the things. -/
theorem mapM_map_ok {β ε : Type} {write : α → β} {read : β → Except ε α} {things : List α}
    (each : ∀ thing ∈ things, read (write thing) = .ok thing) :
    (things.map write).mapM read = .ok things := by
  induction things with
  | nil => rfl
  | cons thing rest inductionHypothesis =>
    have head := each thing List.mem_cons_self
    have tail := inductionHypothesis fun other member => each other (List.mem_cons_of_mem _ member)
    rw [List.map_cons, List.mapM_cons, head, tail]
    rfl

section Field

variable {ν : Type} {fields : List (Field ν σ)} {name : String} {value : ν}

/-- A field with a default value reads what its thing is read from. What has been read is put in
the place of the default value. -/
theorem Field.read_byDefault {read : ν → Except Refusal α} {set : α → σ → σ} {thing : α}
    (taken : read value = .ok thing) :
    (Field.byDefault name read set).read value = .ok (set thing) := by
  simp only [byDefault, taken]
  rfl

/-- A member fills the field that it names, unless that has been seen. The name goes to those that
have been seen, so a second member of that name is refused. -/
theorem Draft.fill_known {skip : ν → Except Refusal Unit} {draft : Draft σ} {field : Field ν σ}
    {set : σ → σ} (found : fields.find? (·.answersTo name) = some field)
    (fresh : draft.seen.contains field.name = false) (taken : field.read value = .ok set) :
    draft.fill fields skip name value = .ok ⟨field.name :: draft.seen, set draft.record⟩ := by
  simp only [fill, found, fresh, taken, ok_bind]
  rfl

end Field

section Memory

variable {fields : List (Field Value σ)} {name : String} {value : Value}
  {members : List (String × Value)}

/-- A member in memory fills the field that it names, and the others are left. This is one step of
filling a record from memory. -/
theorem Body.foldlM_known {skip : Value → Except Refusal Unit} {draft : Draft σ}
    {field : Field Value σ} {set : σ → σ}
    (found : fields.find? (·.answersTo name) = some field)
    (fresh : draft.seen.contains field.name = false) (taken : field.read value = .ok set) :
    ((name, value) :: members).foldlM (fun (draft : Draft σ) (name, value) =>
        draft.fill fields skip name value) draft =
      members.foldlM (fun (draft : Draft σ) (name, value) => draft.fill fields skip name value)
        ⟨field.name :: draft.seen, set draft.record⟩ := by
  simp only [List.foldlM_cons, Draft.fill_known found fresh taken, ok_bind]

/-- A member in memory that is no field of the record is passed over. Its value may be anything,
since it is in memory already. -/
theorem Body.record_cons (unknown : fields.find? (·.answersTo name) = none) (title : String)
    (blank : σ) (value : Value) :
    (Body.members ((name, value) :: members)).record title fields blank =
      (Body.members members).record title fields blank := by
  simp only [record, List.foldlM_cons, Draft.fill, unknown, ok_bind, pure, Except.pure]

/-- Two members in memory fill the fields that they name, one after the other, and finish the
record. Tagged values with more than two members besides the tag are not written. -/
theorem Body.record_two {other title : String} {more : Value} {first second : Field Value σ}
    {set fill : σ → σ} {blank record : σ}
    (found : fields.find? (·.answersTo name) = some first) (taken : first.read value = .ok set)
    (foundOther : fields.find? (·.answersTo other) = some second)
    (fresh : [first.name].contains second.name = false) (takenOther : second.read more = .ok fill)
    (finished : Draft.finish fields ⟨[second.name, first.name], fill (set blank)⟩ = .ok record) :
    (Body.members [(name, value), (other, more)]).record title fields blank = .ok record := by
  rw [Body.record, foldlM_known found rfl taken, foldlM_known foundOther fresh takenOther]
  exact finished

end Memory

/-- A reader reads a thing from the outline of a value, wherever readers enter its levels. -/
def Reader.Takes (read : Reader α) (value : Value) (thing : α) : Prop :=
  ∀ level, value.Shallow level → read (value.outline level) = .ok thing

namespace Reader

variable {read : Reader α} {value : Value} {thing : α}

/-- A value and its outline show the same. Texts and numbers of a value are always there to be
shown. -/
theorem face_outline (value : Value) (level : Nat) :
    (value.outline level).face = .ok value.face := by
  cases value <;> rfl

/-- What a value shows is enough for a scalar. Scalars stand at any level, as they have no levels
of their own. -/
theorem takes_scalar {look : Face → Except Mismatch α} (seen : look value.face = .ok thing) :
    (scalar look).Takes value thing := by
  intro level _
  simp only [scalar, face_outline, seen, orFault_ok, orMismatch_ok, bind, Except.bind]

/-- A text is taken for itself. It may be any text, also an empty one. -/
theorem takes_text (value : String) : text.Takes (.text value) value := by
  apply takes_scalar
  rfl

/-- A word is kept by 64 bits.

Proof: a signed word is within the bounds that are checked. -/
theorem word?_toInt (word : Int64) : Decimal.word? word.toInt = some word := by
  have lower := word.le_toInt
  have upper := word.toInt_lt
  unfold Decimal.word?
  rw [if_pos (by omega), Int64.ofInt_toInt]

/-- A written word is taken for itself. The least and the greatest word are included. -/
theorem takes_word (value : Int64) : word.Takes (.ofInt value.toInt) value := by
  refine takes_scalar ?_
  simp only [Value.ofInt, Value.face, Face.asWord, word?_toInt]

/-- What is not null is taken for something.

Proof: null would stand for nothing, and no other value does. -/
theorem takes_optional (takes : read.Takes value thing) (something : value ≠ .null) :
    (optional read).Takes value (some thing) := by
  intro level shallow
  have found := takes level shallow
  cases value with
  | null => exact absurd rfl something
  | _ =>
    simp only [Value.outline, optional] at found ⊢
    rw [found]
    rfl

/-- A text that may be missing is taken for itself if it is there. A text that is written is never
null. -/
theorem takes_someText (value : String) : (optional text).Takes (.text value) (some value) := by
  apply takes_optional (takes_text value)
  intro same
  cases same

/-- A word that may be missing is taken for itself if it is there. Neither is a number. -/
theorem takes_someWord (value : Int64) : (optional word).Takes (.ofInt value.toInt) (some value) := by
  apply takes_optional (takes_word value)
  intro same
  cases same

/-- A list of things is taken if each of them is. The order of the things is kept. -/
theorem takes_list {write : α → Value} {things : List α}
    (each : ∀ thing ∈ things, read.Takes (write thing) thing) :
    (list read).Takes (Value.ofList write things) things := by
  intro level shallow
  have all : (itemOutlines (level + 1) (things.map write)).mapM read = .ok things := by
    rw [itemOutlines_eq_map, List.map_map]
    exact mapM_map_ok fun thing member =>
      each thing member (level + 1) (shallow.item (List.mem_map_of_mem member))
  simp only [Value.ofList, Value.outline, list, Outline.enter_array shallow, all, Outline.close,
    orFault_ok, bind, Except.bind, pure, Except.pure]

/-- Written entries are inserted one after another, each with what is written under it.

Proof: by induction on the entries, along the table that those before have made. -/
theorem foldlM_insert {β : Type} {write : β → Value} {means : β → α} {entries : List (String × β)}
    {level : Nat}
    (each : ∀ entry ∈ entries, read ((write entry.2).outline level) = .ok (means entry.2))
    (table : Table α) :
    (memberOutlines level (entries.map fun entry => (entry.1, write entry.2))).foldlM
        (fun (table : Table α) (key, value) => do
          let name ← orFault key.name
          let thing ← read value
          return table.insert name thing) table =
      .ok ((entries.map fun entry => (entry.1, means entry.2)).foldl
        (fun table entry => table.insert entry.1 entry.2) table) := by
  induction entries generalizing table with
  | nil => rfl
  | cons entry rest inductionHypothesis =>
    have head := each entry List.mem_cons_self
    have tail := inductionHypothesis fun other member => each other (List.mem_cons_of_mem _ member)
    simp only [List.map_cons, memberOutlines, List.foldlM_cons, key_name, orFault_ok, head, bind,
      Except.bind, pure, Except.pure, List.foldl_cons] at tail ⊢
    exact tail _

/-- A table is taken from an object with entries in any order whose values stand for its own.

Proof: the entries are inserted in the order in which they are written, and a table is what its
entries make in any order. -/
theorem takes_meant {β : Type} {write : β → Value} {means : β → α}
    {entries : List (String × β)} {things : Table α}
    (listed : (entries.map fun entry => (entry.1, means entry.2)).Perm things.entries)
    (each : ∀ entry ∈ entries, read.Takes (write entry.2) (means entry.2)) :
    (table read).Takes (.object (entries.map fun entry => (entry.1, write entry.2))) things := by
  intro level shallow
  have all := foldlM_insert (fun entry member => each entry member (level + 1)
    (shallow.member (List.mem_map_of_mem member))) ∅
  have whole : (entries.map fun entry => (entry.1, means entry.2)).foldl
      (fun table entry => table.insert entry.1 entry.2) ∅ = things :=
    Table.ofList_of_perm listed
  rw [whole] at all
  rw [Value.outline, table, Outline.enter_object shallow, all]
  rfl

/-- A table is taken from an object with its entries in any order. Values stand for themselves
here, as they do in what is saved. -/
theorem takes_entries {write : α → Value} {entries : List (String × α)} {things : Table α}
    (listed : entries.Perm things.entries)
    (each : ∀ entry ∈ entries, read.Takes (write entry.2) entry.2) :
    (table read).Takes (.object (entries.map fun entry => (entry.1, write entry.2))) things := by
  have meant : (entries.map fun entry => (entry.1, id entry.2)).Perm things.entries := by
    rwa [show (fun entry : String × α => (entry.1, id entry.2)) = id from rfl, List.map_id]
  exact takes_meant meant each

/-- A table is taken from an object with its entries in order. This is the order in which a table
is saved where nothing else is said. -/
theorem takes_table {write : α → Value} {entries : Table α}
    (each : ∀ entry ∈ entries.entries, read.Takes (write entry.2) entry.2) :
    (table read).Takes (.object (entries.entries.map fun entry => (entry.1, write entry.2)))
      entries := by
  apply takes_entries
  case listed => exact .refl _
  case each => exact each

/-- A document that was written in any layout is read as its outline is. Layout plays no part, and
neither does what surrounds the value, since nothing does. -/
theorem document_write {layout : Layout} (spaced : layout.Spaced) (exact : value.Exact) :
    document read (String.ofList (value.write layout 0)) = read (value.outline 0) := by
  have outlined := ofText_write spaced exact
  simp only [document, outlined]
  cases read (value.outline 0) with
  | error refusal => rfl
  | ok thing => rfl

/-- A written document is read. This is the form in which stories are saved. -/
theorem document_indented (takes : read.Takes value thing) (exact : value.Exact)
    (shallow : value.depth ≤ 127) : document read value.indented = .ok thing := by
  rw [Value.indented, document_write spaced_indented exact]
  exact takes 0 (by rwa [Value.Shallow, Nat.zero_add])

/-! ## Records -/

/-- The outlines of some members fill the fields of a record one after another. Only fields of
the given names are filled, so it does not matter which others have been seen before. -/
def Fills (fields : List (Field Outline σ)) (names : List String)
    (members : List (String × Value)) (before after : σ) : Prop :=
  ∀ level seen, (∀ member ∈ members, member.2.Shallow level) → (∀ name ∈ names, name ∉ seen) →
    ∃ known, (memberOutlines level members).foldlM (fun (draft : Draft σ) (key, value) => do
        let name ← orFault key.name
        draft.fill fields (fun value => orFault value.skip) name value) ⟨seen, before⟩ =
          .ok ⟨known, after⟩ ∧
      ∀ name ∈ known, name ∈ names ∨ name ∈ seen

variable {fields : List (Field Outline σ)} {names others : List String}
  {members later : List (String × Value)} {before middle after : σ}

/-- No members fill nothing. Whatever has been seen before stays as it is. -/
theorem fills_nil (names : List String) (record : σ) : Fills fields names [] record record := by
  intro level seen _ _
  exact ⟨seen, rfl, fun name known => Or.inr known⟩

/-- Members fill fields behind those that other members have filled.

Proof: the names of the second part are not those of the first, so none of them has been seen when
its turn comes. -/
theorem Fills.append (first : Fills fields names members before middle)
    (second : Fills fields others later middle after) (apart : ∀ name ∈ others, name ∉ names) :
    Fills fields (names ++ others) (members ++ later) before after := by
  intro level seen shallow fresh
  obtain ⟨known, filled, ofFirst⟩ := first level seen
    (fun member listed => shallow member (List.mem_append_left _ listed))
    (fun name listed => fresh name (List.mem_append_left _ listed))
  obtain ⟨all, filledLater, ofSecond⟩ := second level known
    (fun member listed => shallow member (List.mem_append_right _ listed))
    (fun name listed isKnown => by
      rcases ofFirst name isKnown with among | old
      · exact apart name listed among
      · exact fresh name (List.mem_append_right _ listed) old)
  -- Only the fields of the two lists of names have been seen behind both.
  refine ⟨all, ?_, fun name isKnown => ?_⟩
  · rw [memberOutlines_append, List.foldlM_append, filled]
    exact filledLater
  · rcases ofSecond name isKnown with among | older
    · exact Or.inl (List.mem_append_right _ among)
    · exact (ofFirst name older).imp_left (List.mem_append_left _)

section Field

variable {set : α → σ → σ}

/-- A member fills the field of its name. Any other name that answers to the same field counts as
the field's own. -/
theorem fills_member (name : String) {field : Field Outline σ} (takes : read.Takes value thing)
    (found : fields.find? (·.answersTo name) = some field) (named : field.name = name)
    (reads : field.read = fun value => (read value).map set) (record : σ) :
    Fills fields [name] [(name, value)] record (set thing record) := by
  intro level seen shallow fresh
  have taken : field.read (value.outline level) = .ok (set thing) := by
    rw [reads]
    exact congrArg (Except.map set) (takes level (shallow (name, value) List.mem_cons_self))
  have unseen : seen.contains field.name = false := by
    rw [named]
    exact Bool.eq_false_iff.mpr fun contained =>
      fresh name List.mem_cons_self (List.contains_iff_mem.mp contained)
  refine ⟨field.name :: seen, ?_, fun other known => ?_⟩
  · rw [memberOutlines, memberOutlines, List.foldlM_cons]
    simp only [key_name, orFault_ok, ok_bind]
    rw [Draft.fill_known found unseen taken]
    rfl
  · rw [named] at known
    exact (List.mem_cons.mp known).imp_left List.mem_singleton.mpr

/-- Behind other members, a thing that is written if there is one fills its field.

Proof: by whether the thing is there. If not, nothing is written, and the field stands as it was. -/
theorem Fills.ifPresent (first : Fills fields names members before middle) (name : String)
    {read : Reader (Option α)} {set : Option α → σ → σ} {write : α → Value} (thing : Option α)
    (takes : ∀ present, thing = some present → read.Takes (write present) (some present))
    (found : fields.find? (·.answersTo name) = some (.byDefault name read set))
    (blank : set none middle = middle) (fresh : name ∉ names) :
    Fills fields (names ++ [name]) (members ++ memberIfPresent name write thing) before
      (set thing middle) := by
  refine first.append ?_ fun other only => List.mem_singleton.mp only ▸ fresh
  cases thing with
  | none =>
    rw [blank]
    exact fills_nil _ middle
  | some present => exact fills_member name (takes present rfl) found rfl rfl middle

/-- Behind other members, things that are written unless there are none fill their field.

Proof: by whether there are any things; an empty list is left out. -/
theorem Fills.unlessEmpty (first : Fills fields names members before middle) (name : String)
    {set : List α → σ → σ} {write : α → Value} (things : List α)
    (each : ∀ thing ∈ things, read.Takes (write thing) thing)
    (found : fields.find? (·.answersTo name) = some (.byDefault name (list read) set))
    (blank : set [] middle = middle) (fresh : name ∉ names) :
    Fills fields (names ++ [name]) (members ++ memberUnlessEmpty name write things) before
      (set things middle) := by
  refine first.append ?_ fun other only => List.mem_singleton.mp only ▸ fresh
  cases things with
  | nil =>
    rw [blank]
    exact fills_nil _ middle
  | cons thing rest => exact fills_member name (takes_list each) found rfl rfl middle

end Field

/-- What has been seen stays seen, and a member that names a field lets it be seen.

Proof: by whether the name is that of a field. If it is one that was seen before, filling fails. -/
theorem seen_of_fill {ν : Type} {fields : List (Field ν σ)} {skip : ν → Except Refusal Unit}
    {draft filled : Draft σ} {name : String} {value : ν}
    (succeeds : draft.fill fields skip name value = .ok filled) :
    (∀ known ∈ draft.seen, known ∈ filled.seen) ∧
      ∀ field, fields.find? (·.answersTo name) = some field → field.name ∈ filled.seen := by
  unfold Draft.fill at succeeds
  cases found : fields.find? (·.answersTo name) with
  | none =>
    rw [found] at succeeds
    obtain ⟨_, -, made⟩ := ok_of_bind succeeds
    cases made
    exact ⟨fun known seen => seen, fun field same => by cases same⟩
  | some field =>
    rw [found] at succeeds
    dsimp only at succeeds
    by_cases again : draft.seen.contains field.name = true
    · rw [if_pos again] at succeeds
      cases succeeds
    · rw [if_neg again] at succeeds
      obtain ⟨set, -, made⟩ := ok_of_bind succeeds
      cases made
      refine ⟨fun known seen => List.mem_cons_of_mem _ seen, fun other same => ?_⟩
      obtain rfl := Option.some.inj same
      exact List.mem_cons_self

/-- Every field that a member names has been seen behind all members.

Proof: by induction on the members. -/
theorem seen_of_foldlM {skip : Outline → Except Refusal Unit} {level : Nat} {draft filled : Draft σ}
    (succeeds : (memberOutlines level members).foldlM (fun (draft : Draft σ) (key, value) => do
        let name ← orFault key.name
        draft.fill fields skip name value) draft = .ok filled) :
    (∀ known ∈ draft.seen, known ∈ filled.seen) ∧
      ∀ member ∈ members, ∀ field, fields.find? (·.answersTo member.1) = some field →
        field.name ∈ filled.seen := by
  induction members generalizing draft with
  | nil =>
    cases succeeds
    exact ⟨fun known seen => seen, List.forall_mem_nil _⟩
  | cons member rest inductionHypothesis =>
    rw [memberOutlines, List.foldlM_cons] at succeeds
    obtain ⟨middle, stepped, onward⟩ := ok_of_bind succeeds
    obtain ⟨name, named, stepped⟩ := ok_of_bind stepped
    cases named
    obtain ⟨kept, fresh⟩ := seen_of_fill stepped
    obtain ⟨keptOnward, freshOnward⟩ := inductionHypothesis onward
    refine ⟨fun known seen => keptOnward known (kept known seen), ?_⟩
    refine List.forall_mem_cons.mpr ⟨fun field found => ?_, freshOnward⟩
    exact keptOnward field.name (fresh field found)

/-- A record is taken from the members that fill it, if each field that has to be there is named by
one of them.

Proof: filling sees every field that a member names, so none that has to be there is missing at the
end. -/
theorem takes_record_of_named {title : String} {blank record : σ}
    (fills : Fills fields names members blank record)
    (named : ∀ field ∈ fields, field.absence = .refused →
      ∃ member ∈ members, fields.find? (·.answersTo member.1) = some field) :
    (Reader.record title fields blank).Takes (.object members) record := by
  intro level shallow
  obtain ⟨known, filled, -⟩ := fills (level + 1) []
    (fun member listed => shallow.member listed) (fun _ _ => List.not_mem_nil)
  have nothing : fields.find? (fun field =>
      decide (field.absence = .refused) && !known.contains field.name) = none := by
    refine List.find?_eq_none.mpr fun field listed missing => ?_
    rw [Bool.and_eq_true, decide_eq_true_iff, Bool.not_eq_true'] at missing
    obtain ⟨needed, unseen⟩ := missing
    obtain ⟨member, among, found⟩ := named field listed needed
    have seen : field.name ∈ known := (seen_of_foldlM filled).2 member among field found
    rw [List.contains_iff_mem.mpr seen] at unseen
    cases unseen
  rw [Value.outline, Reader.record, Outline.enter_object shallow, filled]
  change Draft.finish fields ⟨known, record⟩ = _
  rw [Draft.finish, nothing]

/-- A record is taken from the members that fill it, if every field may be missing. Most records of
a story are of this kind. -/
theorem takes_record {title : String} {blank record : σ}
    (fills : Fills fields names members blank record)
    (optional : ∀ field ∈ fields, field.absence = .byDefault) :
    (Reader.record title fields blank).Takes (.object members) record := by
  refine takes_record_of_named fills fun field listed needed => ?_
  rw [optional field listed] at needed
  cases needed

/-! ## Tagged values -/

/-- Members that are no tag are taken into memory one after another.

Proof: by induction on the members, each of which is put behind those taken before. -/
theorem foldlM_untagged {level : Nat} {members : List (String × Value)}
    (untagged : ∀ member ∈ members, member.1 ≠ "type")
    (shallow : ∀ member ∈ members, member.2.Shallow level)
    (tag : Option String) (taken : List (String × Value)) :
    (memberOutlines level members).foldlM (fun (found : Option String × List (String × Value))
        (key, value) => do
      let name ← orFault key.name
      if name = "type" then
        if found.1.isSome then refuse (.duplicateField "type")
        else
          let tag ← Reader.scalar Face.asTag value
          return (some tag, found.2)
      else
        let value ← orFault value.complete
        return (found.1, found.2 ++ [(name, value)])) (tag, taken) =
      .ok (tag, taken ++ members) := by
  induction members generalizing taken with
  | nil =>
    rw [List.append_nil]
    rfl
  | cons member rest inductionHypothesis =>
    obtain ⟨name, value⟩ := member
    have other : name ≠ "type" := untagged (name, value) List.mem_cons_self
    have whole := Outline.complete_outline (shallow (name, value) List.mem_cons_self)
    have onward := inductionHypothesis
      (fun member listed => untagged member (List.mem_cons_of_mem _ listed))
      (fun member listed => shallow member (List.mem_cons_of_mem _ listed))
      (taken ++ [(name, value)])
    rw [memberOutlines, List.foldlM_cons, ← List.append_cons] at *
    simp only [key_name, orFault_ok, ok_bind, if_neg other, whole]
    exact onward

/-- Members behind the tag are taken into memory. The tag comes first in what is written, and the
rest keeps its order. -/
theorem takes_tagged (title tag : String)
    (untagged : ∀ member ∈ members, member.1 ≠ "type") :
    (tagged title).Takes (.object (("type", .text tag) :: members)) (tag, .members members) := by
  intro level shallow
  have rest := foldlM_untagged untagged
    (fun member listed => shallow.member (List.mem_cons_of_mem _ listed)) (some tag) []
  rw [Value.outline, memberOutlines, tagged, Outline.enter_object shallow, List.foldlM_cons]
  have start : (scalar Face.asTag (Value.outline (level + 1) (.text tag))) = .ok tag := rfl
  simp only [key_name, orFault_ok, ok_bind, if_true, Option.isSome_none, Bool.false_eq_true, if_false,
    start, pure, Except.pure] at rest ⊢
  rw [rest]
  rfl

end Reader

end Storyline.Json
