import Storyline.State.Snapshot
import Storyline.Table.Lookup

/-!
# Snapshots are read back

A snapshot of a state is read back as that state: whatever stands behind it, and in
whatever order its flags and its extra fields were written. Each part is read back by
itself, whatever follows, and so are the parts one after another.

Counts and lengths have eight bytes. A state fits into a snapshot if none of them needs
more, as none does that a machine can count; nothing else is asked of it. Whatever is saved
in bytes that can be counted so fits.
-/

namespace Storyline.Snapshot

/-! ## Parts -/

/-- A thing that was written is read back, and what follows it is left. Whatever follows is left as
it is, which is what lets the parts be read one after another. -/
def ReadBack {α : Type} (take : Taker α) (write : α → Bytes) (thing : α) : Prop :=
  ∀ rest, take (write thing ++ rest) = .ok (thing, rest)

/-- What is done with a thing read and the bytes behind it is done with a thing that was written,
and with what follows it. So a reader of several parts is followed part by part. -/
theorem ReadBack.bind {α β : Type} {take : Taker α} {write : α → Bytes} {thing : α}
    (readBack : ReadBack take write thing) (rest : Bytes)
    (next : α × Bytes → Except Failure β) :
    (take (write thing ++ rest) >>= next) = next (thing, rest) := by
  rw [readBack rest]
  rfl

/-- The numbers below this one can be told in eight bytes. A count has so many bytes whatever it
counts. -/
def countBound : Nat := 0x10000000000000000

/-- A number is written in as many bytes as asked for. Bytes of a larger number that do not fit are
lost, and none are added. -/
@[simp] theorem length_littleEndian (width number : Nat) :
    (littleEndian width number).length = width := by
  induction width generalizing number with
  | zero => rfl
  | succ width inductionHypothesis => simp [littleEndian, inductionHypothesis]

/-- The bytes of a number spell it, if there are enough of them.

Proof: by induction on the width. The first byte is the remainder by 256, and the bytes behind it
spell the quotient. -/
theorem number_littleEndian {width number : Nat} (small : number < Nat.pow 256 width) :
    Snapshot.number (littleEndian width number) = number := by
  induction width generalizing number with
  | zero =>
    have nothing : number = 0 := Nat.lt_one_iff.mp small
    exact nothing.symm
  | succ width inductionHypothesis =>
    have higher : number / 256 < Nat.pow 256 width :=
      Nat.div_lt_of_lt_mul (Nat.mul_comm .. ▸ small)
    have lowest : (UInt8.ofNat number).toNat = number % 256 := UInt8.toNat_ofNat'
    have onward := inductionHypothesis higher
    simp only [Snapshot.number, littleEndian, List.foldr_cons] at onward ⊢
    rw [onward, lowest]
    omega

/-- A number is read back from enough bytes. It must be below the bound that its width sets. -/
theorem readBack_number {width number : Nat} (small : number < Nat.pow 256 width) :
    ReadBack (takeNumber width) (littleEndian width) number := by
  intro rest
  have long : ¬ (littleEndian width number ++ rest).length < width := by
    rw [List.length_append, length_littleEndian]
    omega
  unfold takeNumber
  rw [if_neg long, List.take_left' (length_littleEndian width number),
    List.drop_left' (length_littleEndian width number), number_littleEndian small]

/-- A count is read back. Every count that occurs in memory is small enough. -/
theorem readBack_count {count : Nat} (small : count < countBound) :
    ReadBack (takeNumber 8) writeCount count := by
  unfold countBound at small
  exact readBack_number small

/-- A signed word is read back. No bound is needed: a signed word has eight bytes, negative
or not. -/
theorem readBack_word (word : Int64) : ReadBack takeWord writeWord word := by
  intro rest
  have small : word.toUInt64.toNat < Nat.pow 256 8 := word.toUInt64.toNat_lt
  have same : word.toUInt64.toNat.toUInt64.toInt64 = word := by simp
  unfold takeWord writeWord
  rw [(readBack_number small).bind]
  simp only [same, pure, Except.pure]

/-- The bytes of a text spell that text. A text is valid in its encoding, so nothing is refused. -/
theorem ofBytes_toByteArray (text : String) :
    Text.Utf8.ofBytes text.toByteArray.data.toList = .ok text := by
  have valid : text.toByteArray.IsValidUTF8 := text.isValidUTF8
  have spelled : String.fromUTF8? text.toByteArray = some text := dif_pos valid
  unfold Text.Utf8.ofBytes
  simp only [Array.toArray_toList, spelled]

/-- A text is no longer than a snapshot can tell. What is counted are its bytes, not its
characters. -/
def TextFits (text : String) : Prop := text.toByteArray.data.toList.length < countBound

/-- A text is read back.

Proof: the length is read first, and as many bytes are there to be taken; they spell the text. -/
theorem readBack_text {text : String} (fits : TextFits text) : ReadBack takeText writeText text := by
  intro rest
  have long : ¬ (text.toByteArray.data.toList ++ rest).length <
      text.toByteArray.data.toList.length := by
    rw [List.length_append]
    omega
  unfold takeText writeText
  dsimp only
  rw [List.append_assoc, (readBack_count fits).bind]
  simp only [long, if_false, List.take_left, List.drop_left, ofBytes_toByteArray]
  rfl

/-- What a flag holds is no longer than a snapshot can tell. A truth value takes one byte behind
its tag. -/
def FlagFits : Flag → Prop
  | .bool _ => True
  | .text value => TextFits value

/-- A flag is read back.

Proof: the tag is read first, and it is the only difference between the two kinds of flags. -/
theorem readBack_flag {flag : Flag} (fits : FlagFits flag) : ReadBack takeFlag writeFlag flag := by
  intro rest
  unfold takeFlag
  cases flag with
  | bool value =>
    have tag := readBack_number (by decide : 0 < Nat.pow 256 4)
    have byte : ReadBack (takeNumber 1) (littleEndian 1) value.toNat := by
      cases value <;> exact readBack_number (by decide)
    have written : writeFlag (.bool value) = littleEndian 4 0 ++ littleEndian 1 value.toNat := by
      cases value <;> rfl
    simp only [written, List.append_assoc, tag.bind, byte.bind]
    cases value <;> rfl
  | text value =>
    have tag := readBack_number (by decide : 1 < Nat.pow 256 4)
    simp only [writeFlag, List.append_assoc, tag.bind, (readBack_text fits).bind]
    rfl

/-- An entry is read back if its name and its value are. The name stands in front, with its own
length. -/
theorem readBack_entry {α : Type} {take : Taker α} {write : α → Bytes} {entry : String × α}
    (name : TextFits entry.1) (value : ReadBack take write entry.2) :
    ReadBack (takeEntry take) (writeEntry write) entry := by
  intro rest
  unfold takeEntry writeEntry
  simp only [List.append_assoc, (readBack_text name).bind, value.bind]
  rfl

/-- Things are read back one after another. How many there are must be known to the reader.

Proof: by induction on the things: each leaves what follows it to the next one. -/
theorem takeSeveral_flatMap {α : Type} {take : Taker α} {write : α → Bytes} {things : List α}
    (each : ∀ thing ∈ things, ReadBack take write thing) (rest : Bytes) :
    takeSeveral take things.length (things.flatMap write ++ rest) = .ok (things, rest) := by
  induction things with
  | nil => rfl
  | cons first others inductionHypothesis =>
    have head := each first List.mem_cons_self
    have tail := inductionHypothesis fun thing member => each thing (List.mem_cons_of_mem _ member)
    simp only [List.flatMap_cons, List.append_assoc, List.length_cons, takeSeveral, head.bind]
    rw [tail]
    rfl

/-- Things with their count are read back, if the count is not too large. The count stands in
front, so the reader knows how many to take. -/
theorem readBack_all {α : Type} {take : Taker α} {write : α → Bytes} {things : List α}
    (few : things.length < countBound) (each : ∀ thing ∈ things, ReadBack take write thing) :
    ReadBack (takeAll take) (writeAll write) things := by
  intro rest
  unfold takeAll writeAll
  rw [List.append_assoc, (readBack_count few).bind]
  exact takeSeveral_flatMap each rest

/-! ## States -/

/-- No count and no text of a state is more than a snapshot can tell. Nothing is asked of the
clock, which always has the same bytes. -/
structure Fits (state : State) : Prop where
  flagCount : state.flags.size < countBound
  flags : ∀ entry ∈ state.flags.entries, TextFits entry.1 ∧ FlagFits entry.2
  itemCount : state.inventory.length < countBound
  items : ∀ item ∈ state.inventory, TextFits item
  playerName : TextFits state.playerName
  currentScene : TextFits state.currentScene
  fieldCount : state.fields.size < countBound
  fields : ∀ entry ∈ state.fields.entries, TextFits entry.1 ∧ TextFits entry.2

instance : DecidablePred TextFits := fun _ => inferInstanceAs (Decidable (_ < countBound))

instance : DecidablePred FlagFits
  | .bool _ => isTrue trivial
  | .text value => inferInstanceAs (Decidable (TextFits value))

/-- Whether a state fits can be computed. -/
instance (state : State) : Decidable (Fits state) :=
  decidable_of_iff
    (state.flags.size < countBound ∧
      (∀ entry ∈ state.flags.entries, TextFits entry.1 ∧ FlagFits entry.2) ∧
      state.inventory.length < countBound ∧ (∀ item ∈ state.inventory, TextFits item) ∧
      TextFits state.playerName ∧ TextFits state.currentScene ∧
      state.fields.size < countBound ∧
      ∀ entry ∈ state.fields.entries, TextFits entry.1 ∧ TextFits entry.2)
    ⟨fun ⟨flagCount, flags, itemCount, items, playerName, currentScene, fieldCount, fields⟩ =>
        ⟨flagCount, flags, itemCount, items, playerName, currentScene, fieldCount, fields⟩,
      fun fits => ⟨fits.flagCount, fits.flags, fits.itemCount, fits.items, fits.playerName,
        fits.currentScene, fits.fieldCount, fits.fields⟩⟩

/-- Bytes save a state: they are written for it, with its flags and its extra fields in some order.
The order of the items is part of the state, so these stand in their own. -/
def Saves (bytes : Bytes) (state : State) : Prop :=
  ∃ flags fields, flags.Perm state.flags.entries ∧ fields.Perm state.fields.entries ∧
    bytes = writeInOrder flags fields state

/-- What is written for a state in the order of the names saves it. That order is one of
the many. -/
theorem saves_write (state : State) : Saves (write state) state := by
  refine ⟨state.flags.entries, state.fields.entries, ?flags, ?fields, ?written⟩
  case flags => exact .refl _
  case fields => exact .refl _
  case written => rfl

/-- The entries of a table are read back in any order, if they fit. Which order they are in is not
written anywhere. -/
theorem readBack_entries {α : Type} {take : Taker α} {write : α → Bytes} {fits : α → Prop}
    (value : ∀ {thing}, fits thing → ReadBack take write thing) {table : Table α}
    {entries : List (String × α)} (listed : entries.Perm table.entries)
    (few : table.size < countBound)
    (each : ∀ entry ∈ table.entries, TextFits entry.1 ∧ fits entry.2) :
    ReadBack (takeAll (takeEntry take)) (writeAll (writeEntry write)) entries := by
  refine readBack_all (listed.length_eq ▸ few) fun entry member => ?_
  obtain ⟨nameFits, valueFits⟩ := each entry (listed.mem_iff.mp member)
  exact readBack_entry nameFits (value valueFits)

/-- Bytes that save a state that fits are read as that state, whatever follows them.

Proof: the parts are read back one after another, each as soon as those in front of it are. The
entries read are those of the tables in some order, and a table does not depend on the order in
which it was filled. -/
theorem read_of_saves {bytes : Bytes} {state : State} (saves : Saves bytes state)
    (fits : Fits state) (rest : Bytes) : read (bytes ++ rest) = .ok state := by
  obtain ⟨flags, fields, flagsListed, fieldsListed, rfl⟩ := saves
  have flagsRead := readBack_entries readBack_flag flagsListed fits.flagCount fits.flags
  have itemsRead := readBack_all fits.itemCount fun item member =>
    readBack_text (fits.items item member)
  have fieldsRead := readBack_entries readBack_text fieldsListed fits.fieldCount fits.fields
  unfold read writeInOrder
  simp only [List.append_assoc, flagsRead.bind, itemsRead.bind, (readBack_word _).bind,
    (readBack_text fits.playerName).bind, (readBack_text fits.currentScene).bind,
    fieldsRead.bind, Table.ofList_of_perm flagsListed, Table.ofList_of_perm fieldsListed]
  rfl

/-! ## Snapshots whose bytes can be counted -/

/-- A text is written behind the eight bytes of its length. The length has eight bytes also where
it is zero. -/
theorem length_writeText (text : String) :
    (writeText text).length = 8 + text.toByteArray.data.toList.length := by
  simp only [writeText, writeCount, List.length_append, length_littleEndian]

/-- A text is shorter than what is written for it. This is all that is needed of a text in a
snapshot that can be counted. -/
theorem textFits_of_length {text : String} (short : (writeText text).length < countBound) :
    TextFits text := by
  rw [length_writeText] at short
  unfold TextFits
  omega

/-- Things that are written in at least one byte each are no more than the bytes written, and none
of them is written in more bytes than all.

Proof: by induction on the things: the first one takes at least one byte, and the others no more
than what is left. -/
theorem length_writeAll {α : Type} {write : α → Bytes} {things : List α}
    (some : ∀ thing ∈ things, 0 < (write thing).length) :
    things.length ≤ (writeAll write things).length ∧
      ∀ thing ∈ things, (write thing).length ≤ (writeAll write things).length := by
  have bytes : (writeAll write things).length = 8 + (things.flatMap write).length := by
    simp only [writeAll, writeCount, List.length_append, length_littleEndian]
  have body : things.length ≤ (things.flatMap write).length ∧
      ∀ thing ∈ things, (write thing).length ≤ (things.flatMap write).length := by
    clear bytes
    induction things with
    | nil => exact ⟨Nat.le_refl 0, fun thing member => absurd member List.not_mem_nil⟩
    | cons first rest inductionHypothesis =>
      obtain ⟨few, each⟩ := inductionHypothesis fun thing member =>
        some thing (List.mem_cons_of_mem _ member)
      have positive := some first List.mem_cons_self
      rw [List.flatMap_cons, List.length_append, List.length_cons]
      refine ⟨by omega, fun thing member => ?_⟩
      rcases List.mem_cons.mp member with rfl | later
      · omega
      · have bounded := each thing later
        omega
  refine ⟨by omega, fun thing member => ?_⟩
  have bounded := body.2 thing member
  omega

/-- The entries of a table fit if they are written in bytes that can be counted. Each entry has the
length of its name in it, so it takes some bytes. -/
theorem entries_fit {α : Type} {write : α → Bytes} {fits : α → Prop}
    (value : ∀ thing, (write thing).length < countBound → fits thing) {table : Table α}
    {entries : List (String × α)} (listed : entries.Perm table.entries)
    (short : (writeAll (writeEntry write) entries).length < countBound) :
    table.size < countBound ∧ ∀ entry ∈ table.entries, TextFits entry.1 ∧ fits entry.2 := by
  have apart (entry : String × α) : (writeEntry write entry).length =
      (writeText entry.1).length + (write entry.2).length := List.length_append
  have some : ∀ entry ∈ entries, 0 < (writeEntry write entry).length := by
    intro entry _
    rw [apart, length_writeText]
    omega
  obtain ⟨few, each⟩ := length_writeAll some
  constructor
  · have size : table.size = entries.length := listed.length_eq.symm
    omega
  · intro entry member
    have bounded := each entry (listed.mem_iff.mpr member)
    rw [apart] at bounded
    exact ⟨textFits_of_length (by omega), value entry.2 (by omega)⟩

/-- A flag fits if it is written in bytes that can be counted. Of a truth value nothing is asked. -/
theorem flagFits_of_length {flag : Flag} (short : (writeFlag flag).length < countBound) :
    FlagFits flag := by
  cases flag with
  | bool value => trivial
  | text value =>
    rw [writeFlag, List.length_append] at short
    exact textFits_of_length (by omega)

/-- A state that is saved in bytes that can be counted fits.

Proof: every part of a snapshot is no longer than the whole of it. -/
theorem fits_of_saves {bytes : Bytes} {state : State} (saves : Saves bytes state)
    (short : bytes.length < countBound) : Fits state := by
  obtain ⟨flags, fields, flagsListed, fieldsListed, rfl⟩ := saves
  simp only [writeInOrder, List.length_append] at short
  have flagsShort : (writeAll (writeEntry writeFlag) flags).length < countBound := by omega
  have fieldsShort : (writeAll (writeEntry writeText) fields).length < countBound := by omega
  obtain ⟨flagCount, flagsFit⟩ :=
    entries_fit (fun _ => flagFits_of_length) flagsListed flagsShort
  obtain ⟨fieldCount, fieldsFit⟩ :=
    entries_fit (fun _ => textFits_of_length) fieldsListed fieldsShort
  have some : ∀ item ∈ state.inventory, 0 < (writeText item).length := by
    intro item _
    rw [length_writeText]
    omega
  obtain ⟨itemCount, items⟩ := length_writeAll some
  refine ⟨flagCount, flagsFit, by omega, fun item member => ?_, textFits_of_length (by omega),
    textFits_of_length (by omega), fieldCount, fieldsFit⟩
  have bounded := items item member
  exact textFits_of_length (by omega)

/-- A snapshot is read back as the state it was written for, in whatever order the flags and the
extra fields are enumerated and whatever bytes follow. All that is asked is that its bytes can be
counted, as those of every snapshot in memory can.

Nothing is assumed of the state itself: texts may be empty and hold any characters, items may stand
twice, and words may be negative.

Proof: a snapshot that can be counted has a state that fits, and a state that fits is read back. -/
theorem read_writeInOrder {state : State} {flags : List (String × Flag)}
    {fields : List (String × String)} (flagsListed : flags.Perm state.flags.entries)
    (fieldsListed : fields.Perm state.fields.entries)
    (short : (writeInOrder flags fields state).length < countBound) (trailing : Bytes) :
    read (writeInOrder flags fields state ++ trailing) = .ok state := by
  have saves : Saves (writeInOrder flags fields state) state :=
    ⟨flags, fields, flagsListed, fieldsListed, rfl⟩
  exact read_of_saves saves (fits_of_saves saves short) trailing

/-- A state with flags of both kinds, with items of which one has no name and one is held twice, at
the first minute of the last day. One extra field has no name. -/
def wanderer : State :=
  { flags := (Table.empty.insert "met 🦉" (.bool true)).insert "alias" (.text "Zoë\n"),
    inventory := ["Coin", "", "Coin"],
    day := Int64.maxValue, minutes := Int64.minValue, playerName := "Ω", currentScene := "",
    fields := Table.empty.insert "" "\x00" }

/-- The wanderer is read back with the flags in either order and three bytes behind. This is not
the order of their names. -/
theorem wanderer_read_back :
    let flags : List (String × Flag) := [("met 🦉", .bool true), ("alias", .text "Zoë\n")]
    flags.Perm wanderer.flags.entries ∧ flags ≠ wanderer.flags.entries ∧
      (writeInOrder flags wanderer.fields.entries wanderer).length < countBound ∧
      read (writeInOrder flags wanderer.fields.entries wanderer ++ [7, 0, 255]) = .ok wanderer := by
  intro flags
  have listed : flags.Perm wanderer.flags.entries := by decide
  have short : (writeInOrder flags wanderer.fields.entries wanderer).length < countBound := by
    decide +kernel
  exact ⟨listed, by decide, short, read_writeInOrder listed (.refl _) short [7, 0, 255]⟩

end Storyline.Snapshot
