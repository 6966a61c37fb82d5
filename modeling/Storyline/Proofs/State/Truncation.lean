import Storyline.Proofs.State.Snapshot

/-!
# Truncated snapshots are refused

A snapshot that lacks any of its last bytes is refused, wherever it was cut off: the bytes
then end in the middle of a number or of a text, and the reader says so. None of the parts
has a default that could take the place of what was lost, not even the extra fields behind
all others.

A part that is cut short is refused on its own. Parts one after another are read up to the
one that was cut short, and then refused with it.
-/

namespace Storyline.Snapshot

/-- Bytes without some of their last ones. At least one byte is missing, and possibly all. -/
def IsCut (cut whole : Bytes) : Prop := cut <+: whole ∧ cut ≠ whole

/-- A reading fails since the bytes end in the middle of a number or of a text. No other failure
and no success counts as such. -/
def EndsEarly {α : Type} (found : Except Failure α) : Prop :=
  found = .error .endOfNumber ∨ found = .error .endOfText

/-- What is written for a thing is refused if it is cut short. This is said of every cut, also of
the empty one. -/
def RefusesCuts {α : Type} (take : Taker α) (write : α → Bytes) (thing : α) : Prop :=
  ∀ cut, IsCut cut (write thing) → EndsEarly (take cut)

variable {cut first rest : Bytes}

/-- A cut is shorter than the whole. A part of the same length would be the whole. -/
theorem IsCut.length_lt (isCut : IsCut cut rest) : cut.length < rest.length := by
  obtain ⟨start, short⟩ := isCut
  exact Nat.lt_of_le_of_ne start.length_le fun same => short (start.eq_of_length same)

/-- Nothing can be cut off from no bytes. So where nothing was written, nothing can be missing. -/
theorem not_isCut_nil : ¬ IsCut cut [] := by
  intro isCut
  exact Nat.not_lt_zero _ isCut.length_lt

/-- Two parts are cut in the first one, or in the second one behind the whole first one. A cut
between the two is one in the second part, which is then missing as a whole. -/
theorem isCut_append (isCut : IsCut cut (first ++ rest)) :
    IsCut cut first ∨ ∃ behind, cut = first ++ behind ∧ IsCut behind rest := by
  obtain ⟨⟨lost, whole⟩, short⟩ := isCut
  rcases List.append_eq_append_iff.mp whole with ⟨missing, inFirst, -⟩ | ⟨behind, rfl, inRest⟩
  · by_cases same : cut = first
    · refine Or.inr ⟨[], by rw [List.append_nil, same], List.nil_prefix, ?_⟩
      rintro rfl
      exact short (same.trans (List.append_nil first).symm)
    · exact Or.inl ⟨⟨missing, inFirst.symm⟩, same⟩
  · refine Or.inr ⟨behind, rfl, ⟨lost, inRest.symm⟩, ?_⟩
    rintro rfl
    exact short rfl

/-- A reading that ends early in its first part ends early. The failure is passed on as it is. -/
theorem EndsEarly.bind {α β : Type} {found : Except Failure α} (ends : EndsEarly found)
    (next : α → Except Failure β) : EndsEarly (found >>= next) := by
  rcases ends with rfl | rfl
  · exact Or.inl rfl
  · exact Or.inr rfl

/-- A part and what follows it are refused if they are cut short: within the part by itself, and
behind it by what reads on.

Proof: the cut is either in the part itself, which is refused, or behind it. Then the part is read
back, and what reads on sees a cut of what follows. -/
theorem RefusesCuts.bind {α β : Type} {take : Taker α} {write : α → Bytes} {thing : α}
    (refuses : RefusesCuts take write thing) (readBack : ReadBack take write thing)
    {next : α × Bytes → Except Failure β}
    (onward : ∀ behind, IsCut behind rest → EndsEarly (next (thing, behind)))
    (isCut : IsCut cut (write thing ++ rest)) : EndsEarly (take cut >>= next) := by
  rcases isCut_append isCut with inside | ⟨behind, rfl, later⟩
  · exact (refuses cut inside).bind next
  · rw [readBack.bind]
    exact onward behind later

/-- The last part is refused if it is cut short. Nothing follows it in which the cut could be. -/
theorem RefusesCuts.bind_last {α β : Type} {take : Taker α} {write : α → Bytes} {thing : α}
    (refuses : RefusesCuts take write thing) {next : α × Bytes → Except Failure β}
    (isCut : IsCut cut (write thing)) : EndsEarly (take cut >>= next) := by
  have ends := refuses cut isCut
  exact ends.bind next

/-! ## Parts -/

/-- A number that is cut short is refused. Fewer bytes are left than its width asks for. -/
theorem refusesCuts_number (width number : Nat) :
    RefusesCuts (takeNumber width) (littleEndian width) number := by
  intro cut isCut
  have short := isCut.length_lt
  rw [length_littleEndian] at short
  exact Or.inl (if_pos short)

/-- A word that is cut short is refused. A word has the bytes of a number. -/
theorem refusesCuts_word (word : Int64) : RefusesCuts takeWord writeWord word := by
  intro cut isCut
  exact (refusesCuts_number 8 word.toUInt64.toNat).bind_last isCut

/-- A text that is cut short is refused: in its length, or because fewer bytes are left than the
length tells. Nothing of what is left is looked at before that, so a character that was cut in two
does not come into it. -/
theorem refusesCuts_text {text : String} (fits : TextFits text) :
    RefusesCuts takeText writeText text := by
  intro cut isCut
  refine (refusesCuts_number 8 _).bind (readBack_count fits) (fun behind later => ?_) isCut
  exact Or.inr (if_pos later.length_lt)

/-- A flag that is cut short is refused.

Proof: by cases of what it holds. A cut is in the tag, or behind it in what the tag announces. -/
theorem refusesCuts_flag {flag : Flag} (fits : FlagFits flag) :
    RefusesCuts takeFlag writeFlag flag := by
  intro cut isCut
  cases flag with
  | bool value =>
    have tag := readBack_number (by decide : 0 < Nat.pow 256 4)
    refine (refusesCuts_number 4 0).bind tag (fun behind later => ?_) isCut
    have byte : [if value then 1 else 0] = littleEndian 1 value.toNat := by cases value <;> rfl
    rw [byte] at later
    exact (refusesCuts_number 1 value.toNat).bind_last later
  | text value =>
    have tag := readBack_number (by decide : 1 < Nat.pow 256 4)
    refine (refusesCuts_number 4 1).bind tag (fun behind later => ?_) isCut
    exact (refusesCuts_text fits).bind_last later

/-- An entry that is cut short is refused if its name and its value are. Of the name it is asked
only that its length can be told. -/
theorem refusesCuts_entry {α : Type} {take : Taker α} {write : α → Bytes} {entry : String × α}
    (name : TextFits entry.1) (value : RefusesCuts take write entry.2) :
    RefusesCuts (takeEntry take) (writeEntry write) entry := by
  intro cut isCut
  refine (refusesCuts_text name).bind (readBack_text name) (fun behind later => ?_) isCut
  exact value.bind_last later

/-- Things one after another are refused if the last bytes of all are missing, as long as each of
them is read back and refused if it is cut short.

Proof: by induction on the things. The first one is refused if the cut is in it, and else it is
read back and the others are refused. -/
theorem takeSeveral_endsEarly {α : Type} {take : Taker α} {write : α → Bytes} {things : List α}
    (readBack : ∀ thing ∈ things, ReadBack take write thing)
    (refuses : ∀ thing ∈ things, RefusesCuts take write thing)
    (isCut : IsCut cut (things.flatMap write)) : EndsEarly (takeSeveral take things.length cut) := by
  induction things generalizing cut with
  | nil => exact absurd isCut not_isCut_nil
  | cons thing others inductionHypothesis =>
    have onward : ∀ behind, IsCut behind (others.flatMap write) →
        EndsEarly (takeSeveral take others.length behind) := fun behind later =>
      inductionHypothesis (fun other member => readBack other (List.mem_cons_of_mem _ member))
        (fun other member => refuses other (List.mem_cons_of_mem _ member)) later
    refine (refuses thing List.mem_cons_self).bind (readBack thing List.mem_cons_self)
      (fun behind later => ?_) isCut
    exact (onward behind later).bind _

/-- Things with their count are refused if they are cut short. The count in front tells the reader
how many are to come, so a missing one is noticed. -/
theorem refusesCuts_all {α : Type} {take : Taker α} {write : α → Bytes} {things : List α}
    (few : things.length < countBound) (readBack : ∀ thing ∈ things, ReadBack take write thing)
    (refuses : ∀ thing ∈ things, RefusesCuts take write thing) :
    RefusesCuts (takeAll take) (writeAll write) things := by
  intro cut isCut
  refine (refusesCuts_number 8 _).bind (readBack_count few) (fun behind later => ?_) isCut
  exact takeSeveral_endsEarly readBack refuses later

/-- The entries of a table are refused if they are cut short, in whatever order they stand. The
order is not known to the reader, which makes no use of it. -/
theorem refusesCuts_entries {α : Type} {take : Taker α} {write : α → Bytes} {fits : α → Prop}
    (readBack : ∀ {thing}, fits thing → ReadBack take write thing)
    (refuses : ∀ {thing}, fits thing → RefusesCuts take write thing) {table : Table α}
    {entries : List (String × α)} (listed : entries.Perm table.entries)
    (few : table.size < countBound)
    (each : ∀ entry ∈ table.entries, TextFits entry.1 ∧ fits entry.2) :
    RefusesCuts (takeAll (takeEntry take)) (writeAll (writeEntry write)) entries := by
  refine refusesCuts_all (listed.length_eq ▸ few) (fun entry member => ?_) fun entry member => ?_
  · obtain ⟨nameFits, valueFits⟩ := each entry (listed.mem_iff.mp member)
    exact readBack_entry nameFits (readBack valueFits)
  · obtain ⟨nameFits, valueFits⟩ := each entry (listed.mem_iff.mp member)
    exact refusesCuts_entry nameFits (refuses valueFits)

/-! ## States -/

/-- Bytes that save a state are refused if any of the last ones are missing. The reader finds the
end of the bytes in the middle of a number or of a text, and never a state.

It is assumed only that the bytes can be counted.

Proof: the parts are looked at from the front. A part in which the cut is ends early; a part in
front of the cut is read back and leaves a cut of the parts behind it. The cut is in one of them,
the last one at the latest. -/
theorem read_of_truncated {bytes : Bytes} {state : State} (saves : Saves bytes state)
    (short : bytes.length < countBound) {cut : Bytes} (start : cut <+: bytes)
    (missing : cut ≠ bytes) :
    read cut = .error .endOfNumber ∨ read cut = .error .endOfText := by
  have fits := fits_of_saves saves short
  have isCut : IsCut cut bytes := ⟨start, missing⟩
  obtain ⟨flags, fields, flagsListed, fieldsListed, rfl⟩ := saves
  have flagsRead := readBack_entries readBack_flag flagsListed fits.flagCount fits.flags
  have flagsRefused := refusesCuts_entries readBack_flag refusesCuts_flag flagsListed
    fits.flagCount fits.flags
  have itemsRead := readBack_all fits.itemCount fun item member =>
    readBack_text (fits.items item member)
  have itemsRefused := refusesCuts_all fits.itemCount
    (fun item member => readBack_text (fits.items item member))
    (fun item member => refusesCuts_text (fits.items item member))
  have fieldsRefused := refusesCuts_entries readBack_text refusesCuts_text fieldsListed
    fits.fieldCount fits.fields
  simp only [writeInOrder, List.append_assoc] at isCut
  -- Each part is passed if the cut is behind it; the extra fields come last.
  refine flagsRefused.bind flagsRead (fun cut isCut => ?_) isCut
  refine itemsRefused.bind itemsRead (fun cut isCut => ?_) isCut
  refine (refusesCuts_word _).bind (readBack_word _) (fun cut isCut => ?_) isCut
  refine (refusesCuts_word _).bind (readBack_word _) (fun cut isCut => ?_) isCut
  refine (refusesCuts_text fits.playerName).bind (readBack_text fits.playerName)
    (fun cut isCut => ?_) isCut
  refine (refusesCuts_text fits.currentScene).bind (readBack_text fits.currentScene)
    (fun cut isCut => ?_) isCut
  exact fieldsRefused.bind_last isCut

/-- The snapshot of the wanderer is refused where only its extra fields are missing. The cut is at
the end of a part: nothing stands in front of it that is not whole. -/
theorem wanderer_refused_without_fields :
    let bytes := write wanderer
    let fields := writeAll (writeEntry writeText) wanderer.fields.entries
    let cut := bytes.take (bytes.length - fields.length)
    Saves bytes wanderer ∧ bytes.length < countBound ∧ bytes = cut ++ fields ∧ cut ≠ bytes ∧
      (read cut = .error .endOfNumber ∨ read cut = .error .endOfText) := by
  intro bytes fields cut
  have saves : Saves bytes wanderer := saves_write wanderer
  have short : bytes.length < countBound := by decide +kernel
  have whole : bytes = cut ++ fields := by decide +kernel
  have missing : cut ≠ bytes := by decide +kernel
  exact ⟨saves, short, whole, missing,
    read_of_truncated saves short ⟨fields, whole.symm⟩ missing⟩

end Storyline.Snapshot
