import Storyline.Proofs.Json.Level
import Storyline.Proofs.State.Snapshot

/-!
# What a snapshot holds

A reading that succeeds has found what is written for the thing that it gives: nothing else is
taken for a number, a text or a flag, and nothing in between is passed over. So bytes that are
read as a state start with a snapshot of that state. Only in its tables there is some choice:
the entries stand in any order, and of several under one name the last one counts.
-/

namespace Storyline.Snapshot

open Json (ok_of_bind ok_of_mapError)

/-- What is read starts with what is written for it, and the rest is left. So the bytes are known
from the thing and the rest. -/
def TakesWritten {α : Type} (take : Taker α) (write : α → Bytes) : Prop :=
  ∀ ⦃bytes thing rest⦄, take bytes = .ok (thing, rest) → bytes = write thing ++ rest

/-- Bytes spell a state: they start with what is written for it, with entries for its flags and for
its extra fields that make them. The entries stand in any order, and of several under one name the
last one counts. -/
def Spells (bytes : Bytes) (state : State) : Prop :=
  ∃ flags fields rest, bytes = writeInOrder flags fields state ++ rest ∧
    Table.ofList flags = state.flags ∧ Table.ofList fields = state.fields

/-! ## Numbers -/

/-- The number that bytes spell is written as these bytes.

Proof: by induction on the bytes. The first one is the remainder of the number by 256. -/
theorem littleEndian_number (bytes : Bytes) : littleEndian bytes.length (number bytes) = bytes := by
  induction bytes with
  | nil => rfl
  | cons byte rest inductionHypothesis =>
    have bound : byte.toNat < 256 := byte.toNat_lt
    have spelled : number (byte :: rest) = byte.toNat + 256 * number rest := rfl
    have lowest : UInt8.ofNat (number (byte :: rest)) = byte := by
      apply UInt8.toNat_inj.mp
      rw [UInt8.toNat_ofNat', spelled]
      omega
    have higher : number (byte :: rest) / 256 = number rest := by
      rw [spelled]
      omega
    rw [List.length_cons, littleEndian, lowest, higher, inductionHypothesis]

/-- Bytes spell a number below the bound that their count sets. So a number that was read can be
written again in as many bytes. -/
theorem number_lt (bytes : Bytes) : number bytes < Nat.pow 256 bytes.length := by
  induction bytes with
  | nil => decide
  | cons byte rest inductionHypothesis =>
    have bound : byte.toNat < 256 := byte.toNat_lt
    have spelled : number (byte :: rest) = byte.toNat + 256 * number rest := rfl
    have power : Nat.pow 256 (byte :: rest).length = 256 * Nat.pow 256 rest.length :=
      Nat.pow_succ'
    omega

/-- A number that is read is within the bound that its width sets, and it is written so. Nothing is
asked of the number itself: all bytes spell one. -/
theorem ok_of_takeNumber {width number : Nat} {bytes rest : Bytes}
    (taken : takeNumber width bytes = .ok (number, rest)) :
    number < Nat.pow 256 width ∧ bytes = littleEndian width number ++ rest := by
  unfold takeNumber at taken
  by_cases short : bytes.length < width
  · rw [if_pos short] at taken
    cases taken
  · rw [if_neg short] at taken
    cases taken
    have width_eq : (bytes.take width).length = width := by
      rw [List.length_take]
      omega
    have small := number_lt (bytes.take width)
    have written := littleEndian_number (bytes.take width)
    rw [width_eq] at small written
    exact ⟨small, by rw [written, List.take_append_drop]⟩

/-- A signed word is read of what is written for it.

Proof: the word has the bits of the number read, and the number is below the bound of eight bytes,
so that none of it is lost. -/
theorem takesWritten_word : TakesWritten takeWord writeWord := by
  intro bytes word rest taken
  obtain ⟨⟨number, behind⟩, numberTaken, made⟩ := ok_of_bind taken
  cases made
  obtain ⟨small, written⟩ := ok_of_takeNumber numberTaken
  have same : number.toUInt64.toInt64.toUInt64.toNat = number := by
    rw [UInt64.toUInt64_toInt64, Nat.toUInt64_eq, UInt64.toNat_ofNat']
    exact Nat.mod_eq_of_lt small
  rw [writeWord, same]
  exact written

/-! ## Texts and flags -/

/-- Bytes that are taken as a text are the bytes of that text. Bytes that are not valid in the
encoding are refused, not mended. -/
theorem toByteArray_of_ofBytes {bytes : Bytes} {text : String}
    (spelled : Text.Utf8.ofBytes bytes = .ok text) : text.toByteArray.data.toList = bytes := by
  unfold Text.Utf8.ofBytes String.fromUTF8? at spelled
  by_cases valid : ByteArray.IsValidUTF8 ⟨bytes.toArray⟩
  · rw [dif_pos valid] at spelled
    cases spelled
    rfl
  · rw [dif_neg valid] at spelled
    cases spelled

/-- A text is read of what is written for it.

Proof: the length tells how many bytes the text has, and these are taken as they are. -/
theorem takesWritten_text : TakesWritten takeText writeText := by
  intro bytes text rest taken
  obtain ⟨⟨length, behind⟩, lengthTaken, onward⟩ := ok_of_bind taken
  obtain ⟨-, rfl⟩ := ok_of_takeNumber lengthTaken
  dsimp only at onward
  by_cases short : behind.length < length
  · rw [if_pos short] at onward
    cases onward
  · rw [if_neg short] at onward
    obtain ⟨spelled, decoded, made⟩ := ok_of_bind onward
    cases made
    have body := toByteArray_of_ofBytes (ok_of_mapError decoded)
    have counted : (behind.take length).length = length := by
      rw [List.length_take]
      omega
    rw [writeText]
    rw [body, counted, List.append_assoc, List.take_append_drop, writeCount]

/-- A flag is read of what is written for it.

Proof: by cases of the tag. Any other tag is refused, and so is a byte behind the first tag that is
neither zero nor one. -/
theorem takesWritten_flag : TakesWritten takeFlag writeFlag := by
  intro bytes flag rest taken
  obtain ⟨⟨tag, behind⟩, tagTaken, onward⟩ := ok_of_bind taken
  obtain ⟨-, rfl⟩ := ok_of_takeNumber tagTaken
  dsimp only at onward
  split at onward
  · obtain ⟨⟨value, more⟩, valueTaken, decided⟩ := ok_of_bind onward
    obtain ⟨-, rfl⟩ := ok_of_takeNumber valueTaken
    dsimp only at decided
    by_cases isFalse : value = 0
    · rw [if_pos isFalse] at decided
      cases decided
      rw [isFalse, ← List.append_assoc]
      rfl
    · by_cases isTrue : value = 1
      · rw [if_neg isFalse, if_pos isTrue] at decided
        cases decided
        rw [isTrue, ← List.append_assoc]
        rfl
      · rw [if_neg isFalse, if_neg isTrue] at decided
        cases decided
  · obtain ⟨⟨value, more⟩, valueTaken, made⟩ := ok_of_bind onward
    cases made
    rw [takesWritten_text valueTaken, writeFlag, List.append_assoc]
  · cases onward

/-! ## Several things -/

variable {α : Type} {take : Taker α} {write : α → Bytes}

/-- A named thing is read of what is written for it, if the thing is. The name may be any text. -/
theorem TakesWritten.entry (written : TakesWritten take write) :
    TakesWritten (takeEntry take) (writeEntry write) := by
  intro bytes entry rest taken
  obtain ⟨⟨name, behind⟩, nameTaken, onward⟩ := ok_of_bind taken
  obtain ⟨⟨value, more⟩, valueTaken, made⟩ := ok_of_bind onward
  cases made
  rw [takesWritten_text nameTaken, written valueTaken, writeEntry, List.append_assoc]

/-- Several things are read of what is written for each of them, as many as asked for.

Proof: by induction on how many are asked for. -/
theorem TakesWritten.several (written : TakesWritten take write) {count : Nat} {bytes rest : Bytes}
    {things : List α} (taken : takeSeveral take count bytes = .ok (things, rest)) :
    things.length = count ∧ bytes = things.flatMap write ++ rest := by
  induction count generalizing bytes things with
  | zero =>
    cases taken
    exact ⟨rfl, rfl⟩
  | succ count inductionHypothesis =>
    obtain ⟨⟨first, behind⟩, firstTaken, onward⟩ := ok_of_bind taken
    obtain ⟨⟨others, more⟩, othersTaken, made⟩ := ok_of_bind onward
    cases made
    obtain ⟨counted, spelled⟩ := inductionHypothesis othersTaken
    constructor
    · rw [List.length_cons, counted]
    · rw [written firstTaken, spelled, List.flatMap_cons, List.append_assoc]

/-- Things with their count are read of what is written for them. The count read is their count. -/
theorem TakesWritten.all (written : TakesWritten take write) :
    TakesWritten (takeAll take) (writeAll write) := by
  intro bytes things rest taken
  obtain ⟨⟨count, behind⟩, countTaken, onward⟩ := ok_of_bind taken
  obtain ⟨-, rfl⟩ := ok_of_takeNumber countTaken
  obtain ⟨counted, spelled⟩ := written.several onward
  rw [writeAll, counted, writeCount, spelled, List.append_assoc]

/-! ## States -/

/-- Bytes that are read as a state spell it. What follows the snapshot is not looked at and may be
anything.

Proof: every part is read of what is written for it, and the parts come one after another, in the
order they are written in. -/
theorem spells_of_read {bytes : Bytes} {state : State} (taken : read bytes = .ok state) :
    Spells bytes state := by
  obtain ⟨⟨flags, _⟩, flagsTaken, onward⟩ := ok_of_bind taken
  obtain ⟨⟨inventory, _⟩, inventoryTaken, onward⟩ := ok_of_bind onward
  obtain ⟨⟨day, _⟩, dayTaken, onward⟩ := ok_of_bind onward
  obtain ⟨⟨minutes, _⟩, minutesTaken, onward⟩ := ok_of_bind onward
  obtain ⟨⟨playerName, _⟩, playerNameTaken, onward⟩ := ok_of_bind onward
  obtain ⟨⟨currentScene, _⟩, currentSceneTaken, onward⟩ := ok_of_bind onward
  obtain ⟨⟨fields, rest⟩, fieldsTaken, made⟩ := ok_of_bind onward
  cases made
  refine ⟨flags, fields, rest, ?_, rfl, rfl⟩
  rw [takesWritten_flag.entry.all flagsTaken, takesWritten_text.all inventoryTaken,
    takesWritten_word dayTaken, takesWritten_word minutesTaken, takesWritten_text playerNameTaken,
    takesWritten_text currentSceneTaken, takesWritten_text.entry.all fieldsTaken]
  simp only [writeInOrder, List.append_assoc]

end Storyline.Snapshot
