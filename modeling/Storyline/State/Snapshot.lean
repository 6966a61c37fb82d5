import Storyline.State.Basic
import Storyline.Text.Utf8

/-!
# Binary snapshots

A snapshot is a string of bytes. Numbers have a fixed width and come with their
lowest byte first: counts and lengths in eight bytes, tags in four, truth values
in one. A text is its length in bytes and its UTF-8 bytes; a table is a count and
its entries, of which the last one under a name counts. What follows the state is
not looked at.

Reading fails where the bytes end in the middle of a number or of a text, where
the bytes of a text are not UTF-8, and where a truth value or a tag has a value
that means nothing.
-/

namespace Storyline.Snapshot

/-- Why bytes hold no state. -/
inductive Failure where
  | endOfNumber
  | endOfText
  | notUtf8 (refused : Text.Utf8.Refused)
  | notBool (value : Nat)
  | notTag (value : Nat)
  deriving DecidableEq

/-- What failed, in words. -/
def Failure.cause : Failure → String
  | .endOfNumber => "io error: unexpected end of file"
  | .endOfText => "io error: "
  | .notUtf8 ⟨place, some length⟩ =>
    "string is not valid utf8: invalid utf-8 sequence of " ++ toString length ++
      " bytes from index " ++ toString place
  | .notUtf8 ⟨place, none⟩ =>
    "string is not valid utf8: incomplete utf-8 byte sequence from index " ++ toString place
  | .notBool value =>
    "invalid u8 while decoding bool, expected 0 or 1, found " ++ toString value
  | .notTag value =>
    "invalid value: integer `" ++ toString value ++ "`, expected variant index 0 <= i < 2"

/-- The failure in words. -/
def Failure.message (failure : Failure) : String := "snapshot error: " ++ failure.cause

/-- Bytes of a snapshot. -/
abbrev Bytes : Type := List UInt8

/-! ## Writing -/

/-- A number in some bytes, the lowest first. -/
def littleEndian : Nat → Nat → Bytes
  | 0, _ => []
  | width + 1, number => UInt8.ofNat number :: littleEndian width (number / 256)

/-- A count or a length. -/
def writeCount (number : Nat) : Bytes := littleEndian 8 number

/-- A signed word. -/
def writeWord (word : Int64) : Bytes := littleEndian 8 word.toUInt64.toNat

/-- A text: its length in bytes and its bytes. -/
def writeText (text : String) : Bytes :=
  let bytes := text.toByteArray.data.toList
  writeCount bytes.length ++ bytes

/-- A flag: tag zero for a truth value and one for a text. -/
def writeFlag : Flag → Bytes
  | .bool value => littleEndian 4 0 ++ [if value then 1 else 0]
  | .text value => littleEndian 4 1 ++ writeText value

/-- Some things with their count in front. -/
def writeAll {α : Type} (write : α → Bytes) (things : List α) : Bytes :=
  writeCount things.length ++ things.flatMap write

/-- A named thing. -/
def writeEntry {α : Type} (write : α → Bytes) (entry : String × α) : Bytes :=
  writeText entry.1 ++ write entry.2

/-- A state, with its flags and fields in a given order. -/
def writeInOrder (flags : List (String × Flag)) (fields : List (String × String))
    (state : State) : Bytes :=
  writeAll (writeEntry writeFlag) flags ++ writeAll writeText state.inventory ++
    writeWord state.day ++ writeWord state.minutes ++ writeText state.playerName ++
    writeText state.currentScene ++ writeAll (writeEntry writeText) fields

/-- A state, with its flags and fields in the order of their names. -/
def write (state : State) : Bytes := writeInOrder state.flags.entries state.fields.entries state

/-! ## Reading -/

/-- Reads a thing off the front of some bytes. -/
abbrev Taker (α : Type) : Type := Bytes → Except Failure (α × Bytes)

/-- The number that some bytes spell, the lowest first. -/
def number (bytes : Bytes) : Nat := bytes.foldr (fun byte rest => byte.toNat + 256 * rest) 0

/-- A number of a fixed width. -/
def takeNumber (width : Nat) : Taker Nat := fun bytes =>
  if bytes.length < width then .error .endOfNumber
  else .ok (number (bytes.take width), bytes.drop width)

/-- A signed word. -/
def takeWord : Taker Int64 := fun bytes => do
  let (number, rest) ← takeNumber 8 bytes
  return (number.toUInt64.toInt64, rest)

/-- A text. -/
def takeText : Taker String := fun bytes => do
  let (length, rest) ← takeNumber 8 bytes
  if rest.length < length then .error .endOfText
  else
    let text ← (Text.Utf8.ofBytes (rest.take length)).mapError .notUtf8
    return (text, rest.drop length)

/-- A flag. -/
def takeFlag : Taker Flag := fun bytes => do
  let (tag, rest) ← takeNumber 4 bytes
  match tag with
  | 0 => do
    let (value, rest) ← takeNumber 1 rest
    if value = 0 then return (.bool false, rest)
    else if value = 1 then return (.bool true, rest)
    else .error (.notBool value)
  | 1 => do
    let (value, rest) ← takeText rest
    return (.text value, rest)
  | tag => .error (.notTag tag)

/-- A named thing. -/
def takeEntry {α : Type} (take : Taker α) : Taker (String × α) := fun bytes => do
  let (name, rest) ← takeText bytes
  let (value, rest) ← take rest
  return ((name, value), rest)

/-- A number of things, one after another. -/
def takeSeveral {α : Type} (take : Taker α) : Nat → Taker (List α)
  | 0, bytes => .ok ([], bytes)
  | count + 1, bytes => do
    let (first, rest) ← take bytes
    let (others, rest) ← takeSeveral take count rest
    return (first :: others, rest)

/-- Things with their count in front. -/
def takeAll {α : Type} (take : Taker α) : Taker (List α) := fun bytes => do
  let (count, rest) ← takeNumber 8 bytes
  takeSeveral take count rest

/-- The state at the front of some bytes. -/
def read (bytes : Bytes) : Except Failure State := do
  let (flags, bytes) ← takeAll (takeEntry takeFlag) bytes
  let (inventory, bytes) ← takeAll takeText bytes
  let (day, bytes) ← takeWord bytes
  let (minutes, bytes) ← takeWord bytes
  let (playerName, bytes) ← takeText bytes
  let (currentScene, bytes) ← takeText bytes
  let (fields, _) ← takeAll (takeEntry takeText) bytes
  return { flags := Table.ofList flags, inventory, day, minutes, playerName, currentScene,
           fields := Table.ofList fields }

end Storyline.Snapshot
