import Storyline.Proofs.Play.Truth
import Storyline.State.Document

/-!
# States as they are written

A state is written as an object, with its flags and its extra fields in any order, and read
back from it as it was. Whoever writes by hand may put any scalar in the place of a flag. A
number is then kept as the text that writes it out, and null is a flag that is not set; so what
has been read once is written as truth values and texts only, and is read as it is from then on.
-/

namespace Storyline

open Json

namespace Flag

/-- A scalar of any kind, or null for nothing. -/
def looseJson (scalar : Option Scalar) : Value := scalar.elim .null Scalar.toJson

/-- What a flag is when a scalar stands for it, or null. -/
def ofLoose (scalar : Option Scalar) : Flag := scalar.elim (.bool false) Scalar.stored

/-- The scalar that a flag is written as. -/
def scalar : Flag → Scalar
  | .bool value => .bool value
  | .text value => .text value

/-- A flag is written as its scalar. Texts stay texts here: a scalar that is a number is never what
a flag is written as. -/
theorem looseJson_scalar (flag : Flag) : looseJson (some flag.scalar) = flag.toJson := by
  cases flag <;> rfl

/-- A flag is what its scalar stands for. -/
theorem ofLoose_scalar (flag : Flag) : ofLoose (some flag.scalar) = flag := by
  cases flag <;> rfl

/-- A flag is taken from a scalar of any kind, and from null. The two kinds that a flag has are
kept as they are; a number becomes the text that writes it out, and null a flag that is not set. -/
theorem takes_looseJson (scalar : Option Scalar) :
    Flag.reader.Takes (looseJson scalar) (ofLoose scalar) := by
  apply Reader.takes_scalar
  cases scalar with
  | none => rfl
  | some scalar => exact scalar.asFlag_face

end Flag

namespace State

/-- The members of a state as it may be written by hand: with scalars of any kind in the place
of flags. -/
def looseMembers (flags : List (String × Option Scalar)) (fields : List (String × String))
    (state : State) : List (String × Value) :=
  [("flags", membersOf Flag.looseJson flags),
    ("inventory", .ofList .text state.inventory),
    ("dayIndex", .ofInt state.day.toInt),
    ("timeMinutes", .ofInt state.minutes.toInt),
    ("playerName", .text state.playerName),
    ("currentScene", .text state.currentScene),
    ("fields", membersOf .text fields)]

/-- A state as an object, with scalars of any kind in the place of flags. -/
def toLooseJson (flags : List (String × Option Scalar)) (fields : List (String × String))
    (state : State) : Value :=
  .object (state.looseMembers flags fields)

variable {state : State} {fields : List (String × String)}

/-- A text writes a state: it is written for it in some layout, with its flags and its extra
fields in some order. -/
def WrittenAs (state : State) (source : String) : Prop :=
  ∃ flags fields, ∃ layout : Layout, flags.Perm state.flags.entries ∧
    fields.Perm state.fields.entries ∧ layout.Spaced ∧
    source = String.ofList ((state.toJsonInOrder flags fields).write layout 0)

/-- A state that is written in any order is written with the scalars of its flags. So whatever is
shown of states written by hand holds of those that were saved. -/
theorem toJsonInOrder_eq (flags : List (String × Flag)) (fields : List (String × String))
    (state : State) : state.toJsonInOrder flags fields =
      state.toLooseJson (flags.map fun entry => (entry.1, some entry.2.scalar)) fields := by
  have same : membersOf Flag.looseJson (flags.map fun entry => (entry.1, some entry.2.scalar)) =
      membersOf Flag.toJson flags := by
    simp only [membersOf, List.map_map, Function.comp_def, Flag.looseJson_scalar]
  rw [toLooseJson, looseMembers, same, toJsonInOrder]

/-- Each part of a state is found under its name. No two parts answer to one name, so a member
never fills another part than its own. -/
theorem find?_parts : ∀ part ∈ parts, parts.find? (·.answersTo part.name) = some part := by
  simp only [parts, List.forall_mem_cons]
  exact ⟨rfl, rfl, rfl, rfl, rfl, rfl, rfl, List.forall_mem_nil _⟩

/-- A state is taken from an object with its flags and extra fields in any order, and with any
scalars that stand for its flags. Nothing is asked of the names of flags and fields: the entries
only have to be those of the state's tables, each once.

Proof: the members fill the seven parts one after another, each with what its own reader takes, and
every part that may not be absent is among them. -/
theorem takes_toLooseJson {flags : List (String × Option Scalar)}
    (flagsListed : (flags.map fun entry => (entry.1, Flag.ofLoose entry.2)).Perm
      state.flags.entries)
    (fieldsListed : fields.Perm state.fields.entries) :
    reader.Takes (state.toLooseJson flags fields) state := by
  have named : ∀ part ∈ parts, part.absence = .refused →
      ∃ member ∈ state.looseMembers flags fields,
        parts.find? (·.answersTo member.1) = some part := by
    intro part listed _
    have given : part.name ∈ (state.looseMembers flags fields).map Prod.fst :=
      List.mem_map_of_mem listed
    obtain ⟨member, among, same⟩ := List.mem_map.mp given
    exact ⟨member, among, same ▸ find?_parts part listed⟩
  obtain ⟨flagTable, inventory, day, minutes, playerName, currentScene, fieldTable⟩ := state
  have flagsTaken : (Reader.table Flag.reader).Takes (membersOf Flag.looseJson flags) flagTable :=
    Reader.takes_meant flagsListed fun entry _ => Flag.takes_looseJson entry.2
  have itemsTaken : (Reader.list Reader.text).Takes (.ofList .text inventory) inventory :=
    Reader.takes_list fun item _ => Reader.takes_text item
  have fieldsTaken : (Reader.table Reader.text).Takes (membersOf .text fields) fieldTable :=
    Reader.takes_entries fieldsListed fun entry _ => Reader.takes_text entry.2
  -- Each member fills the part of its name, and the parts before it have names of their own.
  have flagsFill := Reader.fills_member "flags" flagsTaken (rfl : parts.find? _ = some _) rfl rfl
    { day := 0, minutes := 0, playerName := "", currentScene := "" }
  have itemsFill := flagsFill.append
    (Reader.fills_member "inventory" itemsTaken rfl rfl rfl _) (by decide)
  have dayFills := itemsFill.append
    (Reader.fills_member "dayIndex" (Reader.takes_word day) rfl rfl rfl _) (by decide)
  have minutesFill := dayFills.append
    (Reader.fills_member "timeMinutes" (Reader.takes_word minutes) rfl rfl rfl _) (by decide)
  have nameFills := minutesFill.append
    (Reader.fills_member "playerName" (Reader.takes_text playerName) rfl rfl rfl _) (by decide)
  have sceneFills := nameFills.append
    (Reader.fills_member "currentScene" (Reader.takes_text currentScene) rfl rfl rfl _) (by decide)
  have fieldsFill := sceneFills.append
    (Reader.fills_member "fields" fieldsTaken rfl rfl rfl _) (by decide)
  exact Reader.takes_record_of_named fieldsFill named

/-- A state is written without floating-point numbers if what stands for its flags is. Days and
minutes are integers of 64 bits, and the rest is texts, so only the flags could bring such a number
in. -/
theorem exact_toLooseJson {flags : List (String × Option Scalar)}
    (each : ∀ entry ∈ flags, (Flag.looseJson entry.2).Exact) (fields : List (String × String))
    (state : State) : (state.toLooseJson flags fields).Exact := by
  have flagsExact : (membersOf Flag.looseJson flags).Exact := by
    refine .object fun member listed => ?_
    obtain ⟨entry, among, rfl⟩ := List.mem_map.mp listed
    exact each entry among
  have itemsExact : (Value.ofList .text state.inventory).Exact := by
    refine .array fun value listed => ?_
    obtain ⟨item, -, rfl⟩ := List.mem_map.mp listed
    exact .text item
  have fieldsExact : (membersOf .text fields).Exact := by
    refine .object fun member listed => ?_
    obtain ⟨entry, -, rfl⟩ := List.mem_map.mp listed
    exact .text entry.2
  refine .object ?_
  simp only [looseMembers, List.forall_mem_cons]
  exact ⟨flagsExact, itemsExact, exact_ofInt _, exact_ofInt _, .text _, .text _, fieldsExact,
    List.forall_mem_nil _⟩

/-- No reader stops at the nesting of a state. A state is one object with lists and tables of bare
values in it, which is two levels deep whatever they hold. -/
theorem shallow_toLooseJson (flags : List (String × Option Scalar))
    (fields : List (String × String)) (state : State) :
    (state.toLooseJson flags fields).Shallow 0 := by
  have flat {level : Nat} {value : Value} (entered : level ≤ 127) (bare : value.depth = 0) :
      value.Shallow level := by
    rw [Value.Shallow, bare]
    exact entered
  have flagsShallow : (membersOf Flag.looseJson flags).Shallow 1 := by
    refine Value.shallow_object (by decide) fun member listed => ?_
    obtain ⟨⟨name, scalar⟩, -, rfl⟩ := List.mem_map.mp listed
    apply flat (by decide)
    rcases scalar with _ | scalar
    · rfl
    · cases scalar <;> rfl
  have itemsShallow : (Value.ofList .text state.inventory).Shallow 1 := by
    refine Value.shallow_array (by decide) fun value listed => ?_
    obtain ⟨item, -, rfl⟩ := List.mem_map.mp listed
    exact flat (by decide) rfl
  have fieldsShallow : (membersOf .text fields).Shallow 1 := by
    refine Value.shallow_object (by decide) fun member listed => ?_
    obtain ⟨entry, -, rfl⟩ := List.mem_map.mp listed
    exact flat (by decide) rfl
  refine Value.shallow_object (by decide) ?_
  simp only [looseMembers, List.forall_mem_cons]
  exact ⟨flagsShallow, itemsShallow, flat (by decide) rfl, flat (by decide) rfl,
    flat (by decide) rfl, flat (by decide) rfl, fieldsShallow, List.forall_mem_nil _⟩

/-! ## Documents -/

/-- A document that spells a state with scalars for its flags is read as that state. -/
theorem document_of_spelledBy {flags : List (String × Option Scalar)} {source : String}
    (flagsListed : (flags.map fun entry => (entry.1, Flag.ofLoose entry.2)).Perm
      state.flags.entries)
    (fieldsListed : fields.Perm state.fields.entries)
    (spelled : (state.toLooseJson flags fields).SpelledBy source) :
    Reader.document reader source = .ok state := by
  have taken := takes_toLooseJson flagsListed fieldsListed
  have shallow := shallow_toLooseJson flags fields state
  exact Reader.document_of_spelledBy taken shallow spelled

/-- What is written for a state is read as that state. Flags and fields are in any order and blanks
stand anywhere, since both leave the value that is spelled the same. -/
theorem document_of_writtenAs {source : String} (written : state.WrittenAs source) :
    Reader.document reader source = .ok state := by
  obtain ⟨flags, fields, layout, flagsListed, fieldsListed, spaced, rfl⟩ := written
  have exact : (state.toJsonInOrder flags fields).Exact := by
    rw [toJsonInOrder_eq]
    refine exact_toLooseJson (fun entry listed => ?_) fields state
    obtain ⟨named, -, rfl⟩ := List.mem_map.mp listed
    rw [Flag.looseJson_scalar]
    exact named.2.exact_toJson
  have spelled := ofText_write spaced exact
  rw [toJsonInOrder_eq] at spelled ⊢
  refine document_of_spelledBy ?_ fieldsListed spelled
  rw [List.map_map]
  simpa only [Function.comp_def, Flag.ofLoose_scalar, Prod.eta, List.map_id'] using flagsListed

/-- What is written for a state, with its flags and extra fields in any order and in any layout,
is read as that state; both layouts in use write it so. In particular a state that was read of any
document whatever is read again of what is then written for it; this third part is the first one
at the states that documents hold, and asks nothing of the document beyond that. Where a document
has other scalars in the place of flags, the first reading has put texts in the place of numbers,
and a flag that is not set in the place of null.

Nothing is assumed of a state: any flags, counts at the ends of their range, texts with any
characters. Nothing is assumed of an order or a layout either, beyond that a layout puts blanks
only where JSON has room for them.

Proof: what is written spells the object of the state, the object is shallow enough for every
reader, and a table takes its entries in whatever order they are listed. -/
theorem documents_read_back :
    (∀ (state : State) (source : String), state.WrittenAs source →
        Reader.document reader source = .ok state) ∧
      (∀ state : State, state.WrittenAs state.toJson.compact ∧
        state.WrittenAs state.toJson.indented) ∧
      (∀ (source : String) (state : State), Reader.document reader source = .ok state →
        ∀ again, state.WrittenAs again → Reader.document reader again = .ok state) ∧
      ∀ (state : State) (flags : List (String × Option Scalar)) (fields : List (String × String))
        (source : String),
        (flags.map fun entry => (entry.1, Flag.ofLoose entry.2)).Perm state.flags.entries →
          fields.Perm state.fields.entries →
            (state.toLooseJson flags fields).SpelledBy source →
              Reader.document reader source = .ok state := by
  have readAsWritten (state : State) (source : String) (written : state.WrittenAs source) :
      Reader.document reader source = .ok state := document_of_writtenAs written
  have writes (state : State) : state.WrittenAs state.toJson.compact ∧
      state.WrittenAs state.toJson.indented := by
    constructor
    · exact ⟨_, _, _, .refl _, .refl _, spaced_compact, rfl⟩
    · exact ⟨_, _, _, .refl _, .refl _, spaced_indented, rfl⟩
  refine ⟨readAsWritten, writes, ?_, ?_⟩
  · -- Whatever document the state was read of, the new one is written for the state.
    intro source state _ again written
    exact readAsWritten state again written
  · intro state flags fields source flagsListed fieldsListed spelled
    exact document_of_spelledBy flagsListed fieldsListed spelled

/-- A keeper with flags of both kinds, one item held twice and one without a name, at the ends
of both counts. -/
def keeper : State :=
  { flags := ((Table.empty.insert "lamp" (.bool false)).insert "log" (.bool true)).insert
      "tide" (.text "5"),
    inventory := ["Oil", "", "Oil"], day := Int64.minValue, minutes := Int64.maxValue,
    playerName := "Zoë \"\n", currentScene := "lamp", fields := Table.empty.insert "motto" "" }

/-- A keeper whose tide is a number and whose lamp is null is read with a text and without a
light, and what is then written is another document of the same keeper. -/
theorem keeper_read_back :
    let flags := [("tide", some (.number (.integer 5))), ("log", some (.bool true)), ("lamp", none)]
    let fields := [("motto", "")]
    let loose := (keeper.toLooseJson flags fields).compact
    Reader.document reader loose = .ok keeper ∧ keeper.WrittenAs keeper.toJson.indented ∧
      Reader.document reader keeper.toJson.indented = .ok keeper := by
  intro flags fields loose
  obtain ⟨-, writes, again, loosely⟩ := documents_read_back
  have exact : ∀ entry ∈ flags, (Flag.looseJson entry.2).Exact := by
    simp only [flags, List.forall_mem_cons]
    exact ⟨.integer ⟨by decide, by decide⟩, .bool true, .null, List.forall_mem_nil _⟩
  have spelled : (keeper.toLooseJson flags fields).SpelledBy loose :=
    Value.spelledBy_compact (exact_toLooseJson exact fields keeper)
  have read : Reader.document reader loose = .ok keeper :=
    loosely keeper flags fields loose (by decide) (by decide) spelled
  have written := (writes keeper).2
  exact ⟨read, written, again loose keeper read _ written⟩

end State

end Storyline
