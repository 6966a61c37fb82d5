import Storyline.Proofs.Play.Action
import Storyline.Proofs.Play.Substitution
import Storyline.Table.Lookup

/-!
# Typed texts in later texts

What a player types is kept under the variable of the scene that asks for it, and later texts
show it by a token. The variable decides where the text is kept, and the token decides where
its value is looked up; each of them is read by a table of its own, and the tables fit. The
player's name is shown by `player`, a flag by the variable itself, and so are the field for
the player's name and every extra field.

Some words have a meaning of their own as tokens, and no text is kept there: the short token
for the player's name, the time, the current scene, and the inventory. A text typed for one
of them becomes an extra field that no token shows, so all texts are told as before. Day and
clock take a number only, and show it in decimal.
-/

namespace Storyline

open Substitution

/-- The state fields that take a number. -/
def StateField.numeric : List String := ["dayIndex", "timeMinutes"]

namespace Substitution

/-- The tokens that show a part of the state which no typed text becomes under that name. -/
def shadowed : List String := ["player", "time", "currentScene", "inventory"]

/-- A token between its braces. -/
def braced (token : List Char) : String := String.ofList (Piece.token token).source

/-- The token by which a text typed for a variable is shown. -/
inductive ShownBy : Option String → List Char → Prop where
  | unnamed : ShownBy none "player".toList
  | empty : ShownBy (some "") "player".toList
  | flag {name : List Char} (word : Word name) :
      ShownBy (some (String.ofList ("flags.".toList ++ name))) ("flags.".toList ++ name)
  | named {name : List Char} (word : Word name)
      (textual : String.ofList name ∉ StateField.numeric)
      (apart : String.ofList name ∉ shadowed) : ShownBy (some (String.ofList name)) name

/-- There is no point in a word. So the name of a flag that is a word is kept whole, up to a point
that is not there. -/
theorem Word.pointless {name : List Char} (word : Word name) : '.' ∉ name := by
  intro member
  have letter := word.2 '.' member
  exact absurd letter (by decide)

/-- Extra fields under names that are reserved have no part in what tokens stand for. An extra
field of a reserved name may be there, and is never looked up.

Proof: by the rules of meaning. All but the last look at other parts of the state, and the last one
asks for a name that is not reserved. -/
theorem Means.of_fields {unset value : String} {state : State} {name : List Char}
    {fields : Table String} (means : Means unset { state with fields } name value)
    (same : ∀ known, known ∉ reserved → fields.get? known = state.fields.get? known) :
    Means unset state name value := by
  cases means with
  | player => exact .player
  | time => exact .time
  | setFlag word stored isSet => exact .setFlag word stored isSet
  | unsetFlag word notSet => exact .unsetFlag word notSet
  | playerName => exact .playerName
  | day => exact .day
  | minutes => exact .minutes
  | currentScene => exact .currentScene
  | inventory => exact .inventory
  | extra word free stored => exact .extra word free ((same _ free).symm.trans stored)

end Substitution

namespace State

variable {name : List Char}

/-! ## Where a typed text is kept -/

/-- A text typed for a flag becomes the flag. A flag's name that is no word is kept too, under the
part of it before the first point. -/
theorem store_flag (state : State) (word : Word name) (value : String) :
    (state.store (some (String.ofList ("flags.".toList ++ name))) value).2 =
      state.setFlag (String.ofList name) (.text value) := by
  have whole : name.takeWhile (· != '.') = name := by
    rw [List.takeWhile_eq_self_iff]
    intro c member
    rw [bne_iff_ne]
    rintro rfl
    exact word.pointless member
  have spelled : (String.ofList ("flags.".toList ++ name)).toList =
      'f' :: 'l' :: 'a' :: 'g' :: 's' :: '.' :: name := String.toList_ofList
  have named : (some (String.ofList ("flags.".toList ++ name))).filter (fun name => !name.isEmpty) =
      some (String.ofList ("flags.".toList ++ name)) := by simp
  unfold store
  simp only [named, spelled, whole]
  rfl

/-- A text typed for a word that is no state field becomes an extra field. A word has no point in
it, so it is not taken for the path of a flag either. -/
theorem store_extra (state : State) (word : Word name)
    (unfixed : StateField.named? (String.ofList name) = none) (value : String) :
    (state.store (some (String.ofList name)) value).2 =
      { state with fields := state.fields.insert (String.ofList name) value } := by
  have named : (some (String.ofList name)).filter (fun name => !name.isEmpty) =
      some (String.ofList name) := by simp [word.1]
  unfold store
  simp only [named]
  split
  · rename_i path spelled
    rw [String.toList_ofList] at spelled
    exact absurd (by simp [spelled]) word.pointless
  · rw [if_neg (by simp [unfixed])]

/-- A word is no state field if it is neither numeric nor that of the player's name. There are
three state fields, and these are their names. -/
theorem named?_eq_none {known : String} (textual : known ∉ StateField.numeric)
    (other : known ≠ "playerName") : StateField.named? known = none := by
  simp only [StateField.numeric, List.mem_cons, List.not_mem_nil, or_false, not_or] at textual
  obtain ⟨notDay, notMinutes⟩ := textual
  simp [StateField.named?, StateField.all, StateField.name, Ne.symm notDay, Ne.symm notMinutes,
    Ne.symm other]

/-- A text typed for a shadowed word becomes an extra field of that name. None of these words is
the name of a state field. -/
theorem store_shadowed (state : State) {known : String} (listed : known ∈ shadowed)
    (value : String) :
    (state.store (some known) value).2 =
      { state with fields := state.fields.insert known value } := by
  simp only [shadowed, List.mem_cons, List.not_mem_nil, or_false] at listed
  rcases listed with rfl | rfl | rfl | rfl <;> rfl

/-! ## What shows it -/

/-- The token of a variable stands for the text that was typed for it. The typed text must not be
empty, since a flag with the empty text is not set; a text typed at a scene never is.

Proof: by the tokens that show a variable. A name is written to the state field if it is the
player's, and otherwise to the extra field that the token looks up. -/
theorem means_store (state : State) {variableName : Option String} {token : List Char}
    (shown : ShownBy variableName token) {value : String} (written : value.isEmpty = false)
    (unset : String) : Means unset (state.store variableName value).2 token value := by
  cases shown with
  | unnamed => exact .player
  | empty => exact .player
  | @flag name word =>
    rw [store_flag state word]
    have stored : (state.setFlag (String.ofList name) (.text value)).flags.get?
        (String.ofList name) = some (.text value) := by simp [setFlag]
    exact .setFlag word stored (by simp [Flag.isSet, written])
  | named word textual apart =>
    by_cases same : String.ofList token = "playerName"
    · rw [String.ofList_eq.mp same, String.ofList_toList]
      exact .playerName
    · rw [store_extra state word (named?_eq_none textual same)]
      have free : String.ofList token ∉ reserved := by
        simp only [StateField.numeric, shadowed, reserved, List.mem_cons, List.not_mem_nil,
          or_false, not_or] at textual apart ⊢
        exact ⟨apart.1, apart.2.1, same, textual.1, textual.2, apart.2.2.1, apart.2.2.2⟩
      exact .extra word free (by simp)

/-- A text typed for a shadowed word changes the meaning of no token.

Proof: the two states differ in one extra field, and its name is reserved. -/
theorem means_store_shadowed (state : State) {known : String} (listed : known ∈ shadowed)
    (typed unset : String) (token : List Char) (value : String) :
    Means unset (state.store (some known) typed).2 token value ↔ Means unset state token value := by
  rw [store_shadowed state listed]
  have reservedName : known ∈ reserved := by
    simp only [shadowed, List.mem_cons, List.not_mem_nil, or_false] at listed
    rcases listed with rfl | rfl | rfl | rfl <;> decide
  have same (other : String) (free : other ∉ reserved) :
      (state.fields.insert known typed).get? other = state.fields.get? other := by
    rw [Table.get?_insert, if_neg]
    rintro rfl
    exact free reservedName
  constructor
  · exact fun means => means.of_fields same
  · intro means
    have kept : Means unset
        { { state with fields := state.fields.insert known typed } with fields := state.fields }
        token value := means
    exact kept.of_fields fun other free => (same other free).symm

end State

namespace Narrator

variable {narrator : Narrator} {state : State} {token : List Char} {value : String}

/-- A token is told by what it stands for wherever it stands in a text. What stands around it is
told as if the token were not there. -/
theorem tell_around (means : Means narrator.unsetFlagToken state token value)
    (front back : String) :
    narrator.tell state (front ++ braced token ++ back) =
      narrator.tell state front ++ value ++ narrator.tell state back := by
  have filled := fill_around means front.toList back.toList
  simp only [tell, substitute, braced, Piece.source, ← String.toList_inj, String.toList_append,
    String.toList_ofList]
  rw [← filled]
  simp only [List.append_assoc, List.cons_append, List.nil_append]

/-- A token alone is told by what it stands for. Nothing is told in front of it or behind it. -/
theorem tell_braced (means : Means narrator.unsetFlagToken state token value) :
    narrator.tell state (braced token) = value := by
  have alone := tell_around means "" ""
  have nothing : narrator.tell state "" = "" := by simp [tell, substitute, fill]
  simpa [nothing] using alone

/-- What is typed at a scene is kept without the blanks around it, and the link is followed from
the state so reached. In that state the token of the scene's variable is told as the typed text,
alone and wherever it stands in a text. A text typed for a shadowed word is kept too, but every
text is told as if it were not.

What is assumed is that the scene asks for a text and that the text is not blank; all others are
refused there. The text may hold braces, which are told as they were typed. Variables that are
neither shown by a token nor shadowed are left out, such as one with a point in its name, or the
two fields that take a number.

Proof: the token stands for what was kept, and a token is told by what it stands for wherever it
stands. For the last part, the state in which a text for a shadowed word is kept gives every token
the meaning that it had. -/
theorem typed_text_is_told (narrator : Narrator) (state : State) {node : InputNode}
    (input : String) (found : narrator.graph.node? state.currentScene = some (.input node))
    (something : (Text.trim input).isEmpty = false) :
    let typed := Text.trim input
    let kept := state.store node.variableName typed
    narrator.submit state input =
        (narrator.follow kept.2 state.currentScene node.next none).after kept.1 ∧
      (∀ token, ShownBy node.variableName token →
        narrator.tell kept.2 (braced token) = typed ∧
          ∀ front back : String, narrator.tell kept.2 (front ++ braced token ++ back) =
            narrator.tell kept.2 front ++ typed ++ narrator.tell kept.2 back) ∧
      ∀ name ∈ shadowed, node.variableName = some name →
        kept.2.fields.get? name = some typed ∧
          ∀ text, narrator.tell kept.2 text = narrator.tell state text := by
  intro typed kept
  refine ⟨submit_eq found something, fun token shown => ?_, fun name listed variableNamed => ?_⟩
  · have means : Means narrator.unsetFlagToken kept.2 token typed :=
      state.means_store shown something narrator.unsetFlagToken
    exact ⟨tell_braced means, tell_around means⟩
  · have stored : kept.2 = { state with fields := state.fields.insert name typed } := by
      simp only [kept, variableNamed]
      exact state.store_shadowed listed typed
    constructor
    · rw [stored]
      simp
    · intro text
      have alike := state.means_store_shadowed listed typed narrator.unsetFlagToken
      simp only [tell, substitute, kept, variableNamed]
      rw [fill_of_means alike]

/-- A desk where a name is asked for. -/
def desk (variableName : String) : InputNode :=
  { variableName := some variableName, next := some "hall" }

/-- A story that starts at the desk and leads into a hall. -/
def deskStory (variableName : String) : Narrator :=
  { graph :=
    { start := "desk",
      nodes := (Table.empty.insert "desk" (.input (desk variableName))).insert "hall" (.choice
        { text := .plain "Welcome, \x7bplayer\x7d." }) } }

/-- The state of a player at the desk. -/
def atDesk : State :=
  { day := 0, minutes := 480, playerName := "Player", currentScene := "desk" }

/-- The name of a pet is kept in a flag and told by it. A name that is a token itself is told as it
was typed. It is not taken for that token later on. -/
theorem pet_is_told :
    let story := deskStory "flags.pet"
    let kept := atDesk.store (some "flags.pet") "\x7btime\x7d"
    Text.trim " \x7btime\x7d " = "\x7btime\x7d" ∧
      story.submit atDesk " \x7btime\x7d " =
        (story.follow kept.2 "desk" (some "hall") none).after kept.1 ∧
      story.tell kept.2 "\x7bflags.pet\x7d" = "\x7btime\x7d" := by
  intro story kept
  have trimmed : Text.trim " \x7btime\x7d " = "\x7btime\x7d" := by decide
  have found : story.graph.node? atDesk.currentScene = some (.input (desk "flags.pet")) := rfl
  have pet : ShownBy (desk "flags.pet").variableName "flags.pet".toList :=
    .flag (isWord_iff.mp rfl : Word "pet".toList)
  have told := typed_text_is_told story atDesk " \x7btime\x7d " found (by rw [trimmed]; decide)
  rw [trimmed] at told
  exact ⟨trimmed, told.1, (told.2.1 _ pet).1⟩

/-- The word `player` names no numeric field. A name typed for it is kept, and yet its token goes
on to tell the player's old name. A story that wants the name shown leaves the variable out or
names the field `playerName`. -/
theorem typed_for_player_is_not_told :
    let story := deskStory "player"
    let kept := atDesk.store (some "player") "Anna"
    Word "player".toList ∧ "player" ∉ StateField.numeric ∧ Text.trim " Anna " = "Anna" ∧
      story.submit atDesk " Anna " =
        (story.follow kept.2 "desk" (some "hall") none).after kept.1 ∧
      kept.2.fields.get? "player" = some "Anna" ∧
      story.tell kept.2 "\x7bplayer\x7d" = "Player" ∧
      story.tell kept.2 "\x7bplayer\x7d" ≠ Text.trim " Anna " := by
  intro story kept
  have trimmed : Text.trim " Anna " = "Anna" := by decide
  have found : story.graph.node? atDesk.currentScene = some (.input (desk "player")) := rfl
  have submitted := submit_eq found (by rw [trimmed]; decide : (Text.trim " Anna ").isEmpty = false)
  rw [trimmed] at submitted
  have told : story.tell kept.2 (braced "player".toList) = kept.2.playerName := tell_braced .player
  have spelled : braced "player".toList = "\x7bplayer\x7d" := rfl
  have named : kept.2.playerName = "Player" := rfl
  rw [spelled, named] at told
  refine ⟨isWord_iff.mp rfl, by decide, trimmed, submitted, rfl, told, ?_⟩
  rw [told, trimmed]
  decide

end Narrator

end Storyline
