import Mathlib.Data.List.Forall2
import Mathlib.Data.List.TakeWhile
import Mathlib.Data.String.Basic
import Storyline.Play.Substitution

/-!
# What a text with variables means

A text is read as a row of pieces: characters that stay, and tokens between braces. A token
is without braces itself, and it stands for something: for the player's name or the time,
for a flag, for a fixed field of the state, or for an extra field. In the reading of a text
the tokens are all those that stand in it, wherever they stand, and every other character
stays. So a text has one reading. Which one depends on the names of the extra fields, and
on nothing that the fields or the flags hold.

The walk through a text fills in its reading: each character that stays is told as it is,
and each token by its value. Braces in a value are told like any other character of it.
-/

namespace Storyline.Substitution

/-- At least one ASCII letter, digit or underscore, and nothing else. -/
def Word (name : List Char) : Prop := name ≠ [] ∧ ∀ c ∈ name, c.isAlphanum = true ∨ c = '_'

/-- No brace among some characters. -/
def BraceFree (name : List Char) : Prop := '\x7b' ∉ name ∧ '\x7d' ∉ name

/-- The tokens that stand for a fixed part of the state. -/
def reserved : List String :=
  ["player", "time", "playerName", "dayIndex", "timeMinutes", "currentScene", "inventory"]

/-- What a token stands for. An extra field gives way to a fixed part of that name. -/
inductive Means (unset : String) (state : State) : List Char → String → Prop where
  | player : Means unset state "player".toList state.playerName
  | time : Means unset state "time".toList state.timeOfDay
  | setFlag {name : List Char} {flag : Flag} (word : Word name)
      (stored : state.flags.get? (String.ofList name) = some flag) (isSet : flag.isSet = true) :
      Means unset state ("flags.".toList ++ name) flag.shown
  | unsetFlag {name : List Char} (word : Word name)
      (notSet : state.flagIsSet (String.ofList name) = false) :
      Means unset state ("flags.".toList ++ name) unset
  | playerName : Means unset state "playerName".toList state.playerName
  | day : Means unset state "dayIndex".toList (toString state.day.toInt)
  | minutes : Means unset state "timeMinutes".toList (toString state.minutes.toInt)
  | currentScene : Means unset state "currentScene".toList state.currentScene
  | inventory : Means unset state "inventory".toList (",".intercalate state.inventory)
  | extra {name : List Char} {value : String} (word : Word name)
      (free : String.ofList name ∉ reserved)
      (stored : state.fields.get? (String.ofList name) = some value) : Means unset state name value

/-- Whether a token stands for anything. -/
def Stands (state : State) (name : List Char) : Prop :=
  String.ofList name ∈ reserved ∨ (∃ flag, Word flag ∧ name = "flags.".toList ++ flag) ∨
    Word name ∧ state.fields.contains (String.ofList name) = true

/-- A piece of a text: a character that stays, or a token between braces. -/
inductive Piece where
  | plain (c : Char)
  | token (name : List Char)

namespace Piece

/-- A piece as it stands in the text. -/
def source : Piece → List Char
  | .plain c => [c]
  | .token name => '\x7b' :: (name ++ ['\x7d'])

/-- What is told for a piece. -/
inductive Tells (unset : String) (state : State) : Piece → List Char → Prop where
  | plain (c : Char) : Tells unset state (.plain c) [c]
  | token {name : List Char} {value : String} (means : Means unset state name value) :
      Tells unset state (.token name) value.toList

end Piece

/-- The pieces of a text. Its tokens are those that are without braces and stand for
something, each of them and none besides. -/
structure Reading (state : State) (text : List Char) (pieces : List Piece) : Prop where
  source : pieces.flatMap Piece.source = text
  sound : ∀ name, .token name ∈ pieces → BraceFree name ∧ Stands state name
  complete : ∀ before name after, text = before ++ '\x7b' :: (name ++ '\x7d' :: after) →
    BraceFree name → Stands state name →
      ∃ front back, pieces = front ++ .token name :: back ∧
        front.flatMap Piece.source = before ∧ back.flatMap Piece.source = after

variable {unset : String} {state : State} {text name token : List Char} {pieces : List Piece}

/-! ## What tokens stand for -/

/-- The test for words is right. The relation says it without the test, so that the meaning of
tokens can be read apart from the walk. -/
theorem isWord_iff : isWord name = true ↔ Word name := by
  simp [isWord, Word]

/-- A number is told in decimal. Day and clock are told by the library's own spelling
of integers. -/
theorem writeInteger_eq (number : Int) :
    String.ofList (Json.writeInteger number) = toString number := by
  cases number with
  | ofNat count => rfl
  | negSucc count =>
    rw [Json.writeInteger, if_pos (Int.negSucc_lt_zero count), ← String.toList_inj]
    simp [toString, Int.repr, Nat.repr]

/-- The value of a flag is what it holds if it is set, or else the stand-in. A flag that was never
written is told like one that was written as false or as the empty text. -/
theorem means_flagValue (word : Word name) :
    Means unset state ("flags.".toList ++ name) (flagValue unset state (String.ofList name)) := by
  have tested : state.flagIsSet (String.ofList name) =
      (state.flags.get? (String.ofList name)).any Flag.isSet := rfl
  unfold flagValue
  cases stored : state.flags.get? (String.ofList name) with
  | none => exact .unsetFlag word (by rw [tested, stored]; rfl)
  | some flag =>
    dsimp only
    by_cases isSet : flag.isSet = true
    · rw [if_pos isSet]
      exact .setFlag word stored isSet
    · rw [if_neg isSet]
      exact .unsetFlag word (by rw [tested, stored]; simpa using isSet)

/-- What a word stands for as the name of a field, unless it has a meaning of its own. The two
excluded words have a meaning that goes before any field of their name.

Proof: by the names of the fixed fields one after another, and then by the extra field that is
left. -/
theorem means_fieldText {value : String} (word : Word name)
    (notPlayer : name ≠ "player".toList) (notTime : name ≠ "time".toList)
    (found : state.fieldText (String.ofList name) = some value) : Means unset state name value := by
  unfold State.fieldText at found
  split at found
  · rename_i same
    cases found
    exact String.ofList_eq.mp same ▸ .playerName
  · rename_i same
    rw [← Option.some.inj found, writeInteger_eq, String.ofList_eq.mp same]
    exact .day
  · rename_i same
    rw [← Option.some.inj found, writeInteger_eq, String.ofList_eq.mp same]
    exact .minutes
  · rename_i same
    cases found
    exact String.ofList_eq.mp same ▸ .currentScene
  · rename_i same
    cases found
    exact String.ofList_eq.mp same ▸ .inventory
  · refine .extra word ?_ found
    simp only [reserved, List.mem_cons, List.not_mem_nil, or_false, not_or]
    refine ⟨mt String.ofList_eq.mp notPlayer, mt String.ofList_eq.mp notTime, ?_⟩
    exact ⟨by assumption, by assumption, by assumption, by assumption, by assumption⟩

/-- The value of a token is what it stands for.

Proof: by the order in which the walk tries its rules: the two short tokens, then flags, then
fields. -/
theorem means_of_valueOf {value : String} (valued : valueOf unset state name = some value) :
    Means unset state name value := by
  unfold valueOf at valued
  split at valued
  · rename_i same
    cases valued
    exact same ▸ .player
  · rename_i notPlayer
    split at valued
    · rename_i same
      cases valued
      exact same ▸ .time
    · rename_i notTime
      split at valued
      · split at valued
        · rename_i word
          cases valued
          exact means_flagValue (isWord_iff.mp word)
        · cases valued
      · split at valued
        · rename_i word
          exact means_fieldText (isWord_iff.mp word) notPlayer notTime valued
        · cases valued

/-- A token behind `flags.` is valued by the flag, if it is a word. Behind a point there may be
anything in a text, and a token that is no flag's name is left as it is. -/
theorem valueOf_flag (name : List Char) :
    valueOf unset state ("flags.".toList ++ name) =
      if isWord name then some (flagValue unset state (String.ofList name)) else none := rfl

/-- A word that names no fixed part is valued by the extra field of that name. This holds also
where there is no such field, and then there is no value. -/
theorem valueOf_extra (word : Word name) (free : String.ofList name ∉ reserved) :
    valueOf unset state name = state.fields.get? (String.ofList name) := by
  simp only [reserved, List.mem_cons, List.not_mem_nil, or_false, not_or] at free
  obtain ⟨notPlayer, notTime, notName, notDay, notMinutes, notScene, notInventory⟩ := free
  have firstApart : name ≠ ['p', 'l', 'a', 'y', 'e', 'r'] :=
    fun same => notPlayer (String.ofList_eq.mpr same)
  have secondApart : name ≠ ['t', 'i', 'm', 'e'] :=
    fun same => notTime (String.ofList_eq.mpr same)
  unfold valueOf
  rw [if_neg firstApart, if_neg secondApart]
  split
  · -- A point is no character of a word.
    exact absurd (word.2 '.' (by simp)) (by decide)
  · rw [if_pos (isWord_iff.mpr word)]
    unfold State.fieldText
    split <;> first | contradiction | rfl

/-- What a token stands for is its value.

Proof: by the rules of meaning, each of which is one of the walk's own rules. -/
theorem valueOf_of_means {value : String} (means : Means unset state name value) :
    valueOf unset state name = some value := by
  cases means with
  | @setFlag name flag word stored isSet =>
    rw [valueOf_flag, if_pos (isWord_iff.mpr word), flagValue, stored]
    simp only [isSet, if_true]
  | @unsetFlag name word notSet =>
    rw [valueOf_flag, if_pos (isWord_iff.mpr word), flagValue]
    cases stored : state.flags.get? (String.ofList name) with
    | none => rfl
    | some flag =>
      have flagged : flag.isSet = false := by simpa [State.flagIsSet, stored] using notSet
      simp only [flagged, Bool.false_eq_true, if_false]
  | day => rw [← writeInteger_eq]; rfl
  | minutes => rw [← writeInteger_eq]; rfl
  | extra word free stored => rw [valueOf_extra word free, stored]
  | _ => rfl

/-- The value of a token is what it stands for, and there is no other. So the walk's order of
looking things up decides nothing: at most one of the rules applies. -/
theorem valueOf_eq_some_iff {value : String} :
    valueOf unset state name = some value ↔ Means unset state name value := by
  constructor
  · exact means_of_valueOf
  · exact valueOf_of_means

/-- Every token reserved for a fixed part of the state stands for it. They stand for something in
every state, also if the inventory is empty or the name is. -/
theorem exists_means_of_reserved (unset : String) (state : State)
    (listed : String.ofList name ∈ reserved) : ∃ value, Means unset state name value := by
  simp only [reserved, List.mem_cons, List.not_mem_nil, or_false] at listed
  rcases listed with same | same | same | same | same | same | same <;>
    rw [String.ofList_eq.mp same]
  · exact ⟨_, .player⟩
  · exact ⟨_, .time⟩
  · exact ⟨_, .playerName⟩
  · exact ⟨_, .day⟩
  · exact ⟨_, .minutes⟩
  · exact ⟨_, .currentScene⟩
  · exact ⟨_, .inventory⟩

/-- A token stands for something exactly if there is something that it stands for. Which tokens
stand for something does not depend on the stand-in for flags that are not set.

Proof: reserved tokens always have a value, flags have one with either rule, and extra fields have
one if they are there. -/
theorem stands_iff (unset : String) :
    Stands state name ↔ ∃ value, Means unset state name value := by
  constructor
  · rintro (listed | ⟨flag, word, rfl⟩ | ⟨word, known⟩)
    · exact exists_means_of_reserved unset state listed
    · exact ⟨_, means_flagValue word⟩
    · by_cases listed : String.ofList name ∈ reserved
      · exact exists_means_of_reserved unset state listed
      · obtain ⟨value, stored⟩ := Option.isSome_iff_exists.mp known
        exact ⟨value, .extra word listed stored⟩
  · rintro ⟨value, means⟩
    cases means with
    | setFlag word => exact Or.inr (Or.inl ⟨_, word, rfl⟩)
    | unsetFlag word => exact Or.inr (Or.inl ⟨_, word, rfl⟩)
    | extra word _ stored => exact Or.inr (Or.inr ⟨word, Option.isSome_of_mem stored⟩)
    | _ => exact Or.inl (by decide)

/-- No character of a word is a brace. Words are made of letters, digits and underscores. -/
theorem Word.braceFree (word : Word name) : BraceFree name := by
  constructor
  · exact fun member => absurd (word.2 _ member) (by decide)
  · exact fun member => absurd (word.2 _ member) (by decide)

/-- A token that stands for something is without braces. So an opening brace can belong to one
token only. -/
theorem Means.braceFree {value : String} (means : Means unset state name value) :
    BraceFree name := by
  cases means with
  | setFlag word => simpa [BraceFree] using word.braceFree
  | unsetFlag word => simpa [BraceFree] using word.braceFree
  | extra word => exact word.braceFree
  | _ => unfold BraceFree; decide

/-! ## Where tokens stand in a text -/

/-- A token ends at the first closing brace. What is behind it may hold further closing braces. -/
theorem splitToken_append (closing : '\x7d' ∉ name) (after : List Char) :
    splitToken (name ++ '\x7d' :: after) = some (name, after) := by
  have passes (c : Char) (member : c ∈ name) : (c != '\x7d') = true := by
    rw [bne_iff_ne]
    rintro rfl
    exact closing member
  unfold splitToken
  rw [List.dropWhile_append_of_pos passes, List.takeWhile_append_of_pos passes]
  simp

/-- What is split at the first closing brace is put together again.

Proof: the characters before the first closing brace and those from it on make up all of them, and
the first one dropped is no other than that brace. -/
theorem eq_of_splitToken {behind rest : List Char} (split : splitToken behind = some (name, rest)) :
    behind = name ++ '\x7d' :: rest ∧ '\x7d' ∉ name := by
  unfold splitToken at split
  have parts := List.takeWhile_append_dropWhile (p := (· != '\x7d')) (l := behind)
  have brace := List.head?_dropWhile_not (· != '\x7d') behind
  cases closed : behind.dropWhile (· != '\x7d') with
  | nil =>
    rw [closed] at split
    cases split
  | cons c after =>
    rw [closed] at split parts brace
    obtain ⟨rfl, rfl⟩ := Prod.mk.inj (Option.some.inj split)
    obtain rfl : c = '\x7d' := by simpa using brace
    refine ⟨parts.symm, fun member => ?_⟩
    have kept := List.mem_takeWhile_imp member
    simp at kept

/-- Two tokens that begin at one place are the same.

Proof: both of them end at the first closing brace, which is one and the same. -/
theorem token_unique {other after rest : List Char} (free : BraceFree name)
    (otherFree : BraceFree other) (same : name ++ '\x7d' :: after = other ++ '\x7d' :: rest) :
    name = other ∧ after = rest := by
  have first := splitToken_append free.2 after
  rw [same, splitToken_append otherFree.2 rest] at first
  obtain ⟨rfl, rfl⟩ := Prod.mk.inj (Option.some.inj first)
  exact ⟨rfl, rfl⟩

/-- An opening brace at a token or behind it is that of the token or stands behind the token's
closing brace. There is no third case, because a token has no brace inside.

Proof: the two texts are compared up to the shorter of their beginnings. -/
theorem later_brace {gap after rest : List Char} (free : BraceFree name)
    (same : '\x7b' :: (name ++ '\x7d' :: after) = gap ++ '\x7b' :: rest) :
    gap = [] ∧ rest = name ++ '\x7d' :: after ∨
      ∃ between, gap = '\x7b' :: (name ++ '\x7d' :: between) ∧ after = between ++ '\x7b' :: rest := by
  cases gap with
  | nil => exact Or.inl ⟨rfl, (List.cons.inj same).2.symm⟩
  | cons first inner =>
    obtain ⟨rfl, inside⟩ := List.cons.inj same
    rcases List.append_eq_append_iff.mp inside with ⟨tail, rfl, closes⟩ | ⟨tail, rfl, opens⟩
    · cases tail with
      | nil => cases (List.cons.inj closes).1
      | cons brace between =>
        obtain ⟨rfl, behind⟩ := List.cons.inj closes
        exact Or.inr ⟨between, rfl, behind⟩
    · -- An opening brace in front of the closing one would be a character of the token.
      cases tail with
      | nil => cases (List.cons.inj opens).1
      | cons brace _ =>
        obtain ⟨rfl, -⟩ := List.cons.inj opens
        exact absurd (List.mem_append_right _ List.mem_cons_self) free.1

/-! ## Readings -/

/-- No piece of a text is empty. A token is at least its two braces. -/
theorem Piece.source_ne_nil (piece : Piece) : piece.source ≠ [] := by
  cases piece <;> simp [source]

/-- Only no pieces at all make an empty text. This is where a reading stops. -/
theorem eq_nil_of_source (empty : pieces.flatMap Piece.source = []) : pieces = [] := by
  cases pieces with
  | nil => rfl
  | cons piece rest =>
    rw [List.flatMap_cons, List.append_eq_nil_iff] at empty
    exact absurd empty.1 piece.source_ne_nil

namespace Reading

/-- A text of no characters has no pieces. It has no token either, so both laws of a reading hold
of nothing. -/
theorem nil (state : State) : Reading state [] [] := by
  refine ⟨rfl, fun name member => absurd member List.not_mem_nil, ?_⟩
  intro before name after same
  cases before <;> cases same

/-- The reading of what stands behind the first piece.

Proof: a token further behind is found in the whole text, and the piece that is found for it is not
the first one, because it stands behind more characters. -/
theorem tail {piece : Piece} {rest : List Piece} (reading : Reading state text (piece :: rest)) :
    Reading state (rest.flatMap Piece.source) rest := by
  refine ⟨rfl, fun name member => reading.sound name (List.mem_cons_of_mem _ member), ?_⟩
  intro before name after same free stands
  have whole : text = (piece.source ++ before) ++ '\x7b' :: (name ++ '\x7d' :: after) := by
    rw [← reading.source, List.flatMap_cons, same, List.append_assoc]
  obtain ⟨front, back, split, frontSource, backSource⟩ :=
    reading.complete _ name after whole free stands
  cases front with
  | nil =>
    have nothing : piece.source ++ before = [] := frontSource.symm
    exact absurd (List.append_eq_nil_iff.mp nothing).1 piece.source_ne_nil
  | cons first inner =>
    obtain ⟨rfl, rfl⟩ := List.cons.inj split
    exact ⟨inner, back, rfl, List.append_cancel_left frontSource, backSource⟩

/-- If a token stands at the beginning of a text, it is the first piece.

Proof: the reading is complete, so the token is one of its pieces, with nothing in front of it. -/
theorem head_of_token {piece : Piece} {rest : List Piece} {after : List Char}
    (reading : Reading state text (piece :: rest))
    (begins : text = '\x7b' :: (name ++ '\x7d' :: after)) (free : BraceFree name)
    (stands : Stands state name) : piece = .token name := by
  obtain ⟨front, back, split, nothing, -⟩ := reading.complete [] name after begins free stands
  obtain rfl := eq_nil_of_source nothing
  exact (List.cons.inj split).1

/-- If one reading of a text begins with a token, so does every other. A plain piece would leave
the token unread. -/
theorem head_eq_token {piece : Piece} {rest behind : List Piece}
    (reading : Reading state text (piece :: rest))
    (other : Reading state text (.token name :: behind)) : piece = .token name := by
  obtain ⟨free, stands⟩ := other.sound name List.mem_cons_self
  have begins : text = '\x7b' :: (name ++ '\x7d' :: behind.flatMap Piece.source) := by
    simp [← other.source, Piece.source]
  exact reading.head_of_token begins free stands

/-- A text has no more than one reading.

Proof: by induction on the pieces. Two readings begin with the same piece: with a token if either
of them does, and otherwise with the first character. -/
theorem unique {others : List Piece} (reading : Reading state text pieces)
    (other : Reading state text others) : others = pieces := by
  induction pieces generalizing text others with
  | nil =>
    have empty : text = [] := reading.source.symm
    exact eq_nil_of_source (other.source.trans empty)
  | cons piece rest inductionHypothesis =>
    cases others with
    | nil =>
      have empty : text = [] := other.source.symm
      exact (eq_nil_of_source (reading.source.trans empty)).symm
    | cons second remaining =>
      have texts : second.source ++ remaining.flatMap Piece.source =
          piece.source ++ rest.flatMap Piece.source := other.source.trans reading.source.symm
      have heads : second = piece := by
        cases piece with
        | token name => exact other.head_eq_token reading
        | plain c =>
          cases second with
          | token name => exact (reading.head_eq_token other).symm
          | plain d => exact congrArg Piece.plain (List.cons.inj texts).1
      subst heads
      have tails : remaining.flatMap Piece.source = rest.flatMap Piece.source :=
        List.append_cancel_left texts
      exact congrArg (second :: ·) (inductionHypothesis reading.tail (tails ▸ other.tail))

/-- A character where no token begins stays.

Proof: a token that begins further behind is one of the text behind the character, and that text is
read already. -/
theorem plain {c : Char} (reading : Reading state text pieces)
    (unopened : ∀ name after, c :: text = '\x7b' :: (name ++ '\x7d' :: after) →
      BraceFree name → ¬ Stands state name) :
    Reading state (c :: text) (.plain c :: pieces) := by
  constructor
  · simp [Piece.source, reading.source]
  · intro name member
    rcases List.mem_cons.mp member with same | later
    · cases same
    · exact reading.sound name later
  · intro before name after same free stands
    cases before with
    | nil => exact absurd stands (unopened name after same free)
    | cons first inner =>
      obtain ⟨rfl, within⟩ := List.cons.inj same
      obtain ⟨front, back, rfl, frontSource, backSource⟩ :=
        reading.complete inner name after within free stands
      refine ⟨.plain c :: front, back, rfl, ?_, backSource⟩
      simp [Piece.source, frontSource]

/-- A token between two texts that have been read is read as that token: no token begins in front
of it and reaches into it.

Proof: any token of the whole text begins in front of this one, with it or behind it. In front it
ends before this one begins, or else it would have a brace inside, so it is a token of the front
text; behind it is one of the back text. -/
theorem around {front back : List Char} {before behind : List Piece}
    (first : Reading state front before) (last : Reading state back behind)
    (free : BraceFree token) (stands : Stands state token) :
    Reading state (front ++ '\x7b' :: (token ++ '\x7d' :: back))
      (before ++ .token token :: behind) := by
  constructor
  · simp [Piece.source, first.source, last.source]
  · intro name member
    rcases List.mem_append.mp member with inFront | later
    · exact first.sound name inFront
    · rcases List.mem_cons.mp later with same | inBack
      · cases same
        exact ⟨free, stands⟩
      · exact last.sound name inBack
  · intro left name right same nameFree nameStands
    rcases List.append_eq_append_iff.mp same with ⟨gap, rfl, behindFront⟩ | ⟨gap, rfl, withinFront⟩
    · rcases later_brace free behindFront with ⟨rfl, rest⟩ | ⟨between, rfl, rfl⟩
      · obtain ⟨rfl, rfl⟩ := token_unique nameFree free rest
        exact ⟨before, behind, rfl, by simpa using first.source, last.source⟩
      · obtain ⟨inner, outer, rfl, innerSource, outerSource⟩ :=
          last.complete between name right rfl nameFree nameStands
        refine ⟨before ++ .token token :: inner, outer, by simp, ?_, outerSource⟩
        simp [Piece.source, first.source, innerSource]
    · rcases later_brace nameFree withinFront with ⟨rfl, rest⟩ | ⟨between, rfl, rfl⟩
      · obtain ⟨rfl, rfl⟩ := token_unique free nameFree rest
        exact ⟨before, behind, rfl, by simpa using first.source, last.source⟩
      · obtain ⟨inner, outer, rfl, innerSource, outerSource⟩ :=
          first.complete left name between rfl nameFree nameStands
        refine ⟨inner, outer ++ .token token :: behind, by simp, innerSource, ?_⟩
        simp [Piece.source, last.source, outerSource]

end Reading

/-! ## What the walk tells -/

/-- What is told for a piece, by the value of a token. -/
def Piece.told (unset : String) (state : State) : Piece → List Char
  | .plain c => [c]
  | .token name => ((valueOf unset state name).getD "").toList

/-- The walk through a text fills in a reading of it.

Proof: by the recursion of the walk. At an opening brace it looks for the end of a token and for
its value; where either is missing the brace stays as a character. -/
theorem exists_reading (unset : String) (state : State) (text : List Char) :
    ∃ pieces, Reading state text pieces ∧
      fill unset state text = pieces.flatMap (Piece.told unset state) := by
  fun_induction fill unset state text with
  | case1 => exact ⟨[], .nil state, rfl⟩
  | case2 behind split inductionHypothesis =>
    obtain ⟨pieces, reading, filled⟩ := inductionHypothesis
    refine ⟨.plain '\x7b' :: pieces, reading.plain ?_, congrArg ('\x7b' :: ·) filled⟩
    intro name after same free
    rw [(List.cons.inj same).2, splitToken_append free.2] at split
    cases split
  | case3 behind token rest split value valued inductionHypothesis =>
    obtain ⟨pieces, reading, filled⟩ := inductionHypothesis
    obtain ⟨rfl, -⟩ := eq_of_splitToken split
    have means := valueOf_eq_some_iff.mp valued
    have stands : Stands state token := (stands_iff unset).mpr ⟨value, means⟩
    refine ⟨.token token :: pieces, (Reading.nil state).around reading means.braceFree stands, ?_⟩
    simp [Piece.told, valued, filled]
  | case4 behind token rest split valueless inductionHypothesis =>
    obtain ⟨pieces, reading, filled⟩ := inductionHypothesis
    refine ⟨.plain '\x7b' :: pieces, reading.plain ?_, congrArg ('\x7b' :: ·) filled⟩
    -- The only name that could stand here is the one that was split off, and it has no value.
    intro name after same free stands
    rw [(List.cons.inj same).2, splitToken_append free.2] at split
    obtain ⟨rfl, rfl⟩ := Prod.mk.inj (Option.some.inj split)
    obtain ⟨value, means⟩ := (stands_iff unset).mp stands
    cases valueless.symm.trans (valueOf_of_means means)
  | case5 c behind other inductionHypothesis =>
    obtain ⟨pieces, reading, filled⟩ := inductionHypothesis
    refine ⟨.plain c :: pieces, reading.plain ?_, congrArg (c :: ·) filled⟩
    intro name after same
    exact absurd (List.cons.inj same).1 other

/-- The walk through a text tells its reading. Since there is one reading, it is the one that the
walk has found. -/
theorem fill_of_reading (unset : String) (reading : Reading state text pieces) :
    fill unset state text = pieces.flatMap (Piece.told unset state) := by
  obtain ⟨others, other, filled⟩ := exists_reading unset state text
  rw [filled, reading.unique other]

/-- A token that stands for something is told by its value wherever it stands in a text, and what
stands around it is told as if it stood alone. No token begins in front and ends behind, whatever
stands there.

Proof: the two sides have readings, which are joined around the token to the reading of
the whole. -/
theorem fill_around {value : String} (means : Means unset state name value)
    (front back : List Char) :
    fill unset state (front ++ '\x7b' :: (name ++ '\x7d' :: back)) =
      fill unset state front ++ value.toList ++ fill unset state back := by
  obtain ⟨before, first, frontFilled⟩ := exists_reading unset state front
  obtain ⟨behind, last, backFilled⟩ := exists_reading unset state back
  have whole := first.around last means.braceFree ((stands_iff unset).mpr ⟨value, means⟩)
  rw [fill_of_reading unset whole, frontFilled, backFilled]
  simp [Piece.told, valueOf_of_means means]

/-- What is told for the pieces of a reading is what they mean. The stand-in for flags may be any
text here, as it takes no part in the reading. -/
theorem Reading.tells (reading : Reading state text pieces) (unset : String) :
    List.Forall₂ (Piece.Tells unset state) pieces (pieces.map (Piece.told unset state)) := by
  rw [List.forall₂_map_right_iff, List.forall₂_same]
  intro piece member
  cases piece with
  | plain c => exact .plain c
  | token name =>
    obtain ⟨value, means⟩ := (stands_iff unset).mp (reading.sound name member).2
    have told : Piece.told unset state (.token name) = value.toList := by
      rw [Piece.told, valueOf_of_means means]
      rfl
    rw [told]
    exact .token means

/-- The reading of a text is the same in all states where the same tokens stand for something. A
reading asks of a state only which tokens stand for something in it. -/
theorem Reading.of_stands {other : State} (reading : Reading state text pieces)
    (same : ∀ name, Stands other name ↔ Stands state name) : Reading other text pieces := by
  refine ⟨reading.source, fun name member => ?_, fun before name after split free stands => ?_⟩
  · obtain ⟨free, stands⟩ := reading.sound name member
    exact ⟨free, (same name).mpr stands⟩
  · exact reading.complete before name after split free ((same name).mp stands)

/-- Texts are told alike in states where every token stands for the same.

Proof: the reading is the same in both states, and each of its tokens has the same value. -/
theorem fill_of_means {other : State}
    (alike : ∀ name value, Means unset other name value ↔ Means unset state name value)
    (text : List Char) : fill unset other text = fill unset state text := by
  obtain ⟨pieces, reading, filled⟩ := exists_reading unset state text
  have elsewhere : Reading other text pieces := by
    apply reading.of_stands
    intro name
    simp only [stands_iff unset, alike]
  have told : Piece.told unset other = Piece.told unset state := by
    funext piece
    cases piece with
    | plain c => rfl
    | token name =>
      have valued : valueOf unset other name = valueOf unset state name := by
        ext value
        rw [valueOf_eq_some_iff, valueOf_eq_some_iff, alike]
      rw [Piece.told, Piece.told, valued]
  rw [fill_of_reading unset elsewhere, filled, told]

/-- A text has one reading, and it is told piece by piece: each token of it by what it stands for,
and every other character as it is. It stays the reading of the text, and is told so, whatever the
flags, the fields and all else hold, as long as the extra fields have the same names; so no value
takes part in what is a token.

Nothing is assumed of the text: it may have braces that do not match, braces in braces, and tokens
of any kind at any place. Nothing is assumed of the values either, which may be texts with braces
or empty.

Proof: the walk fills in a reading, and a text has only one. Whether a token stands for anything
depends on the names of the extra fields alone, so the reading belongs to all states with the same
names. -/
theorem substitute_tells_reading (state : State) (text : String) :
    ∃ pieces, Reading state text.toList pieces ∧
      (∀ others, Reading state text.toList others → others = pieces) ∧
      ∀ (unset : String) (other : State),
        (∀ name, other.fields.contains name = state.fields.contains name) →
          ∃ told, List.Forall₂ (Piece.Tells unset other) pieces told ∧
            substitute unset other text = String.ofList told.flatten := by
  obtain ⟨pieces, reading, -⟩ := exists_reading "" state text.toList
  refine ⟨pieces, reading, fun others other => reading.unique other, ?_⟩
  intro unset other names
  have elsewhere : Reading other text.toList pieces := by
    apply reading.of_stands
    intro name
    unfold Stands
    rw [names]
  refine ⟨pieces.map (Piece.told unset other), elsewhere.tells unset, ?_⟩
  rw [substitute, fill_of_reading unset elsewhere, List.flatMap_def]

/-- A value that is a token, or becomes one with the brace behind it, is not told once more. -/
example :
    let state : State :=
      { fields := Table.empty.insert "hat" "\x7bplayer", day := 0, minutes := 480,
        playerName := "\x7btime\x7d", currentScene := "hall" }
    substitute "none" state "\x7b\x7bplayer\x7d\x7d \x7bhat\x7d\x7d \x7bplayer" =
      "\x7b\x7btime\x7d\x7d \x7bplayer\x7d \x7bplayer" := by cbv

end Storyline.Substitution
