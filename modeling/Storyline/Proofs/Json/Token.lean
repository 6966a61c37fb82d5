import Storyline.Json.Token
import Storyline.Proofs.Json.Escape
import Storyline.Proofs.Json.Numeral

/-!
# The tokens of a written value

A value whose numbers are integers within 64 bits is cut into its tokens again, in every
layout that puts nothing but gaps between tokens. A number ends where its digits end,
because a comma, a closing bracket or a gap follows.
-/

namespace Storyline.Json

/-- A value without numbers other than integers within 64 bits. -/
inductive Value.Exact : Value → Prop where
  | null : Exact .null
  | bool (value : Bool) : Exact (.bool value)
  | integer {value : Int} (kept : Kept value) : Exact (.number (.integer value))
  | text (value : String) : Exact (.text value)
  | array {items : List Value} (each : ∀ item ∈ items, Exact item) : Exact (.array items)
  | object {members : List (String × Value)} (each : ∀ member ∈ members, Exact member.2) :
      Exact (.object members)

/-- A word is an integer within 64 bits. Every signed word is within the range, and so is every
unsigned one. -/
theorem exact_ofInt (value : Int64) : (Value.ofInt value.toInt).Exact := by
  have lower := value.le_toInt
  have upper := value.toInt_lt
  exact .integer ⟨by omega, by omega⟩

section Members

variable {α : Type} {name : String} {write : α → Value}

/-- A member that holds a thing if there is one is as exact as the thing. A member that is not
there is nothing to write. -/
theorem exact_memberIfPresent {thing : Option α} (each : ∀ present, (write present).Exact) :
    ∀ member ∈ memberIfPresent name write thing, member.2.Exact := by
  cases thing with
  | none => exact fun _ listed => by cases listed
  | some present =>
    intro member listed
    obtain rfl := List.mem_singleton.mp listed
    exact each present

/-- A member that holds things unless there are none is as exact as the things. An empty list is
left out as a whole. -/
theorem exact_memberUnlessEmpty {things : List α} (each : ∀ thing ∈ things, (write thing).Exact) :
    ∀ member ∈ memberUnlessEmpty name write things, member.2.Exact := by
  intro member listed
  unfold memberUnlessEmpty at listed
  split at listed
  · cases listed
  · obtain rfl := List.mem_singleton.mp listed
    refine .array fun value among => ?_
    obtain ⟨thing, given, rfl⟩ := List.mem_map.mp among
    exact each thing given

end Members

mutual

/-- The tokens of a value. -/
def Value.tokens : Value → List Token
  | .null => [.null]
  | .bool value => [.bool value]
  | .number value => [.number (.ok value)]
  | .text value => [.text (.ok value)]
  | .array [] => [.openBracket, .closeBracket]
  | .array (first :: rest) => .openBracket :: (first.tokens ++ itemTokens rest)
  | .object [] => [.openBrace, .closeBrace]
  | .object ((name, value) :: rest) =>
    .openBrace :: .text (.ok name) :: .colon :: (value.tokens ++ memberTokens rest)

/-- The tokens of the items behind the first one, and of the closing bracket. -/
def itemTokens : List Value → List Token
  | [] => [.closeBracket]
  | item :: rest => .comma :: (item.tokens ++ itemTokens rest)

/-- The tokens of the members behind the first one, and of the closing brace. -/
def memberTokens : List (String × Value) → List Token
  | [] => [.closeBrace]
  | (name, value) :: rest =>
    .comma :: .text (.ok name) :: .colon :: (value.tokens ++ memberTokens rest)

end

/-- A layout with nothing but gaps between the tokens. -/
structure Layout.Spaced (layout : Layout) : Prop where
  afterColon : ∀ c ∈ layout.afterColon, isGap c = true
  line : ∀ depth, ∀ c ∈ layout.line depth, isGap c = true

/-- The compact layout has no gaps at all. That nothing at all counts as a gap is part of the
definition. -/
theorem spaced_compact : Layout.compact.Spaced where
  afterColon := List.forall_mem_nil _
  line _ := List.forall_mem_nil _

/-- The indented layout has gaps only.

Proof: behind a colon stands one space, and a line is a line feed with some spaces. -/
theorem spaced_indented : Layout.indented.Spaced where
  afterColon := by
    intro c member
    rw [List.mem_singleton.mp member]
    rfl
  line := by
    intro depth c member
    rcases List.mem_cons.mp member with rfl | space
    · rfl
    · rw [List.eq_of_mem_replicate space]
      rfl

variable {c : Char} {rest gaps : List Char}

/-- A numeral ends before a gap. None of the four gap characters is a digit, a point or the letter
of a power. -/
theorem Numeral.endsBefore_gap (gap : isGap c = true) (rest : List Char) :
    EndsBefore (c :: rest) := by
  have cases : c = ' ' ∨ c = '\n' ∨ c = '\t' ∨ c = '\r' := by simpa [isGap, or_assoc] using gap
  rcases cases with rfl | rfl | rfl | rfl
  all_goals exact endsBefore_cons rest rfl (by decide) (by decide) (by decide)

/-- A numeral ends before gaps if it ends behind them. There may be none, and then it ends where
the rest begins. -/
theorem Numeral.endsBefore_gaps (all : ∀ c ∈ gaps, isGap c = true) (ends : EndsBefore rest) :
    EndsBefore (gaps ++ rest) := by
  cases gaps with
  | nil => exact ends
  | cons c more => exact endsBefore_gap (all c List.mem_cons_self) (more ++ rest)

/-- Gaps are passed over.

Proof: by induction on the gaps, each of which is passed over alone. -/
theorem tokens_gaps (all : ∀ c ∈ gaps, isGap c = true) : tokens (gaps ++ rest) = tokens rest := by
  induction gaps with
  | nil => rfl
  | cons c more inductionHypothesis =>
    rw [List.cons_append, tokens, if_pos (all c List.mem_cons_self)]
    exact inductionHypothesis fun d member => all d (List.mem_cons_of_mem c member)

/-- Outside the gaps a token is taken. This is the step from tokens taken one at a time to those of
a whole text. -/
theorem tokens_of_take {token : Token} {behind : List Char} (notGap : isGap c = false)
    (taken : Token.take c rest = (token, behind)) : tokens (c :: rest) = token :: tokens behind := by
  rw [tokens, notGap, if_neg Bool.false_ne_true, taken]

/-- A character that is a token by itself. -/
inductive Token.Sign : Token → Char → Prop where
  | openBracket : Sign .openBracket '['
  | closeBracket : Sign .closeBracket ']'
  | openBrace : Sign .openBrace '\x7b'
  | closeBrace : Sign .closeBrace '\x7d'
  | comma : Sign .comma ','
  | colon : Sign .colon ':'

/-- A sign is one token. There are six of them, and none needs to look at what follows. -/
theorem tokens_sign {token : Token} (sign : token.Sign c) (rest : List Char) :
    tokens (c :: rest) = token :: tokens rest := by
  cases sign
  all_goals exact tokens_of_take rfl rfl

/-- A numeral ends before a sign. So a number in an array or an object ends before whatever the
layout puts behind it. -/
theorem Numeral.endsBefore_sign {token : Token} (sign : token.Sign c) (rest : List Char) :
    EndsBefore (c :: rest) := by
  cases sign
  all_goals exact endsBefore_cons rest rfl (by decide) (by decide) (by decide)

/-- A written text is one token.

Proof: behind the opening quotation mark the text is read back up to the closing one. -/
theorem tokens_writeText (text : String) (rest : List Char) :
    tokens (writeText text ++ rest) = .text (.ok text) :: tokens rest := by
  have written : writeText text ++ rest = '"' :: (text.toList.flatMap escaped ++ '"' :: rest) := by
    simp [writeText]
  rw [written]
  refine tokens_of_take rfl ?_
  simp only [Token.take, takeText_flatMap_escaped]

/-- A written integer starts with a minus sign or with a digit. That is how the kind of its token
is known. -/
theorem writeInteger_eq_cons (value : Int) :
    ∃ c more, writeInteger value = c :: more ∧ (c = '-' ∨ c.isDigit = true) := by
  unfold writeInteger
  split
  · exact ⟨'-', _, rfl, Or.inl rfl⟩
  · cases front : Nat.toDigits 10 value.natAbs with
    | nil => exact absurd front Nat.toDigits_ne_nil
    | cons c more =>
      have member : c ∈ Nat.toDigits 10 value.natAbs := front ▸ List.mem_cons_self
      exact ⟨c, more, rfl, Or.inr (Nat.isDigit_of_mem_toDigits (by decide) (by decide) member)⟩

/-- A minus sign or a digit starts a number. No other token starts with either of them. -/
theorem Token.take_numeral (starts : c = '-' ∨ c.isDigit = true) {numeral : Numeral}
    {behind : List Char} (taken : Numeral.take (c :: rest) = .ok (numeral, behind)) :
    take c rest = (.number numeral.number, behind) := by
  unfold take
  split
  case h_11 =>
    rw [if_pos (by simpa using starts), taken]
  all_goals exact absurd starts (by decide)

/-- A written integer within 64 bits is one token.

Proof: the numeral is taken whole and read as the integer. -/
theorem tokens_writeInteger {value : Int} (kept : Kept value) (ends : Numeral.EndsBefore rest) :
    tokens (writeInteger value ++ rest) = .number (.ok (.integer value)) :: tokens rest := by
  obtain ⟨c, more, written, starts⟩ := writeInteger_eq_cons value
  have taken := Numeral.take_writeInteger value ends
  rw [written, List.cons_append] at taken ⊢
  -- Gaps end numerals, so a character that starts one is no gap.
  have notGap : isGap c = false := by
    rcases starts with rfl | digit
    · rfl
    · refine Bool.eq_false_iff.mpr fun gap => ?_
      have notDigit : c.isDigit = false := (Numeral.endsBefore_gap gap [] c [] rfl).1
      exact Bool.eq_false_iff.mp notDigit digit
  rw [tokens_of_take notGap (Token.take_numeral starts taken), Numeral.number_ofInteger kept]

variable {layout : Layout}

/-- A numeral ends before the items behind it and before the closing bracket. What stands behind an
item begins with a comma, with a gap or with the bracket. -/
theorem endsBefore_writeItems (spaced : layout.Spaced) (depth : Nat) (items : List Value)
    (rest : List Char) :
    Numeral.EndsBefore (writeItems layout depth items ++ (layout.line depth ++ ']' :: rest)) := by
  cases items with
  | nil =>
    rw [writeItems, List.nil_append]
    exact Numeral.endsBefore_gaps (spaced.line depth) (Numeral.endsBefore_sign .closeBracket rest)
  | cons item more => exact Numeral.endsBefore_sign .comma _

/-- A numeral ends before the members behind it and before the closing brace. What stands behind a
member begins in the same three ways, with a brace at the end. -/
theorem endsBefore_writeMembers (spaced : layout.Spaced) (depth : Nat)
    (members : List (String × Value)) (rest : List Char) :
    Numeral.EndsBefore
      (writeMembers layout depth members ++ (layout.line depth ++ '\x7d' :: rest)) := by
  cases members with
  | nil =>
    rw [writeMembers, List.nil_append]
    exact Numeral.endsBefore_gaps (spaced.line depth) (Numeral.endsBefore_sign .closeBrace rest)
  | cons member more => exact Numeral.endsBefore_sign .comma _

/-- A value that is cut into its tokens wherever it is written. -/
def Value.IsCut (layout : Layout) (value : Value) : Prop :=
  ∀ (depth : Nat) {rest : List Char}, Numeral.EndsBefore rest →
    Json.tokens (value.write layout depth ++ rest) = value.tokens ++ Json.tokens rest

/-- Written items and the bracket behind them are cut into their tokens.

Proof: by induction on the items. A comma and a line stand in front of each, and a numeral ends
before what follows. -/
theorem tokens_writeItems (spaced : layout.Spaced) {items : List Value}
    (each : ∀ item ∈ items, item.IsCut layout) (depth : Nat) (rest : List Char) :
    tokens (writeItems layout depth items ++ (layout.line depth ++ ']' :: rest)) =
      itemTokens items ++ tokens rest := by
  induction items with
  | nil =>
    rw [writeItems, List.nil_append, tokens_gaps (spaced.line depth), tokens_sign .closeBracket]
    rfl
  | cons item more inductionHypothesis =>
    have head := each item List.mem_cons_self (depth + 1)
      (endsBefore_writeItems spaced depth more rest)
    have tail := inductionHypothesis fun other member =>
      each other (List.mem_cons_of_mem item member)
    simp only [writeItems, List.cons_append, List.append_assoc, itemTokens]
    rw [tokens_sign .comma, tokens_gaps (spaced.line (depth + 1)), head, tail]

/-- Written members and the brace behind them are cut into their tokens.

Proof: by induction on the members, each of which has a comma, a line, its name and a colon in
front of its value. -/
theorem tokens_writeMembers (spaced : layout.Spaced) {members : List (String × Value)}
    (each : ∀ member ∈ members, member.2.IsCut layout) (depth : Nat) (rest : List Char) :
    tokens (writeMembers layout depth members ++ (layout.line depth ++ '\x7d' :: rest)) =
      memberTokens members ++ tokens rest := by
  induction members with
  | nil =>
    rw [writeMembers, List.nil_append, tokens_gaps (spaced.line depth), tokens_sign .closeBrace]
    rfl
  | cons member more inductionHypothesis =>
    obtain ⟨name, value⟩ := member
    have head := each (name, value) List.mem_cons_self (depth + 1)
      (endsBefore_writeMembers spaced depth more rest)
    have tail := inductionHypothesis fun other listed =>
      each other (List.mem_cons_of_mem (name, value) listed)
    simp only [writeMembers, List.cons_append, List.append_assoc, memberTokens]
    rw [tokens_sign .comma, tokens_gaps (spaced.line (depth + 1)), tokens_writeText,
      tokens_sign .colon, tokens_gaps spaced.afterColon, head, tail]

/-- A written value is cut into its tokens.

The layout matters only by its gaps, and the value stands at any depth with any text behind it that
a numeral ends before.

Proof: by induction on the value. Arrays and objects are cut at their first part, and the parts
behind it are cut one by one. -/
theorem isCut_of_exact (spaced : layout.Spaced) {value : Value} (exact : value.Exact) :
    value.IsCut layout := by
  induction exact with
  | null => exact fun _ _ _ => tokens_of_take rfl rfl
  | bool value =>
    cases value
    all_goals exact fun _ _ _ => tokens_of_take rfl rfl
  | integer kept => exact fun _ _ ends => tokens_writeInteger kept ends
  | text value => exact fun _ rest _ => tokens_writeText value rest
  | @array items each inductionHypothesis =>
    intro depth rest _
    cases items with
    | nil =>
      simp only [Value.write, List.cons_append, List.nil_append, Value.tokens]
      rw [tokens_sign .openBracket, tokens_sign .closeBracket]
    | cons first more =>
      have head := inductionHypothesis first List.mem_cons_self (depth + 1)
        (endsBefore_writeItems spaced depth more rest)
      have tail := tokens_writeItems spaced
        (fun item member => inductionHypothesis item (List.mem_cons_of_mem first member)) depth rest
      simp only [Value.write, List.cons_append, List.append_assoc, List.nil_append, Value.tokens]
      rw [tokens_sign .openBracket, tokens_gaps (spaced.line (depth + 1)), head, tail]
  | @object members each inductionHypothesis =>
    intro depth rest _
    cases members with
    | nil =>
      simp only [Value.write, List.cons_append, List.nil_append, Value.tokens]
      rw [tokens_sign .openBrace, tokens_sign .closeBrace]
    | cons member more =>
      obtain ⟨name, value⟩ := member
      have head := inductionHypothesis (name, value) List.mem_cons_self (depth + 1)
        (endsBefore_writeMembers spaced depth more rest)
      have tail := tokens_writeMembers spaced (fun member listed =>
        inductionHypothesis member (List.mem_cons_of_mem (name, value) listed)) depth rest
      simp only [Value.write, List.cons_append, List.append_assoc, List.nil_append, Value.tokens]
      rw [tokens_sign .openBrace, tokens_gaps (spaced.line (depth + 1)), tokens_writeText,
        tokens_sign .colon, tokens_gaps spaced.afterColon, head, tail]

end Storyline.Json
