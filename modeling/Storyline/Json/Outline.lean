import Storyline.Json.Token

/-!
# Outlines of documents

An outline is what the tokens of a text amount to, as far as they go. Faults stay
where they are: a number out of range, a text with a lone surrogate, a value that
breaks off. Whoever reads an outline from left to right meets the first fault or
the first mismatch in the order of the text, and whoever passes over a value meets
only the faults of the grammar. Each array and object knows its level of nesting,
since readers refuse to enter more than 127 of them.
-/

namespace Storyline.Json

/-- What stands in the place of a member's name. -/
inductive Key where
  | text (reading : Except Fault String)
  | cut (place : Break)
  | other

/-- A value as the tokens give it. `ending` is the fault that stands in the place
of the closing bracket, if one does. -/
inductive Outline where
  | null
  | bool (value : Bool)
  | number (reading : Except Fault Number)
  | text (reading : Except Fault String)
  | array (level : Nat) (items : List Outline) (ending : Option Fault)
  | object (level : Nat) (members : List (Key × Outline)) (ending : Option Fault)
  | broken (place : Break)

/-- What a token amounts to in the place of a member's name. -/
def Token.key : Token → Key
  | .text reading => .text reading
  | .cutText place => .cut place
  | _ => .other

namespace Outline

/-- Some outline of the tokens behind `tokens`, and the tokens behind it. -/
abbrev Behind (α : Type) (tokens : List Token) : Type :=
  { found : α × List Token // found.2.length ≤ tokens.length }

mutual

/-- The value at the start of some tokens, at a level of nesting. -/
def value (level : Nat) : (tokens : List Token) → Behind Outline tokens
  | [] => ⟨(.broken (.plain .truncated), []), Nat.le_refl _⟩
  | .null :: rest => ⟨(.null, rest), Nat.le_succ _⟩
  | .bool value :: rest => ⟨(.bool value, rest), Nat.le_succ _⟩
  | .number reading :: rest => ⟨(.number reading, rest), Nat.le_succ _⟩
  | .text reading :: rest => ⟨(.text reading, rest), Nat.le_succ _⟩
  | .cutText place :: _ => ⟨(.broken place, []), Nat.zero_le _⟩
  | .cut place :: _ => ⟨(.broken place, []), Nat.zero_le _⟩
  | .openBracket :: rest =>
    let ⟨((items, ending), after), shorter⟩ := firstItem (level + 1) rest
    ⟨(.array (level + 1) items ending, after), Nat.le_succ_of_le shorter⟩
  | .openBrace :: rest =>
    let ⟨((members, ending), after), shorter⟩ := firstMember (level + 1) rest
    ⟨(.object (level + 1) members ending, after), Nat.le_succ_of_le shorter⟩
  | _ :: _ => ⟨(.broken (.plain .malformed), []), Nat.zero_le _⟩
termination_by tokens => (tokens.length, 0)

/-- The items behind an opening bracket. -/
def firstItem (level : Nat) :
    (tokens : List Token) → Behind (List Outline × Option Fault) tokens
  | [] => ⟨(([], some .truncated), []), Nat.le_refl _⟩
  | .closeBracket :: rest => ⟨(([], none), rest), Nat.le_succ _⟩
  | tokens => item level tokens
termination_by tokens => (tokens.length, 2)

/-- An item and the items behind it. -/
def item (level : Nat) (tokens : List Token) : Behind (List Outline × Option Fault) tokens :=
  let ⟨(first, after), shorter⟩ := value level tokens
  match after, shorter with
  | [], _ => ⟨(([first], some .truncated), []), Nat.zero_le _⟩
  | .closeBracket :: rest, shorter =>
    ⟨(([first], none), rest), Nat.le_of_succ_le shorter⟩
  | .comma :: rest, shorter =>
    let ⟨((items, ending), behind), evenShorter⟩ := item level rest
    ⟨((first :: items, ending), behind), Nat.le_trans evenShorter (Nat.le_of_succ_le shorter)⟩
  | _ :: _, _ => ⟨(([first], some .malformed), []), Nat.zero_le _⟩
termination_by (tokens.length, 1)

/-- The members behind an opening brace. -/
def firstMember (level : Nat) :
    (tokens : List Token) → Behind (List (Key × Outline) × Option Fault) tokens
  | [] => ⟨(([], some .truncated), []), Nat.le_refl _⟩
  | .closeBrace :: rest => ⟨(([], none), rest), Nat.le_succ _⟩
  | tokens => member level tokens
termination_by tokens => (tokens.length, 2)

/-- A member and the members behind it. -/
def member (level : Nat) : (tokens : List Token) →
    Behind (List (Key × Outline) × Option Fault) tokens
  | [] =>
    ⟨(([(.cut (.plain .truncated), .broken (.plain .truncated))], some .truncated), []),
      Nat.le_refl _⟩
  | .text reading :: .colon :: rest =>
    let ⟨(first, after), shorter⟩ := value level rest
    match after, shorter with
    | [], _ => ⟨(([(.text reading, first)], some .truncated), []), Nat.zero_le _⟩
    | .closeBrace :: rest', shorter =>
      ⟨(([(.text reading, first)], none), rest'), by simp only [List.length_cons] at *; omega⟩
    | .comma :: rest', shorter =>
      let ⟨((members, ending), behind), evenShorter⟩ := member level rest'
      ⟨(((.text reading, first) :: members, ending), behind),
        by simp only [List.length_cons] at *; omega⟩
    | _ :: _, _ => ⟨(([(.text reading, first)], some .malformed), []), Nat.zero_le _⟩
  | [.text reading] =>
    ⟨(([(.text reading, .broken (.plain .truncated))], some .truncated), []), Nat.zero_le _⟩
  | token :: _ =>
    ⟨(([(token.key, .broken (.plain .malformed))], some .malformed), []), Nat.zero_le _⟩
termination_by tokens => (tokens.length, 1)
decreasing_by all_goals simp only [List.length_cons, Prod.lex_def] at *; omega

end

/-- The outline of a text and the tokens behind it. -/
def ofText (text : String) : Outline × List Token := (value 0 (tokens text.toList)).1

end Outline

end Storyline.Json
