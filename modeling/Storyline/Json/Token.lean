import Storyline.Json.Escape

/-!
# JSON tokens

A text is cut into tokens from left to right. Gaps between tokens are spaces,
tabs and line ends. Where the text stops being JSON the tokens end with one that
tells why, so that whoever reads the tokens in order meets that fault exactly when
the reading gets there. A cut text has a token of its own, because it may stand
where only texts may.
-/

namespace Storyline.Json

/-- A token. `openBrace` and `closeBrace` enclose objects. -/
inductive Token where
  | openBracket
  | closeBracket
  | openBrace
  | closeBrace
  | comma
  | colon
  | null
  | bool (value : Bool)
  | number (reading : Except Fault Number)
  | text (reading : Except Fault String)
  | cutText (place : Break)
  | cut (place : Break)

/-- The characters that may stand between tokens. -/
def isGap (c : Char) : Bool := c = ' ' || c = '\n' || c = '\t' || c = '\r'

namespace Token

/-- The rest behind a word. A text that ends inside the word ends too early. -/
def takeWord (word : List Char) (characters : List Char) : Except Break (List Char) :=
  match word, characters with
  | [], rest => .ok rest
  | _ :: _, [] => .error (.inScalar .truncated .truncated)
  | letter :: more, c :: rest =>
    if c = letter then takeWord more rest else .error (.inScalar .malformed .malformed)

/-- The first token of a text that starts with a character outside the gaps, and
what follows it. Nothing follows a cut token. -/
def take (first : Char) (rest : List Char) : Token × List Char :=
  match first with
  | '[' => (.openBracket, rest)
  | ']' => (.closeBracket, rest)
  | '\x7b' => (.openBrace, rest)
  | '\x7d' => (.closeBrace, rest)
  | ',' => (.comma, rest)
  | ':' => (.colon, rest)
  | 'n' => word ['u', 'l', 'l'] .null
  | 't' => word ['r', 'u', 'e'] (.bool true)
  | 'f' => word ['a', 'l', 's', 'e'] (.bool false)
  | '"' =>
    match takeText rest with
    | .ok (reading, after) => (.text reading, after)
    | .error place => (.cutText place, [])
  | first =>
    if first = '-' || first.isDigit then
      match Numeral.take (first :: rest) with
      | .ok (numeral, after) => (.number numeral.number, after)
      | .error place => (.cut place, [])
    else (.cut (.plain .malformed), [])
where
  /-- A word whose first letter is already known. -/
  word (letters : List Char) (token : Token) : Token × List Char :=
    match takeWord letters rest with
    | .ok after => (token, after)
    | .error place => (.cut place, [])

end Token

/-- What follows a text is no longer than what follows its opening quotation mark. Whether
its pieces can be read plays no part: a text that is refused for an escape is passed over
just as far. -/
theorem length_of_takeText {characters rest : List Char} {reading : Except Fault String}
    (taken : takeText characters = .ok (reading, rest)) : rest.length ≤ characters.length := by
  unfold takeText at taken
  split at taken
  · rename_i pieces after scanned
    have closed : (Piece.scan characters).2 = .ok after := by rw [scanned]
    have shorter := Piece.length_of_scan closed
    have same : after = rest := by
      split at taken
      · exact (Prod.mk.inj (Except.ok.inj taken)).2
      · exact (Prod.mk.inj (Except.ok.inj taken)).2
    exact same ▸ shorter
  · split at taken <;> simp at taken

namespace Token

/-- What follows the letters of a word is no longer than the text they were looked for in. It is
just as long when there are no letters. -/
theorem length_of_takeWord {letters characters rest : List Char}
    (taken : takeWord letters characters = .ok rest) : rest.length ≤ characters.length := by
  fun_induction takeWord letters characters with
  | case1 after =>
    have same : after = rest := Except.ok.inj taken
    exact Nat.le_of_eq (congrArg List.length same.symm)
  | case2 => simp at taken
  | case3 more first rest' inductionHypothesis =>
    have shorter := inductionHypothesis taken
    simp only [List.length_cons]
    omega
  | case4 => simp at taken

/-- What follows a word is no longer than what follows its first letter. After a break nothing is
left to read. -/
theorem length_word (letters rest : List Char) (token : Token) :
    (take.word rest letters token).2.length ≤ rest.length := by
  unfold take.word
  split
  · rename_i after taken
    exact length_of_takeWord taken
  · exact Nat.zero_le _

/-- What follows a token is no longer than what follows its first character. -/
theorem length_take (first : Char) (rest : List Char) :
    (take first rest).2.length ≤ rest.length := by
  unfold take
  split
  case h_7 | h_8 | h_9 => exact length_word ..
  case h_10 =>
    split
    · rename_i reading after taken
      exact length_of_takeText taken
    · exact Nat.zero_le _
  case h_11 =>
    split
    · split
      · rename_i numeral after taken
        exact Nat.le_of_lt_succ (Numeral.length_of_take taken)
      · exact Nat.zero_le _
    · exact Nat.zero_le _
  all_goals exact Nat.le_refl _

end Token

/-- The tokens of a text. -/
def tokens : List Char → List Token
  | [] => []
  | c :: rest =>
    if isGap c then tokens rest
    else
      let taken := Token.take c rest
      taken.1 :: tokens taken.2
termination_by characters => characters.length
decreasing_by
  · exact Nat.lt_succ_self _
  · exact Nat.lt_succ_of_le (Token.length_take c rest)

end Storyline.Json
