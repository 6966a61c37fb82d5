import Storyline.Json.Numeral

/-!
# JSON texts

Between its quotes a text is a sequence of pieces: characters that stand for
themselves, and code units, each written by an escape of four hexadecimal digits.
The grammar looks at the pieces alone. Reading also joins each high surrogate to
the low surrogate behind it; a surrogate without its partner is malformed, which
only shows when the text is wanted and not when it is passed over.
-/

namespace Storyline.Json

/-- One piece of a written text. -/
inductive Piece where
  | plain (c : Char)
  | unit (code : Nat)

namespace Piece

/-- The value of a hexadecimal digit of either case. -/
def hexValue? (c : Char) : Option Nat :=
  if c.isDigit then some (c.toNat - '0'.toNat)
  else if 'a' ≤ c && c ≤ 'f' then some (c.toNat - 'a'.toNat + 10)
  else if 'A' ≤ c && c ≤ 'F' then some (c.toNat - 'A'.toNat + 10)
  else none

/-- The code unit of four hexadecimal digits. -/
def unit? (first second third fourth : Char) : Option Nat := do
  let first ← hexValue? first
  let second ← hexValue? second
  let third ← hexValue? third
  let fourth ← hexValue? fourth
  return ((first * 16 + second) * 16 + third) * 16 + fourth

/-- The character of an escape with one letter. -/
def ofLetter? : Char → Option Char
  | '"' => some '"'
  | '\\' => some '\\'
  | '/' => some '/'
  | 'b' => some '\x08'
  | 'f' => some '\x0c'
  | 'n' => some '\n'
  | 'r' => some '\r'
  | 't' => some '\t'
  | _ => none

/-- What is wrong with an escape by code whose digits are too few: the text ends
too early unless four bytes are left, which then are no digits. -/
def shortEscape (rest : List Char) : Fault :=
  if (String.ofList rest).utf8ByteSize < 4 then .truncated else .malformed

/-- The pieces up to the closing quote, and the text behind it or the fault that
ends the grammar. -/
def scan : List Char → List Piece × Except Fault (List Char)
  | [] => ([], .error .truncated)
  | '"' :: rest => ([], .ok rest)
  | ['\\'] => ([], .error .truncated)
  | '\\' :: 'u' :: first :: second :: third :: fourth :: rest =>
    match unit? first second third fourth with
    | none => ([], .error .malformed)
    | some code =>
      let (pieces, after) := scan rest
      (.unit code :: pieces, after)
  | '\\' :: 'u' :: rest => ([], .error (shortEscape rest))
  | '\\' :: letter :: rest =>
    match ofLetter? letter with
    | none => ([], .error .malformed)
    | some c =>
      let (pieces, after) := scan rest
      (.plain c :: pieces, after)
  | c :: rest =>
    if c.toNat < 0x20 then ([], .error .malformed)
    else
      let (pieces, after) := scan rest
      (.plain c :: pieces, after)

/-- What follows the closing quote is no longer than the text with it. -/
theorem length_of_scan {characters rest : List Char}
    (closed : (scan characters).2 = .ok rest) : rest.length ≤ characters.length := by
  fun_induction scan characters with
  | case1 => simp at closed
  | case2 after =>
    have same : after = rest := Except.ok.inj closed
    simp [same]
  | case3 => simp at closed
  | case4 => simp at closed
  | case5 first second third fourth after code isUnit pieces behind scanned inductionHypothesis =>
    rw [scanned] at inductionHypothesis
    have shorter := inductionHypothesis closed
    simp only [List.length_cons]
    omega
  | case6 => simp at closed
  | case7 => simp at closed
  | case8 letter after _ _ c isLetter pieces behind scanned inductionHypothesis =>
    rw [scanned] at inductionHypothesis
    have shorter := inductionHypothesis closed
    simp only [List.length_cons]
    omega
  | case9 => simp at closed
  | case10 c after _ _ _ _ _ visible pieces behind scanned inductionHypothesis =>
    rw [scanned] at inductionHypothesis
    have shorter := inductionHypothesis closed
    simp only [List.length_cons]
    omega

/-- Whether a code unit is the first half of a pair. -/
def isHigh (code : Nat) : Bool := 0xD800 ≤ code && code ≤ 0xDBFF

/-- Whether a code unit is the second half of a pair. -/
def isLow (code : Nat) : Bool := 0xDC00 ≤ code && code ≤ 0xDFFF

/-- The characters of some pieces, if every surrogate has its partner. -/
def characters? : List Piece → Option (List Char)
  | [] => some []
  | .plain c :: rest => (characters? rest).map (c :: ·)
  | .unit high :: .unit low :: rest =>
    if isHigh high then
      if isLow low then
        let code := (high - 0xD800) * 0x400 + (low - 0xDC00) + 0x10000
        (characters? rest).map (Char.ofNat code :: ·)
      else none
    else if isLow high then none
    else (characters? (.unit low :: rest)).map (Char.ofNat high :: ·)
  | .unit code :: rest =>
    if isHigh code || isLow code then none
    else (characters? rest).map (Char.ofNat code :: ·)

/-- The pieces without a high surrogate at their end, whose partner may have been
cut off. -/
def withoutOpenPair (pieces : List Piece) : List Piece :=
  match pieces.getLast? with
  | some (.unit code) => if isHigh code then pieces.dropLast else pieces
  | _ => pieces

end Piece

/-- The text behind an opening quote, and what follows its closing quote. -/
def takeText (behindQuote : List Char) : Except Break (Except Fault String × List Char) :=
  match Piece.scan behindQuote with
  | (pieces, .ok rest) =>
    match Piece.characters? pieces with
    | some characters => .ok (.ok (String.ofList characters), rest)
    | none => .ok (.error .malformed, rest)
  | (pieces, .error fault) =>
    match Piece.characters? (Piece.withoutOpenPair pieces) with
    | some _ => .error (.plain fault)
    | none => .error ⟨.malformed, fault, .malformed⟩

end Storyline.Json
