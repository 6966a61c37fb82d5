import Storyline.State.Basic

/-!
# Filling in variables

A text may name variables between braces. The text is walked through once from
left to right. At an opening brace everything up to the next closing brace is a
token; a token with a meaning is replaced by its value, and in front of any other
token the brace stays as it is and the walk goes on behind it. Values are never
walked through themselves.
-/

namespace Storyline.Substitution

/-- Whether a name consists of ASCII letters, digits and underscores. -/
def isWord (name : List Char) : Bool :=
  !name.isEmpty && name.all fun c => c.isAlphanum || c == '_'

/-- The value of a flag in a text: what it holds if it is set, or else a stand-in. -/
def flagValue (unset : String) (state : State) (name : String) : String :=
  match state.flags.get? name with
  | some flag => if flag.isSet then flag.shown else unset
  | none => unset

/-- The value of a token, if it has a meaning. -/
def valueOf (unset : String) (state : State) (token : List Char) : Option String :=
  if token = ['p', 'l', 'a', 'y', 'e', 'r'] then some state.playerName
  else if token = ['t', 'i', 'm', 'e'] then some state.timeOfDay
  else match token with
    | 'f' :: 'l' :: 'a' :: 'g' :: 's' :: '.' :: name =>
      if isWord name then some (flagValue unset state (String.ofList name)) else none
    | name => if isWord name then state.fieldText (String.ofList name) else none

/-- Splits what follows an opening brace into the token and what follows its
closing brace, if there is one. -/
def splitToken (behind : List Char) : Option (List Char × List Char) :=
  match behind.dropWhile (· != '\x7d') with
  | [] => none
  | _ :: rest => some (behind.takeWhile (· != '\x7d'), rest)

/-- What follows a token is shorter than what follows its opening brace. -/
theorem length_of_splitToken {behind token rest : List Char}
    (split : splitToken behind = some (token, rest)) : rest.length < behind.length := by
  unfold splitToken at split
  cases closed : behind.dropWhile (· != '\x7d') with
  | nil => simp [closed] at split
  | cons brace after =>
    simp only [closed, Option.some.injEq, Prod.mk.injEq] at split
    have shorter := (List.dropWhile_sublist (l := behind) (· != '\x7d')).length_le
    rw [closed, split.2, List.length_cons] at shorter
    exact shorter

/-- A text with its variables filled in. -/
def fill (unset : String) (state : State) : List Char → List Char
  | [] => []
  | c :: behind =>
    if c = '\x7b' then
      match _found : splitToken behind with
      | none => c :: fill unset state behind
      | some (token, rest) =>
        match valueOf unset state token with
        | some value => value.toList ++ fill unset state rest
        | none => c :: fill unset state behind
    else c :: fill unset state behind
termination_by text => text.length
decreasing_by
  · exact Nat.lt_succ_self _
  · exact Nat.lt_succ_of_lt (length_of_splitToken _found)
  · exact Nat.lt_succ_self _
  · exact Nat.lt_succ_self _

/-- A text with its variables filled in. -/
def substitute (unset : String) (state : State) (text : String) : String :=
  String.ofList (fill unset state text.toList)

end Storyline.Substitution
