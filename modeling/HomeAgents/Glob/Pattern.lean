/-!
# Glob patterns

A pattern is a list of tokens: single characters, `?` for any character, `*` for any sequence,
sets in brackets and their complements, and `**` for whole components of a path.
-/

namespace HomeAgents.Glob

/-- A member of a set: one character, or all from one to another. -/
inductive Member where
  | single (c : Char)
  | range (first last : Char)
deriving DecidableEq, Repr, Inhabited

/-- A part of a pattern. -/
inductive Token where
  | char (c : Char)
  | anyChar
  | anySequence
  | anyComponents
  | within (set : List Member)
  | except (set : List Member)
deriving DecidableEq, Repr, Inhabited

inductive Defect where
  | wildcards
  | recursiveWildcards
  | range
deriving DecidableEq, Repr, Inhabited

/-- A defect and its place, counted in characters. -/
structure PatternError where
  position : Nat
  defect : Defect
deriving DecidableEq, Repr, Inhabited

def Defect.text : Defect → String
  | wildcards => "wildcards are either regular `*` or recursive `**`"
  | recursiveWildcards => "recursive wildcards must form a single path component"
  | range => "invalid range pattern"

def PatternError.message (e : PatternError) : String :=
  "Pattern syntax error near position " ++ toString e.position ++ ": " ++ e.defect.text

/-- The members of a set; a hyphen between two characters makes a range. -/
def members : List Char → List Member
  | a :: '-' :: b :: rest => .range a b :: members rest
  | a :: rest => .single a :: members rest
  | [] => []

/-- The text up to the next closing bracket, and what stands behind it. -/
def upToBracket (cs : List Char) : Option (List Char × List Char) :=
  match cs.dropWhile (· ≠ ']') with
  | _ :: rest => some (cs.takeWhile (· ≠ ']'), rest)
  | [] => none

/-- The set at an opening bracket. The first character of a set never closes it. -/
def set? : List Char → Option (Token × List Char)
  | '!' :: first :: rest =>
    (upToBracket rest).map fun r => (.except (members (first :: r.1)), r.2)
  | '!' :: [] => none
  | first :: rest => (upToBracket rest).map fun r => (.within (members (first :: r.1)), r.2)
  | [] => none

/-- Adds the token for whole components unless the pattern so far ends with one behind others. -/
def addComponents (done : List Token) : List Token :=
  match done with
  | .anyComponents :: _ :: _ => done
  | _ => .anyComponents :: done

/-- Reads a pattern from `position` on. `before` is the character before it, and `done` holds the
tokens so far, backwards. Every step consumes a character. -/
def readFrom : Nat → Nat → Option Char → List Token → List Char → Except PatternError (List Token)
  | _, _, _, done, [] => .ok done.reverse
  | 0, _, _, done, _ => .ok done.reverse
  | fuel + 1, position, before, done, '*' :: cs =>
    let stars := (cs.takeWhile (· = '*')).length + 1
    let rest := cs.dropWhile (· = '*')
    let next := position + stars
    if 2 < stars then .error ⟨position + 2, .wildcards⟩
    else if stars < 2 then readFrom fuel next (some '*') (.anySequence :: done) rest
    else if position = 0 ∨ before = some '/' then
      match rest with
      | [] => readFrom fuel next (some '*') (addComponents done) []
      | '/' :: rest => readFrom fuel (next + 1) (some '/') (addComponents done) rest
      | _ => .error ⟨next, .recursiveWildcards⟩
    else .error ⟨position - 1, .recursiveWildcards⟩
  | fuel + 1, position, _, done, '?' :: cs =>
    readFrom fuel (position + 1) (some '?') (.anyChar :: done) cs
  | fuel + 1, position, _, done, '[' :: cs =>
    match set? cs with
    | some (token, rest) =>
      readFrom fuel (position + 1 + (cs.length - rest.length)) (some ']') (token :: done) rest
    | none => .error ⟨position, .range⟩
  | fuel + 1, position, _, done, c :: cs =>
    readFrom fuel (position + 1) (some c) (.char c :: done) cs

def read (pattern : String) : Except PatternError (List Token) :=
  readFrom pattern.length 0 none [] pattern.toList

end HomeAgents.Glob
