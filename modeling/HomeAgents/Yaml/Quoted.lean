import HomeAgents.Yaml.Cursor
import HomeAgents.Yaml.Fault

/-!
# Quoted scalars

A scalar between single quotes holds everything as it stands, with a quote written twice. Between
double quotes a backslash introduces an escape. In both, lines are folded and blanks around a
break vanish.
-/

namespace HomeAgents.Yaml

def hexValue? (c : Char) : Option Nat :=
  if c.isDigit then some (c.toNat - '0'.toNat)
  else if 'a' ≤ c && c ≤ 'f' then some (c.toNat - 'a'.toNat + 10)
  else if 'A' ≤ c && c ≤ 'F' then some (c.toNat - 'A'.toNat + 10)
  else none

def hexNumber? (cs : List Char) : Option Nat :=
  cs.foldlM (fun n c => (hexValue? c).map fun d => 16 * n + d) 0

/-- The character with a code point. -/
def charOf? (n : Nat) : Option Char :=
  if n.isValidChar then some (Char.ofNat n) else none

/-- The character that a letter behind a backslash stands for. -/
def simpleEscape? (c : Char) : Option Char :=
  [('0', '\x00'), ('a', '\x07'), ('b', '\x08'), ('t', '\t'), ('\t', '\t'), ('n', '\n'),
    ('v', '\x0b'), ('f', '\x0c'), ('r', '\r'), ('e', '\x1b'), (' ', ' '), ('"', '"'), ('/', '/'),
    ('\\', '\\'),
    ('N', '\x85'), ('_', '\xa0'), ('L', '\u2028'), ('P', '\u2029')].lookup c

/-- The number of hexadecimal digits that follow a letter behind a backslash. -/
def escapeDigits? (c : Char) : Option Nat :=
  [('x', 2), ('u', 4), ('U', 8)].lookup c

/-- Reads an escape behind its backslash: the character, and how many characters it takes. -/
def readEscape (rest : List Char) : Except Fault (Char × Nat) :=
  match rest with
  | [] => .error .badEscape
  | c :: digits =>
    match simpleEscape? c, escapeDigits? c with
    | some x, _ => .ok (x, 1)
    | none, some n =>
      match if n ≤ digits.length then hexNumber? (digits.take n) >>= charOf? else none with
      | some x => .ok (x, n + 1)
      | none => .error .badEscape
    | none, none => .error .badEscape

/-- Where the characters of a word in quotes end. -/
inductive WordEnd where
  | quote
  | gap
  | escapedBreak
deriving DecidableEq, Repr

/-- Reads a word: the characters up to a blank, a break or the closing quote. `done` holds what
was read before, backwards. -/
def readWord (single : Bool) :
    Nat → List Char → Cursor → Except Fault (List Char × WordEnd × Cursor)
  | 0, done, c => .ok (done, .gap, c)
  | fuel + 1, done, c =>
    match c.rest with
    | [] => .ok (done, .gap, c)
    | x :: rest =>
      if isGap x || isBreak x then .ok (done, .gap, c)
      else if single then
        if x ≠ '\'' then readWord single fuel (x :: done) (c.skip 1)
        else if rest.head? = some '\'' then readWord single fuel ('\'' :: done) (c.skip 2)
        else .ok (done, .quote, c)
      else if x = '"' then .ok (done, .quote, c)
      else if x ≠ '\\' then readWord single fuel (x :: done) (c.skip 1)
      else if (rest.head?.map isBreak).getD false then
        .ok (done, .escapedBreak, ((c.skip 1).skipBreak).2)
      else
        match readEscape rest with
        | .error e => .error e
        | .ok (y, n) => readWord single fuel (y :: done) (c.skip (n + 1))

/-- The blanks and breaks between two words: the blanks before the first break, the first break
and the breaks after it, all forwards. -/
structure Gap where
  blanks : List Char
  lead : List Char
  trail : List Char
  broken : Bool
deriving DecidableEq, Repr, Inhabited

/-- What stands for a gap in a folded scalar. -/
def Gap.folded (g : Gap) : List Char :=
  if g.broken then foldBreaks g.lead g.trail else g.blanks

/-- Reads blanks and breaks. Behind a break, a tab left of `margin` is refused. -/
def readGap (margin : Nat) : Nat → Gap → Cursor → Except Fault (Gap × Cursor)
  | 0, g, c => .ok (g, c)
  | fuel + 1, g, c =>
    match c.rest.head? with
    | none => .ok (g, c)
    | some x =>
      if isGap x then
        if g.broken && c.column < margin && x == '\t' then .error .tabAsIndentation
        else
          readGap margin fuel (if g.broken then g else { g with blanks := g.blanks ++ [x] })
            (c.skip 1)
      else if isBreak x then
        let (b, c) := c.skipBreak
        readGap margin fuel
          (if g.broken then { g with trail := g.trail ++ b } else ⟨[], b, [], true⟩) c
      else .ok (g, c)

/-- Reads a quoted scalar behind its opening quote; `done` holds what was read before, backwards. -/
def readQuoted (single : Bool) : Nat → List Char → Cursor → Except Fault (List Char × Cursor)
  | 0, _, _ => .error .openQuote
  | fuel + 1, done, c =>
    if c.atMarker || c.rest.isEmpty then .error .openQuote
    else do
      let (done, ending, c) ← readWord single c.rest.length done c
      if ending = .quote then .ok (done.reverse, c.skip 1)
      else
        let (g, c) ← readGap 0 c.rest.length ⟨[], [], [], ending = .escapedBreak⟩ c
        readQuoted single fuel (g.folded.reverse ++ done) c

/-- Reads a quoted scalar from its opening quote on. -/
def quotedScalar (single : Bool) (c : Cursor) : Except Fault (List Char × Cursor) :=
  readQuoted single (c.rest.length + 1) [] (c.skip 1)

end HomeAgents.Yaml
