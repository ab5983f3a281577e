/-!
# Reading positions

The characters that matter to the layout of YAML, and a position in a text that is read. A
position knows its column, because indentation carries meaning, and its line and index, because a
key has to fit into one line and into 1024 characters.
-/

namespace HomeAgents.Yaml

/-- A character that may occur in a text: no control character but tabs and line breaks, and no
noncharacter of the basic plane. -/
def isAllowed (c : Char) : Bool :=
  let n := c.toNat
  n == 0x9 || n == 0xA || n == 0xD || (0x20 ≤ n && n ≤ 0x7E) || n == 0x85 ||
    (0xA0 ≤ n && n ≤ 0xFFFD) || 0x10000 ≤ n

/-- A space or a tab. -/
def isGap (c : Char) : Bool :=
  c == ' ' || c == '\t'

def isBreak (c : Char) : Bool :=
  c == '\n' || c == '\r' || c == '\x85' || c == '\u2028' || c == '\u2029'

/-- A character of names: an ASCII letter or digit, a hyphen or an underscore. -/
def isNameChar (c : Char) : Bool :=
  c.isAlphanum || c == '-' || c == '_'

def isFlowIndicator (c : Char) : Bool :=
  [',', '[', ']', '\x7b', '\x7d'].contains c

/-- Nothing more in this word: a space, a tab, a line break or the end of the text. -/
def endsWord : Option Char → Bool
  | none => true
  | some c => isGap c || isBreak c

/-- Nothing more in this line: a line break or the end of the text. -/
def endsLine : Option Char → Bool
  | none => true
  | some c => isBreak c

/-- A place in a text: what is still to be read, how many characters stand before it, and how many
lines, and how many characters of its line. -/
structure Cursor where
  rest : List Char
  index : Nat
  line : Nat
  column : Nat
deriving DecidableEq, Repr, Inhabited

namespace Cursor

def start (cs : List Char) : Cursor := ⟨cs, 0, 0, 0⟩

/-- The character `n` places ahead. -/
def peek (c : Cursor) (n : Nat) : Option Char :=
  c.rest[n]?

def at_ (c : Cursor) (x : Char) : Bool :=
  c.rest.head? == some x

/-- Passes over characters of one line. -/
def skip (c : Cursor) (n : Nat) : Cursor :=
  ⟨c.rest.drop n, c.index + n, c.line, c.column + n⟩

/-- Passes over the characters of a class that has no line breaks, and gives them. -/
def skipWhile (c : Cursor) (p : Char → Bool) : List Char × Cursor :=
  let taken := c.rest.takeWhile p
  (taken, c.skip taken.length)

/-- Passes over a line break, if there is one. A carriage return and a line feed are one break. A
break is read as a line feed unless it is a line or paragraph separator. -/
def skipBreak (c : Cursor) : List Char × Cursor :=
  match c.rest with
  | '\r' :: '\n' :: rest => (['\n'], ⟨rest, c.index + 2, c.line + 1, 0⟩)
  | x :: rest =>
    if isBreak x then
      (if x == '\u2028' || x == '\u2029' then [x] else ['\n'], ⟨rest, c.index + 1, c.line + 1, 0⟩)
    else ([], c)
  | [] => ([], c)

/-- A marker of documents stands at the beginning of the line. -/
def atMarker (c : Cursor) : Bool :=
  c.column == 0 && ["---".toList, "...".toList].contains (c.rest.take 3) && endsWord (c.peek 3)

/-- Passes over blanks and a comment up to the end of the line. -/
def skipToLineEnd (c : Cursor) : Cursor :=
  let c := (c.skipWhile isGap).2
  if c.at_ '#' then (c.skipWhile fun x => !isBreak x).2 else c

end Cursor

/-- What a line break and the breaks of empty lines after it become where lines are folded: a
single line feed becomes a space, and before other breaks it vanishes. Without a break in front
the others stay. -/
def foldBreaks (lead trail : List Char) : List Char :=
  match lead with
  | ['\n'] => if trail.isEmpty then [' '] else trail
  | lead => lead ++ trail

end HomeAgents.Yaml
