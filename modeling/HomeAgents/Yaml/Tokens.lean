import HomeAgents.Yaml.Block
import HomeAgents.Yaml.Plain
import HomeAgents.Yaml.Property

/-!
# From text to tokens

Tokens are read one after the other. Two things need a memory. Block collections open and close
with the indentation, so the open indentations are kept. And a key is only known to be one when
its colon comes: the place of the last token that could begin a key is kept for every level of
flow collections, and the missing tokens are put in there.
-/

namespace HomeAgents.Yaml

/-- A token that may begin a key without a mark: how many tokens stand before it, and where it is.
One that stands at the indentation of its block has to be a key. -/
structure KeyMark where
  before : Nat
  required : Bool
  at_ : Cursor
deriving DecidableEq, Repr, Inhabited

/-- The state of the reading of tokens. `done` holds them backwards. `indents` holds the open
indentations and `marks` the key marks, both innermost first; there is one mark for each flow level
and one for the block context. -/
structure Scan where
  cursor : Cursor
  done : List Token
  indents : List Nat
  flow : Nat
  keyAllowed : Bool
  marks : List (Option KeyMark)
deriving DecidableEq, Repr, Inhabited

namespace Scan

def start (cs : List Char) : Scan :=
  ⟨.start cs, [], [], 0, true, [none]⟩

def inFlow (s : Scan) : Bool :=
  0 < s.flow

/-- Adds a token and goes on at a position. -/
def push (s : Scan) (t : Token) (c : Cursor) : Scan :=
  { s with done := t :: s.done, cursor := c }

/-- Puts a token in so that `before` tokens stand before it. -/
def insert (s : Scan) (before : Nat) (t : Token) : Scan :=
  let later := s.done.length - before
  { s with done := s.done.take later ++ t :: s.done.drop later }

/-- The least column of lines that belong to the innermost block. -/
def margin (s : Scan) : Nat :=
  (s.indents.head?.map (· + 1)).getD 0

/-- The column lies right of the innermost open indentation. -/
def deeper (s : Scan) (column : Nat) : Bool :=
  s.margin ≤ column

/-- Opens a block collection at a column, if it lies deeper; its token gets `before` tokens before
it. -/
def openBlock (s : Scan) (column before : Nat) (t : Token) : Scan :=
  if !s.inFlow && s.deeper column then
    { s.insert before t with indents := column :: s.indents }
  else s

/-- Closes the block collections that lie deeper than a column; without a column all of them. -/
def closeBlocks (s : Scan) (column : Option Nat) : Scan :=
  if s.inFlow then s
  else
    let closed := s.indents.takeWhile fun i => (column.map fun c => decide (c < i)).getD true
    { s with
      done := List.replicate closed.length .blockEnd ++ s.done
      indents := s.indents.drop closed.length }

/-- A mark that the reading has left behind: in an earlier line or too far back. -/
def isStale (m : KeyMark) (c : Cursor) : Bool :=
  m.at_.line < c.line || m.at_.index + 1024 < c.index

/-- Gives up the marks that have been left behind. -/
def dropStale (s : Scan) : Except Fault Scan :=
  let stale (m : Option KeyMark) : Bool := (m.map fun m => isStale m s.cursor).getD false
  if s.marks.any fun m => stale m && (m.map (·.required)).getD false then .error .keyWithoutValue
  else .ok { s with marks := s.marks.map fun m => if stale m then none else m }

def dropMark (s : Scan) : Except Fault Scan :=
  match s.marks with
  | some m :: rest =>
    if m.required then .error .keyWithoutValue else .ok { s with marks := none :: rest }
  | _ => .ok s

/-- Marks the next token as the possible beginning of a key, where one may stand. -/
def markKey (s : Scan) : Except Fault Scan := do
  if s.keyAllowed then
    let required := !s.inFlow && s.indents.head? = some s.cursor.column
    let s ← s.dropMark
    return { s with marks := some ⟨s.done.length, required, s.cursor⟩ :: s.marks.drop 1 }
  else return s

/-- Passes over blanks, comments and line breaks. A tab may not stand where a key may begin. -/
def skipGaps (s : Scan) : Nat → Scan
  | 0 => s
  | fuel + 1 =>
    let tabs := s.inFlow || !s.keyAllowed
    let c := (s.cursor.skipWhile fun x => x == ' ' || (tabs && x == '\t')).2
    let c := if c.at_ '#' then (c.skipWhile fun x => !isBreak x).2 else c
    if (c.rest.head?.map isBreak).getD false then
      skipGaps { s with cursor := c.skipBreak.2, keyAllowed := s.keyAllowed || !s.inFlow } fuel
    else { s with cursor := c }

/-- Reads a directive or a document marker, which closes all blocks. -/
def boundary (s : Scan) (t : Token) (c : Cursor) : Except Fault Scan := do
  let s ← (s.closeBlocks none).dropMark
  return { s.push t c with keyAllowed := false }

def openFlow (s : Scan) (t : Token) : Except Fault Scan := do
  let s ← s.markKey
  return { s.push t (s.cursor.skip 1) with
    flow := s.flow + 1, keyAllowed := true, marks := none :: s.marks }

def closeFlow (s : Scan) (t : Token) : Except Fault Scan := do
  let s ← s.dropMark
  let s := if s.inFlow then { s with flow := s.flow - 1, marks := s.marks.drop 1 } else s
  return { s.push t (s.cursor.skip 1) with keyAllowed := false }

def flowEntry (s : Scan) : Except Fault Scan := do
  let s ← s.dropMark
  return { s.push .flowEntry (s.cursor.skip 1) with keyAllowed := true }

def blockEntry (s : Scan) : Except Fault Scan := do
  if !s.inFlow && !s.keyAllowed then .error .misplacedEntry
  else
    let s ← (s.openBlock s.cursor.column s.done.length .blockSequenceStart).dropMark
    return { s.push .blockEntry (s.cursor.skip 1) with keyAllowed := true }

/-- Begins a key with a mark. -/
def keyEntry (s : Scan) : Except Fault Scan := do
  if !s.inFlow && !s.keyAllowed then .error .misplacedKey
  else
    let s ← (s.openBlock s.cursor.column s.done.length .blockMappingStart).dropMark
    return { s.push .key (s.cursor.skip 1) with keyAllowed := !s.inFlow }

/-- Begins a value. If the innermost mark still holds, a key began there. -/
def valueEntry (s : Scan) : Except Fault Scan :=
  match s.marks with
  | some m :: rest =>
    let s := (s.insert m.before .key).openBlock m.at_.column m.before .blockMappingStart
    .ok { s.push .value (s.cursor.skip 1) with keyAllowed := false, marks := none :: rest }
  | _ =>
    if !s.inFlow && !s.keyAllowed then .error .misplacedValue
    else
      let s := s.openBlock s.cursor.column s.done.length .blockMappingStart
      .ok { s.push .value (s.cursor.skip 1) with keyAllowed := !s.inFlow }

/-- Reads a token that is content and may begin a key. -/
def content (s : Scan) (read : Cursor → Except Fault (Token × Cursor)) : Except Fault Scan := do
  let s ← s.markKey
  let (t, c) ← read s.cursor
  return { s.push t c with keyAllowed := false }

def quoted (s : Scan) (single : Bool) : Except Fault Scan :=
  s.content fun c => (quotedScalar single c).map fun (text, c) =>
    (.scalar (String.ofList text) (if single then .singleQuoted else .doubleQuoted), c)

/-- Reads a plain scalar; behind a line break a key may begin again. -/
def plain (s : Scan) : Except Fault Scan := do
  let s ← s.markKey
  let p ← plainScalar s.inFlow s.margin s.cursor
  return { s.push (.scalar (String.ofList p.text) .plain) p.after with keyAllowed := p.broken }

def block (s : Scan) (literal : Bool) : Except Fault Scan := do
  let s ← s.dropMark
  let (text, c) ← blockScalar literal s.indents.head? s.cursor
  return { s.push (.scalar (String.ofList text) (if literal then .literal else .folded)) c with
    keyAllowed := true }

/-- Whether a plain scalar may begin with a character that another one follows. -/
def beginsPlain (flow : Bool) (x : Char) (next : Option Char) : Bool :=
  if x = '-' then !(next.map isGap).getD false
  else if x = '?' || x = ':' then !flow && !endsWord next
  else !isGap x && !isBreak x && !",[]\x7b\x7d#&*!|>'\"%@\x60".toList.contains x

/-- Reads the token that begins with a character. -/
def token (s : Scan) (x : Char) : Except Fault Scan :=
  let c := s.cursor
  let next := c.peek 1
  if c.column = 0 && x = '%' then do
    let (t, c) ← directiveToken c
    s.boundary t c
  else if c.atMarker then s.boundary (if x = '-' then .documentStart else .documentEnd) (c.skip 3)
  else if x = '[' then s.openFlow .flowSequenceStart
  else if x = '\x7b' then s.openFlow .flowMappingStart
  else if x = ']' then s.closeFlow .flowSequenceEnd
  else if x = '\x7d' then s.closeFlow .flowMappingEnd
  else if x = ',' then s.flowEntry
  else if x = '-' && endsWord next then s.blockEntry
  else if x = '?' && (s.inFlow || endsWord next) then s.keyEntry
  else if x = ':' && (s.inFlow || endsWord next) then s.valueEntry
  else if x = '*' then s.content fun c => (anchorName c).map fun (n, c) => (.alias n, c)
  else if x = '&' then s.content fun c => (anchorName c).map fun (n, c) => (.anchor n, c)
  else if x = '!' then s.content (tagToken s.inFlow)
  else if x = '|' && !s.inFlow then s.block true
  else if x = '>' && !s.inFlow then s.block false
  else if x = '\'' then s.quoted true
  else if x = '"' then s.quoted false
  else if beginsPlain s.inFlow x next then s.plain
  else .error .badToken

/-- Reads all tokens. Every token takes at least one character. -/
def run : Nat → Scan → Except Fault (List Token)
  | 0, s => .ok s.done.reverse
  | fuel + 1, s => do
    let s := s.skipGaps s.cursor.rest.length
    let s ← s.dropStale
    let s := s.closeBlocks (some s.cursor.column)
    match s.cursor.rest with
    | [] =>
      let s ← (s.closeBlocks none).dropMark
      return s.done.reverse
    | x :: _ => run fuel (← s.token x)

end Scan

/-- The tokens of a text. A byte order mark in front of it is passed over. -/
def tokens (text : String) : Except Fault (List Token) :=
  let cs := text.toList
  let cs := if cs.head? = some '\ufeff' then cs.drop 1 else cs
  if cs.all isAllowed then Scan.run (cs.length + 1) (.start cs) else .error .controlCharacter

end HomeAgents.Yaml
