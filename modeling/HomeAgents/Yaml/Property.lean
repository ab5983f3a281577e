import HomeAgents.Yaml.Quoted
import HomeAgents.Yaml.Token

/-!
# Directives, anchors and tags

The tokens that say something about a document or a node rather than being content. Tags are
addresses; bytes of them may be written as escapes, and each byte is kept as one character.
-/

namespace HomeAgents.Yaml

/-- A character of an address. Some only stand between angle brackets or in directives. -/
def isAddressChar (whole : Bool) (c : Char) : Bool :=
  isNameChar c || ";/?:@&=+$.%!~*'()".toList.contains c || (whole && ",[]".toList.contains c)

/-- The bytes of an escaped character: the first says how many there are. -/
def escapedLength? (byte : Nat) : Option Nat :=
  if byte < 0x80 then some 1
  else if 0xC0 ≤ byte && byte < 0xE0 then some 2
  else if 0xE0 ≤ byte && byte < 0xF0 then some 3
  else if 0xF0 ≤ byte && byte < 0xF8 then some 4
  else none

/-- Reads `n` escaped bytes that go on with a character. -/
def readMoreBytes : Nat → List Char → Option (List Char × List Char)
  | 0, cs => some ([], cs)
  | n + 1, '%' :: a :: b :: rest => do
    let byte ← hexNumber? [a, b]
    if byte / 64 = 2 then
      let (bytes, rest) ← readMoreBytes n rest
      return (Char.ofNat byte :: bytes, rest)
    else none
  | _ + 1, _ => none

/-- Reads one escaped character behind its first percent sign. -/
def readEscapedBytes : List Char → Option (List Char × List Char)
  | a :: b :: rest => do
    let byte ← hexNumber? [a, b]
    let n ← escapedLength? byte
    let (bytes, rest) ← readMoreBytes (n - 1) rest
    return (Char.ofNat byte :: bytes, rest)
  | _ => none

def readAddress (whole : Bool) : Nat → List Char → Except Fault (List Char × List Char)
  | 0, cs => .ok ([], cs)
  | _ + 1, [] => .ok ([], [])
  | fuel + 1, c :: cs =>
    if !isAddressChar whole c then .ok ([], c :: cs)
    else if c = '%' then
      match readEscapedBytes cs with
      | none => .error .badTag
      | some (bytes, rest) =>
        (readAddress whole fuel rest).map fun (more, rest) => (bytes ++ more, rest)
    else (readAddress whole fuel cs).map fun (more, rest) => (c :: more, rest)

/-- Reads an address at a position. -/
def address (whole : Bool) (c : Cursor) : Except Fault (List Char × Cursor) :=
  (readAddress whole c.rest.length c.rest).map fun (text, rest) =>
    (text, c.skip (c.rest.length - rest.length))

/-- Reads an exclamation mark, a name and perhaps another mark. -/
def handle (c : Cursor) : Except Fault (List Char × Cursor) :=
  if c.at_ '!' then
    let (name, c) := (c.skip 1).skipWhile isNameChar
    if c.at_ '!' then .ok ('!' :: (name ++ ['!']), c.skip 1) else .ok ('!' :: name, c)
  else .error .badTag

/-- Reads a tag between angle brackets behind the opening one. -/
def verbatimTag (c : Cursor) : Except Fault (Token × Cursor) := do
  let (text, c) ← address true c
  if text.isEmpty || !c.at_ '>' then .error .badTag
  else return (.tag "" (String.ofList text), c.skip 1)

/-- Reads a tag with a handle. An exclamation mark alone is a tag of its own. -/
def shorthandTag (c : Cursor) : Except Fault (Token × Cursor) := do
  let (h, c') ← handle c
  let (rest, c) ← address false c'
  if 2 ≤ h.length && h.getLast? = some '!' then
    if c.index = c'.index then .error .badTag
    else return (.tag (String.ofList h) (String.ofList rest), c)
  else
    let rest := h.drop 1 ++ rest
    if rest.isEmpty then return (.tag "" "!", c) else return (.tag "!" (String.ofList rest), c)

def tagToken (flow : Bool) (c : Cursor) : Except Fault (Token × Cursor) := do
  let (t, c) ← if (c.peek 1) = some '<' then verbatimTag (c.skip 2) else shorthandTag c
  if (flow && c.at_ ',') || endsWord c.rest.head? then return (t, c) else .error .badTag

/-- Reads the name of an anchor or an alias behind its mark. -/
def anchorName (c : Cursor) : Except Fault (String × Cursor) :=
  let (name, c) := (c.skip 1).skipWhile isNameChar
  let ends := endsWord c.rest.head? ||
    (c.rest.head?.map fun x => "?:,]\x7d%@\x60".toList.contains x).getD false
  if !name.isEmpty && ends then .ok (String.ofList name, c) else .error .badAnchor

/-- Reads a number of a version: up to nine digits. -/
def versionNumber (c : Cursor) : Except Fault (Nat × Cursor) :=
  let (digits, c) := c.skipWhile Char.isDigit
  if digits.isEmpty || 9 < digits.length then .error .badDirective
  else .ok (digits.foldl (fun n d => 10 * n + (d.toNat - '0'.toNat)) 0, c)

def versionDirective (c : Cursor) : Except Fault (Token × Cursor) := do
  let (major, c) ← versionNumber (c.skipWhile isGap).2
  if c.at_ '.' then
    let (minor, c) ← versionNumber (c.skip 1)
    return (.versionDirective major minor, c)
  else .error .badDirective

def tagDirective (c : Cursor) : Except Fault (Token × Cursor) := do
  let (h, c) ← handle (c.skipWhile isGap).2
  if (h.length ≠ 1 && h.getLast? ≠ some '!') || !(c.rest.head?.map isGap).getD false then
    .error .badDirective
  else
    let (start, c) ← address true (c.skipWhile isGap).2
    if start.isEmpty || !endsWord c.rest.head? then .error .badDirective
    else return (.tagDirective (String.ofList h) (String.ofList start), c)

/-- Reads a directive with the rest of its line. -/
def directiveToken (c : Cursor) : Except Fault (Token × Cursor) := do
  let (name, c) := (c.skip 1).skipWhile isNameChar
  let (t, c) ←
    if name = "YAML".toList && endsWord c.rest.head? then versionDirective c
    else if name = "TAG".toList && endsWord c.rest.head? then tagDirective c
    else .error .badDirective
  let c := c.skipToLineEnd
  if endsLine c.rest.head? then return (t, c.skipBreak.2) else .error .badDirective

end HomeAgents.Yaml
