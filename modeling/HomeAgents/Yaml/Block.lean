import HomeAgents.Yaml.Cursor
import HomeAgents.Yaml.Fault

/-!
# Block scalars

A literal scalar keeps its lines and a folded one folds them, except for lines that begin with a
blank. The header may fix the indentation and says what becomes of the breaks at the end: they are
clipped to one, stripped, or kept.
-/

namespace HomeAgents.Yaml

/-- What becomes of the breaks at the end of a block scalar. -/
inductive Chomping where
  | clip
  | strip
  | keep
deriving DecidableEq, Repr

/-- The header of a block scalar: the indentation it fixes, zero if none, and the chomping. -/
structure BlockHeader where
  increment : Nat
  chomping : Chomping
deriving DecidableEq, Repr

/-- The chomping of an indicator. -/
def chompingOf? : Option Char → Option Chomping
  | some '+' => some .keep
  | some '-' => some .strip
  | _ => none

/-- The indentation of an indicator; it is not zero. -/
def readIncrement (c : Cursor) : Except Fault (Nat × Cursor) :=
  match c.rest.head? with
  | some d =>
    if d = '0' then .error .badBlockScalar
    else if d.isDigit then .ok (d.toNat - '0'.toNat, c.skip 1)
    else .ok (0, c)
  | none => .ok (0, c)

/-- Reads the indicators of a header, in either order. -/
def readIndicators (c : Cursor) : Except Fault (BlockHeader × Cursor) :=
  match chompingOf? c.rest.head? with
  | some chomping => (readIncrement (c.skip 1)).map fun (n, c) => (⟨n, chomping⟩, c)
  | none =>
    match readIncrement c with
    | .error e => .error e
    | .ok (n, c') =>
      match if n = 0 then none else chompingOf? c'.rest.head? with
      | some chomping => .ok (⟨n, chomping⟩, c'.skip 1)
      | none => .ok (⟨n, .clip⟩, c')

/-- Reads the empty lines and the indentation before a line. With `indent` zero the indentation is
found out: `widest` is the greatest column so far. -/
def readIndentation (indent : Nat) :
    Nat → Nat → List Char → Cursor → Except Fault (Nat × List Char × Cursor)
  | 0, widest, breaks, c => .ok (widest, breaks, c)
  | fuel + 1, widest, breaks, c =>
    let room := if indent = 0 then c.rest.length else indent - c.column
    let c := c.skip ((c.rest.take room).takeWhile (· == ' ')).length
    let widest := max widest c.column
    if (indent = 0 || c.column < indent) && c.at_ '\t' then .error .tabAsIndentation
    else if (c.rest.head?.map isBreak).getD false then
      let (b, c) := c.skipBreak
      readIndentation indent fuel widest (breaks ++ b) c
    else .ok (widest, breaks, c)

/-- The text of a block scalar so far, backwards, the break that ended its last line and the
breaks of the empty lines behind it. -/
structure BlockText where
  done : List Char
  lead : List Char
  trail : List Char
  indented : Bool
deriving DecidableEq, Repr, Inhabited

/-- Reads the lines of a block scalar. -/
def readBlockLines (literal : Bool) (indent : Nat) :
    Nat → BlockText → Cursor → Except Fault (BlockText × Cursor)
  | 0, t, c => .ok (t, c)
  | fuel + 1, t, c =>
    match c.rest with
    | [] => .ok (t, c)
    | x :: _ =>
      if c.column ≠ indent then .ok (t, c)
      else do
        let joined :=
          if !literal && !t.indented && !isGap x then foldBreaks t.lead t.trail
          else t.lead ++ t.trail
        let (line, c) := c.skipWhile fun x => !isBreak x
        let (lead, c) := c.skipBreak
        let (_, trail, c) ← readIndentation indent c.rest.length 0 [] c
        readBlockLines literal indent fuel
          ⟨line.reverse ++ (joined.reverse ++ t.done), lead, trail, isGap x⟩ c

/-- The whole text of a block scalar. -/
def BlockText.chomped (t : BlockText) : Chomping → List Char
  | .strip => t.done.reverse
  | .clip => t.done.reverse ++ t.lead
  | .keep => t.done.reverse ++ t.lead ++ t.trail

/-- Reads a block scalar from its indicator on, in a block that is indented to `outer`, if it is. -/
def blockScalar (literal : Bool) (outer : Option Nat) (c : Cursor) :
    Except Fault (List Char × Cursor) := do
  let (header, c) ← readIndicators (c.skip 1)
  let c := c.skipToLineEnd
  if !endsLine c.rest.head? then .error .badBlockScalar
  else
    let c := c.skipBreak.2
    let fixed := if header.increment = 0 then 0 else outer.getD 0 + header.increment
    let (widest, trail, c) ← readIndentation fixed (c.rest.length + 1) 0 [] c
    let least := (outer.map (· + 1)).getD 0
    let indent := if fixed = 0 then max 1 (max widest least) else fixed
    let (t, c) ← readBlockLines literal indent c.rest.length ⟨[], [], trail, false⟩ c
    return (t.chomped header.chomping, c)

end HomeAgents.Yaml
