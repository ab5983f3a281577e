import HomeAgents.Yaml.Quoted

/-!
# Plain scalars

A scalar without quotes ends at a colon before a blank, at a comment, at the indicators of a flow
collection it stands in, and in block context at a line that is not indented enough. Lines are
folded.
-/

namespace HomeAgents.Yaml

def endsPlain (flow : Bool) (c : Cursor) : Bool :=
  (c.at_ ':' && endsWord (c.peek 1)) || (flow && (c.rest.head?.map isFlowIndicator).getD false)

/-- A colon that must not stand in a flow collection. -/
def clashes (flow : Bool) (c : Cursor) : Bool :=
  flow && c.at_ ':' && ((c.peek 1).map fun x => x == '?' || isFlowIndicator x).getD false

/-- Reads the characters of a plain scalar up to a blank, a break or its end. `done` holds what
was read before, backwards. -/
def readPlainWord (flow : Bool) : Nat → List Char → Cursor → Except Fault (List Char × Cursor)
  | 0, done, c => .ok (done, c)
  | fuel + 1, done, c =>
    match c.rest with
    | [] => .ok (done, c)
    | x :: _ =>
      if isGap x || isBreak x then .ok (done, c)
      else if clashes flow c then .error .badPlainScalar
      else if endsPlain flow c then .ok (done, c)
      else readPlainWord flow fuel (x :: done) (c.skip 1)

/-- A plain scalar and whether a line break was read behind its last word. -/
structure PlainScalar where
  text : List Char
  broken : Bool
  after : Cursor
deriving DecidableEq, Repr, Inhabited

/-- Reads a plain scalar. `done` holds what was read before, backwards, and `gap` stands behind it;
`margin` is the least column for its lines in block context. -/
def readPlain (flow : Bool) (margin : Nat) :
    Nat → List Char → Gap → Cursor → Except Fault PlainScalar
  | 0, done, gap, c => .ok ⟨done.reverse, gap.broken, c⟩
  | fuel + 1, done, gap, c =>
    if c.atMarker || c.at_ '#' then .ok ⟨done.reverse, gap.broken, c⟩
    else do
      let (word, c') ← readPlainWord flow c.rest.length [] c
      let (done, gap) :=
        if word.isEmpty then (done, gap)
        else (word ++ (gap.folded.reverse ++ done), ⟨[], [], [], false⟩)
      if (c'.rest.head?.map fun x => isGap x || isBreak x).getD false then
        let (gap, c) ← readGap margin c'.rest.length gap c'
        if !flow && c.column < margin then .ok ⟨done.reverse, gap.broken, c⟩
        else readPlain flow margin fuel done gap c
      else .ok ⟨done.reverse, gap.broken, c'⟩

def plainScalar (flow : Bool) (margin : Nat) (c : Cursor) : Except Fault PlainScalar :=
  readPlain flow margin (c.rest.length + 1) [] ⟨[], [], [], false⟩ c

end HomeAgents.Yaml
