import HomeAgents.Yaml.Tokens

/-!
# Nodes

A YAML document is a tree of nodes. An alias stands for the node that was given a number; a number
that is given again means the node that got it last.
-/

namespace HomeAgents.Yaml

/-- A scalar with its tag, if it has one. -/
structure Scalar where
  text : String
  style : ScalarStyle
  tag : Option String
deriving DecidableEq, Repr, Inhabited

inductive Node where
  | scalar (s : Scalar)
  | sequence (tag : Option String) (items : List Node)
  | mapping (tag : Option String) (pairs : List (Node × Node))
  | alias (number : Nat)
deriving Repr, Inhabited

/-- A node that goes by a number; `order` counts the numbers given before. -/
structure Anchored where
  number : Nat
  order : Nat
  node : Node
deriving Repr, Inhabited

/-- A document: its root, unless the text has none, and the nodes that aliases stand for. -/
structure Document where
  root : Option Node
  anchored : List Anchored
deriving Repr, Inhabited

/-- The node that a number means. -/
def Document.target? (d : Document) (number : Nat) : Option Node :=
  (d.anchored.foldl (fun (best : Option Anchored) a =>
    if a.number ≠ number then best
    else
      match best with
      | none => some a
      | some b => if b.order < a.order then some a else some b) none).map (·.node)

/-- The state of the reading of nodes: the tokens to come, the tag handles of the document, the
numbers of the anchor names, how many numbers were given and what they mean so far. -/
structure Reading where
  tokens : List Token
  handles : List (String × String)
  names : List (String × Nat)
  given : Nat
  anchored : List Anchored
deriving Repr, Inhabited

/-- A step of the reading of nodes. -/
abbrev Reads (α : Type) := StateT Reading (Except Fault) α

namespace Reads

def peek : Reads (Option Token) := do
  return (← get).tokens.head?

def skip : Reads Unit :=
  modify fun r => { r with tokens := r.tokens.drop 1 }

def fail {α : Type} (f : Fault) : Reads α :=
  throw f

/-- Gives a name a number: the count of the names that have one, whether or not it is among them. -/
def giveNumber (name : String) : Reads (Nat × Nat) := do
  let r ← get
  let number := r.names.length
  set { r with
    names := (name, number) :: r.names.filter fun e => e.1 ≠ name
    given := r.given + 1 }
  return (number, r.given)

/-- Notes the node of a number. -/
def note (place : Option (Nat × Nat)) (node : Node) : Reads Node := do
  match place with
  | none => return node
  | some (number, order) =>
    modify fun r => { r with anchored := r.anchored ++ [⟨number, order, node⟩] }
    return node

end Reads

/-- The handles that every document knows. -/
def defaultHandles : List (String × String) :=
  [("!", "!"), ("!!", "tag:yaml.org,2002:")]

/-- The whole of a tag. -/
def expandTag (handle rest : String) : Reads String := do
  if handle.isEmpty then return rest
  else
    match (← get).handles.lookup handle with
    | some start => return start ++ rest
    | none => Reads.fail .undefinedTag

def readAnchor : Reads (Option String) := do
  match ← Reads.peek with
  | some (.anchor name) =>
    Reads.skip
    return some name
  | _ => return none

def readTag : Reads (Option (String × String)) := do
  match ← Reads.peek with
  | some (.tag handle rest) =>
    Reads.skip
    return some (handle, rest)
  | _ => return none

/-- Reads an anchor and a tag in either order. -/
def readProperties : Reads (Option String × Option String) := do
  let early ← readAnchor
  let tag ← readTag
  let late ← if early.isNone && tag.isSome then readAnchor else pure none
  let tag ←
    match tag with
    | none => pure none
    | some (handle, rest) => do pure (some (← expandTag handle rest))
  return (early <|> late, tag)

/-- The scalar that stands for nothing. -/
def nothing : Node :=
  .scalar ⟨"", .plain, none⟩

/-- A token that ends an entry of a block collection. -/
def endsEntry (mapping : Bool) : Option Token → Bool
  | some .blockEntry => !mapping
  | some .key => mapping
  | some .value => mapping
  | some .blockEnd => true
  | _ => false

/-- A token that ends an entry of a block sequence without indentation of its own. -/
def endsLooseEntry (t : Option Token) : Bool :=
  endsEntry true t || t == some .blockEntry

mutual

/-- Reads a node. Block collections are allowed where `block` says so, and sequences without
indentation of their own where `loose` does. -/
def readNode (block loose : Bool) : Nat → Reads Node
  | 0 => Reads.fail .tooDeep
  | fuel + 1 => do
    if let some (.alias name) ← Reads.peek then
      Reads.skip
      match (← get).names.lookup name with
      | some number => return .alias number
      | none => Reads.fail .undefinedAlias
    else
      let (name, tag) ← readProperties
      let tag := tag.filter (!·.isEmpty)
      let place ←
        match name with
        | none => pure none
        | some name => do pure (some (← Reads.giveNumber name))
      match ← Reads.peek with
      | some .blockEntry =>
        if loose then
          Reads.note place (.sequence tag (← readLooseSequence fuel))
        else if name.isSome || tag.isSome then Reads.note place (.scalar ⟨"", .plain, tag⟩)
        else Reads.fail .contentExpected
      | some (.scalar text style) =>
        Reads.skip
        Reads.note place (.scalar ⟨text, style, tag.filter (· ≠ "!")⟩)
      | some .flowSequenceStart =>
        Reads.skip
        Reads.note place (.sequence tag (← readFlowSequence true fuel))
      | some .flowMappingStart =>
        Reads.skip
        Reads.note place (.mapping tag (← readFlowMapping true fuel))
      | some .blockSequenceStart =>
        if block then
          Reads.skip
          Reads.note place (.sequence tag (← readBlockSequence fuel))
        else if name.isSome || tag.isSome then Reads.note place (.scalar ⟨"", .plain, tag⟩)
        else Reads.fail .contentExpected
      | some .blockMappingStart =>
        if block then
          Reads.skip
          Reads.note place (.mapping tag (← readBlockMapping fuel))
        else if name.isSome || tag.isSome then Reads.note place (.scalar ⟨"", .plain, tag⟩)
        else Reads.fail .contentExpected
      | _ =>
        if name.isSome || tag.isSome then Reads.note place (.scalar ⟨"", .plain, tag⟩)
        else Reads.fail .contentExpected

/-- Reads the entries of a block sequence behind its beginning. -/
def readBlockSequence : Nat → Reads (List Node)
  | 0 => Reads.fail .tooDeep
  | fuel + 1 => do
    match ← Reads.peek with
    | some .blockEntry =>
      Reads.skip
      let item ← if endsEntry false (← Reads.peek) then pure nothing else readNode true false fuel
      return item :: (← readBlockSequence fuel)
    | some .blockEnd =>
      Reads.skip
      return []
    | _ => Reads.fail .entryExpected

/-- Reads the entries of a block sequence that stands at the indentation of its mapping. -/
def readLooseSequence : Nat → Reads (List Node)
  | 0 => Reads.fail .tooDeep
  | fuel + 1 => do
    match ← Reads.peek with
    | some .blockEntry =>
      Reads.skip
      let item ← if endsLooseEntry (← Reads.peek) then pure nothing else readNode true false fuel
      return item :: (← readLooseSequence fuel)
    | _ => return []

/-- Reads the pairs of a block mapping behind its beginning. -/
def readBlockMapping : Nat → Reads (List (Node × Node))
  | 0 => Reads.fail .tooDeep
  | fuel + 1 => do
    match ← Reads.peek with
    | some .key =>
      Reads.skip
      let key ← if endsEntry true (← Reads.peek) then pure nothing else readNode true true fuel
      let value ← readBlockValue fuel
      return (key, value) :: (← readBlockMapping fuel)
    | some .blockEnd =>
      Reads.skip
      return []
    | _ => Reads.fail .entryExpected

/-- Reads the value of a pair of a block mapping; it may be missing. -/
def readBlockValue : Nat → Reads Node
  | 0 => Reads.fail .tooDeep
  | fuel + 1 => do
    match ← Reads.peek with
    | some .value =>
      Reads.skip
      if endsEntry true (← Reads.peek) then return nothing else readNode true true fuel
    | _ => return nothing

/-- Reads the entries of a flow sequence. An entry may be a single pair, which is a mapping of its
own. -/
def readFlowSequence (first : Bool) : Nat → Reads (List Node)
  | 0 => Reads.fail .tooDeep
  | fuel + 1 => do
    if (← Reads.peek) = some .flowSequenceEnd then
      Reads.skip
      return []
    else
      if !first then
        if (← Reads.peek) = some .flowEntry then Reads.skip else Reads.fail .entryExpected
      match ← Reads.peek with
      | some .key =>
        Reads.skip
        let pair ← readFlowPair fuel
        return .mapping none [pair] :: (← readFlowSequence false fuel)
      | some .flowSequenceEnd =>
        Reads.skip
        return []
      | _ =>
        let item ← readNode false false fuel
        return item :: (← readFlowSequence false fuel)

/-- Reads a pair that is an entry of a flow sequence. A key that is left out takes the next token
along. -/
def readFlowPair : Nat → Reads (Node × Node)
  | 0 => Reads.fail .tooDeep
  | fuel + 1 => do
    let ends (t : Option Token) : Bool := t == some .flowEntry || t == some .flowSequenceEnd
    let t ← Reads.peek
    let key ←
      if t == some .value || ends t then do
        Reads.skip
        pure nothing
      else readNode false false fuel
    if (← Reads.peek) = some .value then
      Reads.skip
      if ends (← Reads.peek) then return (key, nothing)
      else return (key, ← readNode false false fuel)
    else return (key, nothing)

/-- Reads the pairs of a flow mapping. -/
def readFlowMapping (first : Bool) : Nat → Reads (List (Node × Node))
  | 0 => Reads.fail .tooDeep
  | fuel + 1 => do
    if (← Reads.peek) = some .flowMappingEnd then
      Reads.skip
      return []
    else
      if !first then
        if (← Reads.peek) = some .flowEntry then Reads.skip else Reads.fail .entryExpected
      match ← Reads.peek with
      | some .key =>
        Reads.skip
        let pair ← readFlowEntry fuel
        return pair :: (← readFlowMapping false fuel)
      | some .flowMappingEnd =>
        Reads.skip
        return []
      | _ =>
        let key ← readNode false false fuel
        return (key, nothing) :: (← readFlowMapping false fuel)

/-- Reads a pair of a flow mapping behind the beginning of its key. -/
def readFlowEntry : Nat → Reads (Node × Node)
  | 0 => Reads.fail .tooDeep
  | fuel + 1 => do
    let ends (t : Option Token) : Bool := t == some .flowEntry || t == some .flowMappingEnd
    let t ← Reads.peek
    let key ← if t == some .value || ends t then pure nothing else readNode false false fuel
    if (← Reads.peek) = some .value then
      Reads.skip
      if ends (← Reads.peek) then return (key, nothing)
      else return (key, ← readNode false false fuel)
    else return (key, nothing)

end

structure Directives where
  versions : List (Nat × Nat)
  handles : List (String × String)
deriving DecidableEq, Repr, Inhabited

/-- Reads directives; each may occur once, and only versions 1.1 and 1.2 are known. -/
def readDirectives : List Token → Directives → Except Fault (Directives × List Token)
  | .versionDirective major minor :: rest, d =>
    if d.versions.isEmpty && major = 1 && (minor = 1 || minor = 2) then
      readDirectives rest { d with versions := [(major, minor)] }
    else .error .badDirective
  | .tagDirective handle start :: rest, d =>
    if (d.handles.lookup handle).isSome then .error .badDirective
    else readDirectives rest { d with handles := d.handles ++ [(handle, start)] }
  | rest, d => .ok (d, rest)

/-- A token at which a document has no content. -/
def endsContent : Option Token → Bool
  | some (.versionDirective ..) => true
  | some (.tagDirective ..) => true
  | some .documentStart => true
  | some .documentEnd => true
  | none => true
  | _ => false

/-- Reads the root of a document from its tokens, and gives the tokens behind it. -/
def readRoot (handles : List (String × String)) (ts : List Token) :
    Except Fault (Document × List Token) :=
  match (readNode true false (4 * ts.length + 4)).run ⟨ts, handles, [], 0, []⟩ with
  | .error e => .error e
  | .ok (root, r) => .ok (⟨some root, r.anchored⟩, r.tokens)

/-- Reads the first document, and gives the tokens behind it. -/
def readDocument (ts : List Token) : Except Fault (Document × List Token) := do
  if endsContent ts.head? && ts.head? ≠ some .documentEnd then
    if ts.isEmpty then return (⟨none, []⟩, [])
    else
      let (d, rest) ← readDirectives ts ⟨[], []⟩
      match rest with
      | .documentStart :: rest =>
        if endsContent rest.head? then return (⟨some nothing, []⟩, rest)
        else readRoot (d.handles ++ defaultHandles) rest
      | _ => .error .badDocument
  else readRoot defaultHandles ts

/-- The document of a text, which must have no more than one. -/
def document (text : String) : Except Fault Document := do
  let (d, rest) ← readDocument (← tokens text)
  match rest.dropWhile (· = .documentEnd) with
  | [] => return d
  | _ => .error .severalDocuments

end HomeAgents.Yaml
