import HomeAgents.Yaml.Scalar

/-!
# Values taken out of documents

A text is any scalar. Numbers and truth values are plain words, or literal scalars with the tag of
their kind. An option is open if nothing stands there or a word for nothing does. An empty place
is an empty list, table or record. Records and tables are mappings.
-/

namespace HomeAgents.Yaml

/-- Takes a value out of a node of a document. -/
abbrev Taker (α : Type) := Document → Node → Except Fault α

/-- The node itself, or what an alias stands for. -/
def Document.resolve (d : Document) : Node → Except Fault Node
  | .alias number =>
    match d.target? number with
    | some node => .ok node
    | none => .error .undefinedAlias
  | node => .ok node

/-- The tag of a kind of scalars. -/
def kindTag (kind : String) : String :=
  "tag:yaml.org,2002:" ++ kind

/-- A scalar that may stand for a value of a kind. -/
def Scalar.mayBe (s : Scalar) (kind : String) : Bool :=
  s.style = .plain || (s.style = .literal && s.tag = some (kindTag kind))

def Node.isEmptyPlace : Node → Bool
  | .scalar s => s.style = .plain && s.text.isEmpty
  | _ => false

namespace Take

variable {α σ : Type}

def scalar : Taker Scalar := fun d n => do
  match ← d.resolve n with
  | .scalar s => return s
  | _ => throw .wrongShape

def text : Taker String := fun d n =>
  (scalar d n).map (·.text)

/-- Takes a value of a kind that words stand for. -/
def word (kind : String) (read : String → Option α) : Taker α := fun d n => do
  let s ← scalar d n
  match if s.mayBe kind then read s.text else none with
  | some v => return v
  | none => throw .wrongShape

def bool : Taker Bool := word "bool" boolWord?

/-- Takes a natural number below a bound. -/
def natural (bound : Nat) : Taker Nat := word "int" (naturalWord? bound)

/-- Takes a double as a single. -/
def single : Taker Binary.Value :=
  word "float" fun s => (doubleWord? s).map (Binary.Value.convert Binary.single)

/-- Whether a scalar leaves an option open. With the tag of nothing it must be a word for nothing.
-/
def isOpen (s : Scalar) : Except Fault Bool :=
  if s.style ≠ .plain then .ok false
  else
    match s.tag with
    | some t =>
      if t ≠ kindTag "null" then .ok false
      else if isNullWord s.text then .ok true
      else .error .wrongShape
    | none => .ok (s.text.isEmpty || isNullWord s.text)

def option (value : Taker α) : Taker (Option α) := fun d n => do
  match ← d.resolve n with
  | .scalar s => if ← isOpen s then return none else return some (← value d (.scalar s))
  | n => return some (← value d n)

def list (value : Taker α) : Taker (List α) := fun d n => do
  match ← d.resolve n with
  | .sequence _ items => items.mapM (value d)
  | n => if n.isEmptyPlace then return [] else throw .wrongShape

def pairs : Taker (List (Node × Node)) := fun d n => do
  match ← d.resolve n with
  | .mapping _ ps => return ps
  | n => if n.isEmptyPlace then return [] else throw .wrongShape

def table (value : Taker α) : Taker (List (String × α)) := fun d n => do
  (← pairs d n).mapM fun p => do return (← text d p.1, ← value d p.2)

/-- Takes one of several named values. A local tag may name it too; then nothing may stand behind
it. -/
def choice (variants : List (String × α)) : Taker α := fun d n => do
  let s ← scalar d n
  let empty := s.style = .plain && (s.text.isEmpty || isNullWord s.text)
  let name ←
    match s.tag.map String.toList with
    | some ('!' :: name) => if empty then pure (String.ofList name) else throw .wrongShape
    | _ => pure s.text
  match variants.lookup name with
  | some v => return v
  | none => throw .wrongShape

/-- A field of a record that is collected in `σ`. -/
structure Field (σ : Type) where
  name : String
  take : Taker (σ → σ)

/-- A field taken by `value` and stored by `set`. -/
def Field.of (name : String) (value : Taker α) (set : α → σ → σ) : Field σ :=
  ⟨name, fun d n => (value d n).map set⟩

/-- Takes the fields of a record; `seen` holds the names of those that were taken. A strict record
refuses names that are no fields. -/
def fields (strict : Bool) (fs : List (Field σ)) (d : Document) :
    List (Node × Node) → List String → σ → Except Fault σ
  | [], _, given => .ok given
  | (key, value) :: rest, seen, given => do
    let name ← text d key
    match fs.find? fun f => f.name = name with
    | none => if strict then throw (.unknownField name) else fields strict fs d rest seen given
    | some f =>
      if seen.contains name then throw (.duplicateField name)
      else
        let set ← f.take d value
        fields strict fs d rest (name :: seen) (set given)

/-- Takes a record into what `empty` leaves open. -/
def record (strict : Bool) (fs : List (Field σ)) (empty : σ) : Taker σ := fun d n => do
  fields strict fs d (← pairs d n) [] empty

end Take

/-- Takes a record out of a text; a text without content is an empty one. -/
def recordOfText {σ : Type} (strict : Bool) (fs : List (Take.Field σ)) (empty : σ) (text : String) :
    Except Fault σ := do
  let d ← document text
  match d.root with
  | none => return empty
  | some n => Take.record strict fs empty d n

end HomeAgents.Yaml
