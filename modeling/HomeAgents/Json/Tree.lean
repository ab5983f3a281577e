import HomeAgents.Json.Fault

/-!
# Records taken out of a JSON value

Arguments come as a value, not as text. A record is taken from an object, in the order of its
names and with other members left aside, or from an array with the fields in their order.
-/

namespace HomeAgents.Json

/-- What a value is where another kind is expected. -/
def found : Json → Found
  | null => .null
  | bool b => .bool b
  | number n => .number n
  | string s => .string s
  | array _ => .array
  | object _ => .object

def refuseValue {α : Type} (expected : String) (v : Json) : Except Mismatch α :=
  .error (.wrongKind v.found expected)

def toText : Json → Except Mismatch String
  | string s => .ok s
  | v => refuseValue "a string" v

def toBool : Json → Except Mismatch Bool
  | bool b => .ok b
  | v => refuseValue "a boolean" v

/-- Takes a natural number of 64 bits. -/
def toSize : Json → Except Mismatch Nat
  | number (.int i) =>
    if 0 ≤ i ∧ i < Nat.pow 2 64 then .ok i.toNat
    else .error (.wrongValue (.number (.int i)) "usize")
  | v => refuseValue "usize" v

/-- Takes `null` as nothing and anything else as a value. -/
def toOption {α : Type} (value : Json → Except Mismatch α) : Json → Except Mismatch (Option α)
  | null => .ok none
  | v => (value v).map some

/-- A field of arguments that are collected in `σ`; it may go by several names. -/
structure Argument (σ : Type) where
  name : String
  aliases : List String
  required : Bool
  given : σ → Bool
  set : Json → σ → Except Mismatch σ

variable {σ : Type}

/-- The title of the arguments with the number of fields. -/
def argumentsShape (fields : List (Argument σ)) : String :=
  "struct Args with " ++ toString fields.length ++ " element" ++
    (if fields.length = 1 then "" else "s")

/-- Takes arguments from the members of an object. -/
def takeMembers (fields : List (Argument σ)) : List (String × Json) → σ → Except Mismatch σ
  | [], given =>
    match fields.find? fun f => f.required && !f.given given with
    | some f => .error (.missingField f.name)
    | none => .ok given
  | (name, v) :: rest, given =>
    match fields.find? fun f => f.name = name || f.aliases.contains name with
    | none => takeMembers fields rest given
    | some f =>
      if f.given given then .error (.duplicateField f.name)
      else
        match f.set v given with
        | .error m => .error m
        | .ok given => takeMembers fields rest given

/-- Takes arguments from the items of an array; `fields` are those still to come. -/
def takeItems (shape : String) (total : Nat) :
    List (Argument σ) → Nat → List Json → σ → Except Mismatch σ
  | [], _, [], given => .ok given
  | [], _, _ :: _, _ => .error (.wrongLength total "fewer elements in array")
  | f :: fs, index, [], given =>
    match (f :: fs).findIdx? (·.required) with
    | some i => .error (.wrongLength (index + i) shape)
    | none => .ok given
  | f :: fs, index, v :: vs, given =>
    match f.set v given with
    | .error m => .error m
    | .ok given => takeItems shape total fs (index + 1) vs given

def takeArguments (fields : List (Argument σ)) (empty : σ) : Json → Except Mismatch σ
  | object members => takeMembers fields members empty
  | array items => takeItems (argumentsShape fields) items.length fields 0 items empty
  | v => refuseValue "struct Args" v

/-- A field taken by `value` and stored by `store`. -/
def Argument.of {α : Type} (name : String) (aliases : List String) (required : Bool)
    (given : σ → Bool) (value : Json → Except Mismatch α) (store : α → σ → σ) : Argument σ where
  name := name
  aliases := aliases
  required := required
  given := given
  set v s := (value v).map fun x => store x s

end HomeAgents.Json
