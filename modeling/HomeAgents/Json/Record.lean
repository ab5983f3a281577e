import HomeAgents.Json.Read
import HomeAgents.Json.Skip

/-!
# Records in JSON text

A record is read from an object, with its fields in any order and other members passed over, or
from an array with its fields in their order. A field may occur once. A required field must occur.
-/

namespace HomeAgents.Json

/-- A field of a record that is collected in `σ`. -/
structure Field (σ : Type) where
  name : String
  required : Bool
  given : σ → Bool
  read : Reader (σ → σ)

/-- A record: its description in refusals, and its fields. -/
structure Record (σ : Type) where
  title : String
  fields : List (Field σ)

variable {σ : Type}

/-- The length an array of the record should have. -/
def Record.shape (r : Record σ) : String :=
  r.title ++ " with " ++ toString r.fields.length ++ " element" ++
    (if r.fields.length = 1 then "" else "s")

/-- Where a mismatch inside an object is reported: behind its closing bracket if that is next. -/
def mismatchInObject {α : Type} (m : Mismatch) (cs : List Char) : Except Fault α :=
  match skipGap cs with
  | '\x7d' :: rest => faultBefore (.shape m) rest
  | rest => faultBefore (.shape m) rest

/-- Reads the fields of an object behind its bracket. -/
def Record.readFields (limit : Nat) (r : Record σ) (room : Nat) :
    Nat → Bool → σ → List Char → Except Fault (σ × List Char)
  | 0, _, _, cs => faultAt .eofInObject cs
  | fuel + 1, first, given, cs =>
    match nextName first cs with
    | .error e => .error e
    | .ok (none, rest) =>
      match r.fields.find? fun f => f.required && !f.given given with
      | some f => faultBefore (.shape (.missingField f.name)) rest
      | none => .ok (given, rest)
    | .ok (some name, rest) =>
      match r.fields.find? fun f => f.name = name with
      | some f =>
        if f.given given then mismatchInObject (.duplicateField f.name) rest
        else
          match readColon rest with
          | .error e => .error e
          | .ok rest =>
            match f.read room rest with
            | .error e => .error e
            | .ok (set, rest) => Record.readFields limit r room fuel false (set given) rest
      | none =>
        match readColon rest with
        | .error e => .error e
        | .ok rest =>
          match skipValue limit rest with
          | .error e => .error e
          | .ok rest => Record.readFields limit r room fuel false given rest

/-- Reads fields in their order from an array behind its bracket; `index` counts those before. -/
def Record.readItems (r : Record σ) (room : Nat) :
    List (Field σ) → Nat → σ → List Char → Except Fault (σ × List Char)
  | [], _, given, cs =>
    match endList cs with
    | .error e => .error e
    | .ok rest => .ok (given, rest)
  | f :: fs, index, given, cs =>
    match nextItem (index = 0) cs with
    | .error e => .error e
    | .ok (false, rest) =>
      match (f :: fs).findIdx? (·.required) with
      | some i => faultBefore (.shape (.wrongLength (index + i) r.shape)) rest
      | none => .ok (given, rest)
    | .ok (true, rest) =>
      match f.read room rest with
      | .error e => .error e
      | .ok (set, rest) => Record.readItems r room fs (index + 1) (set given) rest

/-- Reads a record into what `empty` leaves open. -/
def Record.read (limit : Nat) (r : Record σ) (empty : σ) : Reader σ := fun room cs =>
  match skipGap cs with
  | [] => faultAt .eofInValue []
  | '[' :: rest =>
    match room with
    | 0 => faultAt .recursionLimit ('[' :: rest)
    | room + 1 => r.readItems room r.fields 0 empty rest
  | '\x7b' :: rest =>
    match room with
    | 0 => faultAt .recursionLimit ('\x7b' :: rest)
    | room + 1 => r.readFields limit room limit true empty rest
  | rest => refuse r.title rest

/-- A field read by `value` and stored by `set`. -/
def Field.of {α : Type} (name : String) (required : Bool) (given : σ → Bool) (value : Reader α)
    (set : α → σ → σ) : Field σ where
  name := name
  required := required
  given := given
  read room cs :=
    match value room cs with
    | .error e => .error e
    | .ok (v, rest) => .ok (set v, rest)

end HomeAgents.Json
