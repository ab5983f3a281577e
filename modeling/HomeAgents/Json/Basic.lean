import HomeAgents.Binary.Basic
import HomeAgents.Collection.Sorted

/-!
# JSON values

The values that tool arguments, command parameters, contexts and stored records are made of. The
members of an object are sorted by name and each name occurs once, so values that mean the same are
the same term.
-/

namespace HomeAgents

/-- A number is a whole number or a double. -/
inductive Number where
  | int (n : Int)
  | real (x : Binary.Value)
deriving DecidableEq, Repr, Inhabited

inductive Json where
  | null
  | bool (b : Bool)
  | number (n : Number)
  | string (s : String)
  | array (items : List Json)
  | object (members : List (String × Json))
deriving BEq, Repr, Inhabited

abbrev Members := Sorted Json

namespace Json

/-- The object with the given members; of two with one name the later counts. -/
def ofMembers (members : List (String × Json)) : Json :=
  object (Sorted.ofList members)

def ofNat (n : Nat) : Json :=
  number (.int n)

/-- The member of an object. -/
def get? (name : String) : Json → Option Json
  | object members => Sorted.find? name members
  | _ => none

/-- The item of an array. -/
def item? (i : Nat) : Json → Option Json
  | array items => items[i]?
  | _ => none

def asString? : Json → Option String
  | string s => some s
  | _ => none

def asBool? : Json → Option Bool
  | bool b => some b
  | _ => none

def asArray? : Json → Option (List Json)
  | array items => some items
  | _ => none

def asObject? : Json → Option Members
  | object members => some members
  | _ => none

/-- A whole number that is not negative. -/
def asNat? : Json → Option Nat
  | number (.int (.ofNat n)) => some n
  | _ => none

mutual

/-- Changes every text in a value; the names of members stay. -/
def mapTexts (f : String → String) : Json → Json
  | string s => string (f s)
  | array items => array (mapItemTexts f items)
  | object members => object (mapMemberTexts f members)
  | v => v

def mapItemTexts (f : String → String) : List Json → List Json
  | [] => []
  | v :: vs => mapTexts f v :: mapItemTexts f vs

def mapMemberTexts (f : String → String) : List (String × Json) → List (String × Json)
  | [] => []
  | (name, v) :: ms => (name, mapTexts f v) :: mapMemberTexts f ms

end

end Json

end HomeAgents
