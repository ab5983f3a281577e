/-!
# Entries sorted by name

Association lists in which the names increase, so that two of them with the same entries are equal.
Names are compared character by character.
-/

namespace HomeAgents

/-- Named entries; every operation here keeps the names increasing. -/
abbrev Sorted (α : Type) := List (String × α)

namespace Sorted

variable {α β : Type}

/-- Sets the entry of a name. -/
def insert (name : String) (value : α) : Sorted α → Sorted α
  | [] => [(name, value)]
  | (k, v) :: rest =>
    if name < k then (name, value) :: (k, v) :: rest
    else if name = k then (name, value) :: rest
    else (k, v) :: insert name value rest

/-- The entries of a list; of two with one name the later counts. -/
def ofList (entries : List (String × α)) : Sorted α :=
  entries.foldl (fun m e => insert e.1 e.2 m) []

def find? (name : String) (m : Sorted α) : Option α :=
  List.lookup name m

def has (name : String) (m : Sorted α) : Bool :=
  (find? name m).isSome

/-- The names, in increasing order. -/
def names (m : Sorted α) : List String :=
  m.map Prod.fst

/-- The entries of a list, in the order of their names. -/
def byName (entries : List (String × α)) : Sorted α :=
  entries.mergeSort fun a b => decide (¬ b.1 < a.1)

def mapValues (f : α → β) (m : Sorted α) : Sorted β :=
  m.map fun e => (e.1, f e.2)

/-- The names strictly increase. -/
def Increasing (m : Sorted α) : Prop :=
  m.Pairwise fun a b => a.1 < b.1

end Sorted

end HomeAgents
