/-!
# Entries in the order of their first setting

Association lists that remember when a name was first set. Setting a name again changes its value
and not its place; removing it closes the gap.
-/

namespace HomeAgents

/-- Named entries, each name once. -/
abbrev Ordered (α : Type) := List (String × α)

namespace Ordered

variable {α : Type}

/-- Sets the entry of a name, in its old place if it has one and at the end otherwise. -/
def insert (name : String) (value : α) : Ordered α → Ordered α
  | [] => [(name, value)]
  | (k, v) :: rest => if name = k then (k, value) :: rest else (k, v) :: insert name value rest

def ofList (entries : List (String × α)) : Ordered α :=
  entries.foldl (fun m e => insert e.1 e.2 m) []

def find? (name : String) (m : Ordered α) : Option α :=
  List.lookup name m

def erase (name : String) (m : Ordered α) : Ordered α :=
  m.filter fun e => e.1 ≠ name

/-- The distinct members of a list, each where it first occurs. -/
def distinct [DecidableEq α] (xs : List α) : List α :=
  xs.foldl (fun seen x => if x ∈ seen then seen else seen ++ [x]) []

end Ordered

end HomeAgents
