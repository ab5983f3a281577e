import HomeAgents.Text.Search

/-!
# Numbers of sessions

A session has a number of 128 bits. It is written in hexadecimal: as 32 digits, or in groups of 8,
4, 4, 4 and 12 digits with hyphens between them, which may stand in braces or behind `urn:uuid:`.
-/

namespace HomeAgents

abbrev SessionId := Nat

namespace SessionId

/-- The value of a hexadecimal digit of either case. -/
def digit? (c : Char) : Option Nat :=
  if '0' ≤ c && c ≤ '9' then some (c.toNat - '0'.toNat)
  else if 'a' ≤ c && c ≤ 'f' then some (c.toNat - 'a'.toNat + 10)
  else if 'A' ≤ c && c ≤ 'F' then some (c.toNat - 'A'.toNat + 10)
  else none

/-- The number that digits stand for. -/
def ofDigits? (cs : List Char) : Option SessionId :=
  cs.foldlM (fun n c => (digit? c).map fun d => 16 * n + d) 0

/-- The digits of the grouped form, without the hyphens between the groups. -/
def ungroup? (cs : List Char) : Option (List Char) :=
  if cs.length = 36 ∧ [8, 13, 18, 23].all (fun i => cs[i]? == some '-') then
    some (cs.filter (· ≠ '-'))
  else none

/-- The grouped form without what may stand around it. -/
def bare (cs : List Char) : List Char :=
  if cs.head? = some '\x7b' ∧ cs.getLast? = some '\x7d' then (cs.drop 1).dropLast
  else if "urn:uuid:".toList.isPrefixOf cs then cs.drop 9
  else cs

/-- The number that a text stands for. -/
def ofText? (s : String) : Option SessionId :=
  let cs := s.toList
  let digits? := if cs.length = 32 then some cs else ungroup? (bare cs)
  match digits? with
  | some ds => if ds.length = 32 then ofDigits? ds else none
  | none => none

/-- The 32 hexadecimal digits of a number. -/
def digits (id : SessionId) : List Char :=
  let ds := Nat.toDigits 16 (id % Nat.pow 2 128)
  List.replicate (32 - ds.length) '0' ++ ds

/-- The grouped form of a number. -/
def text (id : SessionId) : String :=
  let ds := digits id
  "-".intercalate ([(0, 8), (8, 4), (12, 4), (16, 4), (20, 12)].map fun g =>
    String.ofList ((ds.drop g.1).take g.2))

end SessionId

end HomeAgents
