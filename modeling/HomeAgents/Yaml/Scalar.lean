import HomeAgents.Binary.Basic
import HomeAgents.Yaml.Node

/-!
# What plain words mean

Words for nothing and for truth values, whole numbers in four bases, and decimal numbers. A whole
number in decimal has no leading zeros.
-/

namespace HomeAgents.Yaml

open Binary

/-- The words for nothing. -/
def isNullWord (s : String) : Bool :=
  ["null", "Null", "NULL", "~"].contains s

def boolWord? (s : String) : Option Bool :=
  if ["true", "True", "TRUE"].contains s then some true
  else if ["false", "False", "FALSE"].contains s then some false
  else none

/-- The number that digits of a base stand for; there is at least one. -/
def digitsValue? (base : Nat) (cs : List Char) : Option Nat :=
  if cs.isEmpty then none
  else cs.foldlM (fun n c =>
    (hexValue? c).bind fun d => if d < base then some (base * n + d) else none) 0

def hasLeadingZero (cs : List Char) : Bool :=
  2 ≤ cs.length && cs.head? == some '0' && cs.all Char.isDigit

/-- The characters behind a plus sign, if there is one. -/
def unsigned (cs : List Char) : List Char :=
  if cs.head? = some '+' then cs.drop 1 else cs

/-- The natural number below a bound that a word stands for. -/
def naturalWord? (bound : Nat) (s : String) : Option Nat :=
  let cs := unsigned s.toList
  let value :=
    match cs with
    | '0' :: 'x' :: rest => digitsValue? 16 rest
    | '0' :: 'o' :: rest => digitsValue? 8 rest
    | '0' :: 'b' :: rest => digitsValue? 2 rest
    | _ => if hasLeadingZero cs then none else digitsValue? 10 cs
  value.filter (· < bound)

/-- An exponent: a sign and at least one digit, or nothing at all. -/
def exponent? : List Char → Option Int
  | [] => some 0
  | e :: cs =>
    if e = 'e' ∨ e = 'E' then
      match cs with
      | '-' :: ds => (digitsValue? 10 ds).map fun n => -(n : Int)
      | '+' :: ds => (digitsValue? 10 ds).map fun n => (n : Int)
      | ds => (digitsValue? 10 ds).map fun n => (n : Int)
    else none

/-- The number that a decimal without a sign stands for; it has at least one digit. -/
def decimal? (negative : Bool) (cs : List Char) : Option Value :=
  let whole := cs.takeWhile Char.isDigit
  let rest := cs.dropWhile Char.isDigit
  let (places, rest) :=
    if rest.head? = some '.' then
      ((rest.drop 1).takeWhile Char.isDigit, (rest.drop 1).dropWhile Char.isDigit)
    else ([], rest)
  match digitsValue? 10 (whole ++ places), exponent? rest with
  | some digits, some e => some (double.ofDecimal negative digits (e - places.length))
  | _, _ => none

/-- The double that a word stands for. A decimal has at most one sign. -/
def doubleWord? (s : String) : Option Value :=
  let cs := s.toList
  let positive := unsigned cs
  if [".inf", ".Inf", ".INF"].contains (String.ofList positive) then some (.infinite false)
  else if ["-.inf", "-.Inf", "-.INF"].contains s then some (.infinite true)
  else if [".nan", ".NaN", ".NAN"].contains s then some .nan
  else
    (if cs.head? = some '-' then decimal? true (cs.drop 1) else decimal? false positive).filter
      Value.isFinite

end HomeAgents.Yaml
