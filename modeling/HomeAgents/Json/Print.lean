import HomeAgents.Binary.Shortest
import HomeAgents.Json.Basic

/-!
# The text of a JSON value

The compact text: no blanks between tokens, only quotes, backslashes and control characters
escaped. A double keeps a decimal and is written out positionally unless its exponent is large;
one that is not finite is written `null`.
-/

namespace HomeAgents.Json

open Binary

/-- Doubles are written out positionally for decimal exponents from -5 to 15. -/
def doubleLayout : Layout := ⟨fun e => -5 ≤ e && e ≤ 15, true⟩

/-- Singles are written out positionally for decimal exponents from -6 to 12. -/
def singleLayout : Layout := ⟨fun e => -6 ≤ e && e ≤ 12, true⟩

/-- A value of a floating-point format as a JSON number, `null` unless it is finite. -/
def realText (fmt : Format) (how : Layout) : Value → String
  | .finite s m e => fmt.write how s m e
  | _ => "null"

def numberText : Number → String
  | .int n => toString n
  | .real x => realText double doubleLayout x

/-- A hexadecimal digit in lower case. -/
def hexDigit (n : Nat) : Char :=
  Nat.digitChar n

/-- A character inside a string. -/
def escapeChar (c : Char) : List Char :=
  match c with
  | '"' => ['\\', '"']
  | '\\' => ['\\', '\\']
  | '\x08' => ['\\', 'b']
  | '\x0C' => ['\\', 'f']
  | '\n' => ['\\', 'n']
  | '\r' => ['\\', 'r']
  | '\t' => ['\\', 't']
  | c =>
    if c.toNat < 0x20 then
      ['\\', 'u', '0', '0', hexDigit (c.toNat / 16), hexDigit (c.toNat % 16)]
    else [c]

/-- A text between double quotes. -/
def stringChars (s : String) : List Char :=
  '"' :: (s.toList.flatMap escapeChar ++ ['"'])

def joinComma : List (List Char) → List Char
  | [] => []
  | [piece] => piece
  | piece :: rest => piece ++ ',' :: joinComma rest

mutual

/-- The compact text of a value. -/
def chars : Json → List Char
  | null => "null".toList
  | bool b => (if b then "true" else "false").toList
  | number n => (numberText n).toList
  | string s => stringChars s
  | array items => '[' :: (joinComma (itemPieces items) ++ [']'])
  | object members => '\x7b' :: (joinComma (memberPieces members) ++ ['\x7d'])

def itemPieces : List Json → List (List Char)
  | [] => []
  | v :: vs => chars v :: itemPieces vs

def memberPieces : List (String × Json) → List (List Char)
  | [] => []
  | (name, v) :: ms => (stringChars name ++ ':' :: chars v) :: memberPieces ms

end

def text (v : Json) : String :=
  String.ofList v.chars

def stringText (s : String) : String :=
  String.ofList (stringChars s)

/-- An object whose members stand in a given order with texts already made. -/
def objectText (members : List (String × String)) : String :=
  "\x7b" ++ ",".intercalate (members.map fun m => stringText m.1 ++ ":" ++ m.2) ++ "\x7d"

/-- An array of texts already made. -/
def arrayText (items : List String) : String :=
  "[" ++ ",".intercalate items ++ "]"

end HomeAgents.Json
