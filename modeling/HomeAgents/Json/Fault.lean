import HomeAgents.Json.Print
import HomeAgents.Text.Quoted

/-!
# Faults in JSON text

What can be wrong with a text that should hold a value of a given shape, the wording of each
fault, and the place where it is reported. A place is kept as the number of bytes from there to
the end of the text, which readers know without counting what they have consumed.
-/

namespace HomeAgents.Json

/-- What was found where a value of another kind was expected. -/
inductive Found where
  | null
  | bool (b : Bool)
  | number (n : Number)
  | string (s : String)
  | array
  | object
deriving DecidableEq, Repr

def Found.text : Found → String
  | null => "null"
  | bool b => "boolean `" ++ toString b ++ "`"
  | number (.int n) => "integer `" ++ toString n ++ "`"
  | number (.real x) => "floating point `" ++ realText Binary.double doubleLayout x ++ "`"
  | string s => "string " ++ Text.quoted s
  | array => "sequence"
  | object => "map"

/-- A value that is well-formed but not of the expected shape. -/
inductive Mismatch where
  | wrongKind (found : Found) (expected : String)
  | wrongValue (found : Found) (expected : String)
  | wrongLength (length : Nat) (expected : String)
  | missingField (name : String)
  | duplicateField (name : String)
  | unknownVariant (name : String) (known : List String)
deriving DecidableEq, Repr

def alternatives : List String → String
  | [] => "there are no variants"
  | [a] => "expected `" ++ a ++ "`"
  | [a, b] => "expected `" ++ a ++ "` or `" ++ b ++ "`"
  | many => "expected one of " ++ ", ".intercalate (many.map fun a => "`" ++ a ++ "`")

def Mismatch.message : Mismatch → String
  | wrongKind found expected => "invalid type: " ++ found.text ++ ", expected " ++ expected
  | wrongValue found expected => "invalid value: " ++ found.text ++ ", expected " ++ expected
  | wrongLength n expected => "invalid length " ++ toString n ++ ", expected " ++ expected
  | missingField name => "missing field `" ++ name ++ "`"
  | duplicateField name => "duplicate field `" ++ name ++ "`"
  | unknownVariant name known =>
    "unknown variant `" ++ name ++ "`, " ++ alternatives known

inductive Trouble where
  | eofInList
  | eofInObject
  | eofInString
  | eofInValue
  | expectedColon
  | expectedListEnd
  | expectedObjectEnd
  | expectedIdent
  | expectedValue
  | invalidEscape
  | invalidNumber
  | numberOutOfRange
  | controlCharacter
  | keyNotString
  | loneSurrogate
  | trailingComma
  | trailingCharacters
  | endOfHexEscape
  | recursionLimit
  | shape (mismatch : Mismatch)
deriving DecidableEq, Repr

def Trouble.message : Trouble → String
  | eofInList => "EOF while parsing a list"
  | eofInObject => "EOF while parsing an object"
  | eofInString => "EOF while parsing a string"
  | eofInValue => "EOF while parsing a value"
  | expectedColon => "expected `:`"
  | expectedListEnd => "expected `,` or `]`"
  | expectedObjectEnd => "expected `,` or `\x7d`"
  | expectedIdent => "expected ident"
  | expectedValue => "expected value"
  | invalidEscape => "invalid escape"
  | invalidNumber => "invalid number"
  | numberOutOfRange => "number out of range"
  | controlCharacter => "control character (\\u0000-\\u001F) found while parsing a string"
  | keyNotString => "key must be a string"
  | loneSurrogate => "lone leading surrogate in hex escape"
  | trailingComma => "trailing comma"
  | trailingCharacters => "trailing characters"
  | endOfHexEscape => "unexpected end of hex escape"
  | recursionLimit => "recursion limit exceeded"
  | shape m => m.message

/-- A cause and the number of bytes between its place and the end of the text. -/
structure Fault where
  trouble : Trouble
  left : Nat
deriving DecidableEq, Repr

def byteCount (cs : List Char) : Nat :=
  cs.foldl (fun n c => n + c.utf8Size) 0

/-- A fault reported between what was consumed and the rest. -/
def faultBefore {α : Type} (trouble : Trouble) (rest : List Char) : Except Fault α :=
  .error ⟨trouble, byteCount rest⟩

/-- A fault reported behind the first byte of the rest, if there is one. -/
def faultAt {α : Type} (trouble : Trouble) (rest : List Char) : Except Fault α :=
  .error ⟨trouble, byteCount rest - 1⟩

/-- The place of the byte with a given number: its line, and the bytes before it in that line. -/
def placeFrom (line column : Nat) : Nat → List UInt8 → Nat × Nat
  | 0, _ => (line, column)
  | _ + 1, [] => (line, column)
  | n + 1, b :: bs =>
    if b = 0x0A then placeFrom (line + 1) 0 n bs else placeFrom line (column + 1) n bs

/-- The wording of a fault, with its place in the text. -/
def Fault.message (text : String) (fault : Fault) : String :=
  let bytes := text.toUTF8.toList
  let (line, column) := placeFrom 1 0 (bytes.length - fault.left) bytes
  fault.trouble.message ++ " at line " ++ toString line ++ " column " ++ toString column

end HomeAgents.Json
