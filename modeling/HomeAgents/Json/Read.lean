import HomeAgents.Json.Lexeme

/-!
# Reading JSON values

A value is read from the beginning of a text; what stands behind it is given back. Brackets nest at
most 127 deep: `room` says how many more may be opened. `limit` bounds the number of items of one
array or object, and the length of the text always suffices.
-/

namespace HomeAgents.Json

/-- Reads a value of a type from a text in which `room` more brackets may be opened. -/
abbrev Reader (α : Type) := Nat → List Char → Except Fault (α × List Char)

/-- The number of brackets that may be open at once. -/
def maxDepth : Nat := 127

/-! ## Brackets and what separates the values between them -/

/-- The text from the next item of an array on, or what stands behind its closing bracket. -/
def nextItem (first : Bool) (cs : List Char) : Except Fault (Bool × List Char) :=
  match skipGap cs with
  | [] => faultAt .eofInList []
  | ']' :: rest => .ok (false, rest)
  | c :: rest =>
    if first then .ok (true, c :: rest)
    else if c = ',' then
      match skipGap rest with
      | [] => faultAt .eofInValue []
      | ']' :: rest => faultAt .trailingComma (']' :: rest)
      | rest => .ok (true, rest)
    else faultAt .expectedListEnd (c :: rest)

def endList (cs : List Char) : Except Fault (List Char) :=
  match skipGap cs with
  | [] => faultAt .eofInList []
  | ']' :: rest => .ok rest
  | ',' :: rest =>
    match skipGap rest with
    | ']' :: rest => faultAt .trailingComma (']' :: rest)
    | rest => faultAt .trailingCharacters rest
  | rest => faultAt .trailingCharacters rest

/-- The name of the next member of an object and the text behind it, or what stands behind the
closing bracket. -/
def nextName (first : Bool) (cs : List Char) : Except Fault (Option String × List Char) :=
  let name (cs : List Char) : Except Fault (Option String × List Char) :=
    match readString cs with
    | .error e => .error e
    | .ok (s, rest) => .ok (some s, rest)
  match skipGap cs with
  | [] => faultAt .eofInObject []
  | '\x7d' :: rest => .ok (none, rest)
  | c :: rest =>
    if first then
      if c = '"' then name rest else faultAt .keyNotString (c :: rest)
    else if c = ',' then
      match skipGap rest with
      | [] => faultAt .eofInValue []
      | '"' :: rest => name rest
      | '\x7d' :: rest => faultAt .trailingComma ('\x7d' :: rest)
      | rest => faultAt .keyNotString rest
    else faultAt .expectedObjectEnd (c :: rest)

def readColon (cs : List Char) : Except Fault (List Char) :=
  match skipGap cs with
  | [] => faultAt .eofInObject []
  | ':' :: rest => .ok rest
  | rest => faultAt .expectedColon rest

/-- Reads the items of an array behind its bracket; those read so far stand in `done`, backwards. -/
def readItems {α : Type} (item : List Char → Except Fault (α × List Char)) :
    Nat → Bool → List α → List Char → Except Fault (List α × List Char)
  | 0, _, _, cs => faultAt .eofInList cs
  | limit + 1, first, done, cs =>
    match nextItem first cs with
    | .error e => .error e
    | .ok (false, rest) => .ok (done.reverse, rest)
    | .ok (true, rest) =>
      match item rest with
      | .error e => .error e
      | .ok (v, rest) => readItems item limit false (v :: done) rest

/-- Reads the members of an object behind its bracket, in the order of the text. -/
def readMembers {α : Type} (value : List Char → Except Fault (α × List Char)) :
    Nat → Bool → List (String × α) → List Char → Except Fault (List (String × α) × List Char)
  | 0, _, _, cs => faultAt .eofInObject cs
  | limit + 1, first, done, cs =>
    match nextName first cs with
    | .error e => .error e
    | .ok (none, rest) => .ok (done.reverse, rest)
    | .ok (some name, rest) =>
      match readColon rest with
      | .error e => .error e
      | .ok rest =>
        match value rest with
        | .error e => .error e
        | .ok (v, rest) => readMembers value limit false ((name, v) :: done) rest

/-! ## Values of any kind -/

/-- Gives a result once a word has been read. -/
def afterWord {α : Type} (word : String) (result : α) (cs : List Char) :
    Except Fault (α × List Char) :=
  match readWord word.toList cs with
  | .error e => .error e
  | .ok rest => .ok (result, rest)

/-- Reads a value that has no brackets, or refuses what begins none. -/
def readScalar (cs : List Char) : Except Fault (Json × List Char) :=
  match cs with
  | [] => faultAt .eofInValue []
  | 'n' :: rest => afterWord "ull" .null rest
  | 't' :: rest => afterWord "rue" (.bool true) rest
  | 'f' :: rest => afterWord "alse" (.bool false) rest
  | '"' :: rest =>
    match readString rest with
    | .error e => .error e
    | .ok (s, rest) => .ok (.string s, rest)
  | c :: rest =>
    if startsNumber c then
      match readNumber (c :: rest) with
      | .error e => .error e
      | .ok (n, rest) => .ok (.number n, rest)
    else faultAt .expectedValue (c :: rest)

/-- Reads a value; of two members with one name the later counts. -/
def readValue (limit : Nat) : Reader Json
  | 0, cs =>
    match skipGap cs with
    | '[' :: rest => faultAt .recursionLimit ('[' :: rest)
    | '\x7b' :: rest => faultAt .recursionLimit ('\x7b' :: rest)
    | rest => readScalar rest
  | room + 1, cs =>
    match skipGap cs with
    | '[' :: rest =>
      match readItems (readValue limit room) limit true [] rest with
      | .error e => .error e
      | .ok (items, rest) => .ok (.array items, rest)
    | '\x7b' :: rest =>
      match readMembers (readValue limit room) limit true [] rest with
      | .error e => .error e
      | .ok (members, rest) => .ok (.ofMembers members, rest)
    | rest => readScalar rest

/-! ## Values of an expected kind -/

/-- Refuses a value that is not of the expected kind. A word, number or string is read first and
may be faulty itself. -/
def refuse {α : Type} (expected : String) (cs : List Char) : Except Fault (α × List Char) :=
  let wrong (found : Found) (rest : List Char) : Except Fault (α × List Char) :=
    faultBefore (.shape (.wrongKind found expected)) rest
  match cs with
  | '[' :: rest => wrong .array ('[' :: rest)
  | '\x7b' :: rest => wrong .object ('\x7b' :: rest)
  | cs =>
    match readScalar cs with
    | .error e => .error e
    | .ok (.bool b, rest) => wrong (.bool b) rest
    | .ok (.number n, rest) => wrong (.number n) rest
    | .ok (.string s, rest) => wrong (.string s) rest
    | .ok (_, rest) => wrong .null rest

def readText : Reader String := fun _ cs =>
  match skipGap cs with
  | '"' :: rest => readString rest
  | rest => refuse "a string" rest

def readBool : Reader Bool := fun _ cs =>
  match skipGap cs with
  | 't' :: rest => afterWord "rue" true rest
  | 'f' :: rest => afterWord "alse" false rest
  | rest => refuse "a boolean" rest

/-- Reads a number and converts it; `expected` names the type of number in refusals. -/
def readNumberAs {α : Type} (expected : String) (convert : Number → Except Mismatch α) : Reader α :=
  fun _ cs =>
    match skipGap cs with
    | [] => faultAt .eofInValue []
    | c :: rest =>
      if startsNumber c then
        match readNumber (c :: rest) with
        | .error e => .error e
        | .ok (n, rest) =>
          match convert n with
          | .ok x => .ok (x, rest)
          | .error m => faultBefore (.shape m) rest
      else refuse expected (c :: rest)

/-- A natural number of the given bits; `name` names the type. -/
def naturalOf (name : String) (bits : Nat) (n : Number) : Except Mismatch Nat :=
  match n with
  | .int i =>
    if 0 ≤ i ∧ i < Nat.pow 2 bits then .ok i.toNat else .error (.wrongValue (.number n) name)
  | .real _ => .error (.wrongKind (.number n) name)

/-- Reads a natural number of 32 bits. -/
def readSmall : Reader Nat := readNumberAs "u32" (naturalOf "u32" 32)

/-- Reads a natural number of 64 bits. -/
def readSize : Reader Nat := readNumberAs "usize" (naturalOf "usize" 64)

/-- The value of the 32-bit format nearest to a number. -/
def singleOf : Number → Binary.Value
  | .int n => Binary.single.ofInt n
  | .real x => x.convert Binary.single

def readSingle : Reader Binary.Value := readNumberAs "f32" fun n => .ok (singleOf n)

/-- Reads `null` as nothing and anything else as a value. -/
def readOption {α : Type} (value : Reader α) : Reader (Option α) := fun room cs =>
  match skipGap cs with
  | 'n' :: rest => afterWord "ull" none rest
  | rest =>
    match value room rest with
    | .error e => .error e
    | .ok (v, rest) => .ok (some v, rest)

/-- Reads an array; `expected` names it in refusals. -/
def readList {α : Type} (limit : Nat) (expected : String) (item : Reader α) : Reader (List α) :=
  fun room cs =>
    match skipGap cs with
    | '[' :: rest =>
      match room with
      | 0 => faultAt .recursionLimit ('[' :: rest)
      | room + 1 => readItems (item room) limit true [] rest
    | rest => refuse expected rest

/-- Reads an object as the list of its members, in the order of the text. -/
def readMap {α : Type} (limit : Nat) (value : Reader α) : Reader (List (String × α)) :=
  fun room cs =>
    match skipGap cs with
    | '\x7b' :: rest =>
      match room with
      | 0 => faultAt .recursionLimit ('\x7b' :: rest)
      | room + 1 => readMembers (value room) limit true [] rest
    | rest => refuse "a map" rest

def variantOf {α : Type} (variants : List (String × α)) (name : String) (rest : List Char) :
    Except Fault (α × List Char) :=
  match variants.lookup name with
  | some v => .ok (v, rest)
  | none => faultBefore (.shape (.unknownVariant name (variants.map Prod.fst))) rest

def readVariantName {α : Type} (variants : List (String × α)) (cs : List Char) :
    Except Fault (α × List Char) :=
  match skipGap cs with
  | '"' :: rest =>
    match readString rest with
    | .error e => .error e
    | .ok (name, rest) => variantOf variants name rest
  | rest => refuse "variant identifier" rest

def readNull (cs : List Char) : Except Fault (List Char) :=
  match skipGap cs with
  | 'n' :: rest => readWord "ull".toList rest
  | rest =>
    match refuse (α := Unit) "unit" rest with
    | .error e => .error e
    | .ok (_, rest) => .ok rest

/-- Reads one of several alternatives: its name, or an object with `null` under its name. -/
def readVariant {α : Type} (variants : List (String × α)) : Reader α := fun room cs =>
  match skipGap cs with
  | [] => faultAt .eofInValue []
  | '\x7b' :: rest =>
    match room with
    | 0 => faultAt .recursionLimit ('\x7b' :: rest)
    | _ + 1 => do
      let (v, rest) ← readVariantName variants rest
      let rest ← readColon rest
      let rest ← readNull rest
      match skipGap rest with
      | [] => faultBefore .eofInObject []
      | '\x7d' :: rest => .ok (v, rest)
      | rest => faultBefore .expectedValue rest
  | '"' :: rest => readVariantName variants ('"' :: rest)
  | rest => faultAt .expectedValue rest

/-! ## Whole texts -/

/-- Reads a text that holds one value and blanks around it; the reader gets the length of the
text. -/
def readWhole {α : Type} (value : Nat → Reader α) (text : List Char) : Except Fault α :=
  match value (text.length + 1) maxDepth text with
  | .error e => .error e
  | .ok (v, rest) =>
    match skipGap rest with
    | [] => .ok v
    | rest => faultAt .trailingCharacters rest

/-- The JSON value that a text holds. -/
def read (text : String) : Except Fault Json :=
  readWhole readValue text.toList

end HomeAgents.Json
