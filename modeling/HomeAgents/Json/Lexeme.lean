import HomeAgents.Json.Fault

/-!
# Words, strings and numbers of JSON text

Readers of the single tokens. A reader takes the characters from its token on and gives the token's
value and the characters behind it.
-/

namespace HomeAgents.Json

open Binary

/-- A blank between tokens. -/
def isGap (c : Char) : Bool :=
  c = ' ' || c = '\n' || c = '\t' || c = '\r'

def skipGap (cs : List Char) : List Char :=
  cs.dropWhile isGap

/-- Reads the rest of a word such as `null`. -/
def readWord : List Char → List Char → Except Fault (List Char)
  | [], cs => .ok cs
  | _ :: _, [] => faultBefore .eofInValue []
  | w :: ws, c :: cs => if c = w then readWord ws cs else faultAt .expectedIdent (c :: cs)

/-! ## Strings -/

def hexValue? (c : Char) : Option Nat :=
  if '0' ≤ c ∧ c ≤ '9' then some (c.toNat - '0'.toNat)
  else if 'a' ≤ c ∧ c ≤ 'f' then some (c.toNat - 'a'.toNat + 10)
  else if 'A' ≤ c ∧ c ≤ 'F' then some (c.toNat - 'A'.toNat + 10)
  else none

/-- The character behind a backslash that stands for a fixed character. -/
def shortEscape? (c : Char) : Option Char :=
  match c with
  | '"' => some '"'
  | '\\' => some '\\'
  | '/' => some '/'
  | 'b' => some '\x08'
  | 'f' => some '\x0C'
  | 'n' => some '\n'
  | 'r' => some '\r'
  | 't' => some '\t'
  | _ => none

/-- The reader of a string stands between characters, or inside an escape: behind the backslash,
behind some of the four digits of a code unit, or behind the first unit of a surrogate pair. -/
inductive StringState where
  | plain
  | escape
  | hex (lead : Option Nat) (count value : Nat)
  | afterLead (lead : Nat)
  | beforePair (lead : Nat)
deriving DecidableEq, Repr

/-- A unit that announces a surrogate pair. -/
def isLead (n : Nat) : Bool :=
  0xD800 ≤ n && n ≤ 0xDBFF

/-- A unit that ends a surrogate pair. -/
def isTrail (n : Nat) : Bool :=
  0xDC00 ≤ n && n ≤ 0xDFFF

/-- The character of a surrogate pair. -/
def pairChar (lead trail : Nat) : Char :=
  Char.ofNat (0x10000 + (lead - 0xD800) * 0x400 + (trail - 0xDC00))

/-- A code unit needs four bytes; what does not fit is cut off, and four wrong ones are refused. -/
def hexFault {α : Type} (count : Nat) (rest : List Char) : Except Fault α :=
  let left := byteCount rest + count
  if left < 4 then faultBefore .eofInString [] else .error ⟨.invalidEscape, left - 4⟩

/-- Reads the characters of a string up to its closing quote; those read so far stand in `done`,
backwards. -/
def readStringFrom : StringState → List Char → List Char → Except Fault (String × List Char)
  | .hex .., _, [] => faultBefore .eofInString []
  | _, _, [] => faultBefore .eofInString []
  | .plain, done, c :: cs =>
    if c = '"' then .ok (String.ofList done.reverse, cs)
    else if c = '\\' then readStringFrom .escape done cs
    else if c.toNat < 0x20 then faultBefore .controlCharacter cs
    else readStringFrom .plain (c :: done) cs
  | .escape, done, c :: cs =>
    if c = 'u' then readStringFrom (.hex none 0 0) done cs
    else
      match shortEscape? c with
      | some d => readStringFrom .plain (d :: done) cs
      | none => faultAt .invalidEscape (c :: cs)
  | .hex lead count value, done, c :: cs =>
    match hexValue? c with
    | none => hexFault count (c :: cs)
    | some d =>
      let n := value * 16 + d
      if count < 3 then readStringFrom (.hex lead (count + 1) n) done cs
      else
        match lead with
        | none =>
          if isTrail n then faultBefore .loneSurrogate cs
          else if isLead n then readStringFrom (.afterLead n) done cs
          else readStringFrom .plain (Char.ofNat n :: done) cs
        | some l =>
          if isTrail n then readStringFrom .plain (pairChar l n :: done) cs
          else faultBefore .loneSurrogate cs
  | .afterLead lead, done, c :: cs =>
    if c = '\\' then readStringFrom (.beforePair lead) done cs
    else faultAt .endOfHexEscape (c :: cs)
  | .beforePair lead, done, c :: cs =>
    if c = 'u' then readStringFrom (.hex (some lead) 0 0) done cs
    else faultAt .endOfHexEscape (c :: cs)

/-- Reads a string behind its opening quote. -/
def readString (cs : List Char) : Except Fault (String × List Char) :=
  readStringFrom .plain [] cs

/-! ## Numbers -/

def isDigit (c : Char) : Bool :=
  '0' ≤ c && c ≤ '9'

def digitValue (c : Char) : Nat :=
  c.toNat - '0'.toNat

/-- The greatest significand that is kept exactly. -/
def maxSignificand : Nat := Nat.pow 2 64 - 1

/-- Appends digits to a significand as long as it can be kept exactly, and gives those left over. -/
def absorb (significand : Nat) : List Char → Nat × List Char
  | [] => (significand, [])
  | d :: ds =>
    let n := significand * 10 + digitValue d
    if n ≤ maxSignificand then absorb n ds else (significand, d :: ds)

/-- Divides by a power of ten; powers beyond the 308th are taken apart, unless nothing is left. -/
def divideByPower (x : Value) (exp : Nat) : Value :=
  if exp ≤ 308 then x.scaleDown double (Nat.pow 10 exp)
  else if x.isZero then x
  else divideByPower (x.scaleDown double (Nat.pow 10 308)) (exp - 308)
termination_by exp

/-- The double that is read for `±significand * 10 ^ exp`: the significand is rounded first and the
product or quotient once more. Nothing if it is too large. -/
def assemble? (negative : Bool) (significand : Nat) (exp : Int) : Option Value :=
  let x := double.ofInt significand
  let signed (x : Value) := if negative then x.negate else x
  if exp < 0 then some (signed (divideByPower x exp.natAbs))
  else if significand = 0 then some (signed x)
  else if 308 < exp then none
  else
    let y := x.scaleUp double (Nat.pow 10 exp.toNat)
    if y.isInfinite then none else some (signed y)

/-- The same as a number, or the fault of a number that is too large. -/
def assemble (negative : Bool) (significand : Nat) (exp : Int) (rest : List Char) :
    Except Fault (Number × List Char) :=
  match assemble? negative significand exp with
  | some x => .ok (.real x, rest)
  | none => faultBefore .numberOutOfRange rest

/-- The greatest exponent that is told from an endless one. -/
def maxExponent : Nat := Nat.pow 2 31 - 1

/-- The value of exponent digits, or the digits behind the one that makes it too large. -/
def exponentValue (value : Nat) : List Char → Nat ⊕ List Char
  | [] => .inl value
  | d :: ds =>
    let n := value * 10 + digitValue d
    if n ≤ maxExponent then exponentValue n ds else .inr ds

/-- Reads an exponent behind its letter. -/
def readExponent (negative : Bool) (significand : Nat) (exp : Int) (cs : List Char) :
    Except Fault (Number × List Char) :=
  let (up, cs) :=
    match cs with
    | '+' :: rest => (true, rest)
    | '-' :: rest => (false, rest)
    | _ => (true, cs)
  match cs with
  | [] => faultBefore .eofInValue []
  | c :: _ =>
    if !isDigit c then faultAt .invalidNumber cs
    else
      let digits := cs.takeWhile isDigit
      let rest := cs.dropWhile isDigit
      match exponentValue 0 digits with
      | .inl n => assemble negative significand (if up then exp + n else exp - n) rest
      | .inr unread =>
        if significand ≠ 0 && up then faultBefore .numberOutOfRange (unread ++ rest)
        else .ok (.real (.finite negative 0 double.minExp), rest)

/-- Reads what may follow the digits before the point or behind it: an exponent or nothing. -/
def readScale (negative : Bool) (significand : Nat) (exp : Int) (cs : List Char) :
    Except Fault (Number × List Char) :=
  match cs with
  | 'e' :: rest => readExponent negative significand exp rest
  | 'E' :: rest => readExponent negative significand exp rest
  | _ => assemble negative significand exp cs

/-- Reads the decimals of a number behind its point. -/
def readDecimals (negative : Bool) (significand : Nat) (exp : Int) (cs : List Char) :
    Except Fault (Number × List Char) :=
  let digits := cs.takeWhile isDigit
  let rest := cs.dropWhile isDigit
  if digits.isEmpty then
    match cs with
    | [] => faultAt .eofInValue []
    | _ => faultAt .invalidNumber cs
  else
    let (n, unread) := absorb significand digits
    readScale negative n (exp - (digits.length - unread.length : Nat)) rest

/-- The number without point and exponent: whole if it fits into 64 bits, with minus zero a
double. -/
def wholeNumber (negative : Bool) (n : Nat) : Number :=
  if !negative then .int n
  else if n = 0 || Nat.pow 2 63 < n then .real (double.ofInt n).negate
  else .int (-n)

/-- Reads a number behind its sign. -/
def readUnsigned (negative : Bool) (cs : List Char) : Except Fault (Number × List Char) :=
  match cs with
  | [] => faultBefore .eofInValue []
  | c :: tail =>
    if !isDigit c then faultAt .invalidNumber cs
    else if c = '0' && (tail.head?.map isDigit).getD false then faultAt .invalidNumber tail
    else
      let digits := cs.takeWhile isDigit
      let rest := cs.dropWhile isDigit
      let (n, unread) := absorb 0 digits
      match rest with
      | '.' :: rest => readDecimals negative n unread.length rest
      | 'e' :: _ => readScale negative n unread.length rest
      | 'E' :: _ => readScale negative n unread.length rest
      | _ =>
        if unread.isEmpty then .ok (wholeNumber negative n, rest)
        else assemble negative n unread.length rest

def readNumber (cs : List Char) : Except Fault (Number × List Char) :=
  match cs with
  | '-' :: rest => readUnsigned true rest
  | _ => readUnsigned false cs

/-- The first character of a number. -/
def startsNumber (c : Char) : Bool :=
  c = '-' || isDigit c

end HomeAgents.Json
