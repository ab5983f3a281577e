import HomeAgents.Session.Identity

/-!
# Escapes of bytes

A byte that may not stand in an address is written as a percent sign and two hexadecimal digits in
upper case. A percent sign that no two digits follow stands for itself.
-/

namespace HomeAgents.Http

def upperHexDigit (n : UInt8) : Char :=
  (Nat.digitChar n.toNat).toUpper

def escapeByte (b : UInt8) : List Char :=
  ['%', upperHexDigit (b / 16), upperHexDigit (b % 16)]

def escapeBytes (c : Char) : List Char :=
  (String.singleton c).toUTF8.toList.flatMap escapeByte

/-- The characters with those escaped that a test tells, and every character beyond ASCII. -/
def escape (escaped : Char → Bool) (cs : List Char) : String :=
  String.ofList (cs.flatMap fun c => if c.toNat < 0x80 && !escaped c then [c] else escapeBytes c)

/-- Control characters of ASCII. -/
def isControl (c : Char) : Bool :=
  c.toNat < 0x20 || c = '\x7f'

def escapedInFragment (c : Char) : Bool :=
  isControl c || " \"<>`".toList.contains c

def escapedInPath (c : Char) : Bool :=
  escapedInFragment c || "#?\x7b\x7d".toList.contains c

def escapedInQuery (c : Char) : Bool :=
  isControl c || " \"#<>".toList.contains c

/-- The bytes that characters with escapes stand for. -/
def unescape : List Char → List UInt8
  | [] => []
  | '%' :: a :: b :: rest =>
    match SessionId.digit? a, SessionId.digit? b with
    | some m, some n => UInt8.ofNat (16 * m + n) :: unescape rest
    | _, _ => '%'.toUInt8 :: unescape (a :: b :: rest)
  | c :: rest => (String.singleton c).toUTF8.toList ++ unescape rest

end HomeAgents.Http
