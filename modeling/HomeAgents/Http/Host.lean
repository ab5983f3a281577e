import HomeAgents.Http.Percent
import HomeAgents.Text.Split

/-!
# Hosts

A host is a name or the number of a machine, of 32 or of 128 bits. A name whose last label looks
like a number must be the number of a machine in one of its many spellings.
-/

namespace HomeAgents.Http

inductive Host where
  | name (s : String)
  | machine (number : Nat)
  | longMachine (pieces : List Nat)
deriving DecidableEq, Repr, Inhabited

namespace Host

/-- The number that digits of a base stand for; there must be some. -/
def number? (base : Nat) (digits : List Char) : Option Nat :=
  if digits.isEmpty then none
  else digits.foldlM (fun n c => ((SessionId.digit? c).filter (· < base)).map (base * n + ·)) 0

/-- A part of a machine's number: hexadecimal after `0x`, octal after another `0`, and else
decimal. -/
def part? : List Char → Option Nat
  | ['0', 'x'] => some 0
  | '0' :: 'x' :: rest => number? 16 rest
  | '0' :: c :: rest => number? 8 (c :: rest)
  | digits => number? 10 digits

/-- The labels of a name without an empty one at the end. -/
def labels (s : String) : List (List Char) :=
  let all := (Text.splitAt '.' s).map String.toList
  if all.getLast? = some [] then all.dropLast else all

/-- Whether the last label of a name looks like a number. -/
def endsInNumber (s : String) : Bool :=
  match (labels s).getLast? with
  | none => false
  | some l => (!l.isEmpty && l.all Char.isDigit) || (part? l).isSome

/-- The machine with a number of 32 bits that at most four parts give: each part is a byte, and
the last one fills all the bytes that are left. -/
def machine? (s : String) : Option Host := do
  let parts ← (labels s).mapM part?
  let last ← parts.getLast?
  let high := parts.dropLast
  if 3 < high.length || high.any (255 < ·) || Nat.pow 256 (4 - high.length) ≤ last then none
  else
    let front := high.foldl (fun n byte => 256 * n + byte) 0
    some (.machine (front * Nat.pow 256 (4 - high.length) + last))

/-- A part of four decimal ones, without leading zeros. -/
def strictPart? (digits : List Char) : Option Nat :=
  if digits.length > 1 && digits.head? = some '0' then none
  else (number? 10 digits).filter (· ≤ 255)

/-- The pieces that stand in one place of a long number: four digits, or at the end a number of 32
bits. -/
def pieces? (last : Bool) (digits : List Char) : Option (List Nat) :=
  if last && digits.contains '.' then
    match (Text.splitFrom '.' [] digits).mapM strictPart? with
    | some [a, b, c, d] => some [256 * a + b, 256 * c + d]
    | _ => none
  else if 4 < digits.length then none
  else (number? 16 digits).map fun n => [n]

/-- The pieces of one side of a long number. -/
def side? (cs : List Char) : Option (List Nat) :=
  if cs.isEmpty then some []
  else
    let parts := Text.splitFrom ':' [] cs
    (parts.zipIdx.mapM fun p => pieces? (p.2 + 1 = parts.length) p.1).map List.flatten

/-- The characters before and after the first double colon. -/
def atGap? : List Char → Option (List Char × List Char)
  | ':' :: ':' :: rest => some ([], rest)
  | c :: rest => (atGap? rest).map fun p => (c :: p.1, p.2)
  | [] => none

/-- The machine with a number of 128 bits: eight pieces, of which a double colon leaves out zeros.
-/
def longMachine? (cs : List Char) : Option Host := do
  match atGap? cs with
  | none =>
    let pieces ← side? cs
    if pieces.length = 8 then some (.longMachine pieces) else none
  | some (left, right) =>
    let a ← side? left
    let b ← side? right
    if a.length + b.length < 8 then
      some (.longMachine (a ++ List.replicate (8 - a.length - b.length) 0 ++ b))
    else none

/-- What no name has in it. -/
def forbidden (c : Char) : Bool :=
  isControl c || " #/:<>?@[\\]^`\x7b|\x7d%".toList.contains c

/-- The host that characters spell. Names are of ASCII alone. -/
def ofChars? (cs : List Char) : Option Host :=
  match cs with
  | '[' :: rest => if rest.getLast? = some ']' then longMachine? rest.dropLast else none
  | _ =>
    let bytes := unescape cs
    if bytes.any (0x80 ≤ ·) then none
    else
      let name := (bytes.map fun b => (Char.ofNat b.toNat).toLower)
      if name.isEmpty || name.any forbidden then none
      else if endsInNumber (String.ofList name) then machine? (String.ofList name)
      else some (.name (String.ofList name))

/-- Where the longest run of zeros begins, the first one of that length, and its length. -/
def longestGap (pieces : List Nat) : Nat × Nat :=
  (List.range pieces.length).foldl
    (fun best i =>
      let length := ((pieces.drop i).takeWhile (· = 0)).length
      if best.2 < length then (i, length) else best)
    (0, 0)

/-- Pieces in hexadecimal with colons between them. -/
def piecesText (pieces : List Nat) : String :=
  ":".intercalate (pieces.map fun n => String.ofList (Nat.toDigits 16 n))

def text : Host → String
  | name s => s
  | machine n =>
    ".".intercalate ([3, 2, 1, 0].map fun i => toString (n / Nat.pow 256 i % 256))
  | longMachine pieces =>
    let (start, length) := longestGap pieces
    if length < 2 then "[" ++ piecesText pieces ++ "]"
    else
      "[" ++ piecesText (pieces.take start) ++ "::" ++ piecesText (pieces.drop (start + length)) ++
        "]"

end Host

end HomeAgents.Http
