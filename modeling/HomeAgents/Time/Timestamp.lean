import HomeAgents.Time.Civil

/-!
# Reading timestamps

A timestamp begins with a date and a time of day of a fixed width. A fraction of a second may
follow, and the offset from universal time comes last.
-/

namespace HomeAgents.Time

inductive TimestampFault where
  | invalid
  | tooShort
  | tooLong
  | outOfRange
deriving DecidableEq, Repr, Inhabited

def TimestampFault.message : TimestampFault → String
  | .invalid => "input contains invalid characters"
  | .tooShort => "premature end of input"
  | .tooLong => "trailing input"
  | .outOfRange => "input is out of range"

/-- The number that decimal digits write. -/
def digitsValue (digits : List Char) : Nat :=
  digits.foldl (fun n d => 10 * n + (d.toNat - '0'.toNat)) 0

/-- Reads a number of so many digits. -/
def readNumber (width : Nat) (cs : List Char) : Except TimestampFault (Nat × List Char) :=
  let digits := cs.take width
  if digits.length < width then .error .tooShort
  else if digits.all Char.isDigit then .ok (digitsValue digits, cs.drop width)
  else .error .invalid

/-- Reads one of some marks. -/
def readMark (marks : List Char) : List Char → Except TimestampFault (List Char)
  | [] => .error .tooShort
  | c :: cs => if c ∈ marks then .ok cs else .error .invalid

/-- Reads the fraction of a second, if there is one, in nanoseconds. Digits behind the ninth count
for nothing. -/
def readFraction : List Char → Except TimestampFault (Nat × List Char)
  | '.' :: cs =>
    let digits := (cs.takeWhile Char.isDigit).take 9
    if digits.isEmpty then .error (if cs.isEmpty then .tooShort else .invalid)
    else .ok (digitsValue digits * Nat.pow 10 (9 - digits.length), cs.dropWhile Char.isDigit)
  | cs => .ok (0, cs)

/-- Reads the offset from universal time, in minutes. -/
def readOffset : List Char → Except TimestampFault (Int × List Char)
  | [] => .error .tooShort
  | c :: cs =>
    if c ∈ ['Z', 'z'] then .ok (0, cs)
    else if c ∉ ['+', '-', '−'] then .error .invalid
    else do
      let (hours, cs) ← readNumber 2 cs
      let cs ← readMark [':'] cs
      let (minutes, cs) ← readNumber 2 cs
      if 23 < hours ∨ 59 < minutes then .error .outOfRange
      else
        let offset : Int := (hours * 60 + minutes : Nat)
        .ok (if c = '+' then offset else -offset, cs)

/-- A date that there is, and a time of day. A minute may have a leap second. -/
def Civil.isValid (c : Civil) : Bool :=
  decide (dateOf (daysTo c.year c.month c.day) = (c.year, c.month, c.day)) &&
    decide (c.hour < 24 ∧ c.minute < 60 ∧ c.second ≤ 60)

/-- The moment that a timestamp tells. -/
def ofTimestamp (text : String) : Except TimestampFault Int := do
  let (year, cs) ← readNumber 4 text.toList
  let cs ← readMark ['-'] cs
  let (month, cs) ← readNumber 2 cs
  let cs ← readMark ['-'] cs
  let (day, cs) ← readNumber 2 cs
  let cs ← readMark ['T', 't', ' '] cs
  let (hour, cs) ← readNumber 2 cs
  let cs ← readMark [':'] cs
  let (minute, cs) ← readNumber 2 cs
  let cs ← readMark [':'] cs
  let (second, cs) ← readNumber 2 cs
  let (nano, cs) ← readFraction cs
  let (offset, cs) ← readOffset cs
  let c : Civil := { year, month, day, hour, minute, second, nano }
  if !cs.isEmpty then .error .tooLong
  else if c.isValid then .ok (c.toNanos - offset * 60 * nanosPerSecond)
  else .error .outOfRange

end HomeAgents.Time
