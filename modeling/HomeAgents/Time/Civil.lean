/-!
# Calendar time

Dates and times of day of the proleptic Gregorian calendar in universal time, counted in
nanoseconds from the beginning of the year 1970. Days are counted in eras of 400 years that begin
on the first of March, so that the leap day is the last of its year.
-/

namespace HomeAgents.Time

/-- A date and a time of day. -/
structure Civil where
  year : Int
  month : Nat
  day : Nat
  hour : Nat
  minute : Nat
  second : Nat
  nano : Nat
deriving DecidableEq, Repr

def nanosPerMilli : Int := 1000000

def nanosPerSecond : Nat := 1000000000

def nanosPerDay : Int := 86400 * 1000000000

/-- The days in an era of 400 years. -/
def eraDays : Int := 146097

/-- The year, month and day of a number of days from the beginning of 1970. -/
def dateOf (days : Int) : Int × Nat × Nat :=
  let shifted := days + 719468
  let era := Int.fdiv shifted eraDays
  let day := (Int.fmod shifted eraDays).toNat
  let year := (day - day / 1460 + day / 36524 - day / 146096) / 365
  let dayOfYear := day - (365 * year + year / 4 - year / 100)
  let slot := (5 * dayOfYear + 2) / 153
  let month := if slot < 10 then slot + 3 else slot - 9
  let base : Int := (year : Int) + era * 400
  (if month ≤ 2 then base + 1 else base, month, dayOfYear - (153 * slot + 2) / 5 + 1)

/-- The number of days from the beginning of 1970 to a date. -/
def daysTo (year : Int) (month dayOfMonth : Nat) : Int :=
  let shifted := if month ≤ 2 then year - 1 else year
  let era := Int.fdiv shifted 400
  let yearOfEra := Int.fmod shifted 400
  let slot : Int := if 2 < month then (month : Int) - 3 else (month : Int) + 9
  let dayOfYear := Int.fdiv (153 * slot + 2) 5 + dayOfMonth - 1
  era * eraDays +
    (yearOfEra * 365 + Int.fdiv yearOfEra 4 - Int.fdiv yearOfEra 100 + dayOfYear) - 719468

def Civil.ofNanos (moment : Int) : Civil :=
  let (year, month, dayOfMonth) := dateOf (Int.fdiv moment nanosPerDay)
  let rest := (Int.fmod moment nanosPerDay).toNat
  { year, month
    day := dayOfMonth
    hour := rest / (3600 * nanosPerSecond)
    minute := rest / (60 * nanosPerSecond) % 60
    second := rest / nanosPerSecond % 60
    nano := rest % nanosPerSecond }

def Civil.toNanos (c : Civil) : Int :=
  daysTo c.year c.month c.day * nanosPerDay +
    (((c.hour * 60 + c.minute) * 60 + c.second) * nanosPerSecond + c.nano : Nat)

/-- The names of the days of the week; the year 1970 began on a Thursday. -/
def weekdays : List String :=
  ["Thursday", "Friday", "Saturday", "Sunday", "Monday", "Tuesday", "Wednesday"]

def weekday (moment : Int) : String :=
  weekdays.getD (Int.fmod (Int.fdiv moment nanosPerDay) 7).toNat ""

/-- A natural number with zeros before it up to a width. -/
def padded (width n : Nat) : String :=
  let digits := toString n
  "".pushn '0' (width - digits.length) ++ digits

/-- A year of four digits; one before the year 0 or after 9999 has a sign and at least four
digits. -/
def yearText (year : Int) : String :=
  if 0 ≤ year ∧ year ≤ 9999 then padded 4 year.toNat
  else (if year < 0 then "-" else "+") ++ padded 4 year.natAbs

/-- The date, as in `2026-10-19`. -/
def Civil.dateText (c : Civil) : String :=
  yearText c.year ++ "-" ++ padded 2 c.month ++ "-" ++ padded 2 c.day

/-- The time of day without seconds, as in `14:03`. -/
def Civil.clockText (c : Civil) : String :=
  padded 2 c.hour ++ ":" ++ padded 2 c.minute

/-- A moment, and how many seconds the local time is ahead of universal time then. -/
structure Local where
  moment : Int
  offset : Int
deriving DecidableEq, Repr

/-- A moment in universal time. -/
instance : Coe Int Local := ⟨fun moment => ⟨moment, 0⟩⟩

namespace Local

/-- The moment at which it is in universal time what it is here in local time. -/
def reading (t : Local) : Int :=
  t.moment + t.offset * nanosPerSecond

def civil (t : Local) : Civil :=
  Civil.ofNanos t.reading

def weekday (t : Local) : String :=
  Time.weekday t.reading

/-- The offset in hours and whole minutes, as in `+02:00`. -/
def offsetText (t : Local) : String :=
  let minutes := (t.offset.natAbs + 30) / 60
  (if t.offset < 0 then "-" else "+") ++ padded 2 (minutes / 60) ++ ":" ++ padded 2 (minutes % 60)

end Local

/-- The fraction of a second with three, six or nine digits, as few as it needs; nothing for zero.
-/
def fractionText (nano : Nat) : String :=
  if nano = 0 then ""
  else if nano % 1000000 = 0 then "." ++ padded 3 (nano / 1000000)
  else if nano % 1000 = 0 then "." ++ padded 6 (nano / 1000)
  else "." ++ padded 9 nano

/-- The moment as a timestamp in universal time, as in `2026-10-19T14:03:00.250+00:00`. -/
def timestamp (moment : Int) : String :=
  let c := Civil.ofNanos moment
  c.dateText ++ "T" ++ c.clockText ++ ":" ++ padded 2 c.second ++ fractionText c.nano ++ "+00:00"

/-- The whole milliseconds between two moments, none if the second is not the later one. -/
def elapsedMs (start stop : Int) : Nat :=
  ((stop - start) / nanosPerMilli).toNat

end HomeAgents.Time
