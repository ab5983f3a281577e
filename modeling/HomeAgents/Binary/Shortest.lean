import HomeAgents.Binary.Basic

/-!
# Shortest decimal digits

The fewest decimal digits that read back as the same value, and among those the nearest. Every real
between the midpoints to the two neighbours rounds to a value; the midpoints themselves do so when
its significand is even. A grid of `n` digits has a point in that interval exactly if one of the two
grid points next to the value lies in it.
-/

namespace HomeAgents.Binary

/-- Decimal digits and the place of the point: `0.digits * 10 ^ point`. -/
structure Digits where
  digits : Nat
  point : Int
deriving DecidableEq, Repr

/-- The number of decimal digits of a positive natural. -/
def decimalLength (n : Nat) : Nat :=
  (Nat.toDigits 10 n).length

/-- The place of the point of `num / den`: the `p` with `10 ^ (p - 1) ≤ num / den < 10 ^ p`. -/
def pointOf (num den : Nat) : Int :=
  if den ≤ num then decimalLength (num / den)
  else
    let len := decimalLength (den / num)
    if num * Nat.pow 10 (len - 1) = den then 2 - (len : Int) else 1 - (len : Int)

/-- The reals that round to a value, as multiples of `2 ^ (exp - 2)`. -/
structure Interval where
  low : Nat
  high : Nat
  closed : Bool
deriving DecidableEq, Repr

/-- The interval of `mant * 2 ^ exp`. Below a power of two the neighbour is half as far. -/
def Format.interval (fmt : Format) (mant : Nat) (exp : Int) : Interval :=
  let low :=
    if mant = Nat.pow 2 (fmt.precision - 1) && fmt.minExp < exp then 4 * mant - 1 else 4 * mant - 2
  ⟨low, 4 * mant + 2, mant % 2 == 0⟩

/-- The real `n / d` lies in the interval of a value with exponent `exp`. -/
def Interval.contains (i : Interval) (exp : Int) (n d : Nat) : Bool :=
  let (u, v) := ratio 1 (exp - 2)
  let x := n * v
  let low := i.low * u * d
  let high := i.high * u * d
  if i.closed then low ≤ x && x ≤ high else low < x && x < high

/-- `digits * 10 ^ exp` as a numerator and a denominator. -/
def decimalRatio (digits : Nat) (exp : Int) : Nat × Nat :=
  if 0 ≤ exp then (digits * Nat.pow 10 exp.toNat, 1) else (digits, Nat.pow 10 (-exp).toNat)

/-- The point of the grid of `n` digits that reads back as `mant * 2 ^ exp` and is nearest to it. -/
def Format.digitsOfLength? (fmt : Format) (mant : Nat) (exp : Int) (n : Nat) : Option Digits :=
  let (num, den) := ratio mant exp
  let point := pointOf num den
  let step := point - n
  let (a, b) := decimalRatio 1 step
  let low := num * b / (den * a)
  let rest := num * b % (den * a)
  let interval := fmt.interval mant exp
  let reads (d : Nat) : Bool :=
    let (x, y) := decimalRatio d step
    interval.contains exp x y
  let upFirst := den * a < 2 * rest || (2 * rest == den * a && low % 2 == 1)
  let candidates := if upFirst then [low + 1, low] else [low, low + 1]
  (candidates.find? reads).map fun d => ⟨if d = Nat.pow 10 n then 1 else d, step + decimalLength d⟩

/-- The shortest digits of a positive value `mant * 2 ^ exp`. Seventeen always suffice. -/
def Format.shortest (fmt : Format) (mant : Nat) (exp : Int) : Digits :=
  ((List.range 17).findSome? fun n => fmt.digitsOfLength? mant exp (n + 1)).getD ⟨0, 1⟩

/-- How a number is written: which exponents are written out positionally, and whether a whole
number written so keeps a decimal. -/
structure Layout where
  positional : Int → Bool
  keepsDecimal : Bool

def zeros (n : Nat) : String :=
  "".pushn '0' n

/-- The digits with the point in its place. -/
def placed (keepsDecimal : Bool) (digits : List Char) (point : Int) : String :=
  let n := digits.length
  if point ≤ 0 then "0." ++ zeros (-point).toNat ++ String.ofList digits
  else if (n : Int) ≤ point then
    String.ofList digits ++ zeros (point.toNat - n) ++ (if keepsDecimal then ".0" else "")
  else String.ofList (digits.take point.toNat) ++ "." ++ String.ofList (digits.drop point.toNat)

/-- One digit before the point, and a signed exponent. -/
def scientific (digits : List Char) (exponent : Int) : String :=
  let tail := digits.drop 1
  String.ofList (digits.take 1) ++ (if tail.isEmpty then "" else "." ++ String.ofList tail) ++
    (if exponent < 0 then "e-" else "e+") ++ toString exponent.natAbs

def Format.write (fmt : Format) (how : Layout) (negative : Bool) (mant : Nat) (exp : Int) :
    String :=
  let sign := if negative then "-" else ""
  if mant = 0 then sign ++ (if how.keepsDecimal then "0.0" else "0")
  else
    let d := fmt.shortest mant exp
    let digits := Nat.toDigits 10 d.digits
    if how.positional (d.point - 1) then sign ++ placed how.keepsDecimal digits d.point
    else sign ++ scientific digits (d.point - 1)

/-- The plain layout of messages: every place is written out and whole numbers have no point. -/
def plainLayout : Layout := ⟨fun _ => true, false⟩

/-- A value in messages. -/
def Format.display (fmt : Format) : Value → String
  | .nan => "NaN"
  | .infinite s => if s then "-inf" else "inf"
  | .finite s m e => fmt.write plainLayout s m e

end HomeAgents.Binary
