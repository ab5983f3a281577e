/-!
# Binary floating-point numbers

Values of the binary interchange formats as sign, significand and exponent, so that arithmetic is
exact arithmetic on naturals followed by one rounding. Rounding is to nearest, a tie goes to the
even significand, and what exceeds the largest finite value becomes infinite.
-/

namespace HomeAgents.Binary

/-- A format: the bits of a significand and the least and greatest exponents of its last bit. -/
structure Format where
  precision : Nat
  minExp : Int
  maxExp : Int
deriving DecidableEq, Repr

/-- The 64-bit format. -/
def double : Format := ⟨53, -1074, 971⟩

/-- The 32-bit format. -/
def single : Format := ⟨24, -149, 104⟩

/-- A finite value is `±mant * 2 ^ exp`. In a format its significand fills the precision unless the
exponent is the least one, so equal values are equal terms. -/
inductive Value where
  | nan
  | infinite (negative : Bool)
  | finite (negative : Bool) (mant : Nat) (exp : Int)
deriving DecidableEq, Repr, Inhabited

/-- The numerator and the denominator of `mant * 2 ^ exp`. -/
def ratio (mant : Nat) (exp : Int) : Nat × Nat :=
  if 0 ≤ exp then (mant * Nat.pow 2 exp.toNat, 1) else (mant, Nat.pow 2 (-exp).toNat)

/-- The quotient to the nearest natural, a tie to the even one. -/
def nearest (num den : Nat) : Nat :=
  let q := num / den
  let r := num % den
  if den < 2 * r || (2 * r == den && q % 2 == 1) then q + 1 else q

/-- The exponent of the last bit of a value near `num / den`. -/
def Format.exponentFor (fmt : Format) (num den : Nat) : Int :=
  let guess := (num.log2 : Int) - (den.log2 : Int) - fmt.precision
  let low := max guess fmt.minExp
  let scaled := ratio den low
  if num * scaled.2 / scaled.1 < Nat.pow 2 fmt.precision then low else low + 1

/-- The value of the format nearest to `±num / den`. -/
def Format.round (fmt : Format) (negative : Bool) (num den : Nat) : Value :=
  if num = 0 then .finite negative 0 fmt.minExp
  else
    let exp := fmt.exponentFor num den
    let scaled := ratio den exp
    let mant := nearest (num * scaled.2) scaled.1
    let (mant, exp) :=
      if mant = Nat.pow 2 fmt.precision then (Nat.pow 2 (fmt.precision - 1), exp + 1)
      else (mant, exp)
    if fmt.maxExp < exp then .infinite negative else .finite negative mant exp

/-- The value of the format nearest to an integer. -/
def Format.ofInt (fmt : Format) (n : Int) : Value :=
  fmt.round (n < 0) n.natAbs 1

/-- The value of the format nearest to `±digits * 10 ^ exp`. Exponents far outside the format are
decided without computing the power. -/
def Format.ofDecimal (fmt : Format) (negative : Bool) (digits : Nat) (exp : Int) : Value :=
  if digits = 0 then .finite negative 0 fmt.minExp
  else
    let magnitude := exp + (Nat.toDigits 10 digits).length
    if 400 < magnitude then .infinite negative
    else if magnitude < -400 then .finite negative 0 fmt.minExp
    else if 0 ≤ exp then fmt.round negative (digits * Nat.pow 10 exp.toNat) 1
    else fmt.round negative digits (Nat.pow 10 (-exp).toNat)

namespace Value

def negate : Value → Value
  | nan => nan
  | infinite s => infinite !s
  | finite s m e => finite (!s) m e

def isFinite : Value → Bool
  | finite .. => true
  | _ => false

def isZero : Value → Bool
  | finite _ m _ => m == 0
  | _ => false

def isInfinite : Value → Bool
  | infinite _ => true
  | _ => false

/-- The same number in another format. -/
def convert (fmt : Format) : Value → Value
  | nan => nan
  | infinite s => infinite s
  | finite s m e => let (n, d) := ratio m e; fmt.round s n d

/-- The rounded product of a value and the natural that is nearest to it in the format. -/
def scaleUp (fmt : Format) (x : Value) (factor : Nat) : Value :=
  match x, fmt.round false factor 1 with
  | finite s m e, finite _ m' e' =>
    let (n, d) := ratio (m * m') (e + e')
    fmt.round s n d
  | finite s _ _, _ => infinite s
  | x, _ => x

/-- The rounded quotient of a value and the natural that is nearest to it in the format. -/
def scaleDown (fmt : Format) (x : Value) (factor : Nat) : Value :=
  match x, fmt.round false factor 1 with
  | finite s m e, finite _ m' e' =>
    let (n, d) := ratio m (e - e')
    fmt.round s n (d * m')
  | finite s _ _, _ => finite s 0 fmt.minExp
  | x, _ => x

/-- The order of the reals; nothing is below or above a value that is no number. -/
def le : Value → Value → Bool
  | finite s m e, finite s' m' e' =>
    let (n, d) := ratio m e
    let (n', d') := ratio m' e'
    let a : Int := if s then -(n * d' : Nat) else (n * d' : Nat)
    let b : Int := if s' then -(n' * d : Nat) else (n' * d : Nat)
    decide (a ≤ b)
  | infinite true, finite .. => true
  | finite .., infinite false => true
  | infinite s, infinite s' => s || !s'
  | _, _ => false

end Value

end HomeAgents.Binary
