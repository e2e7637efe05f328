import MetricProbe.Decimal.Power

/-!
# Binary64 numbers

The double-precision numbers of the program: measured values, timestamps and the seconds of an
interval. A number is its sign, mantissa and exponent, so every operation is exact integer
arithmetic followed by one rounding, and all of it can be evaluated and reasoned about.

`finite negative m e` stands for `m · 2^(e - 1074)`. The numbers that operations produce are
canonical: `m < 2^53`, and `e = 0` or `2^52 ≤ m`. There is one NaN; its payload is never
observed.
-/

namespace MetricProbe

/-- A double-precision number. -/
inductive Binary64 where
  /-- Not a number. -/
  | nan
  /-- An infinity with its sign. -/
  | infinite (negative : Bool)
  /-- The number `mantissa · 2^(exponent - 1074)` with its sign; zero is signed too. -/
  | finite (negative : Bool) (mantissa exponent : Nat)
  deriving DecidableEq, Repr, Inhabited

namespace Binary64

/-- The natural number nearest to a quotient; a tie goes to the even neighbour. -/
def roundHalfEven (numerator denominator : Nat) : Nat :=
  let quotient := numerator / denominator
  let twice := 2 * (numerator % denominator)
  if twice < denominator then quotient
  else if denominator < twice then quotient + 1
  else quotient + quotient % 2

/-- The number with the given canonical or overflowing parts: a mantissa of `2^53` carries into
the exponent, and an exponent above 2045 is an infinity. -/
def pack (negative : Bool) (mantissa exponent : Nat) : Binary64 :=
  let (mantissa, exponent) :=
    if mantissa = twoPow 53 then (twoPow 52, exponent + 1) else (mantissa, exponent)
  if 2045 < exponent then .infinite negative else .finite negative mantissa exponent

/-- A quotient of natural numbers rounded to the nearest number, ties to even, with the given
sign. The denominator is positive. -/
def ofRatio (negative : Bool) (numerator denominator : Nat) : Binary64 :=
  let scaled := numerator * twoPow 1074
  let exponent := Nat.log2 (scaled / denominator) - 52
  pack negative (roundHalfEven scaled (denominator * twoPow exponent)) exponent

/-- Positive zero. -/
def zero : Binary64 := .finite false 0 0

/-- The number nearest to a natural number. -/
def ofNat (n : Nat) : Binary64 := ofRatio false n 1

/-- The number nearest to an integer. -/
def ofInt (n : Int) : Binary64 := ofRatio (n < 0) n.natAbs 1

/-- The number one. -/
def one : Binary64 := ofNat 1

/-- The number with the opposite sign. -/
def neg : Binary64 → Binary64
  | .nan => .nan
  | .infinite negative => .infinite !negative
  | .finite negative mantissa exponent => .finite (!negative) mantissa exponent

/-- Whether the number is neither an infinity nor NaN. -/
def isFinite : Binary64 → Bool
  | .finite .. => true
  | _ => false

/-- Whether the number is an infinity. -/
def isInfinite : Binary64 → Bool
  | .infinite _ => true
  | _ => false

/-- Whether the number is a zero of either sign. -/
def isZero : Binary64 → Bool
  | .finite _ mantissa _ => mantissa == 0
  | _ => false

/-- The magnitude of a finite number as a multiple of `2^-1074`. -/
def units (mantissa exponent : Nat) : Nat := mantissa * twoPow exponent

/-- The rounded product. -/
def mul : Binary64 → Binary64 → Binary64
  | .nan, _ => .nan
  | _, .nan => .nan
  | .infinite s, .infinite t => .infinite (s != t)
  | .infinite s, .finite t m _ => if m = 0 then .nan else .infinite (s != t)
  | .finite s m _, .infinite t => if m = 0 then .nan else .infinite (s != t)
  | .finite s m e, .finite t n f => ofRatio (s != t) (units m e * units n f) (twoPow 2148)

/-- The rounded quotient. -/
def div : Binary64 → Binary64 → Binary64
  | .nan, _ => .nan
  | _, .nan => .nan
  | .infinite _, .infinite _ => .nan
  | .infinite s, .finite t _ _ => .infinite (s != t)
  | .finite s _ _, .infinite t => .finite (s != t) 0 0
  | .finite s m e, .finite t n f =>
    if n = 0 then (if m = 0 then .nan else .infinite (s != t))
    else ofRatio (s != t) (units m e) (units n f)

/-- The magnitude of a finite number with its sign, as a multiple of `2^-1074`. -/
def signedUnits (negative : Bool) (mantissa exponent : Nat) : Int :=
  if negative then -(units mantissa exponent : Int) else units mantissa exponent

/-- The rounded sum. A sum of zero is positive unless both terms are negative. -/
def add : Binary64 → Binary64 → Binary64
  | .nan, _ => .nan
  | _, .nan => .nan
  | .infinite s, .infinite t => if s = t then .infinite s else .nan
  | .infinite s, .finite .. => .infinite s
  | .finite .., .infinite t => .infinite t
  | .finite s m e, .finite t n f =>
    let sum := signedUnits s m e + signedUnits t n f
    if sum = 0 then .finite (s && t) 0 0
    else ofRatio (sum < 0) sum.natAbs (twoPow 1074)

/-- Numeric equality: NaN equals nothing, and the two zeros are equal. -/
def eq : Binary64 → Binary64 → Bool
  | .nan, _ => false
  | _, .nan => false
  | .infinite s, .infinite t => s == t
  | .finite s m e, .finite t n f => signedUnits s m e == signedUnits t n f
  | _, _ => false

/-- The integer part as a signed 64-bit integer: values outside the range go to its nearer end,
and NaN goes to zero. -/
def toInt64 : Binary64 → Int
  | .nan => 0
  | .infinite negative => if negative then -(twoPow 63 : Int) else (twoPow 63 : Int) - 1
  | .finite negative mantissa exponent =>
    let whole : Nat := units mantissa exponent / twoPow 1074
    if negative then (if twoPow 63 < whole then -(twoPow 63 : Int) else -(whole : Int))
    else (if twoPow 63 ≤ whole then (twoPow 63 : Int) - 1 else whole)

/-- The 64-bit interchange word. NaN is written as the quiet NaN without payload. -/
def toBits : Binary64 → Nat
  | .nan => 0x7ff8000000000000
  | .infinite negative => (if negative then twoPow 63 else 0) + 0x7ff0000000000000
  | .finite negative mantissa exponent =>
    (if negative then twoPow 63 else 0) +
      (if mantissa < twoPow 52 then mantissa
        else (exponent + 1) * twoPow 52 + (mantissa - twoPow 52))

end Binary64

end MetricProbe
