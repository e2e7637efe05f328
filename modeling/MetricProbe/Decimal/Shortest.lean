import MetricProbe.Decimal.Binary64

/-!
# Shortest decimals

The decimal with the fewest digits that still reads back as a given number, and of those the one
nearest to it. For one digit, two digits and so on, the two neighbours of the number on that
decimal grid are compared, in exact integer arithmetic, with the interval of reals that round to
the number; the first grid with a neighbour inside wins. Seventeen digits always suffice.

A number may lie halfway between two shortest decimals, as 1125899906842624.25 does; which of the
two is written is the caller's choice of a `Halfway` rule.

How the digits are laid out is another module's business.
-/

namespace MetricProbe.Decimal

/-- Which of two equally near decimals is taken. -/
inductive Halfway where
  /-- The one whose last digit is even. -/
  | toEven
  /-- The one of greater magnitude. -/
  | awayFromZero
  deriving DecidableEq, Repr

/-- The natural number nearest to a quotient, with the rule for a quotient that is halfway between
two. -/
def Halfway.round : Halfway → Nat → Nat → Nat
  | .toEven, numerator, denominator => Binary64.roundHalfEven numerator denominator
  | .awayFromZero, numerator, denominator => (2 * numerator + denominator) / (2 * denominator)

/-- The decimal `digits · 10^exponent`. -/
structure Scaled where
  digits : Nat
  exponent : Int
  deriving DecidableEq, Repr

/-- How many decimal digits a natural number has; zero has none. -/
def digitCount (n : Nat) : Nat :=
  if h : n = 0 then 0 else digitCount (n / 10) + 1
termination_by n
decreasing_by exact Nat.div_lt_self (Nat.pos_of_ne_zero h) (by decide)

/-- The same decimal without trailing zeros among its digits. -/
def Scaled.trimmed (decimal : Scaled) : Scaled :=
  if h : decimal.digits = 0 ∨ decimal.digits % 10 ≠ 0 then decimal
  else Scaled.trimmed ⟨decimal.digits / 10, decimal.exponent + 1⟩
termination_by decimal.digits
decreasing_by
  exact Nat.div_lt_self (Nat.pos_of_ne_zero fun zero => h (Or.inl zero)) (by decide)

/-- The reals that round to one number: all those between `low` and `high` in quarters of
`2^-1074`, with the ends if `closed`. -/
structure RoundingInterval where
  low : Nat
  high : Nat
  closed : Bool

/-- The reals that round to the canonical number `mantissa · 2^(exponent - 1074)`. Below a power
of two the neighbour is only half as far away. -/
def roundingInterval (mantissa exponent : Nat) : RoundingInterval :=
  let below := if mantissa = twoPow 52 ∧ exponent ≠ 0 then 1 else 2
  { low := (4 * mantissa - below) * twoPow exponent
    high := (4 * mantissa + 2) * twoPow exponent
    closed := mantissa % 2 == 0 }

/-- A decimal in quarters of `2^-1074`, over a common denominator: the pair `(numerator,
denominator)`. -/
def Scaled.quarters (decimal : Scaled) : Nat × Nat :=
  if 0 ≤ decimal.exponent then
    (decimal.digits * tenPow decimal.exponent.toNat * twoPow 1076, 1)
  else
    (decimal.digits * twoPow 1076, tenPow (-decimal.exponent).toNat)

/-- Whether a decimal rounds to the number that the interval belongs to. -/
def RoundingInterval.holds (interval : RoundingInterval) (decimal : Scaled) : Bool :=
  let (numerator, denominator) := decimal.quarters
  if interval.closed then
    interval.low * denominator ≤ numerator && numerator ≤ interval.high * denominator
  else
    interval.low * denominator < numerator && numerator < interval.high * denominator

/-- The power of ten of the leading digit of the positive number
`mantissa · 2^(exponent - 1074)`. -/
def leadingExponent (mantissa exponent : Nat) : Int :=
  (digitCount (mantissa * twoPow exponent * tenPow 400 / twoPow 1074) : Int) - 401

/-- The two neighbours of a number on the grid of multiples of a power of ten, the nearer one
first; of two that are equally near, the one that the rule takes. -/
def neighbours (halfway : Halfway) (mantissa exponent : Nat) (grid : Int) : Scaled × Scaled :=
  let (numerator, denominator) :=
    if 0 ≤ grid then (mantissa * twoPow exponent, twoPow 1074 * tenPow grid.toNat)
    else (mantissa * twoPow exponent * tenPow (-grid).toNat, twoPow 1074)
  let floor := numerator / denominator
  let nearest := halfway.round numerator denominator
  (⟨nearest, grid⟩, ⟨if nearest = floor then floor + 1 else floor, grid⟩)

/-- The first decimal with at least the given number of digits that rounds to the number,
trying `fuel` lengths. -/
def searchShortest (halfway : Halfway) (mantissa exponent : Nat) (leading : Int) :
    Nat → Nat → Scaled
  | 0, length => (neighbours halfway mantissa exponent (leading - length)).1
  | fuel + 1, length =>
    let interval := roundingInterval mantissa exponent
    let (near, far) := neighbours halfway mantissa exponent (leading - length)
    if interval.holds near then near
    else if interval.holds far then far
    else searchShortest halfway mantissa exponent leading fuel (length + 1)

/-- The shortest decimal that reads back as `mantissa · 2^(exponent - 1074)`. -/
def shortest (halfway : Halfway) (mantissa exponent : Nat) : Scaled :=
  if mantissa = 0 then ⟨0, 0⟩
  else (searchShortest halfway mantissa exponent (leadingExponent mantissa exponent) 17 0).trimmed

end MetricProbe.Decimal
