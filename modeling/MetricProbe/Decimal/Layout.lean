import MetricProbe.Decimal.Shortest

/-!
# Layout of numbers

The digits of a number are the shortest that read back; a `Layout` says how they are set: which
of two equally near decimals is meant, which magnitudes are written positionally, whether a whole
number shows a fraction, and whether an exponent shows a plus sign. NaN and the infinities are
written the same way in every layout.

The layouts in use are the values at the end of the module.
-/

namespace MetricProbe.Decimal

/-- The choices in writing a number. -/
structure Layout where
  /-- Whether a whole number written positionally ends in a zero fraction. -/
  zeroFraction : Bool
  /-- The least and greatest power of ten of a leading digit that is written positionally; with
  `none`, every number is. -/
  positional : Option (Int × Int)
  /-- Whether a nonnegative exponent is written with a sign. -/
  signedExponent : Bool
  /-- Which decimal is written for a number halfway between two. -/
  halfway : Halfway

/-- A run of zeros. -/
def zeros (count : Nat) : List Char := List.replicate count '0'

/-- Decimal digits with the point put in its place. -/
def positionalText (layout : Layout) (decimal : Scaled) : List Char :=
  let digits := Nat.toDigits 10 decimal.digits
  if 0 ≤ decimal.exponent then
    digits ++ zeros decimal.exponent.toNat ++ (if layout.zeroFraction then ['.', '0'] else [])
  else
    let places := (-decimal.exponent).toNat
    if places < digits.length then
      digits.take (digits.length - places) ++ '.' :: digits.drop (digits.length - places)
    else
      '0' :: '.' :: (zeros (places - digits.length) ++ digits)

/-- Decimal digits with a point after the first and an exponent. -/
def scientificText (layout : Layout) (decimal : Scaled) : List Char :=
  let digits := Nat.toDigits 10 decimal.digits
  let exponent := decimal.exponent + digits.length - 1
  let sign := if exponent < 0 then ['-'] else if layout.signedExponent then ['+'] else []
  let power := Nat.toDigits 10 exponent.natAbs
  let fraction := digits.drop 1
  digits.take 1 ++ (if fraction.isEmpty then [] else '.' :: fraction) ++
    'e' :: (sign ++ power)

/-- The magnitude of a finite number. -/
def magnitudeText (layout : Layout) (mantissa exponent : Nat) : List Char :=
  let decimal := shortest layout.halfway mantissa exponent
  let leading := decimal.exponent + (Nat.toDigits 10 decimal.digits).length - 1
  match layout.positional with
  | none => positionalText layout decimal
  | some (low, high) =>
    if mantissa = 0 ∨ low ≤ leading ∧ leading ≤ high then positionalText layout decimal
    else scientificText layout decimal

/-- A number in a layout. -/
def Layout.write (layout : Layout) : Binary64 → String
  | .nan => "NaN"
  | .infinite negative => if negative then "-inf" else "inf"
  | .finite negative mantissa exponent =>
    String.ofList ((if negative then ['-'] else []) ++ magnitudeText layout mantissa exponent)

/-- Measured values in reports: digits only, never an exponent. -/
def reportLayout : Layout :=
  { zeroFraction := false, positional := none, signedExponent := false, halfway := .awayFromZero }

/-- Values inside a dump of results: always a fraction or an exponent. -/
def dumpLayout : Layout :=
  { zeroFraction := true, positional := some (-4, 15), signedExponent := false,
    halfway := .awayFromZero }

/-- Numbers of a JSON text that stand where they are not expected. -/
def jsonLayout : Layout :=
  { zeroFraction := true, positional := some (-5, 15), signedExponent := true, halfway := .toEven }

/-- Numbers of a configuration text that stand where they are not expected. -/
def settingLayout : Layout :=
  { zeroFraction := true, positional := none, signedExponent := false, halfway := .awayFromZero }

end MetricProbe.Decimal
