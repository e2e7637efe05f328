import MetricProbe.Decimal.Binary64

/-!
# Number literals

The text of a sample value: an optional sign, then decimal digits with an optional point and at
least one digit, then an optional exponent; or the words `inf`, `infinity` and `nan` in any case.
Nothing else is a literal, blanks included. The value is the nearest number, so a literal beyond
the range is an infinity and one below it a zero.
-/

namespace MetricProbe.Decimal

/-- Why a text is no number. -/
inductive LiteralFault where
  | empty
  | malformed
  deriving DecidableEq, Repr

/-- The wording of a fault. -/
def LiteralFault.message : LiteralFault → String
  | .empty => "cannot parse float from empty string"
  | .malformed => "invalid float literal"

/-- A decimal digit. -/
def isDigit (c : Char) : Bool := '0' ≤ c && c ≤ '9'

/-- The number a run of digits stands for; the empty run is zero. -/
def digitsValue (digits : List Char) : Nat :=
  digits.foldl (fun value c => value * 10 + (c.toNat - '0'.toNat)) 0

/-- The number `digits · 10^exponent`, rounded. Exponents far outside the range are decided
without raising ten to them. -/
def scaledValue (negative : Bool) (digits : Nat) (digitLength : Nat) (exponent : Int) : Binary64 :=
  if digits = 0 then .finite negative 0 0
  else if 400 < exponent then .infinite negative
  else if exponent + digitLength < -400 then .finite negative 0 0
  else if 0 ≤ exponent then Binary64.ofRatio negative (digits * tenPow exponent.toNat) 1
  else Binary64.ofRatio negative digits (tenPow (-exponent).toNat)

/-- The exponent of a literal: nothing, or `e` with an optional sign and digits. -/
def exponent? : List Char → Option Int
  | [] => some 0
  | mark :: rest =>
    if mark = 'e' ∨ mark = 'E' then
      let (negative, digits) :=
        match rest with
        | '-' :: digits => (true, digits)
        | '+' :: digits => (false, digits)
        | digits => (false, digits)
      if digits.isEmpty || !digits.all isDigit then none
      else some (if negative then -(digitsValue digits : Int) else digitsValue digits)
    else none

/-- The value of an unsigned literal that starts with digits or a point. -/
def unsigned? (negative : Bool) (text : List Char) : Option Binary64 :=
  let whole := text.takeWhile isDigit
  let (fraction, rest) :=
    match text.dropWhile isDigit with
    | '.' :: more => (more.takeWhile isDigit, more.dropWhile isDigit)
    | rest => ([], rest)
  if whole.isEmpty && fraction.isEmpty then none
  else
    (exponent? rest).map fun exponent =>
      scaledValue negative (digitsValue (whole ++ fraction)) (whole ++ fraction).length
        (exponent - fraction.length)

/-- The value of a literal after its sign. -/
def magnitude? (negative : Bool) (text : List Char) : Option Binary64 :=
  let word := text.map Char.toLower
  if word = "inf".toList ∨ word = "infinity".toList then some (.infinite negative)
  else if word = "nan".toList then some .nan
  else unsigned? negative text

/-- The number a literal stands for. -/
def readLiteral (text : String) : Except LiteralFault Binary64 :=
  match text.toList with
  | [] => .error .empty
  | '-' :: rest => (magnitude? true rest).elim (.error .malformed) .ok
  | '+' :: rest => (magnitude? false rest).elim (.error .malformed) .ok
  | rest => (magnitude? false rest).elim (.error .malformed) .ok

end MetricProbe.Decimal
