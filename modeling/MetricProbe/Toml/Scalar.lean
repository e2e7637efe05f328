import MetricProbe.Text.Split
import MetricProbe.Toml.Value

/-!
# Unquoted scalars

An unquoted scalar is a run of characters that is read as a whole: a word for a truth value, a
moment or a number. Digits may be grouped by single underscores between them. A decimal integer has
no needless zero in front and fits in 64 bits with a sign; an integer in base two, eight or sixteen
has no sign of its own and the same bound. A number with a fraction or an exponent is a float, and
must not be beyond the positive end of the range.
-/

namespace MetricProbe.Toml

open Decimal (isDigit digitsValue)

/-- The value of a digit in bases up to sixteen. -/
def digitOf? (c : Char) : Option Nat :=
  if isDigit c then some (c.toNat - '0'.toNat)
  else if 'a' ≤ c ∧ c ≤ 'f' then some (c.toNat - 'a'.toNat + 10)
  else if 'A' ≤ c ∧ c ≤ 'F' then some (c.toNat - 'A'.toNat + 10)
  else none

/-- A digit of a base. -/
def isDigitOf (base : Nat) (c : Char) : Bool :=
  match digitOf? c with
  | some value => value < base
  | none => false

/-- The digits of a run in which underscores stand only between digits. -/
def ungroup? (base : Nat) (text : List Char) : Option (List Char) :=
  let groups := Text.splitAll (· == '_') text
  if groups.all fun group => !group.isEmpty && group.all (isDigitOf base) then
    some groups.flatten
  else none

/-- The number that digits of a base stand for. -/
def valueOf (base : Nat) (digits : List Char) : Nat :=
  digits.foldl (fun value c => value * base + (digitOf? c).getD 0) 0

/-- Integers lie below this bound, and at or above its negative. -/
def integerBound : Nat := twoPow 63

/-- The sign of a number, as whether it is negative, and what follows it. -/
def cutSign : List Char → Bool × List Char
  | '-' :: rest => (true, rest)
  | '+' :: rest => (false, rest)
  | rest => (false, rest)

/-- The digits of an unsigned decimal integer, which has no needless zero in front. -/
def decimalDigits? (text : List Char) : Option (List Char) :=
  (ungroup? 10 text).filter fun digits => digits.length == 1 || digits.head? != some '0'

/-- The base that a mark after a zero selects. -/
def baseOf? (mark : Char) : Option Nat :=
  if mark = 'x' then some 16 else if mark = 'o' then some 8 else if mark = 'b' then some 2 else none

/-- The integer that a text stands for. -/
def readInteger? (text : List Char) : Option Int :=
  let decimal : Option Int :=
    let (negative, body) := cutSign text
    (decimalDigits? body).bind fun digits =>
      let value : Int := if negative then -(digitsValue digits : Int) else digitsValue digits
      if -(integerBound : Int) ≤ value ∧ value < integerBound then some value else none
  match text with
  | '0' :: mark :: body =>
    match baseOf? mark with
    | some base =>
      (ungroup? base body).bind fun digits =>
        let value := valueOf base digits
        if value < integerBound then some (value : Int) else none
    | none => decimal
  | _ => decimal

/-- Whether a text is empty or the exponent of a float. -/
def isExponent : List Char → Bool
  | [] => true
  | mark :: rest => (mark == 'e' || mark == 'E') && (ungroup? 10 (cutSign rest).2).isSome

/-- A character of a number that is neither its point nor in its exponent. -/
def isGrouped (c : Char) : Bool := isDigit c || c == '_'

/-- Whether a text without a sign is written as a float. -/
def isFloat (text : List Char) : Bool :=
  (decimalDigits? (text.takeWhile isGrouped)).isSome &&
    match text.dropWhile isGrouped with
    | '.' :: rest =>
      (ungroup? 10 (rest.takeWhile isGrouped)).isSome && isExponent (rest.dropWhile isGrouped)
    | rest => !rest.isEmpty && isExponent rest

/-- The float that a text stands for. -/
def readFloat? (text : List Char) : Option Binary64 :=
  let (negative, body) := cutSign text
  if body = ['i', 'n', 'f'] then some (.infinite negative)
  else if body = ['n', 'a', 'n'] then some .nan
  else if isFloat body then
    (Decimal.unsigned? negative (body.filter (· != '_'))).filter (· != .infinite false)
  else none

/-- The truth value that a text stands for. -/
def readBoolean? (text : List Char) : Option Bool :=
  if text = ['t', 'r', 'u', 'e'] then some true
  else if text = ['f', 'a', 'l', 's', 'e'] then some false
  else none

/-- The value of an unquoted scalar. -/
def readScalar? (text : List Char) : Option Value :=
  (readBoolean? text).map .boolean
    <|> (Moment.read? text).map .moment
    <|> (readFloat? text).map .float
    <|> (readInteger? text).map .integer

end MetricProbe.Toml
