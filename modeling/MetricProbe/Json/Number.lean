import MetricProbe.Json.Reader
import MetricProbe.Decimal.Literal

/-!
# Numbers in JSON

A number without fraction and exponent is an integer if it fits in 64 bits, and so is a negative
one; every other number is floating point. The digits of a floating-point number are gathered into
a 64-bit significand, the digits that no longer fit only move the exponent, and the value is the
rounded significand times or over the rounded power of ten. This is not always the number nearest
to the text. A value beyond the range is refused.
-/

namespace MetricProbe.Json

open Reader
open Decimal (isDigit)

/-- A number as read. -/
inductive Number where
  | integer (value : Int)
  | float (value : Binary64)
  deriving DecidableEq, Repr

/-- The number as something found where it was not expected. -/
def Number.found : Number → Found
  | integer value => .integer value
  | float value => .float value

/-- The number as floating point. -/
def Number.toBinary64 : Number → Binary64
  | integer value => Binary64.ofInt value
  | float value => value

/-- Appends digits to a significand as long as it fits in 64 bits; gives the significand and how
many digits it took. -/
def absorb (significand : Nat) : List Char → Nat × Nat
  | [] => (significand, 0)
  | digit :: more =>
    let next := significand * 10 + (digit.toNat - '0'.toNat)
    if next < twoPow 64 then
      let (significand, taken) := absorb next more
      (significand, taken + 1)
    else (significand, 0)

/-- The greatest power of ten that is a number. -/
def greatestPower : Nat := 308

/-- A rounded number times a power of ten; there is no value if it is beyond the range. A number
too small for one division is divided by the greatest power first, at most `fuel` times; three
divisions bring every significand to zero. -/
def scaleBy (value : Binary64) (exponent : Int) : Nat → Option Binary64
  | 0 => some value
  | fuel + 1 =>
    if exponent.natAbs ≤ greatestPower then
      let power := Binary64.ofNat (tenPow exponent.natAbs)
      if exponent < 0 then some (value.div power)
      else
        let product := value.mul power
        if product.isInfinite then none else some product
    else if value.isZero then some value
    else if 0 ≤ exponent then none
    else scaleBy (value.div (Binary64.ofNat (tenPow greatestPower))) (exponent + greatestPower) fuel

/-- Gives the number with the given significand and exponent. -/
def giveScaled (negative : Bool) (significand : Nat) (exponent : Int) : Reader Number :=
  match scaleBy (Binary64.ofNat significand) exponent 4 with
  | none => stopHere .numberOutOfRange
  | some value => pure (.float (if negative then value.neg else value))

/-- The bound of the exponent that a text may write. -/
def exponentBound : Nat := twoPow 31

/-- Takes the digits of an exponent. If they exceed the bound the cursor is left behind the digit
that did it, and there is no exponent. -/
def exponentDigits (exponent : Nat) : List Char → Option Nat × List Char
  | [] => (some exponent, [])
  | c :: rest =>
    if isDigit c then
      let next := exponent * 10 + (c.toNat - '0'.toNat)
      if next < exponentBound then exponentDigits next rest else (none, rest)
    else (some exponent, c :: rest)

/-- Takes the sign of an exponent, if there is one, and says whether it is a minus. -/
def exponentSign : Reader Bool := do
  match ← look with
  | '+' :: rest => do
    moveTo rest
    pure false
  | '-' :: rest => do
    moveTo rest
    pure true
  | _ => pure false

/-- Reads an exponent behind its `e` and gives the number. -/
def exponentPart (negative : Bool) (significand : Nat) (exponent : Int) : Reader Number := do
  let below ← exponentSign
  match ← look with
  | [] => stopHere .endInValue
  | c :: rest =>
    if isDigit c then do
      let (written, rest) := exponentDigits 0 (c :: rest)
      moveTo rest
      match written with
      | some written =>
        giveScaled negative significand (if below then exponent - written else exponent + written)
      | none =>
        if significand ≠ 0 ∧ !below then stopHere .numberOutOfRange
        else do
          moveTo (rest.dropWhile isDigit)
          pure (.float (.finite negative 0 0))
    else stopAtNext .badNumber

/-- Reads what follows the whole digits of a number, of which `dropped` did not fit into the
significand. -/
def afterWhole (negative : Bool) (significand dropped : Nat) : Reader Number := do
  match ← look with
  | '.' :: text =>
    let digits := text.takeWhile isDigit
    let rest := text.dropWhile isDigit
    moveTo rest
    if digits.isEmpty then
      if rest.isEmpty then stopAtNext .endInValue else stopAtNext .badNumber
    else
      let (significand, taken) := absorb significand digits
      let exponent : Int := dropped - taken
      match rest with
      | c :: more =>
        if c = 'e' ∨ c = 'E' then do
          moveTo more
          exponentPart negative significand exponent
        else giveScaled negative significand exponent
      | [] => giveScaled negative significand exponent
  | c :: more =>
    if c = 'e' ∨ c = 'E' then do
      moveTo more
      exponentPart negative significand dropped
    else giveWhole
  | [] => giveWhole
where
  /-- Gives a number without fraction and exponent. -/
  giveWhole : Reader Number :=
    if dropped ≠ 0 then giveScaled negative significand dropped
    else if !negative then pure (.integer significand)
    else if significand = 0 ∨ twoPow 63 < significand then
      pure (.float (Binary64.ofNat significand).neg)
    else pure (.integer (-significand))

/-- Reads a number behind its sign. -/
def unsignedNumber (negative : Bool) : Reader Number := do
  match ← look with
  | [] => stopHere .endInValue
  | c :: rest =>
    if c = '0' then do
      moveTo rest
      match rest with
      | d :: _ => if isDigit d then stopAtNext .badNumber else afterWhole negative 0 0
      | [] => afterWhole negative 0 0
    else if isDigit c then do
      let digits := (c :: rest).takeWhile isDigit
      let (significand, taken) := absorb 0 digits
      moveTo ((c :: rest).dropWhile isDigit)
      afterWhole negative significand (digits.length - taken)
    else stopAtNext .badNumber

/-- Reads a number, which starts with a digit or a minus sign. -/
def number : Reader Number := do
  match ← look with
  | '-' :: rest => do
    moveTo rest
    unsignedNumber true
  | _ => unsignedNumber false

/-- Whether a number starts with this character. -/
def beginsNumber (c : Char) : Bool := c == '-' || isDigit c

end MetricProbe.Json
