import MetricProbe.Decimal.Binary64
import MetricProbe.Decimal.Literal

/-!
# Metric intervals

An interval is written as an optional sign and one or more components, each a decimal number and a
unit (`1h30m`, `1.5s`); the bare `0` needs no unit. Its length is the exact sum of its components,
each rounded down to a nanosecond, and must fit in a signed 64-bit count of nanoseconds. A negative
interval is refused unless it is zero.

A reading fails at the leftmost component that is malformed; only a text whose components are all
well formed can fail for its length or its sign.
-/

namespace MetricProbe

open Decimal (isDigit digitsValue)

/-- The units a component can have. -/
inductive TimeUnit where
  | nanosecond
  | microsecond
  | millisecond
  | second
  | minute
  | hour
  deriving DecidableEq, Repr

namespace TimeUnit

/-- The length of a unit in nanoseconds. -/
def nanoseconds : TimeUnit → Nat
  | nanosecond => 1
  | microsecond => 1000
  | millisecond => 1000000
  | second => 1000000000
  | minute => 60000000000
  | hour => 3600000000000

/-- The unit with a given name. The microsecond has three names: with the letter u, with the micro
sign and with the Greek letter mu. -/
def ofName? (name : List Char) : Option TimeUnit :=
  if name = ['n', 's'] then some nanosecond
  else if name = ['u', 's'] ∨ name = ['\u00b5', 's'] ∨ name = ['\u03bc', 's'] then
    some microsecond
  else if name = ['m', 's'] then some millisecond
  else if name = ['s'] then some second
  else if name = ['m'] then some minute
  else if name = ['h'] then some hour
  else none

end TimeUnit

/-- A metric interval: its text as given and its length. -/
structure Interval where
  text : String
  nanoseconds : Nat
  /-- The length fits in a signed 64-bit count. -/
  bounded : nanoseconds < twoPow 63
  deriving DecidableEq, Repr

namespace Interval

/-- Why a text is no interval. -/
inductive Fault where
  /-- The text is empty, or a component has no digits. -/
  | malformed
  /-- A component has no unit. -/
  | missingUnit
  /-- A component has a unit that is not known. -/
  | unknownUnit (name : String)
  /-- The length does not fit. -/
  | outOfRange
  /-- The interval is negative and not zero. -/
  | negative
  deriving DecidableEq, Repr

/-- The wording of a fault of the given text. -/
def Fault.message (text : String) : Fault → String
  | .malformed => s!"invalid duration \"{text}\""
  | .missingUnit => s!"missing unit in duration \"{text}\""
  | .unknownUnit name => s!"unknown unit \"{name}\" in duration \"{text}\""
  | .outOfRange => s!"invalid duration \"{text}\": out of range"
  | .negative => s!"negative duration \"{text}\" is not a valid interval"

/-- The digits of a fraction that are taken into account. -/
def fractionDigits : Nat := 18

/-- Numbers must stay below this bound while components are added. -/
def sumBound : Nat := twoPow 128

/-- A number, unless it is beyond the bound. -/
def fit? (n : Nat) : Option Nat := if n < sumBound then some n else none

/-- The first component of a text, cut into its parts, and what follows it. -/
structure Cut where
  /-- The digits before the point. -/
  whole : List Char
  /-- The digits after the point; there may be a point and no digits. -/
  fraction : List Char
  /-- Everything up to the next digit or point. -/
  unitName : List Char
  rest : List Char
  deriving DecidableEq, Repr

/-- The digits after a point at the start of a text, and the text after them. -/
def cutFraction : List Char → List Char × List Char
  | '.' :: text => (text.takeWhile isDigit, text.dropWhile isDigit)
  | text => ([], text)

/-- A character that can begin a number. -/
def beginsNumber (c : Char) : Bool := c == '.' || isDigit c

/-- The first component of a text. -/
def cut (text : List Char) : Cut :=
  let (fraction, after) := cutFraction (text.dropWhile isDigit)
  { whole := text.takeWhile isDigit
    fraction := fraction
    unitName := after.takeWhile fun c => !beginsNumber c
    rest := after.dropWhile fun c => !beginsNumber c }

/-- The length of a component in nanoseconds, rounded down, from the digits that count. There is
none if a number on the way does not fit. -/
def amount? (whole fraction : List Char) (unit : TimeUnit) : Option Nat := do
  let count ← fit? (digitsValue whole)
  let nanoseconds ← fit? (count * unit.nanoseconds)
  if fraction.isEmpty then return nanoseconds
  let digits := fraction.take fractionDigits
  let part ← fit? (digitsValue digits)
  fit? (nanoseconds + part * unit.nanoseconds / tenPow digits.length)

/-- What one component adds to the sum so far. -/
def addComponent (sum : Nat) (component : Cut) : Except Fault Nat :=
  if component.whole.isEmpty && component.fraction.isEmpty then .error .malformed
  else if component.unitName.isEmpty then .error .missingUnit
  else
    match TimeUnit.ofName? component.unitName with
    | none => .error (.unknownUnit (String.ofList component.unitName))
    | some unit =>
      match (amount? component.whole component.fraction unit).bind fun n => fit? (sum + n) with
      | none => .error .outOfRange
      | some next => .ok next

/-- The text after the fraction is no longer than the text before it. -/
theorem cutFraction_length (text : List Char) : (cutFraction text).2.length ≤ text.length := by
  unfold cutFraction
  split
  · rename_i tail
    have := (List.dropWhile_sublist (p := isDigit) (l := tail)).length_le
    simp only [List.length_cons]
    omega
  · simp

/-- A component that was accepted has left a shorter text behind. -/
theorem cut_rest_length {text : List Char} (named : (cut text).unitName ≠ []) :
    (cut text).rest.length < text.length := by
  simp only [cut] at named ⊢
  have first := (List.dropWhile_sublist (p := isDigit) (l := text)).length_le
  have second := cutFraction_length (text.dropWhile isDigit)
  generalize (cutFraction (text.dropWhile isDigit)).2 = after at *
  have whole := congrArg List.length
    (List.takeWhile_append_dropWhile (p := fun c => !beginsNumber c) (l := after))
  rw [List.length_append] at whole
  have := List.length_pos_iff.2 named
  omega

/-- A component that is accepted has a unit. -/
theorem unitName_ne_nil_of_addComponent {sum next : Nat} {component : Cut}
    (accepted : addComponent sum component = .ok next) : component.unitName ≠ [] := by
  intro empty
  simp only [addComponent, empty, List.isEmpty_nil, if_true] at accepted
  split at accepted <;> simp at accepted

/-- The sum of the components of a text, added to the sum so far. -/
def sumComponents (sum : Nat) (text : List Char) : Except Fault Nat :=
  if text.isEmpty then .ok sum
  else
    match _accepted : addComponent sum (cut text) with
    | .error fault => .error fault
    | .ok next => sumComponents next (cut text).rest
termination_by text.length
decreasing_by exact cut_rest_length (unitName_ne_nil_of_addComponent ‹_›)

/-- The sign of a text, as whether it is negative, and what follows it. -/
def cutSign : List Char → Bool × List Char
  | '-' :: text => (true, text)
  | '+' :: text => (false, text)
  | text => (false, text)

/-- The length that a text stands for, in nanoseconds. -/
def readNanoseconds (text : List Char) : Except Fault Nat :=
  let (negative, body) := cutSign text
  if body = ['0'] then .ok 0
  else if body.isEmpty then .error .malformed
  else
    match sumComponents 0 body with
    | .error fault => .error fault
    | .ok sum =>
      if twoPow 63 ≤ sum then .error .outOfRange
      else if negative && sum != 0 then .error .negative
      else .ok sum

/-- The interval that a text stands for. -/
def read (text : String) : Except Fault Interval :=
  match readNanoseconds text.toList with
  | .error fault => .error fault
  | .ok nanoseconds =>
    if bounded : nanoseconds < twoPow 63 then .ok ⟨text, nanoseconds, bounded⟩
    else .error .outOfRange

/-- The length in seconds: the whole seconds and the remaining nanoseconds are rounded
separately, and so is their sum. -/
def seconds (interval : Interval) : Binary64 :=
  (Binary64.ofNat (interval.nanoseconds / 1000000000)).add
    ((Binary64.ofNat (interval.nanoseconds % 1000000000)).div (Binary64.ofNat 1000000000))

/-- A whole number of intervals in seconds, without the fraction. -/
def lookbackSeconds (interval : Interval) (multiplier : Nat) : Int :=
  ((Binary64.ofNat multiplier).mul interval.seconds).toInt64

end Interval

end MetricProbe
