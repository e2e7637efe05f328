import MetricProbe.Decimal.Literal

/-!
# Dates and times of day

A moment is a date, a time of day, or both with an optional distance from universal time. Dates are
checked against the calendar; a second may be the sixtieth, for leap seconds. A fraction of a
second is kept to the nanosecond and cut off there.

`Moment.read?` accepts the written form and `Moment.text` is the form in which a moment is shown,
which always divides date and time by the letter.
-/

namespace MetricProbe.Toml

open Decimal (isDigit digitsValue)

/-- A day of the calendar. -/
structure Date where
  year : Nat
  month : Nat
  day : Nat
  deriving DecidableEq, Repr

/-- A time of day. -/
structure Clock where
  hour : Nat
  minute : Nat
  second : Nat
  nanosecond : Nat
  deriving DecidableEq, Repr

/-- A distance from universal time. -/
inductive Offset where
  /-- None, written by a letter. -/
  | universal
  /-- A number of minutes. -/
  | minutes (count : Int)
  deriving DecidableEq, Repr

/-- A date, a time of day, or both. -/
inductive Moment where
  | date (date : Date)
  | clock (clock : Clock)
  | both (date : Date) (clock : Clock) (offset : Option Offset)
  deriving DecidableEq, Repr

namespace Date

/-- A year with a twenty-ninth of February. -/
def isLeapYear (year : Nat) : Bool :=
  year % 4 == 0 && (year % 100 != 0 || year % 400 == 0)

/-- How many days a month has. -/
def daysIn (year month : Nat) : Nat :=
  if month = 2 then (if isLeapYear year then 29 else 28)
  else if month = 4 ∨ month = 6 ∨ month = 9 ∨ month = 11 then 30
  else 31

/-- Whether the calendar has the day. -/
def isValid (date : Date) : Bool :=
  1 ≤ date.month && date.month ≤ 12 && 1 ≤ date.day && date.day ≤ daysIn date.year date.month

end Date

/-- A number of exactly the given count of digits at the front of a text, and what follows. -/
def takeDigits? (count : Nat) (text : List Char) : Option (Nat × List Char) :=
  let digits := text.take count
  if digits.length = count ∧ digits.all isDigit then
    some (digitsValue digits, text.drop count)
  else none

/-- What follows a character at the front of a text. -/
def takeMark? (mark : Char) : List Char → Option (List Char)
  | [] => none
  | c :: rest => if c = mark then some rest else none

/-- A date at the front of a text, and what follows. -/
def Date.take? (text : List Char) : Option (Date × List Char) := do
  let (year, rest) ← takeDigits? 4 text
  let rest ← takeMark? '-' rest
  let (month, rest) ← takeDigits? 2 rest
  let rest ← takeMark? '-' rest
  let (day, rest) ← takeDigits? 2 rest
  let date : Date := ⟨year, month, day⟩
  if date.isValid then some (date, rest) else none

/-- The digits of a fraction of a second that count. -/
def fractionPlaces : Nat := 9

/-- A fraction of a second in nanoseconds at the front of a text, and what follows. A text without
a point has none. -/
def takeFraction? : List Char → Option (Nat × List Char)
  | '.' :: rest =>
    let digits := rest.takeWhile isDigit
    let kept := digits.take fractionPlaces
    if digits.isEmpty then none
    else some (digitsValue kept * tenPow (fractionPlaces - kept.length), rest.dropWhile isDigit)
  | rest => some (0, rest)

/-- Hours and minutes at the front of a text, and what follows. -/
def takeHourMinute? (text : List Char) : Option (Nat × Nat × List Char) := do
  let (hour, rest) ← takeDigits? 2 text
  let rest ← takeMark? ':' rest
  let (minute, rest) ← takeDigits? 2 rest
  if hour < 24 ∧ minute < 60 then some (hour, minute, rest) else none

/-- A time of day at the front of a text, and what follows. -/
def Clock.take? (text : List Char) : Option (Clock × List Char) := do
  let (hour, minute, rest) ← takeHourMinute? text
  let rest ← takeMark? ':' rest
  let (second, rest) ← takeDigits? 2 rest
  let (nanosecond, rest) ← takeFraction? rest
  if second ≤ 60 then some (⟨hour, minute, second, nanosecond⟩, rest) else none

/-- The distance from universal time that a whole text gives. -/
def Offset.read? : List Char → Option Offset
  | [] => none
  | sign :: rest =>
    if (sign = 'Z' ∨ sign = 'z') ∧ rest = [] then some .universal
    else if sign = '+' ∨ sign = '-' then
      match takeHourMinute? rest with
      | some (hour, minute, []) =>
        let count : Int := hour * 60 + minute
        some (.minutes (if sign = '-' then -count else count))
      | _ => none
    else none

/-- A character that may divide a date from a time of day. -/
def dividesMoment (c : Char) : Bool := c == 'T' || c == 't' || c == ' '

/-- The time of day that a whole text gives, with an optional distance from universal time. -/
def readClock? (text : List Char) : Option (Clock × Option Offset) :=
  match Clock.take? text with
  | none => none
  | some (clock, []) => some (clock, none)
  | some (clock, rest) => (Offset.read? rest).map fun offset => (clock, some offset)

namespace Moment

/-- The moment that a whole text stands for. -/
def read? (text : List Char) : Option Moment :=
  match Date.take? text with
  | some (day, []) => some (date day)
  | some (day, divider :: rest) =>
    if dividesMoment divider then
      (readClock? rest).map fun (time, offset) => both day time offset
    else none
  | none =>
    match Clock.take? text with
    | some (time, []) => some (clock time)
    | _ => none

/-- A number with zeros before it, up to the given count of digits. -/
def padded (count value : Nat) : List Char :=
  let digits := Nat.toDigits 10 value
  List.replicate (count - digits.length) '0' ++ digits

/-- A day as it is shown. -/
def dateText (date : Date) : List Char :=
  padded 4 date.year ++ '-' :: padded 2 date.month ++ '-' :: padded 2 date.day

/-- A time of day as it is shown: the fraction only if there is one, without zeros at its end. -/
def clockText (clock : Clock) : List Char :=
  padded 2 clock.hour ++ ':' :: padded 2 clock.minute ++ ':' :: padded 2 clock.second ++
    if clock.nanosecond = 0 then []
    else
      '.' :: ((padded fractionPlaces clock.nanosecond).reverse.dropWhile (· == '0')).reverse

/-- A distance from universal time as it is shown. -/
def offsetText : Offset → List Char
  | .universal => ['Z']
  | .minutes count =>
    (if count < 0 then '-' else '+') ::
      padded 2 (count.natAbs / 60) ++ ':' :: padded 2 (count.natAbs % 60)

/-- A moment as it is shown. -/
def text : Moment → String
  | date day => String.ofList (dateText day)
  | clock time => String.ofList (clockText time)
  | both day time offset =>
    String.ofList (dateText day ++ 'T' :: clockText time ++ (offset.map offsetText).getD [])

end Moment

end MetricProbe.Toml
