import Mathlib.Data.Nat.Digits.Defs
import MetricProbe.Interval

/-!
# The grammar of intervals

Which texts are intervals, what they stand for, and which fault comes first in a text that is none.
`Denotes` and `Rejected` say this by the way a text is put together, without a reader: a text is a
sign and components, and a component is a numeral and one of eight unit names. That a reading
follows them is shown elsewhere.

A numeral is as long as it can be, and so is the name of a unit. The grammar says so only for what
is malformed, because components that are well formed leave no choice.
-/

namespace MetricProbe.Interval

open Decimal (isDigit)

/-! ## Components -/

/-- The names of the units, and the lengths of the units in nanoseconds. -/
def unitNames : List (List Char × Nat) :=
  [(['n', 's'], 1), (['u', 's'], 1000), (['\u00b5', 's'], 1000), (['\u03bc', 's'], 1000),
    (['m', 's'], 1000000), (['s'], 1000000000), (['m'], 60000000000), (['h'], 3600000000000)]

/-- The number that decimal digits stand for, by the weights of their places. -/
def placeValue (digits : List Char) : Nat :=
  Nat.ofDigits 10 (digits.reverse.map fun c => c.toNat - '0'.toNat)

/-- A decimal number as it is written: digits, and perhaps a point and more digits. There is a
digit before the point or after it. -/
structure Numeral where
  whole : List Char
  /-- The digits after the point, if there is a point. -/
  fraction? : Option (List Char)
  wholeDigits : ∀ c ∈ whole, isDigit c = true
  pointDigits : ∀ digits ∈ fraction?, ∀ c ∈ digits, isDigit c = true
  someDigit : whole ≠ [] ∨ fraction?.getD [] ≠ []

namespace Numeral

/-- The digits after the point. -/
def fraction (numeral : Numeral) : List Char := numeral.fraction?.getD []

/-- The characters of a numeral. -/
def written (numeral : Numeral) : List Char :=
  numeral.whole ++ numeral.fraction?.elim [] ('.' :: ·)

/-- A numeral ends where a text follows that does not continue it, neither with a digit nor with
its first point. -/
def Stops (numeral : Numeral) (after : List Char) : Prop :=
  ∀ c ∈ after.head?, isDigit c = false ∧ (numeral.fraction? = none → c ≠ '.')

end Numeral

/-- A number of units. -/
structure Component extends Numeral where
  name : List Char
  /-- The length of the unit in nanoseconds. -/
  scale : Nat
  named : (name, scale) ∈ unitNames

namespace Component

/-- The characters of a component. -/
def written (component : Component) : List Char := component.toNumeral.written ++ component.name

/-- The length of a component in nanoseconds. Its fraction is rounded down, after no more than
eighteen of its digits. -/
def nanoseconds (component : Component) : Nat :=
  placeValue component.whole * component.scale +
    placeValue (component.fraction.take 18) * component.scale /
      10 ^ min component.fraction.length 18

end Component

/-- Components one after the other. -/
abbrev Components := List Component

namespace Components

/-- The characters of components without anything between them. -/
def written (components : Components) : List Char := components.flatMap Component.written

/-- The length of components together in nanoseconds. -/
def total (components : Components) : Nat := (components.map Component.nanoseconds).sum

end Components

/-! ## Whole texts -/

/-- What is left of a text without its sign, of which there is at most one, and whether the sign is
a minus. -/
inductive Signed : List Char → Bool → List Char → Prop where
  | minus (body : List Char) : Signed ('-' :: body) true body
  | plus (body : List Char) : Signed ('+' :: body) false body
  | bare {body : List Char} (unsigned : ∀ c ∈ body.head?, c ≠ '-' ∧ c ≠ '+') :
      Signed body false body

/-- A text stands for a length in nanoseconds. -/
inductive Denotes (text : List Char) : Nat → Prop where
  /-- A zero needs no unit. -/
  | zero {negative : Bool} (signed : Signed text negative ['0']) : Denotes text 0
  /-- The length is that of one or more components. Behind a minus it is zero. -/
  | sum {negative : Bool} {components : Components}
      (signed : Signed text negative components.written) (nonempty : components ≠ [])
      (bounded : components.total ≤ 2 ^ 63 - 1)
      (unsigned : negative = true → components.total = 0) : Denotes text components.total

/-! ## Faults -/

/-- A unit name ends where the text does or another number begins. -/
def Ends (after : List Char) : Prop := ∀ c ∈ after.head?, beginsNumber c = true

/-- No component can be added at the start of a text, and why. The components before it have the
given sum. -/
inductive Breaks (sum : Nat) : List Char → Fault → Prop where
  /-- There is no numeral. -/
  | noDigits {text : List Char}
      (unnumbered : ∀ (numeral : Numeral) (after : List Char), text ≠ numeral.written ++ after) :
      Breaks sum text .malformed
  /-- Behind the numeral the text ends or another number begins. -/
  | noUnit (numeral : Numeral) {after : List Char} (stops : numeral.Stops after)
      (ends : Ends after) : Breaks sum (numeral.written ++ after) .missingUnit
  /-- Behind the numeral is a name that is not the name of a unit. -/
  | strangeUnit (numeral : Numeral) {name after : List Char} (nonempty : name ≠ [])
      (letters : ∀ c ∈ name, beginsNumber c = false) (ends : Ends after)
      (strange : ∀ scale, (name, scale) ∉ unitNames) :
      Breaks sum (numeral.written ++ (name ++ after)) (.unknownUnit (String.ofList name))
  /-- With the component the sum does not fit in 128 bits. -/
  | tooLong (component : Component) {after : List Char} (ends : Ends after)
      (beyond : 2 ^ 128 ≤ sum + component.nanoseconds) :
      Breaks sum (component.written ++ after) .outOfRange

/-- A text stands for no length, and why. -/
inductive Rejected (text : List Char) : Fault → Prop where
  /-- Behind well-formed components, whose sum fits in 128 bits, no further one can be added. -/
  | component {negative : Bool} {components : Components} {rest : List Char} {fault : Fault}
      (signed : Signed text negative (components.written ++ rest))
      (nonzero : components.written ++ rest ≠ ['0'])
      (resumes : components ≠ [] → rest ≠ [] ∧ Ends rest) (within : components.total < 2 ^ 128)
      (breaks : Breaks components.total rest fault) : Rejected text fault
  /-- All components are well formed, but they are too long together. -/
  | range {negative : Bool} {components : Components}
      (signed : Signed text negative components.written) (within : components.total < 2 ^ 128)
      (beyond : 2 ^ 63 - 1 < components.total) : Rejected text .outOfRange
  /-- All components are well formed and not too long, but behind a minus they are not zero. -/
  | sign {components : Components} (signed : Signed text true components.written)
      (bounded : components.total ≤ 2 ^ 63 - 1) (nonzero : components.total ≠ 0) :
      Rejected text .negative

end MetricProbe.Interval
