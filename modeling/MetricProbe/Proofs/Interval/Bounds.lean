import MetricProbe.Proofs.Interval.Reading
import MetricProbe.Proofs.Text.Bytes

/-!
# What a reading relies on

A reading cuts texts at places that are counted in bytes, and some of its numbers are not checked
when they are computed. `checkedNanoseconds?` reads as the source does, with every such operation as
one that can fail: a cut within a character, a number of 128 bits or more, a division by zero. It
goes on for at most as many steps as the text has bytes. That it always gives the reading says that
none of these operations ever fails, and that the steps come to an end.

The numbers that are not checked stay small because a fraction counts with eighteen digits at most:
the longest unit has less than 2 ^ 42 nanoseconds, and ten to the eighteen is less than 2 ^ 60.
-/

namespace MetricProbe.Interval

open Decimal (isDigit digitsValue)
open Text (byteLength findByte? leadingBytes splitAtByte?)

/-! ## Steps that can fail -/

/-- A byte that is a decimal digit. -/
def isDigitByte (byte : UInt8) : Bool := 0x30 ≤ byte.toNat && byte.toNat ≤ 0x39

/-- How many bytes of digits a text begins with. -/
def digitBytes (text : List Char) : Nat := leadingBytes isDigitByte text

/-- The place where the name of a unit ends that a text begins with. -/
def nameBytes (text : List Char) : Nat := (findByte? beginsNumber text).getD (byteLength text)

/-- A quotient, unless the divisor is zero. -/
def quotient? (n divisor : Nat) : Option Nat := if divisor = 0 then none else some (n / divisor)

/-- What a fraction adds, unless its digits are out of range. There is nothing at all if an operation
fails. -/
def checkedPart? (fraction : List Char) (unit : TimeUnit) : Option (Option Nat) := do
  let (digits, _) ← splitAtByte? fraction (min (byteLength fraction) fractionDigits)
  match fit? (digitsValue digits) with
  | none => some none
  | some value =>
    let divisor ← fit? (tenPow (byteLength digits))
    let product ← fit? (value * unit.nanoseconds)
    let part ← quotient? product divisor
    some (some part)

/-- The length of a component, unless it is out of range. There is nothing at all if an operation
fails. -/
def checkedAmount? (whole fraction : List Char) (unit : TimeUnit) : Option (Option Nat) :=
  match (fit? (digitsValue whole)).bind fun count => fit? (count * unit.nanoseconds) with
  | none => some none
  | some nanoseconds =>
    if fraction.isEmpty then some (some nanoseconds)
    else (checkedPart? fraction unit).map fun part? => part?.bind fun part => fit? (nanoseconds + part)

/-- The digits of a fraction and what follows them. -/
def checkedFraction? : List Char → Option (List Char × List Char)
  | '.' :: text => splitAtByte? text (digitBytes text)
  | text => some ([], text)

/-- The sum with one more component, and the text that is left. There is nothing at all if an
operation fails. -/
def checkedStep? (sum : Nat) (text : List Char) : Option (Except Fault (Nat × List Char)) := do
  let (whole, after) ← splitAtByte? text (digitBytes text)
  let (fraction, after) ← checkedFraction? after
  if whole.isEmpty && fraction.isEmpty then some (.error .malformed)
  else
    let (name, rest) ← splitAtByte? after (nameBytes after)
    if name.isEmpty then some (.error .missingUnit)
    else
      match TimeUnit.ofName? name with
      | none => some (.error (.unknownUnit (String.ofList name)))
      | some unit =>
        let amount? ← checkedAmount? whole fraction unit
        match amount?.bind fun n => fit? (sum + n) with
        | none => some (.error .outOfRange)
        | some next => some (.ok (next, rest))

/-- The sum of the components of a text, in at most as many steps as are given. -/
def checkedSum? : Nat → Nat → List Char → Option (Except Fault Nat)
  | 0, sum, text => if text.isEmpty then some (.ok sum) else none
  | steps + 1, sum, text =>
    if text.isEmpty then some (.ok sum)
    else
      match checkedStep? sum text with
      | none => none
      | some (.error fault) => some (.error fault)
      | some (.ok (next, rest)) => checkedSum? steps next rest

/-- The length that a text stands for. There is nothing at all if an operation fails, or if the
steps do not come to an end. -/
def checkedNanoseconds? (text : List Char) : Option (Except Fault Nat) :=
  let (negative, body) := cutSign text
  if body = ['0'] then some (.ok 0)
  else if body.isEmpty then some (.error .malformed)
  else
    (checkedSum? (byteLength body) 0 body).map fun
      | .error fault => .error fault
      | .ok sum =>
        if twoPow 63 ≤ sum then .error .outOfRange
        else if negative && sum != 0 then .error .negative
        else .ok sum

variable {text fraction : List Char}

/-! ## Cuts -/

/-- Digits are characters of ASCII. -/
theorem ascii_of_isDigit {c : Char} (digit : isDigit c = true) : c.toNat < 0x80 := by
  have bounds := isDigit_iff.1 digit
  omega

/-- The digits that a text begins with can be cut off. -/
theorem splitAtByte?_digitBytes (text : List Char) :
    splitAtByte? text (digitBytes text) =
      some (text.takeWhile isDigit, text.dropWhile isDigit) := by
  have place : digitBytes text = byteLength (text.takeWhile isDigit) := by
    refine Text.leadingBytes_eq (fun c ascii => ?_) (fun byte digit => ?_)
      (fun c => ascii_of_isDigit) text
    · rw [Bool.eq_iff_iff, isDigit_iff, isDigitByte, Utf8.toNat_toUInt8 (by omega)]
      simp
    · simp only [isDigitByte, Bool.and_eq_true, decide_eq_true_eq] at digit
      omega
  exact Text.splitAtByte?_eq_some_iff.2 ⟨List.takeWhile_append_dropWhile.symm, place.symm⟩

/-- The digits of a fraction can be cut off. -/
theorem checkedFraction?_eq (text : List Char) : checkedFraction? text = some (cutFraction text) := by
  unfold checkedFraction?
  split
  next behind => exact splitAtByte?_digitBytes behind
  next pointless =>
    unfold cutFraction
    split
    next behind => exact absurd rfl (pointless behind)
    next => rfl

/-- The name of a unit that a text begins with can be cut off. -/
theorem splitAtByte?_nameBytes (text : List Char) :
    splitAtByte? text (nameBytes text) =
      some (text.takeWhile (!beginsNumber ·), text.dropWhile (!beginsNumber ·)) :=
  Text.splitAtByte?_eq_some_iff.2
    ⟨List.takeWhile_append_dropWhile.symm, (Text.getD_findByte? beginsNumber text).symm⟩

/-- The fraction that is cut off a text is a run of digits. -/
theorem isDigit_of_mem_fraction {c : Char} (inside : c ∈ (cut text).fraction) :
    isDigit c = true := by
  simp only [cut] at inside
  unfold cutFraction at inside
  split at inside
  · exact List.mem_takeWhile_imp inside
  · cases inside

/-- The digits that count can be cut off a fraction. -/
theorem splitAtByte?_fraction (digits : ∀ c ∈ fraction, isDigit c = true) :
    splitAtByte? fraction (min (byteLength fraction) fractionDigits) =
      some (fraction.take fractionDigits, fraction.drop fractionDigits) := by
  have ascii : ∀ c ∈ fraction, c.toNat < 0x80 := fun c inside => ascii_of_isDigit (digits c inside)
  have place : byteLength (fraction.take fractionDigits) =
      min (byteLength fraction) fractionDigits := by
    rw [Text.byteLength_of_ascii ascii, Text.byteLength_of_ascii fun c inside =>
      ascii c (List.mem_of_mem_take inside), List.length_take, Nat.min_comm]
  exact Text.splitAtByte?_eq_some_iff.2 ⟨(List.take_append_drop _ _).symm, place⟩

/-! ## Numbers -/

/-- The divisor of a fraction is ten to the number of its digits that count, eighteen at most. -/
theorem tenPow_fraction_le (digits : ∀ c ∈ fraction, isDigit c = true) :
    tenPow (byteLength (fraction.take fractionDigits)) ≤ 10 ^ 18 := by
  rw [Text.byteLength_of_ascii fun c inside =>
    ascii_of_isDigit (digits c (List.mem_of_mem_take inside))]
  exact Nat.pow_le_pow_right (by decide) (List.length_take_le 18 fraction)

/-- The digits of a fraction that count are not out of range. -/
theorem fit?_fraction (digits : ∀ c ∈ fraction, isDigit c = true) :
    fit? (digitsValue (fraction.take fractionDigits)) =
      some (digitsValue (fraction.take fractionDigits)) := by
  rw [digitsValue_eq_placeValue]
  exact fit?_of_lt (fraction_lt digits)

/-- The digits of a fraction that count, times the length of any unit, are below the bound. -/
theorem fraction_mul_lt (digits : ∀ c ∈ fraction, isDigit c = true) (unit : TimeUnit) :
    digitsValue (fraction.take fractionDigits) * unit.nanoseconds < 2 ^ 128 := by
  have small : digitsValue (fraction.take fractionDigits) < 10 ^ 18 := by
    rw [digitsValue_eq_placeValue]
    exact placeValue_take_lt digits
  have longest : unit.nanoseconds ≤ 3600000000000 := by cases unit <;> decide
  calc digitsValue (fraction.take fractionDigits) * unit.nanoseconds
    _ ≤ 10 ^ 18 * 3600000000000 := Nat.mul_le_mul small.le longest
    _ < 2 ^ 128 := by decide

/-! ## Steps -/

/-- No operation on a fraction fails. -/
theorem checkedPart?_eq (digits : ∀ c ∈ fraction, isDigit c = true) (unit : TimeUnit) :
    checkedPart? fraction unit =
      some (some (digitsValue (fraction.take fractionDigits) * unit.nanoseconds /
        tenPow (fraction.take fractionDigits).length)) := by
  have product := fraction_mul_lt digits unit
  have divisor : tenPow (byteLength (fraction.take fractionDigits)) < 2 ^ 128 :=
    Nat.lt_of_le_of_lt (tenPow_fraction_le digits) (by decide)
  have nonzero : tenPow (byteLength (fraction.take fractionDigits)) ≠ 0 :=
    (Nat.pow_pos (by decide)).ne'
  have length : byteLength (fraction.take fractionDigits) =
      (fraction.take fractionDigits).length :=
    Text.byteLength_of_ascii fun c inside => ascii_of_isDigit (digits c (List.mem_of_mem_take inside))
  simp only [checkedPart?, splitAtByte?_fraction digits, Option.bind_eq_bind, Option.bind_some,
    fit?_fraction digits, fit?_of_lt divisor, fit?_of_lt product, quotient?, if_neg nonzero]
  rw [length]

/-- No operation on a component fails. -/
theorem checkedAmount?_eq (digits : ∀ c ∈ fraction, isDigit c = true) (whole : List Char)
    (unit : TimeUnit) : checkedAmount? whole fraction unit = some (amount? whole fraction unit) := by
  have parts : amount? whole fraction unit =
      ((fit? (digitsValue whole)).bind fun count => fit? (count * unit.nanoseconds)).bind
        fun nanoseconds =>
          if fraction.isEmpty then some nanoseconds
          else fit? (nanoseconds + digitsValue (fraction.take fractionDigits) * unit.nanoseconds /
            tenPow (fraction.take fractionDigits).length) := by
    simp only [amount?, Option.bind_eq_bind, Option.bind_assoc, fit?_fraction digits,
      Option.bind_some, Option.pure_def]
  rw [checkedAmount?, parts, checkedPart?_eq digits]
  cases (fit? (digitsValue whole)).bind fun count => fit? (count * unit.nanoseconds) with
  | none => rfl
  | some nanoseconds =>
      cases fraction.isEmpty <;> rfl

/-- No operation of a step fails, and a step adds the first component. -/
theorem checkedStep?_eq (sum : Nat) (text : List Char) :
    checkedStep? sum text =
      some ((addComponent sum (cut text)).map fun next => (next, (cut text).rest)) := by
  have digits : ∀ c ∈ (cut text).fraction, isDigit c = true := fun c => isDigit_of_mem_fraction
  have parts : cut text = ⟨text.takeWhile isDigit, (cutFraction (text.dropWhile isDigit)).1,
    (cutFraction (text.dropWhile isDigit)).2.takeWhile (!beginsNumber ·),
    (cutFraction (text.dropWhile isDigit)).2.dropWhile (!beginsNumber ·)⟩ := rfl
  rw [parts] at digits ⊢
  simp only [checkedStep?, splitAtByte?_digitBytes, checkedFraction?_eq, splitAtByte?_nameBytes,
    Option.bind_eq_bind, Option.bind_some]
  generalize (cutFraction (text.dropWhile isDigit)).1 = fraction at *
  generalize (cutFraction (text.dropWhile isDigit)).2 = after at *
  rw [addComponent]
  dsimp only at digits ⊢
  split
  next => rfl
  next =>
    split
    next => rfl
    next =>
      cases TimeUnit.ofName? (after.takeWhile (!beginsNumber ·)) with
      | none => rfl
      | some unit =>
          dsimp only
          rw [checkedAmount?_eq digits, Option.bind_some]
          cases (amount? (text.takeWhile isDigit) fraction unit).bind fun n => fit? (sum + n) <;> rfl

/-- What follows the number at the beginning of a text ends the text. -/
theorem suffix_cutFraction (text : List Char) : (cutFraction text).2 <:+ text := by
  unfold cutFraction
  split
  next behind => exact (List.dropWhile_suffix _).trans (List.suffix_cons _ behind)
  next => exact List.suffix_refl _

/-- What is left behind a component has fewer bytes. -/
theorem byteLength_rest_lt {sum next : Nat} (accepted : addComponent sum (cut text) = .ok next) :
    byteLength (cut text).rest < byteLength text := by
  have named := unitName_ne_nil_of_addComponent accepted
  have ends : (cutFraction (text.dropWhile isDigit)).2 <:+ text :=
    (suffix_cutFraction _).trans (List.dropWhile_suffix _)
  have whole : (cutFraction (text.dropWhile isDigit)).2 = (cut text).unitName ++ (cut text).rest :=
    List.takeWhile_append_dropWhile.symm
  have bytes := Text.byteLength_le_of_suffix ends
  rw [whole, Text.byteLength_append] at bytes
  have positive := Text.byteLength_pos named
  omega

/-- The steps come to an end before the bytes do. -/
theorem checkedSum?_eq {steps sum : Nat} (enough : byteLength text ≤ steps) :
    checkedSum? steps sum text = some (sumComponents sum text) := by
  induction steps generalizing sum text with
  | zero =>
      have empty : text = [] := by
        by_contra filled
        have := Text.byteLength_pos filled
        omega
      subst empty
      rw [sumComponents]
      rfl
  | succ steps inductionHypothesis =>
      by_cases empty : text = []
      · subst empty
        rw [sumComponents]
        rfl
      · rw [checkedSum?, if_neg (by simpa using empty), checkedStep?_eq,
          sumComponents_of_ne_nil sum empty]
        cases accepted : addComponent sum (cut text) with
        | error fault => rfl
        | ok next =>
            have shorter := byteLength_rest_lt accepted
            exact inductionHypothesis (by omega)

/-! ## Readings -/

/-- What a step relies on, whatever text is left. -/
structure StepIsSafe (text : List Char) : Prop where
  /-- The digits before the point end between two characters. -/
  wholeCut : splitAtByte? text (digitBytes text) = some ((cut text).whole, text.dropWhile isDigit)
  /-- The digits after the point end between two characters. -/
  fractionCut : ∀ behind, text.dropWhile isDigit = '.' :: behind →
    splitAtByte? behind (digitBytes behind) =
      some ((cut text).fraction, behind.dropWhile isDigit)
  /-- The name of the unit ends between two characters. -/
  nameCut : ∃ after, after <:+ text ∧
    splitAtByte? after (nameBytes after) = some ((cut text).unitName, (cut text).rest)
  /-- The digits that count are a part of the fraction. -/
  digitsCut : splitAtByte? (cut text).fraction (min (byteLength (cut text).fraction) 18) =
    some ((cut text).fraction.take 18, (cut text).fraction.drop 18)
  /-- The divisor fits in 128 bits, and is not zero. -/
  divisor : tenPow (byteLength ((cut text).fraction.take 18)) < 2 ^ 128 ∧
    tenPow (byteLength ((cut text).fraction.take 18)) ≠ 0
  /-- The dividend fits in 128 bits, whatever the unit is. -/
  product : ∀ unit : TimeUnit,
    digitsValue ((cut text).fraction.take 18) * unit.nanoseconds < 2 ^ 128
  /-- A step fails nowhere. It adds the first component to the sum, or ends with a fault. -/
  step : ∀ sum, checkedStep? sum text =
    some ((addComponent sum (cut text)).map fun next => (next, (cut text).rest))
  /-- A step that does not end with a fault leaves a shorter text. -/
  shorter : ∀ sum next rest, checkedStep? sum text = some (.ok (next, rest)) →
    byteLength rest < byteLength text

/-- Every text is one that a step can be made with. -/
theorem stepIsSafe (text : List Char) : StepIsSafe text where
  wholeCut := splitAtByte?_digitBytes text
  fractionCut := by
    intro behind point
    have fraction : (cut text).fraction = behind.takeWhile isDigit := by
      simp only [cut, point, cutFraction]
    rw [fraction]
    exact splitAtByte?_digitBytes behind
  nameCut := ⟨(cutFraction (text.dropWhile isDigit)).2,
    (suffix_cutFraction _).trans (List.dropWhile_suffix _), splitAtByte?_nameBytes _⟩
  digitsCut := splitAtByte?_fraction fun _ => isDigit_of_mem_fraction
  divisor :=
    ⟨Nat.lt_of_le_of_lt (tenPow_fraction_le fun _ => isDigit_of_mem_fraction) (by decide),
      (Nat.pow_pos (by decide)).ne'⟩
  product := fraction_mul_lt fun _ => isDigit_of_mem_fraction
  step := fun sum => checkedStep?_eq sum text
  shorter := by
    intro sum next rest taken
    rw [checkedStep?_eq] at taken
    cases accepted : addComponent sum (cut text) with
    | error fault =>
        rw [accepted] at taken
        cases taken
    | ok other =>
        rw [accepted] at taken
        cases taken
        exact byteLength_rest_lt accepted

/-- Reading any text fails nowhere and comes to an end within as many steps as the text has bytes:
every step is safe whatever text is left, and the reading that can fail gives what the reading
gives. -/
theorem reading_never_fails (text : List Char) :
    (∀ rest, StepIsSafe rest) ∧ checkedNanoseconds? text = some (readNanoseconds text) := by
  refine ⟨stepIsSafe, ?_⟩
  unfold checkedNanoseconds? readNanoseconds
  obtain ⟨negative, body⟩ := cutSign text
  dsimp only
  rw [checkedSum?_eq (Nat.le_refl _)]
  split
  next => rfl
  next =>
    split
    next => rfl
    next => cases sumComponents 0 body <;> rfl

/-- A fraction of more digits than count, and a unit whose name is not of ASCII. -/
example : checkedNanoseconds? "-.00000000000000000001\u00b5s+".toList =
    some (.error (.unknownUnit "\u00b5s+")) := by
  decide +kernel

end MetricProbe.Interval
