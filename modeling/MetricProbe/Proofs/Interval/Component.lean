import Mathlib.Data.Nat.Digits.Lemmas
import MetricProbe.Proofs.Interval.Grammar
import MetricProbe.Proofs.Text.Runs

/-!
# One component

The first component of a text is added to the sum exactly when the grammar has one there that fits;
else the fault is the one that `Breaks` names. The two cases exclude each other and leave no text
out, so it is enough to follow the reader forward in each of them.
-/

namespace MetricProbe.Interval

open Decimal (isDigit digitsValue)
open Text (dropWhile_run head_dropWhile takeWhile_run)

/-! ## Digits and units -/

/-- The weights of the places give the number that is read from the left. -/
theorem digitsValue_eq_placeValue (digits : List Char) :
    digitsValue digits = placeValue digits := by
  rw [digitsValue, placeValue, List.map_reverse, Nat.ofDigits_eq_foldr, List.foldr_reverse,
    List.foldl_map]
  congr
  funext value c
  rw [Nat.cast_id, Nat.add_comm, Nat.mul_comm]

/-- The digits are the characters from the zero to the nine. -/
theorem isDigit_iff {c : Char} : isDigit c = true ↔ 0x30 ≤ c.toNat ∧ c.toNat ≤ 0x39 := by
  simp only [isDigit, Bool.and_eq_true, decide_eq_true_eq]
  exact Iff.rfl

/-- A digit can begin a number. -/
theorem beginsNumber_of_isDigit {c : Char} (digit : isDigit c = true) : beginsNumber c = true := by
  simp [beginsNumber, digit]

/-- A character of a name is neither a digit nor a point. -/
theorem letter_iff {c : Char} : beginsNumber c = false ↔ isDigit c = false ∧ c ≠ '.' := by
  simp [beginsNumber, and_comm]

/-- The names of the table are those that select a unit, and they select it with its length. -/
theorem mem_unitNames_iff {name : List Char} {scale : Nat} :
    (name, scale) ∈ unitNames ↔
      ∃ unit, TimeUnit.ofName? name = some unit ∧ unit.nanoseconds = scale := by
  constructor
  · intro named
    simp only [unitNames, List.mem_cons, Prod.mk.injEq, List.not_mem_nil, or_false] at named
    rcases named with ⟨rfl, rfl⟩ | ⟨rfl, rfl⟩ | ⟨rfl, rfl⟩ | ⟨rfl, rfl⟩ | ⟨rfl, rfl⟩ | ⟨rfl, rfl⟩ |
      ⟨rfl, rfl⟩ | ⟨rfl, rfl⟩ <;> exact ⟨_, rfl, rfl⟩
  · rintro ⟨unit, named, rfl⟩
    unfold TimeUnit.ofName? at named
    split_ifs at named with ns us ms s m h <;> cases named
    · subst ns; decide
    · rcases us with rfl | rfl | rfl <;> decide
    · subst ms; decide
    · subst s; decide
    · subst m; decide
    · subst h; decide

/-- No unit name is empty or has a digit or a point in it. -/
theorem unitNames_letters {name : List Char} {scale : Nat} (named : (name, scale) ∈ unitNames) :
    name ≠ [] ∧ ∀ c ∈ name, beginsNumber c = false := by
  have table : ∀ entry ∈ unitNames, entry.1 ≠ [] ∧ ∀ c ∈ entry.1, beginsNumber c = false := by
    simp [unitNames, beginsNumber, isDigit]
  exact table (name, scale) named

/-! ## Cutting a component off -/

/-- What follows a numeral directly is cut off behind its last digit. -/
theorem cut_numeral (numeral : Numeral) {tail : List Char} (stops : numeral.Stops tail) :
    cut (numeral.written ++ tail) =
      { whole := numeral.whole
        fraction := numeral.fraction
        unitName := tail.takeWhile fun c => !beginsNumber c
        rest := tail.dropWhile fun c => !beginsNumber c } := by
  have digitless : ∀ c ∈ tail.head?, isDigit c = false := fun c first => (stops c first).1
  obtain ⟨whole, fraction?, wholeDigits, pointDigits, someDigit⟩ := numeral
  cases fraction? with
  | none =>
      have pointless : cutFraction tail = ([], tail) := by
        unfold cutFraction
        split
        · exact absurd rfl ((stops _ rfl).2 rfl)
        · rfl
      simp only [Numeral.written, Numeral.fraction, Option.elim_none, List.append_nil,
        Option.getD_none, cut, takeWhile_run wholeDigits digitless,
        dropWhile_run wholeDigits digitless, pointless]
  | some digits =>
      have point : ∀ c ∈ ('.' :: (digits ++ tail)).head?, isDigit c = false := by
        intro c first
        cases first
        decide
      have all : ∀ c ∈ digits, isDigit c = true := pointDigits digits rfl
      have fraction : cutFraction ('.' :: (digits ++ tail)) = (digits, tail) := by
        rw [cutFraction, takeWhile_run all digitless, dropWhile_run all digitless]
      simp only [Numeral.written, Numeral.fraction, Option.elim_some, Option.getD_some,
        List.append_assoc, List.cons_append, cut, takeWhile_run wholeDigits point,
        dropWhile_run wholeDigits point, fraction]

/-- A numeral stops before a name. -/
theorem Numeral.stops_of_letters (numeral : Numeral) {name after : List Char}
    (nonempty : name ≠ []) (letters : ∀ c ∈ name, beginsNumber c = false) :
    numeral.Stops (name ++ after) := by
  obtain ⟨c, name, rfl⟩ := List.exists_cons_of_ne_nil nonempty
  intro d first
  cases first
  obtain ⟨digitless, pointless⟩ := letter_iff.1 (letters c List.mem_cons_self)
  exact ⟨digitless, fun _ => pointless⟩

/-- A numeral and a name are cut apart, and off what follows them. -/
theorem cut_written (numeral : Numeral) {name after : List Char}
    (stops : numeral.Stops (name ++ after)) (letters : ∀ c ∈ name, beginsNumber c = false)
    (ends : Ends after) :
    cut (numeral.written ++ (name ++ after)) =
      ⟨numeral.whole, numeral.fraction, name, after⟩ := by
  have inside : ∀ c ∈ name, (!beginsNumber c) = true := by
    intro c member
    rw [letters c member, Bool.not_false]
  have outside : ∀ c ∈ after.head?, (!beginsNumber c) = false := by
    intro c first
    rw [ends c first, Bool.not_true]
  rw [cut_numeral numeral stops, takeWhile_run inside outside, dropWhile_run inside outside]

/-- A text that begins with a number is cut into a numeral, which stops there, and what follows
it. -/
theorem exists_numeral {text : List Char}
    (digits : (cut text).whole ≠ [] ∨ (cut text).fraction ≠ []) :
    ∃ (numeral : Numeral) (tail : List Char),
      text = numeral.written ++ tail ∧ numeral.Stops tail := by
  have parts := List.takeWhile_append_dropWhile (p := isDigit) (l := text)
  have digitless := head_dropWhile (p := isDigit) text
  have wholeDigits : ∀ c ∈ text.takeWhile isDigit, isDigit c = true :=
    fun c member => List.mem_takeWhile_imp member
  simp only [cut] at digits
  generalize text.takeWhile isDigit = whole at *
  generalize text.dropWhile isDigit = tail at *
  subst parts
  unfold cutFraction at digits
  split at digits
  next more =>
    refine ⟨⟨whole, some (more.takeWhile isDigit), wholeDigits, ?_, digits⟩,
      more.dropWhile isDigit, ?_, ?_⟩
    · rintro _ ⟨rfl⟩ c member
      exact List.mem_takeWhile_imp member
    · simp [Numeral.written]
    · exact fun c first => ⟨head_dropWhile more c first, fun absent => by cases absent⟩
  next pointless =>
    refine ⟨⟨whole, none, wholeDigits, by simp, digits⟩, tail, ?_, ?_⟩
    · simp [Numeral.written]
    · refine fun c first => ⟨digitless c first, fun _ isPoint => ?_⟩
      obtain ⟨more, rfl⟩ := List.head?_eq_some_iff.1 first
      exact pointless more (by rw [isPoint])

/-- A numeral at the start of a text, even one that could be longer, gives the cut a digit. -/
theorem cut_digits (numeral : Numeral) (after : List Char) :
    (cut (numeral.written ++ after)).whole ≠ [] ∨
      (cut (numeral.written ++ after)).fraction ≠ [] := by
  obtain ⟨whole, fraction?, wholeDigits, pointDigits, someDigit⟩ := numeral
  cases whole with
  | cons c whole =>
      left
      simp [cut, Numeral.written, wholeDigits c List.mem_cons_self]
  | nil =>
      right
      cases fraction? with
      | none => simp at someDigit
      | some digits =>
          obtain ⟨c, digits, rfl⟩ := List.exists_cons_of_ne_nil (someDigit.resolve_left (by simp))
          have digit : isDigit c = true := pointDigits _ rfl c List.mem_cons_self
          have point : isDigit '.' = false := by decide
          simp [cut, Numeral.written, cutFraction, digit, point]

/-! ## Adding a component -/

/-- A number below the bound fits. -/
theorem fit?_of_lt {n : Nat} (within : n < 2 ^ 128) : fit? n = some n := if_pos within

/-- A number from the bound on does not fit. -/
theorem fit?_of_le {n : Nat} (beyond : 2 ^ 128 ≤ n) : fit? n = none := if_neg (Nat.not_lt.2 beyond)

/-- A check can be left out if what comes after it fails whenever the check does. -/
theorem fit?_bind {n : Nat} {next : Nat → Option Nat} (fails : 2 ^ 128 ≤ n → next n = none) :
    (fit? n).bind next = next n := by
  by_cases within : n < 2 ^ 128
  · rw [fit?_of_lt within, Option.bind_some]
  · have beyond := Nat.not_lt.1 within
    rw [fit?_of_le beyond, Option.bind_none, fails beyond]

/-- No unit is shorter than a nanosecond. -/
theorem nanoseconds_pos (unit : TimeUnit) : 0 < unit.nanoseconds := by
  cases unit <;> decide

/-- A run of digits stands for less than the next power of ten. -/
theorem placeValue_lt {digits : List Char} (all : ∀ c ∈ digits, isDigit c = true) :
    placeValue digits < 10 ^ digits.length := by
  have bounded := Nat.ofDigits_lt_base_pow_length (b := 10)
    (l := digits.reverse.map fun c => c.toNat - '0'.toNat) (by decide) (by
      intro value member
      obtain ⟨c, inside, rfl⟩ := List.mem_map.1 member
      have digit := isDigit_iff.1 (all c (List.mem_reverse.1 inside))
      have zero : '0'.toNat = 0x30 := rfl
      omega)
  simpa [placeValue] using bounded

/-- A fraction is a run of digits. -/
theorem Numeral.fraction_digits (numeral : Numeral) :
    ∀ c ∈ numeral.fraction, isDigit c = true := by
  unfold Numeral.fraction
  cases present : numeral.fraction? with
  | none => simp
  | some digits => exact numeral.pointDigits digits present

/-- What is taken of a fraction has at most eighteen digits. -/
theorem placeValue_take_lt {fraction : List Char} (all : ∀ c ∈ fraction, isDigit c = true) :
    placeValue (fraction.take 18) < 10 ^ 18 :=
  calc placeValue (fraction.take 18)
    _ < 10 ^ (fraction.take 18).length :=
        placeValue_lt fun c member => all c (List.mem_of_mem_take member)
    _ ≤ 10 ^ 18 := Nat.pow_le_pow_right (by decide) (List.length_take_le 18 fraction)

/-- What is taken of a fraction fits in any case. -/
theorem fraction_lt {fraction : List Char} (all : ∀ c ∈ fraction, isDigit c = true) :
    placeValue (fraction.take 18) < 2 ^ 128 :=
  Nat.lt_trans (placeValue_take_lt all) (by decide)

/-- The checks on the way to the length of a component say the same as one check at the end. -/
theorem amount?_component (component : Component) {unit : TimeUnit}
    (scale : unit.nanoseconds = component.scale) :
    amount? component.whole component.fraction unit = fit? component.nanoseconds := by
  have positive : 0 < component.scale := scale ▸ nanoseconds_pos unit
  have part := fraction_lt component.fraction_digits
  have length : (component.fraction.take 18).length = min component.fraction.length 18 := by
    rw [List.length_take, Nat.min_comm]
  simp only [amount?, digitsValue_eq_placeValue, scale, Option.bind_eq_bind, Option.pure_def,
    fractionDigits]
  rw [fit?_bind]
  · by_cases empty : component.fraction = []
    · simp [Component.nanoseconds, empty, placeValue]
    · simp only [List.isEmpty_iff, empty, if_false, fit?_of_lt part, Option.bind_some, length]
      rw [fit?_bind]
      · rfl
      · exact fun beyond => fit?_of_le (Nat.le_add_right_of_le beyond)
  · intro beyond
    have more : 2 ^ 128 ≤ placeValue component.whole * component.scale :=
      Nat.le_trans beyond (Nat.le_mul_of_pos_right _ positive)
    rw [fit?_of_le more, Option.bind_none]

/-- A numeral has a digit before its point or after it. -/
theorem Numeral.isEmpty_eq_false (numeral : Numeral) :
    (numeral.whole.isEmpty && numeral.fraction.isEmpty) = false := by
  rcases numeral.someDigit with whole | fraction
  · simp [whole]
  · simp [Numeral.fraction, fraction]

/-- A component is cut off the text that follows it. -/
theorem cut_component (component : Component) {after : List Char} (ends : Ends after) :
    cut (component.written ++ after) =
      ⟨component.whole, component.fraction, component.name, after⟩ := by
  obtain ⟨nonempty, letters⟩ := unitNames_letters component.named
  rw [Component.written, List.append_assoc]
  exact cut_written _ (component.stops_of_letters nonempty letters) letters ends

/-- A component that is well formed is added, if the sum fits. -/
theorem addComponent_component (sum : Nat) (component : Component) {after : List Char}
    (ends : Ends after) :
    addComponent sum (cut (component.written ++ after)) =
      if sum + component.nanoseconds < 2 ^ 128 then .ok (sum + component.nanoseconds)
      else .error .outOfRange := by
  obtain ⟨unit, named, scale⟩ := mem_unitNames_iff.1 component.named
  have nonempty : component.name.isEmpty = false := by
    simpa using (unitNames_letters component.named).1
  have checked : ((fit? component.nanoseconds).bind fun n => fit? (sum + n)) =
      fit? (sum + component.nanoseconds) :=
    fit?_bind fun beyond => fit?_of_le (Nat.le_add_left_of_le beyond)
  simp only [cut_component component ends, addComponent, component.isEmpty_eq_false, nonempty,
    Bool.false_eq_true, if_false, named, amount?_component component scale, checked]
  by_cases within : sum + component.nanoseconds < 2 ^ 128
  · rw [fit?_of_lt within, if_pos within]
  · rw [fit?_of_le (Nat.not_lt.1 within), if_neg within]

/-- Where the grammar has no further component, the reader stops with the fault that it names. -/
theorem addComponent_of_breaks {sum : Nat} {text : List Char} {fault : Fault}
    (breaks : Breaks sum text fault) : addComponent sum (cut text) = .error fault := by
  cases breaks with
  | noDigits unnumbered =>
      have digitless : ¬((cut text).whole ≠ [] ∨ (cut text).fraction ≠ []) := by
        intro digits
        obtain ⟨numeral, tail, rfl, _⟩ := exists_numeral digits
        exact unnumbered numeral tail rfl
      obtain ⟨whole, fraction⟩ := not_or.1 digitless
      simp [addComponent, not_not.1 whole, not_not.1 fraction]
  | noUnit numeral stops ends =>
      have parts := @cut_written numeral [] _ stops (by simp) ends
      rw [List.nil_append] at parts
      simp [parts, addComponent, numeral.isEmpty_eq_false]
  | @strangeUnit numeral name after nonempty letters ends strange =>
      have unknown : TimeUnit.ofName? name = none := by
        refine Option.eq_none_iff_forall_ne_some.2 fun unit named => ?_
        exact strange _ (mem_unitNames_iff.2 ⟨unit, named, rfl⟩)
      rw [cut_written numeral (numeral.stops_of_letters nonempty letters) letters ends]
      simp [addComponent, numeral.isEmpty_eq_false, nonempty, unknown]
  | tooLong component ends beyond =>
      rw [addComponent_component sum component ends, if_neg (Nat.not_lt.2 beyond)]

/-- Every text begins with a component that fits, or the grammar says why it does not. -/
theorem component_or_breaks (sum : Nat) (text : List Char) :
    (∃ (component : Component) (after : List Char), text = component.written ++ after ∧
      Ends after ∧ sum + component.nanoseconds < 2 ^ 128) ∨ ∃ fault, Breaks sum text fault := by
  by_cases digits : (cut text).whole ≠ [] ∨ (cut text).fraction ≠ []
  case neg =>
    refine .inr ⟨.malformed, .noDigits fun numeral after same => digits ?_⟩
    rw [same]
    exact cut_digits numeral after
  case pos =>
    obtain ⟨numeral, tail, rfl, stops⟩ := exists_numeral digits
    have letters : ∀ c ∈ tail.takeWhile (!beginsNumber ·), beginsNumber c = false := by
      intro c member
      simpa using List.mem_takeWhile_imp member
    have ends : Ends (tail.dropWhile (!beginsNumber ·)) := by
      intro c first
      simpa using head_dropWhile tail c first
    rw [← List.takeWhile_append_dropWhile (p := (!beginsNumber ·)) (l := tail)] at stops ⊢
    generalize tail.takeWhile (!beginsNumber ·) = name at *
    generalize tail.dropWhile (!beginsNumber ·) = after at *
    by_cases nonempty : name = []
    · subst nonempty
      exact .inr ⟨.missingUnit, .noUnit numeral stops ends⟩
    · by_cases known : ∃ scale, (name, scale) ∈ unitNames
      · obtain ⟨scale, named⟩ := known
        let component : Component := ⟨numeral, name, scale, named⟩
        rw [← List.append_assoc]
        by_cases within : sum + component.nanoseconds < 2 ^ 128
        · exact .inl ⟨component, after, rfl, ends, within⟩
        · exact .inr ⟨.outOfRange, .tooLong component ends (Nat.not_lt.1 within)⟩
      · exact .inr ⟨_, .strangeUnit numeral nonempty letters ends (not_exists.1 known)⟩

end MetricProbe.Interval
