import MetricProbe.Proofs.Json.Punctuation

/-!
# Reading numbers

A number is read exactly as far as it goes, and its value is that of its digits alone. Where the
value is not asked for a number of any size is taken; otherwise one beyond the range is refused.

The readers stop at the first character that does not continue the number. What stands there is not
looked at, so it is a hypothesis that it continues nothing.
-/

namespace MetricProbe.Json

open Reader
open Decimal (isDigit)

/-! ## Values of numerals -/

/-- A significand with an exponent as a number, if it is not beyond the range. -/
def scaled? (negative : Bool) (significand : Nat) (exponent : Int) : Option Number :=
  (scaleBy (Binary64.ofNat significand) exponent 4).map fun value =>
    .float (if negative then value.neg else value)

/-- A number without fraction and exponent, of which some digits did not fit into the
significand. -/
def whole? (negative : Bool) (significand dropped : Nat) : Option Number :=
  if dropped ≠ 0 then scaled? negative significand dropped
  else if !negative then some (.integer significand)
  else if significand = 0 ∨ twoPow 63 < significand then
    some (.float (Binary64.ofNat significand).neg)
  else some (.integer (-significand))

/-- A number with a written exponent, which is added to the given one. An exponent beyond the bound
is only allowed for zero and for small numbers. -/
def raised? (negative : Bool) (significand : Nat) (exponent : Int) (sign : Sign)
    (digits : List Char) : Option Number :=
  match (exponentDigits 0 digits).1 with
  | some written =>
    scaled? negative significand
      (if sign = .minus then exponent - written else exponent + written)
  | none =>
    if significand ≠ 0 ∧ sign ≠ .minus then none else some (.float (.finite negative 0 0))

/-- A number behind its whole digits, given what became of them. -/
def tail? (negative : Bool) (significand dropped : Nat) (fraction : List Char)
    (exponent : Option Exponent) : Option Number :=
  if fraction = [] then
    match exponent with
    | none => whole? negative significand dropped
    | some exponent => raised? negative significand dropped exponent.sign exponent.digits
  else
    let (significand, taken) := absorb significand fraction
    match exponent with
    | none => scaled? negative significand (dropped - taken)
    | some exponent => raised? negative significand (dropped - taken) exponent.sign exponent.digits

/-- The number that a numeral stands for, if it is not beyond the range. -/
def Numeral.value? (numeral : Numeral) : Option Number :=
  let (significand, taken) := absorb 0 numeral.whole
  tail? numeral.negative significand (numeral.whole.length - taken) numeral.fraction
    numeral.exponent

/-- Nothing at the front of a text continues a number with the given fraction and exponent. -/
def Stops (fraction : List Char) (exponent : Option Exponent) (rest : List Char) : Prop :=
  ∀ c ∈ rest.head?, isDigit c = false ∧
    (exponent = none → c ≠ 'e' ∧ c ≠ 'E' ∧ (fraction = [] → c ≠ '.'))

/-- What continues no number continues none of a given form. -/
theorem Ends.stops {rest : List Char} (ends : Ends rest) (fraction : List Char)
    (exponent : Option Exponent) : Stops fraction exponent rest := by
  intro c first
  obtain ⟨digitless, point, small, capital⟩ := ends c first
  exact ⟨digitless, fun _ => ⟨small, capital, fun _ => point⟩⟩

/-! ## Exponents -/

section

variable {negative : Bool} {significand : Nat} {exponent : Int} {text rest left : List Char}
  {value : Number}

/-- A significand is given where it stands. -/
theorem giveScaled_eq_ok_iff :
    giveScaled negative significand exponent text = .ok (value, left) ↔
      scaled? negative significand exponent = some value ∧ left = text := by
  unfold giveScaled scaled?
  cases scaleBy (Binary64.ofNat significand) exponent 4 with
  | none => simp
  | some scaled => simp [eq_comm]

/-- The digits of an exponent are taken whole, or up to some digit where they exceed the bound. -/
theorem exponentDigits_run {digits : List Char} (decimal : ∀ c ∈ digits, isDigit c = true)
    (stops : ∀ c ∈ rest.head?, isDigit c = false) (start : Nat) :
    ∃ left, exponentDigits start (digits ++ rest) = ((exponentDigits start digits).1, left) ∧
      (∀ written, (exponentDigits start digits).1 = some written → left = rest) ∧
        left.dropWhile isDigit = rest := by
  induction digits generalizing start with
  | nil =>
      refine ⟨rest, ?_, fun _ _ => rfl, @Text.dropWhile_run _ [] rest nofun stops⟩
      cases rest with
      | nil => rfl
      | cons c more => simp [exponentDigits, stops c rfl]
  | cons c more inductionHypothesis =>
      obtain ⟨digit, others⟩ := List.forall_mem_cons.1 decimal
      simp only [List.cons_append, exponentDigits, digit, if_true]
      split
      · exact inductionHypothesis others _
      · exact ⟨more ++ rest, rfl, nofun, Text.dropWhile_run others stops⟩

/-- The sign of an exponent is taken, if it is there. -/
theorem exponentSign_run (sign : Sign) {c : Char} (digit : isDigit c = true) :
    exponentSign (sign.written ++ c :: rest) = .ok (decide (sign = .minus), c :: rest) := by
  have unsigned : c ≠ '+' ∧ c ≠ '-' := by
    constructor <;> rintro rfl <;> cases digit
  cases sign <;> simp [exponentSign, Sign.written, unsigned]

/-- What is taken as the sign of an exponent was one. -/
theorem exists_sign_of_exponentSign {below : Bool}
    (given : exponentSign text = .ok (below, rest)) :
    ∃ sign : Sign, text = sign.written ++ rest := by
  simp only [exponentSign, look_then] at given
  rcases text with _ | ⟨c, more⟩
  · cases given
    exact ⟨.absent, rfl⟩
  · by_cases plus : c = '+'
    · subst plus
      cases given
      exact ⟨.plus, rfl⟩
    · by_cases minus : c = '-'
      · subst minus
        cases given
        exact ⟨.minus, rfl⟩
      · simp [plus, minus] at given
        exact ⟨.absent, given.2⟩

/-- An exponent is read whole, and raises the number. -/
theorem exponentPart_run {sign : Sign} {digits : List Char} (nonempty : digits ≠ [])
    (decimal : ∀ c ∈ digits, isDigit c = true) (stops : ∀ c ∈ rest.head?, isDigit c = false) :
    exponentPart negative significand exponent (sign.written ++ (digits ++ rest)) =
        .ok (value, left) ↔
      raised? negative significand exponent sign digits = some value ∧ left = rest := by
  obtain ⟨between, run, whole, dropped⟩ := exponentDigits_run decimal stops 0
  obtain ⟨c, more, rfl⟩ := List.exists_cons_of_ne_nil nonempty
  have digit : isDigit c = true := decimal c List.mem_cons_self
  rw [List.cons_append] at run
  rw [exponentPart, List.cons_append, then_of_ok (exponentSign_run sign digit)]
  simp only [look_then, digit, if_true, run, moveTo_then, raised?]
  cases bounded : (exponentDigits 0 (c :: more)).1 with
  | some written =>
      rw [whole written bounded]
      simp only [decide_eq_true_eq, giveScaled_eq_ok_iff]
  | none =>
      by_cases beyond : significand ≠ 0 ∧ sign ≠ .minus
      · simp [beyond]
      · simp only [Bool.not_eq_true', decide_eq_false_iff_not, beyond, if_false, dropped]
        simp [eq_comm]

/-- A text that begins with a digit begins with a run of digits. -/
theorem exists_digits {c : Char} (digit : isDigit c = true) (more : List Char) :
    ∃ digits rest, c :: more = digits ++ rest ∧ digits ≠ [] ∧ (∀ d ∈ digits, isDigit d = true) ∧
      ∀ d ∈ rest.head?, isDigit d = false := by
  refine ⟨(c :: more).takeWhile isDigit, (c :: more).dropWhile isDigit,
    List.takeWhile_append_dropWhile.symm, ?_, fun d inside => List.mem_takeWhile_imp inside,
    Text.head_dropWhile _⟩
  rw [List.takeWhile_cons_of_pos digit]
  exact List.cons_ne_nil _ _

/-- What is read as an exponent was one, and no digit follows. -/
theorem exists_exponent_of_exponentPart
    (given : exponentPart negative significand exponent text = .ok (value, rest)) :
    ∃ (sign : Sign) (digits : List Char), text = sign.written ++ (digits ++ rest) ∧
      digits ≠ [] ∧ (∀ c ∈ digits, isDigit c = true) ∧ ∀ c ∈ rest.head?, isDigit c = false := by
  obtain ⟨below, between, signed, behind⟩ := bind_eq_ok.1 given
  obtain ⟨sign, rfl⟩ := exists_sign_of_exponentSign signed
  rcases between with _ | ⟨c, more⟩
  · cases behind
  · by_cases digit : isDigit c = true
    · obtain ⟨digits, after, split, nonempty, decimal, stops⟩ := exists_digits digit more
      rw [split] at given ⊢
      obtain ⟨_, rfl⟩ := (exponentPart_run nonempty decimal stops).1 given
      exact ⟨sign, digits, rfl, nonempty, decimal, stops⟩
    · simp [digit] at behind

/-! ## Fractions -/

/-- A number without fraction and exponent is given where it stands. -/
theorem giveWhole_eq_ok_iff {dropped : Nat} :
    afterWhole.giveWhole negative significand dropped text = .ok (value, left) ↔
      whole? negative significand dropped = some value ∧ left = text := by
  unfold afterWhole.giveWhole whole?
  split
  · exact giveScaled_eq_ok_iff
  · split
    · simp [eq_comm]
    · split <;> simp [eq_comm]

/-- The mark of an exponent is no digit and no point. -/
theorem Exponent.mark_ne (exponent : Exponent) :
    isDigit exponent.mark = false ∧ exponent.mark ≠ '.' := by
  rcases exponent.marked with same | same <;> rw [same] <;> decide

/-- An exponent is not taken for digits, and neither is what stops the number. -/
theorem Stops.exponent_digitless {fraction : List Char} {exponent : Option Exponent}
    (stops : Stops fraction exponent rest) :
    ∀ c ∈ (Numeral.writtenExponent exponent ++ rest).head?, isDigit c = false := by
  intro c first
  cases exponent with
  | none => exact (stops c first).1
  | some exponent =>
      cases first
      exact exponent.mark_ne.1

/-- What follows the whole digits is read whole. -/
theorem afterWhole_run {dropped : Nat} {fraction : List Char} {exponent : Option Exponent}
    (decimal : ∀ c ∈ fraction, isDigit c = true) (stops : Stops fraction exponent rest) :
    afterWhole negative significand dropped
        (Numeral.writtenFraction fraction ++ (Numeral.writtenExponent exponent ++ rest)) =
        .ok (value, left) ↔
      tail? negative significand dropped fraction exponent = some value ∧ left = rest := by
  have digitless := stops.exponent_digitless
  have ended : ∀ c ∈ rest.head?, isDigit c = false := fun c first => (stops c first).1
  unfold tail? Numeral.writtenFraction
  by_cases pointless : fraction = []
  · rw [if_pos pointless, if_pos pointless, List.nil_append]
    cases exponent with
    | some exponent =>
        simp only [Numeral.writtenExponent, Option.elim_some, Exponent.written, List.cons_append,
          List.append_assoc, afterWhole, look_then]
        simp [exponent.marked, exponent.mark_ne.2,
          exponentPart_run exponent.nonempty exponent.decimal ended]
    | none =>
        simp only [Numeral.writtenExponent, Option.elim_none, List.nil_append, afterWhole, look_then]
        rcases rest with _ | ⟨c, rest⟩
        · exact giveWhole_eq_ok_iff
        · obtain ⟨small, capital, point⟩ := (stops c rfl).2 rfl
          simp [small, capital, point pointless, giveWhole_eq_ok_iff]
  · rw [if_neg pointless, if_neg pointless]
    simp only [List.cons_append, afterWhole, look_then, Text.takeWhile_run decimal digitless,
      Text.dropWhile_run decimal digitless, moveTo_then, List.isEmpty_iff, pointless, if_false]
    cases exponent with
    | some exponent =>
        simp only [Numeral.writtenExponent, Option.elim_some, Exponent.written, List.cons_append,
          List.append_assoc, exponent.marked, if_true, moveTo_then]
        exact exponentPart_run exponent.nonempty exponent.decimal ended
    | none =>
        simp only [Numeral.writtenExponent, Option.elim_none, List.nil_append]
        rcases rest with _ | ⟨c, rest⟩
        · exact giveScaled_eq_ok_iff
        · obtain ⟨small, capital, _⟩ := (stops c rfl).2 rfl
          simp [small, capital, giveScaled_eq_ok_iff]

/-- What is read as an exponent behind its mark was one. -/
theorem exists_written_of_exponentPart {mark : Char} (marked : mark = 'e' ∨ mark = 'E')
    (given : exponentPart negative significand exponent text = .ok (value, rest))
    (fraction : List Char) :
    ∃ written : Exponent, mark :: text = Numeral.writtenExponent (some written) ++ rest ∧
      Stops fraction (some written) rest := by
  obtain ⟨sign, digits, rfl, nonempty, decimal, stops⟩ := exists_exponent_of_exponentPart given
  refine ⟨⟨mark, sign, digits, marked, nonempty, decimal⟩, ?_, fun c first => ⟨stops c first, nofun⟩⟩
  simp [Numeral.writtenExponent, Exponent.written]

/-- What is read behind the whole digits was a fraction and an exponent, as far as they are there. -/
theorem exists_tail_of_afterWhole {dropped : Nat}
    (digitless : ∀ c ∈ text.head?, isDigit c = false)
    (given : afterWhole negative significand dropped text = .ok (value, rest)) :
    ∃ (fraction : List Char) (exponent : Option Exponent), (∀ c ∈ fraction, isDigit c = true) ∧
      text = Numeral.writtenFraction fraction ++ (Numeral.writtenExponent exponent ++ rest) ∧
        Stops fraction exponent rest := by
  simp only [afterWhole, look_then] at given
  rcases text with _ | ⟨c, more⟩
  · obtain ⟨_, rfl⟩ := giveWhole_eq_ok_iff.1 given
    exact ⟨[], none, nofun, rfl, nofun⟩
  · by_cases point : c = '.'
    · subst point
      simp only [moveTo_then] at given
      have split := (List.takeWhile_append_dropWhile (p := isDigit) (l := more)).symm
      have decimal : ∀ d ∈ more.takeWhile isDigit, isDigit d = true :=
        fun d inside => List.mem_takeWhile_imp inside
      have stops := Text.head_dropWhile (p := isDigit) more
      generalize more.takeWhile isDigit = digits at given split decimal
      generalize more.dropWhile isDigit = after at given split stops
      by_cases empty : digits = []
      · by_cases last : after = [] <;> simp [empty, last] at given
      · simp only [List.isEmpty_iff, empty, if_false] at given
        have written : Numeral.writtenFraction digits = '.' :: digits := if_neg empty
        rcases after with _ | ⟨d, after⟩
        · obtain ⟨_, rfl⟩ := giveScaled_eq_ok_iff.1 given
          exact ⟨digits, none, decimal, by rw [written, split]; rfl, nofun⟩
        · by_cases marked : d = 'e' ∨ d = 'E'
          · simp only [marked, if_true, moveTo_then] at given
            obtain ⟨exponent, behind, stops⟩ := exists_written_of_exponentPart marked given digits
            exact ⟨digits, some exponent, decimal, by rw [written, split, behind]; rfl, stops⟩
          · simp only [marked, if_false] at given
            obtain ⟨_, rfl⟩ := giveScaled_eq_ok_iff.1 given
            refine ⟨digits, none, decimal, by rw [written, split]; rfl, ?_⟩
            rintro _ ⟨⟩
            exact ⟨stops d rfl, fun _ => ⟨fun small => marked (.inl small),
              fun capital => marked (.inr capital), fun none => absurd none empty⟩⟩
    · by_cases marked : c = 'e' ∨ c = 'E'
      · have read : exponentPart negative significand dropped more = .ok (value, rest) := by
          simpa [marked] using given
        obtain ⟨written, split, stops⟩ := exists_written_of_exponentPart marked read []
        exact ⟨[], some written, nofun, split, stops⟩
      · have read : afterWhole.giveWhole negative significand dropped (c :: more) =
            .ok (value, rest) := by
          simpa [marked] using given
        obtain ⟨_, rfl⟩ := giveWhole_eq_ok_iff.1 read
        refine ⟨[], none, nofun, rfl, ?_⟩
        rintro _ ⟨⟩
        exact ⟨digitless c rfl, fun _ => ⟨fun small => marked (.inl small),
          fun capital => marked (.inr capital), fun _ => point⟩⟩

/-! ## Whole numbers and signs -/

/-- Nothing behind the whole digits is taken for one of them. -/
theorem Stops.tail_digitless {fraction : List Char} {exponent : Option Exponent}
    (stops : Stops fraction exponent rest) :
    ∀ c ∈ (Numeral.writtenFraction fraction ++
      (Numeral.writtenExponent exponent ++ rest)).head?, isDigit c = false := by
  unfold Numeral.writtenFraction
  split
  · exact stops.exponent_digitless
  · rintro _ ⟨⟩
    decide

/-- The digit zero alone is a number without dropped digits. -/
theorem value?_of_zero {numeral : Numeral} (zero : numeral.whole = ['0']) :
    numeral.value? = tail? numeral.negative 0 0 numeral.fraction numeral.exponent := by
  have absorbed : absorb 0 ['0'] = (0, 1) := by decide
  simp [Numeral.value?, zero, absorbed]

/-- A number behind its sign is read whole. -/
theorem unsignedNumber_run {numeral : Numeral}
    (stops : Stops numeral.fraction numeral.exponent rest) :
    unsignedNumber numeral.negative (numeral.unsigned ++ rest) = .ok (value, left) ↔
      numeral.value? = some value ∧ left = rest := by
  have digitless := stops.tail_digitless
  rw [Numeral.unsigned, List.append_assoc, List.append_assoc]
  rcases numeral.canonical with zero | ⟨⟨c, more, whole, other⟩, decimal⟩
  · rw [value?_of_zero zero, ← afterWhole_run numeral.decimal stops, zero]
    generalize Numeral.writtenFraction numeral.fraction ++ _ = after at digitless
    simp only [List.singleton_append, unsignedNumber, look_then, if_true, moveTo_then]
    rcases after with _ | ⟨d, after⟩
    · rfl
    · simp [digitless d rfl]
  · have digit : isDigit c = true := decimal c (whole ▸ List.mem_cons_self)
    have read := @afterWhole_run numeral.negative (absorb 0 numeral.whole).1 rest left value
      (numeral.whole.length - (absorb 0 numeral.whole).2) _ _ numeral.decimal stops
    rw [Numeral.value?, ← read]
    generalize Numeral.writtenFraction numeral.fraction ++ _ = after at digitless
    have taken := Text.takeWhile_run decimal digitless
    have dropped := Text.dropWhile_run decimal digitless
    rw [whole, List.cons_append] at taken dropped ⊢
    simp only [unsignedNumber, look_then, other, if_false, digit, if_true, taken, dropped,
      moveTo_then]

/-- The whole part of a number begins with a digit. -/
theorem Numeral.exists_digit (numeral : Numeral) :
    ∃ c more, numeral.whole = c :: more ∧ isDigit c = true := by
  rcases numeral.canonical with zero | ⟨⟨c, more, whole, _⟩, decimal⟩
  · exact ⟨'0', [], zero, by decide⟩
  · exact ⟨c, more, whole, decimal c (whole ▸ List.mem_cons_self)⟩

/-- A digit is no minus sign. -/
theorem ne_minus_of_digit {c : Char} (digit : isDigit c = true) : c ≠ '-' := by
  rintro rfl
  cases digit

/-- A number is read whole. -/
theorem number_run {numeral : Numeral} (stops : Stops numeral.fraction numeral.exponent rest) :
    number (numeral.written ++ rest) = .ok (value, left) ↔
      numeral.value? = some value ∧ left = rest := by
  rw [← unsignedNumber_run stops, Numeral.written]
  cases sign : numeral.negative with
  | true => simp [number]
  | false =>
      obtain ⟨c, more, whole, digit⟩ := numeral.exists_digit
      simp [number, Numeral.unsigned, whole, ne_minus_of_digit digit]

/-- What is read as a number behind its sign was one. -/
theorem exists_numeral_of_unsignedNumber
    (given : unsignedNumber negative text = .ok (value, rest)) :
    ∃ numeral : Numeral, numeral.negative = negative ∧ text = numeral.unsigned ++ rest ∧
      Stops numeral.fraction numeral.exponent rest := by
  simp only [unsignedNumber, look_then] at given
  rcases text with _ | ⟨c, more⟩
  · cases given
  · by_cases zero : c = '0'
    · subst zero
      simp only [if_true, moveTo_then] at given
      have digitless : ∀ d ∈ more.head?, isDigit d = false := by
        intro d first
        obtain ⟨tail, rfl⟩ := List.head?_eq_some_iff.1 first
        by_contra digit
        rw [Bool.not_eq_false] at digit
        simp [digit] at given
      have read : afterWhole negative 0 0 more = .ok (value, rest) := by
        rcases more with _ | ⟨d, more⟩
        · exact given
        · simpa [digitless d rfl] using given
      obtain ⟨fraction, exponent, decimal, rfl, stops⟩ := exists_tail_of_afterWhole digitless read
      refine ⟨⟨negative, ['0'], fraction, exponent, .inl rfl, decimal⟩, rfl, ?_, stops⟩
      simp [Numeral.unsigned]
    · by_cases digit : isDigit c = true
      · simp only [zero, if_false, digit, if_true, moveTo_then] at given
        have digitless := Text.head_dropWhile (p := isDigit) (c :: more)
        obtain ⟨fraction, exponent, decimal, behind, stops⟩ :=
          exists_tail_of_afterWhole digitless given
        have whole : ∀ d ∈ (c :: more).takeWhile isDigit, isDigit d = true :=
          fun d inside => List.mem_takeWhile_imp inside
        refine ⟨⟨negative, (c :: more).takeWhile isDigit, fraction, exponent,
          .inr ⟨⟨c, _, List.takeWhile_cons_of_pos digit, zero⟩, whole⟩, decimal⟩, rfl, ?_, stops⟩
        rw [Numeral.unsigned, List.append_assoc, List.append_assoc, ← behind,
          List.takeWhile_append_dropWhile]
      · simp [zero, digit] at given

/-- What is read as a number was one, and its value is that of the number. -/
theorem exists_numeral_of_number (given : number text = .ok (value, rest)) :
    ∃ numeral : Numeral, text = numeral.written ++ rest ∧ numeral.value? = some value := by
  have split : ∃ (negative : Bool) (unsigned : List Char),
      text = (if negative then ['-'] else []) ++ unsigned ∧
        unsignedNumber negative unsigned = .ok (value, rest) := by
    simp only [number, look_then] at given
    rcases text with _ | ⟨c, more⟩
    · exact ⟨false, [], rfl, given⟩
    · by_cases minus : c = '-'
      · subst minus
        exact ⟨true, more, rfl, given⟩
      · exact ⟨false, c :: more, rfl, by simpa [minus] using given⟩
  obtain ⟨negative, unsigned, rfl, read⟩ := split
  obtain ⟨numeral, rfl, rfl, stops⟩ := exists_numeral_of_unsignedNumber read
  exact ⟨numeral, by rw [Numeral.written, List.append_assoc],
    ((unsignedNumber_run stops).1 read).1⟩

/-! ## Numbers whose value is not asked for -/

/-- An exponent is taken whole, if there is one. -/
theorem skipOptionalExponent_run {fraction : List Char} {exponent : Option Exponent}
    (stops : Stops fraction exponent rest) :
    skipOptionalExponent (Numeral.writtenExponent exponent ++ rest) = .ok ((), rest) := by
  cases exponent with
  | none =>
      rcases rest with _ | ⟨c, rest⟩
      · rfl
      · obtain ⟨small, capital, _⟩ := (stops c rfl).2 rfl
        simp [Numeral.writtenExponent, skipOptionalExponent, small, capital]
  | some exponent =>
      have ended : ∀ c ∈ rest.head?, isDigit c = false := fun c first => (stops c first).1
      have dropped := Text.dropWhile_run exponent.decimal ended
      obtain ⟨c, more, digits⟩ := List.exists_cons_of_ne_nil exponent.nonempty
      have digit : isDigit c = true := exponent.decimal c (digits ▸ List.mem_cons_self)
      rw [digits, List.cons_append, List.dropWhile_cons_of_pos digit] at dropped
      simp only [Numeral.writtenExponent, Option.elim_some, Exponent.written, List.cons_append,
        List.append_assoc, skipOptionalExponent, look_then, exponent.marked, if_true, moveTo_then,
        skipExponent, digits]
      rw [then_of_ok (exponentSign_run exponent.sign digit)]
      simp [digit, dropped]

/-- What is taken as an exponent was one, as far as it is there. -/
theorem exists_exponent_of_skip (digitless : ∀ c ∈ text.head?, isDigit c = false)
    (given : skipOptionalExponent text = .ok ((), rest)) :
    ∃ exponent : Option Exponent, text = Numeral.writtenExponent exponent ++ rest := by
  rcases text with _ | ⟨c, more⟩
  · cases given
    exact ⟨none, rfl⟩
  · simp only [skipOptionalExponent, look_then] at given
    by_cases marked : c = 'e' ∨ c = 'E'
    · simp only [marked, if_true, moveTo_then, skipExponent] at given
      obtain ⟨below, between, signed, behind⟩ := bind_eq_ok.1 given
      obtain ⟨sign, rfl⟩ := exists_sign_of_exponentSign signed
      rcases between with _ | ⟨d, after⟩
      · cases behind
      · by_cases digit : isDigit d = true
        · simp only [look_then, digit, if_true, moveTo_run] at behind
          cases behind
          have decimal : ∀ e ∈ d :: after.takeWhile isDigit, isDigit e = true :=
            List.forall_mem_cons.2 ⟨digit, fun e inside => List.mem_takeWhile_imp inside⟩
          refine ⟨some ⟨c, sign, _, marked, List.cons_ne_nil _ _, decimal⟩, ?_⟩
          simp [Numeral.writtenExponent, Exponent.written, List.takeWhile_append_dropWhile]
        · simp [digit] at behind
    · simp only [marked, if_false] at given
      cases given
      exact ⟨none, rfl⟩

/-- A fraction is taken whole, if there is one. -/
theorem skipFraction_run {fraction : List Char} {exponent : Option Exponent}
    (decimal : ∀ c ∈ fraction, isDigit c = true) (stops : Stops fraction exponent rest) :
    skipFraction (Numeral.writtenFraction fraction ++
        (Numeral.writtenExponent exponent ++ rest)) =
      .ok ((), Numeral.writtenExponent exponent ++ rest) := by
  have digitless := stops.exponent_digitless
  unfold Numeral.writtenFraction
  split
  · next pointless =>
    cases exponent with
    | some exponent =>
        simp [Numeral.writtenExponent, Exponent.written, skipFraction, exponent.mark_ne.2]
    | none =>
        rcases rest with _ | ⟨c, rest⟩
        · rfl
        · obtain ⟨_, _, point⟩ := (stops c rfl).2 rfl
          simp [Numeral.writtenExponent, skipFraction, point pointless]
  · next digits =>
    simp only [List.cons_append, skipFraction, look_then, moveTo_then,
      Text.takeWhile_run decimal digitless, Text.dropWhile_run decimal digitless,
      List.isEmpty_iff, digits, if_false, pure_run]

/-- A number behind its sign is taken whole. -/
theorem skipUnsigned_run {numeral : Numeral}
    (stops : Stops numeral.fraction numeral.exponent rest) :
    skipUnsigned (numeral.unsigned ++ rest) = .ok ((), rest) := by
  have whole : skipWhole (numeral.unsigned ++ rest) =
      .ok ((), Numeral.writtenFraction numeral.fraction ++
        (Numeral.writtenExponent numeral.exponent ++ rest)) := by
    have digitless := stops.tail_digitless
    rw [Numeral.unsigned, List.append_assoc, List.append_assoc]
    generalize Numeral.writtenFraction numeral.fraction ++ _ = after at digitless
    rcases numeral.canonical with zero | ⟨⟨c, more, whole, other⟩, decimal⟩
    · rw [zero]
      simp only [List.singleton_append, skipWhole, look_then, if_true, moveTo_then]
      rcases after with _ | ⟨d, after⟩
      · rfl
      · simp [digitless d rfl]
    · have digit : isDigit c = true := decimal c (whole ▸ List.mem_cons_self)
      have dropped := Text.dropWhile_run decimal digitless
      rw [whole, List.cons_append, List.dropWhile_cons_of_pos digit] at dropped
      simp [whole, skipWhole, other, digit, dropped]
  rw [skipUnsigned, then_of_ok whole, then_of_ok (skipFraction_run numeral.decimal stops),
    skipOptionalExponent_run stops]

/-- What is taken as the whole digits of a number was that. -/
theorem exists_whole_of_skipWhole (given : skipWhole text = .ok ((), rest)) :
    ∃ whole : List Char, text = whole ++ rest ∧ (∀ c ∈ rest.head?, isDigit c = false) ∧
      (whole = ['0'] ∨ (∃ c more, whole = c :: more ∧ c ≠ '0') ∧
        ∀ c ∈ whole, isDigit c = true) := by
  simp only [skipWhole, look_then] at given
  rcases text with _ | ⟨c, more⟩
  · cases given
  · by_cases zero : c = '0'
    · subst zero
      simp only [if_true, moveTo_then] at given
      rcases more with _ | ⟨d, more⟩
      · cases given
        exact ⟨['0'], rfl, nofun, .inl rfl⟩
      · cases digit : isDigit d with
        | true => simp [digit] at given
        | false =>
            simp only [digit, Bool.false_eq_true, if_false] at given
            cases given
            refine ⟨['0'], rfl, ?_, .inl rfl⟩
            rintro _ ⟨⟩
            exact digit
    · by_cases digit : isDigit c = true
      · simp only [zero, if_false, digit, if_true] at given
        cases given
        refine ⟨c :: more.takeWhile isDigit, ?_, Text.head_dropWhile more,
          .inr ⟨⟨c, _, rfl, zero⟩, List.forall_mem_cons.2 ⟨digit, fun d inside =>
            List.mem_takeWhile_imp inside⟩⟩⟩
        rw [List.cons_append, List.takeWhile_append_dropWhile]
      · simp [zero, digit] at given

/-- What is taken as a fraction was one, as far as it is there. -/
theorem exists_fraction_of_skipFraction (digitless : ∀ c ∈ text.head?, isDigit c = false)
    (given : skipFraction text = .ok ((), rest)) :
    ∃ fraction : List Char, text = Numeral.writtenFraction fraction ++ rest ∧
      (∀ c ∈ fraction, isDigit c = true) ∧ ∀ c ∈ rest.head?, isDigit c = false := by
  simp only [skipFraction, look_then] at given
  rcases text with _ | ⟨c, more⟩
  · cases given
    exact ⟨[], rfl, nofun, nofun⟩
  · by_cases point : c = '.'
    · subst point
      by_cases empty : more.takeWhile isDigit = []
      · simp [empty] at given
      · simp only [moveTo_then, List.isEmpty_iff, empty, if_false] at given
        cases given
        refine ⟨more.takeWhile isDigit, ?_, fun d inside => List.mem_takeWhile_imp inside,
          Text.head_dropWhile more⟩
        rw [Numeral.writtenFraction, if_neg empty, List.cons_append,
          List.takeWhile_append_dropWhile]
    · have same : rest = c :: more := by simpa [point, eq_comm] using given
      exact ⟨[], same.symm, nofun, same ▸ digitless⟩

/-- What is taken as a number behind its sign was one. -/
theorem exists_numeral_of_skipUnsigned (negative : Bool)
    (given : skipUnsigned text = .ok ((), rest)) :
    ∃ numeral : Numeral, numeral.negative = negative ∧ text = numeral.unsigned ++ rest := by
  obtain ⟨_, afterWhole, first, behind⟩ := bind_eq_ok.1 given
  obtain ⟨_, afterFraction, second, third⟩ := bind_eq_ok.1 behind
  obtain ⟨whole, rfl, wholeStops, canonical⟩ := exists_whole_of_skipWhole first
  obtain ⟨fraction, rfl, decimal, stops⟩ := exists_fraction_of_skipFraction wholeStops second
  obtain ⟨exponent, rfl⟩ := exists_exponent_of_skip stops third
  exact ⟨⟨negative, whole, fraction, exponent, canonical, decimal⟩, rfl, by simp [Numeral.unsigned]⟩

end

end MetricProbe.Json
