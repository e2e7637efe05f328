import MetricProbe.Decimal.Literal
import MetricProbe.Proofs.Decimal.Range
import MetricProbe.Proofs.Interval.Component
import MetricProbe.Proofs.Json.Grammar

/-!
# What number literals look like

The grammar of the texts that stand for numbers, and the number that each stands for: a word for an
infinity or for what is no number, or digits with at most one point among them and an exponent,
always behind an optional sign. The value of digits is their exact quotient, rounded once, however
large the exponent is. `readLiteral` reads exactly these texts.
-/

namespace MetricProbe.Decimal

open Json (Exponent Sign)
open Json.Numeral (writtenExponent)

/-! ## Literals -/

/-- The digits of a literal: those before the point, those behind it if there is one, and an
exponent if there is one. -/
structure Digits where
  whole : List Char
  fraction : Option (List Char)
  exponent : Option Exponent
  decimal : ∀ c ∈ whole ++ fraction.getD [], isDigit c = true
  nonempty : whole ++ fraction.getD [] ≠ []

/-- The digits behind a point, and the point, if there is one. -/
def pointed (fraction : Option (List Char)) : List Char :=
  fraction.elim [] ('.' :: ·)

/-- The exponent that is written, or zero if there is none. -/
def exponentValue (exponent : Option Exponent) : Int :=
  exponent.elim 0 fun exponent =>
    if exponent.sign = .minus then -(digitsValue exponent.digits : Int)
    else digitsValue exponent.digits

namespace Digits

/-- The digits on both sides of the point. -/
def all (digits : Digits) : List Char :=
  digits.whole ++ digits.fraction.getD []

/-- Digits as they are written. -/
def written (digits : Digits) : List Char :=
  digits.whole ++ (pointed digits.fraction ++ writtenExponent digits.exponent)

/-- The power of ten that the digits on both sides of the point, as one number, are scaled by. -/
def scale (digits : Digits) : Int :=
  exponentValue digits.exponent - (digits.fraction.getD []).length

/-- The number nearest to what digits stand for. -/
def value (negative : Bool) (digits : Digits) : Binary64 :=
  Binary64.ofRatio negative (digitsValue digits.all * tenPow digits.scale.toNat)
    (tenPow (-digits.scale).toNat)

end Digits

/-- A literal behind its sign: a word in any case, or digits. -/
inductive IsMagnitude (negative : Bool) : List Char → Binary64 → Prop where
  | infinity {word : List Char} (spelled : word.map Char.toLower = "inf".toList ∨
      word.map Char.toLower = "infinity".toList) : IsMagnitude negative word (.infinite negative)
  | nan {word : List Char} (spelled : word.map Char.toLower = "nan".toList) :
      IsMagnitude negative word .nan
  | digits (digits : Digits) : IsMagnitude negative digits.written (digits.value negative)

/-- A text is a literal, and this is the number that it stands for. -/
inductive IsLiteral : List Char → Binary64 → Prop where
  | signed (sign : Sign) {text : List Char} {value : Binary64}
      (magnitude : IsMagnitude (sign = .minus) text value) : IsLiteral (sign.written ++ text) value

/-- A text is the word for what is no number, in any case and with any sign. -/
def IsNan (text : List Char) : Prop :=
  ∃ (sign : Sign) (word : List Char), word.map Char.toLower = "nan".toList ∧
    text = sign.written ++ word

/-- Only the word for it stands for what is no number. -/
theorem isLiteral_nan_iff {text : List Char} : IsLiteral text .nan ↔ IsNan text := by
  constructor
  · rintro ⟨sign, magnitude⟩
    generalize same : Binary64.nan = value at magnitude
    cases magnitude with
    | infinity => cases same
    | nan spelled => exact ⟨sign, _, spelled, rfl⟩
    | digits digits => exact (Binary64.ofRatio_ne_nan same.symm).elim
  · rintro ⟨sign, word, spelled, rfl⟩
    exact .signed sign (.nan spelled)

/-! ## Values -/

/-- A run of digits stands for less than the next power of ten. -/
theorem digitsValue_lt {digits : List Char} (decimal : ∀ c ∈ digits, isDigit c = true) :
    digitsValue digits < tenPow digits.length := by
  rw [Interval.digitsValue_eq_placeValue]
  exact Interval.placeValue_lt decimal

/-- The exponents that are decided without raising ten to them give what they would give anyway. -/
theorem scaledValue_eq {negative : Bool} {digits length : Nat} {exponent : Int}
    (short : digits < tenPow length) :
    scaledValue negative digits length exponent =
      Binary64.ofRatio negative (digits * tenPow exponent.toNat) (tenPow (-exponent).toNat) := by
  have positive : ∀ n, 0 < tenPow n := fun n => Nat.pow_pos (by decide)
  rw [scaledValue]
  by_cases zero : digits = 0
  · rw [if_pos zero, zero, Nat.zero_mul]
    refine (Binary64.ofRatio_eq_zero ?_).symm
    rw [Nat.zero_mul]
    exact positive _
  rw [if_neg zero]
  by_cases high : 400 < exponent
  · -- Beyond any finite number, so the guard gives what rounding would.
    rw [if_pos high]
    have whole : (-exponent).toNat = 0 := by omega
    have large : twoPow 1024 * tenPow 0 ≤ digits * tenPow exponent.toNat :=
      calc twoPow 1024 * tenPow 0
          ≤ tenPow 401 := by decide +kernel
        _ ≤ tenPow exponent.toNat := tenPow_le_tenPow (by omega)
        _ ≤ digits * tenPow exponent.toNat := Nat.le_mul_of_pos_left _ (Nat.pos_of_ne_zero zero)
    rw [whole]
    exact (Binary64.ofRatio_eq_infinite (positive 0) (Nat.le_refl 1024) large).symm
  rw [if_neg high]
  by_cases low : exponent + length < -400
  · -- Below half of the least positive number, however many digits there are.
    rw [if_pos low]
    have whole : exponent.toNat = 0 := by omega
    have small : 2 * (digits * twoPow 1074) < tenPow (-exponent).toNat :=
      calc 2 * (digits * twoPow 1074)
          = digits * (2 * twoPow 1074) := Nat.mul_left_comm _ _ _
        _ ≤ digits * tenPow 401 := Nat.mul_le_mul_left _ (by decide +kernel)
        _ < tenPow length * tenPow 401 := Nat.mul_lt_mul_of_pos_right short (positive 401)
        _ = tenPow (length + 401) := (tenPow_add _ _).symm
        _ ≤ tenPow (-exponent).toNat := tenPow_le_tenPow (by omega)
    rw [whole, show tenPow 0 = 1 from rfl, Nat.mul_one]
    exact (Binary64.ofRatio_eq_zero small).symm
  rw [if_neg low]
  by_cases whole : 0 ≤ exponent
  · have none : (-exponent).toNat = 0 := by omega
    rw [if_pos whole, none]
  · have none : exponent.toNat = 0 := by omega
    rw [if_neg whole, none, show tenPow 0 = 1 from rfl, Nat.mul_one]

/-- What digits stand for is the value of their number, scaled. -/
theorem Digits.value_eq (digits : Digits) (negative : Bool) :
    scaledValue negative (digitsValue digits.all) digits.all.length digits.scale =
      digits.value negative :=
  scaledValue_eq (digitsValue_lt digits.decimal)

/-! ## Signs -/

/-- A text does not begin with a sign. -/
def Unsigned (text : List Char) : Prop :=
  ∀ c ∈ text.head?, c ≠ '-' ∧ c ≠ '+'

/-- Every text is a sign, which may be left out, and a text; if it is, that text does not begin with
a sign. -/
theorem exists_sign (text : List Char) :
    ∃ (sign : Sign) (rest : List Char), text = sign.written ++ rest ∧
      (sign = .absent → Unsigned rest) := by
  rcases text with _ | ⟨c, more⟩
  · exact ⟨.absent, [], rfl, fun _ _ nothing => nomatch nothing⟩
  · by_cases minus : c = '-'
    · exact ⟨.minus, more, by rw [minus]; rfl, nofun⟩
    · by_cases plus : c = '+'
      · exact ⟨.plus, more, by rw [plus]; rfl, nofun⟩
      · refine ⟨.absent, c :: more, rfl, ?_⟩
        rintro _ _ ⟨⟩
        exact ⟨minus, plus⟩

/-- A digit is no sign. -/
theorem unsigned_of_isDigit {text : List Char} (decimal : ∀ c ∈ text.head?, isDigit c = true) :
    Unsigned text := by
  intro c first
  have digit := decimal c first
  constructor <;> (rintro rfl; revert digit; decide)

/-! ## Exponents -/

/-- Behind the mark of an exponent there is a sign, which may be left out, and then digits. -/
theorem exponent?_signed {mark : Char} (marked : mark = 'e' ∨ mark = 'E') {sign : Sign}
    {digits : List Char} (unsigned : sign = .absent → Unsigned digits) :
    exponent? (mark :: (sign.written ++ digits)) =
      if digits.isEmpty || !digits.all isDigit then none
      else some (if sign = .minus then -(digitsValue digits : Int) else digitsValue digits) := by
  cases sign with
  | plus => exact if_pos marked
  | minus => exact if_pos marked
  | absent =>
      rw [Sign.written, List.nil_append, exponent?, if_pos marked]
      · rfl
      · rintro _ rfl
        exact (unsigned rfl '-' rfl).1 rfl
      · rintro _ rfl
        exact (unsigned rfl '+' rfl).2 rfl

/-- An exponent is read exactly if it is written as one, or nothing is. -/
theorem exponent?_eq_some_iff {text : List Char} {value : Int} :
    exponent? text = some value ↔
      ∃ exponent, text = writtenExponent exponent ∧ value = exponentValue exponent := by
  constructor
  · intro read
    rcases text with _ | ⟨mark, rest⟩
    · cases read
      exact ⟨none, rfl, rfl⟩
    · by_cases marked : mark = 'e' ∨ mark = 'E'
      · obtain ⟨sign, digits, rfl, unsigned⟩ := exists_sign rest
        rw [exponent?_signed marked unsigned] at read
        split at read
        · cases read
        · next regular =>
          cases read
          simp only [Bool.or_eq_true, List.isEmpty_iff, Bool.not_eq_true', Bool.not_eq_false,
            not_or, List.all_eq_true] at regular
          exact ⟨some ⟨mark, sign, digits, marked, regular.1, regular.2⟩, rfl, rfl⟩
      · unfold exponent? at read
        simp [marked] at read
  · rintro ⟨_ | exponent, rfl, rfl⟩
    · rfl
    · have digits : (exponent.digits.isEmpty || !exponent.digits.all isDigit) = false := by
        simpa using ⟨exponent.nonempty, exponent.decimal⟩
      have unsigned : Unsigned exponent.digits := unsigned_of_isDigit fun c first =>
        exponent.decimal c (List.mem_of_mem_head? first)
      rw [writtenExponent, Option.elim_some, Exponent.written,
        exponent?_signed exponent.marked fun _ => unsigned, digits]
      rfl

/-! ## Digits -/

/-- Nothing at the front of a text continues digits that stand before it, with a point among them or
without one. -/
def EndsDigits (fraction : Option (List Char)) (rest : List Char) : Prop :=
  ∀ c ∈ rest.head?, isDigit c = false ∧ (fraction = none → c ≠ '.')

/-- Every text is digits, a point with digits behind it if there is one, and what continues
neither. -/
theorem exists_digits (text : List Char) :
    ∃ whole fraction rest, text = whole ++ (pointed fraction ++ rest) ∧
      (∀ c ∈ whole ++ fraction.getD [], isDigit c = true) ∧ EndsDigits fraction rest := by
  have taken : ∀ text : List Char, ∀ c ∈ text.takeWhile isDigit, isDigit c = true :=
    fun _ c inside => List.mem_takeWhile_imp inside
  have split : text = text.takeWhile isDigit ++ text.dropWhile isDigit :=
    List.takeWhile_append_dropWhile.symm
  by_cases point : ∃ more, text.dropWhile isDigit = '.' :: more
  · obtain ⟨more, behind⟩ := point
    refine ⟨text.takeWhile isDigit, some (more.takeWhile isDigit), more.dropWhile isDigit, ?_, ?_,
      fun c first => ⟨Text.head_dropWhile more c first, nofun⟩⟩
    · rw [behind] at split
      simpa [pointed] using split
    · exact List.forall_mem_append.2 ⟨taken text, taken more⟩
  · refine ⟨text.takeWhile isDigit, none, text.dropWhile isDigit, split, ?_, fun c first =>
      ⟨Text.head_dropWhile text c first, ?_⟩⟩
    · simpa using taken text
    · rintro _ rfl
      obtain ⟨more, behind⟩ := List.head?_eq_some_iff.1 first
      exact point ⟨more, behind⟩

/-- Digits are read up to where nothing continues them. -/
theorem unsigned?_digits {negative : Bool} {whole rest : List Char} {fraction : Option (List Char)}
    (decimal : ∀ c ∈ whole ++ fraction.getD [], isDigit c = true)
    (ends : EndsDigits fraction rest) :
    unsigned? negative (whole ++ (pointed fraction ++ rest)) =
      if whole.isEmpty && (fraction.getD []).isEmpty then none
      else (exponent? rest).map fun exponent =>
        scaledValue negative (digitsValue (whole ++ fraction.getD []))
          (whole ++ fraction.getD []).length (exponent - (fraction.getD []).length) := by
  obtain ⟨decimalWhole, decimalFraction⟩ := List.forall_mem_append.1 decimal
  have ended : ∀ c ∈ rest.head?, isDigit c = false := fun c first => (ends c first).1
  have stops : ∀ c ∈ (pointed fraction ++ rest).head?, isDigit c = false := by
    cases fraction with
    | none => exact ended
    | some fraction =>
        rintro _ ⟨⟩
        decide
  unfold unsigned?
  rw [Text.takeWhile_run decimalWhole stops, Text.dropWhile_run decimalWhole stops]
  cases fraction with
  | none =>
      rcases rest with _ | ⟨c, more⟩
      · rfl
      · have other : c ≠ '.' := (ends c rfl).2 rfl
        simp [pointed, other]
  | some fraction =>
      have readFraction := Text.takeWhile_run decimalFraction ended
      have leftFraction := Text.dropWhile_run decimalFraction ended
      simp only [pointed, Option.elim_some, List.cons_append, Option.getD_some]
        at readFraction leftFraction ⊢
      rw [readFraction, leftFraction]

/-- An exponent continues no digits. -/
theorem endsDigits_writtenExponent (fraction : Option (List Char)) (exponent : Option Exponent) :
    EndsDigits fraction (writtenExponent exponent) := by
  intro c first
  cases exponent with
  | none => cases first
  | some exponent =>
      cases first
      rcases exponent.marked with same | same <;> rw [same] <;>
        exact ⟨by decide, fun _ => by decide⟩

/-- Digits are read exactly as they are written, as the number nearest to what they stand for. -/
theorem unsigned?_eq_some_iff {negative : Bool} {text : List Char} {value : Binary64} :
    unsigned? negative text = some value ↔
      ∃ digits : Digits, text = digits.written ∧ value = digits.value negative := by
  constructor
  · intro read
    obtain ⟨whole, fraction, rest, rfl, decimal, ends⟩ := exists_digits text
    rw [unsigned?_digits decimal ends] at read
    split at read
    · cases read
    · next some =>
      obtain ⟨_, readExponent, rfl⟩ := Option.map_eq_some_iff.1 read
      obtain ⟨exponent, rfl, rfl⟩ := exponent?_eq_some_iff.1 readExponent
      have nonempty : whole ++ fraction.getD [] ≠ [] := by simpa using some
      let digits : Digits := ⟨whole, fraction, exponent, decimal, nonempty⟩
      exact ⟨digits, rfl, digits.value_eq negative⟩
  · rintro ⟨digits, rfl, rfl⟩
    have some : ¬ (digits.whole.isEmpty && (digits.fraction.getD []).isEmpty) = true := by
      simpa using digits.nonempty
    have exponent := exponent?_eq_some_iff.2 ⟨digits.exponent, rfl, rfl⟩
    rw [Digits.written, unsigned?_digits digits.decimal (endsDigits_writtenExponent _ _),
      if_neg some, exponent, ← digits.value_eq]
    rfl

/-- Digits begin with a digit or with the point. -/
theorem Digits.exists_cons (digits : Digits) :
    ∃ c more, digits.written = c :: more ∧ (isDigit c = true ∨ c = '.') := by
  obtain ⟨whole, fraction, exponent, decimal, nonempty⟩ := digits
  rcases whole with _ | ⟨c, more⟩
  · rcases fraction with _ | fraction
    · exact (nonempty rfl).elim
    · exact ⟨'.', _, rfl, .inr rfl⟩
  · exact ⟨c, _, rfl, .inl (decimal c List.mem_cons_self)⟩

/-! ## Words -/

/-- Characters before the capital letters are the same in lower case. -/
theorem toLower_of_lt {c : Char} (early : c < 'A') : c.toLower = c := by
  unfold Char.toLower
  split
  · next capital => exact (Char.not_lt.2 capital.1 early).elim
  · rfl

/-- Digits and the point come before the capital letters. -/
theorem lt_capital {c : Char} (begins : isDigit c = true ∨ c = '.') : c < 'A' := by
  rcases begins with digit | rfl
  · rw [isDigit, Bool.and_eq_true, decide_eq_true_eq, decide_eq_true_eq] at digit
    exact Nat.lt_of_le_of_lt (show c.toNat ≤ '9'.toNat from digit.2) (by decide)
  · decide

/-- Digits are no word. -/
theorem Digits.toLower_ne_cons (digits : Digits) {c : Char} {word : List Char} (letter : 'A' ≤ c) :
    digits.written.map Char.toLower ≠ c :: word := by
  obtain ⟨first, more, split, begins⟩ := digits.exists_cons
  have early := lt_capital begins
  rw [split, List.map_cons, toLower_of_lt early]
  rintro ⟨⟩
  exact Char.not_lt.2 letter early

/-- What stands behind the sign of a literal is read exactly as it is written. -/
theorem magnitude?_eq_some_iff {negative : Bool} {text : List Char} {value : Binary64} :
    magnitude? negative text = some value ↔ IsMagnitude negative text value := by
  unfold magnitude?
  dsimp only
  constructor
  · intro read
    split at read
    · next spelled =>
      cases read
      exact .infinity spelled
    · split at read
      · next spelled =>
        cases read
        exact .nan spelled
      · obtain ⟨digits, rfl, rfl⟩ := unsigned?_eq_some_iff.1 read
        exact .digits digits
  · intro magnitude
    cases magnitude with
    | infinity spelled => rw [if_pos spelled]
    | nan spelled =>
        rw [spelled]
        rfl
    | digits digits =>
        have notInfinity : ¬ (digits.written.map Char.toLower = "inf".toList ∨
            digits.written.map Char.toLower = "infinity".toList) := by
          rintro (word | word)
          · exact digits.toLower_ne_cons (by decide) word
          · exact digits.toLower_ne_cons (by decide) word
        have notNan : digits.written.map Char.toLower ≠ "nan".toList :=
          digits.toLower_ne_cons (by decide)
        rw [if_neg notInfinity, if_neg notNan]
        exact unsigned?_eq_some_iff.2 ⟨digits, rfl, rfl⟩

/-! ## Whole literals -/

/-- A word begins with a letter in some case. -/
theorem unsigned_of_toLower {word letters : List Char} {letter : Char}
    (spelled : word.map Char.toLower = letter :: letters) (capital : 'A' ≤ letter) :
    word ≠ [] ∧ Unsigned word := by
  obtain ⟨c, more, rfl, rfl, _⟩ := List.map_eq_cons_iff.1 spelled
  refine ⟨nofun, ?_⟩
  have early : ∀ sign : Char, sign < 'A' → c ≠ sign := by
    rintro sign before rfl
    rw [toLower_of_lt before] at capital
    exact Char.not_lt.2 capital before
  rintro _ ⟨⟩
  exact ⟨early '-' (by decide), early '+' (by decide)⟩

/-- What stands behind the sign of a literal does not begin with another sign. -/
theorem IsMagnitude.unsigned {negative : Bool} {text : List Char} {value : Binary64}
    (magnitude : IsMagnitude negative text value) : text ≠ [] ∧ Unsigned text := by
  cases magnitude with
  | infinity spelled =>
      rcases spelled with spelled | spelled
      · exact unsigned_of_toLower spelled (by decide)
      · exact unsigned_of_toLower spelled (by decide)
  | nan spelled => exact unsigned_of_toLower spelled (by decide)
  | digits digits =>
      obtain ⟨c, more, split, begins⟩ := digits.exists_cons
      rw [split]
      refine ⟨nofun, ?_⟩
      rintro _ ⟨⟩
      constructor <;> (rintro rfl; revert begins; decide)

/-- A sign is read before what it stands before. -/
theorem readLiteral_signed {text : String} {sign : Sign} {rest : List Char}
    (split : text.toList = sign.written ++ rest)
    (unsigned : sign = .absent → rest ≠ [] ∧ Unsigned rest) :
    readLiteral text = (magnitude? (sign = .minus) rest).elim (.error .malformed) .ok := by
  rw [readLiteral, split]
  cases sign with
  | plus => rfl
  | minus => rfl
  | absent =>
      obtain ⟨filled, unsigned⟩ := unsigned rfl
      obtain ⟨c, more, rfl⟩ := List.exists_cons_of_ne_nil filled
      obtain ⟨notMinus, notPlus⟩ := unsigned c rfl
      simp [Sign.written, notMinus, notPlus]

/-- A text is read exactly if it is a literal, as the number that it stands for. -/
theorem readLiteral_eq_ok_iff {text : String} {value : Binary64} :
    readLiteral text = .ok value ↔ IsLiteral text.toList value := by
  constructor
  · intro read
    have filled : text.toList ≠ [] := by
      intro empty
      rw [readLiteral, empty] at read
      cases read
    obtain ⟨sign, rest, split, unsigned⟩ := exists_sign text.toList
    have given : sign = .absent → rest ≠ [] ∧ Unsigned rest := by
      rintro rfl
      exact ⟨fun empty => filled (by rw [split, empty]; rfl), unsigned rfl⟩
    rw [readLiteral_signed split given] at read
    cases found : magnitude? (sign = .minus) rest with
    | none =>
        rw [found] at read
        cases read
    | some number =>
        rw [found] at read
        cases read
        rw [split]
        exact .signed sign (magnitude?_eq_some_iff.1 found)
  · intro literal
    generalize same : text.toList = chars at literal
    obtain ⟨sign, magnitude⟩ := literal
    rw [readLiteral_signed same fun _ => magnitude.unsigned, magnitude?_eq_some_iff.2 magnitude]
    rfl

end MetricProbe.Decimal
