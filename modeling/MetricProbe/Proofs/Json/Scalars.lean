import Mathlib.Algebra.Group.Int.Defs
import MetricProbe.Proofs.Decimal.Range
import MetricProbe.Proofs.Json.Records

/-!
# Texts, booleans and integers

The scalars of a record are read exactly if they are of the expected kind. A text means the
characters that its letters mean. An integer of 32 bits is written without fraction and exponent,
its value is that of its digits, and it is within the range; zero with a minus sign is no integer,
because it is read as the negative zero of floating point.
-/

namespace MetricProbe.Json

open Reader
open Decimal (isDigit digitsValue)

section

variable {α : Type}

/-- A reader that looks at what is behind the space reads what it reads there. -/
theorem reads_of_look {inside : List Char → Reader α} {fits : Spelling → α → Prop}
    (sound : ∀ {c more rest value}, inside (c :: more) (c :: more) = .ok (value, rest) →
      ∃ tree written, Writes tree written ∧ fits tree value ∧ c :: more = written ++ rest)
    (decides : ∀ {tree written rest value left}, Writes tree written → Ends rest →
      (inside (written ++ rest) (written ++ rest) = .ok (value, left) ↔
        fits tree value ∧ left = rest)) :
    Reads (toValue >>= fun _ => look >>= inside) fits where
  sound given := by
    obtain ⟨_, between, ready, behind⟩ := bind_eq_ok.1 given
    obtain ⟨_, filled, before, blank, rfl⟩ := toValue_eq_ok_iff.1 ready
    obtain ⟨c, more, rfl⟩ := List.exists_cons_of_ne_nil filled
    rw [look_then] at behind
    obtain ⟨tree, written, writes, fit, split⟩ := sound behind
    exact ⟨before, tree, written, blank, writes, fit, by rw [split]⟩
  decides blank writes ends := by
    rw [then_of_ok (toValue_run blank writes _), look_then]
    exact decides writes ends

/-! ## Texts and booleans -/

/-- The letters of a text whose characters stand for themselves; any others are left out. -/
def plainLetters (text : String) : List Letter :=
  text.toList.filterMap fun c =>
    if unescaped : c ≠ '"' ∧ c ≠ '\\' ∧ isControl c = false then some (.plain c unescaped) else none

/-- The text that letters in quotes stand for. -/
def IsText (tree : Spelling) (value : String) : Prop :=
  ∃ letters chars, tree = .text letters ∧ meaning? letters = some chars ∧
    value = String.ofList chars

/-- Letters behind a quote are read as what they mean. -/
theorem textTail_run {letters : List Letter} {rest left : List Char} {value : String} :
    textTail (letters.flatMap Letter.written ++ '"' :: rest) = .ok (value, left) ↔
      IsText (.text letters) value ∧ left = rest := by
  rw [textTail_eq_ok_iff]
  constructor
  · rintro ⟨chars, read, rfl⟩
    obtain ⟨meant, rfl⟩ := textBody_written.1 read
    exact ⟨⟨letters, chars, rfl, meant, rfl⟩, rfl⟩
  · rintro ⟨⟨_, chars, ⟨⟩, meant, rfl⟩, rfl⟩
    exact ⟨chars, textBody_written.2 ⟨meant, rfl⟩, rfl⟩

/-- What is read as a text behind a quote was letters and a quote. -/
theorem exists_letters_of_textTail {more rest : List Char} {value : String}
    (given : textTail more = .ok (value, rest)) :
    ∃ letters, IsText (.text letters) value ∧
      more = letters.flatMap Letter.written ++ '"' :: rest := by
  obtain ⟨chars, read, _⟩ := textTail_eq_ok_iff.1 given
  obtain ⟨letters, rfl⟩ := exists_letters_of_textBody read
  exact ⟨letters, (textTail_run.1 given).1, rfl⟩

/-- Texts are read. -/
theorem reads_text : Reads text IsText := by
  refine reads_of_look (fun {c more rest value} given => ?_)
    (fun {tree written rest value left} writes _ => ?_)
  · by_cases quote : c = '"'
    · subst quote
      obtain ⟨letters, isText, rfl⟩ := exists_letters_of_textTail given
      exact ⟨.text letters, _, .text letters, isText, by simp [quoted]⟩
    · exact (wrongType_ne_ok _ _ (by simpa [quote] using given)).elim
  · cases writes with
    | text letters =>
        simp only [quoted, List.cons_append, List.append_assoc, List.nil_append, moveTo_then]
        exact textTail_run
    | number numeral =>
        refine iff_of_false ?_ ?_
        · obtain ⟨c, more, split, first⟩ := numeral.written_eq_cons
          have other : c ≠ '"' := ne_of_begins first (by decide)
          simpa [split, other] using wrongType_ne_ok _ _
        · rintro ⟨⟨_, _, ⟨⟩, _⟩, _⟩
    | null | yes | no | array | object =>
        refine iff_of_false (wrongType_ne_ok _ _) ?_
        rintro ⟨⟨_, _, ⟨⟩, _⟩, _⟩

/-- The truth value that a word stands for. -/
def IsBoolean (tree : Spelling) (value : Bool) : Prop :=
  tree = .boolean value

/-- The remaining letters of a word are taken, and then its meaning is given. -/
theorem word_then_eq_ok_iff {letters text rest : List Char} {meant value : α} :
    (word letters >>= fun _ => pure meant : Reader α) text = .ok (value, rest) ↔
      text = letters ++ rest ∧ value = meant := by
  rw [bind_eq_ok]
  constructor
  · rintro ⟨_, between, taken, result⟩
    cases result
    exact ⟨word_eq_ok_iff.1 taken, rfl⟩
  · rintro ⟨rfl, rfl⟩
    exact ⟨(), rest, word_eq_ok_iff.2 rfl, rfl⟩

/-- A word that is there is taken, and its meaning is given. -/
theorem word_run {meant value : α} (letters : List Char) {rest left : List Char} :
    (word letters >>= fun _ => pure meant : Reader α) (letters ++ rest) = .ok (value, left) ↔
      value = meant ∧ left = rest := by
  rw [word_then_eq_ok_iff, List.append_cancel_left_eq]
  exact ⟨fun ⟨same, given⟩ => ⟨given, same.symm⟩, fun ⟨given, same⟩ => ⟨same.symm, given⟩⟩

/-- Truth values are read. -/
theorem reads_boolean : Reads boolean IsBoolean := by
  refine reads_of_look (fun {c more rest value} given => ?_)
    (fun {tree written rest value left} writes _ => ?_)
  · by_cases yes : c = 't'
    · subst yes
      obtain ⟨rfl, rfl⟩ := word_then_eq_ok_iff.1 given
      exact ⟨.boolean true, _, .yes, rfl, rfl⟩
    · by_cases no : c = 'f'
      · subst no
        obtain ⟨rfl, rfl⟩ := word_then_eq_ok_iff.1 given
        exact ⟨.boolean false, _, .no, rfl, rfl⟩
      · exact (wrongType_ne_ok _ _ (by simpa [yes, no] using given)).elim
  · cases writes with
    | yes => exact (word_run ['r', 'u', 'e']).trans (by simp [IsBoolean, eq_comm])
    | no => exact (word_run ['a', 'l', 's', 'e']).trans (by simp [IsBoolean, eq_comm])
    | number numeral =>
        refine iff_of_false ?_ ?_
        · obtain ⟨c, more, split, first⟩ := numeral.written_eq_cons
          have other : c ≠ 't' ∧ c ≠ 'f' :=
            ⟨ne_of_begins first (by decide), ne_of_begins first (by decide)⟩
          simpa [split, other] using wrongType_ne_ok _ _
        · rintro ⟨⟨⟩, _⟩
    | null | text | array | object =>
        refine iff_of_false (wrongType_ne_ok _ _) ?_
        rintro ⟨⟨⟩, _⟩

end

/-! ## Integers -/

/-- The number that digits stand for when they are appended to another one. -/
def appended (start : Nat) (digits : List Char) : Nat :=
  digits.foldl (fun value c => value * 10 + (c.toNat - '0'.toNat)) start

/-- Digits do not make a number smaller. -/
theorem le_appended (start : Nat) (digits : List Char) : start ≤ appended start digits := by
  induction digits generalizing start with
  | nil => exact Nat.le_refl _
  | cons c more inductionHypothesis =>
      calc start ≤ start * 10 + (c.toNat - '0'.toNat) := by omega
        _ ≤ appended start (c :: more) := inductionHypothesis _

/-- No more digits are taken than there are. -/
theorem absorb_taken_le (start : Nat) (digits : List Char) :
    (absorb start digits).2 ≤ digits.length := by
  induction digits generalizing start with
  | nil => exact Nat.le_refl _
  | cons c more inductionHypothesis =>
      rw [absorb]
      dsimp only
      split
      · exact Nat.succ_le_succ (inductionHypothesis _)
      · exact Nat.zero_le _

/-- The digits are all taken exactly if their number fits in 64 bits, and then that is the
significand. -/
theorem absorb_eq_iff {start significand : Nat} (fits : start < twoPow 64) {digits : List Char} :
    absorb start digits = (significand, digits.length) ↔
      appended start digits = significand ∧ significand < twoPow 64 := by
  induction digits generalizing start with
  | nil =>
      constructor
      · rintro ⟨⟩
        exact ⟨rfl, fits⟩
      · rintro ⟨rfl, _⟩
        rfl
  | cons c more inductionHypothesis =>
      have grows := le_appended (start * 10 + (c.toNat - '0'.toNat)) more
      rw [absorb]
      dsimp only
      by_cases next : start * 10 + (c.toNat - '0'.toNat) < twoPow 64
      · rw [if_pos next, List.length_cons]
        have later := inductionHypothesis next
        rw [Prod.ext_iff] at later ⊢
        simpa [appended] using later
      · rw [if_neg next]
        refine iff_of_false ?_ ?_
        · rintro ⟨⟩
        · rintro ⟨rfl, small⟩
          exact next (Nat.lt_of_le_of_lt grows small)

/-- The integer that a numeral stands for: its digits with their sign, without a fraction, an
exponent or a negative zero. -/
structure Numeral.IsInteger (numeral : Numeral) (integer : Int) : Prop where
  fraction : numeral.fraction = []
  exponent : numeral.exponent = none
  digits : integer = if numeral.negative then -(digitsValue numeral.whole : Int)
    else digitsValue numeral.whole
  nonzero : numeral.negative = true → integer ≠ 0

/-- Scaled numbers are no integers. -/
theorem scaled?_ne_integer {negative : Bool} {significand : Nat} {exponent value : Int} :
    scaled? negative significand exponent ≠ some (.integer value) := by
  simp [scaled?]

/-- Numbers with an exponent are no integers. -/
theorem raised?_ne_integer {negative : Bool} {significand : Nat} {exponent value : Int}
    {sign : Sign} {digits : List Char} :
    raised? negative significand exponent sign digits ≠ some (.integer value) := by
  rw [raised?]
  split
  · exact scaled?_ne_integer
  · split <;> simp

/-- Only numbers without fraction and exponent are integers. -/
theorem tail?_eq_integer_iff {negative : Bool} {significand dropped : Nat} {fraction : List Char}
    {exponent : Option Exponent} {value : Int} :
    tail? negative significand dropped fraction exponent = some (.integer value) ↔
      fraction = [] ∧ exponent = none ∧
        whole? negative significand dropped = some (.integer value) := by
  unfold tail?
  by_cases none : fraction = []
  · cases exponent <;> simp [none, raised?_ne_integer]
  · cases exponent <;> simp [none, scaled?_ne_integer, raised?_ne_integer]

/-- A number without fraction and exponent that loses no digits is the integer of its digits, unless
it is a negative zero. -/
theorem whole?_eq_integer_iff {negative : Bool} {significand : Nat} {value : Int}
    (low : -2 ^ 31 ≤ value) (high : value < 2 ^ 31) :
    whole? negative significand 0 = some (.integer value) ↔
      (value = if negative then -(significand : Int) else significand) ∧
        (negative = true → value ≠ 0) := by
  cases negative with
  | false => simp [whole?, eq_comm]
  | true =>
      have bound : twoPow 63 = 9223372036854775808 := by decide
      simp only [whole?, bound]
      by_cases beyond : significand = 0 ∨ 9223372036854775808 < significand
      · simp [beyond]
        omega
      · simp [beyond]
        omega

/-- A number of 32 bits is an integer exactly if its digits and its sign say so. -/
theorem Numeral.value?_eq_integer_iff {numeral : Numeral} {value : Int}
    (low : -2 ^ 31 ≤ value) (high : value < 2 ^ 31) :
    numeral.value? = some (.integer value) ↔ numeral.IsInteger value := by
  have bound : twoPow 64 = 18446744073709551616 := by decide
  have gathered : ∀ significand, absorb 0 numeral.whole = (significand, numeral.whole.length) ↔
      digitsValue numeral.whole = significand ∧ significand < twoPow 64 :=
    fun significand => absorb_eq_iff (by decide)
  have parts : numeral.IsInteger value ↔ numeral.fraction = [] ∧ numeral.exponent = none ∧
      (value = if numeral.negative then -(digitsValue numeral.whole : Int)
        else digitsValue numeral.whole) ∧ (numeral.negative = true → value ≠ 0) :=
    ⟨fun integer => ⟨integer.1, integer.2, integer.3, integer.4⟩,
      fun ⟨fraction, exponent, digits, nonzero⟩ => ⟨fraction, exponent, digits, nonzero⟩⟩
  rw [parts, Numeral.value?]
  dsimp only
  rw [tail?_eq_integer_iff]
  refine and_congr_right fun _ => and_congr_right fun _ => ?_
  by_cases fits : digitsValue numeral.whole < twoPow 64
  · rw [(gathered _).2 ⟨rfl, fits⟩]
    simpa using whole?_eq_integer_iff low high
  · -- The digits that are left out make the number floating point, and it is too large anyway.
    have some : numeral.whole.length - (absorb 0 numeral.whole).2 ≠ 0 := by
      have taken := absorb_taken_le 0 numeral.whole
      intro none
      have all : absorb 0 numeral.whole = ((absorb 0 numeral.whole).1, numeral.whole.length) :=
        Prod.ext rfl (by omega)
      obtain ⟨same, small⟩ := (gathered _).1 all
      exact fits (same ▸ small)
    refine iff_of_false ?_ ?_
    · rw [whole?, if_pos some]
      exact scaled?_ne_integer
    · rintro ⟨same, _⟩
      rw [bound] at fits
      split at same <;> omega

/-- The integer of 32 bits that a numeral stands for. -/
def IsInt32 (tree : Spelling) (value : Int) : Prop :=
  ∃ numeral, tree = .number numeral ∧ numeral.IsInteger value ∧ -2 ^ 31 ≤ value ∧ value < 2 ^ 31

/-- An integer fits in 32 bits exactly if it is within their range. -/
theorem fitsInt32_iff {value : Int} :
    fitsInt32 value = true ↔ -2 ^ 31 ≤ value ∧ value < 2 ^ 31 := by
  simp [fitsInt32]

/-- A number is kept exactly if it is an integer of 32 bits. -/
theorem keepInt32_eq_ok_iff {text rest : List Char} {value : Int} :
    (number >>= fun
      | .integer value =>
        if fitsInt32 value then pure value
        else stopHere (.wrongValue (.integer value) "i32")
      | .float value => stopHere (.wrongType (.float value) "i32") : Reader Int) text =
        .ok (value, rest) ↔
      number text = .ok (.integer value, rest) ∧ -2 ^ 31 ≤ value ∧ value < 2 ^ 31 := by
  rw [bind_eq_ok, ← fitsInt32_iff]
  constructor
  · rintro ⟨found | found, between, read, kept⟩
    · dsimp only at kept
      by_cases fits : fitsInt32 found = true
      · rw [if_pos fits] at kept
        cases kept
        exact ⟨read, fits⟩
      · rw [if_neg fits] at kept
        cases kept
    · cases kept
  · rintro ⟨read, fits⟩
    refine ⟨_, rest, read, ?_⟩
    dsimp only
    rw [if_pos fits]
    rfl

/-- Integers of 32 bits are read. -/
theorem reads_int32 : Reads int32 IsInt32 := by
  refine reads_of_look (fun {c more rest value} given => ?_)
    (fun {tree written rest value left} writes ends => ?_)
  · dsimp only at given
    by_cases begins : beginsNumber c = true
    · rw [if_pos begins] at given
      obtain ⟨read, low, high⟩ := keepInt32_eq_ok_iff.1 given
      obtain ⟨numeral, split, meant⟩ := exists_numeral_of_number read
      exact ⟨.number numeral, _, .number numeral,
        ⟨numeral, rfl, (numeral.value?_eq_integer_iff low high).1 meant, low, high⟩, split⟩
    · rw [if_neg begins] at given
      exact (wrongType_ne_ok _ _ given).elim
  · cases writes with
    | number numeral =>
        obtain ⟨c, more, split, first⟩ := numeral.written_eq_cons
        have begins : beginsNumber c = true := beginsNumber_iff.2 first
        have read : Json.number (numeral.written ++ rest) = .ok (.integer value, left) ↔
            numeral.value? = some (.integer value) ∧ left = rest :=
          number_run (ends.stops numeral.fraction numeral.exponent)
        rw [split, List.cons_append] at read ⊢
        dsimp only
        rw [if_pos begins]
        refine keepInt32_eq_ok_iff.trans ?_
        rw [read]
        constructor
        · rintro ⟨⟨meant, rfl⟩, low, high⟩
          exact ⟨⟨numeral, rfl, (numeral.value?_eq_integer_iff low high).1 meant, low, high⟩, rfl⟩
        · rintro ⟨⟨_, ⟨⟩, integer, low, high⟩, rfl⟩
          exact ⟨⟨(numeral.value?_eq_integer_iff low high).2 integer, rfl⟩, low, high⟩
    | null | yes | no | text | array | object =>
        refine iff_of_false (wrongType_ne_ok _ _) ?_
        rintro ⟨⟨_, ⟨⟩, _⟩, _⟩

end MetricProbe.Json
