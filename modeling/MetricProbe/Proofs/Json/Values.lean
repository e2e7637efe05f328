import MetricProbe.Proofs.Json.Skipping
import Mathlib.Data.List.Forall2

/-!
# Readers of values

A reader `Reads` what fits if it reads nothing but values that fit, and if on a value that is there
it gives exactly what fits. So one relation between values and results says all that can be said
about when a reader succeeds, and what is written in which way does not matter.

The readers of arrays and optional values keep this up: they read what their parts read. What a
reader complains about is not described.
-/

namespace MetricProbe.Json

open Reader
open Decimal (isDigit)

/-- A reader gives what fits a value, and reads nothing else. -/
structure Reads {α : Type} (reader : Reader α) (fits : Spelling → α → Prop) : Prop where
  /-- What is read was a value behind space, and the result fits it. -/
  sound : ∀ {text rest value}, reader text = .ok (value, rest) →
    ∃ before tree written, Blank before ∧ Writes tree written ∧ fits tree value ∧
      text = before ++ (written ++ rest)
  /-- A value that is there is read whole and gives what fits it, or the reader stops. -/
  decides : ∀ {before tree written rest value left}, Blank before → Writes tree written →
    Ends rest → (reader (before ++ (written ++ rest)) = .ok (value, left) ↔
      fits tree value ∧ left = rest)

section

variable {α : Type} {text rest left : List Char}

/-- What is read may be put into another form. -/
theorem Reads.map {β : Type} {reader : Reader α} {fits : Spelling → α → Prop}
    (reads : Reads reader fits) (change : α → β) :
    Reads (reader >>= fun value => pure (change value))
      fun tree changed => ∃ value, fits tree value ∧ changed = change value where
  sound given := by
    obtain ⟨value, between, read, result⟩ := bind_eq_ok.1 given
    cases result
    obtain ⟨before, tree, written, blank, writes, fit, split⟩ := reads.sound read
    exact ⟨before, tree, written, blank, writes, ⟨value, fit, rfl⟩, split⟩
  decides {before tree written rest changed left} blank writes ends := by
    rw [bind_eq_ok]
    constructor
    · rintro ⟨value, between, read, result⟩
      obtain ⟨fit, rfl⟩ := (reads.decides blank writes ends).1 read
      cases result
      exact ⟨⟨value, fit, rfl⟩, rfl⟩
    · rintro ⟨⟨value, fit, rfl⟩, rfl⟩
      exact ⟨value, left, (reads.decides blank writes ends).2 ⟨fit, rfl⟩, rfl⟩

/-- What fits may be said in another way. -/
theorem Reads.congr {reader : Reader α} {fits others : Spelling → α → Prop}
    (reads : Reads reader fits) (same : ∀ tree value, fits tree value ↔ others tree value) :
    Reads reader others := by
  have equal : fits = others := by
    funext tree value
    exact propext (same tree value)
  exact equal ▸ reads

/-- A value of any kind may be skipped. -/
theorem reads_skip : Reads skip fun _ _ => True where
  sound given := by
    obtain ⟨before, tree, written, blank, writes, split⟩ := (took _).1 _ _ given
    exact ⟨before, tree, written, blank, writes, trivial, split⟩
  decides {before tree written rest value left} blank writes ends := by
    have taken : skip (before ++ (written ++ rest)) = .ok ((), rest) :=
      takesUpTo _ tree written writes (Nat.le_refl _) _ before rest
        (by simp only [List.length_append]; omega) blank ends
    rw [taken]
    simp [eq_comm]

/-! ## Scalars -/

/-- A value of another kind than expected is no value. -/
theorem wrongType_ne_ok (expected : String) (out : α × List Char) :
    wrongType expected text ≠ .ok out := by
  intro given
  obtain ⟨_, _, _, stopped⟩ := bind_eq_ok.1 given
  cases stopped

/-- Exactly the digits and the minus sign begin numbers. -/
theorem beginsNumber_iff {c : Char} : beginsNumber c = true ↔ c = '-' ∨ isDigit c = true := by
  simp [beginsNumber]

/-- The floating-point number that a written number stands for. -/
def IsFloat (tree : Spelling) (value : Binary64) : Prop :=
  ∃ numeral number, tree = .number numeral ∧ numeral.value? = some number ∧
    value = number.toBinary64

/-- Numbers are read as floating point. -/
theorem reads_float : Reads float IsFloat where
  sound {text rest value} given := by
    obtain ⟨_, between, ready, behind⟩ := bind_eq_ok.1 given
    obtain ⟨_, filled, before, blank, rfl⟩ := toValue_eq_ok_iff.1 ready
    obtain ⟨c, more, rfl⟩ := List.exists_cons_of_ne_nil filled
    simp only [look_then] at behind
    by_cases begins : beginsNumber c = true
    · rw [if_pos begins] at behind
      obtain ⟨number, after, read, result⟩ := bind_eq_ok.1 behind
      obtain ⟨numeral, split, meant⟩ := exists_numeral_of_number read
      cases result
      exact ⟨before, .number numeral, numeral.written, blank, .number numeral,
        ⟨numeral, number, rfl, meant, rfl⟩, by rw [split]⟩
    · rw [if_neg begins] at behind
      exact (wrongType_ne_ok _ _ behind).elim
  decides {before tree written rest value left} blank writes ends := by
    rw [float, then_of_ok (toValue_run blank writes rest), look_then]
    cases writes with
    | number numeral =>
        obtain ⟨c, more, split, first⟩ := numeral.written_eq_cons
        have begins : beginsNumber c = true := beginsNumber_iff.2 first
        have read : ∀ number after, Json.number (numeral.written ++ rest) = .ok (number, after) ↔
            numeral.value? = some number ∧ after = rest :=
          fun number after => number_run (ends.stops numeral.fraction numeral.exponent)
        rw [split, List.cons_append] at read ⊢
        simp only [begins, if_true]
        constructor
        · intro given
          obtain ⟨number, after, found, result⟩ := bind_eq_ok.1 given
          obtain ⟨meant, rfl⟩ := (read number after).1 found
          cases result
          exact ⟨⟨numeral, number, rfl, meant, rfl⟩, rfl⟩
        · rintro ⟨⟨_, number, ⟨⟩, meant, rfl⟩, rfl⟩
          exact bind_eq_ok.2 ⟨number, left, (read number left).2 ⟨meant, rfl⟩, rfl⟩
    | null | yes | no | text | array | object =>
        refine iff_of_false (wrongType_ne_ok _ _) ?_
        rintro ⟨⟨_, _, ⟨⟩, _⟩, _⟩

/-! ## Values that may be null -/

/-- Null stands for nothing, and any other value for what fits it. -/
inductive OrNull (fits : Spelling → α → Prop) : Spelling → Option α → Prop where
  | null : OrNull fits .null none
  | some {tree : Spelling} {value : α} (filled : tree ≠ .null) (inner : fits tree value) :
      OrNull fits tree (some value)

/-- Nothing but null begins as null does. -/
theorem Writes.null_of_cons {tree : Spelling} {more : List Char}
    (writes : Writes tree ('n' :: more)) :
    tree = .null ∧ more = ['u', 'l', 'l'] := by
  generalize same : 'n' :: more = text at writes
  cases writes with
  | null =>
      cases same
      exact ⟨rfl, rfl⟩
  | number numeral =>
      obtain ⟨c, digits, split, first⟩ := numeral.written_eq_cons
      rw [split] at same
      exact (ne_of_begins first (by decide) (List.cons.inj same).1.symm).elim
  | yes | no | text | array | object => cases same

/-- A value that may be null is nothing where null stands, and elsewhere what is read. -/
theorem optional_eq_ok_iff {reader : Reader α} {value : Option α} :
    optional reader text = .ok (value, rest) ↔
      (text.dropWhile isSpace = 'n' :: 'u' :: 'l' :: 'l' :: rest ∧ value = none) ∨
        ∃ inner, value = some inner ∧ (∀ more, text.dropWhile isSpace ≠ 'n' :: more) ∧
          reader (text.dropWhile isSpace) = .ok (inner, rest) := by
  have mapped : ∀ found, (reader >>= fun inner => (pure (some inner) : Reader (Option α))) found =
      .ok (value, rest) ↔ ∃ inner, value = some inner ∧ reader found = .ok (inner, rest) := by
    intro found
    rw [bind_eq_ok]
    constructor
    · rintro ⟨inner, between, read, result⟩
      cases result
      exact ⟨inner, rfl, read⟩
    · rintro ⟨inner, rfl, read⟩
      exact ⟨inner, rest, read, rfl⟩
  simp only [optional, skipSpace_then, look_then]
  generalize text.dropWhile isSpace = found
  rcases found with _ | ⟨c, more⟩
  · simp [mapped]
  · by_cases null : c = 'n'
    · subst null
      simp only [moveTo_then]
      constructor
      · intro given
        obtain ⟨_, between, taken, result⟩ := bind_eq_ok.1 given
        obtain rfl := word_eq_ok_iff.1 taken
        cases result
        exact .inl ⟨rfl, rfl⟩
      · rintro (⟨same, rfl⟩ | ⟨_, _, other, _⟩)
        · cases same
          exact bind_eq_ok.2 ⟨(), rest, word_eq_ok_iff.2 rfl, rfl⟩
        · exact (other more rfl).elim
    · simp [null, mapped]

/-- What may be null is read if the rest is. -/
theorem reads_optional {reader : Reader α} {fits : Spelling → α → Prop}
    (reads : Reads reader fits) : Reads (optional reader) (OrNull fits) where
  sound {text rest value} given := by
    rcases optional_eq_ok_iff.1 given with ⟨found, rfl⟩ | ⟨inner, rfl, other, read⟩
    · obtain ⟨_, before, blank, split⟩ := dropWhile_eq_cons_iff.1 found
      exact ⟨before, .null, _, blank, .null, .null, split⟩
    · obtain ⟨lead, tree, written, blankLead, writes, fit, found⟩ := reads.sound read
      obtain ⟨before, blank, split⟩ := exists_blank_of_dropWhile blankLead found
      refine ⟨before, tree, written, blank, writes, .some ?_ fit, split⟩
      rintro rfl
      cases writes
      exact other _ (split ▸ Writes.null.dropWhile blank rest)
  decides {before tree written rest value left} blank writes ends := by
    rw [optional_eq_ok_iff, writes.dropWhile blank rest]
    have read := fun inner => @Reads.decides _ _ _ reads [] tree written rest inner left blank_nil
      writes ends
    rw [List.nil_append] at read
    simp only [read]
    constructor
    · rintro (⟨found, rfl⟩ | ⟨inner, rfl, other, fit, rfl⟩)
      · obtain ⟨c, more, rfl, _⟩ := writes.exists_cons
        obtain ⟨rfl, behind⟩ := List.cons.inj found
        obtain ⟨rfl, rfl⟩ := writes.null_of_cons
        cases behind
        exact ⟨.null, rfl⟩
      · refine ⟨.some ?_ fit, rfl⟩
        rintro rfl
        cases writes
        exact other _ rfl
    · rintro ⟨fit, rfl⟩
      cases fit with
      | null =>
          cases writes
          exact .inl ⟨rfl, rfl⟩
      | some filled fit =>
          refine .inr ⟨_, rfl, ?_, fit, rfl⟩
          intro more same
          obtain ⟨c, tail, rfl, _⟩ := writes.exists_cons
          cases same
          exact filled writes.null_of_cons.1

/-! ## Arrays -/

/-- What follows an item of a list up to its end continues no number. -/
theorem Continued.ends {β : Type} {writes : β → List Char → Prop} {items : List β}
    {later : List Char} (continued : Continued writes items later) {close : Char}
    (closing : isDigit close = false ∧ close ≠ '.' ∧ close ≠ 'e' ∧ close ≠ 'E') :
    Ends (later ++ close :: rest) := by
  cases continued with
  | done blank => exact ends_of_blank blank closing
  | more blankAfter =>
      rw [List.append_assoc]
      exact ends_of_blank blankAfter (by decide)

/-- What is ahead in a list of which nothing has been read yet, or of which an item has. -/
def Ahead {β : Type} (writes : β → List Char → Prop) : Bool → List β → List Char → Prop
  | true => Listed writes
  | false => Continued writes

/-- There is a further element where a value stands. -/
theorem Writes.ne_bracket {tree : Spelling} {written : List Char} (writes : Writes tree written)
    (rest : List Char) : ∃ c more, c ≠ ']' ∧ written ++ rest = c :: more := by
  obtain ⟨c, more, rfl, _, other⟩ := writes.exists_cons
  exact ⟨c, more ++ rest, other, rfl⟩

/-- The elements up to the end of an array are none, or one and those behind it. -/
theorem elements_eq_ok_iff {reader : Reader α} {fuel : Nat} {first : Bool} {values : List α} :
    elements reader (fuel + 1) first text = .ok (values, left) ↔
      (nextElement first text = .ok (false, left) ∧ values = []) ∨
        ∃ between value after others, nextElement first text = .ok (true, between) ∧
          reader between = .ok (value, after) ∧
            elements reader fuel false after = .ok (others, left) ∧ values = value :: others := by
  rw [elements, bind_eq_ok]
  constructor
  · rintro ⟨_ | _, between, more, behind⟩
    · cases behind
      exact .inl ⟨more, rfl⟩
    · obtain ⟨value, after, read, rest⟩ := bind_eq_ok.1 behind
      obtain ⟨others, _, later, result⟩ := bind_eq_ok.1 rest
      cases result
      exact .inr ⟨between, value, after, others, more, read, later, rfl⟩
  · rintro (⟨done, rfl⟩ | ⟨between, value, after, others, more, read, later, rfl⟩)
    · exact ⟨false, left, done, rfl⟩
    · exact ⟨true, between, more, bind_eq_ok.2 ⟨value, after, read,
        bind_eq_ok.2 ⟨others, left, later, rfl⟩⟩⟩

variable {reader : Reader α} {fits : Spelling → α → Prop}

/-- Before the end of an array no element is ahead. -/
theorem Ahead.nextElement_nil {first : Bool} {inner : List Char}
    (ahead : Ahead Writes first [] inner) :
    nextElement first (inner ++ ']' :: rest) = .ok (false, ']' :: rest) := by
  have blank : Blank inner := by
    cases first <;> cases ahead <;> assumption
  exact nextElement_eq_ok_false_iff.2 ⟨rest, dropWhile_mark blank rfl, rfl⟩

/-- The element that is ahead comes next, and the others behind it. -/
theorem Ahead.nextElement_cons {first : Bool} {item : Spelling} {items : List Spelling}
    {inner : List Char} (ahead : Ahead Writes first (item :: items) inner) (rest : List Char) :
    ∃ written later, Writes item written ∧ Continued Writes items later ∧
      later.length < inner.length ∧
        nextElement first (inner ++ ']' :: rest) = .ok (true, written ++ (later ++ ']' :: rest)) := by
  cases first with
  | true =>
      cases ahead with
      | @some before written later _ _ blank writes continued =>
          have positive := writes.length_pos
          refine ⟨written, later, writes, continued, by simp only [List.length_append]; omega, ?_⟩
          simp only [List.append_assoc]
          exact nextElement_first_eq_ok_true_iff.2 ⟨writes.dropWhile blank _, writes.ne_bracket _⟩
  | false =>
      cases ahead with
      | @more after lead written later _ _ blankAfter blankLead writes continued =>
          refine ⟨written, later, writes, continued,
            by simp only [List.length_append, List.length_cons]; omega, ?_⟩
          simp only [List.append_assoc, List.cons_append]
          exact nextElement_later_eq_ok_true_iff.2 ⟨_, dropWhile_mark blankAfter rfl,
            writes.dropWhile blankLead _, writes.ne_bracket _⟩

/-- Where no element comes next the array ends, and none was ahead. -/
theorem exists_ahead_of_no_element {first : Bool} {between : List Char}
    (done : nextElement first text = .ok (false, between)) :
    ∃ inner rest, Ahead Writes first [] inner ∧ text = inner ++ ']' :: rest ∧
      between = ']' :: rest := by
  obtain ⟨rest, found, rfl⟩ := nextElement_eq_ok_false_iff.1 done
  obtain ⟨_, inner, blank, rfl⟩ := dropWhile_eq_cons_iff.1 found
  refine ⟨inner, rest, ?_, rfl, rfl⟩
  cases first with
  | true => exact .none blank
  | false => exact .done blank

/-- Where an element comes next it was ahead, and the others behind it. -/
theorem exists_ahead_of_element {first : Bool} {between lead written later : List Char}
    {item : Spelling} {items : List Spelling}
    (next : nextElement first text = .ok (true, between)) (blankLead : Blank lead)
    (writes : Writes item written) (continued : Continued Writes items later)
    (split : between = lead ++ (written ++ (later ++ ']' :: rest))) :
    ∃ inner, Ahead Writes first (item :: items) inner ∧ text = inner ++ ']' :: rest := by
  cases first with
  | true =>
      obtain ⟨rfl, _⟩ := nextElement_first_eq_ok_true_iff.1 next
      obtain ⟨before, blank, rfl⟩ := exists_blank_of_dropWhile blankLead split
      exact ⟨_, .some blank writes continued, by simp⟩
  | false =>
      obtain ⟨more, comma, rfl, _⟩ := nextElement_later_eq_ok_true_iff.1 next
      obtain ⟨before, blank, rfl⟩ := exists_blank_of_dropWhile blankLead split
      obtain ⟨_, gap, blankGap, rfl⟩ := dropWhile_eq_cons_iff.1 comma
      exact ⟨_, .more blankGap blank writes continued, by simp⟩

/-- The elements that are ahead are read up to the end of the array. -/
theorem Reads.elements_run (reads : Reads reader fits) {first : Bool} {items : List Spelling}
    {inner : List Char} (ahead : Ahead Writes first items inner) {fuel : Nat}
    (enough : inner.length < fuel) {values : List α} :
    elements reader fuel first (inner ++ ']' :: rest) = .ok (values, left) ↔
      List.Forall₂ fits items values ∧ left = ']' :: rest := by
  obtain ⟨fuel, rfl⟩ := Nat.exists_eq_succ_of_ne_zero (by omega : fuel ≠ 0)
  induction items generalizing first inner fuel values left with
  | nil =>
      rw [elements_eq_ok_iff, ahead.nextElement_nil, List.forall₂_nil_left_iff]
      simp [and_comm, eq_comm]
  | cons item items inductionHypothesis =>
      obtain ⟨written, later, writes, continued, shorter, next⟩ := ahead.nextElement_cons rest
      obtain ⟨fuel, rfl⟩ := Nat.exists_eq_succ_of_ne_zero (by omega : fuel ≠ 0)
      have read : ∀ value after, reader (written ++ (later ++ ']' :: rest)) = .ok (value, after) ↔
          fits item value ∧ after = later ++ ']' :: rest :=
        fun value after => reads.decides blank_nil writes (continued.ends (by decide))
      have behind : ∀ others left, elements reader (fuel + 1) false (later ++ ']' :: rest) =
          .ok (others, left) ↔ List.Forall₂ fits items others ∧ left = ']' :: rest := by
        have ahead : Ahead Writes false items later := continued
        exact fun others left => inductionHypothesis ahead fuel (by omega)
      rw [elements_eq_ok_iff, next, List.forall₂_cons_left_iff]
      constructor
      · rintro (⟨⟨⟩, _⟩ | ⟨between, value, after, others, ⟨⟩, given, rest, rfl⟩)
        obtain ⟨fit, rfl⟩ := (read value after).1 given
        obtain ⟨fitting, rfl⟩ := (behind others left).1 rest
        exact ⟨⟨value, others, fit, fitting, rfl⟩, rfl⟩
      · rintro ⟨⟨value, others, fit, fitting, rfl⟩, rfl⟩
        exact .inr ⟨_, value, _, others, rfl, (read value _).2 ⟨fit, rfl⟩,
          (behind others _).2 ⟨fitting, rfl⟩, rfl⟩

/-- What is read as elements up to the end of an array was that. -/
theorem Reads.exists_elements (reads : Reads reader fits) {fuel : Nat} {first : Bool}
    {values : List α} (given : elements reader fuel first text = .ok (values, left)) :
    ∃ items inner rest, Ahead Writes first items inner ∧ List.Forall₂ fits items values ∧
      text = inner ++ ']' :: rest ∧ left = ']' :: rest := by
  induction fuel generalizing first text values with
  | zero => cases given
  | succ fuel inductionHypothesis =>
      rcases elements_eq_ok_iff.1 given with ⟨done, rfl⟩ | ⟨between, value, after, others, next,
        read, behind, rfl⟩
      · obtain ⟨inner, rest, ahead, rfl, rfl⟩ := exists_ahead_of_no_element done
        exact ⟨[], inner, rest, ahead, .nil, rfl, rfl⟩
      · obtain ⟨lead, item, written, blankLead, writes, fit, split⟩ := reads.sound read
        obtain ⟨items, later, rest, continued, fitting, rfl, rfl⟩ := inductionHypothesis behind
        obtain ⟨inner, ahead, rfl⟩ := exists_ahead_of_element next blankLead writes continued split
        exact ⟨item :: items, inner, rest, ahead, .cons fit fitting, rfl, rfl⟩

/-- A list whose items fit the values one by one. -/
def ListOf (fits : Spelling → α → Prop) (tree : Spelling) (values : List α) : Prop :=
  ∃ items, tree = .array items ∧ List.Forall₂ fits items values

/-- An array is read if its elements are. -/
theorem reads_array {element : Nat → Reader α} {depth : Nat} (deep : 1 < depth)
    (reads : Reads (element (depth - 1)) fits) : Reads (array element depth) (ListOf fits) where
  sound {text rest values} given := by
    obtain ⟨_, between, ready, behind⟩ := bind_eq_ok.1 given
    obtain ⟨_, filled, before, blank, rfl⟩ := toValue_eq_ok_iff.1 ready
    obtain ⟨c, more, rfl⟩ := List.exists_cons_of_ne_nil filled
    rw [look_then] at behind
    by_cases bracket : c = '['
    · subst bracket
      obtain ⟨inside, given, ended⟩ := bracketed_eq_ok_iff.1 (enter_eq_ok_iff.1 behind).2
      obtain ⟨items, inner, after, listed, fitting, rfl, rfl⟩ := reads.exists_elements given
      cases endArray_eq_ok_iff.1 ended
      exact ⟨before, .array items, _, blank, .array listed, ⟨items, rfl, fitting⟩, by simp⟩
    · exact (wrongType_ne_ok _ _ (by simpa [bracket] using behind)).elim
  decides {before tree written rest values left} blank writes ends := by
    rw [array, then_of_ok (toValue_run blank writes rest), look_then]
    cases writes with
    | @array items inner listed =>
        simp only [List.cons_append, List.append_assoc, List.nil_append]
        have ahead : Ahead Writes true items inner := listed
        have read : ∀ values between, allElements (element (depth - 1)) (inner ++ ']' :: rest) =
            .ok (values, between) ↔ List.Forall₂ fits items values ∧ between = ']' :: rest :=
          fun values between => reads.elements_run ahead (by simp only [List.length_append]; omega)
        rw [enter_eq_ok_iff, bracketed_eq_ok_iff]
        constructor
        · rintro ⟨_, inside, given, ended⟩
          obtain ⟨fitting, rfl⟩ := (read values inside).1 given
          cases endArray_eq_ok_iff.1 ended
          exact ⟨⟨items, rfl, fitting⟩, rfl⟩
        · rintro ⟨⟨_, ⟨⟩, fitting⟩, rfl⟩
          exact ⟨deep, _, (read values _).2 ⟨fitting, rfl⟩, endArray_eq_ok_iff.2 rfl⟩
    | number numeral =>
        refine iff_of_false ?_ ?_
        · obtain ⟨c, more, split, first⟩ := numeral.written_eq_cons
          have other : c ≠ '[' := ne_of_begins first (by decide)
          simpa [split, other] using wrongType_ne_ok _ _
        · rintro ⟨⟨_, ⟨⟩, _⟩, _⟩
    | null | yes | no | text | object =>
        refine iff_of_false (wrongType_ne_ok _ _) ?_
        rintro ⟨⟨_, ⟨⟩, _⟩, _⟩

/-- Null stands for the empty list, and an array for the values that its items fit. -/
inductive ListOrNull (fits : Spelling → α → Prop) : Spelling → List α → Prop where
  | null : ListOrNull fits .null []
  | list {items : List Spelling} {values : List α} (fitting : List.Forall₂ fits items values) :
      ListOrNull fits (.array items) values

/-- An array for which null may stand is read if its elements are. -/
theorem reads_arrayOrNull {element : Nat → Reader α} {depth : Nat} (deep : 1 < depth)
    (reads : Reads (element (depth - 1)) fits) :
    Reads (arrayOrNull element depth) (ListOrNull fits) := by
  refine ((reads_optional (reads_array deep reads)).map (·.getD [])).congr fun tree values => ?_
  constructor
  · rintro ⟨value, fit, rfl⟩
    cases fit with
    | null => exact .null
    | some filled inner =>
        obtain ⟨items, rfl, fitting⟩ := inner
        exact .list fitting
  · intro fit
    cases fit with
    | null => exact ⟨none, .null, rfl⟩
    | list fitting => exact ⟨some values, .some nofun ⟨_, rfl, fitting⟩, rfl⟩

/-! ## Whole texts -/

/-- A text holds a value exactly if the reader of documents gives it. -/
theorem decode_eq_ok_iff_document {read : Nat → Reader α} {body : String} {value : α} :
    decode read body = .ok value ↔ ∃ rest, document read body.toList = .ok (value, rest) := by
  rw [decode]
  cases document read body.toList with
  | ok given => simp [Prod.ext_iff]
  | error stop => simp

/-- The value of a text that is a way to write something is what fits that. -/
theorem Reads.decode_document_iff {read : Nat → Reader α} (reads : Reads (read depthLimit) fits)
    {body : String} {tree : Spelling} {value : α} (written : IsDocument body tree) :
    decode read body = .ok value ↔ fits tree value := by
  obtain ⟨before, written, after, blank, writes, blankAfter, split⟩ := written
  have spaced : after.dropWhile isSpace = [] := List.dropWhile_eq_nil_iff.2 blankAfter
  have ends : Ends after := ends_of_space blankAfter
  rw [decode_eq_ok_iff_document, split]
  constructor
  · rintro ⟨rest, given⟩
    obtain ⟨_, between, taken, behind⟩ := bind_eq_ok.1 given
    obtain ⟨fit, rfl⟩ := (reads.decides blank writes ends).1 taken
    simp only [skipSpace_then, look_then, spaced] at behind
    cases behind
    exact fit
  · intro fit
    have taken := (reads.decides blank writes ends).2 ⟨fit, rfl⟩
    exact ⟨[], bind_eq_ok.2 ⟨value, after, taken, by simp [spaced]⟩⟩

/-- A text holds a value exactly if it is a way to write something that the value fits. -/
theorem Reads.decode_eq_ok_iff {read : Nat → Reader α} (reads : Reads (read depthLimit) fits)
    {body : String} {value : α} :
    decode read body = .ok value ↔ ∃ tree, IsDocument body tree ∧ fits tree value := by
  constructor
  · intro decoded
    obtain ⟨rest, given⟩ := decode_eq_ok_iff_document.1 decoded
    obtain ⟨_, between, taken, behind⟩ := bind_eq_ok.1 given
    obtain ⟨before, tree, written, blank, writes, fit, split⟩ := reads.sound taken
    simp only [skipSpace_then, look_then] at behind
    cases spaced : between.dropWhile isSpace with
    | cons c more => simp [spaced] at behind
    | nil =>
        rw [spaced] at behind
        cases behind
        have blankAfter : Blank between := fun c inside => by
          simpa using List.dropWhile_eq_nil_iff.1 spaced c inside
        exact ⟨tree, ⟨before, written, between, blank, writes, blankAfter, split⟩, fit⟩
  · rintro ⟨tree, written, fit⟩
    exact (reads.decode_document_iff written).2 fit

/-! ## Fitting lists -/

/-- Every value of a list that fits is the value of an item. -/
theorem exists_fitting {items : List Spelling} {values : List α}
    (fitting : List.Forall₂ fits items values) {value : α} (inside : value ∈ values) :
    ∃ item, fits item value := by
  induction fitting with
  | nil => cases inside
  | cons fit _ inductionHypothesis =>
      rcases List.mem_cons.1 inside with rfl | later
      · exact ⟨_, fit⟩
      · exact inductionHypothesis later

/-- One item of a list may be exchanged for another that fits the same. -/
theorem fitting_congr {earlier later : List Spelling} {item other : Spelling}
    (same : ∀ value, fits item value ↔ fits other value) {values : List α} :
    List.Forall₂ fits (earlier ++ item :: later) values ↔
      List.Forall₂ fits (earlier ++ other :: later) values := by
  induction earlier generalizing values with
  | nil => simp only [List.nil_append, List.forall₂_cons_left_iff, same]
  | cons first earlier inductionHypothesis =>
      simp only [List.cons_append, List.forall₂_cons_left_iff, inductionHypothesis]

end

end MetricProbe.Json
