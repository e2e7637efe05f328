import Mathlib.Data.List.Basic
import Mathlib.Data.List.Induction
import Mathlib.Tactic.Linarith
import Mathlib.Tactic.Ring
import MetricProbe.Http.Base64

/-!
# Reading back base 64

What bytes look like in base 64, and that they are read back. `Spells` is the law of the format: all
characters together carry the bits of all bytes together, whatever the groups are in which an
encoder takes them, and the sign of equality makes up for the characters that a last group lacks.
The law leaves no choice, so the text of an encoder is the only one that bytes have.
-/

namespace MetricProbe.Base64

variable {a b c : UInt8} {bytes rest : Bytes} {chars : List Char} {padding value : Nat}

/-! ## The format -/

/-- The characters that stand for six bits each, in the order of their values. -/
def alphabet : List Char :=
  "ABCDEFGHIJKLMNOPQRSTUVWXYZabcdefghijklmnopqrstuvwxyz0123456789+/".toList

/-- The number that digits of a base make up, the first one counting most. -/
def number (base : Nat) (digits : List Nat) : Nat :=
  digits.foldl (fun value digit => value * base + digit) 0

/-- The number that the bits of characters make up, six each. -/
def charsNumber (chars : List Char) : Nat := number 64 (chars.map alphabet.idxOf)

/-- The number that the bits of bytes make up, eight each. -/
def bytesNumber (bytes : Bytes) : Nat := number 256 (bytes.map UInt8.toNat)

/-- Characters carry the bits of bytes, and two zeros more for every sign of equality that makes
them complete groups of four. -/
structure Spells (chars : List Char) (padding : Nat) (bytes : Bytes) : Prop where
  letters : ∀ c ∈ chars, c ∈ alphabet
  few : padding < 3
  groups : 4 ∣ chars.length + padding
  length : chars.length * 6 = bytes.length * 8 + padding * 2
  number : charsNumber chars = bytesNumber bytes * 4 ^ padding

/-- A text is the standard form of bytes in base 64, with padding. -/
def IsPadded (text : List Char) (bytes : Bytes) : Prop :=
  ∃ chars padding, text = chars ++ List.replicate padding '=' ∧ Spells chars padding bytes

/-! ## Digits -/

/-- A digit stands in the alphabet at the place of its value. -/
theorem idxOf_digit : ∀ value < 64, digit value ∈ alphabet ∧ alphabet.idxOf (digit value) = value := by
  decide +kernel

/-- A digit is read back, and is no sign of equality. -/
theorem value?_digit : ∀ value < 64, value? (digit value) = some value ∧ digit value ≠ '=' := by
  decide +kernel

/-- Digits behind others leave these their number, as many places further up. -/
theorem number_append (base : Nat) (first last : List Nat) :
    number base (first ++ last) = number base first * base ^ last.length + number base last := by
  have continued (start : Nat) : last.foldl (fun value digit => value * base + digit) start =
      start * base ^ last.length + number base last := by
    unfold number
    induction last generalizing start with
    | nil => simp
    | cons digit last inductionHypothesis =>
        rw [List.foldl_cons, List.foldl_cons, inductionHypothesis,
          inductionHypothesis (0 * base + digit), List.length_cons, pow_succ]
        ring
  rw [number, List.foldl_append]
  exact continued (number base first)

/-- The number of digits. -/
theorem charsNumber_digits {values : List Nat} (small : ∀ value ∈ values, value < 64) :
    charsNumber (values.map digit) = number 64 values := by
  have same : ∀ value ∈ values, (alphabet.idxOf ∘ digit) value = id value := fun value inside =>
    (idxOf_digit value (small value inside)).2
  rw [charsNumber, List.map_map, List.map_congr_left same, List.map_id]

/-- Digits are letters of the alphabet. -/
theorem mem_alphabet_of_mem_digits {values : List Nat} (small : ∀ value ∈ values, value < 64) :
    ∀ c ∈ values.map digit, c ∈ alphabet :=
  List.forall_mem_map.2 fun value inside => (idxOf_digit value (small value inside)).1

/-! ## Encoding -/

/-- The values of the four characters of three bytes. -/
def group (a b c : UInt8) : List Nat :=
  let n := a.toNat * 65536 + b.toNat * 256 + c.toNat
  [n / 262144, n / 4096 % 64, n / 64 % 64, n % 64]

/-- Every value of a group is that of a character. -/
theorem group_lt (a b c : UInt8) : ∀ value ∈ group a b c, value < 64 := by
  have first := a.toNat_lt
  have second := b.toNat_lt
  have third := c.toNat_lt
  simp only [group, List.forall_mem_cons]
  refine ⟨by omega, by omega, by omega, by omega, List.forall_mem_nil _⟩

/-- The bits of a number, six at a time. -/
theorem number_sextets (value : Nat) :
    number 64 [value / 262144, value / 4096 % 64, value / 64 % 64, value % 64] = value := by
  have second : value / 4096 = value / 64 / 64 := (Nat.div_div_eq_div_mul value 64 64).symm
  have first : value / 262144 = value / 64 / 64 / 64 := by
    rw [← second, Nat.div_div_eq_div_mul]
  simp only [number, List.foldl_cons, List.foldl_nil, Nat.zero_mul, Nat.zero_add, first, second,
    Nat.div_add_mod']

/-- The characters of a group carry the bits of its bytes. -/
theorem number_group (a b c : UInt8) : number 64 (group a b c) = bytesNumber [a, b, c] := by
  rw [group, number_sextets]
  simp only [bytesNumber, number, List.map_cons, List.map_nil, List.foldl_cons, List.foldl_nil]
  omega

/-- The bits of one byte are in the first two characters of a group. -/
theorem group_one (a : UInt8) : group a 0 0 = (group a 0 0).take 2 ++ [0, 0] := by
  simp only [group, UInt8.toNat_zero, List.take_succ_cons, List.take_zero, List.cons_append,
    List.nil_append, List.cons.injEq, and_true, true_and]
  omega

/-- The bits of two bytes are in the first three characters of a group. -/
theorem group_two (a b : UInt8) : group a b 0 = (group a b 0).take 3 ++ [0] := by
  simp only [group, UInt8.toNat_zero, List.take_succ_cons, List.take_zero, List.cons_append,
    List.nil_append, List.cons.injEq, and_true, true_and]
  omega

/-- A group goes before what is spelled already. -/
theorem Spells.group (spells : Spells chars padding rest) (a b c : UInt8) :
    Spells ((Base64.group a b c).map digit ++ chars) padding (a :: b :: c :: rest) where
  letters := List.forall_mem_append.2 ⟨mem_alphabet_of_mem_digits (group_lt a b c), spells.letters⟩
  few := spells.few
  groups := by
    have groups := spells.groups
    rw [List.length_append, List.length_map]
    change 4 ∣ 4 + chars.length + padding
    omega
  length := by
    have length := spells.length
    rw [List.length_append, List.length_map, List.length_cons, List.length_cons, List.length_cons]
    change (4 + chars.length) * 6 = _
    omega
  number := by
    -- The characters of the rest carry as many bits as its bytes and the padding together.
    have bits : 64 ^ chars.length = 256 ^ rest.length * 4 ^ padding := by
      rw [show 64 = 2 ^ 6 from rfl, show 256 = 2 ^ 8 from rfl, show 4 = 2 ^ 2 from rfl,
        ← Nat.pow_mul, ← Nat.pow_mul, ← Nat.pow_mul, ← Nat.pow_add]
      have length := spells.length
      congr 1
      omega
    have whole : a :: b :: c :: rest = [a, b, c] ++ rest := rfl
    have number := spells.number
    rw [charsNumber, bytesNumber] at number ⊢
    rw [whole, List.map_append, List.map_append, number_append, number_append, List.length_map,
      List.length_map, number, bits, ← charsNumber, charsNumber_digits (group_lt a b c),
      number_group, bytesNumber]
    ring

/-- Bytes are encoded in the standard form. -/
theorem isPadded_encode (bytes : Bytes) : IsPadded (encode bytes) bytes := by
  induction bytes using encode.induct with
  | case1 => exact ⟨[], 0, rfl, ⟨List.forall_mem_nil _, by decide, by decide, rfl, rfl⟩⟩
  | case2 a =>
      have small := a.toNat_lt
      have digits : ∀ value ∈ (group a 0 0).take 2, value < 64 := fun value inside =>
        group_lt a 0 0 value (List.mem_of_mem_take inside)
      have whole : encode [a] = ((group a 0 0).take 2).map digit ++ List.replicate 2 '=' := by
        simp [encode, group, List.replicate]
      refine ⟨_, 2, whole, mem_alphabet_of_mem_digits digits, by decide, by simp [group],
        by simp [group], ?_⟩
      have bits := number_group a 0 0
      rw [group_one, number_append] at bits
      simp only [bytesNumber, number, List.map_cons, List.map_nil, List.foldl_cons, List.foldl_nil,
        List.length_cons, List.length_nil, UInt8.toNat_zero] at bits
      rw [charsNumber_digits digits]
      simp only [bytesNumber, number, List.map_cons, List.map_nil, List.foldl_cons, List.foldl_nil]
      omega
  | case3 a b =>
      have first := a.toNat_lt
      have second := b.toNat_lt
      have digits : ∀ value ∈ (group a b 0).take 3, value < 64 := fun value inside =>
        group_lt a b 0 value (List.mem_of_mem_take inside)
      have whole : encode [a, b] = ((group a b 0).take 3).map digit ++ List.replicate 1 '=' := by
        simp [encode, group, List.replicate]
      refine ⟨_, 1, whole, mem_alphabet_of_mem_digits digits, by decide, by simp [group],
        by simp [group], ?_⟩
      have bits := number_group a b 0
      rw [group_two, number_append] at bits
      simp only [bytesNumber, number, List.map_cons, List.map_nil, List.foldl_cons, List.foldl_nil,
        List.length_cons, List.length_nil, UInt8.toNat_zero] at bits
      rw [charsNumber_digits digits]
      simp only [bytesNumber, number, List.map_cons, List.map_nil, List.foldl_cons, List.foldl_nil]
      omega
  | case4 a b c rest inductionHypothesis =>
      obtain ⟨chars, padding, whole, spells⟩ := inductionHypothesis
      refine ⟨(group a b c).map digit ++ chars, padding, ?_, spells.group a b c⟩
      rw [List.append_assoc, ← whole]
      simp [encode, group]

/-! ## One form for all bytes -/

/-- Digits are settled by how many they are and by their number. -/
theorem eq_of_number_eq {base : Nat} {first second : List Nat}
    (length : first.length = second.length) (small : ∀ digit ∈ first, digit < base)
    (smallToo : ∀ digit ∈ second, digit < base)
    (same : number base first = number base second) : first = second := by
  induction first using List.reverseRecOn generalizing second with
  | nil => exact (List.length_eq_zero_iff.1 length.symm).symm
  | append_singleton digits digit inductionHypothesis =>
      rcases List.eq_nil_or_concat' second with rfl | ⟨others, other, rfl⟩
      · simp at length
      · have positive : 0 < base := Nat.zero_lt_of_lt (small digit (by simp))
        have last : digit < base := small digit (by simp)
        have lastToo : other < base := smallToo other (by simp)
        rw [number_append, number_append, List.length_singleton, List.length_singleton, pow_one,
          Nat.mul_comm, Nat.mul_comm (number base others)] at same
        have value : number base [digit] = digit := by simp [number]
        have valueToo : number base [other] = other := by simp [number]
        rw [value, valueToo] at same
        have sameDigit : digit = other := by
          have remainders := congrArg (· % base) same
          simpa [Nat.mul_add_mod, Nat.mod_eq_of_lt, last, lastToo] using remainders
        subst sameDigit
        have sameNumber : number base digits = number base others :=
          Nat.eq_of_mul_eq_mul_left positive (Nat.add_right_cancel same)
        rw [inductionHypothesis (by simpa using length)
          (fun d inside => small d (List.mem_append_left _ inside))
          (fun d inside => smallToo d (List.mem_append_left _ inside)) sameNumber]

/-- Letters are settled by their places in the alphabet. -/
theorem eq_of_map_idxOf_eq {first second : List Char} (letters : ∀ c ∈ first, c ∈ alphabet)
    (lettersToo : ∀ c ∈ second, c ∈ alphabet)
    (same : first.map alphabet.idxOf = second.map alphabet.idxOf) : first = second := by
  have back {chars : List Char} (all : ∀ c ∈ chars, c ∈ alphabet) :
      (chars.map alphabet.idxOf).map (alphabet.getD · 'A') = chars := by
    rw [List.map_map]
    refine (List.map_congr_left fun c inside => ?_).trans (List.map_id chars)
    have place := List.idxOf_lt_length_iff.2 (all c inside)
    simp [List.getD_eq_getElem?_getD, List.getElem?_eq_getElem place]
  rw [← back letters, same, back lettersToo]

/-- Every text in the standard form of bytes is the one that encodes them. -/
theorem IsPadded.eq_encode {text : List Char} (isPadded : IsPadded text bytes) :
    text = encode bytes := by
  obtain ⟨chars, padding, rfl, spells⟩ := isPadded
  obtain ⟨others, paddingToo, whole, spellsToo⟩ := isPadded_encode bytes
  -- The number of bytes settles how many signs of equality are needed.
  obtain ⟨quarters, groups⟩ := spells.groups
  obtain ⟨quartersToo, groupsToo⟩ := spellsToo.groups
  have length := spells.length
  have lengthToo := spellsToo.length
  have few := spells.few
  have fewToo := spellsToo.few
  have samePadding : padding = paddingToo := by omega
  subst samePadding
  have place (c : Char) (isLetter : c ∈ alphabet) : alphabet.idxOf c < 64 :=
    List.idxOf_lt_length_iff.2 isLetter
  have values : chars.map alphabet.idxOf = others.map alphabet.idxOf := by
    refine @eq_of_number_eq 64 _ _ ?_ ?_ ?_ (spells.number.trans spellsToo.number.symm)
    · rw [List.length_map, List.length_map]
      omega
    · exact List.forall_mem_map.2 fun c inside => place c (spells.letters c inside)
    · exact List.forall_mem_map.2 fun c inside => place c (spellsToo.letters c inside)
  rw [whole, eq_of_map_idxOf_eq spells.letters spellsToo.letters values]

/-! ## Decoding -/

/-- A character of the last six bits is read back, and is no sign of equality. -/
theorem value?_digit_mod (value : Nat) :
    value? (digit (value % 64)) = some (value % 64) ∧ digit (value % 64) ≠ '=' :=
  value?_digit _ (Nat.mod_lt _ (by decide))

/-- The character of the first of twenty-four bits is read back. -/
theorem value?_digit_div {value : Nat} (small : value < 2 ^ 24) :
    value? (digit (value / 262144)) = some (value / 262144) :=
  (value?_digit _ (by omega)).1

/-- The bits of a number, six at a time. -/
theorem sextets (value : Nat) :
    value / 262144 * 262144 + value / 4096 % 64 * 4096 + value / 64 % 64 * 64 + value % 64 =
      value := by
  have bits := number_sextets value
  simp only [number, List.foldl_cons, List.foldl_nil] at bits
  linarith

/-- Without bits in the last twelve places, two times six are enough. -/
theorem sextets_two {value : Nat} (zeros : value % 4096 = 0) :
    value / 262144 * 262144 + value / 4096 % 64 * 4096 = value := by
  omega

/-- Without bits in the last six places, three times six are enough. -/
theorem sextets_three {value : Nat} (zeros : value % 64 = 0) :
    value / 262144 * 262144 + value / 4096 % 64 * 4096 + value / 64 % 64 * 64 = value := by
  omega

/-- The bits of bytes that stand one behind the other, eight at a time. -/
theorem octets (a b c : UInt8) {value : Nat}
    (bits : a.toNat * 65536 + b.toNat * 256 + c.toNat = value) :
    value < 2 ^ 24 ∧ value / 65536 = a.toNat ∧ value / 256 % 256 = b.toNat ∧
      value % 256 = c.toNat := by
  have first := a.toNat_lt
  have second := b.toNat_lt
  have third := c.toNat_lt
  omega

/-- Encoded bytes are read back. -/
theorem decode?_encode (bytes : Bytes) : decode? (encode bytes) = some bytes := by
  induction bytes using encode.induct with
  | case1 => rfl
  | case2 a =>
      rw [encode]
      generalize bits : a.toNat * 65536 = value
      obtain ⟨small, byte, _⟩ := octets a 0 0 (by simpa using bits)
      have whole := @sextets_two value (by omega)
      rw [decode?, value?_digit_div small, (value?_digit_mod _).1]
      dsimp only [Option.bind_eq_bind, Option.bind_some]
      rw [whole, byte, Nat.toUInt8_eq, UInt8.ofNat_toNat, Option.pure_def]
  | case3 a b =>
      rw [encode]
      generalize bits : a.toNat * 65536 + b.toNat * 256 = value
      obtain ⟨small, first, second, _⟩ := octets a b 0 (by simpa using bits)
      have whole := @sextets_three value (by omega)
      rw [decode?, value?_digit_div small, (value?_digit_mod _).1, (value?_digit_mod _).1]
      · dsimp only [Option.bind_eq_bind, Option.bind_some]
        rw [whole, first, second, Nat.toUInt8_eq, Nat.toUInt8_eq, UInt8.ofNat_toNat,
          UInt8.ofNat_toNat, Option.pure_def]
      · exact (value?_digit_mod _).2
  | case4 a b c rest inductionHypothesis =>
      rw [encode]
      generalize bits : a.toNat * 65536 + b.toNat * 256 + c.toNat = value
      obtain ⟨small, first, second, third⟩ := octets a b c bits
      have last := (value?_digit_mod value).2
      rw [decode?, value?_digit_div small, (value?_digit_mod _).1, (value?_digit_mod _).1,
        (value?_digit_mod _).1, inductionHypothesis]
      · dsimp only [Option.bind_eq_bind, Option.bind_some]
        rw [sextets, first, second, third, Nat.toUInt8_eq, Nat.toUInt8_eq, Nat.toUInt8_eq,
          UInt8.ofNat_toNat, UInt8.ofNat_toNat, UInt8.ofNat_toNat, Option.pure_def]
      · exact fun _ same => absurd same last
      · exact fun same => absurd same last

/-- Different bytes have different encodings. -/
theorem encode_injective {first second : Bytes} (same : encode first = encode second) :
    first = second := by
  have read := decode?_encode first
  rw [same, decode?_encode] at read
  exact (Option.some.inj read).symm

end MetricProbe.Base64
