import Mathlib.Data.List.TakeWhile
import MetricProbe.Proofs.Text.Utf8

/-!
# Places in bytes

A place in a text can be given as a number of bytes. A text can be cut there if a character begins
there or the text ends there, and at no other place. Two ways of finding a place are shown to find
such places: counting bytes of ASCII from the beginning, and looking for a character.
-/

namespace MetricProbe.Text

/-- The number of the bytes of a text. -/
def byteLength (text : List Char) : Nat := (Utf8.encodeChars text).length

/-- The parts of a text before and behind a place. There are none if the place is within a character
or beyond the text. -/
def splitAtByte? : List Char → Nat → Option (List Char × List Char)
  | [], place => if place = 0 then some ([], []) else none
  | c :: text, place =>
    if place = 0 then some ([], c :: text)
    else if place < byteLength [c] then none
    else (splitAtByte? text (place - byteLength [c])).map fun (before, after) => (c :: before, after)

/-- How many bytes of a kind a text begins with. -/
def leadingBytes (kind : UInt8 → Bool) (text : List Char) : Nat :=
  ((Utf8.encodeChars text).takeWhile kind).length

/-- The place of the first character of a kind. -/
def findByte? (kind : Char → Bool) : List Char → Option Nat
  | [] => none
  | c :: text => if kind c then some 0 else (findByte? kind text).map (byteLength [c] + ·)

variable {text before after : List Char}

/-! ## Lengths -/

/-- The bytes of a text are those of its parts. -/
@[simp] theorem byteLength_append (before after : List Char) :
    byteLength (before ++ after) = byteLength before + byteLength after := by
  simp [byteLength, Utf8.encodeChars]

/-- The bytes of a text are those of its first character and of the others. -/
theorem byteLength_cons (c : Char) (text : List Char) :
    byteLength (c :: text) = byteLength [c] + byteLength text := byteLength_append [c] text

/-- No character is without bytes. -/
theorem byteLength_singleton_pos (c : Char) : 0 < byteLength [c] := by
  simp only [byteLength, Utf8.encodeChars, List.flatMap_singleton, Utf8.encodeChar]
  split_ifs <;> exact Nat.zero_lt_succ _

/-- Only the empty text has no bytes. -/
theorem byteLength_pos (filled : text ≠ []) : 0 < byteLength text := by
  obtain ⟨c, text, rfl⟩ := List.exists_cons_of_ne_nil filled
  rw [byteLength_cons]
  exact Nat.add_pos_left (byteLength_singleton_pos c) _

/-- A text that ends another has no more bytes. -/
theorem byteLength_le_of_suffix (ends : after <:+ text) : byteLength after ≤ byteLength text := by
  obtain ⟨before, rfl⟩ := ends
  rw [byteLength_append]
  exact Nat.le_add_left _ _

/-- A character of ASCII is one byte. -/
theorem byteLength_of_ascii (ascii : ∀ c ∈ text, c.toNat < 0x80) :
    byteLength text = text.length := by
  induction text with
  | nil => rfl
  | cons c text inductionHypothesis =>
      obtain ⟨first, others⟩ := List.forall_mem_cons.1 ascii
      have single : byteLength [c] = 1 := by
        simp [byteLength, Utf8.encodeChars, Utf8.encodeChar, first]
      rw [byteLength_cons, single, inductionHypothesis others, List.length_cons, Nat.add_comm]

/-! ## Cuts -/

/-- A text can be cut behind each of its beginnings. -/
theorem splitAtByte?_append (before after : List Char) :
    splitAtByte? (before ++ after) (byteLength before) = some (before, after) := by
  induction before with
  | nil => cases after <;> rfl
  | cons c before inductionHypothesis =>
      have positive := byteLength_singleton_pos c
      rw [List.cons_append, splitAtByte?, byteLength_cons, if_neg (by omega), if_neg (by omega),
        Nat.add_sub_cancel_left, inductionHypothesis]
      rfl

/-- A text can be cut only between its characters. -/
theorem splitAtByte?_eq_some_iff {place : Nat} :
    splitAtByte? text place = some (before, after) ↔
      text = before ++ after ∧ byteLength before = place := by
  constructor
  · intro cut
    induction text generalizing before place with
    | nil =>
        obtain ⟨rfl, same⟩ := Option.ite_none_right_eq_some.1 cut
        cases same
        exact ⟨rfl, rfl⟩
    | cons c text inductionHypothesis =>
        unfold splitAtByte? at cut
        split_ifs at cut with start within
        · cases cut
          exact ⟨rfl, start.symm⟩
        · obtain ⟨⟨first, last⟩, cutRest, same⟩ := Option.map_eq_some_iff.1 cut
          cases same
          obtain ⟨rfl, length⟩ := inductionHypothesis cutRest
          refine ⟨rfl, ?_⟩
          rw [byteLength_cons, length]
          omega
  · rintro ⟨rfl, rfl⟩
    exact splitAtByte?_append before after

/-- Within the micro sign there is no place for a cut. -/
example : splitAtByte? ['\u00b5', 's'] 1 = none := by decide

/-! ## Places -/

/-- The place of the first character of a kind, or else the end, is behind all that comes before
it. -/
theorem getD_findByte? (kind : Char → Bool) (text : List Char) :
    (findByte? kind text).getD (byteLength text) = byteLength (text.takeWhile (!kind ·)) := by
  induction text with
  | nil => rfl
  | cons c text inductionHypothesis =>
      rw [findByte?, List.takeWhile_cons]
      cases kind c with
      | true => rfl
      | false =>
          change ((findByte? kind text).map (byteLength [c] + ·)).getD (byteLength (c :: text)) =
            byteLength (c :: text.takeWhile (!kind ·))
          rw [byteLength_cons c text, byteLength_cons c (text.takeWhile _), ← inductionHypothesis]
          cases findByte? kind text <;> rfl

/-- The bytes of ASCII of a kind that a text begins with are those of its first characters. -/
theorem leadingBytes_eq {kind : UInt8 → Bool} {test : Char → Bool}
    (alike : ∀ c : Char, c.toNat < 0x80 → kind c.toNat.toUInt8 = test c)
    (byteBelow : ∀ byte, kind byte = true → byte.toNat < 0x80)
    (below : ∀ c, test c = true → c.toNat < 0x80) (text : List Char) :
    leadingBytes kind text = byteLength (text.takeWhile test) := by
  have ascii : ∀ c ∈ text.takeWhile test, c.toNat < 0x80 := fun c inside =>
    below c (List.mem_takeWhile_imp inside)
  rw [byteLength_of_ascii ascii, leadingBytes]
  clear ascii
  induction text with
  | nil => rfl
  | cons c text inductionHypothesis =>
      rw [Utf8.encodeChars, List.flatMap_cons, ← Utf8.encodeChars, List.takeWhile_cons]
      by_cases first : c.toNat < 0x80
      · have single : Utf8.encodeChar c = [c.toNat.toUInt8] := if_pos first
        rw [single, List.singleton_append, List.takeWhile_cons, alike c first]
        cases test c with
        | true => exact congrArg (· + 1) inductionHypothesis
        | false => rfl
      · -- Neither the character nor its first byte is of the kind.
        have other : test c = false := Bool.eq_false_iff.2 fun same => first (below c same)
        obtain ⟨lead, more, bytes, beyond⟩ := Utf8.exists_lead (Nat.not_lt.1 first)
        have stops : kind lead = false :=
          Bool.eq_false_iff.2 fun same => Nat.not_lt.2 beyond (byteBelow lead same)
        rw [bytes, List.cons_append, List.takeWhile_cons, stops, other]
        rfl

end MetricProbe.Text
