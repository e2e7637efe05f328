import MetricProbe.Proofs.Text.Split
import MetricProbe.Proofs.Text.Utf8
import MetricProbe.Url.Form

/-!
# Reading back forms

No written name or value holds an ampersand or an equals sign, so cutting a written list at its
separators gives back its parts. Each part is read back byte by byte: plus signs are turned into
spaces before percent-encoding is undone, and a plus sign of the text itself is always
percent-encoded.
-/

namespace MetricProbe.Url

open Text (hexValue? upperHexDigit splitAll)

/-! ## Bytes -/

/-- What holds of the first 256 numbers as bytes holds of every byte. -/
theorem forall_byte {holds : UInt8 → Prop} (each : ∀ value : Fin 256, holds value.val.toUInt8)
    (byte : UInt8) : holds byte := by
  have found := each ⟨byte.toNat, byte.toNat_lt⟩
  rwa [Nat.toUInt8, UInt8.ofNat_toNat] at found

/-- A digit of percent-encoding has the value that it was made of. -/
theorem hexValue?_upperHexDigit : ∀ value < 16, hexValue? (upperHexDigit value) = some value := by
  decide

/-- A byte that is no percent sign stands for itself. -/
theorem percentDecode_cons_of_ne {byte : UInt8} (plain : byte ≠ 0x25) (rest : Bytes) :
    percentDecode (byte :: rest) = byte :: percentDecode rest := by
  rw [percentDecode.eq_def]
  split
  next same => cases same
  next same => exact absurd (List.cons.inj same).1 plain
  next same => rw [(List.cons.inj same).1, (List.cons.inj same).2]

/-- A percent sign and two digits stand for a byte. -/
theorem percentDecode_digits {byte high low : UInt8}
    (highDigit : Char.ofNat high.toNat = upperHexDigit (byte.toNat / 16))
    (lowDigit : Char.ofNat low.toNat = upperHexDigit (byte.toNat % 16)) (rest : Bytes) :
    percentDecode (0x25 :: high :: low :: rest) = byte :: percentDecode rest := by
  have bound := byte.toNat_lt
  have whole : (byte.toNat / 16 * 16 + byte.toNat % 16).toUInt8 = byte := by
    rw [Nat.div_add_mod', Nat.toUInt8, UInt8.ofNat_toNat]
  rw [percentDecode, highDigit, lowDigit, hexValue?_upperHexDigit _ (by omega),
    hexValue?_upperHexDigit _ (by omega)]
  simp only [whole]

namespace Form

/-- A plus sign that stands for a space, and every other character for itself. -/
def unspaced (c : Char) : Char := if c = '+' then ' ' else c

/-- The bytes in which a written byte arrives: itself, or a percent sign and two digits. -/
theorem bytes_writeByte : ∀ byte : UInt8,
    (byte ≠ 0x25 ∧ Utf8.encodeChars ((writeByte byte).map unspaced) = [byte]) ∨
      Utf8.encodeChars ((writeByte byte).map unspaced) =
        [0x25, (upperHexDigit (byte.toNat / 16)).toNat.toUInt8,
          (upperHexDigit (byte.toNat % 16)).toNat.toUInt8] :=
  forall_byte (by decide +kernel)

/-- A digit of percent-encoding is one byte. -/
theorem ofNat_upperHexDigit : ∀ value < 16,
    Char.ofNat (upperHexDigit value).toNat.toUInt8.toNat = upperHexDigit value := by
  decide

/-- A written byte is read back. -/
theorem percentDecode_writeByte (byte : UInt8) (rest : Bytes) :
    percentDecode (Utf8.encodeChars ((writeByte byte).map unspaced) ++ rest) =
      byte :: percentDecode rest := by
  have bound := byte.toNat_lt
  rcases bytes_writeByte byte with ⟨plain, bytes⟩ | bytes
  · rw [bytes, List.singleton_append, percentDecode_cons_of_ne plain]
  · rw [bytes]
    exact percentDecode_digits (ofNat_upperHexDigit _ (by omega))
      (ofNat_upperHexDigit _ (by omega)) rest

/-- Written bytes are read back. -/
theorem percentDecode_flatMap_writeByte (bytes : Bytes) :
    percentDecode (Utf8.encodeChars ((bytes.flatMap writeByte).map unspaced)) = bytes := by
  induction bytes with
  | nil => rfl
  | cons byte bytes inductionHypothesis =>
      rw [List.flatMap_cons, List.map_append, Utf8.encodeChars, List.flatMap_append,
        ← Utf8.encodeChars, ← Utf8.encodeChars, percentDecode_writeByte, inductionHypothesis]

/-! ## Names and values -/

/-- A written text is read back. -/
theorem readText_writeText (text : String) : readText (writeText text) = text := by
  have bytes := percentDecode_flatMap_writeByte (Utf8.encode text)
  rw [readText, writeText]
  change Utf8.decodeLossy (percentDecode (Utf8.encodeChars (List.map unspaced _))) = text
  rw [bytes, Utf8.decodeLossy_encode]

/-- A written text is made of written bytes. -/
theorem exists_mem_writeByte {text : String} {c : Char} (inside : c ∈ writeText text) :
    ∃ byte, c ∈ writeByte byte := by
  obtain ⟨byte, _, inByte⟩ := List.mem_flatMap.1 inside
  exact ⟨byte, inByte⟩

/-- No written byte holds a separator. -/
theorem all_not_separator_writeByte :
    ∀ byte : UInt8, (writeByte byte).all (fun c => c != '=' && c != '&') = true :=
  forall_byte (by decide +kernel)

/-- No written text holds a separator. -/
theorem not_separator_of_mem_writeText {text : String} :
    ∀ c ∈ writeText text, (c == '=') = false ∧ (c == '&') = false := by
  intro c inside
  obtain ⟨byte, inByte⟩ := exists_mem_writeByte inside
  have free := List.all_eq_true.1 (all_not_separator_writeByte byte) c inByte
  simpa using free

/-! ## Lists of pairs -/

/-- A written pair is read back. -/
theorem readPair_writePair (pair : String × String) : readPair (writePair pair) = pair := by
  have free : ∀ c ∈ writeText pair.1, (c == '=') = false := fun c inside =>
    (not_separator_of_mem_writeText c inside).1
  have cut : Text.splitFirst? (· == '=') (writeText pair.1 ++ '=' :: writeText pair.2) =
      some (writeText pair.1, writeText pair.2) := Text.splitFirst?_append rfl free _
  rw [readPair, writePair, cut]
  simp only [readText_writeText]

/-- A written pair has no ampersand in it. -/
theorem not_ampersand_of_mem_writePair (pair : String × String) :
    ∀ c ∈ writePair pair, (c == '&') = false := by
  intro c inside
  rcases List.mem_append.1 inside with inName | inRest
  · exact (not_separator_of_mem_writeText c inName).2
  · rcases List.mem_cons.1 inRest with rfl | inValue
    · rfl
    · exact (not_separator_of_mem_writeText c inValue).2

/-- Texts with an ampersand between them are cut apart. -/
theorem splitAll_ampersand (first second : List Char) :
    splitAll (· == '&') (first ++ '&' :: second) =
      splitAll (· == '&') first ++ splitAll (· == '&') second :=
  Text.splitAll_append rfl first second

/-- Cut at its ampersands, a written list gives back its written pairs. -/
theorem splitAll_write (pair : String × String) (more : List (String × String)) :
    splitAll (· == '&') (write (pair :: more)) = (pair :: more).map writePair := by
  induction more generalizing pair with
  | nil => exact Text.splitAll_of_free (not_ampersand_of_mem_writePair pair)
  | cons next more inductionHypothesis =>
      have first := Text.splitAll_of_free (not_ampersand_of_mem_writePair pair)
      rw [write, splitAll_ampersand, first, inductionHypothesis]
      rfl

/-- A written list is read back. -/
theorem read_write (pairs : List (String × String)) : read (write pairs) = pairs := by
  cases pairs with
  | nil => rfl
  | cons pair more =>
      have filled : ((pair :: more).map writePair).filter (!·.isEmpty) =
          (pair :: more).map writePair := by
        refine List.filter_eq_self.2 fun piece inside => ?_
        obtain ⟨_, _, rfl⟩ := List.mem_map.1 inside
        simp [writePair]
      rw [read, splitAll_write, filled, List.map_map]
      exact List.map_id'' readPair_writePair _

/-- Lists with an ampersand between them are read one after the other. -/
theorem read_append (given added : List Char) :
    read (given ++ '&' :: added) = read given ++ read added := by
  rw [read, splitAll_ampersand, List.filter_append, List.map_append]
  rfl

/-- A written list is made of written bytes and separators. -/
theorem mem_write {pairs : List (String × String)} {c : Char} (inside : c ∈ write pairs) :
    (∃ byte, c ∈ writeByte byte) ∨ c = '=' ∨ c = '&' := by
  induction pairs with
  | nil => cases inside
  | cons pair more inductionHypothesis =>
      have ofPair : c ∈ writePair pair → (∃ byte, c ∈ writeByte byte) ∨ c = '=' ∨ c = '&' := by
        intro inPair
        rcases List.mem_append.1 inPair with inName | inRest
        · exact .inl (exists_mem_writeByte inName)
        · rcases List.mem_cons.1 inRest with same | inValue
          · exact .inr (.inl same)
          · exact .inl (exists_mem_writeByte inValue)
      cases more with
      | nil => exact ofPair inside
      | cons next more =>
          rcases List.mem_append.1 inside with inPair | inRest
          · exact ofPair inPair
          · rcases List.mem_cons.1 inRest with same | inMore
            · exact .inr (.inr same)
            · exact inductionHypothesis inMore

end Form

end MetricProbe.Url
