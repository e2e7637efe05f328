import MetricProbe.Proofs.Text.Split
import MetricProbe.Proofs.Text.Utf8
import MetricProbe.Url.Basic

/-!
# What no host may hold

Blanks and control characters at the ends of an address do not count, but within it they do. A host
that ends in one is no host: the character stays what it is through every step of reading, and at
the end no name may hold it. The same goes for ports, and so for whole authorities.
-/

namespace MetricProbe.Url

open Text (hexValue? splitAll splitFirst? splitLast?)

/-! ## Percent-decoding -/

/-- A byte that is no part of an escape is kept. -/
theorem mem_percentDecode {data : Bytes} {byte : UInt8} (inside : byte ∈ data)
    (noPercent : byte ≠ 0x25) (noDigit : hexValue? (Char.ofNat byte.toNat) = none) :
    byte ∈ percentDecode data := by
  fun_induction percentDecode data with
  | case1 => cases inside
  | case2 high low rest _ _ isLow isHigh inductionHypothesis =>
      have notHigh : byte ≠ high := by
        rintro rfl
        cases noDigit.symm.trans isHigh
      have notLow : byte ≠ low := by
        rintro rfl
        cases noDigit.symm.trans isLow
      have later := List.mem_of_ne_of_mem notLow
        (List.mem_of_ne_of_mem notHigh (List.mem_of_ne_of_mem noPercent inside))
      exact List.mem_cons_of_mem _ (inductionHypothesis later)
  | case3 _ _ _ _ inductionHypothesis =>
      exact List.mem_cons_of_mem _ (inductionHypothesis (List.mem_of_ne_of_mem noPercent inside))
  | case4 _ _ _ inductionHypothesis =>
      rcases List.mem_cons.1 inside with rfl | later
      · exact List.mem_cons_self
      · exact List.mem_cons_of_mem _ (inductionHypothesis later)

/-! ## Labels beyond ASCII -/

namespace Punycode

/-- A round only adds to the output. -/
theorem prefix_writeRound (codePoint : Nat) (label : List Char) (state : State) :
    state.output <+: (writeRound codePoint label state).output := by
  induction label generalizing state with
  | nil => exact List.prefix_rfl
  | cons c label inductionHypothesis =>
      rw [writeRound, List.foldl_cons, ← writeRound]
      refine List.IsPrefix.trans ?_ (inductionHypothesis _)
      split
      · exact List.prefix_rfl
      · split
        · exact List.prefix_append _ _
        · exact List.prefix_rfl

/-- All rounds only add to the output. -/
theorem prefix_writeRounds (label : List Char) (next : Nat) (codePoints : List Nat)
    (state : State) : state.output <+: (writeRounds label next codePoints state).output := by
  induction codePoints generalizing next state with
  | nil => exact List.prefix_rfl
  | cons codePoint more inductionHypothesis =>
      rw [writeRounds]
      refine List.IsPrefix.trans ?_ (inductionHypothesis (codePoint + 1) _)
      exact prefix_writeRound codePoint label
        { state with delta := state.delta + (codePoint - next) * (state.handled + 1) }

/-- The characters of ASCII stand in a coded label as they are. -/
theorem mem_encode {label : List Char} {c : Char} (inside : c ∈ label) (ascii : c.toNat < 0x80) :
    c ∈ encode label := by
  have basic : c ∈ label.filter (·.toNat < 0x80) :=
    List.mem_filter.2 ⟨inside, decide_eq_true ascii⟩
  have filled : (label.filter (·.toNat < 0x80)).isEmpty = false := by
    cases known : label.filter (·.toNat < 0x80) with
    | nil =>
        rw [known] at basic
        cases basic
    | cons => rfl
  refine List.mem_append_right _ ((prefix_writeRounds label 0x80 _ _).subset ?_)
  rw [filled]
  exact List.mem_append_left _ basic

end Punycode

/-! ## Characters that are dropped at the ends -/

/-- A property of the characters that are dropped at the ends, from a check of all of them. -/
theorem of_isEdge {P : Char → Prop} (all : ∀ n < 33, P (Char.ofNat n)) {c : Char}
    (edge : isEdge c = true) : P c := by
  have small : c.toNat < 33 := Nat.lt_succ_of_le (of_decide_eq_true edge)
  rw [← Char.ofNat_toNat c]
  exact all c.toNat small

section

variable {c : Char}

/-- They are in ASCII. -/
theorem ascii_of_isEdge (edge : isEdge c = true) : c.toNat < 0x80 :=
  Nat.lt_of_le_of_lt (of_decide_eq_true edge) (by decide)

/-- They have no case, separate no labels, and no name may hold them. -/
theorem forbidden_of_isEdge (edge : isEdge c = true) :
    c.toLower = c ∧ (c == '.') = false ∧ forbiddenInName c = true :=
  @of_isEdge (fun c => c.toLower = c ∧ (c == '.') = false ∧ forbiddenInName c = true)
    (by decide) c edge

/-- They are no digits and no part of an escape. -/
theorem plain_of_isEdge (edge : isEdge c = true) :
    c.toNat.toUInt8 ≠ 0x25 ∧ Char.ofNat c.toNat.toUInt8.toNat = c ∧ hexValue? c = none ∧
      c.isDigit = false :=
  @of_isEdge (fun c => c.toNat.toUInt8 ≠ 0x25 ∧ Char.ofNat c.toNat.toUInt8.toNat = c ∧
    hexValue? c = none ∧ c.isDigit = false) (by decide) c edge

/-- They are none of the characters that stay. -/
theorem ne_of_isEdge {d : Char} (edge : isEdge c = true) (stays : isEdge d = false) : c ≠ d := by
  rintro rfl
  cases stays.symm.trans edge

/-- A character of one of the pieces is in the text that they are joined to. -/
theorem mem_intercalate {separator piece : List Char} {pieces : List (List Char)}
    (isPiece : piece ∈ pieces) (inside : c ∈ piece) : c ∈ List.intercalate separator pieces := by
  induction pieces with
  | nil => cases isPiece
  | cons first pieces inductionHypothesis =>
      cases pieces with
      | nil =>
          obtain rfl := List.mem_singleton.1 isPiece
          simpa [List.intercalate] using inside
      | cons second pieces =>
          rw [List.intercalate_cons_cons]
          rcases List.mem_cons.1 isPiece with rfl | isPiece
          · exact List.mem_append_left _ (List.mem_append_left _ inside)
          · exact List.mem_append_right _ (inductionHypothesis isPiece)

/-- They stay in a name when it is brought to its written form. -/
theorem mem_asciiName {name : List Char} (inside : c ∈ name) (edge : isEdge c = true) :
    c ∈ asciiName name := by
  obtain ⟨lower, noPoint, _⟩ := forbidden_of_isEdge edge
  have lowered : c ∈ name.map Char.toLower := List.mem_map.2 ⟨c, inside, lower⟩
  obtain ⟨label, isLabel, inLabel⟩ :=
    @Text.exists_mem_splitAll (· == '.') _ _ lowered noPoint
  refine mem_intercalate (List.mem_map.2 ⟨label, isLabel, rfl⟩) ?_
  split
  · exact inLabel
  · exact Punycode.mem_encode inLabel (ascii_of_isEdge edge)

/-- They stay in a text when its escapes are read. -/
theorem mem_decoded {text : List Char} (inside : c ∈ text) (edge : isEdge c = true) :
    c ∈ (Utf8.decodeLossy (percentDecode (Utf8.encodeChars text))).toList := by
  obtain ⟨noPercent, same, noDigit, _⟩ := plain_of_isEdge edge
  have byte := Utf8.mem_encodeChars inside (ascii_of_isEdge edge)
  have kept := mem_percentDecode byte noPercent (same.symm ▸ noDigit)
  have small : c.toNat.toUInt8.toNat < 0x80 := by
    rw [Utf8.toNat_toUInt8 (Nat.lt_trans (ascii_of_isEdge edge) (by decide))]
    exact ascii_of_isEdge edge
  exact same ▸ Utf8.mem_decodeLossy kept small

/-! ## Authorities -/

/-- What stands behind another character has the same last one. -/
theorem mem_getLast?_of_append_cons {before after : List Char} {d : Char}
    (last : c ∈ (before ++ d :: after).getLast?) (different : c ≠ d) : c ∈ after.getLast? := by
  cases after with
  | nil =>
      rw [List.getLast?_concat, Option.mem_some] at last
      exact absurd last.symm different
  | cons next after => simpa using last

/-- No host ends in such a character. -/
theorem host?_of_getLast? {text : List Char} (last : c ∈ text.getLast?)
    (edge : isEdge c = true) : host? text = none := by
  unfold host?
  split
  next rest =>
    have lastOfRest : c ∈ rest.getLast? :=
      @mem_getLast?_of_append_cons c [] rest '[' last (ne_of_isEdge edge rfl)
    rw [Option.mem_def.1 lastOfRest]
    split
    next bracket =>
      cases bracket
      cases edge
    next => rfl
  next =>
    have named := mem_asciiName (mem_decoded (List.mem_of_mem_getLast? last) edge) edge
    have forbidden : (asciiName (Utf8.decodeLossy
        (percentDecode (Utf8.encodeChars text))).toList).any forbiddenInName = true :=
      List.any_eq_true.2 ⟨c, named, (forbidden_of_isEdge edge).2.2⟩
    simp only [forbidden, Bool.or_true, if_true]

/-- No port holds such a character. -/
theorem port?_of_mem {scheme : Scheme} {digits : List Char} (inside : c ∈ digits)
    (edge : isEdge c = true) : port? scheme (some digits) = none := by
  have filled : digits.isEmpty = false := by
    cases digits with
    | nil => cases inside
    | cons => rfl
  have notAll : (!digits.all Char.isDigit) = true := by
    rw [Bool.not_eq_true', List.all_eq_false]
    exact ⟨c, inside, by simp [(plain_of_isEdge edge).2.2.2]⟩
  simp only [port?, filled, notAll, Bool.false_eq_true, if_false, if_true]

/-- A text that ends in such a character has it in its port, or has no port. -/
theorem splitPort_of_getLast? {text : List Char} (last : c ∈ text.getLast?)
    (edge : isEdge c = true) :
    (∃ host digits, splitPort text = (host, some digits) ∧ c ∈ digits) ∨
      splitPort text = (text, none) := by
  unfold splitPort
  split
  next rest =>
    split
    next host port cut =>
      obtain ⟨bracket, _, parts⟩ := Text.eq_append_of_splitFirst? cut
      rw [parts, ← List.singleton_append, ← List.append_assoc] at last
      have inside := mem_getLast?_of_append_cons last (ne_of_isEdge edge rfl)
      exact .inl ⟨_, port, rfl, List.mem_of_mem_getLast? inside⟩
    next host cut =>
      obtain ⟨bracket, isBracket, parts⟩ := Text.eq_append_of_splitFirst? cut
      obtain rfl := beq_iff_eq.1 isBracket
      rw [parts] at last
      cases mem_getLast?_of_append_cons last (ne_of_isEdge edge rfl)
    next => exact .inr rfl
  next =>
    split
    next host port cut =>
      obtain ⟨colon, isColon, parts⟩ := Text.eq_append_of_splitFirst? cut
      obtain rfl := beq_iff_eq.1 isColon
      rw [parts] at last
      have inside := mem_getLast?_of_append_cons last (ne_of_isEdge edge rfl)
      exact .inl ⟨_, port, rfl, List.mem_of_mem_getLast? inside⟩
    next => exact .inr rfl

/-- An authority that ends in such a character names nothing. -/
theorem authority?_of_getLast? {scheme : Scheme} {text : List Char} (last : c ∈ text.getLast?)
    (edge : isEdge c = true) : authority? scheme text = none := by
  have place : c ∈ ((splitLast? (· == '@') text).getD ([], text)).2.getLast? := by
    cases cut : splitLast? (· == '@') text with
    | none => exact last
    | some parts =>
        obtain ⟨info, place⟩ := parts
        obtain ⟨mark, isMark, whole⟩ := Text.eq_append_of_splitLast? cut
        obtain rfl := beq_iff_eq.1 isMark
        rw [whole] at last
        exact mem_getLast?_of_append_cons last (ne_of_isEdge edge rfl)
  unfold authority?
  generalize (splitLast? (· == '@') text).getD ([], text) = parts at place
  obtain ⟨info, text⟩ := parts
  rcases splitPort_of_getLast? place edge with ⟨host, digits, cut, inside⟩ | cut
  · simp [cut, port?_of_mem inside edge]
  · simp [cut, host?_of_getLast? place edge]

end

end MetricProbe.Url
