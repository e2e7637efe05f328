import MetricProbe.Proofs.Json.Punctuation

/-!
# Reading texts

The letters of a text are read up to the closing quote exactly if they mean something; where their
meaning is not asked for, any letters are taken. What is read was letters and a closing quote in
both cases.
-/

namespace MetricProbe.Json

/-- A result that is mapped is a result. -/
theorem map_eq_ok_iff {ε α β : Type} {f : α → β} {result : Except ε α} {value : β} :
    result.map f = .ok value ↔ ∃ inner, result = .ok inner ∧ f inner = value := by
  cases result <;> simp [Except.map]

/-- The letter that begins four digits is no short escape. -/
theorem ne_u_of_short {c meant : Char} (known : shortEscape? c = some meant) : c ≠ 'u' := by
  rintro rfl
  cases known

/-! ## One letter -/

section

variable {rest left : List Char} {chars : List Char}

/-- A plain character is read as it is. -/
theorem textBody_plain {c : Char} (unescaped : c ≠ '"' ∧ c ≠ '\\' ∧ isControl c = false) :
    textBody (c :: rest) = .ok (chars, left) ↔
      ∃ tail, textBody rest = .ok (tail, left) ∧ c :: tail = chars := by
  obtain ⟨quote, backslash, printable⟩ := unescaped
  rw [textBody]
  · simp [printable, map_eq_ok_iff]
  all_goals simp_all

/-- A short escape is read as what it means. -/
theorem textBody_short {c meant : Char} (known : shortEscape? c = some meant) :
    textBody ('\\' :: c :: rest) = .ok (chars, left) ↔
      ∃ tail, textBody rest = .ok (tail, left) ∧ meant :: tail = chars := by
  have other := ne_u_of_short known
  rw [textBody]
  · simp [known, map_eq_ok_iff]
  all_goals simp_all

/-- Four digits of a character that needs no second escape are read as it. -/
theorem textBody_unit {a b c d : Char} {value : Nat} (digits : hexUnit? a b c d = some value)
    (single : isTrailing value = false) (alone : isLeading value = false) :
    textBody ('\\' :: 'u' :: a :: b :: c :: d :: rest) = .ok (chars, left) ↔
      ∃ tail, textBody rest = .ok (tail, left) ∧ Char.ofNat value :: tail = chars := by
  rw [textBody]
  simp [digits, single, alone, map_eq_ok_iff]

/-- A trailing surrogate must not come first. -/
theorem textBody_trailing {a b c d : Char} {value : Nat} (digits : hexUnit? a b c d = some value)
    (trailing : isTrailing value = true) :
    textBody ('\\' :: 'u' :: a :: b :: c :: d :: rest) ≠ .ok (chars, left) := by
  rw [textBody]
  simp [digits, trailing]

/-- A leading surrogate and a trailing one are read as one character. -/
theorem textBody_pair {a b c d e f g h : Char} {first second : Nat}
    (digits : hexUnit? a b c d = some first) (single : isTrailing first = false)
    (leading : isLeading first = true) (more : hexUnit? e f g h = some second)
    (trailing : isTrailing second = true) :
    textBody ('\\' :: 'u' :: a :: b :: c :: d :: '\\' :: 'u' :: e :: f :: g :: h :: rest) =
        .ok (chars, left) ↔
      ∃ tail, textBody rest = .ok (tail, left) ∧
        Char.ofNat (0x10000 + (first - 0xD800) * 0x400 + (second - 0xDC00)) :: tail = chars := by
  rw [textBody]
  simp [digits, single, leading, more, trailing, map_eq_ok_iff]

end

/-- A leading surrogate must not stand alone. -/
theorem textBody_lone {a b c d : Char} {first : Nat} (digits : hexUnit? a b c d = some first)
    (single : isTrailing first = false) (leading : isLeading first = true) {letters : List Letter}
    (lone : ∀ e f g h second known more,
      letters = .unit e f g h second known :: more → isTrailing second = false)
    {rest left chars : List Char} :
    textBody ('\\' :: 'u' :: a :: b :: c :: d ::
        (letters.flatMap Letter.written ++ '"' :: rest)) ≠ .ok (chars, left) := by
  rw [textBody]
  rcases letters with _ | ⟨letter, more⟩
  · simp [digits, single, leading]
  · cases letter with
    | plain e unescaped =>
        simp [Letter.written, digits, single, leading, unescaped.2.1]
    | short e meant known =>
        simp [Letter.written, digits, single, leading, ne_u_of_short known]
    | unit e f g h second known =>
        simp [Letter.written, digits, single, leading, known, lone e f g h second known more rfl]

/-- Letters are read up to the closing quote exactly if they mean something. -/
theorem textBody_written {letters : List Letter} {rest left chars : List Char} :
    textBody (letters.flatMap Letter.written ++ '"' :: rest) = .ok (chars, left) ↔
      meaning? letters = some chars ∧ left = rest := by
  induction letters using meaning?.induct generalizing chars with
  | case1 => simp [meaning?, eq_comm]
  | case2 c unescaped more inductionHypothesis =>
      simp only [List.flatMap_cons, Letter.written, List.cons_append, List.nil_append,
        textBody_plain unescaped, inductionHypothesis, meaning?, Option.map_eq_some_iff]
      grind
  | case3 c meant known more inductionHypothesis =>
      simp only [List.flatMap_cons, Letter.written, List.cons_append, List.nil_append,
        textBody_short known, inductionHypothesis, meaning?, Option.map_eq_some_iff]
      grind
  | case4 a b c d first digits more trailing =>
      refine iff_of_false (textBody_trailing digits trailing) ?_
      rw [meaning?.eq_def]
      simp [trailing]
  | case5 a b c d first digits single leading e f g h second known more trailing
      inductionHypothesis =>
      rw [Bool.not_eq_true] at single
      rw [meaning?.eq_def]
      simp only [List.flatMap_cons, Letter.written, List.cons_append, List.nil_append,
        textBody_pair digits single leading known trailing, inductionHypothesis, single, leading,
        trailing, Bool.false_eq_true, if_false, if_true, Option.map_eq_some_iff]
      grind
  | case6 a b c d first digits single leading e f g h second known more other =>
      rw [Bool.not_eq_true] at single other
      refine iff_of_false (textBody_lone digits single leading ?_) ?_
      · rintro _ _ _ _ _ _ _ ⟨⟩
        exact other
      · rw [meaning?.eq_def]
        simp [single, leading, other]
  | case7 a b c d first digits more single leading alone =>
      rw [Bool.not_eq_true] at single
      refine iff_of_false (textBody_lone digits single leading ?_) ?_
      · intro e f g h second known more same
        exact (alone e f g h second known more same).elim
      · rw [meaning?.eq_def]
        simp only [single, leading, Bool.false_eq_true, if_false, if_true]
        simp
  | case8 a b c d first digits more single alone inductionHypothesis =>
      rw [Bool.not_eq_true] at single alone
      rw [meaning?.eq_def]
      simp only [List.flatMap_cons, Letter.written, List.cons_append, List.nil_append,
        textBody_unit digits single alone, inductionHypothesis, single, alone,
        Bool.false_eq_true, if_false, Option.map_eq_some_iff]
      grind

/-- A character that neither closes a text nor begins an escape, and is no control character, stands
for itself. -/
theorem unescaped_of_neither {c : Char} {rest : List Char} (quote : c = '"' → False)
    (last : c = '\\' → rest = [] → False)
    (backslash : ∀ d others, c = '\\' → rest = d :: others → False)
    (printable : ¬ isControl c = true) : c ≠ '"' ∧ c ≠ '\\' ∧ isControl c = false := by
  refine ⟨quote, fun same => ?_, by simpa using printable⟩
  cases rest with
  | nil => exact last same rfl
  | cons d others => exact backslash d others same rfl

/-- A text with one more character ends where the text without it does. -/
theorem exists_tail_of_map {text rest chars : List Char} {c : Char}
    (given : (textBody text).map (fun (tail, rest) => (c :: tail, rest)) = .ok (chars, rest)) :
    ∃ tail, textBody text = .ok (tail, rest) := by
  obtain ⟨⟨tail, left⟩, read, same⟩ := map_eq_ok_iff.1 given
  cases same
  exact ⟨tail, read⟩

/-- What is read as a text was letters and a closing quote. -/
theorem exists_letters_of_textBody {text rest chars : List Char}
    (given : textBody text = .ok (chars, rest)) :
    ∃ letters : List Letter, text = letters.flatMap Letter.written ++ '"' :: rest := by
  fun_induction textBody text generalizing chars with
  | case2 =>
    cases given
    exact ⟨[], rfl⟩
  | case9 a b c d first digits single leading e f g h more second known trailing inductionHypothesis =>
    obtain ⟨tail, read⟩ := exists_tail_of_map given
    obtain ⟨letters, rfl⟩ := inductionHypothesis read
    exact ⟨.unit a b c d first digits :: .unit e f g h second known :: letters, rfl⟩
  | case14 a b c d more value digits single alone inductionHypothesis =>
    obtain ⟨tail, read⟩ := exists_tail_of_map given
    obtain ⟨letters, rfl⟩ := inductionHypothesis read
    exact ⟨.unit a b c d value digits :: letters, rfl⟩
  | case17 c more _ _ meant known inductionHypothesis =>
    obtain ⟨tail, read⟩ := exists_tail_of_map given
    obtain ⟨letters, rfl⟩ := inductionHypothesis read
    exact ⟨.short c meant known :: letters, rfl⟩
  | case19 c more quote last _ _ backslash printable inductionHypothesis =>
    have unescaped := unescaped_of_neither quote last backslash printable
    obtain ⟨tail, read⟩ := exists_tail_of_map given
    obtain ⟨letters, rfl⟩ := inductionHypothesis read
    exact ⟨.plain c unescaped :: letters, rfl⟩
  | _ => cases given

/-- Letters whose meaning is not asked for are taken up to the closing quote. -/
theorem skipTextTail_written (letters : List Letter) (rest : List Char) :
    skipTextTail (letters.flatMap Letter.written ++ '"' :: rest) = .ok ((), rest) := by
  induction letters with
  | nil => rw [List.flatMap_nil, List.nil_append, skipTextTail_quote]
  | cons letter more inductionHypothesis =>
      rw [List.flatMap_cons, List.append_assoc]
      cases letter with
      | plain c unescaped =>
          obtain ⟨quote, backslash, printable⟩ := unescaped
          rw [Letter.written, List.singleton_append, skipTextTail]
          · simp [printable, inductionHypothesis]
          all_goals simp_all
      | short c meant known =>
          have other := ne_u_of_short known
          rw [Letter.written, List.cons_append, List.singleton_append, skipTextTail]
          · simp [known, inductionHypothesis]
          all_goals simp_all
      | unit a b c d value digits =>
          simp only [Letter.written, List.cons_append, List.nil_append, skipTextTail, digits,
            inductionHypothesis]

/-- What is taken as a text was letters and a closing quote. -/
theorem exists_letters_of_skipTextTail {text rest : List Char}
    (given : skipTextTail text = .ok ((), rest)) :
    ∃ letters : List Letter, text = letters.flatMap Letter.written ++ '"' :: rest := by
  fun_induction skipTextTail text with
  | case2 =>
    cases given
    exact ⟨[], rfl⟩
  | case5 a b c d more value digits inductionHypothesis =>
    obtain ⟨letters, rfl⟩ := inductionHypothesis given
    exact ⟨.unit a b c d value digits :: letters, rfl⟩
  | case8 c more _ _ meant known inductionHypothesis =>
    obtain ⟨letters, rfl⟩ := inductionHypothesis given
    exact ⟨.short c meant known :: letters, rfl⟩
  | case10 c more quote last _ _ backslash printable inductionHypothesis =>
    have unescaped := unescaped_of_neither quote last backslash printable
    obtain ⟨letters, rfl⟩ := inductionHypothesis given
    exact ⟨.plain c unescaped :: letters, rfl⟩
  | _ => cases given

end MetricProbe.Json
