import MetricProbe.Proofs.Json.Grammar

/-!
# Reading punctuation

What the readers of words, commas, colons and brackets accept, as one `iff` each: the text before the
cursor, up to space, and the text behind it. Complaints are not described.
-/

namespace MetricProbe.Json

open Reader

/-! ## Steps of readers -/

section

variable {α β : Type} {text rest : List Char}

/-- Nothing is taken to give a value. -/
@[simp] theorem pure_run (value : α) (text : List Char) :
    (pure value : Reader α) text = .ok (value, text) :=
  rfl

/-- What follows a look at the text sees it, and takes up at the same place. -/
@[simp] theorem look_then (next : List Char → Reader β) (text : List Char) :
    (look >>= next) text = next text text :=
  rfl

/-- What follows a move takes up at the new place. -/
@[simp] theorem moveTo_then (next : Unit → Reader β) (text rest : List Char) :
    (moveTo rest >>= next) text = next () rest :=
  rfl

/-- A move ends at the new place. -/
@[simp] theorem moveTo_run (text rest : List Char) : moveTo rest text = .ok ((), rest) :=
  rfl

/-- What follows skipped space takes up behind it. -/
@[simp] theorem skipSpace_then (next : Unit → Reader β) (text : List Char) :
    (skipSpace >>= next) text = next () (text.dropWhile isSpace) :=
  rfl

/-- A complaint is no value. -/
@[simp] theorem stopAtNext_ne_ok (complaint : Complaint) (text : List Char)
    (out : α × List Char) : stopAtNext complaint text ≠ .ok out :=
  nofun

/-- A complaint is no value. -/
@[simp] theorem stopHere_ne_ok (complaint : Complaint) (text : List Char)
    (out : α × List Char) : stopHere complaint text ≠ .ok out :=
  nofun

/-- A complaint is no value. -/
@[simp] theorem stopFloating_ne_ok (complaint : Complaint) (text : List Char)
    (out : α × List Char) : stopFloating complaint text ≠ .ok out :=
  nofun

/-- What follows a reader that gives a value depends on it, and takes up where it ended. -/
theorem then_of_ok {first : Reader α} {value : α} (given : first text = .ok (value, rest))
    (next : α → Reader β) : (first >>= next) text = next value rest := by
  show andThen first next text = _
  rw [andThen, given]

/-- Nothing follows a complaint. -/
@[simp] theorem stopAtNext_then_ne_ok (complaint : Complaint) (next : α → Reader β)
    (text : List Char) (out : β × List Char) : (stopAtNext complaint >>= next) text ≠ .ok out :=
  nofun

end

/-! ## Words and marks -/

section

variable {text rest between : List Char}

/-- The letters of a word are taken exactly from the texts that begin with them. -/
theorem word_eq_ok_iff {letters : List Char} :
    word letters text = .ok ((), rest) ↔ text = letters ++ rest := by
  induction letters generalizing text with
  | nil => simp [word]
  | cons expected more inductionHypothesis =>
      rw [word]
      cases text with
      | nil => simp
      | cons c text =>
          by_cases same : c = expected
          · simp [same, inductionHypothesis]
          · simp [same]

/-- A text that begins with a mark is solid. -/
theorem solid_cons {c : Char} (mark : isSpace c = false) : Solid (c :: rest) := by
  rintro _ ⟨⟩
  exact mark

/-- Behind the space at the front of a text a mark is found exactly if the text is that space, the
mark and what follows. -/
theorem dropWhile_eq_cons_iff {c : Char} :
    text.dropWhile isSpace = c :: rest ↔
      isSpace c = false ∧ ∃ before, Blank before ∧ text = before ++ c :: rest := by
  constructor
  · intro found
    obtain ⟨before, blank, split, solid⟩ := exists_blank text
    rw [found] at split solid
    exact ⟨solid c rfl, before, blank, split⟩
  · rintro ⟨mark, before, blank, rfl⟩
    exact dropWhile_blank blank (solid_cons mark)

/-- Space in front of a mark is dropped. -/
theorem dropWhile_mark {before : List Char} {c : Char} (blank : Blank before)
    (mark : isSpace c = false) : (before ++ c :: rest).dropWhile isSpace = c :: rest :=
  dropWhile_blank blank (solid_cons mark)

/-- A value is looked for behind space, and something must be there. -/
theorem toValue_eq_ok_iff :
    toValue text = .ok ((), rest) ↔
      Solid rest ∧ rest ≠ [] ∧ ∃ before, Blank before ∧ text = before ++ rest := by
  simp only [toValue, skipSpace_then, look_then]
  cases found : text.dropWhile isSpace with
  | nil =>
      refine iff_of_false (stopAtNext_ne_ok _ _ _) ?_
      rintro ⟨solid, filled, before, blank, rfl⟩
      exact filled (dropWhile_blank blank solid ▸ found)
  | cons c more =>
      obtain ⟨mark, before, blank, split⟩ := dropWhile_eq_cons_iff.1 found
      simp only [pure_run, Except.ok.injEq, Prod.mk.injEq, true_and]
      constructor
      · rintro rfl
        exact ⟨solid_cons mark, List.cons_ne_nil _ _, before, blank, split⟩
      · rintro ⟨solid, _, before, blank, rfl⟩
        rw [← found, dropWhile_blank blank solid]

/-- A colon is taken with the space before it. -/
theorem colon_eq_ok_iff :
    colon text = .ok ((), rest) ↔ text.dropWhile isSpace = ':' :: rest := by
  simp only [colon, skipSpace_then, look_then]
  generalize text.dropWhile isSpace = found
  rcases found with _ | ⟨c, more⟩
  · simp
  · by_cases same : c = ':' <;> simp [same]

/-- The end of an array is taken with the space before it. -/
theorem endArray_eq_ok_iff :
    endArray text = .ok ((), rest) ↔ text.dropWhile isSpace = ']' :: rest := by
  simp only [endArray, skipSpace_then, look_then]
  generalize text.dropWhile isSpace = found
  rcases found with _ | ⟨c, more⟩
  · simp
  · by_cases closing : c = ']'
    · simp [closing]
    · by_cases comma : c = ','
      · subst comma
        simp only [moveTo_then, skipSpace_then, look_then]
        generalize more.dropWhile isSpace = next
        rcases next with _ | ⟨d, next⟩
        · simp
        · by_cases trailing : d = ']' <;> simp [trailing]
      · simp [closing, comma]

/-- The end of an object is taken with the space before it. -/
theorem endObject_eq_ok_iff :
    endObject text = .ok ((), rest) ↔ text.dropWhile isSpace = '\x7d' :: rest := by
  simp only [endObject, skipSpace_then, look_then]
  generalize text.dropWhile isSpace = found
  rcases found with _ | ⟨c, more⟩
  · simp
  · by_cases closing : c = '\x7d'
    · simp [closing]
    · by_cases comma : c = ',' <;> simp [closing, comma]

/-! ## Items and members -/

/-- There is no further element exactly before the end of the array. -/
theorem nextElement_eq_ok_false_iff {first : Bool} :
    nextElement first text = .ok (false, between) ↔
      ∃ rest, text.dropWhile isSpace = ']' :: rest ∧ between = ']' :: rest := by
  simp only [nextElement, skipSpace_then, look_then]
  generalize text.dropWhile isSpace = found
  rcases found with _ | ⟨c, more⟩
  · simp
  · by_cases closing : c = ']'
    · simp [closing, eq_comm]
    · cases first with
      | true => simp [closing]
      | false =>
          by_cases comma : c = ','
          · subst comma
            simp only [Bool.false_eq_true, if_false, if_true, moveTo_then, skipSpace_then, look_then]
            generalize more.dropWhile isSpace = next
            rcases next with _ | ⟨d, next⟩
            · simp
            · by_cases trailing : d = ']' <;> simp [trailing]
          · simp [closing, comma]

/-- The first element begins behind space, where the array does not end. -/
theorem nextElement_first_eq_ok_true_iff :
    nextElement true text = .ok (true, between) ↔
      text.dropWhile isSpace = between ∧ ∃ c rest, c ≠ ']' ∧ between = c :: rest := by
  simp only [nextElement, skipSpace_then, look_then]
  generalize text.dropWhile isSpace = found
  rcases found with _ | ⟨c, more⟩
  · simp +contextual
  · by_cases closing : c = ']'
    · simp +contextual [closing, eq_comm]
    · constructor
      · intro given
        obtain rfl : c :: more = between := by simpa [closing] using given
        exact ⟨rfl, c, more, closing, rfl⟩
      · rintro ⟨rfl, _⟩
        simp

/-- A later element begins behind a comma, where the array does not end. -/
theorem nextElement_later_eq_ok_true_iff :
    nextElement false text = .ok (true, between) ↔
      ∃ more, text.dropWhile isSpace = ',' :: more ∧ more.dropWhile isSpace = between ∧
        ∃ c rest, c ≠ ']' ∧ between = c :: rest := by
  simp only [nextElement, skipSpace_then, look_then]
  generalize text.dropWhile isSpace = found
  rcases found with _ | ⟨c, more⟩
  · simp
  · by_cases closing : c = ']'
    · simp [closing]
    · by_cases comma : c = ','
      · subst comma
        simp only [Bool.false_eq_true, if_false, if_true, moveTo_then, skipSpace_then, look_then]
        simp only [List.cons.injEq, true_and, exists_eq_left']
        generalize more.dropWhile isSpace = next
        rcases next with _ | ⟨d, next⟩
        · simp +contextual
        · by_cases trailing : d = ']'
          · subst trailing
            refine iff_of_false (stopAtNext_ne_ok _ _ _) ?_
            rintro ⟨rfl, c, rest, other, same⟩
            cases same
            exact other rfl
          · constructor
            · intro given
              obtain rfl : d :: next = between := by simpa [trailing] using given
              exact ⟨rfl, d, next, trailing, rfl⟩
            · rintro ⟨rfl, _⟩
              simp [trailing]
      · simp [comma]

/-- There is no further member exactly before the end of the object. -/
theorem nextKey_eq_ok_false_iff {first : Bool} :
    nextKey first text = .ok (false, between) ↔
      ∃ rest, text.dropWhile isSpace = '\x7d' :: rest ∧ between = '\x7d' :: rest := by
  simp only [nextKey, skipSpace_then, look_then]
  generalize text.dropWhile isSpace = found
  rcases found with _ | ⟨c, more⟩
  · simp
  · by_cases closing : c = '\x7d'
    · simp [closing, eq_comm]
    · cases first with
      | true => by_cases opening : c = '"' <;> simp [closing, opening]
      | false =>
          by_cases comma : c = ','
          · subst comma
            simp only [Bool.false_eq_true, if_false, if_true, moveTo_then, skipSpace_then, look_then]
            generalize more.dropWhile isSpace = next
            rcases next with _ | ⟨d, next⟩
            · simp
            · by_cases opening : d = '"'
              · simp [opening]
              · by_cases trailing : d = '\x7d' <;> simp [opening, trailing]
          · simp [closing, comma]

/-- The key of the first member begins behind space. -/
theorem nextKey_first_eq_ok_true_iff :
    nextKey true text = .ok (true, rest) ↔ text.dropWhile isSpace = '"' :: rest := by
  simp only [nextKey, skipSpace_then, look_then]
  generalize text.dropWhile isSpace = found
  rcases found with _ | ⟨c, more⟩
  · simp
  · by_cases closing : c = '\x7d'
    · simp [closing]
    · by_cases opening : c = '"' <;> simp [opening]

/-- The key of a later member begins behind a comma. -/
theorem nextKey_later_eq_ok_true_iff :
    nextKey false text = .ok (true, rest) ↔
      ∃ more, text.dropWhile isSpace = ',' :: more ∧ more.dropWhile isSpace = '"' :: rest := by
  simp only [nextKey, skipSpace_then, look_then]
  generalize text.dropWhile isSpace = found
  rcases found with _ | ⟨c, more⟩
  · simp
  · by_cases closing : c = '\x7d'
    · simp [closing]
    · by_cases comma : c = ','
      · subst comma
        simp only [Bool.false_eq_true, if_false, if_true, moveTo_then, skipSpace_then, look_then]
        simp only [List.cons.injEq, true_and, exists_eq_left']
        generalize more.dropWhile isSpace = next
        rcases next with _ | ⟨d, next⟩
        · simp
        · by_cases opening : d = '"'
          · simp [opening]
          · by_cases trailing : d = '\x7d' <;> simp [opening, trailing]
      · simp [comma]

/-! ## Brackets -/

/-- What is inside brackets is given if their end follows. -/
theorem bracketed_eq_ok_iff {α : Type} {close : List Char → List Char} {finish : Reader Unit}
    {inside : Reader α} {value : α} :
    bracketed close finish inside text = .ok (value, rest) ↔
      ∃ between, inside text = .ok (value, between) ∧ finish between = .ok ((), rest) := by
  constructor
  · intro given
    unfold bracketed at given
    split at given
    · cases given
    · next inner between entered =>
      split at given
      · cases given
      · next left ended =>
        cases given
        exact ⟨between, entered, ended⟩
  · rintro ⟨between, entered, ended⟩
    simp only [bracketed, entered, ended]

/-- A bracket is entered where the nesting allows for it. -/
theorem enter_eq_ok_iff {α : Type} {depth : Nat} {inside : Nat → Reader α} {c : Char}
    {out : α × List Char} :
    enter depth inside (c :: text) = .ok out ↔ 1 < depth ∧ inside (depth - 1) text = .ok out := by
  simp only [enter, look_then]
  by_cases deep : 1 < depth
  · rw [if_neg (Nat.not_le_of_lt deep)]
    exact ⟨fun entered => ⟨deep, entered⟩, fun entered => entered.2⟩
  · rw [if_pos (Nat.le_of_not_lt deep)]
    exact iff_of_false (stopAtNext_ne_ok _ _ _) fun entered => deep entered.1

end

end MetricProbe.Json
