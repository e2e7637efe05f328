import MetricProbe.Proofs.Json.Numbers
import MetricProbe.Proofs.Json.Texts

/-!
# Skipping values

A value that does not matter is taken whole, whatever it is and however deep it is nested, and what
is taken was a value. The fuel is no bound: a value never needs more of it than it has characters.
-/

namespace MetricProbe.Json

open Reader
open Decimal (isDigit)

/-! ## Where values begin and end -/

/-- Space continues no number. -/
theorem ends_of_space {text : List Char} (blank : Blank text) : Ends text := by
  intro c first
  have space := blank c (List.mem_of_mem_head? first)
  simp only [isSpace, Bool.or_eq_true, beq_iff_eq] at space
  rcases space with ((rfl | rfl) | rfl) | rfl <;> decide

/-- What begins behind space with a mark that continues no number ends one. -/
theorem ends_of_blank {before rest : List Char} {c : Char} (blank : Blank before)
    (mark : isDigit c = false ∧ c ≠ '.' ∧ c ≠ 'e' ∧ c ≠ 'E') : Ends (before ++ c :: rest) := by
  rcases before with _ | ⟨d, before⟩
  · rintro _ ⟨⟩
    exact mark
  · rintro _ ⟨⟩
    exact ends_of_space blank d rfl

/-- A number begins with a minus sign or a digit. -/
theorem Numeral.written_eq_cons (numeral : Numeral) :
    ∃ c more, numeral.written = c :: more ∧ (c = '-' ∨ isDigit c = true) := by
  obtain ⟨c, more, whole, digit⟩ := numeral.exists_digit
  cases sign : numeral.negative with
  | true => exact ⟨'-', _, by rw [written, sign]; rfl, .inl rfl⟩
  | false => exact ⟨c, _, by rw [written, sign, unsigned, whole]; rfl, .inr digit⟩

/-- A number does not begin with any other character. -/
theorem ne_of_begins {c d : Char} (first : c = '-' ∨ isDigit c = true)
    (other : d ≠ '-' ∧ isDigit d = false) : c ≠ d := by
  rintro rfl
  rcases first with minus | digit
  · exact other.1 minus
  · cases digit.symm.trans other.2

/-- A digit is no space. -/
theorem isSpace_of_digit {c : Char} (digit : isDigit c = true) : isSpace c = false := by
  cases space : isSpace c with
  | false => rfl
  | true =>
      simp only [isSpace, Bool.or_eq_true, beq_iff_eq] at space
      rcases space with ((rfl | rfl) | rfl) | rfl <;> cases digit

/-- A value begins neither with space nor with the end of an array. -/
theorem Writes.exists_cons {tree : Spelling} {text : List Char} (writes : Writes tree text) :
    ∃ c more, text = c :: more ∧ isSpace c = false ∧ c ≠ ']' := by
  cases writes with
  | number numeral =>
      obtain ⟨c, more, written, first⟩ := numeral.written_eq_cons
      refine ⟨c, more, written, ?_, ne_of_begins first (by decide)⟩
      rcases first with rfl | digit
      · decide
      · exact isSpace_of_digit digit
  | null | yes | no | text | array | object => exact ⟨_, _, rfl, by decide⟩

/-- A member begins neither with space nor with the end of an object. -/
theorem Member.exists_cons {member : List Letter × Spelling} {text : List Char}
    (writes : Member Writes member text) :
    ∃ c more, text = c :: more ∧ isSpace c = false ∧ c ≠ '\x7d' := by
  cases writes
  exact ⟨_, _, rfl, by decide⟩

/-- A value takes a character. -/
theorem Writes.length_pos {tree : Spelling} {text : List Char} (writes : Writes tree text) :
    0 < text.length := by
  obtain ⟨c, more, rfl, _⟩ := writes.exists_cons
  exact Nat.succ_pos _

/-- The space before a value is dropped, and nothing else. -/
theorem Writes.dropWhile {tree : Spelling} {before text : List Char} (blank : Blank before)
    (writes : Writes tree text) (rest : List Char) :
    (before ++ (text ++ rest)).dropWhile isSpace = text ++ rest := by
  obtain ⟨c, more, rfl, solid, _⟩ := writes.exists_cons
  exact dropWhile_blank blank (solid_cons solid)

/-- Behind space there is a value to be read. -/
theorem toValue_run {tree : Spelling} {before text : List Char} (blank : Blank before)
    (writes : Writes tree text) (rest : List Char) :
    toValue (before ++ (text ++ rest)) = .ok ((), text ++ rest) := by
  obtain ⟨c, more, rfl, solid, _⟩ := writes.exists_cons
  exact toValue_eq_ok_iff.2 ⟨solid_cons solid, List.cons_ne_nil _ _, before, blank, rfl⟩

/-! ## What is taken whole -/

section

variable {limit : Nat} {rest : List Char}

/-- The values up to some length are taken whole. -/
def TakesUpTo (limit : Nat) : Prop :=
  ∀ tree text, Writes tree text → text.length ≤ limit → ∀ fuel before rest, text.length < fuel →
    Blank before → Ends rest → skipValue fuel (before ++ (text ++ rest)) = .ok ((), rest)

/-- Taking an item of a list whose items are written in some way: the item is taken whole, and what
follows it decides whether the list ends or goes on. -/
def TakesItem {α : Type} (writes : α → List Char → Prop) (close : Char) (limit : Nat)
    (take : Nat → Reader Unit) : Prop :=
  ∀ item text fuel before rest left, writes item text → text.length ≤ limit → text.length < fuel →
    Blank before → Ends rest →
      (rest.dropWhile isSpace = close :: left →
        take (fuel + 1) (before ++ (text ++ rest)) = .ok ((), left)) ∧
      (rest.dropWhile isSpace = ',' :: left →
        take (fuel + 1) (before ++ (text ++ rest)) = take fuel left)

/-- The elements of an array are taken one by one. -/
theorem takesItem_skipElements (takes : TakesUpTo limit) :
    TakesItem Writes ']' limit skipElements := by
  intro tree text fuel before rest left writes short enough blank ends
  rw [skipElements, then_of_ok (takes tree text writes short fuel before rest enough blank ends)]
  constructor <;> intro found <;> simp [found]

/-- The members of an object are taken one by one. -/
theorem takesItem_skipMembers (takes : TakesUpTo limit) :
    TakesItem (Member Writes) '\x7d' limit skipMembers := by
  intro member text fuel before rest left writes short enough blank ends
  cases writes with
  | @mk key value gap lead inner blankGap blankLead valued =>
      simp only [List.length_append, List.length_cons] at short enough
      have opening : (before ++ (quoted key ++ (gap ++ ':' :: (lead ++ inner)) ++ rest)).dropWhile
          isSpace = '"' :: (key.flatMap Letter.written ++
            '"' :: (gap ++ ':' :: (lead ++ (inner ++ rest)))) := by
        have solid : Solid (quoted key ++ (gap ++ ':' :: (lead ++ inner)) ++ rest) :=
          solid_cons rfl
        rw [dropWhile_blank blank solid]
        simp [quoted]
      have separated : colon (gap ++ ':' :: (lead ++ (inner ++ rest))) =
          .ok ((), lead ++ (inner ++ rest)) :=
        colon_eq_ok_iff.2 (dropWhile_mark blankGap rfl)
      have taken := takes value inner valued (by omega) fuel lead rest (by omega) blankLead ends
      simp only [skipMembers, skipSpace_then, opening, look_then, moveTo_then]
      rw [then_of_ok (skipTextTail_written key _), then_of_ok separated, then_of_ok taken]
      constructor <;> intro found <;> simp [found]

/-- Items that are taken one by one are taken up to the end of the list. -/
theorem TakesItem.run {α : Type} {writes : α → List Char → Prop} {close : Char}
    {take : Nat → Reader Unit} (takes : TakesItem writes close limit take)
    (closing : isSpace close = false ∧ isDigit close = false ∧ close ≠ '.' ∧ close ≠ 'e' ∧
      close ≠ 'E')
    {items : List α} {later : List Char} (continued : Continued writes items later) {item : α}
    {before text : List Char} {fuel : Nat} (blank : Blank before) (first : writes item text)
    (short : text.length + later.length ≤ limit)
    (enough : text.length + later.length + 1 < fuel) :
    take fuel (before ++ (text ++ (later ++ close :: rest))) = .ok ((), rest) := by
  obtain ⟨fuel, rfl⟩ := Nat.exists_eq_succ_of_ne_zero (by omega : fuel ≠ 0)
  induction continued generalizing item before text fuel with
  | done blankAfter =>
      refine (takes item text fuel before _ rest first (by omega) (by omega) blank ?_).1
        (dropWhile_mark blankAfter closing.1)
      exact ends_of_blank blankAfter closing.2
  | @more after lead inner more next items blankAfter blankLead second _ inductionHypothesis =>
      simp only [List.length_append, List.length_cons] at short enough
      have ends : Ends (after ++ ',' :: (lead ++ (inner ++ (more ++ close :: rest)))) :=
        ends_of_blank blankAfter (by decide)
      simp only [List.append_assoc, List.cons_append]
      rw [(takes item text fuel before _ _ first (by omega) (by omega) blank ends).2
        (dropWhile_mark blankAfter rfl)]
      obtain ⟨fuel, rfl⟩ := Nat.exists_eq_succ_of_ne_zero (by omega : fuel ≠ 0)
      exact inductionHypothesis blankLead second (by omega) fuel (by omega)

/-- Behind its opening bracket a list is empty, or its items are taken up to its end. -/
theorem TakesItem.listed {α : Type} {writes : α → List Char → Prop} {close : Char}
    {take : Nat → Reader Unit} (takes : TakesItem writes close limit take)
    (closing : isSpace close = false ∧ isDigit close = false ∧ close ≠ '.' ∧ close ≠ 'e' ∧
      close ≠ 'E')
    (begins : ∀ item text, writes item text →
      ∃ c more, text = c :: more ∧ isSpace c = false ∧ c ≠ close)
    {items : List α} {inner : List Char} (listed : Listed writes items inner) {fuel : Nat}
    (short : inner.length ≤ limit) (enough : inner.length + 1 < fuel) :
    (inner ++ close :: rest).dropWhile isSpace = close :: rest ∨
      ∃ c more, (inner ++ close :: rest).dropWhile isSpace = c :: more ∧ c ≠ close ∧
        take fuel (c :: more) = .ok ((), rest) := by
  cases listed with
  | none blank => exact .inl (dropWhile_mark blank closing.1)
  | @some before text later item items blank first continued =>
      simp only [List.length_append] at short enough
      have taken : take fuel (text ++ (later ++ close :: rest)) = .ok ((), rest) :=
        takes.run closing continued blank_nil first (by omega) (by omega)
      obtain ⟨c, more, rfl, solid, other⟩ := begins item text first
      refine .inr ⟨c, _, ?_, other, taken⟩
      simp only [List.append_assoc]
      exact dropWhile_mark blank solid

/-- A digit begins nothing but a number. -/
theorem begins_of_digit {c : Char} (digit : isDigit c = true) :
    c ≠ 'n' ∧ c ≠ 't' ∧ c ≠ 'f' ∧ c ≠ '"' ∧ c ≠ '-' ∧ c ≠ '[' ∧ c ≠ '\x7b' := by
  refine ⟨?_, ?_, ?_, ?_, ?_, ?_, ?_⟩ <;> rintro rfl <;> cases digit

/-- Values of any length are taken whole. -/
theorem takesUpTo (limit : Nat) : TakesUpTo limit := by
  induction limit with
  | zero =>
      intro tree text writes short
      exact absurd writes.length_pos (by omega)
  | succ limit takes =>
      intro tree text writes short fuel before rest enough blank ends
      obtain ⟨fuel, rfl⟩ := Nat.exists_eq_succ_of_ne_zero (by omega : fuel ≠ 0)
      rw [skipValue, then_of_ok (toValue_run blank writes rest)]
      cases writes with
      | null | yes | no => simp [word_eq_ok_iff]
      | text letters =>
          simp only [quoted, List.cons_append, List.append_assoc, List.nil_append, look_then]
          exact skipTextTail_written letters rest
      | number numeral =>
          have taken := skipUnsigned_run (ends.stops numeral.fraction numeral.exponent)
          rw [Numeral.written]
          cases sign : numeral.negative with
          | true => simp [taken]
          | false =>
              obtain ⟨c, more, whole, digit⟩ := numeral.exists_digit
              simp only [Numeral.unsigned, whole, List.cons_append, List.append_assoc] at taken
              simp [Numeral.unsigned, whole, begins_of_digit digit, digit, taken]
      | @array items inner listed =>
          simp only [List.length_cons, List.length_append, List.length_nil] at short enough
          simp only [List.cons_append, List.append_assoc, List.nil_append, look_then, moveTo_then,
            skipSpace_then]
          have inside : _ ∨ ∃ c more, (inner ++ ']' :: rest).dropWhile isSpace = c :: more ∧
              c ≠ ']' ∧ skipElements fuel (c :: more) = .ok ((), rest) :=
            (takesItem_skipElements takes).listed (by decide) (fun _ _ => Writes.exists_cons) listed
              (by omega) (by omega)
          rcases inside with empty | ⟨c, more, found, other, taken⟩
          · simp [empty]
          · simp [found, other, taken]
      | @object members inner listed =>
          simp only [List.length_cons, List.length_append, List.length_nil] at short enough
          simp only [List.cons_append, List.append_assoc, List.nil_append, look_then, moveTo_then,
            skipSpace_then]
          have inside : _ ∨ ∃ c more, (inner ++ '\x7d' :: rest).dropWhile isSpace = c :: more ∧
              c ≠ '\x7d' ∧ skipMembers fuel (c :: more) = .ok ((), rest) :=
            (takesItem_skipMembers takes).listed (by decide) (fun _ _ => Member.exists_cons) listed
              (by omega) (by omega)
          rcases inside with empty | ⟨c, more, found, other, taken⟩
          · simp [empty]
          · simp [found, other, taken]

end

/-! ## What was taken -/

/-- What is taken is a value behind space. -/
def TookValue (take : Reader Unit) : Prop :=
  ∀ text rest, take text = .ok ((), rest) →
    ∃ before tree written, Blank before ∧ Writes tree written ∧ text = before ++ (written ++ rest)

/-- What is taken is a list of items, of which there is at least one, up to its end. -/
def TookItems {α : Type} (writes : α → List Char → Prop) (close : Char) (take : Reader Unit) :
    Prop :=
  ∀ text rest, take text = .ok ((), rest) →
    ∃ before item first items later, Blank before ∧ writes item first ∧
      Continued writes items later ∧ text = before ++ (first ++ (later ++ close :: rest))

/-- An item with what follows it is a list, if what follows it is the end or a comma and a list. -/
theorem exists_continued {α : Type} {writes : α → List Char → Prop} {close : Char}
    {take : Reader Unit} (took : TookItems writes close take) {text rest : List Char}
    (ended : text.dropWhile isSpace = close :: rest ∨
      ∃ more, text.dropWhile isSpace = ',' :: more ∧ take more = .ok ((), rest)) :
    ∃ items later, Continued writes items later ∧ text = later ++ close :: rest := by
  rcases ended with found | ⟨more, found, taken⟩
  · obtain ⟨_, after, blank, rfl⟩ := dropWhile_eq_cons_iff.1 found
    exact ⟨[], after, .done blank, rfl⟩
  · obtain ⟨_, after, blank, rfl⟩ := dropWhile_eq_cons_iff.1 found
    obtain ⟨before, item, first, items, later, blankBefore, writes, continued, rfl⟩ :=
      took more rest taken
    exact ⟨item :: items, _, .more blank blankBefore writes continued, by simp⟩

/-- What is behind an opening bracket is a list, if it is only the end, or items up to the end. -/
theorem exists_listed {α : Type} {writes : α → List Char → Prop} {close : Char}
    {take : Reader Unit} (took : TookItems writes close take) {text rest : List Char}
    (inside : text.dropWhile isSpace = close :: rest ∨
      take (text.dropWhile isSpace) = .ok ((), rest)) :
    ∃ items inner, Listed writes items inner ∧ text = inner ++ close :: rest := by
  rcases inside with found | taken
  · obtain ⟨_, inner, blank, rfl⟩ := dropWhile_eq_cons_iff.1 found
    exact ⟨[], inner, .none blank, rfl⟩
  · obtain ⟨lead, item, first, items, later, blankLead, writes, continued, found⟩ :=
      took _ rest taken
    obtain ⟨before, blank, rfl⟩ := exists_blank_of_dropWhile blankLead found
    exact ⟨item :: items, _, .some blank writes continued, by simp⟩

section

variable {fuel : Nat}

/-- What is skipped as a value was one, if what is skipped inside brackets was a list. -/
theorem tookValue_succ (elements : TookItems Writes ']' (skipElements fuel))
    (members : TookItems (Member Writes) '\x7d' (skipMembers fuel)) :
    TookValue (skipValue (fuel + 1)) := by
  intro text rest taken
  rw [skipValue] at taken
  obtain ⟨_, between, ready, behind⟩ := bind_eq_ok.1 taken
  obtain ⟨_, filled, before, blank, rfl⟩ := toValue_eq_ok_iff.1 ready
  obtain ⟨c, more, rfl⟩ := List.exists_cons_of_ne_nil filled
  rw [look_then] at behind
  suffices ∃ tree written, Writes tree written ∧ c :: more = written ++ rest by
    obtain ⟨tree, written, writes, same⟩ := this
    exact ⟨before, tree, written, blank, writes, by rw [same]⟩
  by_cases null : c = 'n'
  · subst null
    simp only [moveTo_then, word_eq_ok_iff] at behind
    exact ⟨.null, _, .null, by rw [behind]; rfl⟩
  by_cases yes : c = 't'
  · subst yes
    simp only [moveTo_then, word_eq_ok_iff] at behind
    exact ⟨.boolean true, _, .yes, by rw [behind]; rfl⟩
  by_cases no : c = 'f'
  · subst no
    simp only [moveTo_then, word_eq_ok_iff] at behind
    exact ⟨.boolean false, _, .no, by rw [behind]; rfl⟩
  by_cases quote : c = '"'
  · subst quote
    obtain ⟨letters, rfl⟩ := exists_letters_of_skipTextTail behind
    exact ⟨.text letters, _, .text letters, by simp [quoted]⟩
  by_cases minus : c = '-'
  · subst minus
    obtain ⟨numeral, negative, rfl⟩ := exists_numeral_of_skipUnsigned true behind
    exact ⟨.number numeral, _, .number numeral, by simp [Numeral.written, negative]⟩
  by_cases bracket : c = '['
  · subst bracket
    have inside : more.dropWhile isSpace = ']' :: rest ∨
        skipElements fuel (more.dropWhile isSpace) = .ok ((), rest) := by
      simp only [moveTo_then, skipSpace_then, look_then] at behind
      generalize more.dropWhile isSpace = found at behind
      rcases found with _ | ⟨d, found⟩
      · cases behind
      · by_cases closing : d = ']'
        · subst closing
          cases behind
          exact .inl rfl
        · exact .inr (by simpa [closing] using behind)
    obtain ⟨items, inner, listed, rfl⟩ := exists_listed elements inside
    exact ⟨.array items, _, .array listed, by simp⟩
  by_cases brace : c = '\x7b'
  · subst brace
    have inside : more.dropWhile isSpace = '\x7d' :: rest ∨
        skipMembers fuel (more.dropWhile isSpace) = .ok ((), rest) := by
      simp only [moveTo_then, skipSpace_then, look_then] at behind
      generalize more.dropWhile isSpace = found at behind
      rcases found with _ | ⟨d, found⟩
      · cases behind
      · by_cases closing : d = '\x7d'
        · subst closing
          cases behind
          exact .inl rfl
        · exact .inr (by simpa [closing] using behind)
    obtain ⟨listedMembers, inner, listed, rfl⟩ := exists_listed members inside
    exact ⟨.object listedMembers, _, .object listed, by simp⟩
  · have read : skipUnsigned (c :: more) = .ok ((), rest) := by
      cases digit : isDigit c with
      | true => simpa [null, yes, no, quote, minus, bracket, brace, digit] using behind
      | false => simp [digit] at behind
    obtain ⟨numeral, negative, same⟩ := exists_numeral_of_skipUnsigned false read
    exact ⟨.number numeral, _, .number numeral, by simp [Numeral.written, negative, same]⟩

/-- What is skipped as the elements of an array was that. -/
theorem tookElements_succ (value : TookValue (skipValue fuel))
    (elements : TookItems Writes ']' (skipElements fuel)) :
    TookItems Writes ']' (skipElements (fuel + 1)) := by
  intro text rest taken
  rw [skipElements] at taken
  obtain ⟨_, after, first, behind⟩ := bind_eq_ok.1 taken
  obtain ⟨before, tree, written, blank, writes, rfl⟩ := value text after first
  have ended : after.dropWhile isSpace = ']' :: rest ∨
      ∃ more, after.dropWhile isSpace = ',' :: more ∧
        skipElements fuel more = .ok ((), rest) := by
    simp only [skipSpace_then, look_then] at behind
    generalize after.dropWhile isSpace = found at behind
    rcases found with _ | ⟨c, more⟩
    · cases behind
    · by_cases comma : c = ','
      · subst comma
        exact .inr ⟨more, rfl, behind⟩
      · by_cases closing : c = ']'
        · subst closing
          cases behind
          exact .inl rfl
        · simp [comma, closing] at behind
  obtain ⟨items, later, continued, rfl⟩ := exists_continued elements ended
  exact ⟨before, tree, written, items, later, blank, writes, continued, rfl⟩

/-- What is skipped as the members of an object was that. -/
theorem tookMembers_succ (value : TookValue (skipValue fuel))
    (members : TookItems (Member Writes) '\x7d' (skipMembers fuel)) :
    TookItems (Member Writes) '\x7d' (skipMembers (fuel + 1)) := by
  intro text rest taken
  simp only [skipMembers, skipSpace_then, look_then] at taken
  have opened : ∃ more, text.dropWhile isSpace = '"' :: more := by
    generalize text.dropWhile isSpace = found at taken
    rcases found with _ | ⟨c, more⟩
    · simp at taken
    · by_cases quote : c = '"'
      · exact ⟨more, by rw [quote]⟩
      · simp [quote] at taken
  obtain ⟨more, found⟩ := opened
  simp only [found, moveTo_then] at taken
  obtain ⟨_, before, blank, rfl⟩ := dropWhile_eq_cons_iff.1 found
  obtain ⟨_, _, key, behindKey⟩ := bind_eq_ok.1 taken
  obtain ⟨letters, rfl⟩ := exists_letters_of_skipTextTail key
  obtain ⟨_, _, separated, behindColon⟩ := bind_eq_ok.1 behindKey
  obtain ⟨_, gap, blankGap, rfl⟩ := dropWhile_eq_cons_iff.1 (colon_eq_ok_iff.1 separated)
  obtain ⟨_, after, first, behind⟩ := bind_eq_ok.1 behindColon
  obtain ⟨lead, tree, written, blankLead, writes, rfl⟩ := value _ after first
  have ended : after.dropWhile isSpace = '\x7d' :: rest ∨
      ∃ more, after.dropWhile isSpace = ',' :: more ∧ skipMembers fuel more = .ok ((), rest) := by
    simp only [skipSpace_then, look_then] at behind
    generalize after.dropWhile isSpace = next at behind
    rcases next with _ | ⟨c, more⟩
    · cases behind
    · by_cases comma : c = ','
      · subst comma
        exact .inr ⟨more, rfl, behind⟩
      · by_cases closing : c = '\x7d'
        · subst closing
          cases behind
          exact .inl rfl
        · simp [comma, closing] at behind
  obtain ⟨items, later, continued, rfl⟩ := exists_continued members ended
  exact ⟨before, (letters, tree), _, items, later, blank, .mk blankGap blankLead writes, continued,
    by simp [quoted]⟩

/-- What is skipped with any fuel is what the grammar says. -/
theorem took (fuel : Nat) : TookValue (skipValue fuel) ∧
    TookItems Writes ']' (skipElements fuel) ∧
      TookItems (Member Writes) '\x7d' (skipMembers fuel) := by
  induction fuel with
  | zero =>
      refine ⟨?_, ?_, ?_⟩ <;> intro text rest taken
      · rw [skipValue] at taken
        cases taken
      · rw [skipElements] at taken
        cases taken
      · rw [skipMembers] at taken
        cases taken
  | succ fuel inductionHypothesis =>
      obtain ⟨value, elements, members⟩ := inductionHypothesis
      exact ⟨tookValue_succ elements members, tookElements_succ value elements,
        tookMembers_succ value members⟩

end

end MetricProbe.Json
