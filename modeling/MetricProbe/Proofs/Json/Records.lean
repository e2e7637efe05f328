import MetricProbe.Json.Record
import MetricProbe.Proofs.Json.Values

/-!
# Readers of records

What a record accepts, given what its fields take. In an object the members fill the draft one by
one: a member whose key names a field must be the first to fill it, and every other member is
admitted whatever its value is. In an array the items fill the fields in their order, and fields
that are not required may be left out at the end. The readers of records accept exactly that.
-/

namespace MetricProbe.Json

open Reader

variable {draft value : Type}

/-! ## What records accept -/

/-- What a field takes: a draft, a value as it is written, and the draft with that value. -/
abbrev Taking (draft : Type) : Type := Field draft → draft → Spelling → draft → Prop

/-- A member of an object brings a draft of a record one step further. -/
inductive Admits (record : Record draft value) (takes : Taking draft) :
    draft → List Letter × Spelling → draft → Prop where
  /-- A key that names a field which is not filled yet. -/
  | known {key : List Letter} {chars : List Char} {field : Field draft} {tree : Spelling}
      {state next : draft} (meant : meaning? key = some chars)
      (found : record.fields.find? (·.answersTo (String.ofList chars)) = some field)
      (fresh : field.filled state = false) (taken : takes field state tree next) :
      Admits record takes state (key, tree) next
  /-- A key that names no field; its value does not matter. -/
  | unknown {key : List Letter} {chars : List Char} {tree : Spelling} {state : draft}
      (meant : meaning? key = some chars)
      (unnamed : record.fields.find? (·.answersTo (String.ofList chars)) = none) :
      Admits record takes state (key, tree) state

/-- The members of an object bring a draft of a record to another, one after the other. -/
inductive Filled (record : Record draft value) (takes : Taking draft) :
    draft → List (List Letter × Spelling) → draft → Prop where
  | nil {state : draft} : Filled record takes state [] state
  | cons {state next final : draft} {member : List Letter × Spelling}
      {members : List (List Letter × Spelling)} (first : Admits record takes state member next)
      (later : Filled record takes next members final) :
      Filled record takes state (member :: members) final

/-- The items of an array bring a draft to another by filling fields in their order. -/
inductive Placed (takes : Taking draft) :
    List (Field draft) → draft → List Spelling → draft → Prop where
  | done {state : draft} : Placed takes [] state [] state
  | given {field : Field draft} {fields : List (Field draft)} {state next final : draft}
      {item : Spelling} {items : List Spelling} (taken : takes field state item next)
      (later : Placed takes fields next items final) :
      Placed takes (field :: fields) state (item :: items) final
  | omitted {field : Field draft} {fields : List (Field draft)} {state final : draft}
      (optional : field.required = false) (later : Placed takes fields state [] final) :
      Placed takes (field :: fields) state [] final

/-- A record is written as an object or as an array, and stands for what its draft comes to. -/
inductive Record.Fits (record : Record draft value) (takes : Taking draft) :
    Spelling → value → Prop where
  | object {members : List (List Letter × Spelling)} {state : draft} {result : value}
      (filled : Filled record takes record.empty members state)
      (finished : record.finish state = .ok result) : record.Fits takes (.object members) result
  | array {items : List Spelling} {state : draft} {result : value}
      (placed : Placed takes record.fields record.empty items state)
      (finished : record.finish state = .ok result) : record.Fits takes (.array items) result

/-- The readers of all fields of a record read what the fields take. -/
def Record.Filling (record : Record draft value) (depth : Nat) (takes : Taking draft) : Prop :=
  ∀ field ∈ record.fields, ∀ state, Reads (field.fill depth state) (takes field state)

/-! ## Members of objects -/

section

variable {record : Record draft value} {takes : Taking draft} {depth : Nat} {state final : draft}
  {text rest left : List Char}

/-- The members up to the end of an object are none, or one and those behind it. -/
theorem members_eq_ok_iff {fuel : Nat} {first : Bool} :
    record.members depth (fuel + 1) first state text = .ok (final, left) ↔
      (nextKey first text = .ok (false, left) ∧ final = state) ∨
        ∃ between next after, nextKey first text = .ok (true, between) ∧
          record.member depth state between = .ok (next, after) ∧
            record.members depth fuel false next after = .ok (final, left) := by
  rw [Record.members, bind_eq_ok]
  constructor
  · rintro ⟨_ | _, between, more, given⟩
    · cases given
      exact .inl ⟨more, rfl⟩
    · obtain ⟨next, after, read, later⟩ := bind_eq_ok.1 given
      exact .inr ⟨between, next, after, more, read, later⟩
  · rintro (⟨done, rfl⟩ | ⟨between, next, after, more, read, later⟩)
    · exact ⟨false, left, done, rfl⟩
    · exact ⟨true, between, more, bind_eq_ok.2 ⟨next, after, read, later⟩⟩

/-- The members bring a draft on if the first does, and the others do from there. -/
theorem filled_cons_iff {member : List Letter × Spelling}
    {members : List (List Letter × Spelling)} :
    Filled record takes state (member :: members) final ↔
      ∃ next, Admits record takes state member next ∧ Filled record takes next members final := by
  constructor
  · intro filled
    cases filled with
    | cons first later => exact ⟨_, first, later⟩
  · rintro ⟨next, first, later⟩
    exact .cons first later

/-- A field is found for a key exactly if the key names it and it is not filled, and none is found
exactly if the key names none. -/
theorem fieldFor_eq_ok_iff {key : String} {field : Option (Field draft)} :
    record.fieldFor state key text = .ok (field, left) ↔
      record.fields.find? (·.answersTo key) = field ∧
        (∀ known, field = some known → known.filled state = false) ∧ left = text := by
  rw [Record.fieldFor]
  cases record.fields.find? (·.answersTo key) with
  | none =>
      constructor
      · rintro ⟨⟩
        exact ⟨rfl, nofun, rfl⟩
      · rintro ⟨rfl, _, rfl⟩
        rfl
  | some known =>
      by_cases filled : known.filled state = true
      · simp only [filled, if_true]
        refine iff_of_false (stopFloating_ne_ok _ _ _) ?_
        rintro ⟨rfl, fresh, _⟩
        cases filled.symm.trans (fresh known rfl)
      · simp only [filled, Bool.false_eq_true, if_false]
        constructor
        · rintro ⟨⟩
          refine ⟨rfl, ?_, rfl⟩
          rintro _ ⟨⟩
          simpa using filled
        · rintro ⟨rfl, _, rfl⟩
          rfl

/-- A text is read as the characters that its letters mean. -/
theorem textTail_eq_ok_iff {key : String} :
    textTail text = .ok (key, left) ↔
      ∃ chars, textBody text = .ok (chars, left) ∧ String.ofList chars = key := by
  rw [textTail, map_eq_ok_iff]
  constructor
  · rintro ⟨⟨chars, _⟩, read, ⟨⟩⟩
    exact ⟨chars, read, rfl⟩
  · rintro ⟨chars, read, rfl⟩
    exact ⟨(chars, left), read, rfl⟩

/-- What a member is read to, in its three steps: its key, the field for the key, and its value. -/
theorem member_eq_ok_iff {next : draft} :
    record.member depth state text = .ok (next, left) ↔
      ∃ chars behindKey field behindColon, textBody text = .ok (chars, behindKey) ∧
        record.fields.find? (·.answersTo (String.ofList chars)) = field ∧
          (∀ known, field = some known → known.filled state = false) ∧
            colon behindKey = .ok ((), behindColon) ∧
              Record.fillOrSkip depth state field behindColon = .ok (next, left) := by
  constructor
  · intro given
    obtain ⟨key, behindKey, named, given⟩ := bind_eq_ok.1 given
    obtain ⟨field, between, chosen, given⟩ := bind_eq_ok.1 given
    obtain ⟨_, behindColon, separated, valued⟩ := bind_eq_ok.1 given
    obtain ⟨chars, read, rfl⟩ := textTail_eq_ok_iff.1 named
    obtain ⟨found, fresh, rfl⟩ := fieldFor_eq_ok_iff.1 chosen
    exact ⟨chars, between, field, behindColon, read, found, fresh, separated, valued⟩
  · rintro ⟨chars, behindKey, field, behindColon, read, found, fresh, separated, valued⟩
    exact bind_eq_ok.2 ⟨_, behindKey, textTail_eq_ok_iff.2 ⟨chars, read, rfl⟩,
      bind_eq_ok.2 ⟨field, behindKey, fieldFor_eq_ok_iff.2 ⟨found, fresh, rfl⟩,
        bind_eq_ok.2 ⟨(), behindColon, separated, valued⟩⟩⟩

/-- What the value of a member does to a draft, given the field that its key names. -/
def Takes (takes : Taking draft) (state : draft) :
    Option (Field draft) → Spelling → draft → Prop
  | some field, tree, next => takes field state tree next
  | none, _, next => next = state

/-- A value is read into the field that is found for its key, or skipped. -/
theorem Record.Filling.reads (filling : record.Filling depth takes) {names : Field draft → Bool}
    {field : Option (Field draft)} (found : record.fields.find? names = field) :
    Reads (Record.fillOrSkip depth state field) (Takes takes state field) := by
  cases field with
  | some known => exact filling known (List.mem_of_find?_eq_some found) state
  | none =>
      refine (reads_skip.map fun _ => state).congr fun tree next => ?_
      exact ⟨fun ⟨_, _, same⟩ => same, fun same => ⟨(), trivial, same⟩⟩

/-- A member is admitted exactly if its key means a text, the field of that text is not filled yet,
and the value does what it does to that field. -/
theorem admits_iff {key : List Letter} {tree : Spelling} {next : draft} :
    Admits record takes state (key, tree) next ↔
      ∃ chars field, meaning? key = some chars ∧
        record.fields.find? (·.answersTo (String.ofList chars)) = field ∧
          (∀ known, field = some known → known.filled state = false) ∧
            Takes takes state field tree next := by
  constructor
  · intro admits
    cases admits with
    | known meant found fresh taken =>
        refine ⟨_, _, meant, found, ?_, taken⟩
        rintro _ ⟨⟩
        exact fresh
    | unknown meant unnamed => exact ⟨_, none, meant, unnamed, nofun, rfl⟩
  · rintro ⟨chars, field, meant, found, fresh, taken⟩
    cases field with
    | some known => exact .known meant found (fresh known rfl) taken
    | none =>
        cases taken
        exact .unknown meant found

/-- A member is read whole behind its opening quote if it is admitted. -/
theorem Record.Filling.member_run (filling : record.Filling depth takes)
    {item : List Letter × Spelling} {written : List Char}
    (writes : Member Writes item ('"' :: written)) (ends : Ends rest) {next : draft} :
    record.member depth state (written ++ rest) = .ok (next, left) ↔
      Admits record takes state item next ∧ left = rest := by
  obtain ⟨key, tree⟩ := item
  generalize same : '"' :: written = whole at writes
  cases writes with
  | @mk _ _ gap lead inner blankGap blankLead valued =>
      rw [quoted, List.cons_append] at same
      obtain rfl := (List.cons.inj same).2
      simp only [List.append_assoc, List.cons_append]
      have separated : ∀ between, colon (gap ++ ':' :: (lead ++ (inner ++ rest))) =
          .ok ((), between) ↔ between = lead ++ (inner ++ rest) := by
        intro between
        rw [colon_eq_ok_iff, dropWhile_mark blankGap rfl]
        simp [eq_comm]
      rw [member_eq_ok_iff, admits_iff]
      constructor
      · rintro ⟨chars, behindKey, field, behindColon, read, found, fresh, passed, valuedAs⟩
        obtain ⟨meant, rfl⟩ := textBody_written.1 read
        obtain rfl := (separated behindColon).1 passed
        obtain ⟨taken, rfl⟩ := ((filling.reads found).decides blankLead valued ends).1 valuedAs
        exact ⟨⟨chars, field, meant, found, fresh, taken⟩, rfl⟩
      · rintro ⟨⟨chars, field, meant, found, fresh, taken⟩, rfl⟩
        exact ⟨chars, _, field, _, textBody_written.2 ⟨meant, rfl⟩, found, fresh,
          (separated _).2 rfl, ((filling.reads found).decides blankLead valued ends).2 ⟨taken, rfl⟩⟩

/-- What is read as a member behind its opening quote was one that is admitted. -/
theorem Record.Filling.exists_member (filling : record.Filling depth takes) {next : draft}
    (given : record.member depth state text = .ok (next, rest)) :
    ∃ item written, Member Writes item ('"' :: written) ∧ Admits record takes state item next ∧
      text = written ++ rest := by
  obtain ⟨chars, behindKey, field, behindColon, read, found, fresh, passed, valued⟩ :=
    member_eq_ok_iff.1 given
  obtain ⟨letters, rfl⟩ := exists_letters_of_textBody read
  obtain ⟨meant, _⟩ := textBody_written.1 read
  obtain ⟨_, gap, blankGap, rfl⟩ := dropWhile_eq_cons_iff.1 (colon_eq_ok_iff.1 passed)
  obtain ⟨lead, tree, written, blankLead, writes, taken, rfl⟩ := (filling.reads found).sound valued
  have whole : Member Writes (letters, tree) (quoted letters ++ (gap ++ ':' :: (lead ++ written))) :=
    .mk blankGap blankLead writes
  rw [quoted, List.cons_append] at whole
  exact ⟨(letters, tree), _, whole, admits_iff.2 ⟨chars, field, meant, found, fresh, taken⟩, by simp⟩

/-- A member begins with a quote. -/
theorem Member.exists_quote {item : List Letter × Spelling} {written : List Char}
    (writes : Member Writes item written) : ∃ more, written = '"' :: more := by
  cases writes
  exact ⟨_, rfl⟩

/-- Before the end of an object no member is ahead. -/
theorem Ahead.nextKey_nil {first : Bool} {inner : List Char}
    (ahead : Ahead (Member Writes) first [] inner) :
    nextKey first (inner ++ '\x7d' :: rest) = .ok (false, '\x7d' :: rest) := by
  have blank : Blank inner := by
    cases first <;> cases ahead <;> assumption
  exact nextKey_eq_ok_false_iff.2 ⟨rest, dropWhile_mark blank rfl, rfl⟩

/-- The member that is ahead comes next, and the others behind it. -/
theorem Ahead.nextKey_cons {first : Bool} {item : List Letter × Spelling}
    {items : List (List Letter × Spelling)} {inner : List Char}
    (ahead : Ahead (Member Writes) first (item :: items) inner) (rest : List Char) :
    ∃ written later, Member Writes item ('"' :: written) ∧ Continued (Member Writes) items later ∧
      later.length < inner.length ∧
        nextKey first (inner ++ '\x7d' :: rest) = .ok (true, written ++ (later ++ '\x7d' :: rest)) := by
  cases first with
  | true =>
      cases ahead with
      | @some before written later _ _ blank writes continued =>
          obtain ⟨written, rfl⟩ := writes.exists_quote
          refine ⟨written, later, writes, continued,
            by simp only [List.length_append, List.length_cons]; omega, ?_⟩
          simp only [List.append_assoc, List.cons_append]
          exact nextKey_first_eq_ok_true_iff.2 (dropWhile_mark blank rfl)
  | false =>
      cases ahead with
      | @more after lead written later _ _ blankAfter blankLead writes continued =>
          obtain ⟨written, rfl⟩ := writes.exists_quote
          refine ⟨written, later, writes, continued,
            by simp only [List.length_append, List.length_cons]; omega, ?_⟩
          simp only [List.append_assoc, List.cons_append]
          exact nextKey_later_eq_ok_true_iff.2 ⟨_, dropWhile_mark blankAfter rfl,
            dropWhile_mark blankLead rfl⟩

/-- Where no member comes next the object ends, and none was ahead. -/
theorem exists_ahead_of_no_key {first : Bool} {between : List Char}
    (done : nextKey first text = .ok (false, between)) :
    ∃ inner rest, Ahead (Member Writes) first [] inner ∧ text = inner ++ '\x7d' :: rest ∧
      between = '\x7d' :: rest := by
  obtain ⟨rest, found, rfl⟩ := nextKey_eq_ok_false_iff.1 done
  obtain ⟨_, inner, blank, rfl⟩ := dropWhile_eq_cons_iff.1 found
  refine ⟨inner, rest, ?_, rfl, rfl⟩
  cases first with
  | true => exact .none blank
  | false => exact .done blank

/-- Where a member comes next it was ahead, and the others behind it. -/
theorem exists_ahead_of_key {first : Bool} {written later : List Char}
    {item : List Letter × Spelling} {items : List (List Letter × Spelling)}
    (next : nextKey first text = .ok (true, written ++ (later ++ '\x7d' :: rest)))
    (writes : Member Writes item ('"' :: written))
    (continued : Continued (Member Writes) items later) :
    ∃ inner, Ahead (Member Writes) first (item :: items) inner ∧ text = inner ++ '\x7d' :: rest := by
  cases first with
  | true =>
      obtain ⟨_, lead, blankLead, rfl⟩ :=
        dropWhile_eq_cons_iff.1 (nextKey_first_eq_ok_true_iff.1 next)
      exact ⟨_, .some blankLead writes continued, by simp⟩
  | false =>
      obtain ⟨opening, comma, quote⟩ := nextKey_later_eq_ok_true_iff.1 next
      obtain ⟨_, gap, blankGap, rfl⟩ := dropWhile_eq_cons_iff.1 comma
      obtain ⟨_, lead, blankLead, rfl⟩ := dropWhile_eq_cons_iff.1 quote
      exact ⟨_, .more blankGap blankLead writes continued, by simp⟩

/-- The members that are ahead are read up to the end of the object. -/
theorem Record.Filling.members_run (filling : record.Filling depth takes) {first : Bool}
    {items : List (List Letter × Spelling)} {inner : List Char}
    (ahead : Ahead (Member Writes) first items inner) {fuel : Nat} (enough : inner.length < fuel) :
    record.members depth fuel first state (inner ++ '\x7d' :: rest) = .ok (final, left) ↔
      Filled record takes state items final ∧ left = '\x7d' :: rest := by
  obtain ⟨fuel, rfl⟩ := Nat.exists_eq_succ_of_ne_zero (by omega : fuel ≠ 0)
  induction items generalizing first inner fuel state final left with
  | nil =>
      rw [members_eq_ok_iff, ahead.nextKey_nil]
      constructor
      · rintro (⟨⟨⟩, rfl⟩ | ⟨_, _, _, ⟨⟩, _⟩)
        exact ⟨.nil, rfl⟩
      · rintro ⟨filled, rfl⟩
        cases filled
        exact .inl ⟨rfl, rfl⟩
  | cons item items inductionHypothesis =>
      obtain ⟨written, later, writes, continued, shorter, more⟩ := ahead.nextKey_cons rest
      obtain ⟨fuel, rfl⟩ := Nat.exists_eq_succ_of_ne_zero (by omega : fuel ≠ 0)
      have read : ∀ next after, record.member depth state (written ++ (later ++ '\x7d' :: rest)) =
          .ok (next, after) ↔
            Admits record takes state item next ∧ after = later ++ '\x7d' :: rest :=
        fun next after => filling.member_run writes (continued.ends (by decide))
      have behind : ∀ next, record.members depth (fuel + 1) false next
          (later ++ '\x7d' :: rest) = .ok (final, left) ↔
            Filled record takes next items final ∧ left = '\x7d' :: rest := by
        have ahead : Ahead (Member Writes) false items later := continued
        exact fun next => inductionHypothesis ahead fuel (by omega)
      rw [members_eq_ok_iff, more]
      constructor
      · rintro (⟨⟨⟩, _⟩ | ⟨between, next, after, ⟨⟩, given, others⟩)
        obtain ⟨admits, rfl⟩ := (read next after).1 given
        obtain ⟨filled, rfl⟩ := (behind next).1 others
        exact ⟨.cons admits filled, rfl⟩
      · rintro ⟨filled, rfl⟩
        cases filled with
        | cons admits filled =>
            exact .inr ⟨_, _, _, rfl, (read _ _).2 ⟨admits, rfl⟩, (behind _).2 ⟨filled, rfl⟩⟩

/-- What is read as members up to the end of an object was that. -/
theorem Record.Filling.exists_members (filling : record.Filling depth takes) {fuel : Nat}
    {first : Bool} (given : record.members depth fuel first state text = .ok (final, left)) :
    ∃ items inner rest, Ahead (Member Writes) first items inner ∧
      Filled record takes state items final ∧ text = inner ++ '\x7d' :: rest ∧
        left = '\x7d' :: rest := by
  induction fuel generalizing first text state with
  | zero => cases given
  | succ fuel inductionHypothesis =>
      rcases members_eq_ok_iff.1 given with ⟨done, rfl⟩ | ⟨between, next, after, more, read, behind⟩
      · obtain ⟨inner, rest, ahead, rfl, rfl⟩ := exists_ahead_of_no_key done
        exact ⟨[], inner, rest, ahead, .nil, rfl, rfl⟩
      · obtain ⟨item, written, writes, admits, rfl⟩ := filling.exists_member read
        obtain ⟨items, later, rest, continued, filled, rfl, rfl⟩ := inductionHypothesis behind
        obtain ⟨inner, ahead, rfl⟩ := exists_ahead_of_key more writes continued
        exact ⟨item :: items, inner, rest, ahead, .cons admits filled, rfl, rfl⟩

/-! ## Items of arrays -/

/-- A field is filled from the next item of an array, or there is none and it is left out. -/
theorem fields_eq_ok_iff {field : Field draft} {fields : List (Field draft)} {index : Nat}
    {first : Bool} :
    record.elements depth (field :: fields) index first state text = .ok (final, left) ↔
      (∃ between next after, nextElement first text = .ok (true, between) ∧
        field.fill depth state between = .ok (next, after) ∧
          record.elements depth fields (index + 1) false next after = .ok (final, left)) ∨
        ∃ between, nextElement first text = .ok (false, between) ∧ field.required = false ∧
          record.elements depth fields (index + 1) first state between = .ok (final, left) := by
  rw [Record.elements, bind_eq_ok]
  constructor
  · rintro ⟨_ | _, between, more, given⟩
    · by_cases required : field.required = true
      · simp [required] at given
      · rw [Bool.not_eq_true] at required
        exact .inr ⟨between, more, required, by simpa [required] using given⟩
    · obtain ⟨next, after, read, later⟩ := bind_eq_ok.1 given
      exact .inl ⟨between, next, after, more, read, later⟩
  · rintro (⟨between, next, after, more, read, later⟩ | ⟨between, done, optional, later⟩)
    · exact ⟨true, between, more, bind_eq_ok.2 ⟨next, after, read, later⟩⟩
    · exact ⟨false, between, done, by simpa [optional] using later⟩

/-- Nothing is ahead where an array or an object ends at once. -/
theorem ahead_nil {β : Type} {writes : β → List Char → Prop} (first : Bool) :
    Ahead writes first [] [] := by
  cases first with
  | true => exact .none blank_nil
  | false => exact .done blank_nil

/-- An array ends exactly if no element is ahead. -/
theorem endArray_ahead {first : Bool} {items : List Spelling} {inner : List Char}
    (ahead : Ahead Writes first items inner) :
    endArray (inner ++ ']' :: rest) = .ok ((), left) ↔ items = [] ∧ left = rest := by
  rw [endArray_eq_ok_iff]
  constructor
  · intro found
    have done : nextElement first (inner ++ ']' :: rest) = .ok (false, ']' :: left) :=
      nextElement_eq_ok_false_iff.2 ⟨left, found, rfl⟩
    cases items with
    | nil =>
        rw [ahead.nextElement_nil] at done
        cases done
        exact ⟨rfl, rfl⟩
    | cons item items =>
        obtain ⟨_, _, _, _, _, next⟩ := ahead.nextElement_cons rest
        cases next.symm.trans done
  · rintro ⟨rfl, rfl⟩
    have done : nextElement first (inner ++ ']' :: left) = .ok (false, ']' :: left) :=
      ahead.nextElement_nil
    obtain ⟨_, found, same⟩ := nextElement_eq_ok_false_iff.1 done
    rw [found, same]

/-- The fields are filled from the items that are ahead, and the array ends behind them, exactly if
the items can be placed. -/
theorem Record.Filling.elements_run (filling : record.Filling depth takes)
    {fields : List (Field draft)} (some : fields ⊆ record.fields) {first : Bool} {index : Nat}
    {items : List Spelling} {inner : List Char} (ahead : Ahead Writes first items inner) :
    (∃ between, record.elements depth fields index first state (inner ++ ']' :: rest) =
        .ok (final, between) ∧ endArray between = .ok ((), left)) ↔
      Placed takes fields state items final ∧ left = rest := by
  induction fields generalizing items inner first index state with
  | nil =>
      constructor
      · rintro ⟨_, ⟨⟩, ended⟩
        obtain ⟨rfl, rfl⟩ := (endArray_ahead ahead).1 ended
        exact ⟨.done, rfl⟩
      · rintro ⟨placed, rfl⟩
        cases placed
        exact ⟨_, rfl, (endArray_ahead ahead).2 ⟨rfl, rfl⟩⟩
  | cons field fields inductionHypothesis =>
      obtain ⟨known, others⟩ := List.cons_subset.1 some
      simp only [fields_eq_ok_iff]
      cases items with
      | nil =>
          have behind := @inductionHypothesis state others first (index + 1) [] [] (ahead_nil first)
          rw [List.nil_append] at behind
          rw [ahead.nextElement_nil]
          constructor
          · rintro ⟨between, ⟨_, _, _, ⟨⟩, _⟩ | ⟨_, ⟨⟩, optional, given⟩, ended⟩
            obtain ⟨placed, rfl⟩ := behind.1 ⟨between, given, ended⟩
            exact ⟨.omitted optional placed, rfl⟩
          · rintro ⟨placed, rfl⟩
            cases placed with
            | omitted optional later =>
                obtain ⟨between, given, ended⟩ := behind.2 ⟨later, rfl⟩
                exact ⟨between, .inr ⟨_, rfl, optional, given⟩, ended⟩
      | cons item items =>
          obtain ⟨written, later, writes, continued, _, more⟩ := ahead.nextElement_cons rest
          have behind := fun next => @inductionHypothesis next others false (index + 1) items later
            continued
          have read : ∀ next after, field.fill depth state (written ++ (later ++ ']' :: rest)) =
              .ok (next, after) ↔ takes field state item next ∧ after = later ++ ']' :: rest :=
            fun next after => (filling field known state).decides blank_nil writes
              (continued.ends (by decide))
          rw [more]
          constructor
          · rintro ⟨between, ⟨_, next, after, ⟨⟩, given, filled⟩ | ⟨_, ⟨⟩, _⟩, ended⟩
            obtain ⟨taken, rfl⟩ := (read next after).1 given
            obtain ⟨placed, rfl⟩ := (behind next).1 ⟨between, filled, ended⟩
            exact ⟨.given taken placed, rfl⟩
          · rintro ⟨placed, rfl⟩
            cases placed with
            | given taken placed =>
                obtain ⟨between, filled, ended⟩ := (behind _).2 ⟨placed, rfl⟩
                exact ⟨between, .inl ⟨_, _, _, rfl, (read _ _).2 ⟨taken, rfl⟩, filled⟩, ended⟩

/-- What is read into the fields up to the end of an array was items that can be placed. -/
theorem Record.Filling.exists_elements (filling : record.Filling depth takes)
    {fields : List (Field draft)} (some : fields ⊆ record.fields) {first : Bool} {index : Nat}
    {between : List Char}
    (given : record.elements depth fields index first state text = .ok (final, between))
    (ended : endArray between = .ok ((), rest)) :
    ∃ items inner, Ahead Writes first items inner ∧ Placed takes fields state items final ∧
      text = inner ++ ']' :: rest := by
  induction fields generalizing first index state text with
  | nil =>
      cases given
      obtain ⟨_, inner, blank, rfl⟩ := dropWhile_eq_cons_iff.1 (endArray_eq_ok_iff.1 ended)
      refine ⟨[], inner, ?_, .done, rfl⟩
      cases first with
      | true => exact .none blank
      | false => exact .done blank
  | cons field fields inductionHypothesis =>
      obtain ⟨known, others⟩ := List.cons_subset.1 some
      rcases fields_eq_ok_iff.1 given with ⟨_, next, after, more, read, later⟩ |
        ⟨_, done, optional, later⟩
      · obtain ⟨items, inner, continued, placed, rfl⟩ := inductionHypothesis others later
        obtain ⟨lead, item, written, blankLead, writes, taken, split⟩ :=
          (filling field known state).sound read
        obtain ⟨whole, ahead, rfl⟩ :=
          exists_ahead_of_element more blankLead writes continued split
        exact ⟨item :: items, whole, ahead, .given taken placed, rfl⟩
      · obtain ⟨inner, behind, ahead, rfl, rfl⟩ := exists_ahead_of_no_element done
        obtain ⟨items, none, nothing, placed, split⟩ := inductionHypothesis others later
        have ended : nextElement first (none ++ ']' :: rest) = .ok (false, ']' :: behind) := by
          rw [← split]
          exact (ahead_nil first).nextElement_nil
        cases items with
        | nil =>
            rw [nothing.nextElement_nil] at ended
            cases ended
            exact ⟨[], inner, ahead, .omitted optional placed, by rw [split]⟩
        | cons item items =>
            obtain ⟨_, _, _, _, _, next⟩ := nothing.nextElement_cons rest
            cases next.symm.trans ended

/-! ## Whole records -/

/-- What a draft comes to is given where it stands. -/
theorem finish_eq_ok_iff {result : value} {complaint : String → Complaint} :
    (match record.finish state with
      | .ok value => pure value
      | .error name => stopFloating (complaint name) : Reader value) text = .ok (result, left) ↔
      record.finish state = .ok result ∧ left = text := by
  cases record.finish state with
  | ok value => simp [eq_comm]
  | error name => simp

/-- An object is read to what its members come to. -/
theorem ofObject_eq_ok_iff {result : value} :
    record.ofObject depth text = .ok (result, left) ↔
      ∃ state, record.members depth (text.length + 1) true record.empty text = .ok (state, left) ∧
        record.finish state = .ok result := by
  rw [Record.ofObject, bind_eq_ok]
  constructor
  · rintro ⟨state, between, read, finished⟩
    obtain ⟨result, rfl⟩ := finish_eq_ok_iff.1 finished
    exact ⟨state, read, result⟩
  · rintro ⟨state, read, finished⟩
    exact ⟨state, left, read, finish_eq_ok_iff.2 ⟨finished, rfl⟩⟩

/-- An array is read to what its items come to. -/
theorem ofArray_eq_ok_iff {result : value} :
    record.ofArray depth text = .ok (result, left) ↔
      ∃ state, record.elements depth record.fields 0 true record.empty text = .ok (state, left) ∧
        record.finish state = .ok result := by
  rw [Record.ofArray, bind_eq_ok]
  constructor
  · rintro ⟨state, between, read, finished⟩
    obtain ⟨result, rfl⟩ := finish_eq_ok_iff.1 finished
    exact ⟨state, read, result⟩
  · rintro ⟨state, read, finished⟩
    exact ⟨state, left, read, finish_eq_ok_iff.2 ⟨finished, rfl⟩⟩

/-- A record is read if its fields are. -/
theorem reads_record (deep : 1 < depth) (filling : record.Filling (depth - 1) takes) :
    Reads (record.read depth) (record.Fits takes) where
  sound {text rest result} given := by
    obtain ⟨_, between, ready, behind⟩ := bind_eq_ok.1 given
    obtain ⟨_, nonempty, before, blank, rfl⟩ := toValue_eq_ok_iff.1 ready
    obtain ⟨c, more, rfl⟩ := List.exists_cons_of_ne_nil nonempty
    rw [look_then] at behind
    by_cases brace : c = '\x7b'
    · subst brace
      obtain ⟨inside, given, ended⟩ := bracketed_eq_ok_iff.1 (enter_eq_ok_iff.1 behind).2
      obtain ⟨state, read, finished⟩ := ofObject_eq_ok_iff.1 given
      obtain ⟨members, inner, after, listed, filled, rfl, rfl⟩ := filling.exists_members read
      cases endObject_eq_ok_iff.1 ended
      exact ⟨before, .object members, _, blank, .object listed, .object filled finished, by simp⟩
    · by_cases bracket : c = '['
      · subst bracket
        obtain ⟨inside, given, ended⟩ := bracketed_eq_ok_iff.1 (enter_eq_ok_iff.1 behind).2
        obtain ⟨state, read, finished⟩ := ofArray_eq_ok_iff.1 given
        obtain ⟨items, inner, listed, placed, rfl⟩ :=
          filling.exists_elements (List.Subset.refl _) read ended
        exact ⟨before, .array items, _, blank, .array listed, .array placed finished, by simp⟩
      · exact (wrongType_ne_ok _ _ (by simpa [brace, bracket] using behind)).elim
  decides {before tree written rest result left} blank writes ends := by
    rw [Record.read, then_of_ok (toValue_run blank writes rest), look_then]
    cases writes with
    | @object members inner listed =>
        simp only [List.cons_append, List.append_assoc, List.nil_append]
        have ahead : Ahead (Member Writes) true members inner := listed
        have read : ∀ state between, record.members (depth - 1)
            ((inner ++ '\x7d' :: rest).length + 1) true record.empty (inner ++ '\x7d' :: rest) =
              .ok (state, between) ↔
                Filled record takes record.empty members state ∧ between = '\x7d' :: rest :=
          fun state between => filling.members_run ahead (by simp only [List.length_append]; omega)
        rw [enter_eq_ok_iff, bracketed_eq_ok_iff]
        simp only [ofObject_eq_ok_iff, read]
        constructor
        · rintro ⟨_, _, ⟨state, ⟨filled, rfl⟩, finished⟩, ended⟩
          cases endObject_eq_ok_iff.1 ended
          exact ⟨.object filled finished, rfl⟩
        · rintro ⟨fits, rfl⟩
          cases fits with
          | object filled finished =>
              exact ⟨deep, _, ⟨_, ⟨filled, rfl⟩, finished⟩, endObject_eq_ok_iff.2 rfl⟩
    | @array items inner listed =>
        simp only [List.cons_append, List.append_assoc, List.nil_append]
        have ahead : Ahead Writes true items inner := listed
        have read := fun state left => @filling.elements_run _ _ _ _ _ record.empty state rest left _
          (List.Subset.refl record.fields) true 0 items inner ahead
        rw [enter_eq_ok_iff, bracketed_eq_ok_iff]
        simp only [ofArray_eq_ok_iff]
        constructor
        · rintro ⟨_, between, ⟨state, given, finished⟩, ended⟩
          obtain ⟨placed, rfl⟩ := (read state left).1 ⟨between, given, ended⟩
          exact ⟨.array placed finished, rfl⟩
        · rintro ⟨fits, rfl⟩
          cases fits with
          | array placed finished =>
              obtain ⟨between, given, ended⟩ := (read _ left).2 ⟨placed, rfl⟩
              exact ⟨deep, between, ⟨_, given, finished⟩, ended⟩
    | number numeral =>
        refine iff_of_false ?_ ?_
        · obtain ⟨c, more, split, first⟩ := numeral.written_eq_cons
          have other : c ≠ '[' ∧ c ≠ '\x7b' :=
            ⟨ne_of_begins first (by decide), ne_of_begins first (by decide)⟩
          simpa [split, other] using wrongType_ne_ok _ _
        · rintro ⟨⟨⟩, _⟩
    | null | yes | no | text =>
        refine iff_of_false (wrongType_ne_ok _ _) ?_
        rintro ⟨⟨⟩, _⟩

end

end MetricProbe.Json
