import MetricProbe.Json.Tree
import MetricProbe.Proofs.Json.Scalars
import MetricProbe.Proofs.Json.Slots

/-!
# Values of any shape, as they are written

Which tree a written value is read as. The tree keeps the order of the items and members; a number
is kept as its value and a text as the characters that it means, so a value with a number beyond the
range or with letters that mean nothing has no tree, wherever they are in it. Neither has a value
that nests more deeply than is allowed.
-/

namespace MetricProbe.Json

open Reader
open Decimal (isDigit)

/-! ## Trees of values -/

/-- An entry of a tree keeps a member of an object. -/
def Entry (inner : Spelling → Tree → Prop) (member : List Letter × Spelling)
    (entry : String × Tree) : Prop :=
  IsText (.text member.1) entry.1 ∧ inner member.2 entry.2

/-- A tree keeps a value, given which trees keep the values in it and whether there may be any. -/
inductive Keeps (nests : Prop) (inner : Spelling → Tree → Prop) : Spelling → Tree → Prop where
  | null : Keeps nests inner .null .null
  | boolean (value : Bool) : Keeps nests inner (.boolean value) (.boolean value)
  | number {numeral : Numeral} {number : Number} (meant : numeral.value? = some number) :
      Keeps nests inner (.number numeral) (.number number)
  | text {letters : List Letter} {value : String} (isText : IsText (.text letters) value) :
      Keeps nests inner (.text letters) (.text value)
  | array {items : List Spelling} {elements : List Tree} (deep : nests)
      (fitting : List.Forall₂ inner items elements) :
      Keeps nests inner (.array items) (.array elements)
  | object {members : List (List Letter × Spelling)} {entries : List (String × Tree)} (deep : nests)
      (fitting : List.Forall₂ (Entry inner) members entries) :
      Keeps nests inner (.object members) (.object entries)

/-- A tree keeps a value that nests no more deeply than is allowed. -/
def IsTree : Nat → Spelling → Tree → Prop
  | 0 => fun _ _ => False
  | depth + 1 => Keeps (depth ≠ 0) (IsTree depth)

/-- Null is kept as null. -/
theorem isTree_null_iff {depth : Nat} {tree : Tree} :
    IsTree (depth + 1) .null tree ↔ tree = .null := by
  constructor
  · rintro ⟨⟩
    rfl
  · rintro rfl
    exact .null

/-- A truth value is kept as it is. -/
theorem isTree_boolean_iff {depth : Nat} {value : Bool} {tree : Tree} :
    IsTree (depth + 1) (.boolean value) tree ↔ tree = .boolean value := by
  constructor
  · rintro ⟨⟩
    rfl
  · rintro rfl
    exact .boolean value

/-- A number is kept as what it means. -/
theorem isTree_number_iff {depth : Nat} {numeral : Numeral} {tree : Tree} :
    IsTree (depth + 1) (.number numeral) tree ↔
      ∃ number, numeral.value? = some number ∧ tree = .number number := by
  constructor
  · rintro (_ | _ | meant)
    exact ⟨_, meant, rfl⟩
  · rintro ⟨number, meant, rfl⟩
    exact .number meant

/-- Letters are kept as the text that they mean. -/
theorem isTree_text_iff {depth : Nat} {letters : List Letter} {tree : Tree} :
    IsTree (depth + 1) (.text letters) tree ↔
      ∃ value, IsText (.text letters) value ∧ tree = .text value := by
  constructor
  · rintro (_ | _ | _ | isText)
    exact ⟨_, isText, rfl⟩
  · rintro ⟨value, isText, rfl⟩
    exact .text isText

/-- An array is kept as an array of what keeps its items, if it may nest. -/
theorem isTree_array_iff {depth : Nat} {items : List Spelling} {tree : Tree} :
    IsTree (depth + 1) (.array items) tree ↔
      depth ≠ 0 ∧ ∃ elements, List.Forall₂ (IsTree depth) items elements ∧
        tree = .array elements := by
  constructor
  · rintro (_ | _ | _ | _ | ⟨deep, fitting⟩)
    exact ⟨deep, _, fitting, rfl⟩
  · rintro ⟨deep, elements, fitting, rfl⟩
    exact .array deep fitting

/-- An object is kept as an object of what keeps its members, if it may nest. -/
theorem isTree_object_iff {depth : Nat} {members : List (List Letter × Spelling)} {tree : Tree} :
    IsTree (depth + 1) (.object members) tree ↔
      depth ≠ 0 ∧ ∃ entries, List.Forall₂ (Entry (IsTree depth)) members entries ∧
        tree = .object entries := by
  constructor
  · rintro (_ | _ | _ | _ | _ | ⟨deep, fitting⟩)
    exact ⟨deep, _, fitting, rfl⟩
  · rintro ⟨deep, entries, fitting, rfl⟩
    exact .object deep fitting

/-! ## Members -/

section

variable {value : Reader Tree} {fits : Spelling → Tree → Prop} {text rest left : List Char}

/-- Reads a member behind the opening quote of its key. -/
def treeMember (value : Reader Tree) : Reader (String × Tree) := do
  let key ← textTail
  colon
  let tree ← value
  pure (key, tree)

/-- A member is a key, a colon and a value. -/
theorem treeMember_eq_ok_iff {entry : String × Tree} :
    treeMember value text = .ok (entry, left) ↔
      ∃ behindKey behindColon, textTail text = .ok (entry.1, behindKey) ∧
        colon behindKey = .ok ((), behindColon) ∧ value behindColon = .ok (entry.2, left) := by
  constructor
  · intro given
    obtain ⟨key, behindKey, named, given⟩ := bind_eq_ok.1 given
    obtain ⟨_, behindColon, separated, given⟩ := bind_eq_ok.1 given
    obtain ⟨tree, _, valued, result⟩ := bind_eq_ok.1 given
    cases result
    exact ⟨behindKey, behindColon, named, separated, valued⟩
  · rintro ⟨behindKey, behindColon, named, separated, valued⟩
    exact bind_eq_ok.2 ⟨_, behindKey, named, bind_eq_ok.2 ⟨(), behindColon, separated,
      bind_eq_ok.2 ⟨_, left, valued, rfl⟩⟩⟩

/-- The members up to the end of an object are none, or one and those behind it. -/
theorem treeMembers_eq_ok_iff {fuel : Nat} {first : Bool} {entries : List (String × Tree)} :
    treeMembers value (fuel + 1) first text = .ok (entries, left) ↔
      (nextKey first text = .ok (false, left) ∧ entries = []) ∨
        ∃ between entry after others, nextKey first text = .ok (true, between) ∧
          treeMember value between = .ok (entry, after) ∧
            treeMembers value fuel false after = .ok (others, left) ∧
              entries = entry :: others := by
  rw [treeMembers, bind_eq_ok]
  constructor
  · rintro ⟨_ | _, between, more, given⟩
    · cases given
      exact .inl ⟨more, rfl⟩
    · obtain ⟨key, behindKey, named, given⟩ := bind_eq_ok.1 given
      obtain ⟨_, behindColon, separated, given⟩ := bind_eq_ok.1 given
      obtain ⟨tree, after, valued, given⟩ := bind_eq_ok.1 given
      obtain ⟨others, _, later, result⟩ := bind_eq_ok.1 given
      cases result
      exact .inr ⟨between, (key, tree), after, others, more,
        treeMember_eq_ok_iff.2 ⟨behindKey, behindColon, named, separated, valued⟩, later, rfl⟩
  · rintro (⟨done, rfl⟩ | ⟨between, entry, after, others, more, read, later, rfl⟩)
    · exact ⟨false, left, done, rfl⟩
    · obtain ⟨behindKey, behindColon, named, separated, valued⟩ := treeMember_eq_ok_iff.1 read
      exact ⟨true, between, more, bind_eq_ok.2 ⟨_, behindKey, named, bind_eq_ok.2 ⟨(), behindColon,
        separated, bind_eq_ok.2 ⟨_, after, valued, bind_eq_ok.2 ⟨others, left, later, rfl⟩⟩⟩⟩⟩

/-- A member is read whole behind its opening quote, as the entry that keeps it. -/
theorem Reads.treeMember_run (reads : Reads value fits) {item : List Letter × Spelling}
    {written : List Char} (writes : Member Writes item ('"' :: written)) (ends : Ends rest)
    {entry : String × Tree} :
    treeMember value (written ++ rest) = .ok (entry, left) ↔
      Entry fits item entry ∧ left = rest := by
  obtain ⟨key, tree⟩ := item
  generalize same : '"' :: written = whole at writes
  cases writes with
  | @mk _ _ gap lead inner blankGap blankLead valued =>
      rw [quoted, List.cons_append] at same
      obtain rfl := (List.cons.inj same).2
      simp only [List.append_assoc, List.cons_append, List.nil_append]
      have separated : ∀ between, colon (gap ++ ':' :: (lead ++ (inner ++ rest))) =
          .ok ((), between) ↔ between = lead ++ (inner ++ rest) := by
        intro between
        rw [colon_eq_ok_iff, dropWhile_mark blankGap rfl]
        simp [eq_comm]
      rw [treeMember_eq_ok_iff]
      constructor
      · rintro ⟨behindKey, behindColon, named, passed, valuedAs⟩
        obtain ⟨isText, rfl⟩ := textTail_run.1 named
        obtain rfl := (separated behindColon).1 passed
        obtain ⟨fit, rfl⟩ := (reads.decides blankLead valued ends).1 valuedAs
        exact ⟨⟨isText, fit⟩, rfl⟩
      · rintro ⟨⟨isText, fit⟩, rfl⟩
        exact ⟨_, _, textTail_run.2 ⟨isText, rfl⟩, (separated _).2 rfl,
          (reads.decides blankLead valued ends).2 ⟨fit, rfl⟩⟩

/-- What is read as a member behind its opening quote was one. -/
theorem Reads.exists_treeMember (reads : Reads value fits) {entry : String × Tree}
    (given : treeMember value text = .ok (entry, rest)) :
    ∃ item written, Member Writes item ('"' :: written) ∧ Entry fits item entry ∧
      text = written ++ rest := by
  obtain ⟨behindKey, behindColon, named, passed, valued⟩ := treeMember_eq_ok_iff.1 given
  obtain ⟨letters, isText, rfl⟩ := exists_letters_of_textTail named
  obtain ⟨_, gap, blankGap, rfl⟩ := dropWhile_eq_cons_iff.1 (colon_eq_ok_iff.1 passed)
  obtain ⟨lead, tree, written, blankLead, writes, fit, rfl⟩ := reads.sound valued
  have whole : Member Writes (letters, tree)
      (quoted letters ++ (gap ++ ':' :: (lead ++ written))) := .mk blankGap blankLead writes
  rw [quoted, List.cons_append] at whole
  exact ⟨(letters, tree), _, whole, ⟨isText, fit⟩, by simp⟩

/-- The members that are ahead are read up to the end of the object. -/
theorem Reads.treeMembers_run (reads : Reads value fits) {first : Bool}
    {items : List (List Letter × Spelling)} {inner : List Char}
    (ahead : Ahead (Member Writes) first items inner) {fuel : Nat} (enough : inner.length < fuel)
    {entries : List (String × Tree)} :
    treeMembers value fuel first (inner ++ '\x7d' :: rest) = .ok (entries, left) ↔
      List.Forall₂ (Entry fits) items entries ∧ left = '\x7d' :: rest := by
  obtain ⟨fuel, rfl⟩ := Nat.exists_eq_succ_of_ne_zero (by omega : fuel ≠ 0)
  induction items generalizing first inner fuel entries left with
  | nil =>
      rw [treeMembers_eq_ok_iff, ahead.nextKey_nil, List.forall₂_nil_left_iff]
      simp [and_comm, eq_comm]
  | cons item items inductionHypothesis =>
      obtain ⟨written, later, writes, continued, shorter, more⟩ := ahead.nextKey_cons rest
      obtain ⟨fuel, rfl⟩ := Nat.exists_eq_succ_of_ne_zero (by omega : fuel ≠ 0)
      have read : ∀ entry after, treeMember value (written ++ (later ++ '\x7d' :: rest)) =
          .ok (entry, after) ↔ Entry fits item entry ∧ after = later ++ '\x7d' :: rest :=
        fun entry after => reads.treeMember_run writes (continued.ends (by decide))
      have behind : ∀ others left, treeMembers value (fuel + 1) false (later ++ '\x7d' :: rest) =
          .ok (others, left) ↔ List.Forall₂ (Entry fits) items others ∧ left = '\x7d' :: rest := by
        have ahead : Ahead (Member Writes) false items later := continued
        exact fun others left => inductionHypothesis ahead fuel (by omega)
      rw [treeMembers_eq_ok_iff, more, List.forall₂_cons_left_iff]
      constructor
      · rintro (⟨⟨⟩, _⟩ | ⟨between, entry, after, others, ⟨⟩, given, rest, rfl⟩)
        obtain ⟨fit, rfl⟩ := (read entry after).1 given
        obtain ⟨fitting, rfl⟩ := (behind others left).1 rest
        exact ⟨⟨entry, others, fit, fitting, rfl⟩, rfl⟩
      · rintro ⟨⟨entry, others, fit, fitting, rfl⟩, rfl⟩
        exact .inr ⟨_, entry, _, others, rfl, (read entry _).2 ⟨fit, rfl⟩,
          (behind others _).2 ⟨fitting, rfl⟩, rfl⟩

/-- What is read as members up to the end of an object was that. -/
theorem Reads.exists_treeMembers (reads : Reads value fits) {fuel : Nat} {first : Bool}
    {entries : List (String × Tree)}
    (given : treeMembers value fuel first text = .ok (entries, left)) :
    ∃ items inner rest, Ahead (Member Writes) first items inner ∧
      List.Forall₂ (Entry fits) items entries ∧ text = inner ++ '\x7d' :: rest ∧
        left = '\x7d' :: rest := by
  induction fuel generalizing first text entries with
  | zero => cases given
  | succ fuel inductionHypothesis =>
      rcases treeMembers_eq_ok_iff.1 given with ⟨done, rfl⟩ | ⟨between, entry, after, others, more,
        read, behind, rfl⟩
      · obtain ⟨inner, rest, ahead, rfl, rfl⟩ := exists_ahead_of_no_key done
        exact ⟨[], inner, rest, ahead, .nil, rfl, rfl⟩
      · obtain ⟨item, written, writes, fit, rfl⟩ := reads.exists_treeMember read
        obtain ⟨items, later, rest, continued, fitting, rfl, rfl⟩ := inductionHypothesis behind
        obtain ⟨inner, ahead, rfl⟩ := exists_ahead_of_key more writes continued
        exact ⟨item :: items, inner, rest, ahead, .cons fit fitting, rfl, rfl⟩

end

/-! ## Reading trees -/

section

variable {α β : Type} {depth : Nat} {text rest left : List Char}

/-- What is read is put into another form behind a mark that is taken first. -/
theorem moveTo_map_eq_ok_iff {inside : Reader α} {form : α → β} {out : β} :
    (moveTo rest >>= fun _ => inside >>= fun value => pure (form value) : Reader β) text =
        .ok (out, left) ↔
      ∃ value, inside rest = .ok (value, left) ∧ out = form value := by
  rw [moveTo_then, bind_eq_ok]
  constructor
  · rintro ⟨value, _, read, result⟩
    cases result
    exact ⟨value, read, rfl⟩
  · rintro ⟨value, read, rfl⟩
    exact ⟨value, left, read, rfl⟩

/-- What nests is read where the nesting allows for it. -/
theorem nested_eq_ok_iff {inside : Reader α} {out : α × List Char} :
    (if depth = 0 then stopAtNext .tooDeep else inside : Reader α) text = .ok out ↔
      depth ≠ 0 ∧ inside text = .ok out := by
  by_cases flat : depth = 0
  · rw [if_pos flat]
    exact iff_of_false (stopAtNext_ne_ok _ _ _) fun nested => nested.1 flat
  · rw [if_neg flat]
    exact ⟨fun read => ⟨flat, read⟩, fun nested => nested.2⟩

/-- What is in brackets is read where the nesting allows for it, and put into another form. -/
theorem enclosed_eq_ok_iff {close : List Char → List Char} {finish : Reader Unit}
    {inside : Reader α} {form : α → β} {fitting : α → Prop} {ending : List Char}
    (read : ∀ value between, inside text = .ok (value, between) ↔
      fitting value ∧ between = ending)
    (ended : finish ending = .ok ((), rest)) {other : List Char} {out : β} :
    (if depth = 0 then stopAtNext .tooDeep
      else moveTo text >>= fun _ => bracketed close finish inside >>= fun value =>
        pure (form value) : Reader β) other = .ok (out, left) ↔
      (depth ≠ 0 ∧ ∃ value, fitting value ∧ out = form value) ∧ left = rest := by
  rw [nested_eq_ok_iff, moveTo_map_eq_ok_iff]
  constructor
  · rintro ⟨deep, value, enclosed, rfl⟩
    obtain ⟨between, given, finished⟩ := bracketed_eq_ok_iff.1 enclosed
    obtain ⟨fits, rfl⟩ := (read value between).1 given
    cases ended.symm.trans finished
    exact ⟨⟨deep, value, fits, rfl⟩, rfl⟩
  · rintro ⟨⟨deep, value, fits, rfl⟩, rfl⟩
    exact ⟨deep, value, bracketed_eq_ok_iff.2 ⟨ending, (read value ending).2 ⟨fits, rfl⟩, ended⟩,
      rfl⟩

end

/-- What is read as a value of any shape was one, if that holds for the values in it. -/
theorem exists_of_tree {depth : Nat} (below : Reads (tree depth) (IsTree depth))
    {text rest : List Char} {value : Tree} (given : tree (depth + 1) text = .ok (value, rest)) :
    ∃ before spelling written, Blank before ∧ Writes spelling written ∧
      IsTree (depth + 1) spelling value ∧ text = before ++ (written ++ rest) := by
  obtain ⟨_, between, ready, behind⟩ := bind_eq_ok.1 given
  obtain ⟨_, filled, before, blank, rfl⟩ := toValue_eq_ok_iff.1 ready
  suffices inside : ∃ spelling written, Writes spelling written ∧
      IsTree (depth + 1) spelling value ∧ between = written ++ rest by
    obtain ⟨spelling, written, writes, keeps, rfl⟩ := inside
    exact ⟨before, spelling, written, blank, writes, keeps, rfl⟩
  obtain ⟨c, more, rfl⟩ := List.exists_cons_of_ne_nil filled
  rw [look_then] at behind
  -- The first character tells the shape; a number is what is left if none of the others begins.
  by_cases first : c ∈ ['n', 't', 'f', '"', '[', '\x7b']
  · simp only [List.mem_cons, List.not_mem_nil, or_false] at first
    rcases first with rfl | rfl | rfl | rfl | rfl | rfl
    · obtain ⟨rfl, rfl⟩ := word_then_eq_ok_iff.1 behind
      exact ⟨.null, _, .null, .null, rfl⟩
    · obtain ⟨rfl, rfl⟩ := word_then_eq_ok_iff.1 behind
      exact ⟨.boolean true, _, .yes, .boolean true, rfl⟩
    · obtain ⟨rfl, rfl⟩ := word_then_eq_ok_iff.1 behind
      exact ⟨.boolean false, _, .no, .boolean false, rfl⟩
    · obtain ⟨text, named, rfl⟩ := moveTo_map_eq_ok_iff.1 behind
      obtain ⟨letters, isText, rfl⟩ := exists_letters_of_textTail named
      exact ⟨.text letters, _, .text letters, .text isText, by simp [quoted]⟩
    · obtain ⟨deep, nested⟩ := nested_eq_ok_iff.1 behind
      obtain ⟨elements, enclosed, rfl⟩ := moveTo_map_eq_ok_iff.1 nested
      obtain ⟨between, read, ended⟩ := bracketed_eq_ok_iff.1 enclosed
      obtain ⟨items, inner, after, listed, fitting, rfl, rfl⟩ := below.exists_elements read
      cases endArray_eq_ok_iff.1 ended
      exact ⟨.array items, _, .array listed, .array deep fitting, by simp⟩
    · obtain ⟨deep, nested⟩ := nested_eq_ok_iff.1 behind
      obtain ⟨entries, enclosed, rfl⟩ := moveTo_map_eq_ok_iff.1 nested
      obtain ⟨between, read, ended⟩ := bracketed_eq_ok_iff.1 enclosed
      obtain ⟨members, inner, after, listed, fitting, rfl, rfl⟩ := below.exists_treeMembers read
      cases endObject_eq_ok_iff.1 ended
      exact ⟨.object members, _, .object listed, .object deep fitting, by simp⟩
  · simp only [List.mem_cons, List.not_mem_nil, or_false, not_or] at first
    obtain ⟨notNull, notTrue, notFalse, notText, notArray, notObject⟩ := first
    simp only at behind
    by_cases begins : beginsNumber c = true
    · rw [if_pos begins] at behind
      obtain ⟨number, _, read, result⟩ := bind_eq_ok.1 behind
      cases result
      obtain ⟨numeral, split, meant⟩ := exists_numeral_of_number read
      exact ⟨.number numeral, _, .number numeral, .number meant, split⟩
    · rw [if_neg begins] at behind
      exact (stopAtNext_ne_ok _ _ _ behind).elim

/-- A number that is there is read as what it means. -/
theorem tree_run_number {depth : Nat} {before rest left : List Char} (blank : Blank before)
    (numeral : Numeral) (ends : Ends rest) {value : Tree} :
    tree (depth + 1) (before ++ (numeral.written ++ rest)) = .ok (value, left) ↔
      (∃ number, numeral.value? = some number ∧ value = .number number) ∧ left = rest := by
  rw [tree, then_of_ok (toValue_run blank (.number numeral) rest), look_then]
  obtain ⟨c, more, split, first⟩ := numeral.written_eq_cons
  have begins : beginsNumber c = true := beginsNumber_iff.2 first
  have read : ∀ number after, Json.number (numeral.written ++ rest) = .ok (number, after) ↔
      numeral.value? = some number ∧ after = rest :=
    fun number after => number_run (ends.stops numeral.fraction numeral.exponent)
  have notNull : c ≠ 'n' := ne_of_begins first (by decide)
  have notTrue : c ≠ 't' := ne_of_begins first (by decide)
  have notFalse : c ≠ 'f' := ne_of_begins first (by decide)
  have notText : c ≠ '"' := ne_of_begins first (by decide)
  have notArray : c ≠ '[' := ne_of_begins first (by decide)
  have notObject : c ≠ '\x7b' := ne_of_begins first (by decide)
  rw [split, List.cons_append] at read ⊢
  simp only [begins, if_true]
  rw [bind_eq_ok]
  constructor
  · rintro ⟨number, after, given, result⟩
    obtain ⟨meant, rfl⟩ := (read number after).1 given
    cases result
    exact ⟨⟨number, meant, rfl⟩, rfl⟩
  · rintro ⟨⟨number, meant, rfl⟩, rfl⟩
    exact ⟨number, left, (read number left).2 ⟨meant, rfl⟩, rfl⟩

/-- A value that is there is read as the tree that keeps it, if that holds for the values in it. -/
theorem tree_run {depth : Nat} (below : Reads (tree depth) (IsTree depth))
    {before written rest left : List Char} {spelling : Spelling} {value : Tree}
    (blank : Blank before) (writes : Writes spelling written) (ends : Ends rest) :
    tree (depth + 1) (before ++ (written ++ rest)) = .ok (value, left) ↔
      IsTree (depth + 1) spelling value ∧ left = rest := by
  cases writes with
  | number numeral => rw [tree_run_number blank numeral ends, isTree_number_iff]
  | null =>
      rw [tree, then_of_ok (toValue_run blank .null rest), look_then, isTree_null_iff]
      simp only [List.cons_append, List.nil_append, moveTo_then]
      exact word_run ['u', 'l', 'l']
  | yes =>
      rw [tree, then_of_ok (toValue_run blank .yes rest), look_then, isTree_boolean_iff]
      simp only [List.cons_append, List.nil_append, moveTo_then]
      exact word_run ['r', 'u', 'e']
  | no =>
      rw [tree, then_of_ok (toValue_run blank .no rest), look_then, isTree_boolean_iff]
      simp only [List.cons_append, List.nil_append, moveTo_then]
      exact word_run ['a', 'l', 's', 'e']
  | text letters =>
      rw [tree, then_of_ok (toValue_run blank (.text letters) rest), look_then, isTree_text_iff]
      simp only [quoted, List.cons_append, List.append_assoc, List.nil_append]
      rw [moveTo_map_eq_ok_iff]
      constructor
      · rintro ⟨text, named, rfl⟩
        obtain ⟨isText, rfl⟩ := textTail_run.1 named
        exact ⟨⟨text, isText, rfl⟩, rfl⟩
      · rintro ⟨⟨text, isText, rfl⟩, rfl⟩
        exact ⟨text, textTail_run.2 ⟨isText, rfl⟩, rfl⟩
  | @array items inner listed =>
      have ahead : Ahead Writes true items inner := listed
      rw [tree, then_of_ok (toValue_run blank (.array listed) rest), look_then, isTree_array_iff]
      simp only [List.cons_append, List.append_assoc, List.nil_append]
      have ended : endArray (']' :: rest) = .ok ((), rest) := endArray_eq_ok_iff.2 rfl
      refine enclosed_eq_ok_iff (fun elements between => ?_) ended
      exact below.elements_run ahead (by simp only [List.length_append]; omega)
  | @object members inner listed =>
      have ahead : Ahead (Member Writes) true members inner := listed
      rw [tree, then_of_ok (toValue_run blank (.object listed) rest), look_then, isTree_object_iff]
      simp only [List.cons_append, List.append_assoc, List.nil_append]
      have ended : endObject ('\x7d' :: rest) = .ok ((), rest) := endObject_eq_ok_iff.2 rfl
      refine enclosed_eq_ok_iff (fun entries between => ?_) ended
      exact below.treeMembers_run ahead (by simp only [List.length_append]; omega)

/-- Values of any shape are read. -/
theorem reads_tree (depth : Nat) : Reads (tree depth) (IsTree depth) := by
  induction depth with
  | zero =>
      constructor
      · intro text rest value given
        exact (stopAtNext_ne_ok _ _ _ given).elim
      · intro before spelling written rest value left _ _ _
        exact iff_of_false (stopAtNext_ne_ok _ _ _) fun ⟨nothing, _⟩ => nothing
  | succ depth inductionHypothesis =>
      constructor
      · intro text rest value given
        exact exists_of_tree inductionHypothesis given
      · intro before spelling written rest value left blank writes ends
        exact tree_run inductionHypothesis blank writes ends

/-- What comes of a value that is read is the result, and nothing more is taken for it. -/
theorem Reads.choose {α β : Type} {reader : Reader α} {fits : Spelling → α → Prop}
    (reads : Reads reader fits) {choice : α → Option β} {next : α → Reader β}
    (gives : ∀ value text result left, next value text = .ok (result, left) ↔
      choice value = some result ∧ left = text) :
    Reads (reader >>= next)
      fun tree result => ∃ value, fits tree value ∧ choice value = some result := by
  have chosen : ∀ text rest result, (reader >>= next) text = .ok (result, rest) ↔
      ∃ value, reader text = .ok (value, rest) ∧ choice value = some result := by
    intro text rest result
    rw [bind_eq_ok]
    constructor
    · rintro ⟨value, between, read, given⟩
      obtain ⟨came, rfl⟩ := (gives value between result rest).1 given
      exact ⟨value, read, came⟩
    · rintro ⟨value, read, came⟩
      exact ⟨value, rest, read, (gives value rest result rest).2 ⟨came, rfl⟩⟩
  constructor
  · intro text rest result given
    obtain ⟨value, read, came⟩ := (chosen text rest result).1 given
    obtain ⟨before, tree, written, blank, writes, fit, split⟩ := reads.sound read
    exact ⟨before, tree, written, blank, writes, ⟨value, fit, came⟩, split⟩
  · intro before tree written rest result left blank writes ends
    rw [chosen]
    constructor
    · rintro ⟨value, read, came⟩
      obtain ⟨fit, rfl⟩ := (reads.decides blank writes ends).1 read
      exact ⟨⟨value, fit, came⟩, rfl⟩
    · rintro ⟨⟨value, fit, came⟩, rfl⟩
      exact ⟨value, (reads.decides blank writes ends).2 ⟨fit, rfl⟩, came⟩

/-! ## Looking into trees -/

section

variable {depth : Nat} {spelling : Spelling} {kept : Tree}

/-- What is kept does not nest too deeply. -/
theorem IsTree.exists_depth (keeps : IsTree depth spelling kept) : ∃ below, depth = below + 1 := by
  cases depth with
  | zero => exact keeps.elim
  | succ below => exact ⟨below, rfl⟩

/-- Letters mean one text. -/
theorem IsText.unique {text other : String} (isText : IsText spelling text)
    (isOther : IsText spelling other) : text = other := by
  obtain ⟨letters, chars, rfl, meant, rfl⟩ := isText
  obtain ⟨_, _, ⟨⟩, meantOther, rfl⟩ := isOther
  rw [Option.some.inj (meant.symm.trans meantOther)]

/-- Letters that mean a text are a name exactly if the text is. -/
theorem names_eq_of_isText {letters : List Letter} {text name : String}
    (isText : IsText (.text letters) text) : Names name letters = (text == name) := by
  obtain ⟨_, chars, ⟨⟩, meant, rfl⟩ := isText
  rw [Names, meant, Bool.eq_iff_iff]
  simp [String.ext_iff]

/-- The values of the members with a name are kept as the values of the entries with it. -/
theorem forall₂_values {inner : Spelling → Tree → Prop} {name : String}
    {members : List (List Letter × Spelling)} {entries : List (String × Tree)}
    (fitting : List.Forall₂ (Entry inner) members entries) :
    List.Forall₂ inner ((members.filter (Names name ·.1)).map (·.2))
      ((entries.filter (·.1 == name)).map (·.2)) := by
  induction fitting with
  | nil => exact .nil
  | @cons member entry members entries fit _ inductionHypothesis =>
      rw [List.filter_cons, List.filter_cons, names_eq_of_isText fit.1]
      cases entry.1 == name with
      | true => exact .cons fit.2 inductionHypothesis
      | false => exact inductionHypothesis

/-- The keys of members that are kept mean texts. -/
theorem isSome_meaning_of_kept {inner : Spelling → Tree → Prop}
    {members : List (List Letter × Spelling)} {entries : List (String × Tree)}
    (fitting : List.Forall₂ (Entry inner) members entries) :
    ∀ member ∈ members, (meaning? member.1).isSome = true := by
  induction fitting with
  | nil => exact nofun
  | cons fit _ inductionHypothesis =>
      obtain ⟨⟨_, chars, ⟨⟩, meant, _⟩, _⟩ := fit
      exact List.forall_mem_cons.2 ⟨by rw [meant]; rfl, inductionHypothesis⟩

end

end MetricProbe.Json
