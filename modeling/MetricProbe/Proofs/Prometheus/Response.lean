import MetricProbe.Prometheus.Response
import MetricProbe.Proofs.Datadog.Response
import MetricProbe.Proofs.Decimal.Literal
import MetricProbe.Proofs.Json.Rows
import MetricProbe.Proofs.Json.Trees

/-!
# What answers of Prometheus report

An answer is described as it is written, without a reader: which values are pairs, samples and
results, and which text a result reports. The reader reports the number that this text is a literal
of, and where there is none it says what is wrong with the body as it came.

A result is a list of samples or a pair by itself, told apart by shape alone: no value is both
(`IsPair.not_listOf`), and the empty array is a list. To be tried as one and then as the other, a
result is kept as a tree first, so what stands beside the values of its samples still has to be
something that can be kept.
-/

namespace MetricProbe.Prometheus

open Datadog (Alike)
open Decimal (IsLiteral IsNan)
open Json

/-! ## What answers look like -/

/-- A pair is a list of a timestamp and the text of a value. -/
def IsPair (tree : Spelling) (sample : Sample) : Prop :=
  ∃ time value, tree = .array [time, value] ∧ IsFloat time sample.time ∧ IsText value sample.value

/-- A sample has a pair as its value. -/
def IsSample (tree : Spelling) (sample : Sample) : Prop :=
  ∃ value, Holds "value" tree (some value) ∧ IsPair value sample

/-- A result is a list of samples, or a pair by itself. -/
inductive IsResult (tree : Spelling) : Result → Prop where
  | vector {samples : List Sample} (list : ListOf IsSample tree samples) :
      IsResult tree (.vector samples)
  | scalar {sample : Sample} (pair : IsPair tree sample) : IsResult tree (.scalar sample)

/-- A value can be kept, whatever it is: its numbers are within the range, its texts mean something,
and it does not nest too deeply for the place that results have in answers. -/
def Keepable (tree : Spelling) : Prop :=
  ∃ kept, IsTree (depthLimit - 2) tree kept

/-- An answer has data, which have this value as their result. -/
def HasResult (tree result : Spelling) : Prop :=
  ∃ data, Holds "data" tree (some data) ∧ Holds "result" data (some result)

/-- An answer has a result. -/
def IsResponse (tree : Spelling) (result : Result) : Prop :=
  ∃ inner, HasResult tree inner ∧ Keepable inner ∧ IsResult inner result

/-- A body is a way to write an answer. -/
def Decodes (body : String) (result : Result) : Prop :=
  ∃ tree, IsDocument body tree ∧ IsResponse tree result

/-! ## Trees of results -/

section

variable {depth : Nat} {spelling : Spelling} {kept : Tree}

/-- The pair that is looked up in a tree is the one that was written. -/
theorem pair?_eq_some_iff (keeps : IsTree depth spelling kept) {sample : Sample} :
    pair? kept = some sample ↔ IsPair spelling sample := by
  obtain ⟨depth, rfl⟩ := keeps.exists_depth
  constructor
  · intro found
    cases keeps with
    | null | boolean | number | text | object => cases found
    | array deep fitting =>
        obtain ⟨depth, rfl⟩ := Nat.exists_eq_succ_of_ne_zero deep
        rcases fitting with _ | ⟨first, _ | ⟨second, _ | _⟩⟩
        · cases found
        · cases first <;> cases found
        · cases first with
          | number meant =>
              cases second with
              | text isText =>
                  cases found
                  exact ⟨_, _, rfl, ⟨_, _, rfl, meant, rfl⟩, isText⟩
              | null | boolean | number | array | object => cases found
          | null | boolean | text | array | object => cases found
        · cases first <;> cases second <;> cases found
  · rintro ⟨time, value, rfl, ⟨numeral, number, rfl, meant, isTime⟩, isValue⟩
    cases keeps with
    | array deep fitting =>
        obtain ⟨depth, rfl⟩ := Nat.exists_eq_succ_of_ne_zero deep
        rcases fitting with _ | ⟨first, _ | ⟨second, _ | _⟩⟩
        obtain ⟨letters, chars, rfl, _, _⟩ := id isValue
        cases first with
        | number meantOther =>
            obtain rfl := Option.some.inj (meant.symm.trans meantOther)
            cases second with
            | text isText =>
                obtain rfl := isText.unique isValue
                rw [pair?, ← isTime]

/-- The sample that is looked up in a tree is the one that was written. -/
theorem sample?_eq_some_iff (keeps : IsTree depth spelling kept) {sample : Sample} :
    sample? kept = some sample ↔ IsSample spelling sample := by
  obtain ⟨depth, rfl⟩ := keeps.exists_depth
  constructor
  · intro found
    cases keeps with
    | null | boolean | number | text => cases found
    | array deep fitting =>
        rcases fitting with _ | ⟨first, _ | _⟩
        · cases found
        · exact ⟨_, .array rfl, (pair?_eq_some_iff first).1 found⟩
        · cases found
    | @object members entries deep fitting =>
        have values := @forall₂_values _ "value" _ _ fitting
        rw [sample?] at found
        split at found
        · next key value same =>
          rw [same, List.map_singleton] at values
          obtain ⟨item, _, keepsItem, none, written⟩ := List.forall₂_cons_right_iff.1 values
          rw [List.forall₂_nil_right_iff.1 none] at written
          exact ⟨item, .object (isSome_meaning_of_kept fitting) written,
            (pair?_eq_some_iff keepsItem).1 found⟩
        · cases found
  · rintro ⟨value, holds, pair⟩
    cases holds with
    | array held =>
        subst held
        cases keeps with
        | array deep fitting =>
            rcases fitting with _ | ⟨first, _ | _⟩
            exact (pair?_eq_some_iff first).2 pair
    | object meant held =>
        cases keeps with
        | @object _ entries deep fitting =>
            have values := @forall₂_values _ "value" _ _ fitting
            rw [held, Option.toList_some] at values
            obtain ⟨inner, _, keepsInner, none, found⟩ := List.forall₂_cons_left_iff.1 values
            rw [List.forall₂_nil_left_iff.1 none] at found
            obtain ⟨entry, same, rfl⟩ := List.map_eq_singleton_iff.1 found
            rw [sample?, same]
            exact (pair?_eq_some_iff keepsInner).2 pair

/-- Each item of a list is mapped to something exactly if the whole list is. -/
theorem mapM_eq_some_iff {α β : Type} {f : α → Option β} {items : List α} {values : List β} :
    items.mapM f = some values ↔
      List.Forall₂ (fun item value => f item = some value) items values := by
  induction items generalizing values with
  | nil => simp [eq_comm]
  | cons item items inductionHypothesis =>
      rw [List.mapM_cons, List.forall₂_cons_left_iff]
      cases found : f item with
      | none => simp
      | some value =>
          simp [← inductionHypothesis, Option.bind_eq_some_iff, @eq_comm _ values]

/-- The samples that are looked up in trees are those that were written. -/
theorem forall₂_sample?_iff {items : List Spelling} {elements : List Tree}
    (fitting : List.Forall₂ (IsTree depth) items elements) {samples : List Sample} :
    List.Forall₂ (fun element sample => sample? element = some sample) elements samples ↔
      List.Forall₂ IsSample items samples := by
  induction fitting generalizing samples with
  | nil => simp
  | cons fit _ inductionHypothesis =>
      simp only [List.forall₂_cons_left_iff, sample?_eq_some_iff fit, inductionHypothesis]

/-- The list of samples that is looked up in a tree is the one that was written. -/
theorem vector?_eq_some_iff (keeps : IsTree depth spelling kept) {samples : List Sample} :
    vector? kept = some samples ↔ ListOf IsSample spelling samples := by
  obtain ⟨depth, rfl⟩ := keeps.exists_depth
  cases keeps with
  | null | boolean | number | text | object =>
      refine iff_of_false nofun ?_
      rintro ⟨_, ⟨⟩, _⟩
  | array deep fitting =>
      rw [vector?, mapM_eq_some_iff, forall₂_sample?_iff fitting]
      constructor
      · intro isList
        exact ⟨_, rfl, isList⟩
      · rintro ⟨_, ⟨⟩, isList⟩
        exact isList

/-- A pair is no list of samples. -/
theorem IsPair.not_listOf {sample : Sample} (pair : IsPair spelling sample)
    (samples : List Sample) : ¬ ListOf IsSample spelling samples := by
  -- The first item of a pair is a number, which has no slot for the value of a sample.
  obtain ⟨_, _, rfl, ⟨numeral, _, rfl, _⟩, _⟩ := pair
  rintro ⟨_, ⟨⟩, fitting⟩
  cases fitting with
  | cons isSample _ =>
      obtain ⟨_, holds, _⟩ := isSample
      cases holds

/-- The result that is looked up in a tree is the one that was written. -/
theorem ofTree?_eq_some_iff (keeps : IsTree depth spelling kept) {result : Result} :
    Result.ofTree? kept = some result ↔ IsResult spelling result := by
  rw [Result.ofTree?]
  constructor
  · intro found
    cases vector : vector? kept with
    | some samples =>
        rw [vector] at found
        cases found
        exact .vector ((vector?_eq_some_iff keeps).1 vector)
    | none =>
        rw [vector] at found
        obtain ⟨sample, pair, rfl⟩ := Option.map_eq_some_iff.1 found
        exact .scalar ((pair?_eq_some_iff keeps).1 pair)
  · intro isResult
    cases isResult with
    | vector list => rw [(vector?_eq_some_iff keeps).2 list]
    | scalar pair =>
        have none : vector? kept = none := by
          rw [Option.eq_none_iff_forall_ne_some]
          exact fun samples vector => pair.not_listOf samples ((vector?_eq_some_iff keeps).1 vector)
        rw [none, (pair?_eq_some_iff keeps).2 pair]
        rfl

end

/-! ## Reading answers -/

section

variable {name : String} {read : Nat → Reader Result} {fits : Spelling → Result → Prop}
  {record : Record (Option Result) Result} {depth : Nat}

/-- A record with nothing but a result is read if the result is. -/
theorem reads_record_result
    (fields : record.fields = [(Column.needed ⟨name, none⟩ id (fun _ result => some result) read
      fits id : Column (Option Result) Result).field])
    (empty : record.empty = none)
    (finish : ∀ draft, record.finish draft = draft.elim (.error name) .ok) (deep : 1 < depth)
    (reads : Reads (read (depth - 1)) fits) :
    Reads (record.read depth) fun tree result =>
      ∃ inner, Holds name tree (some inner) ∧ fits inner result := by
  have table := table_single fields empty (fun _ _ => rfl) (fun _ _ same => same)
    (fun state result => by cases state <;> simp [finish, Column.needed]) (fun _ _ => nofun)
  refine (table.reads_single (fun _ => Column.slot_needed) deep reads).congr fun tree result => ?_
  constructor
  · rintro ⟨_, holds, inner, rfl, fit⟩
    exact ⟨inner, holds, fit⟩
  · rintro ⟨inner, holds, fit⟩
    exact ⟨some inner, holds, inner, rfl, fit⟩

/-- Results are read, as deep as they may nest. -/
theorem reads_result : Reads (Result.read depth) fun tree result =>
    (∃ kept, IsTree depth tree kept) ∧ IsResult tree result := by
  have chosen : Reads (Result.read depth) fun tree result =>
      ∃ kept, IsTree depth tree kept ∧ Result.ofTree? kept = some result := by
    refine (reads_tree depth).choose fun kept text result left => ?_
    cases Result.ofTree? kept with
    | none => exact iff_of_false (stopFloating_ne_ok _ _ _) nofun
    | some found => simp [eq_comm]
  refine chosen.congr fun tree result => ?_
  constructor
  · rintro ⟨kept, keeps, found⟩
    exact ⟨⟨kept, keeps⟩, (ofTree?_eq_some_iff keeps).1 found⟩
  · rintro ⟨⟨kept, keeps⟩, isResult⟩
    exact ⟨kept, keeps, (ofTree?_eq_some_iff keeps).2 isResult⟩

/-- Answers are read. -/
theorem reads_response : Reads (responseRecord.read depthLimit) IsResponse := by
  have result : Reads (Result.read (depthLimit - 1 - 1)) fun tree result =>
      Keepable tree ∧ IsResult tree result := reads_result
  have data := @reads_record_result "result" _ _ dataRecord (depthLimit - 1) rfl rfl (fun _ => rfl)
    (by decide) result
  refine (@reads_record_result "data" _ _ responseRecord depthLimit rfl rfl (fun _ => rfl)
    (by decide) data).congr fun tree result => ?_
  constructor
  · rintro ⟨data, holds, inner, holdsResult, keepable, isResult⟩
    exact ⟨inner, ⟨data, holds, holdsResult⟩, keepable, isResult⟩
  · rintro ⟨inner, ⟨data, holds, holdsResult⟩, keepable, isResult⟩
    exact ⟨data, holds, inner, holdsResult, keepable, isResult⟩

/-- Bodies are decoded to the results that they are written for. -/
theorem decode_eq_ok_iff {body : String} {result : Result} :
    Json.decode responseRecord.read body = .ok result ↔ Decodes body result :=
  reads_response.decode_eq_ok_iff

/-- What a body decodes to is told by what is written in it. -/
theorem decodes_iff_of_document {body : String} {tree : Spelling} (written : IsDocument body tree)
    {result : Result} : Decodes body result ↔ IsResponse tree result :=
  decode_eq_ok_iff.symm.trans (reads_response.decode_document_iff written)

end

/-! ## The value that is reported -/

/-- A result reports the text of its last sample, or of the pair that it is. -/
inductive Reports : Result → String → Prop where
  | vector {earlier : List Sample} {last : Sample} :
      Reports (.vector (earlier ++ [last])) last.value
  | scalar {sample : Sample} : Reports (.scalar sample) sample.value

section

variable {body : String} {result : Result} {text : String}

/-- The text that is looked up is the one that is reported. -/
theorem latest?_eq_some_iff : result.latest? = some text ↔ Reports result text := by
  constructor
  · intro found
    cases result with
    | vector samples =>
        obtain ⟨last, isLast, rfl⟩ := Option.map_eq_some_iff.1 found
        obtain ⟨earlier, rfl⟩ := List.getLast?_eq_some_iff.1 isLast
        exact .vector
    | scalar sample =>
        cases found
        exact .scalar
  · intro reports
    cases reports with
    | vector => simp [Result.latest?]
    | scalar => rfl

/-- Nothing is looked up exactly if there are no samples. -/
theorem latest?_eq_none_iff : result.latest? = none ↔ result = .vector [] := by
  cases result <;> simp [Result.latest?]

/-- An empty vector reports no value. -/
theorem readResponse_of_empty (decodes : Decodes body (.vector [])) :
    readResponse body = .error (.noValues body) := by
  simp only [readResponse, decode_eq_ok_iff.2 decodes, latest?_eq_none_iff.2]

/-- A literal is the value, unless it is no number. -/
theorem readResponse_of_literal (decodes : Decodes body result) (reports : Reports result text)
    {value : Binary64} (literal : IsLiteral text.toList value) :
    readResponse body = if value = .nan then .error (.noValues body) else .ok value := by
  have read := Decimal.readLiteral_eq_ok_iff.2 literal
  cases value <;>
    simp [readResponse, decode_eq_ok_iff.2 decodes, latest?_eq_some_iff.2 reports, read]

/-- A text that is no literal is reported with its body. -/
theorem readResponse_of_malformed (decodes : Decodes body result) (reports : Reports result text)
    (malformed : ∀ value, ¬ IsLiteral text.toList value) :
    ∃ fault : Decimal.LiteralFault, readResponse body =
      .error (.decode s!"invalid sample value '{text}': {fault.message}" body) := by
  cases read : Decimal.readLiteral text with
  | ok value => exact (malformed value (Decimal.readLiteral_eq_ok_iff.1 read)).elim
  | error fault =>
      refine ⟨fault, ?_⟩
      simp only [readResponse, decode_eq_ok_iff.2 decodes, latest?_eq_some_iff.2 reports, read]

/-- A body that is no answer is reported as it is. -/
theorem readResponse_of_not_decodes (undecodable : ∀ result, ¬ Decodes body result) :
    ∃ reason, readResponse body = .error (.decode reason body) := by
  cases decoded : Json.decode responseRecord.read body with
  | ok result => exact (undecodable result (decode_eq_ok_iff.1 decoded)).elim
  | error fault => exact ⟨fault.message, by simp only [readResponse, decoded]⟩

/-- What a body can be: no answer, an answer without samples, or an answer that reports a text,
which is a literal or none. -/
theorem decodes_cases (body : String) :
    (∀ result, ¬ Decodes body result) ∨ Decodes body (.vector []) ∨
      ∃ result text, Decodes body result ∧ Reports result text ∧
        ((∃ value, IsLiteral text.toList value) ∨ ∀ value, ¬ IsLiteral text.toList value) := by
  by_cases decodable : ∃ result, Decodes body result
  · obtain ⟨result, decodes⟩ := decodable
    cases latest : result.latest? with
    | none =>
        obtain rfl := latest?_eq_none_iff.1 latest
        exact .inr (.inl decodes)
    | some text =>
        have literal : (∃ value, IsLiteral text.toList value) ∨
            ∀ value, ¬ IsLiteral text.toList value := by
          by_cases literal : ∃ value, IsLiteral text.toList value
          · exact .inl literal
          · exact .inr fun value isLiteral => literal ⟨value, isLiteral⟩
        exact .inr (.inr ⟨result, text, decodes, latest?_eq_some_iff.1 latest, literal⟩)
  · exact .inl fun result decodes => decodable ⟨result, decodes⟩

/-- There is no value exactly if there are no samples, or the text that is reported is the word for
what is no number. -/
theorem readResponse_eq_noValues_iff :
    readResponse body = .error (.noValues body) ↔ Decodes body (.vector []) ∨
      ∃ result text, Decodes body result ∧ Reports result text ∧ IsNan text.toList := by
  constructor
  · intro reported
    rcases decodes_cases body with undecodable | empty | ⟨result, text, decodes, reports, literal⟩
    · obtain ⟨_, failed⟩ := readResponse_of_not_decodes undecodable
      cases failed.symm.trans reported
    · exact .inl empty
    · rcases literal with ⟨value, literal⟩ | malformed
      · rw [readResponse_of_literal decodes reports literal] at reported
        by_cases nan : value = .nan
        · subst nan
          exact .inr ⟨result, text, decodes, reports, Decimal.isLiteral_nan_iff.1 literal⟩
        · rw [if_neg nan] at reported
          cases reported
      · obtain ⟨_, failed⟩ := readResponse_of_malformed decodes reports malformed
        cases failed.symm.trans reported
  · rintro (empty | ⟨result, text, decodes, reports, isNan⟩)
    · exact readResponse_of_empty empty
    · rw [readResponse_of_literal decodes reports (Decimal.isLiteral_nan_iff.2 isNan), if_pos rfl]

/-- There is a value exactly if the text that is reported is a literal for it and it is a number. -/
theorem readResponse_eq_ok_iff {value : Binary64} :
    readResponse body = .ok value ↔ value ≠ .nan ∧
      ∃ result text, Decodes body result ∧ Reports result text ∧ IsLiteral text.toList value := by
  constructor
  · intro reported
    rcases decodes_cases body with undecodable | empty | ⟨result, text, decodes, reports, literal⟩
    · obtain ⟨_, failed⟩ := readResponse_of_not_decodes undecodable
      cases failed.symm.trans reported
    · cases (readResponse_of_empty empty).symm.trans reported
    · rcases literal with ⟨other, literal⟩ | malformed
      · rw [readResponse_of_literal decodes reports literal] at reported
        by_cases nan : other = .nan
        · rw [if_pos nan] at reported
          cases reported
        · rw [if_neg nan] at reported
          cases reported
          exact ⟨nan, result, text, decodes, reports, literal⟩
      · obtain ⟨_, failed⟩ := readResponse_of_malformed decodes reports malformed
        cases failed.symm.trans reported
  · rintro ⟨number, result, text, decodes, reports, literal⟩
    rw [readResponse_of_literal decodes reports literal, if_neg number]

end

/-! ## What makes no difference -/

section

variable {body other : String} {result otherResult : Result} {text : String}

/-- Answers that report the same text end alike, whatever else is in them. -/
theorem alike_of_reports (decodes : Decodes body result) (decodesOther : Decodes other otherResult)
    (reports : Reports result text) (reportsOther : Reports otherResult text) :
    Alike (readResponse body) (readResponse other) := by
  by_cases literal : ∃ value, IsLiteral text.toList value
  · obtain ⟨value, literal⟩ := literal
    rw [readResponse_of_literal decodes reports literal,
      readResponse_of_literal decodesOther reportsOther literal]
    by_cases nan : value = .nan
    · rw [if_pos nan, if_pos nan]
      exact .noValues
    · rw [if_neg nan, if_neg nan]
      exact .value value
  · have malformed : ∀ value, ¬ IsLiteral text.toList value :=
      fun value isLiteral => literal ⟨value, isLiteral⟩
    obtain ⟨_, failed⟩ := readResponse_of_malformed decodes reports malformed
    obtain ⟨_, failedOther⟩ := readResponse_of_malformed decodesOther reportsOther malformed
    rw [failed, failedOther]
    exact .decode

/-- Bodies that are no answers end alike. -/
theorem alike_of_not_decodes (undecodable : ∀ result, ¬ Decodes body result)
    (undecodableOther : ∀ result, ¬ Decodes other result) :
    Alike (readResponse body) (readResponse other) := by
  obtain ⟨_, failed⟩ := readResponse_of_not_decodes undecodable
  obtain ⟨_, failedOther⟩ := readResponse_of_not_decodes undecodableOther
  rw [failed, failedOther]
  exact .decode

/-- Bodies end alike if what is written in them is the same answer, or none. -/
theorem alike_of_isResponse_iff {tree otherTree : Spelling} (written : IsDocument body tree)
    (writtenOther : IsDocument other otherTree)
    (same : ∀ result, IsResponse tree result ↔ IsResponse otherTree result) :
    Alike (readResponse body) (readResponse other) := by
  have decodes_iff : ∀ result, Decodes body result ↔ Decodes other result := by
    intro result
    rw [decodes_iff_of_document written, decodes_iff_of_document writtenOther, same]
  rcases decodes_cases body with undecodable | empty | ⟨result, text, decodes, reports, _⟩
  · exact alike_of_not_decodes undecodable fun result decodes =>
      undecodable result ((decodes_iff result).2 decodes)
  · rw [readResponse_of_empty empty, readResponse_of_empty ((decodes_iff _).1 empty)]
    exact .noValues
  · exact alike_of_reports decodes ((decodes_iff result).1 decodes) reports reports

/-- An answer has one result. -/
theorem HasResult.unique {tree inner otherInner : Spelling} (has : HasResult tree inner)
    (hasOther : HasResult tree otherInner) : inner = otherInner := by
  obtain ⟨data, holdsData, holds⟩ := has
  obtain ⟨otherData, holdsOtherData, holdsOther⟩ := hasOther
  obtain rfl : data = otherData := Option.some.inj (holdsData.unique holdsOtherData)
  exact Option.some.inj (holds.unique holdsOther)

/-- An answer with a result is decoded to what the result is, if that can be kept. -/
theorem HasResult.decodes_iff {tree inner : Spelling} (has : HasResult tree inner)
    (written : IsDocument body tree) :
    Decodes body result ↔ Keepable inner ∧ IsResult inner result := by
  rw [decodes_iff_of_document written]
  constructor
  · rintro ⟨_, hasOther, isResult⟩
    obtain rfl := has.unique hasOther
    exact isResult
  · intro isResult
    exact ⟨inner, has, isResult⟩

/-- A pair can be kept. -/
theorem IsPair.keepable {tree : Spelling} {sample : Sample} (pair : IsPair tree sample) :
    Keepable tree := by
  obtain ⟨_, _, rfl, ⟨numeral, number, rfl, meant, _⟩, isText⟩ := pair
  obtain ⟨letters, _, rfl, _⟩ := id isText
  have time : IsTree (depthLimit - 3) (.number numeral) (.number number) := .number meant
  have value : IsTree (depthLimit - 3) (.text letters) (.text sample.value) := .text isText
  exact ⟨.array [.number number, .text sample.value],
    .array (by decide) (.cons time (.cons value .nil))⟩

/-- A single sample and its pair by itself are decoded together, and report the same. -/
theorem alike_of_pair {tree otherTree sample : Spelling} {numeral : Numeral} {letters : List Letter}
    (written : IsDocument body tree) (writtenOther : IsDocument other otherTree)
    (vector : HasResult tree (.array [sample]))
    (holds : Holds "value" sample (some (.array [.number numeral, .text letters])))
    (keeps : Keepable (.array [.number numeral, .text letters]) → Keepable (.array [sample]))
    (scalar : HasResult otherTree (.array [.number numeral, .text letters])) :
    Alike (readResponse body) (readResponse other) := by
  -- Either both report the text of the pair, or neither is decoded.
  by_cases isPair : ∃ inner, IsPair (.array [.number numeral, .text letters]) inner
  · obtain ⟨inner, pair⟩ := isPair
    have isVector : IsResult (.array [sample]) (.vector ([] ++ [inner])) :=
      .vector ⟨_, rfl, .cons ⟨_, holds, pair⟩ .nil⟩
    exact alike_of_reports ((vector.decodes_iff written).2 ⟨keeps pair.keepable, isVector⟩)
      ((scalar.decodes_iff writtenOther).2 ⟨pair.keepable, .scalar pair⟩) .vector .scalar
  · refine alike_of_not_decodes (fun result decodes => isPair ?_) (fun result decodes => isPair ?_)
    · obtain ⟨_, isResult⟩ := (vector.decodes_iff written).1 decodes
      cases isResult with
      | vector list =>
          obtain ⟨_, ⟨⟩, fitting⟩ := list
          cases fitting with
          | cons isSample _ =>
              obtain ⟨value, holdsValue, pair⟩ := isSample
              obtain rfl := Option.some.inj (holds.unique holdsValue)
              exact ⟨_, pair⟩
      | scalar pair => obtain ⟨_, _, ⟨⟩, _⟩ := pair
    · obtain ⟨_, isResult⟩ := (scalar.decodes_iff writtenOther).1 decodes
      cases isResult with
      | vector list =>
          obtain ⟨_, ⟨⟩, fitting⟩ := list
          cases fitting with
          | cons isSample _ =>
              obtain ⟨_, holdsValue, _⟩ := isSample
              cases holdsValue
      | scalar pair => exact ⟨_, pair⟩

end

/-- A body that is an answer without samples, or reports the word for what is no number, reports
that there is no value; a body that reports any other literal reports its number; any other body
cannot be decoded, and failures quote the body as it came, and the text if there is one. So a value
that is reported is a number, nothing but the text of the last sample makes a difference, and a
single sample ends like its pair by itself. -/
theorem readResponse_reports_last (body : String) :
    (readResponse body = .error (.noValues body) ↔ Decodes body (.vector []) ∨
      ∃ result text, Decodes body result ∧ Reports result text ∧ IsNan text.toList) ∧
      (∀ value, readResponse body = .ok value ↔ value ≠ .nan ∧
        ∃ result text, Decodes body result ∧ Reports result text ∧
          IsLiteral text.toList value) ∧
      (∀ result text, Decodes body result → Reports result text →
        (∀ value, ¬ IsLiteral text.toList value) →
          ∃ fault : Decimal.LiteralFault, readResponse body =
            .error (.decode s!"invalid sample value '{text}': {fault.message}" body)) ∧
      ((∀ result, ¬ Decodes body result) →
        ∃ reason, readResponse body = .error (.decode reason body)) ∧
      (∀ other result otherResult text, Decodes body result → Decodes other otherResult →
        Reports result text → Reports otherResult text →
          Alike (readResponse body) (readResponse other)) ∧
      ∀ other tree otherTree sample numeral letters, IsDocument body tree →
        IsDocument other otherTree → HasResult tree (.array [sample]) →
          Holds "value" sample (some (.array [.number numeral, .text letters])) →
            (Keepable (.array [.number numeral, .text letters]) → Keepable (.array [sample])) →
              HasResult otherTree (.array [.number numeral, .text letters]) →
                Alike (readResponse body) (readResponse other) := by
  refine ⟨readResponse_eq_noValues_iff, fun value => readResponse_eq_ok_iff,
    fun _ _ decodes reports malformed => readResponse_of_malformed decodes reports malformed,
    readResponse_of_not_decodes, ?_, ?_⟩
  · intro other result otherResult text decodes decodesOther reports reportsOther
    exact alike_of_reports decodes decodesOther reports reportsOther
  · intro other tree otherTree sample numeral letters written writtenOther vector holds keeps scalar
    exact alike_of_pair written writtenOther vector holds keeps scalar

/-- A vector whose last value is five, beside the scalar of that sample, a value that is no number,
one that is no literal, a text that is no answer, and a single sample beside its pair. -/
theorem readResponse_reports_last_five :
    readResponse "\x7b\"data\":\x7b\"result\":[[[1,\"x\"]],[[2,\"5\"]]]\x7d\x7d" =
        .ok (Binary64.ofInt 5) ∧
      Alike (readResponse "\x7b\"data\":\x7b\"result\":[[[1,\"x\"]],[[2,\"5\"]]]\x7d\x7d")
        (readResponse "\x7b\"data\":\x7b\"result\":[2,\"5\"]\x7d\x7d") ∧
      readResponse "[[[1,\"-NaN\"]]]" = .error (.noValues "[[[1,\"-NaN\"]]]") ∧
      (∃ reason, readResponse "[[[1,\"5 \"]]]" = .error (.decode reason "[[[1,\"5 \"]]]")) ∧
      (∃ reason, readResponse "x" = .error (.decode reason "x")) ∧
      Alike (readResponse "[[[[[2,\"5\"]]]]]") (readResponse "[[[2,\"5\"]]]") := by
  have vector : Decodes "\x7b\"data\":\x7b\"result\":[[[1,\"x\"]],[[2,\"5\"]]]\x7d\x7d"
      (.vector ([⟨Binary64.ofInt 1, "x"⟩] ++ [⟨Binary64.ofInt 2, "5"⟩])) :=
    decode_eq_ok_iff.1 (by decide +kernel)
  have scalar : Decodes "\x7b\"data\":\x7b\"result\":[2,\"5\"]\x7d\x7d"
      (.scalar ⟨Binary64.ofInt 2, "5"⟩) :=
    decode_eq_ok_iff.1 (by decide +kernel)
  have nan : Decodes "[[[1,\"-NaN\"]]]" (.scalar ⟨Binary64.ofInt 1, "-NaN"⟩) :=
    decode_eq_ok_iff.1 (by decide +kernel)
  have blank : Decodes "[[[1,\"5 \"]]]" (.scalar ⟨Binary64.ofInt 1, "5 "⟩) :=
    decode_eq_ok_iff.1 (by decide +kernel)
  have failed : (Json.decode responseRecord.read "x").toOption = none := by decide +kernel
  have undecodable : ∀ result, ¬ Decodes "x" result := by
    intro result decodes
    rw [decode_eq_ok_iff.2 decodes] at failed
    cases failed
  have five : IsLiteral "5".toList (Binary64.ofInt 5) :=
    Decimal.readLiteral_eq_ok_iff.1 (by decide +kernel)
  have malformed : ∀ value, ¬ IsLiteral "5 ".toList value := by
    intro value literal
    have read := Decimal.readLiteral_eq_ok_iff.2 literal
    have refused : Decimal.readLiteral "5 " = .error .malformed := by decide +kernel
    cases refused.symm.trans read
  let two : Numeral :=
    ⟨false, ['2'], [], none, .inr ⟨⟨'2', [], rfl, by decide⟩, List.forall_mem_singleton.2 rfl⟩,
      List.forall_mem_nil _⟩
  have wrap : ∀ {tree text}, Writes tree text → Writes (.array [tree]) _ :=
    fun writes => .array (.some blank_nil writes (.done blank_nil))
  have pair : Writes (.array [.number two, .text (plainLetters "5")]) _ :=
    .array (.some blank_nil (.number two) (.more blank_nil blank_nil (.text _) (.done blank_nil)))
  have single : IsDocument "[[[[[2,\"5\"]]]]]" _ :=
    ⟨[], _, [], blank_nil, wrap (wrap (wrap (wrap pair))), blank_nil, by decide⟩
  have bare : IsDocument "[[[2,\"5\"]]]" _ :=
    ⟨[], _, [], blank_nil, wrap (wrap pair), blank_nil, by decide⟩
  have time : IsTree (depthLimit - 5) (.number two) (.number (.integer 2)) := .number (by decide)
  have value : IsTree (depthLimit - 5) (.text (plainLetters "5")) (.text "5") :=
    .text ⟨_, _, rfl, rfl, rfl⟩
  have keeps : Keepable (.array [.array [.array [.number two, .text (plainLetters "5")]]]) :=
    ⟨.array [.array [.array [.number (.integer 2), .text "5"]]], .array (by decide)
      (.cons (.array (by decide) (.cons (.array (by decide) (.cons time (.cons value .nil))) .nil))
        .nil)⟩
  refine ⟨?_, ?_, ?_, ?_, (readResponse_reports_last "x").2.2.2.1 undecodable, ?_⟩
  · exact ((readResponse_reports_last _).2.1 _).2
      ⟨Binary64.ofRatio_ne_nan, _, _, vector, .vector, five⟩
  · exact (readResponse_reports_last _).2.2.2.2.1 _ _ _ _ vector scalar .vector .scalar
  · exact (readResponse_reports_last _).1.2 (.inr ⟨_, _, nan, .scalar, .minus, _, rfl, rfl⟩)
  · obtain ⟨_, failed⟩ := (readResponse_reports_last _).2.2.1 _ _ blank .scalar malformed
    exact ⟨_, failed⟩
  · exact (readResponse_reports_last _).2.2.2.2.2 _ _ _ _ _ _ single bare
      ⟨_, .array rfl, .array rfl⟩ (.array rfl) (fun _ => keeps) ⟨_, .array rfl, .array rfl⟩

end MetricProbe.Prometheus
