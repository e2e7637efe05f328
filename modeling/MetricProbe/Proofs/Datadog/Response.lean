import MetricProbe.Datadog.Response
import MetricProbe.Proofs.Json.Range
import MetricProbe.Proofs.Json.Rows
import Mathlib.Logic.Relation

/-!
# What answers of Datadog report

An answer is described as it is written, without a reader: which values are points, series and
answers, and which number an answer has as its latest. The reader reports exactly that number, and
where there is none, or the body is no answer, it says so with the body as it came.

Only the second element of the last point of the first series counts, but everything else still has
to be of the right shape; where a list is missing, null or empty makes no difference.
-/

namespace MetricProbe.Datadog

open Json

/-! ## What answers look like -/

/-- A point is a list of numbers, each of which may be null. -/
def IsPoint : Spelling → Point → Prop :=
  ListOf (OrNull IsFloat)

/-- A series has a list of points. -/
def IsSeries (tree : Spelling) (series : Series) : Prop :=
  ∃ content, Holds "pointlist" tree content ∧ MayList IsPoint content series.points

/-- An answer has a list of series. -/
def IsResponse (tree : Spelling) (response : Response) : Prop :=
  ∃ content, Holds "series" tree content ∧ MayList IsSeries content response.series

/-- A body is a way to write an answer. -/
def Decodes (body : String) (response : Response) : Prop :=
  ∃ tree, IsDocument body tree ∧ IsResponse tree response

/-! ## Reading answers -/

section

variable {depth : Nat}

/-- Points are read. -/
theorem reads_point (deep : 1 < depth) :
    Reads (Json.array (fun _ => optional float) depth) IsPoint :=
  reads_array deep (reads_optional reads_float)

/-- The points of a series are its only column. -/
theorem table_series : Table seriesRecord
    [.defaulted ⟨"pointlist", none⟩ [] (·.points) (fun _ points => ⟨some points⟩)
      (Json.arrayOrNull (Json.array fun _ => optional float)) (ListOrNull IsPoint) (·.points)] :=
  table_single rfl rfl (fun _ _ => rfl) (fun ⟨_⟩ ⟨_⟩ same => congrArg SeriesDraft.mk same)
    (fun _ ⟨_⟩ => by simp [seriesRecord, Column.defaulted]) nofun

/-- The series of an answer are its only column. -/
theorem table_response : Table responseRecord
    [.defaulted ⟨"series", none⟩ [] (·.series) (fun _ series => ⟨some series⟩)
      (Json.arrayOrNull seriesRecord.read) (ListOrNull IsSeries) (·.series)] :=
  table_single rfl rfl (fun _ _ => rfl) (fun ⟨_⟩ ⟨_⟩ same => congrArg ResponseDraft.mk same)
    (fun _ ⟨_⟩ => by simp [responseRecord, Column.defaulted]) nofun

/-- Series are read. -/
theorem reads_series (deep : 3 < depth) : Reads (seriesRecord.read depth) IsSeries := by
  have points := reads_arrayOrNull (by omega) (reads_point (by omega : 1 < depth - 1 - 1))
  refine (table_series.reads_single (fun _ => Column.slot_defaulted) (by omega) points).congr ?_
  intro tree series
  simp only [orElse_listOrNull_iff, IsSeries]

/-- Answers are read. -/
theorem reads_response (deep : 5 < depth) : Reads (responseRecord.read depth) IsResponse := by
  have series := reads_arrayOrNull (by omega) (reads_series (by omega : 3 < depth - 1 - 1))
  refine (table_response.reads_single (fun _ => Column.slot_defaulted) (by omega) series).congr ?_
  intro tree response
  simp only [orElse_listOrNull_iff, IsResponse]

/-- Bodies are decoded to the answers that they are written for. -/
theorem decode_eq_ok_iff {body : String} {response : Response} :
    Json.decode responseRecord.read body = .ok response ↔ Decodes body response :=
  (reads_response (by decide)).decode_eq_ok_iff

/-- What a body decodes to is told by what is written in it. -/
theorem decodes_iff_of_document {body : String} {tree : Spelling} (written : IsDocument body tree)
    {response : Response} : Decodes body response ↔ IsResponse tree response :=
  decode_eq_ok_iff.symm.trans ((reads_response (by decide)).decode_document_iff written)

end

/-! ## The latest value -/

/-- The latest value of an answer is the second element of the last point of its first series. -/
def IsLatest (response : Response) (value : Binary64) : Prop :=
  ∃ earlier time after others,
    response.series = ⟨earlier ++ [time :: some value :: after]⟩ :: others

/-- The value that is looked up is the latest one. -/
theorem latest?_eq_some_iff {response : Response} {value : Binary64} :
    response.latest? = some value ↔ IsLatest response value := by
  obtain ⟨series⟩ := response
  constructor
  · intro found
    cases series with
    | nil => cases found
    | cons first others =>
        obtain ⟨points⟩ := first
        cases last : points.getLast? with
        | none => simp [Response.latest?, last] at found
        | some point =>
            obtain ⟨earlier, rfl⟩ := List.getLast?_eq_some_iff.1 last
            have second : point[1]? = some (some value) := by
              simpa [Response.latest?, Option.bind_eq_some_iff] using found
            rcases point with _ | ⟨time, _ | ⟨head, after⟩⟩
            · cases second
            · cases second
            · cases second
              exact ⟨earlier, time, after, others, rfl⟩
  · rintro ⟨earlier, time, after, others, rfl⟩
    simp [Response.latest?]

/-- An answer reports its latest value, or that it has none. -/
theorem readResponse_of_decodes {body : String} {response : Response}
    (decodes : Decodes body response) :
    readResponse body = match response.latest? with
      | none => .error (.noValues body)
      | some value => .ok value := by
  have decoded := decode_eq_ok_iff.2 decodes
  cases latest : response.latest? with
  | none => simp only [readResponse, decoded, latest]
  | some value => simp only [readResponse, decoded, latest]

/-- A body that is no answer is reported as it is. -/
theorem readResponse_of_not_decodes {body : String}
    (undecodable : ∀ response, ¬ Decodes body response) :
    ∃ reason, readResponse body = .error (.decode reason body) := by
  rw [readResponse]
  cases decoded : Json.decode responseRecord.read body with
  | ok response => exact (undecodable response (decode_eq_ok_iff.1 decoded)).elim
  | error fault => exact ⟨fault.message, rfl⟩

/-! ## Finite values -/

/-- Every number of a point is finite. -/
theorem isFinite_of_isPoint {tree : Spelling} {point : Point} (isPoint : IsPoint tree point)
    {value : Binary64} (inside : some value ∈ point) : value.isFinite = true := by
  obtain ⟨items, rfl, fitting⟩ := isPoint
  obtain ⟨item, fit⟩ := exists_fitting fitting inside
  cases fit with
  | some _ number =>
      obtain ⟨numeral, number, rfl, meant, rfl⟩ := number
      exact Numeral.isFinite meant

/-- Every item of a list in a slot fits something. -/
theorem exists_of_mayList {α : Type} {fits : Spelling → α → Prop} {content : Option Spelling}
    {values : List α} (list : MayList fits content values) {value : α} (inside : value ∈ values) :
    ∃ item, fits item value := by
  cases list with
  | missing | null => cases inside
  | list fitting => exact exists_fitting fitting inside

/-- The latest value of an answer is finite. -/
theorem isFinite_of_isLatest {tree : Spelling} {response : Response}
    (isResponse : IsResponse tree response) {value : Binary64} (latest : IsLatest response value) :
    value.isFinite = true := by
  obtain ⟨earlier, time, after, others, same⟩ := latest
  obtain ⟨_, _, series⟩ := isResponse
  rw [same] at series
  obtain ⟨_, _, _, points⟩ := exists_of_mayList series List.mem_cons_self
  obtain ⟨_, isPoint⟩ := exists_of_mayList points (List.mem_append_right _ List.mem_cons_self)
  exact isFinite_of_isPoint isPoint (List.mem_cons_of_mem _ List.mem_cons_self)

/-! ## What makes no difference -/

/-- What of an answer counts: up to two elements of the last point of the first series, as far as
there are a series and a point. -/
def counted (response : Response) : Option (Option Point) :=
  response.series.head?.map fun series => series.points.getLast?.map (·.take 2)

/-- Two outcomes are the same value, or failures of the same kind that may differ in what they
quote. -/
inductive Alike : Outcome Binary64 → Outcome Binary64 → Prop where
  | value (value : Binary64) : Alike (.ok value) (.ok value)
  | noValues {body other : String} : Alike (.error (.noValues body)) (.error (.noValues other))
  | decode {reason otherReason body other : String} :
      Alike (.error (.decode reason body)) (.error (.decode otherReason other))

/-- A missing, null or empty list is exchanged for another one: the series of an answer, or the
points of one of its series, wherever the series are written. -/
inductive Exchanged : Spelling → Spelling → Prop where
  | series {tree other : Spelling} (swapped : Swapped "series" tree other) : Exchanged tree other
  | member {before after : List (List Letter × Spelling)} {key : List Letter}
      {earlier later : List Spelling} {series other : Spelling}
      (named : Names "series" key = true) (swapped : Swapped "pointlist" series other) :
      Exchanged
        (.object (before ++ ([(key, .array (earlier ++ series :: later))] ++ after)))
        (.object (before ++ ([(key, .array (earlier ++ other :: later))] ++ after)))
  | item {earlier later : List Spelling} {series other : Spelling}
      (swapped : Swapped "pointlist" series other) :
      Exchanged (.array [.array (earlier ++ series :: later)])
        (.array [.array (earlier ++ other :: later)])

/-- Exchanging lists may be undone. -/
theorem Exchanged.symm {tree other : Spelling} (exchanged : Exchanged tree other) :
    Exchanged other tree := by
  cases exchanged with
  | series swapped => exact .series swapped.symm
  | member named swapped => exact .member named swapped.symm
  | item swapped => exact .item swapped.symm

/-- An answer stays the answer that it is when lists are exchanged. -/
theorem Exchanged.isResponse {tree other : Spelling} (exchanged : Exchanged tree other)
    {response : Response} (isResponse : IsResponse tree response) : IsResponse other response := by
  cases exchanged with
  | series swapped => exact swapped.exists_list_iff.1 isResponse
  | member named swapped =>
      obtain ⟨content, holds, list⟩ := isResponse
      obtain ⟨rfl, replaced⟩ := holds.replaced (.member named) (.member named) (by simp)
      cases list with
      | list fitting =>
          exact ⟨_, replaced, .list ((fitting_congr fun _ => swapped.exists_list_iff).1 fitting)⟩
  | item swapped =>
      obtain ⟨content, holds, list⟩ := isResponse
      cases holds with
      | array held =>
          obtain rfl : some _ = content := eq_of_toList_eq held
          cases list with
          | list fitting =>
              exact ⟨some _, .array rfl,
                .list ((fitting_congr fun _ => swapped.exists_list_iff).1 fitting)⟩

/-- Any number of exchanges leaves an answer the answer that it is. -/
theorem isResponse_iff_of_exchanged {tree other : Spelling}
    (exchanged : Relation.ReflTransGen Exchanged tree other) {response : Response} :
    IsResponse tree response ↔ IsResponse other response := by
  induction exchanged with
  | refl => rfl
  | tail _ step inductionHypothesis =>
      exact inductionHypothesis.trans ⟨step.isResponse, step.symm.isResponse⟩

/-- The latest value depends on nothing but what counts. -/
theorem latest?_congr {response other : Response} (same : counted response = counted other) :
    response.latest? = other.latest? := by
  have latest : ∀ response : Response, response.latest? =
      (counted response).bind fun last => last.bind fun point => point[1]?.join := by
    rintro ⟨_ | ⟨⟨points⟩, others⟩⟩
    · rfl
    · cases last : points.getLast? with
      | none => simp [Response.latest?, counted, last]
      | some point =>
          rcases point with _ | ⟨time, _ | ⟨second, after⟩⟩ <;>
            simp [Response.latest?, counted, last]
  rw [latest, latest, same]

/-- Bodies of the same latest value end alike. -/
theorem alike_of_decodes {body other : String} {response otherResponse : Response}
    (decodes : Decodes body response) (decodesOther : Decodes other otherResponse)
    (same : response.latest? = otherResponse.latest?) :
    Alike (readResponse body) (readResponse other) := by
  rw [readResponse_of_decodes decodes, readResponse_of_decodes decodesOther, ← same]
  cases response.latest? with
  | none => exact .noValues
  | some value => exact .value value

/-- Bodies end alike if what is written in them is the same answer, or none. -/
theorem alike_of_isResponse_iff {body other : String} {tree otherTree : Spelling}
    (written : IsDocument body tree) (writtenOther : IsDocument other otherTree)
    (same : ∀ response, IsResponse tree response ↔ IsResponse otherTree response) :
    Alike (readResponse body) (readResponse other) := by
  by_cases decodable : ∃ response, IsResponse tree response
  · obtain ⟨response, isResponse⟩ := decodable
    have isOther := (same response).1 isResponse
    exact alike_of_decodes ⟨tree, written, isResponse⟩ ⟨otherTree, writtenOther, isOther⟩ rfl
  · obtain ⟨reason, failed⟩ := readResponse_of_not_decodes fun response decodes =>
      decodable ⟨response, (decodes_iff_of_document written).1 decodes⟩
    obtain ⟨otherReason, failedOther⟩ := readResponse_of_not_decodes fun response decodes =>
      decodable ⟨response, (same response).2 ((decodes_iff_of_document writtenOther).1 decodes)⟩
    rw [failed, failedOther]
    exact .decode

/-- Bodies that differ by exchanges end alike. -/
theorem alike_of_exchanged {body other : String} {tree otherTree : Spelling}
    (written : IsDocument body tree) (writtenOther : IsDocument other otherTree)
    (exchanged : Relation.ReflTransGen Exchanged tree otherTree) :
    Alike (readResponse body) (readResponse other) :=
  alike_of_isResponse_iff written writtenOther fun _ => isResponse_iff_of_exchanged exchanged

/-- A value that is reported is finite. -/
theorem isFinite_of_readResponse {body : String} {value : Binary64}
    (reported : readResponse body = .ok value) : value.isFinite = true := by
  by_cases decodable : ∃ response, Decodes body response
  · obtain ⟨response, decodes⟩ := decodable
    have latest : response.latest? = some value := by
      simp only [readResponse_of_decodes decodes] at reported
      split at reported
      · cases reported
      · next found =>
        cases reported
        exact found
    obtain ⟨tree, _, isResponse⟩ := decodes
    exact isFinite_of_isLatest isResponse (latest?_eq_some_iff.1 latest)
  · obtain ⟨reason, failed⟩ := readResponse_of_not_decodes fun response decodes =>
      decodable ⟨response, decodes⟩
    cases failed.symm.trans reported

/-- A body that is an answer reports its latest value, or that there is none; any other body cannot be
decoded, and failures quote the body as it came. So nothing but the first two elements of the last
point of the first series makes a difference to what an answer reports, exchanging missing, null and
empty lists makes none either, and a value that is reported is finite. -/
theorem readResponse_reports_latest (body : String) :
    (∀ response, Decodes body response →
      (∀ value, IsLatest response value → readResponse body = .ok value) ∧
        ((∀ value, ¬ IsLatest response value) → readResponse body = .error (.noValues body))) ∧
      ((∀ response, ¬ Decodes body response) →
        ∃ reason, readResponse body = .error (.decode reason body)) ∧
      (∀ other response otherResponse, Decodes body response → Decodes other otherResponse →
        counted response = counted otherResponse → Alike (readResponse body) (readResponse other)) ∧
      (∀ other tree otherTree, IsDocument body tree → IsDocument other otherTree →
        Relation.ReflTransGen Exchanged tree otherTree →
          Alike (readResponse body) (readResponse other)) ∧
      ∀ value, readResponse body = .ok value → value.isFinite = true := by
  refine ⟨fun response decodes => ⟨fun value latest => ?_, fun none => ?_⟩,
    readResponse_of_not_decodes, fun other response otherResponse decodes decodesOther same => ?_,
    fun other tree otherTree written writtenOther exchanged => ?_, fun value reported => ?_⟩
  · simp only [readResponse_of_decodes decodes, latest?_eq_some_iff.2 latest]
  · cases found : response.latest? with
    | none => simp only [readResponse_of_decodes decodes, found]
    | some value => exact (none value (latest?_eq_some_iff.1 found)).elim
  · exact alike_of_decodes decodes decodesOther (latest?_congr same)
  · exact alike_of_exchanged written writtenOther exchanged
  · exact isFinite_of_readResponse reported

/-- An answer with one point, beside one that has more of what does not count, an answer without a
list, beside one with null in its place, and a text that is no answer. -/
theorem readResponse_reports_latest_two :
    readResponse "\x7b\"series\":[\x7b\"pointlist\":[[1,2]]\x7d]\x7d" = .ok (Binary64.ofInt 2) ∧
      (Binary64.ofInt 2).isFinite = true ∧
        Alike (readResponse "\x7b\"series\":[\x7b\"pointlist\":[[1,2]]\x7d]\x7d")
          (readResponse "\x7b\"series\":[\x7b\"pointlist\":[[],[1,2,3]]\x7d,[null]]\x7d") ∧
          readResponse "[]" = .error (.noValues "[]") ∧
            Alike (readResponse "[]") (readResponse "[null]") ∧
              ∃ reason, readResponse "x" = .error (.decode reason "x") := by
  have decodes : Decodes "\x7b\"series\":[\x7b\"pointlist\":[[1,2]]\x7d]\x7d"
      ⟨[⟨[[some (Binary64.ofInt 1), some (Binary64.ofInt 2)]]⟩]⟩ :=
    decode_eq_ok_iff.1 (by decide +kernel)
  have decodesMore : Decodes "\x7b\"series\":[\x7b\"pointlist\":[[],[1,2,3]]\x7d,[null]]\x7d"
      ⟨[⟨[[], [some (Binary64.ofInt 1), some (Binary64.ofInt 2), some (Binary64.ofInt 3)]]⟩,
        ⟨[]⟩]⟩ :=
    decode_eq_ok_iff.1 (by decide +kernel)
  have empty : IsDocument "[]" (.array []) :=
    ⟨[], _, [], blank_nil, .array (.none blank_nil), blank_nil, rfl⟩
  have null : IsDocument "[null]" (.array [.null]) :=
    ⟨[], _, [], blank_nil, .array (.some blank_nil .null (.done blank_nil)), blank_nil, rfl⟩
  have nothing : Decodes "[]" ⟨[]⟩ := decode_eq_ok_iff.1 (by decide +kernel)
  have failed : (Json.decode responseRecord.read "x").toOption = none := by decide +kernel
  have undecodable : ∀ response, ¬ Decodes "x" response := by
    intro response decodes
    rw [decode_eq_ok_iff.2 decodes] at failed
    cases failed
  have reported := (readResponse_reports_latest _).1 _ decodes
  have two := reported.1 _ ⟨[], _, [], [], rfl⟩
  refine ⟨two, ?_, ?_, ?_, ?_, (readResponse_reports_latest "x").2.1 undecodable⟩
  · exact (readResponse_reports_latest _).2.2.2.2 _ two
  · exact (readResponse_reports_latest _).2.2.1 _ _ _ decodes decodesMore rfl
  · refine ((readResponse_reports_latest "[]").1 _ nothing).2 ?_
    rintro value ⟨_, _, _, _, ⟨⟩⟩
  · exact (readResponse_reports_latest _).2.2.2.1 _ _ _ empty null
      (.single (.series (.item .missing .null)))

end MetricProbe.Datadog
