import MetricProbe.CloudWatch.Query
import MetricProbe.Proofs.Json.Rows
import MetricProbe.Proofs.Json.Scalars

/-!
# Which texts are queries

A text is a list of queries if it is an array of rows: of queries, of the statistics in them, of the
metrics in those and of their dimensions. What each row holds is said without a reader, with the
names of its members in both spellings; `readQueries` gives exactly the queries that a text is
written for, and refuses every other text.

A row may stand in an array instead of an object, with its members in their order and without their
names. So a list of bare values may pass for a query, although queries are meant to be objects.
-/

namespace MetricProbe.CloudWatch

open Json

/-! ## What queries look like -/

/-- A dimension has a name and a value. -/
def IsDimension (tree : Spelling) (dimension : Dimension) : Prop :=
  Row
    [⟨⟨"Name", some "name"⟩, (Given IsText · dimension.name)⟩,
      ⟨⟨"Value", some "value"⟩, (Given IsText · dimension.value)⟩] tree

/-- A metric may have a namespace, a name and dimensions. -/
def IsMetric (tree : Spelling) (metric : Metric) : Prop :=
  Row
    [⟨⟨"Namespace", some "namespace"⟩, (OrElse (OrNull IsText) none · metric.namespaceName)⟩,
      ⟨⟨"MetricName", some "metricName"⟩, (OrElse (OrNull IsText) none · metric.metricName)⟩,
      ⟨⟨"Dimensions", some "dimensions"⟩, (OrElse (ListOf IsDimension) [] · metric.dimensions)⟩]
    tree

/-- A statistic has a metric, a period and a name, and may have a unit. -/
def IsStatistic (tree : Spelling) (statistic : Statistic) : Prop :=
  Row
    [⟨⟨"Metric", some "metric"⟩, (Given IsMetric · statistic.metric)⟩,
      ⟨⟨"Period", some "period"⟩, (Given IsInt32 · statistic.period)⟩,
      ⟨⟨"Stat", some "stat"⟩, (Given IsText · statistic.stat)⟩,
      ⟨⟨"Unit", some "unit"⟩, (OrElse (OrNull IsText) none · statistic.unit)⟩] tree

/-- A query has an identifier; everything else may be left out or null. -/
def IsQuery (tree : Spelling) (query : Query) : Prop :=
  Row
    [⟨⟨"Id", some "id"⟩, (Given IsText · query.id)⟩,
      ⟨⟨"Expression", some "expression"⟩, (OrElse (OrNull IsText) none · query.expression)⟩,
      ⟨⟨"Label", some "label"⟩, (OrElse (OrNull IsText) none · query.label)⟩,
      ⟨⟨"MetricStat", some "metricStat"⟩, (OrElse (OrNull IsStatistic) none · query.statistic)⟩,
      ⟨⟨"Period", some "period"⟩, (OrElse (OrNull IsInt32) none · query.period)⟩,
      ⟨⟨"ReturnData", some "returnData"⟩, (OrElse (OrNull IsBoolean) none · query.returnData)⟩,
      ⟨⟨"AccountId", some "accountId"⟩, (OrElse (OrNull IsText) none · query.accountId)⟩] tree

/-! ## Reading queries -/

/-- An optional value that may be missing is nothing in both cases. -/
theorem join_eq_getD {α : Type} (place : Option (Option α)) : place.join = place.getD none := by
  cases place <;> rfl

/-- The columns of a dimension. -/
def dimensionColumns : List (Column DimensionDraft Dimension) :=
  [.needed ⟨"Name", some "name"⟩ (·.name) (fun draft name => { draft with name := some name })
    (fun _ => Json.text) IsText (·.name),
    .needed ⟨"Value", some "value"⟩ (·.value)
      (fun draft value => { draft with value := some value }) (fun _ => Json.text) IsText (·.value)]

/-- A dimension is a table. -/
theorem table_dimension : Table dimensionRecord dimensionColumns where
  fields := rfl
  apart := by
    simp only [dimensionColumns, List.pairwise_cons, List.forall_mem_cons, List.not_mem_nil,
      false_implies, implies_true, List.Pairwise.nil, and_true]
    exact ⟨by decide, fun _ _ => rfl, fun _ _ => rfl⟩
  empty := by simp [dimensionColumns, dimensionRecord, Column.needed]
  get_set := by simp [dimensionColumns, Column.needed]
  determined := by
    rintro ⟨⟩ ⟨⟩ same
    simpa [dimensionColumns, Column.needed] using same
  finish := by
    rintro ⟨_ | name, _ | value⟩ ⟨⟩ <;>
      simp [dimensionColumns, dimensionRecord, Column.needed, bind, Except.bind, pure, Except.pure]
  needed := by simp [dimensionColumns, Column.needed]

/-- Dimensions are read. -/
theorem reads_dimension {depth : Nat} (deep : 1 < depth) :
    Reads (dimensionRecord.read depth) IsDimension := by
  refine (table_dimension.reads deep ?_).congr fun tree dimension => ?_
  · simp [dimensionColumns, Column.needed, reads_text]
  · simp only [dimensionColumns, List.map_cons, List.map_nil, Column.slot_needed, IsDimension]

/-- The columns of a metric. -/
def metricColumns : List (Column MetricDraft Metric) :=
  [.defaulted ⟨"Namespace", some "namespace"⟩ none (·.namespaceName)
    (fun draft value => { draft with namespaceName := some value })
    (fun _ => Json.optional Json.text) (OrNull IsText) (·.namespaceName),
    .defaulted ⟨"MetricName", some "metricName"⟩ none (·.metricName)
      (fun draft value => { draft with metricName := some value })
      (fun _ => Json.optional Json.text) (OrNull IsText) (·.metricName),
    .defaulted ⟨"Dimensions", some "dimensions"⟩ [] (·.dimensions)
      (fun draft value => { draft with dimensions := some value })
      (Json.array dimensionRecord.read) (ListOf IsDimension) (·.dimensions)]

/-- A metric is a table. -/
theorem table_metric : Table metricRecord metricColumns where
  fields := rfl
  apart := by
    simp only [metricColumns, List.pairwise_cons, List.forall_mem_cons, List.not_mem_nil,
      false_implies, implies_true, List.Pairwise.nil, and_true]
    and_intros <;> exact ⟨by decide, fun _ _ => rfl, fun _ _ => rfl⟩
  empty := by simp [metricColumns, metricRecord, Column.defaulted]
  get_set := by simp [metricColumns, Column.defaulted]
  determined := by
    rintro ⟨⟩ ⟨⟩ same
    simpa [metricColumns, Column.defaulted] using same
  finish := by
    rintro ⟨namespaceName, metricName, dimensions⟩ ⟨⟩
    simp [metricColumns, metricRecord, Column.defaulted, join_eq_getD]
  needed := by simp [metricColumns, Column.defaulted]

/-- Metrics are read. -/
theorem reads_metric {depth : Nat} (deep : 3 < depth) :
    Reads (metricRecord.read depth) IsMetric := by
  refine (table_metric.reads (by omega) ?_).congr fun tree metric => ?_
  · have text := reads_optional reads_text
    have dimensions : Reads (Json.array dimensionRecord.read (depth - 1)) (ListOf IsDimension) :=
      reads_array (by omega) (reads_dimension (by omega))
    simp [metricColumns, Column.defaulted, text, dimensions]
  · simp only [metricColumns, List.map_cons, List.map_nil, Column.slot_defaulted, IsMetric]

/-- The columns of a statistic. -/
def statisticColumns : List (Column StatisticDraft Statistic) :=
  [.needed ⟨"Metric", some "metric"⟩ (·.metric)
    (fun draft value => { draft with metric := some value }) metricRecord.read IsMetric (·.metric),
    .needed ⟨"Period", some "period"⟩ (·.period)
      (fun draft value => { draft with period := some value }) (fun _ => Json.int32) IsInt32
      (·.period),
    .needed ⟨"Stat", some "stat"⟩ (·.stat) (fun draft value => { draft with stat := some value })
      (fun _ => Json.text) IsText (·.stat),
    .defaulted ⟨"Unit", some "unit"⟩ none (·.unit)
      (fun draft value => { draft with unit := some value })
      (fun _ => Json.optional Json.text) (OrNull IsText) (·.unit)]

/-- A statistic is a table. -/
theorem table_statistic : Table statisticRecord statisticColumns where
  fields := rfl
  apart := by
    simp only [statisticColumns, List.pairwise_cons, List.forall_mem_cons, List.not_mem_nil,
      false_implies, implies_true, List.Pairwise.nil, and_true]
    and_intros <;> exact ⟨by decide, fun _ _ => rfl, fun _ _ => rfl⟩
  empty := by simp [statisticColumns, statisticRecord, Column.needed, Column.defaulted]
  get_set := by simp [statisticColumns, Column.needed, Column.defaulted]
  determined := by
    rintro ⟨⟩ ⟨⟩ same
    simpa [statisticColumns, Column.needed, Column.defaulted] using same
  finish := by
    rintro ⟨_ | metric, _ | period, _ | stat, unit⟩ ⟨⟩ <;>
      simp [statisticColumns, statisticRecord, Column.needed, Column.defaulted, join_eq_getD, bind,
        Except.bind, pure, Except.pure]
  needed := by simp [statisticColumns, Column.needed, Column.defaulted]

/-- Statistics are read. -/
theorem reads_statistic {depth : Nat} (deep : 4 < depth) :
    Reads (statisticRecord.read depth) IsStatistic := by
  refine (table_statistic.reads (by omega) ?_).congr fun tree statistic => ?_
  · have text := reads_optional reads_text
    have metric : Reads (metricRecord.read (depth - 1)) IsMetric := reads_metric (by omega)
    simp [statisticColumns, Column.needed, Column.defaulted, text, metric, reads_text, reads_int32]
  · simp only [statisticColumns, List.map_cons, List.map_nil, Column.slot_needed,
      Column.slot_defaulted, IsStatistic]

/-- The columns of a query. -/
def queryColumns : List (Column QueryDraft Query) :=
  [.needed ⟨"Id", some "id"⟩ (·.id) (fun draft value => { draft with id := some value })
    (fun _ => Json.text) IsText (·.id),
    .defaulted ⟨"Expression", some "expression"⟩ none (·.expression)
      (fun draft value => { draft with expression := some value })
      (fun _ => Json.optional Json.text) (OrNull IsText) (·.expression),
    .defaulted ⟨"Label", some "label"⟩ none (·.label)
      (fun draft value => { draft with label := some value })
      (fun _ => Json.optional Json.text) (OrNull IsText) (·.label),
    .defaulted ⟨"MetricStat", some "metricStat"⟩ none (·.statistic)
      (fun draft value => { draft with statistic := some value })
      (fun depth => Json.optional (statisticRecord.read depth)) (OrNull IsStatistic) (·.statistic),
    .defaulted ⟨"Period", some "period"⟩ none (·.period)
      (fun draft value => { draft with period := some value })
      (fun _ => Json.optional Json.int32) (OrNull IsInt32) (·.period),
    .defaulted ⟨"ReturnData", some "returnData"⟩ none (·.returnData)
      (fun draft value => { draft with returnData := some value })
      (fun _ => Json.optional Json.boolean) (OrNull IsBoolean) (·.returnData),
    .defaulted ⟨"AccountId", some "accountId"⟩ none (·.accountId)
      (fun draft value => { draft with accountId := some value })
      (fun _ => Json.optional Json.text) (OrNull IsText) (·.accountId)]

/-- A query is a table. -/
theorem table_query : Table queryRecord queryColumns where
  fields := rfl
  apart := by
    simp only [queryColumns, List.pairwise_cons, List.forall_mem_cons, List.not_mem_nil,
      false_implies, implies_true, List.Pairwise.nil, and_true]
    and_intros <;> exact ⟨by decide, fun _ _ => rfl, fun _ _ => rfl⟩
  empty := by simp [queryColumns, queryRecord, Column.needed, Column.defaulted]
  get_set := by simp [queryColumns, Column.needed, Column.defaulted]
  determined := by
    rintro ⟨⟩ ⟨⟩ same
    simpa [queryColumns, Column.needed, Column.defaulted] using same
  finish := by
    rintro ⟨_ | id, expression, label, statistic, period, returnData, accountId⟩ ⟨⟩ <;>
      simp [queryColumns, queryRecord, Column.needed, Column.defaulted, join_eq_getD, bind,
        Except.bind, pure, Except.pure]
  needed := by simp [queryColumns, Column.needed, Column.defaulted]

/-- Queries are read. -/
theorem reads_query {depth : Nat} (deep : 5 < depth) :
    Reads (queryRecord.read depth) IsQuery := by
  refine (table_query.reads (by omega) ?_).congr fun tree query => ?_
  · have text := reads_optional reads_text
    have integer := reads_optional reads_int32
    have boolean := reads_optional reads_boolean
    have statistic : Reads (optional (statisticRecord.read (depth - 1))) (OrNull IsStatistic) :=
      reads_optional (reads_statistic (by omega))
    simp [queryColumns, Column.needed, Column.defaulted, text, integer, boolean, statistic,
      reads_text]
  · simp only [queryColumns, List.map_cons, List.map_nil, Column.slot_needed,
      Column.slot_defaulted, IsQuery]

/-! ## Reading texts -/

/-- A text is a way to write a list of queries. -/
def Decodes (text : String) (queries : List Query) : Prop :=
  ∃ tree, IsDocument text tree ∧ ListOf IsQuery tree queries

/-- Lists of queries are read. -/
theorem reads_queries : Reads (Json.array queryRecord.read Json.depthLimit) (ListOf IsQuery) :=
  reads_array (by decide) (reads_query (by decide))

/-- Texts are decoded to the queries that they are written for. -/
theorem readQueries_eq_ok_iff {text : String} {queries : List Query} :
    readQueries text = .ok queries ↔ Decodes text queries := by
  have decoded := @Reads.decode_eq_ok_iff _ _ _ reads_queries text queries
  rw [Decodes, ← decoded, readQueries]
  cases Json.decode (Json.array queryRecord.read) text with
  | ok found => simp
  | error fault => simp

/-- What a text is decoded to is told by what is written in it. -/
theorem decodes_iff_of_document {text : String} {tree : Spelling} (written : IsDocument text tree)
    {queries : List Query} : Decodes text queries ↔ ListOf IsQuery tree queries :=
  (@Reads.decode_eq_ok_iff _ _ _ reads_queries text queries).symm.trans
    (reads_queries.decode_document_iff written)

/-- A text that is no list of queries is an invalid query. -/
theorem readQueries_of_not_decodes {text : String}
    (undecodable : ∀ queries, ¬ Decodes text queries) :
    ∃ reason, readQueries text = .error (.invalidQuery reason) := by
  cases read : readQueries text with
  | ok queries => exact (undecodable queries (readQueries_eq_ok_iff.1 read)).elim
  | error failure =>
      rw [readQueries] at read
      split at read
      · cases read
        exact ⟨_, rfl⟩
      · cases read

/-- A text is accepted exactly if it is an array of rows that are queries, and it gives the queries
that it is written for; every other text is refused as an invalid query. -/
theorem readQueries_accepts (text : String) :
    (∀ queries, readQueries text = .ok queries ↔ Decodes text queries) ∧
      ((∃ queries, Decodes text queries) ∨
        ∃ reason, readQueries text = .error (.invalidQuery reason)) := by
  refine ⟨fun queries => readQueries_eq_ok_iff, ?_⟩
  by_cases decodable : ∃ queries, Decodes text queries
  · exact .inl decodable
  · exact .inr (readQueries_of_not_decodes fun queries decodes => decodable ⟨queries, decodes⟩)

/-- A list of bare values that is no object passes for a query: its values stand for the members in
their order. -/
theorem readQueries_takes_bare_list :
    ∃ item : Spelling, IsDocument "[[\"m1\"]]" (.array [item]) ∧
      (∀ members, item ≠ .object members) ∧
        readQueries "[[\"m1\"]]" = .ok [⟨"m1", none, none, none, none, none, none⟩] := by
  have id : Writes (.text (plainLetters "m1")) _ := .text _
  have item := Writes.array (.some blank_nil id (.done blank_nil))
  have whole := Writes.array (.some blank_nil item (.done blank_nil))
  exact ⟨_, ⟨[], _, [], blank_nil, whole, blank_nil, by decide⟩, nofun, by decide +kernel⟩

end MetricProbe.CloudWatch
