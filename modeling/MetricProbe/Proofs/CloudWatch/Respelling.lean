import MetricProbe.Proofs.CloudWatch.Decoding
import MetricProbe.Proofs.Json.Respelling
import Mathlib.Logic.Relation

/-!
# Queries written in other ways

Neither the order of the members of a query nor the spelling of their names makes a difference, at
any of its levels, and no more do members of other names. The levels are rows of rows, so that what
`Respelled` says of one row is said of a query by going down from it: an item of the text's array is
a query, which may hold a statistic, that holds a metric, whose dimensions are rows again.
-/

namespace MetricProbe.CloudWatch

open Json

/-! ## Changes -/

/-- The names in a dimension. -/
def dimensionNamings : List Naming :=
  [⟨"Name", some "name"⟩, ⟨"Value", some "value"⟩]

/-- The names in a metric. -/
def metricNamings : List Naming :=
  [⟨"Namespace", some "namespace"⟩, ⟨"MetricName", some "metricName"⟩,
    ⟨"Dimensions", some "dimensions"⟩]

/-- The names in a statistic. -/
def statisticNamings : List Naming :=
  [⟨"Metric", some "metric"⟩, ⟨"Period", some "period"⟩, ⟨"Stat", some "stat"⟩,
    ⟨"Unit", some "unit"⟩]

/-- The names in a query. -/
def queryNamings : List Naming :=
  [⟨"Id", some "id"⟩, ⟨"Expression", some "expression"⟩, ⟨"Label", some "label"⟩,
    ⟨"MetricStat", some "metricStat"⟩, ⟨"Period", some "period"⟩,
    ⟨"ReturnData", some "returnData"⟩, ⟨"AccountId", some "accountId"⟩]

/-- A dimension is written in another way. -/
def DimensionRespelled : Spelling → Spelling → Prop :=
  Respelled dimensionNamings fun _ _ _ => False

/-- A metric is written in another way, or one of its dimensions is. -/
def MetricRespelled : Spelling → Spelling → Prop :=
  Respelled metricNamings fun naming tree other =>
    naming.name = "Dimensions" ∧ InArray DimensionRespelled tree other

/-- A statistic is written in another way, or its metric is. -/
def StatisticRespelled : Spelling → Spelling → Prop :=
  Respelled statisticNamings fun naming tree other =>
    naming.name = "Metric" ∧ MetricRespelled tree other

/-- A query is written in another way, or its statistic is. -/
def QueryRespelled : Spelling → Spelling → Prop :=
  Respelled queryNamings fun naming tree other =>
    naming.name = "MetricStat" ∧ StatisticRespelled tree other

/-- A dimension holds a member twice. -/
def DimensionDoubled : Spelling → Prop :=
  Doubled dimensionNamings fun _ _ => False

/-- A metric holds a member twice, or one of its dimensions does. -/
def MetricDoubled : Spelling → Prop :=
  Doubled metricNamings fun naming tree => naming.name = "Dimensions" ∧
    ∃ items, tree = .array items ∧ ∃ item ∈ items, DimensionDoubled item

/-- A statistic holds a member twice, or its metric does. -/
def StatisticDoubled : Spelling → Prop :=
  Doubled statisticNamings fun naming tree => naming.name = "Metric" ∧ MetricDoubled tree

/-- A query holds a member twice, or its statistic does. -/
def QueryDoubled : Spelling → Prop :=
  Doubled queryNamings fun naming tree => naming.name = "MetricStat" ∧ StatisticDoubled tree

/-! ## Queries stay what they are -/

section

variable {tree other : Spelling}

/-- A dimension that is written in another way stays the dimension that it is. -/
theorem isDimension_iff_of_respelled (respelled : DimensionRespelled tree other)
    {dimension : Dimension} : IsDimension tree dimension ↔ IsDimension other dimension :=
  Respelled.row_iff respelled rfl (by decide) fun _ _ _ _ => False.elim

/-- A metric that is written in another way stays the metric that it is. -/
theorem isMetric_iff_of_respelled (respelled : MetricRespelled tree other) {metric : Metric} :
    IsMetric tree metric ↔ IsMetric other metric := by
  refine Respelled.row_iff respelled rfl (by decide) ?_
  rintro slot inside tree other ⟨named, dimensions⟩
  simp only [List.mem_cons, List.not_mem_nil, or_false] at inside
  rcases inside with rfl | rfl | rfl
  case inr.inr =>
    simp only [orElse_some_iff]
    exact listOf_congr (fun _ _ item _ => isDimension_iff_of_respelled item) dimensions
  all_goals simp at named

/-- A statistic that is written in another way stays the statistic that it is. -/
theorem isStatistic_iff_of_respelled (respelled : StatisticRespelled tree other)
    {statistic : Statistic} : IsStatistic tree statistic ↔ IsStatistic other statistic := by
  refine Respelled.row_iff respelled rfl (by decide) ?_
  rintro slot inside tree other ⟨named, metric⟩
  simp only [List.mem_cons, List.not_mem_nil, or_false] at inside
  rcases inside with rfl | rfl | rfl | rfl
  · simp only [given_some_iff]
    exact isMetric_iff_of_respelled metric
  all_goals simp at named

/-- A query that is written in another way stays the query that it is. -/
theorem isQuery_iff_of_respelled (respelled : QueryRespelled tree other) {query : Query} :
    IsQuery tree query ↔ IsQuery other query := by
  refine Respelled.row_iff respelled rfl (by decide) ?_
  rintro slot inside tree other ⟨named, statistic⟩
  simp only [List.mem_cons, List.not_mem_nil, or_false] at inside
  rcases inside with rfl | rfl | rfl | rfl | rfl | rfl | rfl
  case inr.inr.inr.inl =>
    simp only [orElse_some_iff]
    exact orNull_congr statistic.ne_null.1 statistic.ne_null.2
      fun _ => isStatistic_iff_of_respelled statistic
  all_goals simp at named

/-- Any number of changes to the items of an array leaves the queries what they are. -/
theorem listOf_isQuery_iff_of_respelled
    (respelled : Relation.EqvGen (InArray QueryRespelled) tree other) {queries : List Query} :
    ListOf IsQuery tree queries ↔ ListOf IsQuery other queries := by
  induction respelled with
  | rel tree other exchanged =>
      exact listOf_congr (fun _ _ query _ => isQuery_iff_of_respelled query) exchanged
  | refl => rfl
  | symm _ _ _ inductionHypothesis => exact inductionHypothesis.symm
  | trans _ _ _ _ _ first second => exact first.trans second

/-! ## Doubled members -/

/-- A dimension that holds a member twice is none. -/
theorem not_isDimension_of_doubled (doubled : DimensionDoubled tree) (dimension : Dimension) :
    ¬ IsDimension tree dimension :=
  Doubled.not_row doubled rfl fun _ _ _ => False.elim

/-- A metric that holds a member twice is none. -/
theorem not_isMetric_of_doubled (doubled : MetricDoubled tree) (metric : Metric) :
    ¬ IsMetric tree metric := by
  refine Doubled.not_row doubled rfl ?_
  rintro slot inside _ ⟨named, items, rfl, item, within, below⟩
  simp only [List.mem_cons, List.not_mem_nil, or_false] at inside
  rcases inside with rfl | rfl | rfl
  case inr.inr =>
    refine mt orElse_some_iff.1 ?_
    rintro ⟨_, ⟨⟩, fitting⟩
    obtain ⟨dimension, isDimension⟩ := exists_fitted fitting within
    exact not_isDimension_of_doubled below dimension isDimension
  all_goals simp at named

/-- A statistic that holds a member twice is none. -/
theorem not_isStatistic_of_doubled (doubled : StatisticDoubled tree) (statistic : Statistic) :
    ¬ IsStatistic tree statistic := by
  refine Doubled.not_row doubled rfl ?_
  rintro slot inside _ ⟨named, below⟩
  simp only [List.mem_cons, List.not_mem_nil, or_false] at inside
  rcases inside with rfl | rfl | rfl | rfl
  · exact mt given_some_iff.1 (not_isMetric_of_doubled below _)
  all_goals simp at named

/-- A query that holds a member twice is none. -/
theorem not_isQuery_of_doubled (doubled : QueryDoubled tree) (query : Query) :
    ¬ IsQuery tree query := by
  refine Doubled.not_row doubled rfl ?_
  rintro slot inside _ ⟨named, below⟩
  simp only [List.mem_cons, List.not_mem_nil, or_false] at inside
  rcases inside with rfl | rfl | rfl | rfl | rfl | rfl | rfl
  case inr.inr.inr.inl =>
    refine mt orElse_some_iff.1 ?_
    generalize query.statistic = statistic
    intro fit
    cases fit with
    | null => cases below
    | some _ inner => exact not_isStatistic_of_doubled below _ inner
  all_goals simp at named

end

/-! ## Texts -/

section

variable {text otherText : String} {tree other : Spelling}

/-- Two texts are refused together, as invalid queries. -/
def BothRefused (text otherText : String) : Prop :=
  ∃ reason otherReason, readQueries text = .error (.invalidQuery reason) ∧
    readQueries otherText = .error (.invalidQuery otherReason)

/-- Two texts that are no queries are refused together. -/
theorem bothRefused_of_not_listOf (written : IsDocument text tree)
    (writtenOther : IsDocument otherText other)
    (respelled : Relation.EqvGen (InArray QueryRespelled) tree other)
    (none : ∀ queries, ¬ ListOf IsQuery tree queries) : BothRefused text otherText := by
  obtain ⟨reason, refused⟩ := readQueries_of_not_decodes fun queries decodes =>
    none queries ((decodes_iff_of_document written).1 decodes)
  obtain ⟨otherReason, refusedOther⟩ := readQueries_of_not_decodes fun queries decodes =>
    none queries ((listOf_isQuery_iff_of_respelled respelled).2
      ((decodes_iff_of_document writtenOther).1 decodes))
  exact ⟨reason, otherReason, refused, refusedOther⟩

/-- An array one of whose items holds a member twice is no list of queries. -/
theorem not_listOf_isQuery_of_doubled {items : List Spelling} {item : Spelling}
    (inside : item ∈ items) (doubled : QueryDoubled item) (queries : List Query) :
    ¬ ListOf IsQuery (.array items) queries := by
  rintro ⟨_, ⟨⟩, fitting⟩
  obtain ⟨query, isQuery⟩ := exists_fitted fitting inside
  exact not_isQuery_of_doubled doubled query isQuery

/-- Texts that differ in the order of members, in the spelling of their names and in members of
other names, at any of the levels of a query, give the same queries or are both refused. They are
both refused if a member of a query, a statistic, a metric or a dimension is there twice, in
whichever spellings. -/
theorem readQueries_respelled (written : IsDocument text tree)
    (writtenOther : IsDocument otherText other)
    (respelled : Relation.EqvGen (InArray QueryRespelled) tree other) :
    ((∃ queries, readQueries text = .ok queries ∧ readQueries otherText = .ok queries) ∨
      BothRefused text otherText) ∧
      ∀ items, tree = .array items → (∃ item ∈ items, QueryDoubled item) →
        BothRefused text otherText := by
  constructor
  · by_cases decodable : ∃ queries, ListOf IsQuery tree queries
    · obtain ⟨queries, list⟩ := decodable
      have decodes := (decodes_iff_of_document written).2 list
      have decodesOther := (decodes_iff_of_document writtenOther).2
        ((listOf_isQuery_iff_of_respelled respelled).1 list)
      exact .inl ⟨queries, readQueries_eq_ok_iff.2 decodes, readQueries_eq_ok_iff.2 decodesOther⟩
    · exact .inr (bothRefused_of_not_listOf written writtenOther respelled
        fun queries list => decodable ⟨queries, list⟩)
  · rintro items rfl ⟨item, inside, doubled⟩
    exact bothRefused_of_not_listOf written writtenOther respelled
      (not_listOf_isQuery_of_doubled inside doubled)

/-- A query with a label, beside one with its members in the other order and the label named with a
small letter, and a query with two identifiers. -/
theorem readQueries_respelled_label :
    (∃ queries, readQueries "[\x7b\"Id\":\"a\",\"Label\":\"b\"\x7d]" = .ok queries ∧
      readQueries "[\x7b\"label\":\"b\",\"Id\":\"a\"\x7d]" = .ok queries) ∧
      BothRefused "[\x7b\"Id\":\"a\",\"id\":\"b\"\x7d]"
        "[\x7b\"id\":\"b\",\"Id\":\"a\"\x7d]" := by
  have member : ∀ key value, Member Writes (plainLetters key, .text (plainLetters value)) _ :=
    fun key value => .mk blank_nil blank_nil (.text _)
  have query : ∀ key value otherKey otherValue, Writes (.array [.object
      [(plainLetters key, .text (plainLetters value)),
        (plainLetters otherKey, .text (plainLetters otherValue))]]) _ :=
    fun key value otherKey otherValue => .array (.some blank_nil
      (.object (.some blank_nil (member key value)
        (.more blank_nil blank_nil (member otherKey otherValue) (.done blank_nil))))
      (.done blank_nil))
  have labelled : IsDocument "[\x7b\"Id\":\"a\",\"Label\":\"b\"\x7d]" _ :=
    ⟨[], _, [], blank_nil, query "Id" "a" "Label" "b", blank_nil, by decide⟩
  have respelled : IsDocument "[\x7b\"label\":\"b\",\"Id\":\"a\"\x7d]" _ :=
    ⟨[], _, [], blank_nil, query "label" "b" "Id" "a", blank_nil, by decide⟩
  have twice : IsDocument "[\x7b\"Id\":\"a\",\"id\":\"b\"\x7d]" _ :=
    ⟨[], _, [], blank_nil, query "Id" "a" "id" "b", blank_nil, by decide⟩
  have twiceSwapped : IsDocument "[\x7b\"id\":\"b\",\"Id\":\"a\"\x7d]" _ :=
    ⟨[], _, [], blank_nil, query "id" "b" "Id" "a", blank_nil, by decide⟩
  have swapped : ∀ first second : List Letter × Spelling, InArray QueryRespelled
      (.array [.object [first, second]]) (.array [.object [second, first]]) := fun first second =>
    @InArray.item _ [] [] _ _ (.reordered (.swap _ _ _))
  have renamed : InArray QueryRespelled
      (.array [.object [(plainLetters "Label", .text (plainLetters "b")),
        (plainLetters "Id", .text (plainLetters "a"))]])
      (.array [.object [(plainLetters "label", .text (plainLetters "b")),
        (plainLetters "Id", .text (plainLetters "a"))]]) :=
    @InArray.item _ [] [] _ _ (@Respelled.renamed _ _ [] _ ⟨"Label", some "label"⟩ _ _ _
      (by decide) (by decide) (by decide))
  have same := readQueries_respelled labelled respelled
    (.trans _ _ _ (.rel _ _ (swapped _ _)) (.rel _ _ renamed))
  have refused := readQueries_respelled twice twiceSwapped (.rel _ _ (swapped _ _))
  refine ⟨same.1.resolve_right ?_, refused.2 _ rfl ⟨_, List.mem_singleton_self _, ?_⟩⟩
  · rintro ⟨_, _, refused, _⟩
    have accepted : readQueries "[\x7b\"Id\":\"a\",\"Label\":\"b\"\x7d]" =
        .ok [⟨"a", none, some "b", none, none, none, none⟩] := by decide +kernel
    cases accepted.symm.trans refused
  · exact @Doubled.here _ _ _ ⟨"Id", some "id"⟩ (by decide) (by decide)

end

end MetricProbe.CloudWatch
