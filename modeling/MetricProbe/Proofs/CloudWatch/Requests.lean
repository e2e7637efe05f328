import MetricProbe.Proofs.CloudWatch.FormReading

/-!
# Requests of queries

What a query sends is given twice. `Carries` lists the values of a form with the names that lead to
them, so nothing is sent beside them; the readers of a form find the decoded metric queries again,
so nothing is lost. Neither depends on the order of the entries.
-/

namespace MetricProbe.CloudWatch

/-! ## What a form carries -/

/-- The values of a dimension. -/
inductive Dimension.Carries (dimension : Dimension) : List String → String → Prop
  | name : dimension.Carries ["Name"] dimension.name
  | value : dimension.Carries ["Value"] dimension.value

/-- The values of a metric. -/
inductive Metric.Carries (metric : Metric) : List String → String → Prop
  | namespaceName {name : String} (given : metric.namespaceName = some name) :
      metric.Carries ["Namespace"] name
  | metricName {name : String} (given : metric.metricName = some name) :
      metric.Carries ["MetricName"] name
  | noDimensions (none : metric.dimensions = []) : metric.Carries ["Dimensions"] ""
  | dimension {index : Nat} {dimension : Dimension} {path : List String} {value : String}
      (here : metric.dimensions[index]? = some dimension) (member : dimension.Carries path value) :
      metric.Carries ("Dimensions" :: "member" :: toString (index + 1) :: path) value

/-- The values of a statistic. -/
inductive Statistic.Carries (statistic : Statistic) : List String → String → Prop
  | metric {path : List String} {value : String} (member : statistic.metric.Carries path value) :
      statistic.Carries ("Metric" :: path) value
  | period : statistic.Carries ["Period"] (toString statistic.period)
  | stat : statistic.Carries ["Stat"] statistic.stat
  | unit {unit : String} (given : statistic.unit = some unit) : statistic.Carries ["Unit"] unit

/-- The values of a metric query. -/
inductive Query.Carries (query : Query) : List String → String → Prop
  | id : query.Carries ["Id"] query.id
  | expression {expression : String} (given : query.expression = some expression) :
      query.Carries ["Expression"] expression
  | label {label : String} (given : query.label = some label) : query.Carries ["Label"] label
  | statistic {statistic : Statistic} {path : List String} {value : String}
      (given : query.statistic = some statistic) (member : statistic.Carries path value) :
      query.Carries ("MetricStat" :: path) value
  | period {period : Int} (given : query.period = some period) :
      query.Carries ["Period"] (toString period)
  | returnData {returned : Bool} (given : query.returnData = some returned) :
      query.Carries ["ReturnData"] (if returned then "true" else "false")
  | accountId {account : String} (given : query.accountId = some account) :
      query.Carries ["AccountId"] account

/-- The values of a call for metric queries. -/
inductive Carries (queries : List Query) : List String → String → Prop
  | action : Carries queries ["Action"] "GetMetricData"
  | version : Carries queries ["Version"] "2010-08-01"
  | maxDatapoints : Carries queries ["MaxDatapoints"] "1"
  | noQueries (none : queries = []) : Carries queries ["MetricDataQueries"] ""
  | query {index : Nat} {query : Query} {path : List String} {value : String}
      (here : queries[index]? = some query) (member : query.Carries path value) :
      Carries queries ("MetricDataQueries" :: "member" :: toString (index + 1) :: path) value

/-- The names that a value of a call can begin with. -/
theorem Carries.head_mem {queries : List Query} {path : List String} {value : String}
    (carries : Carries queries path value) :
    path.head? ∈ ["Action", "Version", "MaxDatapoints", "MetricDataQueries"].map some := by
  cases carries <;> simp

/-! ## The entries of a shape are what it carries -/

section

open Entries

variable {path : List String} {value : String}

/-- The entries of a dimension are its values. -/
theorem Dimension.mem_entries_iff (dimension : Dimension) :
    (path, value) ∈ dimension.shape.entries ↔ dimension.Carries path value := by
  simp only [DimensionShape.entries, DimensionShape.members, shape, mem_record_cons_iff,
    not_mem_record_nil, mem_optional_iff, mem_one_iff, Option.some.injEq, ↓existsAndEq, true_and,
    or_false]
  constructor
  · rintro (⟨rfl, rfl⟩ | ⟨rfl, rfl⟩)
    · exact .name
    · exact .value
  · rintro (_ | _) <;> simp

/-- The entries of a metric are its values. -/
theorem Metric.mem_entries_iff (metric : Metric) :
    (path, value) ∈ metric.shape.entries ↔ metric.Carries path value := by
  simp only [MetricShape.entries, MetricShape.members, shape, mem_record_cons_iff,
    not_mem_record_nil, mem_optional_iff, mem_list_iff, mem_one_iff, List.map_eq_nil_iff,
    List.getElem?_map, Option.map_eq_some_iff, Option.some.injEq, ↓existsAndEq, and_true, true_and,
    or_false, Dimension.mem_entries_iff]
  constructor
  · rintro (⟨rfl, given⟩ | ⟨rfl, given⟩ |
      ⟨_, rfl, ⟨none, rfl, rfl⟩ | ⟨index, dimension, _, here, member, rfl⟩⟩)
    · exact .namespaceName given
    · exact .metricName given
    · exact .noDimensions none
    · exact .dimension here member
  · rintro (given | given | none | ⟨here, member⟩)
    · simp [given]
    · simp [given]
    · simp [none]
    · simp [here, member]

/-- The entries of a statistic are its values. -/
theorem Statistic.mem_entries_iff (statistic : Statistic) :
    (path, value) ∈ statistic.shape.entries ↔ statistic.Carries path value := by
  simp only [StatisticShape.entries, StatisticShape.members, shape, mem_record_cons_iff,
    not_mem_record_nil, mem_optional_iff, mem_one_iff, Option.map_eq_some_iff,
    Option.some.injEq, ↓existsAndEq, and_true, true_and, or_false, Metric.mem_entries_iff,
    StandardUnit.text_ofText]
  constructor
  · rintro (⟨_, rfl, member⟩ | ⟨rfl, rfl⟩ | ⟨rfl, rfl⟩ | ⟨rfl, given⟩)
    · exact .metric member
    · exact .period
    · exact .stat
    · exact .unit given
  · rintro (member | _ | _ | given)
    · simp [member]
    · simp
    · simp
    · simp [given]

/-- The entries of a metric query are its values. -/
theorem Query.mem_entries_iff (query : Query) :
    (path, value) ∈ query.shape.entries ↔ query.Carries path value := by
  simp only [QueryShape.entries, QueryShape.members, shape, mem_record_cons_iff,
    not_mem_record_nil, mem_optional_iff, mem_one_iff, Option.map_eq_some_iff,
    Option.some.injEq, ↓existsAndEq, and_true, true_and, or_false, Statistic.mem_entries_iff]
  constructor
  · rintro (⟨rfl, rfl⟩ | ⟨_, rfl, statistic, given, member⟩ | ⟨rfl, given⟩ | ⟨rfl, given⟩ |
      ⟨returned, rfl, given, rfl⟩ | ⟨period, rfl, given, rfl⟩ | ⟨rfl, given⟩)
    · exact .id
    · exact .statistic given member
    · exact .expression given
    · exact .label given
    · exact .returnData given
    · exact .period given
    · exact .accountId given
  · rintro (_ | given | given | ⟨given, member⟩ | given | given | given)
    · simp
    · simp [given]
    · simp [given]
    · simp [given, member]
    · simp [given]
    · simp [given, writeBoolean]
    · simp [given]

/-- The entries of a call for metric queries are its values. -/
theorem mem_entries_queryCall_iff (queries : List Query) :
    (path, value) ∈ (queryCall queries).shape.entries ↔ Carries queries path value := by
  simp only [CallShape.entries, CallShape.members, Call.shape, queryCall, mem_record_cons_iff,
    not_mem_record_nil, mem_optional_iff, mem_list_iff, mem_one_iff, List.map_eq_nil_iff,
    List.getElem?_map, Option.map_eq_some_iff, Option.some.injEq, ↓existsAndEq, and_true, true_and,
    or_false, Query.mem_entries_iff, reduceCtorEq, false_and, and_false, exists_false, false_or]
  constructor
  · rintro (⟨rfl, rfl⟩ | ⟨rfl, rfl⟩ |
      ⟨_, rfl, ⟨none, rfl, rfl⟩ | ⟨index, _, query, here, member, rfl⟩⟩ | ⟨rfl, rfl⟩)
    · exact .action
    · exact .version
    · exact .noQueries none
    · exact .query here member
    · exact .maxDatapoints
  · rintro (_ | _ | _ | none | ⟨here, member⟩)
    · simp
    · simp
    · simp [show toString (1 : Int) = "1" from rfl]
    · simp [none]
    · simp [here, member]

end

/-- A form has exactly the values that it carries, each under the key that its names make. -/
theorem mem_form_queryCall_iff (queries : List Query) (key value : String) :
    (key, value) ∈ (queryCall queries).form ↔
      ∃ path, Carries queries path value ∧ ".".intercalate path = key := by
  simp [Call.form, Entries.form, mem_entries_queryCall_iff, keyText_eq_intercalate]

/-- A form has a key only if it carries a value for it. -/
theorem exists_carries_of_mem_keys {queries : List Query} {name : String} (isName : IsName name)
    (inside : name ∈ (queryCall queries).form.map Prod.fst) :
    ∃ value, Carries queries [name] value := by
  obtain ⟨⟨key, value⟩, inForm, same⟩ := List.mem_map.1 inside
  obtain ⟨path, carries, named⟩ := (mem_form_queryCall_iff queries key value).1 inForm
  have keys : keyText path = keyText [name] := by
    rw [keyText_eq_intercalate, named]
    exact same
  have isPath : IsPath path := CallShape.isPath _ ((mem_entries_queryCall_iff queries).2 carries)
  obtain rfl : path = [name] :=
    (keyText_inj isPath ⟨by simp, by simpa using isName⟩).1 keys
  exact ⟨value, carries⟩

/-! ## Nothing is lost -/

/-- The metric queries of a form are read back, in whatever order its entries come. -/
theorem queries_of_perm {queries : List Query} {received : Form}
    (same : received.Perm (queryCall queries).form) : received.queries = queries := by
  have shows := Form.shows_of_perm same
  have areNames := (queryCall queries).shape.areNames
  have member : ("MetricDataQueries",
      Entries.list (queries.map fun query => query.shape.entries)) ∈
        (queryCall queries).shape.members := by
    simp [CallShape.members, Call.shape, queryCall, Entries.optional, Function.comp_def]
  exact (shows.below areNames member).members (isPath_append (by simp) (by decide))
    (fun query => List.cons_ne_nil _ _) (fun isPath shows => shows.query? isPath)
    fun isPath shows => shows.query?_of_nil isPath

/-- A query that can be decoded sends one form. It has each key once and exactly the values that the
decoded metric queries carry, so neither a start nor an end of the time that it asks about. They are
read back from it in whatever order its entries arrive, and so a query that is decoded differently
never sends the same entries. -/
theorem request_carries_queries (service : Service) {text : String} {queries : List Query}
    (decoded : readQueries text = .ok queries) :
    ∃ form, (ask service text).sent.map Call.form = [form] ∧
      (form.map Prod.fst).Nodup ∧
      (∀ key value, (key, value) ∈ form ↔
        ∃ path, Carries queries path value ∧ String.intercalate "." path = key) ∧
      (∀ key ∈ ["StartTime", "EndTime"], key ∉ form.map Prod.fst) ∧
      (∀ received : Form, received.Perm form → received.queries = queries) ∧
      ∀ otherService otherText otherQueries, readQueries otherText = .ok otherQueries →
        otherQueries ≠ queries →
          ∀ otherForm ∈ (ask otherService otherText).sent.map Call.form, ¬ otherForm.Perm form := by
  refine ⟨(queryCall queries).form, by rw [ask_of_decoded decoded]; rfl, nodup_keys_form _,
    mem_form_queryCall_iff queries, ?_, fun received same => queries_of_perm same, ?_⟩
  · intro key bound inside
    simp only [List.mem_cons, List.not_mem_nil, or_false] at bound
    rcases bound with rfl | rfl
    · obtain ⟨_, carries⟩ := exists_carries_of_mem_keys (by decide) inside
      exact absurd carries.head_mem (by decide)
    · obtain ⟨_, carries⟩ := exists_carries_of_mem_keys (by decide) inside
      exact absurd carries.head_mem (by decide)
  · intro otherService otherText otherQueries otherDecoded different otherForm sent same
    rw [ask_of_decoded otherDecoded] at sent
    obtain rfl : otherForm = (queryCall otherQueries).form := List.mem_singleton.1 sent
    have others := queries_of_perm (List.Perm.refl (queryCall otherQueries).form)
    exact different (others.symm.trans (queries_of_perm same))

/-- A statistic with a unit that is not known and a period of its own, beside an expression. -/
def visits : List Query :=
  [{ id := "hits"
     expression := none
     label := none
     statistic := some
      { metric := ⟨some "site", none, [⟨"host", ""⟩]⟩
        period := 60
        stat := "Sum"
        unit := some "Visits" }
     period := some 300
     returnData := none
     accountId := none },
    { id := "rate"
      expression := some "hits/60"
      label := none
      statistic := none
      period := none
      returnData := some false
      accountId := none }]

/-- The two periods travel under keys of their own, and the unit travels as it is. -/
theorem request_carries_queries_visits :
    ∃ text, readQueries text = .ok visits ∧
      ∃ form, (ask (fun _ => .ok []) text).sent.map Call.form = [form] ∧
        ("MetricDataQueries.member.1.Period", "300") ∈ form ∧
        ("MetricDataQueries.member.1.MetricStat.Period", "60") ∈ form ∧
        ("MetricDataQueries.member.1.MetricStat.Unit", "Visits") ∈ form ∧
        form.queries = visits := by
  have decoded : readQueries
      ("[\x7b\"Id\":\"hits\",\"Period\":300,\"MetricStat\":\x7b\"Metric\":\x7b" ++
        "\"Namespace\":\"site\",\"Dimensions\":[\x7b\"Name\":\"host\",\"Value\":\"\"\x7d]\x7d," ++
        "\"Period\":60,\"Stat\":\"Sum\",\"Unit\":\"Visits\"\x7d\x7d," ++
        "\x7b\"id\":\"rate\",\"expression\":\"hits/60\",\"returnData\":false\x7d]") =
      .ok visits := by decide +kernel
  obtain ⟨form, sent, _, carried, _, readBack, _⟩ :=
    request_carries_queries (fun _ => .ok []) decoded
  have first : visits[0]? = some _ := rfl
  refine ⟨_, decoded, form, sent,
    (carried _ _).2 ⟨_, .query first (@Query.Carries.period _ 300 rfl), ?_⟩,
    (carried _ _).2 ⟨_, .query first (.statistic rfl .period), ?_⟩,
    (carried _ _).2 ⟨_, .query first (.statistic rfl (.unit rfl)), ?_⟩, readBack form (.refl form)⟩
  all_goals decide

end MetricProbe.CloudWatch
