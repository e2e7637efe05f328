import MetricProbe.Failure
import MetricProbe.Json.Document

/-!
# Queries of CloudWatch

The query of a CloudWatch check is a JSON list of metric queries, each an expression or a statistic
of one metric. Members are named as in the service's interface, or with a small first letter.
Decoding keeps every member as it is written; what the service makes of a member, such as a unit it
does not know, is left to the service.
-/

namespace MetricProbe.CloudWatch

open Json (Reader Record)

/-- One dimension that selects a metric. -/
structure Dimension where
  name : String
  value : String
  deriving DecidableEq, Repr

/-- The metric of a statistic. -/
structure Metric where
  namespaceName : Option String
  metricName : Option String
  dimensions : List Dimension
  deriving DecidableEq, Repr

/-- A statistic of a metric over a period in seconds. -/
structure Statistic where
  metric : Metric
  period : Int
  stat : String
  unit : Option String
  deriving DecidableEq, Repr

/-- One metric query. -/
structure Query where
  id : String
  expression : Option String
  label : Option String
  statistic : Option Statistic
  period : Option Int
  returnData : Option Bool
  accountId : Option String
  deriving DecidableEq, Repr

/-- A field with its two spellings. -/
def bothSpellings {draft α : Type} (name otherName : String) (required : Bool)
    (get : draft → Option α) (set : draft → α → draft) (value : Nat → Reader α) :
    Json.Field draft where
  name := name
  otherName := some otherName
  required := required
  filled := fun draft => (get draft).isSome
  fill := fun depth draft => do
    let value ← value depth
    pure (set draft value)

/-- What has been read of a dimension. -/
structure DimensionDraft where
  name : Option String
  value : Option String

/-- A dimension as it is written. -/
def dimensionRecord : Record DimensionDraft Dimension where
  name := "Dimension"
  fields :=
    [bothSpellings "Name" "name" true (·.name) (fun draft name => { draft with name := some name })
      (fun _ => Json.text),
      bothSpellings "Value" "value" true (·.value)
        (fun draft value => { draft with value := some value }) (fun _ => Json.text)]
  empty := ⟨none, none⟩
  finish := fun draft => do
    let name ← draft.name.elim (.error "Name") .ok
    let value ← draft.value.elim (.error "Value") .ok
    pure ⟨name, value⟩

/-- What has been read of a metric. -/
structure MetricDraft where
  namespaceName : Option (Option String)
  metricName : Option (Option String)
  dimensions : Option (List Dimension)

/-- A metric as it is written. -/
def metricRecord : Record MetricDraft Metric where
  name := "Metric"
  fields :=
    [bothSpellings "Namespace" "namespace" false (·.namespaceName)
      (fun draft value => { draft with namespaceName := some value })
      (fun _ => Json.optional Json.text),
      bothSpellings "MetricName" "metricName" false (·.metricName)
        (fun draft value => { draft with metricName := some value })
        (fun _ => Json.optional Json.text),
      bothSpellings "Dimensions" "dimensions" false (·.dimensions)
        (fun draft value => { draft with dimensions := some value })
        (Json.array dimensionRecord.read)]
  empty := ⟨none, none, none⟩
  finish := fun draft =>
    .ok ⟨draft.namespaceName.join, draft.metricName.join, draft.dimensions.getD []⟩

/-- What has been read of a statistic. -/
structure StatisticDraft where
  metric : Option Metric
  period : Option Int
  stat : Option String
  unit : Option (Option String)

/-- A statistic as it is written. -/
def statisticRecord : Record StatisticDraft Statistic where
  name := "MetricStat"
  fields :=
    [bothSpellings "Metric" "metric" true (·.metric)
      (fun draft value => { draft with metric := some value }) metricRecord.read,
      bothSpellings "Period" "period" true (·.period)
        (fun draft value => { draft with period := some value }) (fun _ => Json.int32),
      bothSpellings "Stat" "stat" true (·.stat)
        (fun draft value => { draft with stat := some value }) (fun _ => Json.text),
      bothSpellings "Unit" "unit" false (·.unit)
        (fun draft value => { draft with unit := some value })
        (fun _ => Json.optional Json.text)]
  empty := ⟨none, none, none, none⟩
  finish := fun draft => do
    let metric ← draft.metric.elim (.error "Metric") .ok
    let period ← draft.period.elim (.error "Period") .ok
    let stat ← draft.stat.elim (.error "Stat") .ok
    pure ⟨metric, period, stat, draft.unit.join⟩

/-- What has been read of a query. -/
structure QueryDraft where
  id : Option String
  expression : Option (Option String)
  label : Option (Option String)
  statistic : Option (Option Statistic)
  period : Option (Option Int)
  returnData : Option (Option Bool)
  accountId : Option (Option String)

/-- A query as it is written. -/
def queryRecord : Record QueryDraft Query where
  name := "MetricDataQuery"
  fields :=
    [bothSpellings "Id" "id" true (·.id) (fun draft value => { draft with id := some value })
      (fun _ => Json.text),
      bothSpellings "Expression" "expression" false (·.expression)
        (fun draft value => { draft with expression := some value })
        (fun _ => Json.optional Json.text),
      bothSpellings "Label" "label" false (·.label)
        (fun draft value => { draft with label := some value })
        (fun _ => Json.optional Json.text),
      bothSpellings "MetricStat" "metricStat" false (·.statistic)
        (fun draft value => { draft with statistic := some value })
        (fun depth => Json.optional (statisticRecord.read depth)),
      bothSpellings "Period" "period" false (·.period)
        (fun draft value => { draft with period := some value })
        (fun _ => Json.optional Json.int32),
      bothSpellings "ReturnData" "returnData" false (·.returnData)
        (fun draft value => { draft with returnData := some value })
        (fun _ => Json.optional Json.boolean),
      bothSpellings "AccountId" "accountId" false (·.accountId)
        (fun draft value => { draft with accountId := some value })
        (fun _ => Json.optional Json.text)]
  empty := ⟨none, none, none, none, none, none, none⟩
  finish := fun draft => do
    let id ← draft.id.elim (.error "Id") .ok
    pure ⟨id, draft.expression.join, draft.label.join, draft.statistic.join, draft.period.join,
      draft.returnData.join, draft.accountId.join⟩

/-- The metric queries that a check's query stands for. -/
def readQueries (text : String) : Outcome (List Query) :=
  match Json.decode (Json.array queryRecord.read) text with
  | .error fault => .error (.invalidQuery fault.message)
  | .ok queries => .ok queries

/-- The units that the service knows. -/
def knownUnits : List String :=
  ["Seconds", "Microseconds", "Milliseconds", "Bytes", "Kilobytes", "Megabytes", "Gigabytes",
    "Terabytes", "Bits", "Kilobits", "Megabits", "Gigabits", "Terabits", "Percent", "Count",
    "None", "Bytes/Second", "Kilobytes/Second", "Megabytes/Second", "Gigabytes/Second",
    "Terabytes/Second", "Bits/Second", "Kilobits/Second", "Megabits/Second", "Gigabits/Second",
    "Terabits/Second", "Count/Second"]

/-- Whether the service knows a unit. The name must be exact. -/
def isKnownUnit (name : String) : Bool := knownUnits.contains name

end MetricProbe.CloudWatch
