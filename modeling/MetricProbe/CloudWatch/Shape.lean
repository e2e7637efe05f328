import MetricProbe.CloudWatch.Client

/-!
# Shapes of the interface

A call is handed on in the shapes of the service's interface. Every member of a shape may be absent,
because it is the service that says which it needs, and a unit is one that the service knows or any
other text. A query fills the members that it has, each from its own.
-/

namespace MetricProbe.CloudWatch

/-- A unit of measurement. -/
inductive StandardUnit where
  /-- A unit that the service knows. -/
  | known (name : String) (listed : isKnownUnit name = true)
  /-- A text that is handed on as it is. -/
  | unknown (text : String)
  deriving DecidableEq, Repr

namespace StandardUnit

/-- The unit that a text names. -/
def ofText (text : String) : StandardUnit :=
  if listed : isKnownUnit text = true then known text listed else unknown text

/-- The text of a unit. -/
def text : StandardUnit → String
  | known name _ => name
  | unknown text => text

/-- A unit keeps the text that named it, also when it is not known. -/
@[simp] theorem text_ofText (name : String) : (ofText name).text = name := by
  unfold ofText
  split <;> rfl

end StandardUnit

/-- A dimension as it is handed on. -/
structure DimensionShape where
  name : Option String
  value : Option String
  deriving DecidableEq, Repr

/-- A metric as it is handed on. -/
structure MetricShape where
  namespaceName : Option String
  metricName : Option String
  dimensions : Option (List DimensionShape)
  deriving DecidableEq, Repr

/-- A statistic as it is handed on. -/
structure StatisticShape where
  metric : Option MetricShape
  period : Option Int
  stat : Option String
  unit : Option StandardUnit
  deriving DecidableEq, Repr

/-- A metric query as it is handed on. -/
structure QueryShape where
  id : Option String
  statistic : Option StatisticShape
  expression : Option String
  label : Option String
  returnData : Option Bool
  period : Option Int
  accountId : Option String
  deriving DecidableEq, Repr

/-- A call as it is handed on. -/
structure CallShape where
  queries : Option (List QueryShape)
  startTime : Option Int
  endTime : Option Int
  maxDatapoints : Option Int
  deriving DecidableEq, Repr

/-- The shape of a dimension. -/
def Dimension.shape (dimension : Dimension) : DimensionShape where
  name := some dimension.name
  value := some dimension.value

/-- The shape of a metric. Its list of dimensions is never absent. -/
def Metric.shape (metric : Metric) : MetricShape where
  namespaceName := metric.namespaceName
  metricName := metric.metricName
  dimensions := some (metric.dimensions.map Dimension.shape)

/-- The shape of a statistic. -/
def Statistic.shape (statistic : Statistic) : StatisticShape where
  metric := some statistic.metric.shape
  period := some statistic.period
  stat := some statistic.stat
  unit := statistic.unit.map .ofText

/-- The shape of a metric query. -/
def Query.shape (query : Query) : QueryShape where
  id := some query.id
  statistic := query.statistic.map Statistic.shape
  expression := query.expression
  label := query.label
  returnData := query.returnData
  period := query.period
  accountId := query.accountId

/-- The shape of a call. Its list of queries is never absent. -/
def Call.shape (call : Call) : CallShape where
  queries := some (call.queries.map Query.shape)
  startTime := call.startTime
  endTime := call.endTime
  maxDatapoints := call.maxDatapoints

end MetricProbe.CloudWatch
