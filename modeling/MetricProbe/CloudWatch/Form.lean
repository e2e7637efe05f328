import MetricProbe.CloudWatch.Shape

/-!
# Calls as forms

A call travels as a form: a flat list of keys and values. The key of a value is made of the names on
the way to it, with points between them. A member of a list stands below its number, counted from
one; what is absent has no key, and an empty list is its bare key with an empty value.
-/

namespace MetricProbe.CloudWatch

/-- A form: keys and values. -/
abbrev Form := List (String × String)

/-- Values with the names that lead to them, outermost first. -/
abbrev Entries := List (List String × String)

namespace Entries

/-- A single value, which needs no name. -/
def one (value : String) : Entries := [([], value)]

/-- Entries below a name. -/
def below (name : String) (entries : Entries) : Entries :=
  entries.map fun entry => (name :: entry.1, entry.2)

/-- The entries of what may be absent. -/
def optional {α : Type} (write : α → Entries) : Option α → Entries
  | some value => write value
  | none => []

/-- The entries of a structure, those of each member below its name. -/
def record (members : List (String × Entries)) : Entries :=
  members.flatMap fun member => member.2.below member.1

/-- The members of a list with their numbers as names. -/
def numbered (items : List Entries) : List (String × Entries) :=
  items.mapIdx fun index entries => (toString (index + 1), entries)

/-- The entries of a list. -/
def list (items : List Entries) : Entries :=
  if items.isEmpty then one "" else record [("member", record (numbered items))]

end Entries

/-- A key: names with points between them. -/
def keyText : List String → String
  | [] => ""
  | [name] => name
  | name :: next :: more => name ++ "." ++ keyText (next :: more)

/-- Entries as a form. -/
def Entries.form (entries : Entries) : Form :=
  entries.map fun entry => (keyText entry.1, entry.2)

/-- A truth value in a form. -/
def writeBoolean (value : Bool) : String := if value then "true" else "false"

/-- Digits with zeros before them up to a width. -/
def padded (width value : Nat) : String :=
  let digits := Nat.toDigits 10 value
  String.ofList (List.replicate (width - digits.length) '0' ++ digits)

/-- The year, month and day of a number of days after the first of January 1970. -/
def civilDate (days : Int) : Int × Nat × Nat :=
  let shifted := days + 719468
  let era := shifted / 146097
  let dayOfEra := (shifted % 146097).toNat
  let yearOfEra :=
    (dayOfEra - dayOfEra / 1460 + dayOfEra / 36524 - dayOfEra / 146096) / 365
  let dayOfYear := dayOfEra - (365 * yearOfEra + yearOfEra / 4 - yearOfEra / 100)
  let shiftedMonth := (5 * dayOfYear + 2) / 153
  let day := dayOfYear - (153 * shiftedMonth + 2) / 5 + 1
  let month := if shiftedMonth < 10 then shiftedMonth + 3 else shiftedMonth - 9
  let year := yearOfEra + era * 400 + (if month ≤ 2 then 1 else 0)
  (year, month, day)

/-- A time in seconds as a date and a time of day in universal time. -/
def timeText (seconds : Int) : String :=
  let (year, month, day) := civilDate (seconds / 86400)
  let inDay := (seconds % 86400).toNat
  padded 4 year.toNat ++ "-" ++ padded 2 month ++ "-" ++ padded 2 day ++ "T" ++
    padded 2 (inDay / 3600) ++ ":" ++ padded 2 (inDay / 60 % 60) ++ ":" ++ padded 2 (inDay % 60) ++
    "Z"

/-- The members of a dimension. -/
def DimensionShape.members (dimension : DimensionShape) : List (String × Entries) :=
  [("Name", .optional .one dimension.name),
    ("Value", .optional .one dimension.value)]

/-- The entries of a dimension. -/
def DimensionShape.entries (dimension : DimensionShape) : Entries := .record dimension.members

/-- The members of a metric. -/
def MetricShape.members (metric : MetricShape) : List (String × Entries) :=
  [("Namespace", .optional .one metric.namespaceName),
    ("MetricName", .optional .one metric.metricName),
    ("Dimensions", .optional (fun items => .list (items.map DimensionShape.entries))
      metric.dimensions)]

/-- The entries of a metric. -/
def MetricShape.entries (metric : MetricShape) : Entries := .record metric.members

/-- The members of a statistic. -/
def StatisticShape.members (statistic : StatisticShape) : List (String × Entries) :=
  [("Metric", .optional MetricShape.entries statistic.metric),
    ("Period", .optional (fun period => .one (toString period)) statistic.period),
    ("Stat", .optional .one statistic.stat),
    ("Unit", .optional (fun unit => .one unit.text) statistic.unit)]

/-- The entries of a statistic. -/
def StatisticShape.entries (statistic : StatisticShape) : Entries := .record statistic.members

/-- The members of a metric query. -/
def QueryShape.members (query : QueryShape) : List (String × Entries) :=
  [("Id", .optional .one query.id),
    ("MetricStat", .optional StatisticShape.entries query.statistic),
    ("Expression", .optional .one query.expression),
    ("Label", .optional .one query.label),
    ("ReturnData", .optional (fun value => .one (writeBoolean value)) query.returnData),
    ("Period", .optional (fun period => .one (toString period)) query.period),
    ("AccountId", .optional .one query.accountId)]

/-- The entries of a metric query. -/
def QueryShape.entries (query : QueryShape) : Entries := .record query.members

/-- The members of a call. -/
def CallShape.members (call : CallShape) : List (String × Entries) :=
  [("Action", .one "GetMetricData"), ("Version", .one "2010-08-01"),
    ("MetricDataQueries", .optional (fun items => .list (items.map QueryShape.entries))
      call.queries),
    ("StartTime", .optional (fun time => .one (timeText time)) call.startTime),
    ("EndTime", .optional (fun time => .one (timeText time)) call.endTime),
    ("MaxDatapoints", .optional (fun count => .one (toString count)) call.maxDatapoints)]

/-- The entries of a call. -/
def CallShape.entries (call : CallShape) : Entries := .record call.members

/-- The form of a call. -/
def Call.form (call : Call) : Form := call.shape.entries.form

end MetricProbe.CloudWatch
