import MetricProbe.Decimal.Layout
import MetricProbe.Telemetry.Registry
import MetricProbe.Text.Split

/-!
# Exposition of telemetry

The text that a scraper reads. Families stand in the order of their names and only if they have a
series; the series of a family stand in the order of their labels' values, the outcome before the
provider. A histogram shows how many samples were at most each bound, the sum, and the number of
samples.
-/

namespace MetricProbe.Telemetry

/-- The backends in the order of their names. -/
def backendsInOrder : List Backend := [.cloudwatch, .datadog, .prometheus]

/-- The outcomes of queries in the order of their labels. -/
def queryOutcomesInOrder : List QueryOutcome :=
  [.failed .backend, .failed .config, .failed .noData, .ok, .failed .transport]

/-- The outcomes of health checks in the order of their labels. -/
def healthOutcomesInOrder : List HealthOutcome := [.error, .offline, .online]

/-- The bounds of the buckets of the histogram in seconds, with their texts. -/
def bounds : List (String × Binary64) :=
  [("0.01", Binary64.ofRatio false 1 100), ("0.05", Binary64.ofRatio false 5 100),
    ("0.1", Binary64.ofRatio false 1 10), ("0.25", Binary64.ofRatio false 1 4),
    ("0.5", Binary64.ofRatio false 1 2), ("1", Binary64.ofNat 1),
    ("2.5", Binary64.ofRatio false 5 2), ("5", Binary64.ofNat 5), ("10", Binary64.ofNat 10)]

/-- Whether a time, which is not negative, is at most a bound. -/
def atMost : Binary64 → Binary64 → Bool
  | .finite _ m e, .finite _ n f => Binary64.units m e ≤ Binary64.units n f
  | .finite .., .infinite _ => true
  | _, _ => false

/-- A series that counts an outcome of a backend. -/
def counterLine (name outcome provider : String) (count : Nat) : String :=
  name ++ "\x7boutcome=\"" ++ outcome ++ "\",provider=\"" ++ provider ++ "\"\x7d " ++ toString count

/-- The series of a counter that have samples. -/
def counterLines {α : Type} [DecidableEq α] (name : String) (label : α → String)
    (outcomes : List α) (tally : Tally (α × Backend)) : List String :=
  outcomes.flatMap fun outcome => backendsInOrder.filterMap fun backend =>
    let count := tally.count (outcome, backend)
    if count = 0 then none else some (counterLine name (label outcome) backend.name count)

/-- The lines of the histogram of one backend. -/
def histogramLines (name : String) (backend : Backend) (samples : List Binary64) : List String :=
  let labels := "\x7bprovider=\"" ++ backend.name ++ "\""
  let total := toString samples.length
  (bounds.map fun (text, bound) =>
    name ++ "_bucket" ++ labels ++ ",le=\"" ++ text ++ "\"\x7d " ++
      toString (samples.countP (atMost · bound))) ++
    [name ++ "_bucket" ++ labels ++ ",le=\"+Inf\"\x7d " ++ total,
      name ++ "_sum" ++ labels ++ "\x7d " ++
        Decimal.reportLayout.write (samples.foldr (fun sample sum => sum.add sample) Binary64.zero),
      name ++ "_count" ++ labels ++ "\x7d " ++ total]

/-- A family with its help and its type, unless it has no series. -/
def familyLines (name help type : String) (series : List String) : List String :=
  if series.isEmpty then []
  else s!"# HELP {name} {help}" :: s!"# TYPE {name} {type}" :: series

/-- The lines of the exposition. -/
def Registry.expose (registry : Registry) : List String :=
  let health := "canary_metrics_health_checks_total"
  let queries := "canary_metrics_queries_total"
  let duration := "canary_metrics_query_duration_seconds"
  familyLines health "Provider health checks executed" "counter"
      (counterLines health HealthOutcome.label healthOutcomesInOrder registry.healthChecks) ++
    familyLines queries "Metric queries executed" "counter"
      (counterLines queries QueryOutcome.label queryOutcomesInOrder registry.queries) ++
    familyLines duration "Metric query latency in seconds" "histogram"
      (backendsInOrder.flatMap fun backend =>
        let samples := registry.durationsOf backend
        if samples.isEmpty then [] else histogramLines duration backend samples)

/-- The path under which the exposition is served. -/
def metricsPath : String := "/metrics"

/-- The answer of the metrics server to a request: a status and the lines of the body. -/
def Registry.serve (registry : Registry) (method path : String) : Nat × List String :=
  if path ≠ metricsPath then (404, [])
  else if method = "GET" then (200, registry.expose)
  else if method = "HEAD" then (200, [])
  else (405, [])

/-- Why the text of a bind address cannot be used. -/
inductive BindFault where
  | noPort
  | badPort
  deriving DecidableEq, Repr

/-- The wording of a fault. -/
def BindFault.message : BindFault → String
  | .noPort => "invalid socket address"
  | .badPort => "invalid port value"

/-- The port that a text gives: digits, perhaps behind a plus sign. -/
def bindPort? (text : List Char) : Option Nat :=
  let digits := match text with
    | '+' :: digits => digits
    | digits => digits
  if digits.isEmpty || !digits.all Char.isDigit then none
  else
    let value := Nat.ofDigitChars 10 digits 0
    if value < 65536 then some value else none

/-- The host and the port of a bind address, which are divided by its last colon. -/
def readBind (address : String) : Except BindFault (String × Nat) :=
  match Text.splitLast? (· == ':') address.toList with
  | none => .error .noPort
  | some (host, port) =>
    match bindPort? port with
    | none => .error .badPort
    | some port => .ok (String.ofList host, port)

end MetricProbe.Telemetry
