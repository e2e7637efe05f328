import MetricProbe.Attempt
import MetricProbe.CloudWatch.Address
import MetricProbe.CloudWatch.Query
import MetricProbe.Provider.Settings

/-!
# Asking CloudWatch

A query asks for one datapoint, and the first value of the first result counts. A health check asks
for nothing at the zero time: the service looks at the parameters of a request only after it has
authenticated it, so a complaint about them proves that it is there.

The service is a function from calls to results; how a call travels is another module's business.
-/

namespace MetricProbe.CloudWatch

/-- One call of the service. Times are in seconds; what is not given is left to the service. -/
structure Call where
  queries : List Query
  maxDatapoints : Option Int
  startTime : Option Int
  endTime : Option Int
  deriving DecidableEq, Repr

/-- The result of one query. -/
structure Result where
  id : Option String
  values : List Binary64
  deriving DecidableEq, Repr

/-- Why a call has no results. -/
inductive ServiceFault where
  /-- The service answered with a status other than success, or with a body that cannot be read. -/
  | refused (status : Nat) (message : String)
  /-- There was no answer. -/
  | unanswered (reason : String)
  deriving DecidableEq, Repr

/-- The service and all that lies between. -/
abbrev Service := Call → Except ServiceFault (List Result)

/-- The first second of the calendar. -/
def zeroTime : Int := -62135596800

/-- The status of a complaint about parameters. -/
def badRequest : Nat := 400

/-- The call of a query. -/
def queryCall (queries : List Query) : Call :=
  { queries := queries, maxDatapoints := some 1, startTime := none, endTime := none }

/-- The call of a health check. -/
def onlineCall : Call :=
  { queries := [], maxDatapoints := none, startTime := some zeroTime, endTime := some zeroTime }

/-- Results as they are shown in a failure. -/
def Result.dump (result : Result) : String :=
  let id := match result.id with
    | some id => s!"Some({Text.quote id})"
    | none => "None"
  let values := String.intercalate ", " (result.values.map Decimal.dumpLayout.write)
  "MetricDataResult \x7b id: " ++ id ++ ", values: [" ++ values ++ "] \x7d"

/-- A list of results as it is shown in a failure. -/
def dumpResults (results : List Result) : String :=
  "[" ++ String.intercalate ", " (results.map Result.dump) ++ "]"

/-- The first value of the first result. -/
def firstValue? (results : List Result) : Option Binary64 := do
  let result ← results.head?
  result.values.head?

/-- What the service's answer to a query comes to. -/
def queryOutcome : Except ServiceFault (List Result) → Outcome Binary64
  | .error (.refused status message) => .error (.errorResponse status message)
  | .error (.unanswered reason) =>
    .error (.unexpected s!"error requesting cloudwatch: {reason}")
  | .ok results =>
    match firstValue? results with
    | some value => .ok value
    | none => .error (.noValues (dumpResults results))

/-- What the service's answer to a health check comes to. -/
def onlineOutcome : Except ServiceFault (List Result) → Outcome Bool
  | .ok _ => .ok true
  | .error (.refused status message) =>
    if status = badRequest then .ok true else .error (.unexpectedStatus status message)
  | .error (.unanswered reason) => .error (.unexpected reason)

/-- Calls the service once. -/
def callOnce {α : Type} (service : Service) (call : Call)
    (outcome : Except ServiceFault (List Result) → Outcome α) : Attempt Call α :=
  ⟨[call], outcome (service call)⟩

/-- Asks for the value of a query. -/
def ask (service : Service) (query : String) : Attempt Call Binary64 := do
  let queries ← readQueries query
  callOnce service (queryCall queries) queryOutcome

section

variable {service : Service} {query : String}

/-- A query that can be decoded makes one call. -/
theorem ask_of_decoded {queries : List Query} (decoded : readQueries query = .ok queries) :
    ask service query = callOnce service (queryCall queries) queryOutcome := by
  rw [ask, decoded]
  rfl

/-- A query that cannot be decoded makes no call. -/
theorem ask_of_undecoded {failure : Failure} (undecoded : readQueries query = .error failure) :
    ask service query = .ofOutcome (.error failure) := by
  rw [ask, undecoded]
  rfl

end

/-- Asks whether the service is there. -/
def check (service : Service) : Attempt Call Bool :=
  callOnce service onlineCall onlineOutcome

/-- The calls that a query makes: one, or none if it cannot be decoded. They do not depend on what
the service answers. -/
def queryCalls (query : String) : List Call := (ask (fun _ => .ok []) query).sent

/-- The value of a query. -/
def run (service : Service) (query : String) : Outcome Binary64 := (ask service query).outcome

/-- Whether the service is there. -/
def isOnline (service : Service) : Outcome Bool := (check service).outcome

/-- A client: the region and the endpoint of the service, both left to the environment when no
address is configured. -/
structure Client where
  region : Option String
  endpoint : Option String
  deriving DecidableEq, Repr

/-- A client for the region that the address names. -/
def Client.make (settings : Settings) : Outcome Client :=
  if settings.address.isEmpty then .ok ⟨none, none⟩
  else
    match readRegion settings.address with
    | .error failure => .error failure
    | .ok region => .ok ⟨some region, some (endpointUrl settings.address)⟩

end MetricProbe.CloudWatch
