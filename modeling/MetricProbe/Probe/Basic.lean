import MetricProbe.Decimal.Layout
import MetricProbe.Failure

/-!
# Checks and reports

A check is a named query for a named provider. A pass over all checks makes one report for each of
them; a report holds a value, or says why there is none.
-/

namespace MetricProbe.Probe

/-- A query and the provider it is for. -/
structure Check where
  name : String
  provider : String
  query : String
  deriving DecidableEq, Repr

/-- What became of a check. -/
inductive CheckOutcome where
  /-- The query gave a value. -/
  | value (value : Binary64)
  /-- The backend is fine and has no datapoint. -/
  | noData (reason : String)
  /-- The provider failed its health check, so the query was not run. -/
  | offline (reason : String)
  /-- The query failed. -/
  | failed (reason : String)
  deriving DecidableEq, Repr

namespace CheckOutcome

/-- The outcome as it is shown. -/
def display : CheckOutcome → String
  | value number => Decimal.reportLayout.write number
  | noData reason => s!"no data: {reason}"
  | offline reason => s!"provider offline: {reason}"
  | failed reason => s!"failed: {reason}"

/-- Whether the check has a value. -/
def isValue : CheckOutcome → Bool
  | value _ => true
  | _ => false

/-- The outcome of a query with the given result. -/
def ofResult : Outcome Binary64 → CheckOutcome
  | .ok number => value number
  | .error failure =>
    if failure.isNoData then noData failure.message else failed failure.message

/-- The outcome of a check for a provider that does not exist. -/
def unknownProvider (provider : String) : CheckOutcome :=
  failed s!"unknown provider '{provider}'"

/-- The outcome of a check whose query was aborted. -/
def aborted : CheckOutcome := failed "check task aborted"

end CheckOutcome

/-- What one pass says about one check. -/
structure Report where
  check : String
  provider : String
  outcome : CheckOutcome
  deriving DecidableEq, Repr

/-- The report of a check. -/
def Check.report (check : Check) (outcome : CheckOutcome) : Report :=
  ⟨check.name, check.provider, outcome⟩

end MetricProbe.Probe
