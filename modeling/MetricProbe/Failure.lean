/-!
# Failures of a provider

Everything that can go wrong in building a provider, asking it for a value or checking its health.
Faults of the configuration, broken connections, refusals by the backend and the plain absence of a
datapoint are kept apart, because a caller treats them differently: only the last one means that
the backend is fine.
-/

namespace MetricProbe

/-- Why a request got no answer. -/
inductive Breakage where
  /-- No request could be built, so none was sent. -/
  | unsendable
  /-- The connection was refused, or closed before an answer. -/
  | disconnected
  /-- There was no answer within the time allowed. -/
  | timedOut
  deriving DecidableEq, Repr

/-- The wording of a broken exchange. -/
def Breakage.message : Breakage → String
  | .unsendable => "builder error"
  | .disconnected => "error sending request"
  | .timedOut => "operation timed out"

/-- A failure of a provider. -/
inductive Failure where
  /-- A credential that the backend needs is absent. -/
  | missingCredential (provider key : String)
  /-- The metric interval cannot be read. -/
  | invalidInterval (interval reason : String)
  /-- The address of the backend cannot be used. -/
  | invalidAddress (address reason : String)
  /-- The query is malformed for its backend. -/
  | invalidQuery (reason : String)
  /-- No client for the backend could be made. -/
  | clientBuild (reason : String)
  /-- The request got no answer. -/
  | transport (cause : Breakage)
  /-- The backend answered with a status other than success. -/
  | errorResponse (status : Nat) (body : String)
  /-- The backend answered, but the body cannot be decoded. -/
  | decode (reason body : String)
  /-- The backend answered without a datapoint. -/
  | noValues (response : String)
  /-- The backend answered a health check with a status that is no proof of health. -/
  | unexpectedStatus (status : Nat) (message : String)
  /-- A failure that never got as far as an answer. -/
  | unexpected (reason : String)
  deriving DecidableEq, Repr

namespace Failure

/-- The coarse classes of failures, used as a label. -/
inductive Class where
  | config
  | transport
  | backend
  | noData
  deriving DecidableEq, Repr

/-- The label of a class. -/
def Class.label : Class → String
  | .config => "config"
  | .transport => "transport"
  | .backend => "backend"
  | .noData => "no_data"

/-- The class of a failure. -/
def kind : Failure → Class
  | missingCredential .. | invalidInterval .. | invalidAddress .. | invalidQuery .. |
    clientBuild .. => .config
  | transport .. | unexpected .. => .transport
  | errorResponse .. | unexpectedStatus .. | decode .. => .backend
  | noValues .. => .noData

/-- Whether the backend is fine and merely has no datapoint. -/
def isNoData (failure : Failure) : Bool := failure.kind = .noData

/-- Whether the configuration is at fault. -/
def isConfiguration (failure : Failure) : Bool := failure.kind = .config

/-- The wording of a failure. -/
def message : Failure → String
  | missingCredential provider key => s!"{provider} credentials does not contain {key}"
  | invalidInterval interval reason => s!"error parsing metric interval '{interval}': {reason}"
  | invalidAddress address reason => s!"invalid provider address '{address}': {reason}"
  | invalidQuery reason => s!"error unmarshaling query: {reason}"
  | clientBuild reason => s!"failed to build http client: {reason}"
  | transport cause => s!"transport error: {cause.message}"
  | errorResponse status body => s!"error response ({status}): {body}"
  | decode reason body => s!"error unmarshaling result: {reason}, '{body}'"
  | noValues response => s!"no values found in response: {response}"
  | unexpectedStatus status message => s!"unexpected status code {status}: {message}"
  | unexpected reason => s!"unexpected error: {reason}"

end Failure

/-- The outcome of a provider operation. -/
abbrev Outcome (α : Type) := Except Failure α

end MetricProbe
