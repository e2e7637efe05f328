import MetricProbe.Text.Utf8

/-!
# Provider settings

What the configuration says about one provider: the declared backend, an address, and named
secrets. A declared backend that is not known means Prometheus, so configurations that declare none
keep working; the match is exact.
-/

namespace MetricProbe

/-- The backends that can be asked for metrics. -/
inductive Backend where
  | prometheus
  | datadog
  | cloudwatch
  deriving DecidableEq, Repr, Inhabited

namespace Backend

/-- The name of a backend, as it is declared and as it appears in labels. -/
def name : Backend → String
  | prometheus => "prometheus"
  | datadog => "datadog"
  | cloudwatch => "cloudwatch"

/-- The backend that a declaration selects. -/
def ofDeclared (declared : String) : Backend :=
  if declared = "datadog" then datadog
  else if declared = "cloudwatch" then cloudwatch
  else prometheus

/-- A backend is selected by its own name. -/
@[simp] theorem ofDeclared_name (backend : Backend) : ofDeclared backend.name = backend := by
  cases backend <;> decide

end Backend

/-- The declared backend and the address of a provider. -/
structure Settings where
  declared : String
  address : String
  deriving DecidableEq, Repr, Inhabited

namespace Settings

/-- The backend that the settings select. -/
def backend (settings : Settings) : Backend := Backend.ofDeclared settings.declared

/-- The configured address, or another one when none is configured. -/
def addressOr (settings : Settings) (fallback : String) : String :=
  if settings.address.isEmpty then fallback else settings.address

end Settings

/-- Named secrets. The first entry of a name counts. -/
abbrev Credentials := List (String × Bytes)

/-- The text of a secret; bytes that are not UTF-8 are replaced. -/
def Credentials.text? (credentials : Credentials) (key : String) : Option String :=
  (credentials.lookup key).map Utf8.decodeLossy

end MetricProbe
