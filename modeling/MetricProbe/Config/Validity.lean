import MetricProbe.Config.Basic
import MetricProbe.Interval
import MetricProbe.Text.Blank

/-!
# Validity of configurations

A configuration can be used if it has providers, whose names are not empty and all different, if
every check names one of them and has a query, if the metric interval can be read, and if there is
an address for the telemetry unless it is not served. The fault that is reported is the first one
in this order; providers and checks are looked at in the order in which they stand.
-/

namespace MetricProbe.Config

/-- Why a configuration cannot be used. -/
inductive Fault where
  | noProviders
  /-- The provider at a place has an empty name. -/
  | emptyName (index : Nat)
  /-- A provider has the name of an earlier one. -/
  | repeatedName (name : String)
  /-- The check at a place names a provider that does not exist. -/
  | unknownProvider (index : Nat) (check provider : String)
  /-- The check at a place has a query of nothing but blanks. -/
  | emptyQuery (index : Nat) (check : String)
  /-- The metric interval cannot be read. -/
  | invalidInterval (text : String) (cause : Interval.Fault)
  | emptyBindAddress
  deriving DecidableEq, Repr

namespace Fault

/-- The wording of a fault. -/
def message : Fault → String
  | noProviders => "At least one provider must be configured"
  | emptyName index => s!"Provider {index} has an empty name"
  | repeatedName name => s!"Provider name '{name}' is defined more than once"
  | unknownProvider index check provider =>
    s!"Check {index} ({check}) references unknown provider '{provider}'"
  | emptyQuery index check => s!"Check {index} ({check}) has an empty query"
  | invalidInterval text _ => s!"Invalid probe interval '{text}'"
  | emptyBindAddress => "Metrics bind_address must not be empty when metrics are enabled"

/-- The fault behind a fault, if there is one. -/
def causes : Fault → List String
  | invalidInterval text cause => [(Failure.invalidInterval text (cause.message text)).message]
  | _ => []

end Fault

/-- Looks at providers, of which the first has the given place, after others with the given
names. -/
def validateProviders : Nat → List String → List ProviderEntry → Except Fault Unit
  | _, _, [] => .ok ()
  | index, earlier, entry :: rest =>
    if entry.name.isEmpty then .error (.emptyName index)
    else if entry.name ∈ earlier then .error (.repeatedName entry.name)
    else validateProviders (index + 1) (earlier ++ [entry.name]) rest

/-- Looks at checks, of which the first has the given place, for providers of the given names. -/
def validateChecks (names : List String) : Nat → List Probe.Check → Except Fault Unit
  | _, [] => .ok ()
  | index, check :: rest =>
    if check.provider ∉ names then
      .error (.unknownProvider index check.name check.provider)
    else if Text.allBlank check.query then .error (.emptyQuery index check.name)
    else validateChecks names (index + 1) rest

/-- Looks at the metric interval. -/
def validateInterval (text : String) : Except Fault Unit :=
  match Interval.read text with
  | .ok _ => .ok ()
  | .error cause => .error (.invalidInterval text cause)

/-- Looks at the address of the telemetry. -/
def validateMetrics (metrics : MetricsSettings) : Except Fault Unit :=
  if metrics.enabled && metrics.bindAddress.isEmpty then .error .emptyBindAddress else .ok ()

/-- Accepts the configurations that can be used and reports the first fault of the others. -/
def validate (config : Config) : Except Fault Unit := do
  if config.providers.isEmpty then throw .noProviders
  validateProviders 0 [] config.providers
  validateChecks config.providerNames 0 config.checks
  validateInterval config.probe.interval
  validateMetrics config.metrics

end MetricProbe.Config
