import MetricProbe.Config.SecretVariables
import MetricProbe.Probe.Basic
import MetricProbe.Provider.Settings

/-!
# Configurations

What a configuration says: who the probe is and how often it runs, which providers there are, which
checks are to be made, and whether the telemetry is served. Everything that may be left out has a
default.
-/

namespace MetricProbe

/-- The identity and the pace of the probe. -/
structure ProbeSettings where
  name : String
  /-- Which events are logged. -/
  logLevel : String := "info"
  /-- The metric interval, which also paces the probe. -/
  interval : String := "1m"
  /-- Whether the probe ends after one pass. -/
  runOnce : Bool := false
  deriving DecidableEq, Repr

/-- A provider under the name that checks refer to. -/
structure ProviderEntry where
  name : String
  settings : Settings := ⟨"", ""⟩
  /-- Where the secrets of the provider are found. -/
  secrets : SecretVariables := .empty
  deriving DecidableEq, Repr

/-- Whether and where the telemetry is served. -/
structure MetricsSettings where
  enabled : Bool := true
  bindAddress : String := "0.0.0.0:9090"
  deriving DecidableEq, Repr

/-- A configuration. -/
structure Config where
  probe : ProbeSettings
  providers : List ProviderEntry
  checks : List Probe.Check := []
  metrics : MetricsSettings := {}
  deriving DecidableEq, Repr

namespace Config

/-- The names of the providers. -/
def providerNames (config : Config) : List String := config.providers.map (·.name)

end Config

end MetricProbe
