import MetricProbe.Config.Basic
import MetricProbe.Config.Shape
import MetricProbe.Toml.Document

/-!
# Configurations as documents

The shapes of the records of a configuration: the names of the fields, which of them must be there,
and what each of them holds.
-/

namespace MetricProbe.Config

/-- The section of the probe. -/
def probeShape : Shape ProbeSettings where
  name := "ProbeConfig"
  blank := ⟨"", "info", "1m", false⟩
  fields :=
    [field "name" true fitText fun name settings => { settings with name },
      field "log_level" false fitText fun logLevel settings => { settings with logLevel },
      field "interval" false fitText fun interval settings => { settings with interval },
      field "run_once" false fitBoolean fun runOnce settings => { settings with runOnce }]

/-- A provider. -/
def providerShape : Shape ProviderEntry where
  name := "ProviderEntry"
  blank := ⟨"", ⟨"", ""⟩, .empty⟩
  fields :=
    [field "name" true fitText fun name entry => { entry with name },
      field "type" false fitText fun declared entry =>
        { entry with settings := { entry.settings with declared } },
      field "address" false fitText fun address entry =>
        { entry with settings := { entry.settings with address } },
      field "credentials_env" false fitTexts fun secrets entry =>
        { entry with secrets := .ofList secrets }]

/-- A check. -/
def checkShape : Shape Probe.Check where
  name := "CheckConfig"
  blank := ⟨"", "", ""⟩
  fields :=
    [field "name" true fitText fun name check => { check with name },
      field "provider" true fitText fun provider check => { check with provider },
      field "query" true fitText fun query check => { check with query }]

/-- The section of the telemetry. -/
def metricsShape : Shape MetricsSettings where
  name := "MetricsConfig"
  blank := ⟨true, "0.0.0.0:9090"⟩
  fields :=
    [field "enabled" false fitBoolean fun enabled settings => { settings with enabled },
      field "bind_address" false fitText fun bindAddress settings =>
        { settings with bindAddress }]

/-- A whole configuration. -/
def shape : Shape Config where
  name := "AppConfig"
  blank := ⟨probeShape.blank, [], [], metricsShape.blank⟩
  fields :=
    [field "probe" true probeShape.fit fun probe config => { config with probe },
      field "providers" true (fitList providerShape.fit) fun providers config =>
        { config with providers },
      field "checks" false (fitList checkShape.fit) fun checks config => { config with checks },
      field "metrics" false metricsShape.fit fun metrics config => { config with metrics }]

/-- Why a text is no configuration. -/
inductive Unreadable where
  /-- The text is no document. -/
  | notDocument
  /-- The document does not fit. -/
  | misfit (misfit : Misfit)
  deriving DecidableEq, Repr

/-- The configuration that a text stands for. Nothing is said about whether it makes sense. -/
def read (text : String) : Except Unreadable Config :=
  match Toml.Table.read? text with
  | none => .error .notDocument
  | some entries =>
    match shape.fitEntries entries with
    | .error misfit => .error (.misfit misfit)
    | .ok config => .ok config

end MetricProbe.Config
