import MetricProbe.Config.Load
import MetricProbe.Config.Secrets
import MetricProbe.Log.Event
import MetricProbe.Provider.Factory
import MetricProbe.Session.Environment

/-!
# Starting a session

Before anything is asked, the configuration is loaded, its metric interval is read, and a provider
is made of every entry, in the order in which the entries stand. The first secret that is missing or
provider that cannot be made ends the session: a probe that silently lacks a provider would mislead.
No provider is asked anything while the session starts.

Providers are given the interval as it is written, and read it again for themselves.
-/

namespace MetricProbe.Session

open Log (Event)

/-- The version that is logged. -/
def version : String := "0.3.0"

/-- The variable that says where the configuration is. -/
def configVariable : String := "CANARY_METRICS_CONFIG"

/-- Where the configuration is unless a variable says otherwise. -/
def defaultConfigPath : String := "canary-metrics.toml"

/-- Where the configuration is. -/
def configPath (environment : Environment) : String :=
  (environment.text? configVariable).getD defaultConfigPath

/-- Why a session ends in failure. -/
inductive Fault where
  /-- The configuration cannot be loaded. -/
  | config (fault : Config.LoadFault)
  /-- The metric interval cannot be read. -/
  | interval (text : String) (cause : Interval.Fault)
  /-- A secret is not there. -/
  | secret (missing : MissingVariable)
  /-- A provider cannot be made. -/
  | provider (name : String) (failure : Failure)
  /-- The only pass has this many checks without a value. -/
  | noValue (count : Nat)
  deriving DecidableEq, Repr

/-- The wording of a fault and of what is behind it, outermost first. -/
def Fault.chain : Fault → List String
  | config fault => "Failed to load configuration" :: fault.chain
  | interval text cause =>
    ["Invalid probe interval", (Failure.invalidInterval text (cause.message text)).message]
  | secret missing => [missing.message]
  | provider name failure => [s!"Failed to construct provider '{name}'", failure.message]
  | noValue count => [s!"{count} check(s) returned no value"]

/-- A text whose lines after the first are indented. -/
def indented (width : Nat) (text : String) : String :=
  String.intercalate ("\n" ++ String.ofList (List.replicate width ' '))
    ((Text.splitAll (· == '\n') text.toList).map String.ofList)

/-- The report of a chain of messages: what failed, and below it why. Several reasons are
numbered. -/
def report : List String → String
  | [] => "Error: "
  | [outer] => "Error: " ++ outer
  | [outer, cause] => "Error: " ++ outer ++ "\n\nCaused by:\n    " ++ indented 4 cause
  | outer :: causes =>
    "Error: " ++ outer ++ "\n\nCaused by:" ++
      String.join (causes.mapIdx fun index cause => s!"\n    {index}: " ++ indented 7 cause)

/-! ## Events -/

/-- The configuration was loaded. -/
def loadedEvent (path : String) (config : Config) : Event :=
  { level := .info
    fields :=
      [("name", .text config.probe.name), ("version", .text version), ("config", .text path),
        ("providers", .number config.providers.length), ("checks", .number config.checks.length),
        ("interval", .text config.probe.interval), ("run_once", .flag config.probe.runOnce)]
    message := "Configuration loaded, starting canary metrics probe" }

/-- A provider was made. -/
def readyEvent (name : String) (backend : Backend) : Event :=
  ⟨.info, [("provider", .text name), ("kind", .text backend.name)], "Provider ready"⟩

/-- No check names a provider. -/
def idleEvent (name : String) : Event :=
  ⟨.warn, [("provider", .text name)], "Provider has no checks"⟩

/-- The events of a provider that was made. -/
def providerEvents (checks : List Probe.Check) (name : String) (backend : Backend) : List Event :=
  readyEvent name backend ::
    if checks.all (·.provider ≠ name) then [idleEvent name] else []

/-! ## Providers -/

/-- The provider of an entry. -/
def makeProvider (interval : Interval) (environment : Environment) (entry : ProviderEntry) :
    Except Fault Provider :=
  match entry.resolve environment.text? with
  | .error missing => .error (.secret missing)
  | .ok credentials =>
    match Provider.make interval.text entry.settings credentials with
    | .error failure => .error (.provider entry.name failure)
    | .ok provider => .ok provider

/-- What the start of a session has come to: the events so far, and the providers by name. -/
structure Start where
  events : List Event
  providers : Except Fault (List (String × Provider))

/-- Makes the providers of entries, up to the first that cannot be made. -/
def makeProviders (checks : List Probe.Check) (interval : Interval) (environment : Environment) :
    List ProviderEntry → Start
  | [] => ⟨[], .ok []⟩
  | entry :: rest =>
    match makeProvider interval environment entry with
    | .error fault => ⟨[], .error fault⟩
    | .ok provider =>
      let later := makeProviders checks interval environment rest
      ⟨providerEvents checks entry.name provider.backend ++ later.events,
        later.providers.map ((entry.name, provider) :: ·)⟩

/-- Starts a session with a configuration. -/
def start (path : String) (config : Config) (environment : Environment) : Start :=
  match Interval.read config.probe.interval with
  | .error cause =>
    ⟨[loadedEvent path config], .error (.interval config.probe.interval cause)⟩
  | .ok interval =>
    let made := makeProviders config.checks interval environment config.providers
    ⟨loadedEvent path config :: made.events, made.providers⟩

end MetricProbe.Session
