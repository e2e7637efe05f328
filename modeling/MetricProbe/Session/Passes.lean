import MetricProbe.Probe.Pass
import MetricProbe.Session.Start
import MetricProbe.Telemetry.Exposition

/-!
# Passes of a session

The providers of a session are the sources of its passes; all of them are counted. A pass makes the
calls of a `Probe.Pass`, and what arrives at the backends follows from the calls.
-/

namespace MetricProbe.Session

open Log (Event)
open Telemetry (Registry)

/-- A provider as a source. The time that the answer to a query takes is given by the query. -/
def sourceOf (surroundings : Surroundings) (elapsed : String → Binary64) (provider : Provider) :
    Probe.Source where
  backend := provider.backend
  instrumented := true
  online := provider.isOnline surroundings
  answer := fun query => some (provider.run surroundings query)
  elapsed := elapsed

/-- The sources of named providers. -/
def rosterOf (surroundings : Surroundings) (elapsed : String → Binary64)
    (providers : List (String × Provider)) : Probe.Roster :=
  providers.foldl (fun roster entry =>
    roster.insert entry.1 (sourceOf surroundings elapsed entry.2)) .empty

/-- The requests that arrive because of a call of a provider. -/
def requestsOf (surroundings : Surroundings) (providers : List (String × Provider)) :
    Probe.Call → List Http.Request
  | .online name =>
    match providers.lookup name with
    | none => []
    | some provider => Http.arrivals surroundings.network provider.onlineRequest?
  | .query name query =>
    match providers.lookup name with
    | none => []
    | some provider =>
      Http.arrivals surroundings.network (provider.queryRequest? surroundings.now query)

/-- A pass is complete. -/
def passEvent (checks : Nat) : Event :=
  ⟨.info, [("checks", .number checks)], "Probe pass complete"⟩

/-- The only pass is complete. -/
def onlyPassEvent (checks failed : Nat) : Event :=
  ⟨.info, [("checks", .number checks), ("failed", .number failed)], "Probe pass complete"⟩

/-- The telemetry cannot be served. -/
def serverFailedEvent (reason : String) : Event :=
  ⟨.error, [("error", .text reason)], "Metrics server failed"⟩

/-- The session was interrupted. -/
def interruptedEvent : Event := ⟨.info, [], "SIGINT received, shutting down"⟩

/-- The session is over. -/
def finishedEvent : Event := ⟨.info, [], "Shutdown complete"⟩

/-- Whether a session serves its telemetry. -/
def servesTelemetry (config : Config) : Bool :=
  config.metrics.enabled && !config.probe.runOnce

/-- The events of setting up the telemetry server, as far as its address decides them. -/
def serverEvents (config : Config) : List Event :=
  if servesTelemetry config then
    match Telemetry.readBind config.metrics.bindAddress with
    | .ok _ => []
    | .error fault => [serverFailedEvent fault.message]
  else []

/-- Everything beyond the program. -/
structure World where
  environment : Environment
  /-- The files by their paths. -/
  file : String → Config.FileContent
  /-- What providers reach during a pass. -/
  surroundings : Nat → Surroundings
  /-- The time that the answer to a query takes during a pass. -/
  elapsed : Nat → String → Binary64
  /-- The order of the steps in which the queries of a pass are run. -/
  schedule : Nat → Probe.Schedule
  /-- How many passes there are before the session is interrupted. -/
  passes : Nat

/-- What a session leaves behind. -/
structure Transcript where
  /-- All events, also those that a filter drops. -/
  events : List Event
  /-- Why the session failed, if it did. -/
  failure : Option Fault
  /-- The calls of providers. -/
  calls : List Probe.Call
  /-- The requests that arrived at backends. -/
  requests : List Http.Request
  registry : Registry

/-- A session that fails before any provider is asked. -/
def failedStart (events : List Event) (fault : Fault) : Transcript :=
  ⟨events, some fault, [], [], .empty⟩

/-- One pass of a session. -/
def pass (world : World) (providers : List (String × Provider)) (checks : List Probe.Check)
    (index : Nat) (registry : Registry) : Probe.Pass :=
  Probe.run (rosterOf (world.surroundings index) (world.elapsed index) providers) checks
    (world.schedule index) registry

/-- The requests that arrive during a pass. -/
def passRequests (world : World) (providers : List (String × Provider)) (index : Nat)
    (calls : List Probe.Call) : List Http.Request :=
  calls.flatMap (requestsOf (world.surroundings index) providers)

/-- A session of a single pass, which fails unless every check has a value. -/
def runOnce (world : World) (events : List Event) (providers : List (String × Provider))
    (checks : List Probe.Check) : Transcript :=
  let done := pass world providers checks 0 .empty
  let failed := Probe.failedCount done.reports
  { events := events ++ [onlyPassEvent done.reports.length failed]
    failure := if failed = 0 then none else some (.noValue failed)
    calls := done.calls
    requests := passRequests world providers 0 done.calls
    registry := done.registry }

/-- The transcript after one more pass. -/
def Transcript.addPass (world : World) (providers : List (String × Provider))
    (checks : List Probe.Check) (transcript : Transcript) (index : Nat) : Transcript :=
  let done := pass world providers checks index transcript.registry
  { transcript with
    events := transcript.events ++ [passEvent done.reports.length]
    calls := transcript.calls ++ done.calls
    requests := transcript.requests ++ passRequests world providers index done.calls
    registry := done.registry }

/-- A session of passes up to an interruption. -/
def runUntilInterrupted (world : World) (config : Config) (events : List Event)
    (providers : List (String × Provider)) : Transcript :=
  let begun : Transcript := ⟨events ++ serverEvents config, none, [], [], .empty⟩
  let done := (List.range world.passes).foldl
    (Transcript.addPass world providers config.checks) begun
  { done with events := done.events ++ [interruptedEvent, finishedEvent] }

/-- A session with a configuration that was loaded. -/
def runConfig (world : World) (path : String) (config : Config) : Transcript :=
  let started := start path config world.environment
  match started.providers with
  | .error fault => failedStart started.events fault
  | .ok providers =>
    if config.probe.runOnce then runOnce world started.events providers config.checks
    else runUntilInterrupted world config started.events providers

/-- A whole session. -/
def run (world : World) : Transcript :=
  let path := configPath world.environment
  match Config.load path (world.file path) with
  | .error fault => failedStart [] (.config fault)
  | .ok config => runConfig world path config

/-- The exit code of the program. -/
def Transcript.exitCode (transcript : Transcript) : Nat :=
  if transcript.failure.isNone then 0 else 1

end MetricProbe.Session
