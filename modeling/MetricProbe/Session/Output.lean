import MetricProbe.Log.Filter
import MetricProbe.Session.Passes

/-!
# Output of a session

What a session shows: the events that the filter lets through, and on the other stream the
directives that were ignored and the report of a failure. The filter comes from a variable if all of
its directives can be read, and else from the configuration, of which the directives that cannot be
read are ignored.
-/

namespace MetricProbe.Session

open Log (Event Filter)

/-- The variable that holds a log filter. -/
def filterVariable : String := "RUST_LOG"

/-- The source of the events of a session. -/
def eventSource : String := "canary_metrics"

/-- The filter of a session, and a line for each directive that was ignored. -/
def filterOf (environment : Environment) (config : Config) : Filter × List String :=
  match (environment.text? filterVariable).bind Filter.read? with
  | some filter => (filter, [])
  | none => (Filter.readKnown config.probe.logLevel, Filter.ignored config.probe.logLevel)

/-- The configuration of a session, if it can be loaded. -/
def configOf? (world : World) : Option Config :=
  let path := configPath world.environment
  (Config.load path (world.file path)).toOption

/-- The events that a session logs. -/
def loggedEvents (world : World) : List Event :=
  match configOf? world with
  | none => []
  | some config =>
    let (filter, _) := filterOf world.environment config
    (run world).events.filter (filter.logs eventSource)

/-- The lines on the stream for errors. -/
def errorLines (world : World) : List String :=
  let ignored := match configOf? world with
    | none => []
    | some config => (filterOf world.environment config).2
  ignored ++ ((run world).failure.map fun fault => report fault.chain).toList

end MetricProbe.Session
