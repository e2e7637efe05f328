import MetricProbe.Probe.Basic
import MetricProbe.Telemetry.Registry

/-!
# Sources

A source is a provider as a pass sees it: it answers health checks and queries, and a query may be
aborted without an answer. A source that is instrumented counts its answers; that never changes the
answer.

Within a pass a source answers as a function of the query.
-/

namespace MetricProbe.Probe

open Telemetry (Registry)

/-- A provider during one pass. -/
structure Source where
  backend : Backend
  /-- Whether answers are counted. -/
  instrumented : Bool
  /-- The answer to a health check. -/
  online : Outcome Bool
  /-- The answer to a query; there is none if the query is aborted. -/
  answer : String → Option (Outcome Binary64)
  /-- The time in seconds that the answer to a query takes. -/
  elapsed : String → Binary64

namespace Source

/-- The counters after a health check. -/
def countOnline (source : Source) (registry : Registry) : Registry :=
  if source.instrumented then registry.countHealth source.backend source.online else registry

/-- The counters after a query. -/
def countQuery (source : Source) (query : String) (registry : Registry) : Registry :=
  match source.answer query with
  | none => registry
  | some result =>
    if source.instrumented then
      registry.countQuery source.backend (source.elapsed query) result
    else registry

/-- A health check: its answer, and the counters after it. -/
def callOnline (source : Source) (registry : Registry) : Outcome Bool × Registry :=
  (source.online, source.countOnline registry)

/-- A query: its answer, and the counters after it. -/
def callQuery (source : Source) (query : String) (registry : Registry) :
    Option (Outcome Binary64) × Registry :=
  (source.answer query, source.countQuery query registry)

end Source

/-- Why a source with the given answer to a health check counts as offline, if it does. -/
def offlineReason? : Outcome Bool → Option String
  | .ok true => none
  | .ok false => some "health check reported offline"
  | .error failure => some failure.message

/-- The sources by name. -/
structure Roster where
  entries : List (String × Source)
  /-- No two entries have one name. -/
  distinct : entries.Pairwise fun first second => first.1 ≠ second.1

namespace Roster

/-- No sources. -/
def empty : Roster := ⟨[], .nil⟩

/-- The source of a name. -/
def find? (roster : Roster) (name : String) : Option Source := roster.entries.lookup name

/-- The roster with a source, which takes the place of another of its name. -/
def insert (roster : Roster) (name : String) (source : Source) : Roster where
  entries := roster.entries.filter (·.1 ≠ name) ++ [(name, source)]
  distinct := by
    refine List.pairwise_append.2 ⟨roster.distinct.filter _, List.pairwise_singleton _ _, ?_⟩
    intro first kept second added
    rw [List.mem_singleton.1 added]
    exact of_decide_eq_true (List.mem_filter.1 kept).2

end Roster

end MetricProbe.Probe
