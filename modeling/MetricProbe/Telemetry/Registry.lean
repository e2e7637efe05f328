import MetricProbe.Decimal.Binary64
import MetricProbe.Failure
import MetricProbe.Provider.Settings

/-!
# Telemetry of provider calls

Counters of the queries and health checks that were answered, by backend and outcome, and the times
that queries took. Values of queries are never kept. A call that is aborted is not answered and so
leaves no trace here.

How the counters are shown to a scraper is another module's business.
-/

namespace MetricProbe.Telemetry

/-- What became of a query. -/
inductive QueryOutcome where
  | ok
  | failed (kind : Failure.Class)
  deriving DecidableEq, Repr

/-- The label of an outcome. -/
def QueryOutcome.label : QueryOutcome → String
  | ok => "ok"
  | failed kind => kind.label

/-- What became of a query with the given result. -/
def QueryOutcome.of : Outcome Binary64 → QueryOutcome
  | .ok _ => ok
  | .error failure => failed failure.kind

/-- What became of a health check. -/
inductive HealthOutcome where
  | online
  | offline
  | error
  deriving DecidableEq, Repr

/-- The label of an outcome. -/
def HealthOutcome.label : HealthOutcome → String
  | online => "online"
  | offline => "offline"
  | error => "error"

/-- What became of a health check with the given result. -/
def HealthOutcome.of : Outcome Bool → HealthOutcome
  | .ok true => online
  | .ok false => offline
  | .error _ => error

/-- Counters by key. A key that was never counted has no entry. -/
structure Tally (κ : Type) where
  entries : List (κ × Nat)
  deriving Repr

namespace Tally

variable {κ : Type} [DecidableEq κ]

/-- No counters. -/
def empty : Tally κ := ⟨[]⟩

/-- How often a key was counted. -/
def count (tally : Tally κ) (key : κ) : Nat :=
  ((tally.entries.find? (·.1 = key)).map (·.2)).getD 0

/-- The entries with one of them raised by one. -/
def raise (key : κ) : List (κ × Nat) → List (κ × Nat)
  | [] => [(key, 1)]
  | (other, n) :: rest => if other = key then (key, n + 1) :: rest else (other, n) :: raise key rest

/-- The counters after a key was counted once more. -/
def add (tally : Tally κ) (key : κ) : Tally κ := ⟨raise key tally.entries⟩

/-- No key was counted at first. -/
@[simp] theorem count_empty (key : κ) : (empty : Tally κ).count key = 0 := rfl

/-- Counting a key raises its own counter by one and leaves the others alone. -/
theorem count_add (tally : Tally κ) (key other : κ) :
    (tally.add key).count other = tally.count other + if key = other then 1 else 0 := by
  obtain ⟨entries⟩ := tally
  simp only [add, count]
  induction entries with
  | nil => by_cases same : key = other <;> simp [raise, same]
  | cons entry rest inductionHypothesis =>
    obtain ⟨first, n⟩ := entry
    unfold raise
    by_cases here : first = key
    · subst here
      by_cases same : first = other <;> simp [same]
    · by_cases there : first = other
      · have different : ¬key = other := fun equal => here (there.trans equal.symm)
        rw [if_neg here, if_neg different]
        simp [there]
      · rw [if_neg here]
        simpa [there] using inductionHypothesis

end Tally

/-- All that is counted. -/
structure Registry where
  queries : Tally (QueryOutcome × Backend)
  /-- The times in seconds that queries took, the latest first. -/
  durations : List (Backend × Binary64)
  healthChecks : Tally (HealthOutcome × Backend)

namespace Registry

/-- Nothing is counted yet. -/
def empty : Registry := ⟨Tally.empty, [], Tally.empty⟩

/-- Counts an answered query and the time it took. -/
def countQuery (registry : Registry) (backend : Backend) (elapsed : Binary64)
    (result : Outcome Binary64) : Registry :=
  { registry with
    durations := (backend, elapsed) :: registry.durations
    queries := registry.queries.add (QueryOutcome.of result, backend) }

/-- Counts an answered health check. -/
def countHealth (registry : Registry) (backend : Backend) (result : Outcome Bool) : Registry :=
  { registry with healthChecks := registry.healthChecks.add (HealthOutcome.of result, backend) }

/-- The times of the queries of one backend. -/
def durationsOf (registry : Registry) (backend : Backend) : List Binary64 :=
  (registry.durations.filter (·.1 = backend)).map (·.2)

/-- How many queries of a backend were timed. -/
def sampleCount (registry : Registry) (backend : Backend) : Nat :=
  (registry.durationsOf backend).length

end Registry

end MetricProbe.Telemetry
