import Mathlib.Data.List.Count
import Mathlib.Data.List.Nodup
import MetricProbe.Proofs.Probe.Steps

/-!
# The calls of a pass

Which calls a pass makes: a health check of every source, and after all of them the query of every
check whose source is up. Nothing else is called, and the order in which sources stand in a roster
or tasks are run changes only the order of the calls.
-/

namespace MetricProbe.Probe

open Telemetry (Registry)

/-- Whether a name is that of a source that is up. -/
def Roster.hasUp (roster : Roster) (name : String) : Bool := (roster.find? name).any Source.isUp

/-- The health checks of a pass. -/
def Roster.healthCalls (roster : Roster) : List Call :=
  roster.entries.map fun entry => .online entry.1

/-- The queries of a pass, in the order of the checks. -/
def Roster.queryCalls (roster : Roster) (checks : List Check) : List Call :=
  (checks.filter fun check => roster.hasUp check.provider).map fun check =>
    .query check.provider check.query

/-- The calls of the tasks are the queries of the checks whose source is up. -/
theorem map_call_tasksOf (roster : Roster) (checks : List Check) (registry : Registry) :
    (tasksOf roster checks registry).map Task.call = roster.queryCalls checks := by
  have calls := map_tasksFrom roster registry checks fun check _ =>
    Call.query check.provider check.query
  rw [tasksOf]
  refine calls.trans ?_
  rw [Roster.queryCalls, ← List.filterMap_eq_map, List.filterMap_filter]
  congr 1
  funext check
  rw [Check.source?, Roster.hasUp]
  cases roster.find? check.provider with
  | none => rfl
  | some source => cases up : source.isUp <;> simp [Option.filter, up]

/-- A pass makes the health checks and then the queries, these in any order. -/
theorem run_calls (roster : Roster) (checks : List Check) (schedule : Schedule)
    (registry : Registry) :
    ∃ queries, (run roster checks schedule registry).calls = roster.healthCalls ++ queries ∧
      queries.Perm (roster.queryCalls checks) := by
  refine ⟨_, congrArg Pass.calls (run_eq roster checks schedule registry), ?_⟩
  rw [← map_call_tasksOf roster checks registry]
  exact (schedule.complete .called _).map Task.call

/-- A pass makes the same calls as one health check each and one query each, in some order. -/
theorem run_calls_perm (roster : Roster) (checks : List Check) (schedule : Schedule)
    (registry : Registry) :
    (run roster checks schedule registry).calls.Perm
      (roster.healthCalls ++ roster.queryCalls checks) := by
  obtain ⟨queries, calls, perm⟩ := run_calls roster checks schedule registry
  rw [calls]
  exact perm.append_left _

/-- Every source is asked for its health once, and nobody else is. -/
theorem count_online_healthCalls (roster : Roster) (name : String) :
    roster.healthCalls.count (.online name) = if (roster.find? name).isSome then 1 else 0 := by
  have distinct : roster.healthCalls.Nodup := by
    refine List.pairwise_map.2 (roster.distinct.imp ?_)
    intro first second different same
    exact different (Call.online.inj same)
  have member : Call.online name ∈ roster.healthCalls ↔ (roster.find? name).isSome = true := by
    simp [Roster.healthCalls, Option.isSome_iff_exists, Roster.find?_eq_some_iff]
  rw [List.Nodup.count distinct]
  simp only [member]

/-- A query is made once for each check that has it, if the source is up. -/
theorem count_query_queryCalls (roster : Roster) (checks : List Check) (name query : String) :
    (roster.queryCalls checks).count (.query name query) =
      if roster.hasUp name then
        checks.countP fun check => check.provider = name ∧ check.query = query
      else 0 := by
  rw [Roster.queryCalls, List.count_eq_countP, List.countP_map, List.countP_filter]
  by_cases up : roster.hasUp name = true
  · rw [if_pos up]
    refine List.countP_congr fun check _ => ?_
    simp only [Function.comp_apply, beq_iff_eq, Call.query.injEq, Bool.and_eq_true,
      decide_eq_true_eq]
    exact ⟨fun both => both.1, fun same => ⟨same, same.1 ▸ up⟩⟩
  · rw [if_neg up, List.countP_eq_zero]
    intro check _
    simp only [Function.comp_apply, beq_iff_eq, Call.query.injEq, Bool.and_eq_true]
    rintro ⟨⟨rfl, _⟩, here⟩
    exact up here

/-- Rosters with the same entries find the same sources. -/
theorem Roster.find?_perm {roster other : Roster} (same : other.entries.Perm roster.entries)
    (name : String) : other.find? name = roster.find? name := by
  refine Option.ext fun source => ?_
  rw [Roster.find?_eq_some_iff, Roster.find?_eq_some_iff]
  exact same.mem_iff

/-- A pass asks every source for its health once, before any query, and then runs exactly the
queries of the checks whose source is up, once for each check; a name without a source, or whose
source is not up, gets no query. Which calls these are depends neither on the order of the sources
nor on the schedule. -/
theorem calls_of_pass (roster : Roster) (checks : List Check) (schedule : Schedule)
    (registry : Registry) :
    let calls := (run roster checks schedule registry).calls
    (∃ queries, calls = (roster.entries.map fun entry => .online entry.1) ++ queries ∧
        queries.Perm ((checks.filter fun check =>
          (roster.find? check.provider).any Source.isUp).map fun check =>
            .query check.provider check.query)) ∧
      (∀ name, calls.count (.online name) = if (roster.find? name).isSome then 1 else 0) ∧
      (∀ name query, calls.count (.query name query) =
        if (roster.find? name).any Source.isUp then
          checks.countP fun check => check.provider = name ∧ check.query = query
        else 0) ∧
      ∀ (other : Roster) (otherSchedule : Schedule) (otherRegistry : Registry),
        other.entries.Perm roster.entries →
          (run other checks otherSchedule otherRegistry).calls.Perm calls := by
  intro calls
  have made : calls.Perm (roster.healthCalls ++ roster.queryCalls checks) :=
    run_calls_perm roster checks schedule registry
  refine ⟨run_calls roster checks schedule registry, ?_, ?_, ?_⟩
  · intro name
    have unasked : (roster.queryCalls checks).count (.online name) = 0 := by
      simp [Roster.queryCalls, List.count_eq_zero]
    rw [made.count_eq, List.count_append, count_online_healthCalls, unasked, Nat.add_zero]
  · intro name query
    have unqueried : roster.healthCalls.count (.query name query) = 0 := by
      simp [Roster.healthCalls, List.count_eq_zero]
    rw [made.count_eq, List.count_append, count_query_queryCalls, unqueried, Nat.zero_add]
    rfl
  · intro other otherSchedule otherRegistry same
    have health : other.healthCalls.Perm roster.healthCalls := same.map _
    have queries : other.queryCalls checks = roster.queryCalls checks := by
      simp only [Roster.queryCalls, Roster.hasUp, Roster.find?_perm same]
    refine (run_calls_perm other checks otherSchedule otherRegistry).trans (.trans ?_ made.symm)
    rw [queries]
    exact health.append_right _

/-- Two sources change places and the tasks are run the other way round. -/
theorem calls_of_pass_swapped :
    let up : Source := ⟨.datadog, true, .ok true, fun _ => some (.ok .zero), fun _ => .zero⟩
    let down : Source := ⟨.prometheus, true, .ok false, fun _ => none, fun _ => .zero⟩
    let one := (Roster.empty.insert "a" up).insert "b" down
    let two := (Roster.empty.insert "b" down).insert "a" up
    let checks : List Check :=
      [⟨"errors", "b", "rate"⟩, ⟨"latency", "a", "p50"⟩, ⟨"again", "a", "p50"⟩]
    two.entries.Perm one.entries ∧
      (run two checks .sequential .empty).calls.Perm
        (run one checks Schedule.sequential.reversed .empty).calls := by
  intro up down one two checks
  have swapped : two.entries.Perm one.entries := List.Perm.swap _ _ []
  exact ⟨swapped, (calls_of_pass one checks Schedule.sequential.reversed .empty).2.2.2 two
    .sequential .empty swapped⟩

end MetricProbe.Probe
