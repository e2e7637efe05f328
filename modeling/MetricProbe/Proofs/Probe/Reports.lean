import MetricProbe.Proofs.Probe.Steps

/-!
# Reports do not depend on the schedule

A pass reports on each check what the check would give by itself. The tasks write into different
places, so the order in which they are joined does not matter; a place that no task writes keeps
what was settled before, and a task that was aborted leaves its place open to the last.

That a source answers as a function of the query during a pass is part of what a source is.
-/

namespace MetricProbe.Probe

open Telemetry (Registry)

/-- What becomes of a check by itself, if its provider is the given source. -/
def Check.outcome (check : Check) : Option Source → CheckOutcome
  | none => .failed s!"unknown provider '{check.provider}'"
  | some source =>
    match source.online with
    | .ok false => .offline "health check reported offline"
    | .error failure => .offline failure.message
    | .ok true =>
      match source.answer check.query with
      | none => .failed "check task aborted"
      | some (.ok value) => .value value
      | some (.error (.noValues response)) => .noData (Failure.noValues response).message
      | some (.error failure) => .failed failure.message

/-- The report on a check by itself. -/
def Check.reportAlone (roster : Roster) (check : Check) : Report where
  check := check.name
  provider := check.provider
  outcome := check.outcome (roster.find? check.provider)

/-- A check whose query is not to be run has the outcome at once that it has by itself. -/
theorem plan_eq_settled {roster : Roster} {registry : Registry} {check : Check}
    (unasked : check.source? roster = none) :
    check.plan roster (askAll roster registry).health =
      .settled (check.outcome (roster.find? check.provider)) := by
  rw [Check.plan, lookup_health]
  rw [Check.source?, Option.filter_eq_none_iff] at unasked
  cases found : roster.find? check.provider with
  | none => rfl
  | some source =>
      have down := unasked source found
      rw [Source.isUp_iff] at down
      rcases online : source.online with failure | (_ | _)
      · simp [Check.outcome, offlineReason?, online]
      · simp [Check.outcome, offlineReason?, online]
      · exact absurd online down

/-- A check whose source is up has the outcome of its query, and counts as aborted without one. -/
theorem outcome_of_up (check : Check) {source : Source} (up : source.isUp = true) :
    check.outcome (some source) =
      ((source.answer check.query).map CheckOutcome.ofResult).getD .aborted := by
  rw [Check.outcome, Source.isUp_iff.1 up]
  rcases source.answer check.query with _ | failure | value
  · rfl
  · cases failure <;> rfl
  · rfl

/-! ## Writing outcomes -/

/-- A task leaves the places of other checks alone. -/
theorem writeOutcome_other {task : Task} {place : Nat} (different : task.index ≠ place)
    (outcomes : List (Option CheckOutcome)) :
    (writeOutcome outcomes task)[place]? = outcomes[place]? := by
  unfold writeOutcome
  split
  · exact List.getElem?_set_ne different
  · rfl

/-- A task that has an outcome puts it into its place. -/
theorem writeOutcome_own (task : Task) (outcomes : List (Option CheckOutcome)) :
    (writeOutcome outcomes task)[task.index]? = outcomes[task.index]?.map task.outcome?.or := by
  unfold writeOutcome
  cases task.outcome? with
  | none => cases outcomes[task.index]? <;> rfl
  | some outcome =>
      rw [List.getElem?_set_self']
      cases outcomes[task.index]? <;> rfl

/-- A place of which there is no task stays as it is. -/
theorem foldl_writeOutcome_other {tasks : List Task} {place : Nat}
    (different : ∀ task ∈ tasks, task.index ≠ place) (outcomes : List (Option CheckOutcome)) :
    (tasks.foldl writeOutcome outcomes)[place]? = outcomes[place]? := by
  induction tasks generalizing outcomes with
  | nil => rfl
  | cons task tasks inductionHypothesis =>
      rw [List.foldl_cons, inductionHypothesis fun other member =>
        different other (List.mem_cons_of_mem _ member)]
      exact writeOutcome_other (different task List.mem_cons_self) outcomes

/-- In whatever order tasks with different places are joined, each puts its own outcome into its
place. -/
theorem foldl_writeOutcome_own {tasks : List Task} {task : Task}
    (distinct : tasks.Pairwise fun first second => first.index ≠ second.index)
    (member : task ∈ tasks) (outcomes : List (Option CheckOutcome)) :
    (tasks.foldl writeOutcome outcomes)[task.index]? =
      outcomes[task.index]?.map task.outcome?.or := by
  induction tasks generalizing outcomes with
  | nil => cases member
  | cons first tasks inductionHypothesis =>
      obtain ⟨others, distinct⟩ := List.pairwise_cons.1 distinct
      rw [List.foldl_cons]
      rcases List.mem_cons.1 member with rfl | later
      · have different : ∀ other ∈ tasks, other.index ≠ task.index :=
          fun other inside => (others other inside).symm
        rw [foldl_writeOutcome_other different, writeOutcome_own]
      · rw [inductionHypothesis distinct later, writeOutcome_other (others task later)]

/-! ## Passes -/

/-- The report at each place of a pass is the report on the check at that place by itself. -/
theorem run_reports (roster : Roster) (checks : List Check) (schedule : Schedule)
    (registry : Registry) :
    (run roster checks schedule registry).reports = checks.map (Check.reportAlone roster) := by
  have joined := schedule.complete .joined (tasksOf roster checks registry)
  have distinct := (joined.pairwise_iff Ne.symm).2 (tasksFrom_distinct roster registry checks)
  rw [run_eq]
  simp only [reportsOf]
  generalize tasksAt .joined _ = tasks at joined distinct ⊢
  apply List.ext_getElem?
  intro place
  rw [List.getElem?_zipWith, List.getElem?_map]
  cases found : checks[place]? with
  | none => rfl
  | some check =>
      have planned : (checks.map fun check =>
          (check.plan roster (askAll roster registry).health).outcome?)[place]? =
            some (check.plan roster (askAll roster registry).health).outcome? := by
        rw [List.getElem?_map, found]
        rfl
      cases asked : check.source? roster with
      | some source =>
          let task : Task := ⟨place, check, source⟩
          have member : task ∈ tasks := joined.mem_iff.2 (mem_tasksFrom_iff.2 ⟨found, asked⟩)
          have written := foldl_writeOutcome_own distinct member (checks.map fun check =>
            (check.plan roster (askAll roster registry).health).outcome?)
          obtain ⟨known, up⟩ := Option.filter_eq_some_iff.1 asked
          have outcome : task.outcome?.getD .aborted =
              check.outcome (roster.find? check.provider) := by
            rw [known, outcome_of_up check up]
            rfl
          rw [planned, plan_eq_pending_iff.2 asked] at written
          rw [written]
          simp only [Plan.outcome?, Option.map_some, Option.or_none, Check.report,
            Check.reportAlone, outcome]
      | none =>
          have different : ∀ task ∈ tasks, task.index ≠ place := by
            rintro task member rfl
            obtain ⟨here, source⟩ := mem_tasksFrom_iff.1 (joined.mem_iff.1 member)
            cases found.symm.trans here
            rw [asked] at source
            contradiction
          rw [foldl_writeOutcome_other different, planned, plan_eq_settled asked]
          rfl

/-- Under every schedule a pass reports on each check, in the order of the checks, what the check
gives by itself. So two passes agree on a check that both of them make, wherever it stands and
whatever else they do, if its provider is the same for both. -/
theorem reports_independent_of_schedule (roster : Roster) (checks : List Check)
    (schedule : Schedule) (registry : Registry) :
    (run roster checks schedule registry).reports =
        checks.map (fun check =>
          ⟨check.name, check.provider, check.outcome (roster.find? check.provider)⟩) ∧
      ∀ (other : Roster) (others : List Check) (otherSchedule : Schedule)
        (otherRegistry : Registry) (place otherPlace : Nat) (check : Check),
        checks[place]? = some check → others[otherPlace]? = some check →
          roster.find? check.provider = other.find? check.provider →
            (run roster checks schedule registry).reports[place]? =
              (run other others otherSchedule otherRegistry).reports[otherPlace]? := by
  refine ⟨run_reports roster checks schedule registry, ?_⟩
  intro other others otherSchedule otherRegistry place otherPlace check here there same
  rw [run_reports, run_reports, List.getElem?_map, List.getElem?_map, here, there]
  simp only [Option.map_some, Check.reportAlone, same]

/-- A check keeps its report when another check and an offline provider are put before it and the
tasks are run the other way round. -/
theorem reports_independent_of_schedule_moved :
    let source : Source := ⟨.datadog, true, .ok true, fun _ => some (.ok .zero), fun _ => .zero⟩
    let down : Source := ⟨.prometheus, true, .ok false, fun _ => none, fun _ => .zero⟩
    let one := Roster.empty.insert "a" source
    let two := (Roster.empty.insert "b" down).insert "a" source
    let check : Check := ⟨"latency", "a", "p99"⟩
    let checks : List Check := [⟨"errors", "b", "rate"⟩, ⟨"latency", "a", "p50"⟩, check]
    [check][0]? = some check ∧ checks[2]? = some check ∧ one.find? "a" = two.find? "a" ∧
      (run one [check] .sequential .empty).reports[0]? =
        (run two checks Schedule.sequential.reversed .empty).reports[2]? := by
  intro source down one two check checks
  have same : one.find? "a" = two.find? "a" := rfl
  exact ⟨rfl, rfl, same, (reports_independent_of_schedule one [check] .sequential .empty).2 two
    checks Schedule.sequential.reversed .empty 0 2 check rfl rfl same⟩

end MetricProbe.Probe
