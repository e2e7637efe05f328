import Mathlib.Data.List.Basic
import MetricProbe.Probe.Pass
import MetricProbe.Proofs.Association

/-!
# The steps of a pass

What the phases of a pass leave behind. Asking for health and each of the three moments of a task
change different parts of what is known, so the calls, the counters and the outcomes of a whole pass
can be told apart, and each of them depends on the order of only one of the moments.
-/

namespace MetricProbe.Probe

open Telemetry (Registry)

/-! ## Health -/

/-- Counts the health checks of sources one after the other. -/
def countHealths (entries : List (String × Source)) (registry : Registry) : Registry :=
  entries.foldl (fun registry entry => entry.2.countOnline registry) registry

/-- Asking sources adds their answers and the calls, and counts the answers. -/
theorem foldl_askHealth (entries : List (String × Source)) (progress : Progress) :
    entries.foldl Progress.askHealth progress =
      { progress with
        health := progress.health ++ entries.map fun entry =>
          (entry.1, offlineReason? entry.2.online)
        calls := progress.calls ++ entries.map fun entry => .online entry.1
        registry := countHealths entries progress.registry } := by
  induction entries generalizing progress with
  | nil => simp [countHealths]
  | cons entry entries inductionHypothesis =>
      rw [List.foldl_cons, inductionHypothesis]
      simp [Progress.askHealth, Source.callOnline, countHealths]

/-- Every source is asked, and nothing else happens. -/
theorem askAll_eq (roster : Roster) (registry : Registry) :
    askAll roster registry =
      { health := roster.entries.map fun entry => (entry.1, offlineReason? entry.2.online)
        outcomes := []
        calls := roster.entries.map fun entry => .online entry.1
        registry := countHealths roster.entries registry } := by
  rw [askAll, foldl_askHealth]
  simp

/-- What the source of a name said is found under its name. -/
theorem lookup_health (roster : Roster) (registry : Registry) (name : String) :
    (askAll roster registry).health.lookup name =
      (roster.find? name).map fun source => offlineReason? source.online := by
  rw [askAll_eq, Roster.find?]
  induction roster.entries with
  | nil => rfl
  | cons entry entries inductionHypothesis =>
      rw [List.map_cons, List.lookup_cons, List.lookup_cons, inductionHypothesis]
      cases name == entry.1 <;> rfl

/-- A roster finds exactly its entries. -/
theorem Roster.find?_eq_some_iff {roster : Roster} {name : String} {source : Source} :
    roster.find? name = some source ↔ (name, source) ∈ roster.entries :=
  lookup_eq_some_iff_mem (List.pairwise_map.2 roster.distinct)

/-! ## Plans -/

/-- A source is up if it answers a health check with yes. -/
def Source.isUp (source : Source) : Bool :=
  match source.online with
  | .ok online => online
  | .error _ => false

/-- A source is up exactly if its health check succeeds with yes. -/
@[simp] theorem Source.isUp_iff {source : Source} :
    source.isUp = true ↔ source.online = .ok true := by
  unfold Source.isUp
  cases source.online <;> simp

/-- A source that is up has no reason to count as offline, and every other one has. -/
theorem offlineReason?_eq_none_iff {source : Source} :
    offlineReason? source.online = none ↔ source.isUp = true := by
  rw [Source.isUp_iff]
  rcases source.online with failure | (_ | _) <;> simp [offlineReason?]

/-- The source that is asked for the query of a check, if there is one. -/
def Check.source? (roster : Roster) (check : Check) : Option Source :=
  (roster.find? check.provider).filter Source.isUp

/-- A query is to be run exactly if its check has a source that is up. -/
theorem plan_eq_pending_iff {roster : Roster} {registry : Registry} {check : Check}
    {source : Source} :
    check.plan roster (askAll roster registry).health = .pending source ↔
      check.source? roster = some source := by
  rw [Check.plan, lookup_health, Check.source?, Option.filter_eq_some_iff]
  cases roster.find? check.provider with
  | none => simp
  | some found =>
      have up := @offlineReason?_eq_none_iff found
      cases reason : offlineReason? found.online with
      | none =>
          have online := up.1 reason
          simp only [Option.map_some, reason, Plan.pending.injEq, Option.some.injEq]
          refine ⟨fun same => ⟨same, same ▸ online⟩, fun same => same.1⟩
      | some text =>
          have offline : found.isUp ≠ true := fun online => by simp [up.2 online] at reason
          simp only [Option.map_some, reason, reduceCtorEq, Option.some.injEq, false_iff]
          rintro ⟨rfl, online⟩
          exact offline online

/-! ## Tasks -/

/-- The tasks are those of the checks with a source that is up, each with the place of its check. -/
theorem tasksFrom_eq (roster : Roster) (registry : Registry) (index : Nat) (checks : List Check) :
    tasksFrom roster (askAll roster registry).health index checks =
      (checks.zipIdx index).filterMap fun entry =>
        (entry.1.source? roster).map fun source => ⟨entry.2, entry.1, source⟩ := by
  induction checks generalizing index with
  | nil => rfl
  | cons check checks inductionHypothesis =>
      rw [tasksFrom, List.zipIdx_cons]
      cases asked : check.source? roster with
      | some source =>
          rw [plan_eq_pending_iff.2 asked, List.filterMap_cons_some (b := ⟨index, check, source⟩)]
          · rw [inductionHypothesis]
          · simp [asked]
      | none =>
          rw [List.filterMap_cons_none (by simp [asked]), ← inductionHypothesis]
          cases planned : check.plan roster (askAll roster registry).health with
          | settled outcome => rfl
          | pending source =>
              rw [plan_eq_pending_iff.1 planned] at asked
              contradiction

/-- A task is the query of the check at its place, for the source that is asked for it. -/
theorem mem_tasksFrom_iff {roster : Roster} {registry : Registry} {checks : List Check}
    {task : Task} :
    task ∈ tasksFrom roster (askAll roster registry).health 0 checks ↔
      checks[task.index]? = some task.check ∧ task.check.source? roster = some task.source := by
  rw [tasksFrom_eq, List.mem_filterMap]
  constructor
  · rintro ⟨⟨check, index⟩, member, made⟩
    obtain ⟨source, asked, rfl⟩ := Option.map_eq_some_iff.1 made
    exact ⟨List.mem_zipIdx_iff_getElem?.1 member, asked⟩
  · rintro ⟨place, asked⟩
    exact ⟨(task.check, task.index), List.mem_zipIdx_iff_getElem?.2 place, by simp [asked]⟩

/-- No two tasks have one place. -/
theorem tasksFrom_distinct (roster : Roster) (registry : Registry) (checks : List Check) :
    (tasksFrom roster (askAll roster registry).health 0 checks).Pairwise
      fun first second => first.index ≠ second.index := by
  have places : (checks.zipIdx.map Prod.snd).Nodup := by
    rw [List.zipIdx_map_snd]
    exact List.nodup_range'
  rw [tasksFrom_eq]
  refine (List.pairwise_map.1 places).filterMap _ ?_
  intro first second different firstTask firstMade secondTask secondMade
  obtain ⟨_, _, rfl⟩ := Option.map_eq_some_iff.1 firstMade
  obtain ⟨_, _, rfl⟩ := Option.map_eq_some_iff.1 secondMade
  exact different

/-- What is made of each task, without regard to its place, is made of the checks with a source that
is up. -/
theorem map_tasksFrom {α : Type} (roster : Roster) (registry : Registry) (checks : List Check)
    (make : Check → Source → α) :
    (tasksFrom roster (askAll roster registry).health 0 checks).map
        (fun task => make task.check task.source) =
      checks.filterMap fun check => (check.source? roster).map (make check) := by
  rw [tasksFrom_eq, List.map_filterMap]
  conv_rhs => rw [← List.zipIdx_map_fst 0 checks, List.filterMap_map]
  congr 1
  funext entry
  simp only [Option.map_map, Function.comp_def]

/-! ## Moments -/

/-- The schedule that treats the tasks as if they had been started the other way round. -/
def Schedule.reversed (schedule : Schedule) : Schedule where
  order := fun tasks => schedule.order tasks.reverse
  complete := fun moment tasks => (schedule.complete moment tasks.reverse).trans tasks.reverse_perm

/-- The call that a task makes. -/
def Task.call (task : Task) : Call := .query task.check.provider task.check.query

/-- Counts the answers to tasks one after the other. -/
def countAnswers (tasks : List Task) (registry : Registry) : Registry :=
  tasks.foldl (fun registry task => task.source.countQuery task.check.query registry) registry

/-- Writes the outcome of a task into the place of its check. -/
def writeOutcome (outcomes : List (Option CheckOutcome)) (task : Task) :
    List (Option CheckOutcome) :=
  match task.outcome? with
  | some outcome => outcomes.set task.index (some outcome)
  | none => outcomes

/-- Steps make the calls of the tasks that are called, count those that are answered and write the
outcomes of those that are joined. -/
theorem foldl_step (steps : List Step) (progress : Progress) :
    steps.foldl Progress.step progress =
      { progress with
        outcomes := (tasksAt .joined steps).foldl writeOutcome progress.outcomes
        calls := progress.calls ++ (tasksAt .called steps).map Task.call
        registry := countAnswers (tasksAt .answered steps) progress.registry } := by
  induction steps generalizing progress with
  | nil => simp [tasksAt, countAnswers]
  | cons step steps inductionHypothesis =>
      obtain ⟨moment, task⟩ := step
      rw [List.foldl_cons, inductionHypothesis]
      cases moment with
      | called => simp [Progress.step, tasksAt, Task.call]
      | answered => simp [Progress.step, tasksAt, countAnswers]
      | joined =>
          cases known : task.outcome? <;> simp [Progress.step, tasksAt, writeOutcome, known]

/-- The tasks of a pass, in the order in which they are started. -/
def tasksOf (roster : Roster) (checks : List Check) (registry : Registry) : List Task :=
  tasksFrom roster (askAll roster registry).health 0 checks

/-- What a pass leaves behind, by the orders in which its tasks come to each of the moments. -/
theorem run_eq (roster : Roster) (checks : List Check) (schedule : Schedule)
    (registry : Registry) :
    run roster checks schedule registry =
      let steps := schedule.order (tasksOf roster checks registry)
      { reports := reportsOf checks <| (tasksAt .joined steps).foldl writeOutcome <|
          checks.map fun check => (check.plan roster (askAll roster registry).health).outcome?
        calls := (roster.entries.map fun entry => .online entry.1) ++
          (tasksAt .called steps).map Task.call
        registry := countAnswers (tasksAt .answered steps)
          (countHealths roster.entries registry) } := by
  simp only [run, foldl_step, tasksOf]
  rw [askAll_eq]

end MetricProbe.Probe
