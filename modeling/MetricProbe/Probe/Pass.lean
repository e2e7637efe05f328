import MetricProbe.Probe.Source

/-!
# A pass over all checks

A pass first asks every source for its health, once, and then runs the query of every check whose
source is online. The queries are independent tasks; a `Schedule` says how their steps interleave.
A task writes its outcome into the place of its own check, so the order of the reports is the order
of the checks, whatever the schedule is. A check without a source, or whose source is offline, has
its outcome at once; a check whose task was aborted is reported as failed.
-/

namespace MetricProbe.Probe

open Telemetry (Registry)

/-- A call that reaches a source. -/
inductive Call where
  | online (provider : String)
  | query (provider query : String)
  deriving DecidableEq, Repr

/-- What sources said about their health, by name: nothing, or why a source is offline. -/
abbrev Health := List (String × Option String)

/-- The query of one check, which is to be run. -/
structure Task where
  /-- The place of the check. -/
  index : Nat
  check : Check
  source : Source

/-- The outcome of a task; there is none if it was aborted. -/
def Task.outcome? (task : Task) : Option CheckOutcome :=
  (task.source.answer task.check.query).map .ofResult

/-- The moments of a task that others can notice. -/
inductive Moment where
  /-- The query reaches the source. -/
  | called
  /-- The source has answered, or the query was aborted. -/
  | answered
  /-- The pass takes up what became of the task. -/
  | joined
  deriving DecidableEq, Repr

/-- A moment of one of several tasks. -/
structure Step where
  moment : Moment
  task : Task

/-- The tasks in the order in which they come to a moment. -/
def tasksAt (moment : Moment) (steps : List Step) : List Task :=
  (steps.filter (·.moment = moment)).map (·.task)

/-- An order of the steps of tasks, given the order in which the tasks were started. -/
structure Schedule where
  order : List Task → List Step
  /-- Every task comes once to each of its moments. -/
  complete : ∀ moment tasks, (tasksAt moment (order tasks)).Perm tasks

/-- One task after the other. -/
def Schedule.sequential : Schedule where
  order := fun tasks => tasks.flatMap fun task =>
    [⟨.called, task⟩, ⟨.answered, task⟩, ⟨.joined, task⟩]
  complete := by
    intro moment tasks
    induction tasks with
    | nil => exact .nil
    | cons task tasks inductionHypothesis =>
        have first : tasksAt moment [⟨.called, task⟩, ⟨.answered, task⟩, ⟨.joined, task⟩] =
            [task] := by
          cases moment <;> rfl
        rw [tasksAt] at first ⊢
        rw [List.flatMap_cons, List.filter_append, List.map_append, first]
        exact inductionHypothesis.cons task

/-- What is settled about a check before any query is run. -/
inductive Plan where
  /-- The outcome is known. -/
  | settled (outcome : CheckOutcome)
  /-- The query is to be run. -/
  | pending (source : Source)

/-- What is settled about a check when the sources have said how they are. -/
def Check.plan (roster : Roster) (health : Health) (check : Check) : Plan :=
  match roster.find? check.provider with
  | none => .settled (.unknownProvider check.provider)
  | some source =>
    match health.lookup check.provider with
    | some (some reason) => .settled (.offline reason)
    | _ => .pending source

/-- The outcome that is known before any query is run. -/
def Plan.outcome? : Plan → Option CheckOutcome
  | .settled outcome => some outcome
  | .pending _ => none

/-- The tasks of the checks, the first of which has the given place. -/
def tasksFrom (roster : Roster) (health : Health) : Nat → List Check → List Task
  | _, [] => []
  | index, check :: more =>
    match check.plan roster health with
    | .settled _ => tasksFrom roster health (index + 1) more
    | .pending source => ⟨index, check, source⟩ :: tasksFrom roster health (index + 1) more

/-- What is known during a pass. -/
structure Progress where
  health : Health
  /-- The outcome of each check, as far as there is one. -/
  outcomes : List (Option CheckOutcome)
  /-- The calls that were made. -/
  calls : List Call
  /-- The counters. -/
  registry : Registry

/-- Asks one source for its health. -/
def Progress.askHealth (progress : Progress) (entry : String × Source) : Progress :=
  let (online, registry) := entry.2.callOnline progress.registry
  { progress with
    health := progress.health ++ [(entry.1, offlineReason? online)]
    calls := progress.calls ++ [.online entry.1]
    registry := registry }

/-- Asks every source for its health. -/
def askAll (roster : Roster) (registry : Registry) : Progress :=
  roster.entries.foldl Progress.askHealth ⟨[], [], [], registry⟩

/-- Makes a step of a task. An answer is counted when it is given, and its outcome is written into
the place of its check when the task is joined. -/
def Progress.step (progress : Progress) : Step → Progress
  | ⟨.called, task⟩ =>
    { progress with
      calls := progress.calls ++ [.query task.check.provider task.check.query] }
  | ⟨.answered, task⟩ =>
    { progress with registry := task.source.countQuery task.check.query progress.registry }
  | ⟨.joined, task⟩ =>
    match task.outcome? with
    | some outcome =>
      { progress with outcomes := progress.outcomes.set task.index (some outcome) }
    | none => progress

/-- What a pass leaves behind. -/
structure Pass where
  reports : List Report
  calls : List Call
  registry : Registry

/-- The reports of checks, given their outcomes. -/
def reportsOf (checks : List Check) (outcomes : List (Option CheckOutcome)) : List Report :=
  List.zipWith (fun check outcome => check.report (outcome.getD .aborted)) checks outcomes

/-- One pass. -/
def run (roster : Roster) (checks : List Check) (schedule : Schedule) (registry : Registry) :
    Pass :=
  let asked := askAll roster registry
  let planned : Progress :=
    { asked with outcomes := checks.map fun check => (check.plan roster asked.health).outcome? }
  let done := (schedule.order (tasksFrom roster asked.health 0 checks)).foldl Progress.step planned
  ⟨reportsOf checks done.outcomes, done.calls, done.registry⟩

/-- What sources said about their health, in the order of their names. -/
def Health.sorted (health : Health) : Health := health.mergeSort fun left right => left.1 ≤ right.1

/-- How many checks have no value. -/
def failedCount (reports : List Report) : Nat :=
  reports.countP fun report => !report.outcome.isValue

end MetricProbe.Probe
