import Mathlib.Algebra.Ring.Nat
import Mathlib.Data.List.Count
import MetricProbe.Proofs.Probe.Reports
import MetricProbe.Session.Passes

/-!
# Counters agree with reports

What the counters gain over a pass and what its reports say are two accounts of the same answers,
and they agree for each backend. Queries are counted by sources, reports are made by check: several
sources may have one backend, an aborted query is reported but not counted, and a check without a
source that is up has a report and no query at all.

A report on an unknown provider is on no backend, so no account of a backend has it.
-/

namespace MetricProbe

namespace Telemetry

namespace Tally

variable {κ : Type} [DecidableEq κ]

/-- How often one of several keys was counted. -/
def among (tally : Tally κ) (keys : List κ) : Nat := (keys.map tally.count).sum

/-- A single key was counted as often as it was counted. -/
@[simp] theorem among_singleton (tally : Tally κ) (key : κ) :
    tally.among [key] = tally.count key := by
  simp [among]

/-- Counting a key that is one of several different ones counts one of these once more. -/
theorem among_add (tally : Tally κ) (key : κ) {keys : List κ} (distinct : keys.Nodup) :
    (tally.add key).among keys = tally.among keys + if key ∈ keys then 1 else 0 := by
  unfold among
  induction keys with
  | nil => simp
  | cons first keys inductionHypothesis =>
      obtain ⟨absent, distinct⟩ := List.nodup_cons.1 distinct
      simp only [List.map_cons, List.sum_cons, count_add, inductionHypothesis distinct,
        List.mem_cons]
      by_cases same : key = first
      · subst same
        simp only [absent, if_true, true_or, if_false]
        omega
      · simp only [same, if_false, false_or]
        omega

end Tally

end Telemetry

namespace Probe

open Telemetry (Registry QueryOutcome HealthOutcome)

/-! ## What sources count -/

/-- All sources of a roster count their answers. -/
def Roster.Instrumented (roster : Roster) : Prop :=
  ∀ entry ∈ roster.entries, entry.2.instrumented = true

/-- No source leaves its answers uncounted if there is none. -/
theorem Roster.instrumented_empty : Roster.empty.Instrumented := by
  intro entry member
  cases member

/-- A source that counts its answers may be added. -/
theorem Roster.Instrumented.insert {roster : Roster} (instrumented : roster.Instrumented)
    (name : String) {source : Source} (counted : source.instrumented = true) :
    (roster.insert name source).Instrumented := by
  intro entry member
  rcases List.mem_append.1 member with kept | added
  · exact instrumented entry (List.mem_filter.1 kept).1
  · rw [List.mem_singleton.1 added]
    exact counted

/-- What the answer to a task is counted as; an aborted task is not counted. -/
def Task.key? (task : Task) : Option (QueryOutcome × Backend) :=
  (task.source.answer task.check.query).map fun result =>
    (QueryOutcome.of result, task.source.backend)

/-- Queries leave the counters of health checks alone. -/
theorem countAnswers_healthChecks (tasks : List Task) (registry : Registry) :
    (countAnswers tasks registry).healthChecks = registry.healthChecks := by
  unfold countAnswers
  induction tasks generalizing registry with
  | nil => rfl
  | cons task tasks inductionHypothesis =>
      rw [List.foldl_cons, inductionHypothesis]
      unfold Source.countQuery
      split
      · rfl
      · split <;> rfl

/-- Each health check is counted once, under its answer and its backend. -/
theorem countHealths_among {entries : List (String × Source)}
    (instrumented : ∀ entry ∈ entries, entry.2.instrumented = true) (registry : Registry)
    {keys : List (HealthOutcome × Backend)} (distinct : keys.Nodup) :
    (countHealths entries registry).healthChecks.among keys =
      registry.healthChecks.among keys +
        entries.countP fun entry => (HealthOutcome.of entry.2.online, entry.2.backend) ∈ keys := by
  unfold countHealths
  induction entries generalizing registry with
  | nil => rfl
  | cons entry entries inductionHypothesis =>
      rw [List.foldl_cons,
        inductionHypothesis fun other member => instrumented other (List.mem_cons_of_mem _ member)]
      have counted := instrumented entry List.mem_cons_self
      rw [Source.countOnline, if_pos counted, Registry.countHealth,
        Telemetry.Tally.among_add _ _ distinct, List.countP_cons]
      by_cases member : (HealthOutcome.of entry.2.online, entry.2.backend) ∈ keys
      · simp only [member, if_true, decide_true]
        omega
      · simp only [member, if_false, decide_false, Bool.false_eq_true]
        omega

/-- A measure of the counters that counts the answers of some kind, once each, and no health
checks. -/
structure Counts (measure : Registry → Nat) (kind : QueryOutcome × Backend → Bool) : Prop where
  answer : ∀ registry backend elapsed result,
    measure (registry.countQuery backend elapsed result) =
      measure registry + if kind (QueryOutcome.of result, backend) then 1 else 0
  health : ∀ registry backend result,
    measure (registry.countHealth backend result) = measure registry

/-- The counters of different keys together count the answers under these keys. -/
theorem counts_among {keys : List (QueryOutcome × Backend)} (distinct : keys.Nodup) :
    Counts (fun registry => registry.queries.among keys) (· ∈ keys) where
  answer registry backend elapsed result := by
    rw [Registry.countQuery, Telemetry.Tally.among_add _ _ distinct]
    by_cases member : (QueryOutcome.of result, backend) ∈ keys <;> simp [member]
  health _ _ _ := rfl

/-- The samples of a backend count its answers. -/
theorem counts_samples (backend : Backend) :
    Counts (fun registry => registry.sampleCount backend) (·.2 = backend) where
  answer registry other elapsed result := by
    simp only [Registry.countQuery, Registry.sampleCount, Registry.durationsOf, List.length_map,
      List.filter_cons, decide_eq_true_eq]
    split <;> rfl
  health _ _ _ := rfl

section

variable {measure : Registry → Nat} {kind : QueryOutcome × Backend → Bool}

/-- Health checks leave a measure of answers alone. -/
theorem Counts.countHealths (counts : Counts measure kind) (entries : List (String × Source))
    (registry : Registry) : measure (countHealths entries registry) = measure registry := by
  unfold Probe.countHealths
  induction entries generalizing registry with
  | nil => rfl
  | cons entry entries inductionHypothesis =>
      rw [List.foldl_cons, inductionHypothesis, Source.countOnline]
      split
      · exact counts.health ..
      · rfl

/-- A measure of answers grows by the number of tasks that have such an answer. -/
theorem Counts.countAnswers (counts : Counts measure kind) {tasks : List Task}
    (instrumented : ∀ task ∈ tasks, task.source.instrumented = true) (registry : Registry) :
    measure (countAnswers tasks registry) =
      measure registry + tasks.countP fun task => task.key?.any kind := by
  unfold Probe.countAnswers
  induction tasks generalizing registry with
  | nil => rfl
  | cons task tasks inductionHypothesis =>
      rw [List.foldl_cons,
        inductionHypothesis fun other member => instrumented other (List.mem_cons_of_mem _ member),
        List.countP_cons]
      have counted := instrumented task List.mem_cons_self
      unfold Source.countQuery Task.key?
      cases task.source.answer task.check.query with
      | none => simp
      | some result =>
          simp only [counted, if_true, Option.map_some, Option.any_some, counts.answer]
          omega

end

/-! ## What reports say -/

/-- The outcome says that the backend had no datapoint. -/
def CheckOutcome.isNoData : CheckOutcome → Bool
  | .noData _ => true
  | _ => false

/-- The outcome says that the provider was offline. -/
def CheckOutcome.isOffline : CheckOutcome → Bool
  | .offline _ => true
  | _ => false

/-- The outcome says that a query failed for another reason than being aborted. -/
def CheckOutcome.isRefused : CheckOutcome → Bool
  | .failed reason => reason ≠ "check task aborted"
  | _ => false

/-- The outcome says that a query was answered. -/
def CheckOutcome.isAnswered (outcome : CheckOutcome) : Bool :=
  outcome.isValue || outcome.isNoData || outcome.isRefused

/-- The reports on providers of a backend. -/
def reportsOn (roster : Roster) (backend : Backend) (reports : List Report) : List Report :=
  reports.filter fun report => (roster.find? report.provider).any (·.backend = backend)

/-- Every failure is worded with a letter that the wording of an abortion does not have. -/
theorem letter_mem_message (failure : Failure) : 'n' ∈ failure.message.toList := by
  have left {first rest : String} (member : 'n' ∈ first.toList) : 'n' ∈ (first ++ rest).toList := by
    rw [String.toList_append]
    exact List.mem_append_left _ member
  have right {first rest : String} (member : 'n' ∈ rest.toList) : 'n' ∈ (first ++ rest).toList := by
    rw [String.toList_append]
    exact List.mem_append_right _ member
  cases failure with
  | missingCredential => exact left (right (by decide))
  | invalidInterval | invalidAddress | errorResponse | unexpectedStatus =>
      exact left (left (left (by decide)))
  | decode => exact left (left (left (left (by decide))))
  | invalidQuery | clientBuild | transport | noValues | unexpected => exact left (by decide)

/-- No failure is worded like an abortion. -/
theorem message_ne_aborted (failure : Failure) : failure.message ≠ "check task aborted" := by
  intro same
  have letter := letter_mem_message failure
  rw [same] at letter
  exact absurd letter (by decide)

/-- The outcomes of answered queries are those that say so. -/
theorem isAnswered_ofResult (result : Outcome Binary64) :
    (CheckOutcome.ofResult result).isAnswered = true := by
  rcases result with failure | value
  · have reason := message_ne_aborted failure
    cases noData : failure.isNoData <;>
      simp [CheckOutcome.ofResult, noData, CheckOutcome.isAnswered, CheckOutcome.isNoData,
        CheckOutcome.isRefused, reason]
  · rfl

/-- The reports on answered queries are those with a value, those without data and those of
failures. -/
theorem countP_isAnswered (reports : List Report) :
    reports.countP (·.outcome.isAnswered) =
      reports.countP (·.outcome.isValue) + reports.countP (·.outcome.isNoData) +
        reports.countP (·.outcome.isRefused) := by
  induction reports with
  | nil => rfl
  | cons report reports inductionHypothesis =>
      simp only [List.countP_cons, inductionHypothesis]
      cases outcome : report.outcome <;>
        simp [CheckOutcome.isAnswered, CheckOutcome.isValue, CheckOutcome.isNoData,
          CheckOutcome.isRefused] <;> omega

/-- The outcomes of a kind of answers of one backend are told by what they say. -/
structure Tells (reported : CheckOutcome → Bool) (kind : QueryOutcome × Backend → Bool)
    (backend : Backend) : Prop where
  answered : ∀ result other,
    kind (QueryOutcome.of result, other) = (decide (other = backend) && reported (.ofResult result))
  aborted : reported (.failed "check task aborted") = false
  offline : ∀ reason, reported (.offline reason) = false

/-- A value tells a query that succeeded. -/
theorem tells_isValue (backend : Backend) :
    Tells CheckOutcome.isValue (· ∈ [(.ok, backend)]) backend where
  answered result other := by
    rcases result with failure | value
    · cases noData : failure.isNoData <;>
        simp [QueryOutcome.of, CheckOutcome.ofResult, noData, CheckOutcome.isValue]
    · simp [QueryOutcome.of, CheckOutcome.ofResult, CheckOutcome.isValue]
  aborted := rfl
  offline _ := rfl

/-- A report without data tells a query that found none. -/
theorem tells_isNoData (backend : Backend) :
    Tells CheckOutcome.isNoData (· ∈ [(.failed .noData, backend)]) backend where
  answered result other := by
    rcases result with failure | value
    · by_cases noData : failure.kind = .noData <;>
        simp [QueryOutcome.of, CheckOutcome.ofResult, Failure.isNoData, noData,
          CheckOutcome.isNoData]
    · simp [QueryOutcome.of, CheckOutcome.ofResult, CheckOutcome.isNoData]
  aborted := rfl
  offline _ := rfl

/-- The keys of the queries of a backend that failed other than for want of data. -/
def refusals (backend : Backend) : List (QueryOutcome × Backend) :=
  [(.failed .config, backend), (.failed .transport, backend), (.failed .backend, backend)]

/-- A failure other than an abortion tells a query that failed other than for want of data. -/
theorem tells_isRefused (backend : Backend) :
    Tells CheckOutcome.isRefused (· ∈ refusals backend) backend where
  answered result other := by
    rcases result with failure | value
    · have reason := message_ne_aborted failure
      cases kind : failure.kind <;>
        simp [refusals, QueryOutcome.of, CheckOutcome.ofResult, Failure.isNoData, kind,
          CheckOutcome.isRefused, reason]
    · simp [refusals, QueryOutcome.of, CheckOutcome.ofResult, CheckOutcome.isRefused]
  aborted := by simp [CheckOutcome.isRefused]
  offline _ := rfl

/-- Each of the three tells a query that was answered. -/
theorem tells_isAnswered (backend : Backend) :
    Tells CheckOutcome.isAnswered (·.2 = backend) backend where
  answered result other := by simp [isAnswered_ofResult]
  aborted := by
    simp [CheckOutcome.isAnswered, CheckOutcome.isValue, CheckOutcome.isNoData,
      CheckOutcome.isRefused]
  offline _ := rfl

/-! ## Both accounts -/

/-- What holds of tasks holds of as many checks whose source is up. -/
theorem countP_tasksOf (roster : Roster) (checks : List Check) (registry : Registry)
    (holds : Check → Source → Bool) :
    ((tasksOf roster checks registry).countP fun task => holds task.check task.source) =
      checks.countP fun check => (check.source? roster).any (holds check) := by
  have made := congrArg (List.countP id) (map_tasksFrom roster registry checks holds)
  rw [List.countP_map, List.countP_filterMap] at made
  refine made.trans (List.countP_congr fun check _ => ?_)
  cases check.source? roster <;> simp

section

variable {measure : Registry → Nat} {kind : QueryOutcome × Backend → Bool}
  {reported : CheckOutcome → Bool} {backend : Backend}

/-- A check whose source is up and gives a kind of answers is reported on its backend with an
outcome that tells them, and no other check is. -/
theorem any_source?_eq (tells : Tells reported kind backend) (roster : Roster) (check : Check) :
    ((check.source? roster).any fun source => (source.answer check.query).any fun result =>
      kind (QueryOutcome.of result, source.backend)) =
        (reported (check.outcome (roster.find? check.provider)) &&
          (roster.find? check.provider).any (·.backend = backend)) := by
  rw [Check.source?]
  cases roster.find? check.provider with
  | none => simp
  | some source =>
      cases up : source.isUp with
      | true =>
          rw [outcome_of_up check up, Option.filter_some, if_pos up, Option.any_some]
          cases source.answer check.query with
          | none =>
              have aborted : reported .aborted = false := tells.aborted
              simp [aborted]
          | some result => simp [tells.answered, Bool.and_comm]
      | false =>
          have silent : reported (check.outcome (some source)) = false := by
            rcases online : source.online with failure | (_ | _)
            · simp only [Check.outcome, online, tells.offline]
            · simp only [Check.outcome, online, tells.offline]
            · simp [Source.isUp, online] at up
          simp [Option.filter_some, up, silent]

/-- Over a pass, a measure of the answers of a kind grows by the number of reports on the backend
that tell them. -/
theorem Counts.run (counts : Counts measure kind) (tells : Tells reported kind backend)
    {roster : Roster} (instrumented : roster.Instrumented) (checks : List Check)
    (schedule : Schedule) (registry : Registry) :
    let pass := run roster checks schedule registry
    measure pass.registry =
      measure registry + (reportsOn roster backend pass.reports).countP (reported ·.outcome) := by
  intro pass
  have answered := schedule.complete .answered (tasksOf roster checks registry)
  have counted : ∀ task ∈ tasksAt .answered (schedule.order (tasksOf roster checks registry)),
      task.source.instrumented = true := by
    intro task member
    obtain ⟨_, asked⟩ := mem_tasksFrom_iff.1 (answered.mem_iff.1 member)
    obtain ⟨found, _⟩ := Option.filter_eq_some_iff.1 asked
    exact instrumented _ (Roster.find?_eq_some_iff.1 found)
  have gained : measure pass.registry = measure registry +
      (tasksOf roster checks registry).countP fun task => task.key?.any kind := by
    rw [← answered.countP_eq, ← counts.countHealths roster.entries registry,
      ← counts.countAnswers counted]
    exact congrArg measure (congrArg Pass.registry (run_eq roster checks schedule registry))
  have tasks := countP_tasksOf roster checks registry fun check source =>
    (source.answer check.query).any fun result => kind (QueryOutcome.of result, source.backend)
  have keys : (fun task : Task => task.key?.any kind) = fun task =>
      (task.source.answer task.check.query).any fun result =>
        kind (QueryOutcome.of result, task.source.backend) := by
    funext task
    rw [Task.key?, Option.any_map]
  have reports : pass.reports = checks.map (Check.reportAlone roster) :=
    run_reports roster checks schedule registry
  rw [gained, keys, tasks, reports, reportsOn, List.countP_filter, List.countP_map]
  simp only [any_source?_eq tells]
  rfl

end

/-- The health checks of a pass are counted once for each source. -/
theorem run_healthChecks {roster : Roster} (instrumented : roster.Instrumented)
    (checks : List Check) (schedule : Schedule) (registry : Registry)
    {keys : List (HealthOutcome × Backend)} (distinct : keys.Nodup) :
    (run roster checks schedule registry).registry.healthChecks.among keys =
      registry.healthChecks.among keys + roster.entries.countP fun entry =>
        (HealthOutcome.of entry.2.online, entry.2.backend) ∈ keys := by
  rw [run_eq]
  simp only [countAnswers_healthChecks]
  exact countHealths_among instrumented registry distinct

/-- A provider that has a check is up exactly if none of its checks is reported as offline. -/
theorem up_iff_reports {roster : Roster} {checks : List Check} {name : String} {source : Source}
    (entry : (name, source) ∈ roster.entries) (used : ∃ check ∈ checks, check.provider = name) :
    source.online = .ok true ↔ ∀ report ∈ checks.map (Check.reportAlone roster),
      report.provider = name → report.outcome.isOffline = false := by
  have found : roster.find? name = some source := Roster.find?_eq_some_iff.2 entry
  constructor
  · intro up report member same
    obtain ⟨check, _, rfl⟩ := List.mem_map.1 member
    have provider : check.provider = name := same
    simp only [Check.reportAlone, provider, found, outcome_of_up check (Source.isUp_iff.2 up)]
    rcases source.answer check.query with _ | failure | value
    · rfl
    · cases noData : failure.isNoData <;>
        simp [CheckOutcome.ofResult, noData, CheckOutcome.isOffline]
    · rfl
  · intro reported
    obtain ⟨check, member, provider⟩ := used
    have online := reported _ (List.mem_map_of_mem member) provider
    simp only [Check.reportAlone, provider, found, Check.outcome] at online
    rcases answer : source.online with failure | (_ | _)
    · simp [answer, CheckOutcome.isOffline] at online
    · simp [answer, CheckOutcome.isOffline] at online
    · rfl

/-- The counters before and after a pass agree with its reports, as far as a backend goes. -/
structure Reconciles (roster : Roster) (checks : List Check) (backend : Backend)
    (before : Registry) (pass : Pass) : Prop where
  /-- Queries that gave a value are counted as often as values are reported. -/
  values : pass.registry.queries.count (.ok, backend) =
    before.queries.count (.ok, backend) +
      (reportsOn roster backend pass.reports).countP (·.outcome.isValue)
  /-- Queries without a datapoint are counted as often as they are reported. -/
  noData : pass.registry.queries.count (.failed .noData, backend) =
    before.queries.count (.failed .noData, backend) +
      (reportsOn roster backend pass.reports).countP (·.outcome.isNoData)
  /-- All other failures together are counted as often as failures are reported that are no
  abortions. -/
  refusals : pass.registry.queries.among
      [(.failed .config, backend), (.failed .transport, backend), (.failed .backend, backend)] =
    before.queries.among
      [(.failed .config, backend), (.failed .transport, backend), (.failed .backend, backend)] +
      (reportsOn roster backend pass.reports).countP (·.outcome.isRefused)
  /-- Each of these was timed. -/
  samples : pass.registry.sampleCount backend = before.sampleCount backend +
    ((reportsOn roster backend pass.reports).countP (·.outcome.isValue) +
      (reportsOn roster backend pass.reports).countP (·.outcome.isNoData) +
      (reportsOn roster backend pass.reports).countP (·.outcome.isRefused))
  /-- Every provider has one health check, whatever it says. -/
  healthChecks : pass.registry.healthChecks.among
      [(.online, backend), (.offline, backend), (.error, backend)] =
    before.healthChecks.among [(.online, backend), (.offline, backend), (.error, backend)] +
      roster.entries.countP (·.2.backend = backend)
  /-- As many as are up are counted as online. -/
  online : pass.registry.healthChecks.count (.online, backend) =
    before.healthChecks.count (.online, backend) +
      roster.entries.countP fun entry => entry.2.backend = backend ∧ entry.2.online = .ok true
  /-- A provider that has a check is up exactly if none of its checks is reported as offline. -/
  upIff : ∀ entry ∈ roster.entries, (∃ check ∈ checks, check.provider = entry.1) →
    (entry.2.online = .ok true ↔ ∀ report ∈ pass.reports, report.provider = entry.1 →
      report.outcome.isOffline = false)

/-- Over a pass of sources that count their answers, the counters agree with the reports. -/
theorem run_reconciles {roster : Roster} (instrumented : roster.Instrumented) (checks : List Check)
    (schedule : Schedule) (registry : Registry) (backend : Backend) :
    Reconciles roster checks backend registry (run roster checks schedule registry) where
  values := by
    have keys : [(QueryOutcome.ok, backend)].Nodup := by simp
    have counted := (counts_among keys).run (tells_isValue backend) instrumented checks schedule
      registry
    simpa only [Telemetry.Tally.among_singleton] using counted
  noData := by
    have keys : [(QueryOutcome.failed .noData, backend)].Nodup := by simp
    have counted := (counts_among keys).run (tells_isNoData backend) instrumented checks schedule
      registry
    simpa only [Telemetry.Tally.among_singleton] using counted
  refusals := by
    have keys : (refusals backend).Nodup := by simp [refusals]
    exact (counts_among keys).run (tells_isRefused backend) instrumented checks schedule registry
  samples := by
    have counted := (counts_samples backend).run (tells_isAnswered backend) instrumented checks
      schedule registry
    rw [← countP_isAnswered]
    exact counted
  healthChecks := by
    have keys :
        [(HealthOutcome.online, backend), (.offline, backend), (.error, backend)].Nodup := by
      simp
    rw [run_healthChecks instrumented checks schedule registry keys]
    congr 1
    refine List.countP_congr fun entry _ => ?_
    cases HealthOutcome.of entry.2.online <;> simp
  online := by
    have keys : [(HealthOutcome.online, backend)].Nodup := by simp
    have counted := run_healthChecks instrumented checks schedule registry keys
    rw [Telemetry.Tally.among_singleton, Telemetry.Tally.among_singleton] at counted
    rw [counted]
    congr 1
    refine List.countP_congr fun entry _ => ?_
    rcases entry.2.online with failure | (_ | _) <;> simp [HealthOutcome.of]
  upIff := by
    intro entry member used
    rw [run_reports]
    exact up_iff_reports member used

/-! ## Passes one after the other -/

section

variable (rosters : Nat → Roster) (checks : Nat → List Check) (schedules : Nat → Schedule)
  (registry : Registry)

/-- The counters before a pass, if each pass goes on with those of the pass before it. -/
def registryBefore : Nat → Registry
  | 0 => registry
  | pass + 1 =>
    (run (rosters pass) (checks pass) (schedules pass) (registryBefore pass)).registry

/-- One of several passes over the same counters. -/
def passAt (pass : Nat) : Pass :=
  run (rosters pass) (checks pass) (schedules pass)
    (registryBefore rosters checks schedules registry pass)

/-- Over any number of passes, a measure of the answers of a kind grows by the number of all their
reports on the backend that tell them. -/
theorem Counts.passes {measure : Registry → Nat} {kind : QueryOutcome × Backend → Bool}
    (counts : Counts measure kind) {reported : CheckOutcome → Bool} {backend : Backend}
    (tells : Tells reported kind backend) (instrumented : ∀ pass, (rosters pass).Instrumented)
    (passes : Nat) :
    measure (registryBefore rosters checks schedules registry passes) =
      measure registry + ((List.range passes).map fun pass =>
        (reportsOn (rosters pass) backend
          (passAt rosters checks schedules registry pass).reports).countP
            (reported ·.outcome)).sum := by
  induction passes with
  | zero => rfl
  | succ pass inductionHypothesis =>
      have gained := counts.run tells (instrumented pass) (checks pass) (schedules pass)
        (registryBefore rosters checks schedules registry pass)
      rw [List.range_succ, List.map_append, List.sum_append, ← Nat.add_assoc,
        ← inductionHypothesis]
      simpa [registryBefore, passAt] using gained

/-- If all sources count their answers into one registry, then over each of any number of passes the
counters agree with the reports, for every backend and under every schedule; and all that was timed
is what was reported as answered over all of these passes. -/
theorem counters_reconcile (instrumented : ∀ pass, (rosters pass).Instrumented)
    (backend : Backend) (passes : Nat) :
    (∀ pass < passes, Reconciles (rosters pass) (checks pass) backend
        (registryBefore rosters checks schedules registry pass)
        (passAt rosters checks schedules registry pass)) ∧
      (registryBefore rosters checks schedules registry passes).sampleCount backend =
        registry.sampleCount backend + ((List.range passes).map fun pass =>
          (reportsOn (rosters pass) backend
            (passAt rosters checks schedules registry pass).reports).countP
              (·.outcome.isAnswered)).sum := by
  constructor
  · intro pass _
    exact run_reconciles (instrumented pass) (checks pass) (schedules pass) _ backend
  · exact (counts_samples backend).passes rosters checks schedules registry
      (tells_isAnswered backend) instrumented passes

end

/-- Of two providers of one backend, one is offline in the second pass and the other aborts a
query. -/
theorem counters_reconcile_offline :
    let first (pass : Nat) : Source :=
      ⟨.datadog, true, .ok (pass = 0), fun _ => some (.ok .zero), fun _ => .zero⟩
    let second : Source :=
      ⟨.datadog, true, .ok true, fun query => if query = "p99" then none else some (.ok .zero),
        fun _ => .zero⟩
    let rosters (pass : Nat) := (Roster.empty.insert "a" (first pass)).insert "b" second
    let checks (_ : Nat) : List Check :=
      [⟨"latency", "a", "p50"⟩, ⟨"slowest", "b", "p99"⟩, ⟨"errors", "b", "rate"⟩]
    let schedules (_ : Nat) := Schedule.sequential.reversed
    (∀ pass, (rosters pass).Instrumented) ∧
      Reconciles (rosters 1) (checks 1) .datadog
        (registryBefore rosters checks schedules .empty 1)
        (passAt rosters checks schedules .empty 1) := by
  intro first second rosters checks schedules
  have instrumented : ∀ pass, (rosters pass).Instrumented := by
    intro pass
    exact (Roster.instrumented_empty.insert "a" rfl).insert "b" rfl
  exact ⟨instrumented,
    (counters_reconcile rosters checks schedules .empty instrumented .datadog 2).1 1 (by decide)⟩

end Probe

namespace Session

/-- All providers of a session are counted. -/
theorem rosterOf_instrumented (surroundings : Surroundings) (elapsed : String → Binary64)
    (providers : List (String × Provider)) :
    (rosterOf surroundings elapsed providers).Instrumented := by
  have added : ∀ roster : Probe.Roster, roster.Instrumented →
      (providers.foldl (fun roster entry =>
        roster.insert entry.1 (sourceOf surroundings elapsed entry.2)) roster).Instrumented := by
    induction providers with
    | nil => exact fun _ instrumented => instrumented
    | cons entry providers inductionHypothesis =>
        intro roster instrumented
        exact inductionHypothesis _ (instrumented.insert entry.1 rfl)
  exact added _ Probe.Roster.instrumented_empty

/-- In every pass of a session the counters agree with the reports. -/
theorem pass_reconciles (world : World) (providers : List (String × Provider))
    (checks : List Probe.Check) (index : Nat) (registry : Telemetry.Registry) (backend : Backend) :
    Probe.Reconciles (rosterOf (world.surroundings index) (world.elapsed index) providers) checks
      backend registry (pass world providers checks index registry) :=
  Probe.run_reconciles (rosterOf_instrumented _ _ providers) checks (world.schedule index) registry
    backend

end Session

end MetricProbe
