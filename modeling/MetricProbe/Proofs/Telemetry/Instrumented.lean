import MetricProbe.Proofs.Http.Outcomes
import MetricProbe.Proofs.Probe.Accounts

/-!
# Instrumented calls

Any number of sources count their answers in one registry, and their calls overlap in any way: a
call is begun, and later it ends with an answer or is aborted. What it counts it counts when it
ends. `Steps` are the runs of such calls, and the counters after a run are settled by the calls that
ended in it, whatever is still under way.

The source of a call is what a provider is like at that call, so providers may answer differently
from one call to the next. That the time and the outcome of a query are counted together is what
keeps the two accounts of it the same.
-/

namespace MetricProbe

namespace Telemetry.QueryOutcome

/-- All that can become of a query. -/
def all : List QueryOutcome :=
  [ok, failed .config, failed .transport, failed .backend, failed .noData]

/-- Nothing else can become of a query. -/
theorem mem_all (outcome : QueryOutcome) : outcome ∈ all := by
  cases outcome with
  | ok => decide
  | failed kind => cases kind <;> decide

end Telemetry.QueryOutcome

namespace Probe

open Telemetry (Registry QueryOutcome HealthOutcome)

/-! ## Calls -/

/-- What a source is asked. -/
inductive Question where
  | query (text : String)
  | health
  deriving DecidableEq, Repr

/-- What a source answers. -/
inductive Answer where
  | value (result : Outcome Binary64)
  | online (result : Outcome Bool)
  deriving DecidableEq, Repr

/-- Asks a source: its answer, if the call is not aborted, and the counters after it. -/
def Source.ask (source : Source) (registry : Registry) : Question → Option Answer × Registry
  | .query text =>
    ((source.callQuery text registry).1.map .value, (source.callQuery text registry).2)
  | .health => (some (.online (source.callOnline registry).1), (source.callOnline registry).2)

/-- What is wrapped in a source: the source as it is without counting. -/
def Source.inner (source : Source) : Source := { source with instrumented := false }

/-- A call of a source that counts its answers. -/
structure InstrumentedCall where
  source : Source
  instrumented : source.instrumented = true
  question : Question

namespace InstrumentedCall

/-- The answer of a call, if it is not aborted, and the counters after it. -/
def run (call : InstrumentedCall) (registry : Registry) : Option Answer × Registry :=
  call.source.ask registry call.question

/-- The answer that what is wrapped gives to the call, and the counters after it. -/
def runInner (call : InstrumentedCall) (registry : Registry) : Option Answer × Registry :=
  call.source.inner.ask registry call.question

variable {call : InstrumentedCall} {registry : Registry}

/-- What is wrapped gives the same answer at all times, and counts nothing. -/
theorem runInner_eq (call : InstrumentedCall) (registry other : Registry) :
    call.runInner registry = ((call.run other).1, registry) := by
  obtain ⟨source, instrumented, question⟩ := call
  cases question with
  | query text =>
      cases answered : source.answer text <;>
        simp [runInner, run, Source.ask, Source.callQuery, Source.countQuery, Source.inner, answered]
  | health => rfl

/-- A call that is aborted counts nothing. -/
theorem run_of_aborted (aborted : (call.run registry).1 = none) :
    (call.run registry).2 = registry := by
  obtain ⟨source, instrumented, question⟩ := call
  cases question with
  | query text =>
      have unanswered : source.answer text = none := Option.map_eq_none_iff.1 aborted
      change source.countQuery text registry = registry
      rw [Source.countQuery, unanswered]
  | health => cases aborted

/-- A health check leaves alone what is counted of queries. -/
theorem run_health (health : call.question = .health) :
    (call.run registry).2.queries = registry.queries ∧
      (call.run registry).2.durations = registry.durations := by
  obtain ⟨source, instrumented, question⟩ := call
  cases health
  change (source.countOnline registry).queries = _ ∧ (source.countOnline registry).durations = _
  rw [Source.countOnline, if_pos instrumented]
  exact ⟨rfl, rfl⟩

/-- A query leaves alone what is counted of health checks. -/
theorem run_query {text : String} (query : call.question = .query text) :
    (call.run registry).2.healthChecks = registry.healthChecks := by
  obtain ⟨source, instrumented, question⟩ := call
  cases query
  change (source.countQuery text registry).healthChecks = _
  rw [Source.countQuery]
  split
  · rfl
  · rw [if_pos instrumented]
    rfl

end InstrumentedCall

/-! ## Runs of calls -/

/-- What happens to a call. -/
inductive CallEvent where
  | begun (call : InstrumentedCall)
  | ended (call : InstrumentedCall) (answer : Answer)
  | aborted (call : InstrumentedCall)

/-- The registry that sources share, and the calls that are under way. -/
structure Traffic where
  registry : Registry
  pending : List InstrumentedCall

namespace Traffic

/-- Nothing is counted yet, and no call is under way. -/
def idle : Traffic := ⟨.empty, []⟩

/-- One step of one call. -/
inductive Step : Traffic → CallEvent → Traffic → Prop where
  /-- A source is called. -/
  | begin {traffic : Traffic} (call : InstrumentedCall) :
      Step traffic (.begun call) { traffic with pending := call :: traffic.pending }
  /-- A call ends with an answer. -/
  | finish {registry : Registry} {before after : List InstrumentedCall} {call : InstrumentedCall}
      {answer : Answer} (answered : (call.run registry).1 = some answer) :
      Step ⟨registry, before ++ call :: after⟩ (.ended call answer)
        ⟨(call.run registry).2, before ++ after⟩
  /-- A call ends without an answer. -/
  | fail {registry : Registry} {before after : List InstrumentedCall} {call : InstrumentedCall}
      (unanswered : (call.run registry).1 = none) :
      Step ⟨registry, before ++ call :: after⟩ (.aborted call)
        ⟨(call.run registry).2, before ++ after⟩
  /-- A call is dropped before what is wrapped has answered. -/
  | drop {registry : Registry} {before after : List InstrumentedCall} {call : InstrumentedCall} :
      Step ⟨registry, before ++ call :: after⟩ (.aborted call) ⟨registry, before ++ after⟩

/-- The steps of any calls, in any order. -/
inductive Steps (start : Traffic) : List CallEvent → Traffic → Prop where
  | refl : Steps start [] start
  | step {events : List CallEvent} {traffic next : Traffic} {event : CallEvent}
      (prior : Steps start events traffic) (transition : Step traffic event next) :
      Steps start (events ++ [event]) next

end Traffic

namespace CallEvent

/-- The call that something happens to. -/
def call : CallEvent → InstrumentedCall
  | begun call => call
  | ended call _ => call
  | aborted call => call

/-- The counter of an answered query. -/
def queryKey? : CallEvent → Option (QueryOutcome × Backend)
  | ended call (.value result) => some (.of result, call.source.backend)
  | _ => none

/-- The counter of an answered health check. -/
def healthKey? : CallEvent → Option (HealthOutcome × Backend)
  | ended call (.online result) => some (.of result, call.source.backend)
  | _ => none

end CallEvent

namespace Traffic

variable {start traffic next : Traffic} {event : CallEvent} {events : List CallEvent}

/-! ## What a step counts -/

/-- The counters after one step: those of an answered query, of an answered health check, or the
same as before. -/
theorem Step.registry_cases (step : Step traffic event next) :
    (∃ call result elapsed, event = .ended call (.value result) ∧ event.healthKey? = none ∧
      next.registry = traffic.registry.countQuery call.source.backend elapsed result) ∨
    (∃ call result, event = .ended call (.online result) ∧ event.queryKey? = none ∧
      next.registry = traffic.registry.countHealth call.source.backend result) ∨
    event.queryKey? = none ∧ event.healthKey? = none ∧ next.registry = traffic.registry := by
  cases step with
  | begin call => exact .inr (.inr ⟨rfl, rfl, rfl⟩)
  | @finish registry before after call answer answered =>
      obtain ⟨source, instrumented, question⟩ := call
      cases question with
      | query text =>
          obtain ⟨result, given, rfl⟩ := Option.map_eq_some_iff.1 answered
          refine .inl ⟨_, result, source.elapsed text, rfl, rfl, ?_⟩
          change source.countQuery text registry = _
          have own : source.answer text = some result := given
          rw [Source.countQuery, own]
          exact if_pos instrumented
      | health =>
          cases answered
          exact .inr (.inl ⟨_, source.online, rfl, rfl, if_pos instrumented⟩)
  | fail unanswered => exact .inr (.inr ⟨rfl, rfl, InstrumentedCall.run_of_aborted unanswered⟩)
  | drop => exact .inr (.inr ⟨rfl, rfl, rfl⟩)

/-- A call that ends has the answer of what is wrapped. -/
theorem Step.answer_eq {call : InstrumentedCall} {answer : Answer}
    (step : Step traffic (.ended call answer) next) (registry : Registry) :
    call.runInner registry = (some answer, registry) := by
  cases step with
  | finish answered => rw [call.runInner_eq registry, answered]

/-- A step raises a measure of answered queries if it ends one. -/
theorem Step.counts {measure : Registry → Nat} {kind : QueryOutcome × Backend → Bool}
    (counts : Counts measure kind) (step : Step traffic event next) :
    measure next.registry =
      measure traffic.registry + if event.queryKey?.any kind then 1 else 0 := by
  rcases step.registry_cases with ⟨call, result, elapsed, rfl, _, same⟩ |
      ⟨call, result, rfl, noKey, same⟩ | ⟨noKey, _, same⟩
  · rw [same, counts.answer]
    rfl
  · rw [same, counts.health, noKey]
    rfl
  · rw [same, noKey]
    rfl

/-- A step raises the counter of an answered health check if it ends one. -/
theorem Step.countsHealth (key : HealthOutcome × Backend) (step : Step traffic event next) :
    next.registry.healthChecks.count key =
      traffic.registry.healthChecks.count key + if event.healthKey? = some key then 1 else 0 := by
  rcases step.registry_cases with ⟨call, result, elapsed, _, noKey, same⟩ |
      ⟨call, result, rfl, _, same⟩ | ⟨_, noKey, same⟩
  · rw [same, noKey]
    rfl
  · rw [same, Registry.countHealth, Telemetry.Tally.count_add]
    simp only [CallEvent.healthKey?, Option.some.injEq]
  · rw [same, noKey]
    rfl

/-! ## What a run counts -/

/-- What each step adds to a measure is added up by a run. -/
theorem Steps.measure_eq {measure : Registry → Nat} {counted : CallEvent → Bool}
    (each : ∀ {traffic event next}, Step traffic event next →
      measure next.registry = measure traffic.registry + if counted event then 1 else 0)
    (steps : Steps start events traffic) :
    measure traffic.registry = measure start.registry + events.countP counted := by
  induction steps with
  | refl => rfl
  | step prior transition inductionHypothesis =>
      rw [each transition, inductionHypothesis, List.countP_append, List.countP_singleton,
        Nat.add_assoc]

/-- The counters of health checks are the numbers of those that were answered. -/
theorem Steps.healthChecks_eq (steps : Steps idle events traffic)
    (key : HealthOutcome × Backend) :
    traffic.registry.healthChecks.count key = events.countP (·.healthKey? = some key) := by
  have counted := @Steps.measure_eq idle traffic events (·.healthChecks.count key)
    (fun event => event.healthKey? = some key)
    (fun step => by simpa only [decide_eq_true_eq] using step.countsHealth key) steps
  rwa [idle, Registry.empty, Telemetry.Tally.count_empty, Nat.zero_add] at counted

/-- The counters of queries are the numbers of those that were answered. -/
theorem Steps.queries_eq (steps : Steps idle events traffic) (key : QueryOutcome × Backend) :
    traffic.registry.queries.count key = events.countP (·.queryKey? = some key) := by
  have counted := steps.measure_eq (Step.counts (counts_among (List.nodup_singleton key)))
  simp only [Telemetry.Tally.among_singleton, List.mem_singleton] at counted
  rw [counted, idle, Registry.empty, Telemetry.Tally.count_empty, Nat.zero_add]
  refine List.countP_congr fun event _ => ?_
  cases event.queryKey? <;> simp

/-- Every call that ended in a run has the answer of what is wrapped. -/
theorem Steps.answer_eq {call : InstrumentedCall} {answer : Answer}
    (steps : Steps start events traffic) (inside : .ended call answer ∈ events)
    (registry : Registry) : call.runInner registry = (some answer, registry) := by
  induction steps with
  | refl => cases inside
  | step prior transition inductionHypothesis =>
      rcases List.mem_append.1 inside with earlier | last
      · exact inductionHypothesis earlier
      · obtain rfl := List.mem_singleton.1 last
        exact transition.answer_eq registry

/-- The times that were taken of queries are as many as the queries that were counted. -/
theorem Steps.sampleCount_eq (steps : Steps idle events traffic) (backend : Backend) :
    traffic.registry.sampleCount backend =
      (QueryOutcome.all.map fun outcome =>
        traffic.registry.queries.count (outcome, backend)).sum := by
  have distinct : (QueryOutcome.all.map (·, backend)).Nodup := by
    cases backend <;> decide
  have counted := steps.measure_eq (Step.counts (counts_among distinct))
  have timed := steps.measure_eq (Step.counts (counts_samples backend))
  have same (key : QueryOutcome × Backend) :
      decide (key ∈ QueryOutcome.all.map (·, backend)) = decide (key.2 = backend) := by
    obtain ⟨outcome, other⟩ := key
    simp [QueryOutcome.mem_all, eq_comm]
  simp only [same] at counted
  have whole : traffic.registry.queries.among (QueryOutcome.all.map (·, backend)) =
      (QueryOutcome.all.map fun outcome =>
        traffic.registry.queries.count (outcome, backend)).sum := by
    rw [Telemetry.Tally.among, List.map_map]
    rfl
  rw [timed, ← whole, counted]
  rfl

/-- What one step leaves alone: a step of a health check what is counted of queries, a step of a
query what is counted of health checks, and a call that is aborted everything. -/
structure Leaves (traffic : Traffic) (event : CallEvent) (next : Traffic) : Prop where
  health : event.call.question = .health →
    next.registry.queries = traffic.registry.queries ∧
      next.registry.durations = traffic.registry.durations
  query : ∀ text, event.call.question = .query text →
    next.registry.healthChecks = traffic.registry.healthChecks
  aborted : ∀ call, event = .aborted call → next.registry = traffic.registry

/-- Every step leaves alone what it must. -/
theorem Step.leaves (step : Step traffic event next) : Leaves traffic event next := by
  cases step with
  | begin call => exact ⟨fun _ => ⟨rfl, rfl⟩, fun _ _ => rfl, fun _ _ => rfl⟩
  | finish answered =>
      exact ⟨InstrumentedCall.run_health, fun _ => InstrumentedCall.run_query, nofun⟩
  | fail unanswered =>
      exact ⟨InstrumentedCall.run_health, fun _ => InstrumentedCall.run_query,
        fun _ _ => InstrumentedCall.run_of_aborted unanswered⟩
  | drop => exact ⟨fun _ => ⟨rfl, rfl⟩, fun _ _ => rfl, fun _ _ => rfl⟩

/-- Every call that ended in a run of instrumented calls has the answer of what is wrapped. Each
counter is the number of the calls that ended so on its backend, and the times that were taken on a
backend are as many as its queries that were counted. Health checks, queries and aborted calls leave
the other accounts alone; so does the health check of Prometheus, although it is a query of what is
wrapped. -/
theorem counters_are_exact (steps : Steps idle events traffic) :
    (∀ call answer, .ended call answer ∈ events →
      ∀ registry, call.runInner registry = (some answer, registry)) ∧
    (∀ outcome backend, traffic.registry.queries.count (outcome, backend) =
      events.countP (·.queryKey? = some (outcome, backend))) ∧
    (∀ outcome backend, traffic.registry.healthChecks.count (outcome, backend) =
      events.countP (·.healthKey? = some (outcome, backend))) ∧
    (∀ backend, traffic.registry.sampleCount backend =
      (QueryOutcome.all.map fun outcome =>
        traffic.registry.queries.count (outcome, backend)).sum) ∧
    (∀ event next, Step traffic event next → Leaves traffic event next) ∧
    ∀ surroundings elapsed client,
      let source := Session.sourceOf surroundings elapsed (.prometheus client)
      source.instrumented = true ∧
        (source.ask traffic.registry .health).1 = some (.online
          ((client.run surroundings.network "vector(1)").map (·.eq Binary64.one))) ∧
        (source.ask traffic.registry .health).2.queries = traffic.registry.queries ∧
        (source.ask traffic.registry .health).2.durations = traffic.registry.durations := by
  refine ⟨fun call answer inside => steps.answer_eq inside,
    fun outcome backend => steps.queries_eq (outcome, backend),
    fun outcome backend => steps.healthChecks_eq (outcome, backend), steps.sampleCount_eq,
    fun event next => Step.leaves, fun surroundings elapsed client => ⟨rfl, ?_, rfl, rfl⟩⟩
  exact congrArg (some ∘ Answer.online) Prometheus.Client.outcome_check

/-- Three calls overlap: a query of Datadog without data, a health check of Prometheus that fails, and
a query that is aborted. -/
theorem counters_are_exact_overlapping :
    ∃ events traffic, Steps idle events traffic ∧ events.length = 6 ∧
      traffic.registry.queries.count (.failed .noData, .datadog) = 1 ∧
      traffic.registry.sampleCount .datadog = 1 ∧
      traffic.registry.healthChecks.count (.error, .prometheus) = 1 ∧
      traffic.registry.sampleCount .prometheus = 0 := by
  let datadog : Source :=
    { backend := .datadog
      instrumented := true
      online := .ok true
      answer := fun text => if text = "lost" then none else some (.error (.noValues "[]"))
      elapsed := fun _ => Binary64.one }
  let prometheus : Source :=
    { backend := .prometheus
      instrumented := true
      online := .error (.transport .timedOut)
      answer := fun _ => some (.ok Binary64.one)
      elapsed := fun _ => Binary64.one }
  let query : InstrumentedCall := ⟨datadog, rfl, .query "up"⟩
  let health : InstrumentedCall := ⟨prometheus, rfl, .health⟩
  let lost : InstrumentedCall := ⟨datadog, rfl, .query "lost"⟩
  have begun : Steps idle [.begun query, .begun health, .begun lost]
      ⟨.empty, [lost, health, query]⟩ :=
    .step (.step (.step .refl (.begin query)) (.begin health)) (.begin lost)
  have steps := ((begun.step (@Step.fail .empty [] [health, query] lost rfl)).step
    (@Step.finish _ [] [query] health (.online (.error (.transport .timedOut))) rfl)).step
    (@Step.finish _ [] [] query (.value (.error (.noValues "[]"))) rfl)
  obtain ⟨_, queries, healthChecks, samples, _⟩ := counters_are_exact steps
  refine ⟨_, _, steps, rfl, ?_, ?_, ?_, ?_⟩
  · exact (queries _ _).trans (by decide)
  · rw [samples]
    simp only [queries]
    decide
  · exact (healthChecks _ _).trans (by decide)
  · rw [samples]
    simp only [queries]
    decide

end Traffic

end Probe

end MetricProbe
