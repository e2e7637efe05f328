import MetricProbe.Proofs.CloudWatch.Outcomes
import MetricProbe.Proofs.Http.Outcomes
import MetricProbe.Proofs.Probe.Reports
import MetricProbe.Provider.Factory

/-!
# What answers do not blame

A provider that was made does not blame its own configuration any more: a query that fails does so
because of itself or because of what the backend did. So no answer is worded like the report on a
check whose provider is not there.
-/

namespace MetricProbe

/-! ## Failures of queries -/

/-- A call whose reading does not blame the configuration does not blame it. -/
theorem Http.IsCall.kind_ne_config {α : Type} {buildable : Prop} {network : Http.Network}
    {read : String → Outcome α} {attempt : Attempt Http.Request α} {failure : Failure}
    (isCall : Http.IsCall buildable network read attempt)
    (reading : ∀ body other, read body = .error other → other.kind ≠ .config)
    (failed : attempt.outcome = .error failure) : failure.kind ≠ .config := by
  cases sent : attempt.sent with
  | nil =>
      rw [isCall.unsent sent] at failed
      cases failed
      exact nofun
  | cons request more =>
      have ends := isCall.ends request (by simp [sent])
      generalize network request = delivery at ends
      generalize attempt.outcome = outcome at ends failed
      cases ends with
      | refused | dropped | silent | failure =>
          cases failed
          exact nofun
      | success body => exact reading _ failure failed

/-- A body that Datadog's answers are not read from is no fault of the configuration. -/
theorem Datadog.kind_of_readResponse {body : String} {failure : Failure}
    (failed : Datadog.readResponse body = .error failure) : failure.kind ≠ .config := by
  unfold Datadog.readResponse at failed
  split at failed
  · cases failed
    exact nofun
  · split at failed <;> cases failed
    exact nofun

/-- A body that the answers of Prometheus are not read from is no fault of the configuration. -/
theorem Prometheus.kind_of_readResponse {body : String} {failure : Failure}
    (failed : Prometheus.readResponse body = .error failure) : failure.kind ≠ .config := by
  unfold Prometheus.readResponse at failed
  split at failed
  · cases failed
    exact nofun
  · split at failed
    · cases failed
      exact nofun
    · split at failed <;> cases failed <;> exact nofun

/-- A query that fails blames nothing that was configured but the query. -/
theorem Provider.kind_of_run {provider : Provider} {surroundings : Surroundings} {query : String}
    {failure : Failure} (failed : provider.run surroundings query = .error failure) :
    failure.kind ≠ .config ∨ ∃ reason, failure = .invalidQuery reason := by
  cases provider with
  | prometheus client =>
      exact .inl ((Prometheus.Client.isCall_ask query).kind_ne_config
        (fun _ _ => Prometheus.kind_of_readResponse) failed)
  | datadog client =>
      exact .inl ((Datadog.Client.isCall_ask surroundings.now query).kind_ne_config
        (fun _ _ => Datadog.kind_of_readResponse) failed)
  | cloudwatch client =>
      have asked : (CloudWatch.ask (surroundings.service client) query).outcome =
          .error failure := failed
      cases decoded : CloudWatch.readQueries query with
      | error undecoded =>
          obtain ⟨reason, rfl⟩ := CloudWatch.exists_eq_invalidQuery decoded
          rw [CloudWatch.ask_of_undecoded decoded] at asked
          cases asked
          exact .inr ⟨reason, rfl⟩
      | ok queries =>
          rw [CloudWatch.ask_of_decoded decoded, CloudWatch.callOnce] at asked
          generalize surroundings.service client _ = result at asked
          refine .inl ?_
          rcases result with (_ | _) | results
          · cases asked
            simp [Failure.kind]
          · cases asked
            simp [Failure.kind]
          · cases found : CloudWatch.firstValue? results with
            | some value => simp [CloudWatch.queryOutcome, found] at asked
            | none =>
                simp only [CloudWatch.queryOutcome, found, Except.error.injEq] at asked
                simp [← asked, Failure.kind]

namespace Probe

/-- What a text begins with is what it begins with when more is added. -/
theorem begins_append {first rest : String} {start : List Char}
    (begins : start <+: first.toList) : start <+: (first ++ rest).toList := by
  rw [String.toList_append]
  exact begins.trans (List.prefix_append _ _)

/-- The wording for a provider that is not there is that of no failure of an answer. -/
theorem message_ne_unknownProvider {failure : Failure}
    (asked : failure.kind ≠ .config ∨ ∃ reason, failure = .invalidQuery reason) (name : String) :
    failure.message ≠ s!"unknown provider '{name}'" := by
  intro same
  have wording : "unknown provider '".toList <+: failure.message.toList := by
    rw [same]
    exact begins_append (begins_append List.prefix_rfl)
  -- No fixed beginning of another wording starts this one, or the other way round.
  have apart {start : List Char} (begins : start <+: failure.message.toList)
      (clash : ¬ (start <+: "unknown provider '".toList ∨ "unknown provider '".toList <+: start)) :
      False :=
    clash (List.prefix_or_prefix_of_prefix begins wording)
  cases failure with
  | missingCredential | invalidInterval | invalidAddress | clientBuild =>
      rcases asked with blamed | ⟨_, other⟩
      · exact blamed rfl
      · cases other
  | invalidQuery | transport | noValues | unexpected =>
      exact apart (begins_append List.prefix_rfl) (by decide)
  | errorResponse | unexpectedStatus =>
      exact apart (begins_append (begins_append (begins_append List.prefix_rfl))) (by decide)
  | decode =>
      exact apart (begins_append (begins_append (begins_append (begins_append List.prefix_rfl))))
        (by decide)

/-- A check whose provider is there is not reported to have none, if the failures of its answers are
worded otherwise. -/
theorem Check.outcome_ne_unknownProvider {check : Check} {source : Source} {name : String}
    (answers : ∀ failure, source.answer check.query = some (.error failure) →
      failure.message ≠ s!"unknown provider '{name}'") :
    check.outcome (some source) ≠ .unknownProvider name := by
  have aborted : "check task aborted" ≠ s!"unknown provider '{name}'" := by
    intro same
    have wording : "unknown provider '".toList <+: "check task aborted".toList := by
      rw [same]
      exact begins_append (begins_append List.prefix_rfl)
    exact absurd wording (by decide)
  rcases online : source.online with failure | (_ | _)
  · simp [Check.outcome, CheckOutcome.unknownProvider, online]
  · simp [Check.outcome, CheckOutcome.unknownProvider, online]
  · rcases answered : source.answer check.query with _ | (failure | value)
    · simpa [Check.outcome, CheckOutcome.unknownProvider, online, answered] using aborted
    · have other := answers failure answered
      cases failure with
      | noValues => simp [Check.outcome, CheckOutcome.unknownProvider, online, answered]
      | _ => simpa [Check.outcome, CheckOutcome.unknownProvider, online, answered] using other
    · simp [Check.outcome, CheckOutcome.unknownProvider, online, answered]

end Probe

end MetricProbe
