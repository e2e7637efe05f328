import MetricProbe.Proofs.Http.Clients

/-!
# Outcomes of HTTP clients

How the queries and the health checks of both HTTP clients end, over every network. A query is a
call that reads a value from the body; Datadog's health check is a call that reads nothing, and that
of Prometheus is the query for the constant one.
-/

namespace MetricProbe

open Http (IsCall isHeaderValue)

/-! ## The number one -/

namespace Binary64

end Binary64

/-! ## Datadog -/

namespace Datadog.Client

/-- A client can ask if its address is one and both keys may be the value of a header. -/
def CanAsk (client : Client) : Prop :=
  (Url.read? client.queryEndpoint).isSome ∧ isHeaderValue client.apiKey = true ∧
    isHeaderValue client.applicationKey = true

/-- Both paths go on behind one stem. -/
theorem extends_queryPath : Url.Extends queryPath "/api/v1".toList where
  named := by decide
  behind := ⟨"query".toList, rfl⟩
  plain := by decide

/-- Both paths go on behind one stem. -/
theorem extends_validatePath : Url.Extends validatePath "/api/v1".toList where
  named := by decide
  behind := ⟨"validate".toList, rfl⟩
  plain := by decide

variable {client : Client} {network : Http.Network}

/-- A query is a call. -/
theorem isCall_ask (now : Int) (query : String) :
    IsCall client.CanAsk network readResponse (client.ask network now query) := by
  refine Http.isCall_call ?_
  rw [queryRequest?, Option.isSome_map]
  exact client.isSome_authorized?_iff client.queryEndpoint

/-- A health check is a call, and can be built if a query can. -/
theorem isCall_check {interval : String} {settings : Settings} {credentials : Credentials}
    (made : make interval settings credentials = .ok client) :
    IsCall client.CanAsk network (fun _ => .ok true) (client.check network) := by
  obtain ⟨query, validate⟩ := endpoints_of_make made
  refine Http.isCall_call ?_
  rw [validateRequest?, client.isSome_authorized?_iff, CanAsk, query, validate,
    Url.isSome_read?_of_extends extends_validatePath extends_queryPath]

end Datadog.Client

/-! ## Prometheus -/

namespace Prometheus

namespace Client

variable {client : Client} {network : Http.Network}

/-- A query is a call. -/
theorem isCall_ask (query : String) :
    IsCall (Url.read? client.queryEndpoint).isSome network readResponse
      (client.ask network query) :=
  Http.isCall_call (by rw [client.isSome_queryRequest?])

/-- A health check sends what the query for the constant one sends. -/
theorem sent_check : (client.check network).sent = (client.ask network onlineQuery).sent :=
  Attempt.sent_bind_of_silent _ _ fun _ => rfl

/-- A health check ends as the query for the constant one ends, its value compared with one. -/
theorem outcome_check :
    (client.check network).outcome =
      (client.ask network onlineQuery).outcome.map (·.eq Binary64.one) := by
  rw [check, Attempt.outcome_bind]
  cases (client.ask network onlineQuery).outcome <;> rfl

end Client

end Prometheus

/-! ## Both clients -/

end MetricProbe
