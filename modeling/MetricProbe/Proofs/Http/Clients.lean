import MetricProbe.Datadog.Client
import MetricProbe.Prometheus.Client
import MetricProbe.Proofs.Http.Exchange
import MetricProbe.Proofs.Url.Address

/-!
# Requests of clients

What the requests of the HTTP clients are made of: the address of an endpoint, headers that do not
depend on the query, and the parameters of the query. Whether a request can be built is settled by
the address and the keys.
-/

namespace MetricProbe

open Http (Request isHeaderValue)

/-! ## Datadog -/

namespace Datadog.Client

variable {client : Client}

/-- The client for an interval, an address and two keys. -/
def ofKeys (interval : Interval) (settings : Settings) (apiKey applicationKey : String) :
    Client where
  queryEndpoint := Text.trimEndOf '/' (settings.addressOr defaultAddress) ++ queryPath
  validateEndpoint := Text.trimEndOf '/' (settings.addressOr defaultAddress) ++ validatePath
  apiKey := apiKey
  applicationKey := applicationKey
  window := interval.lookbackSeconds windowIntervals

/-- A client is made of an interval, if it can be read, and of both keys. -/
theorem make_eq_ok_iff {text : String} {settings : Settings} {credentials : Credentials} :
    make text settings credentials = .ok client ↔
      ∃ interval apiKey applicationKey, Interval.read text = .ok interval ∧
        credentials.text? apiKeyName = some apiKey ∧
        credentials.text? applicationKeyName = some applicationKey ∧
        ofKeys interval settings apiKey applicationKey = client := by
  cases hasApiKey : credentials.text? apiKeyName with
  | none =>
      have lacking : requireKey credentials apiKeyName =
          .error (.missingCredential Backend.datadog.name apiKeyName) := by
        rw [requireKey, hasApiKey]
      rw [make, lacking]
      exact ⟨nofun, nofun⟩
  | some apiKey =>
      have first : requireKey credentials apiKeyName = .ok apiKey := by rw [requireKey, hasApiKey]
      cases hasApplicationKey : credentials.text? applicationKeyName with
      | none =>
          have lacking : requireKey credentials applicationKeyName =
              .error (.missingCredential Backend.datadog.name applicationKeyName) := by
            rw [requireKey, hasApplicationKey]
          rw [make, first, lacking]
          exact ⟨nofun, nofun⟩
      | some applicationKey =>
          have second : requireKey credentials applicationKeyName = .ok applicationKey := by
            rw [requireKey, hasApplicationKey]
          cases read : Interval.read text with
          | error fault =>
              rw [make, first, second, read]
              exact ⟨nofun, nofun⟩
          | ok interval =>
              have made : make text settings credentials =
                  .ok (ofKeys interval settings apiKey applicationKey) := by
                rw [make, first, second, read]
                rfl
              rw [made]
              simp
/-- The endpoints of a client are those of one address. -/
theorem endpoints_of_make {interval : String} {settings : Settings} {credentials : Credentials}
    (made : make interval settings credentials = .ok client) :
    client.queryEndpoint =
        Text.trimEndOf '/' (settings.addressOr defaultAddress) ++ queryPath ∧
      client.validateEndpoint =
        Text.trimEndOf '/' (settings.addressOr defaultAddress) ++ validatePath := by
  obtain ⟨_, _, _, _, _, _, rfl⟩ := make_eq_ok_iff.1 made
  exact ⟨rfl, rfl⟩

/-- The address of a request that carries the keys is the address of its endpoint. -/
theorem exists_read?_of_authorized? {endpoint : String} {request : Request}
    (authorized : client.authorized? endpoint = some request) :
    ∃ login, Url.read? endpoint = some (request.url, login) := by
  simp only [authorized?, Option.bind_eq_bind, Option.bind_eq_some_iff,
    Request.withHeader?_eq_some_iff] at authorized
  obtain ⟨base, got, _, ⟨_, rfl⟩, _, rfl⟩ := authorized
  have named := Http.exists_read?_of_get? got
  exact named

/-- A request that carries the keys can be built if the endpoint is an address and both keys may be
the value of a header. -/
theorem isSome_authorized?_iff (client : Client) (endpoint : String) :
    (client.authorized? endpoint).isSome ↔
      (Url.read? endpoint).isSome ∧ isHeaderValue client.apiKey = true ∧
        isHeaderValue client.applicationKey = true := by
  rw [← Http.isSome_get?, Option.isSome_iff_exists, Option.isSome_iff_exists]
  simp only [authorized?, Option.bind_eq_bind, Option.bind_eq_some_iff,
    Request.withHeader?_eq_some_iff, ↓existsAndEq, and_true]
  exact exists_and_right

end Datadog.Client

/-! ## Prometheus -/

namespace Prometheus.Client

/-- The endpoint of a client is that of its address. -/
theorem endpoint_of_make {settings : Settings} {credentials : Credentials} {client : Client}
    (made : make settings credentials = .ok client) :
    client.queryEndpoint =
      Text.trimEndOf '/' (settings.addressOr defaultAddress) ++ queryPath := by
  cases login : loginOf credentials with
  | error failure =>
      rw [make, login] at made
      cases made
  | ok given =>
      rw [make, login] at made
      cases made
      rfl

/-- A request to the endpoint that carries the login. -/
def authorized? (client : Client) : Option Request := do
  let request ← Http.get? client.queryEndpoint
  match client.login with
  | none => pure request
  | some (username, password) =>
    request.withHeader? Http.authorization (Http.basicAuth username (some password))

/-- The login and the query do not touch each other. -/
theorem queryRequest?_eq (client : Client) (query : String) :
    client.queryRequest? query =
      client.authorized?.map (·.withQuery [("query", normalize query)]) := by
  unfold queryRequest? authorized?
  cases Http.get? client.queryEndpoint with
  | none => rfl
  | some request =>
      cases client.login with
      | none => rfl
      | some login =>
          simp only [Option.bind_eq_bind, Option.bind_some, Request.withHeader?]
          split <;> rfl

/-- The address of a request that carries the login is the address of the endpoint. -/
theorem exists_read?_of_authorized? {client : Client} {request : Request}
    (authorized : client.authorized? = some request) :
    ∃ login, Url.read? client.queryEndpoint = some (request.url, login) := by
  simp only [authorized?, Option.bind_eq_bind, Option.bind_eq_some_iff] at authorized
  obtain ⟨base, got, carried⟩ := authorized
  have named := Http.exists_read?_of_get? got
  cases given : client.login with
  | none =>
      rw [given] at carried
      cases carried
      exact named
  | some login =>
      rw [given] at carried
      obtain ⟨_, rfl⟩ := Request.withHeader?_eq_some_iff.1 carried
      exact named

/-- A request can be built if the endpoint is an address: every login may be a header's value. -/
theorem isSome_queryRequest? (client : Client) (query : String) :
    (client.queryRequest? query).isSome = (Url.read? client.queryEndpoint).isSome := by
  rw [queryRequest?_eq, Option.isSome_map, ← Http.isSome_get?, authorized?]
  cases Http.get? client.queryEndpoint with
  | none => rfl
  | some request =>
      cases client.login with
      | none => rfl
      | some login =>
          simp only [Option.bind_eq_bind, Option.bind_some, Request.withHeader?,
            Http.isHeaderValue_basicAuth, if_true, Option.isSome_some]

end Prometheus.Client

end MetricProbe
