import MetricProbe.Http.Exchange
import MetricProbe.Prometheus.Query
import MetricProbe.Prometheus.Response
import MetricProbe.Provider.Settings

/-!
# Asking Prometheus

A query is an instant query. A health check is the query for the constant one, and the backend is
online if that is what it answers. A login is used if a user name or a password is given, and then
both must be.
-/

namespace MetricProbe.Prometheus

/-- The address used when none is configured. -/
def defaultAddress : String := "http://prometheus:9090"

/-- Where queries are answered. -/
def queryPath : String := "/api/v1/query"

/-- The credential that holds the user name. -/
def usernameKey : String := "username"

/-- The credential that holds the password. -/
def passwordKey : String := "password"

/-- The query of a health check. -/
def onlineQuery : String := "vector(1)"

/-- A client of one backend. -/
structure Client where
  queryEndpoint : String
  /-- The user name and the password. -/
  login : Option (String × String)
  deriving DecidableEq, Repr

namespace Client

/-- The login that the credentials give. -/
def loginOf (credentials : Credentials) : Outcome (Option (String × String)) :=
  match credentials.text? usernameKey, credentials.text? passwordKey with
  | none, none => .ok none
  | some username, some password => .ok (some (username, password))
  | none, some _ => .error (.missingCredential Backend.prometheus.name usernameKey)
  | some _, none => .error (.missingCredential Backend.prometheus.name passwordKey)

/-- A client with the given settings. -/
def make (settings : Settings) (credentials : Credentials) : Outcome Client := do
  let login ← loginOf credentials
  pure
    { queryEndpoint := Text.trimEndOf '/' (settings.addressOr defaultAddress) ++ queryPath
      login := login }

/-- The request of a query. -/
def queryRequest? (client : Client) (query : String) : Option Http.Request := do
  let request ← Http.get? client.queryEndpoint
  let request := request.withQuery [("query", normalize query)]
  match client.login with
  | none => pure request
  | some (username, password) =>
    request.withHeader? Http.authorization (Http.basicAuth username (some password))

/-- Asks for the value of a query. -/
def ask (client : Client) (network : Http.Network) (query : String) :
    Attempt Http.Request Binary64 :=
  Http.call network (client.queryRequest? query) readResponse

/-- Asks whether the backend answers queries. -/
def check (client : Client) (network : Http.Network) : Attempt Http.Request Bool := do
  let value ← client.ask network onlineQuery
  pure (value.eq Binary64.one)

/-- The value of a query. -/
def run (client : Client) (network : Http.Network) (query : String) : Outcome Binary64 :=
  (client.ask network query).outcome

/-- Whether the backend answers queries. -/
def isOnline (client : Client) (network : Http.Network) : Outcome Bool :=
  (client.check network).outcome

end Client

end MetricProbe.Prometheus
