import MetricProbe.Datadog.Response
import MetricProbe.Http.Exchange
import MetricProbe.Interval
import MetricProbe.Provider.Settings

/-!
# Asking Datadog

A query asks for the window of the last ten metric intervals, because points arrive late and not in
every interval; a health check asks whether the keys are valid. Both carry the two keys as headers,
and neither is sent if a key cannot be a header's value.
-/

namespace MetricProbe.Datadog

/-- The address used when none is configured. -/
def defaultAddress : String := "https://api.datadoghq.com"

/-- Where queries are answered. -/
def queryPath : String := "/api/v1/query"

/-- Where keys are checked. -/
def validatePath : String := "/api/v1/validate"

/-- The credential that holds the API key. -/
def apiKeyName : String := "datadog_api_key"

/-- The credential that holds the application key. -/
def applicationKeyName : String := "datadog_application_key"

/-- The header that carries the API key. -/
def apiKeyHeader : String := "dd-api-key"

/-- The header that carries the application key. -/
def applicationKeyHeader : String := "dd-application-key"

/-- The width of the window in metric intervals. -/
def windowIntervals : Nat := 10

/-- A client of one backend. -/
structure Client where
  queryEndpoint : String
  validateEndpoint : String
  apiKey : String
  applicationKey : String
  /-- The width of the window in seconds. -/
  window : Int
  deriving DecidableEq, Repr

namespace Client

/-- A credential that must be there. -/
def requireKey (credentials : Credentials) (key : String) : Outcome String :=
  match credentials.text? key with
  | some value => .ok value
  | none => .error (.missingCredential Backend.datadog.name key)

/-- A client for the given metric interval. The API key is looked for first, then the application
key, and then the interval is read. -/
def make (interval : String) (settings : Settings) (credentials : Credentials) :
    Outcome Client := do
  let address := Text.trimEndOf '/' (settings.addressOr defaultAddress)
  let apiKey ← requireKey credentials apiKeyName
  let applicationKey ← requireKey credentials applicationKeyName
  match Interval.read interval with
  | .error fault => .error (.invalidInterval interval (fault.message interval))
  | .ok interval =>
    pure
      { queryEndpoint := address ++ queryPath
        validateEndpoint := address ++ validatePath
        apiKey := apiKey
        applicationKey := applicationKey
        window := interval.lookbackSeconds windowIntervals }

/-- A request to an endpoint that carries both keys. -/
def authorized? (client : Client) (endpoint : String) : Option Http.Request := do
  let request ← Http.get? endpoint
  let request ← request.withHeader? apiKeyHeader client.apiKey
  request.withHeader? applicationKeyHeader client.applicationKey

/-- The request of a query at a time in seconds. -/
def queryRequest? (client : Client) (now : Int) (query : String) : Option Http.Request :=
  (client.authorized? client.queryEndpoint).map fun request =>
    request.withQuery
      [("query", query), ("from", toString (now - client.window)), ("to", toString now)]

/-- The request of a health check. -/
def validateRequest? (client : Client) : Option Http.Request :=
  client.authorized? client.validateEndpoint

/-- Asks for the latest value of a query. -/
def ask (client : Client) (network : Http.Network) (now : Int) (query : String) :
    Attempt Http.Request Binary64 :=
  Http.call network (client.queryRequest? now query) readResponse

/-- Asks whether the backend can be reached and the keys are valid. -/
def check (client : Client) (network : Http.Network) : Attempt Http.Request Bool :=
  Http.call network client.validateRequest? fun _ => .ok true

/-- The latest value of a query. -/
def run (client : Client) (network : Http.Network) (now : Int) (query : String) :
    Outcome Binary64 :=
  (client.ask network now query).outcome

/-- Whether the backend can be reached and the keys are valid. -/
def isOnline (client : Client) (network : Http.Network) : Outcome Bool :=
  (client.check network).outcome

end Client

end MetricProbe.Datadog
