import MetricProbe.CloudWatch.Client
import MetricProbe.Datadog.Client
import MetricProbe.Prometheus.Client

/-!
# Providers from settings

The declared backend decides which client is made, and its failure is the failure. Making a client
contacts nothing, and only a Datadog client looks at the metric interval.
-/

namespace MetricProbe

/-- What a provider can reach: the network of the HTTP backends at a given time in seconds, and the
CloudWatch service of a client. -/
structure Surroundings where
  network : Http.Network
  now : Int
  service : CloudWatch.Client → CloudWatch.Service

/-- A client of one of the backends. -/
inductive Provider where
  | prometheus (client : Prometheus.Client)
  | datadog (client : Datadog.Client)
  | cloudwatch (client : CloudWatch.Client)
  deriving DecidableEq, Repr

namespace Provider

/-- The provider for the given settings. -/
def make (interval : String) (settings : Settings) (credentials : Credentials) :
    Outcome Provider :=
  match settings.backend with
  | .prometheus => (Prometheus.Client.make settings credentials).map .prometheus
  | .datadog => (Datadog.Client.make interval settings credentials).map .datadog
  | .cloudwatch => (CloudWatch.Client.make settings).map .cloudwatch

/-- The backend that a provider asks. -/
def backend : Provider → Backend
  | prometheus _ => .prometheus
  | datadog _ => .datadog
  | cloudwatch _ => .cloudwatch

/-- Asks for the value of a query. -/
def run (provider : Provider) (surroundings : Surroundings) (query : String) : Outcome Binary64 :=
  match provider with
  | prometheus client => client.run surroundings.network query
  | datadog client => client.run surroundings.network surroundings.now query
  | cloudwatch client => CloudWatch.run (surroundings.service client) query

/-- Asks whether the backend is online. -/
def isOnline (provider : Provider) (surroundings : Surroundings) : Outcome Bool :=
  match provider with
  | prometheus client => client.isOnline surroundings.network
  | datadog client => client.isOnline surroundings.network
  | cloudwatch client => CloudWatch.isOnline (surroundings.service client)

/-- The HTTP request of a query, if the backend is asked over HTTP and a request can be built. -/
def queryRequest? (provider : Provider) (now : Int) (query : String) : Option Http.Request :=
  match provider with
  | prometheus client => client.queryRequest? query
  | datadog client => client.queryRequest? now query
  | cloudwatch _ => none

/-- The HTTP request of a health check, if the backend is asked over HTTP and a request can be
built. -/
def onlineRequest? (provider : Provider) : Option Http.Request :=
  match provider with
  | prometheus client => client.queryRequest? Prometheus.onlineQuery
  | datadog client => client.validateRequest?
  | cloudwatch _ => none

end Provider

end MetricProbe
