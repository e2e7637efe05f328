import MetricProbe.Attempt
import MetricProbe.Http.Base64
import MetricProbe.Url.Basic

/-!
# Exchanges with a backend

A request is built or it is not, and one that is built is sent once. What becomes of it is a
`Delivery`; the backends and the network between are functions from requests to deliveries, and
nothing is said about how they come by their answers.
-/

namespace MetricProbe.Http

/-- A request for a document. The headers are those that identify the sender, in the order in which
they were added. -/
structure Request where
  url : Url
  headers : List (String × String)
  deriving DecidableEq, Repr

/-- What becomes of a request. -/
inductive Delivery where
  /-- The backend answered with a status and a body. -/
  | answered (status : Nat) (body : Bytes)
  /-- No connection was accepted, so the request never arrived. -/
  | refused
  /-- The request arrived, and the connection was closed without an answer. -/
  | dropped
  /-- The request arrived, and no answer came in time. -/
  | silent
  deriving DecidableEq, Repr

/-- Whether the request arrived. -/
def Delivery.arrived : Delivery → Bool
  | refused => false
  | _ => true

/-- Everything beyond the sender. -/
abbrev Network := Request → Delivery

/-- An answer: its status and the text of its body. -/
structure Reply where
  status : Nat
  body : String
  deriving DecidableEq, Repr

/-- The status of success. Every other one is a failure, also those of other kinds of success. -/
def successStatus : Nat := 200

/-- The body of an answer that reports success. -/
def Reply.success (reply : Reply) : Outcome String :=
  if reply.status = successStatus then .ok reply.body
  else .error (.errorResponse reply.status reply.body)

/-- The answer that a delivery brings. Bodies that are not UTF-8 are read lossily. -/
def Delivery.reply : Delivery → Outcome Reply
  | answered status body => .ok ⟨status, Utf8.decodeLossy body⟩
  | refused => .error (.transport .disconnected)
  | dropped => .error (.transport .disconnected)
  | silent => .error (.transport .timedOut)

/-- Sends a request, if it could be built, and reads the whole answer. -/
def exchange (network : Network) : Option Request → Attempt Request Reply
  | none => .ofOutcome (.error (.transport .unsendable))
  | some request => ⟨[request], (network request).reply⟩

/-- A call: sends a request, if it could be built, and reads the body of a successful answer. -/
def call {α : Type} (network : Network) (request? : Option Request) (read : String → Outcome α) :
    Attempt Request α := do
  let reply ← exchange network request?
  let body ← reply.success
  read body

/-- The requests that arrive when one is sent: at most one. -/
def arrivals (network : Network) (request? : Option Request) : List Request :=
  (exchange network request?).sent.filter fun request => (network request).arrived

/-- The name of the header that carries a login. -/
def authorization : String := "authorization"

/-- A login as the value of a header. -/
def basicAuth (user : String) (password : Option String) : String :=
  "Basic " ++ String.ofList (Base64.encode (Utf8.encode (user ++ ":" ++ password.getD "")))

/-- Whether a text may be the value of a header: it holds no control character but the tab. -/
def isHeaderValue (text : String) : Bool :=
  text.toList.all fun c => c == '\t' || !Url.isControl c

/-- A request for an address. A login within the address becomes a header. -/
def get? (address : String) : Option Request :=
  (Url.read? address).map fun (url, login) =>
    { url := url
      headers := match login with
        | some login => [(authorization, basicAuth login.user login.password)]
        | none => [] }

/-- A request with one more header, if the value may be one. -/
def Request.withHeader? (request : Request) (name value : String) : Option Request :=
  if isHeaderValue value then some { request with headers := request.headers ++ [(name, value)] }
  else none

/-- A request with further query parameters. -/
def Request.withQuery (request : Request) (pairs : List (String × String)) : Request :=
  { request with url := request.url.addQuery pairs }

end MetricProbe.Http
