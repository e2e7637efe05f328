import MetricProbe.CloudWatch.Reply
import MetricProbe.Http.Wire
import MetricProbe.Log.Line
import MetricProbe.Session.Output
import Std.Async.DNS
import Std.Async.Signal
import Std.Async.TCP
import Std.Async.Timer
import Std.Time.Format
import Std.Time.Zoned

/-!
# The program

The outer layer: it reads the environment and the file, asks the backends, waits, and prints. What
is asked, what the answers mean and what is printed is decided by a session.

A pass is run over a table of deliveries: the health checks are sent first, and then the queries of
the providers that are online. Requests travel over plain connections only, so an address that asks
for an encrypted one, and the service of CloudWatch, count as out of reach.
-/

namespace MetricProbe.Program

open Std.Async Std.Net
open MetricProbe.Session

/-- How long an answer may take, in milliseconds. -/
def requestTimeout : Nat := 5000

/-- What was asked so far, with what became of it and the seconds that it took. -/
abbrev Deliveries := List (Http.Request × Http.Delivery × Binary64)

/-- The bytes of a list as an array. -/
def packed (data : Bytes) : ByteArray := ⟨data.toArray⟩

/-- A socket address. -/
def socketAddress (address : IPAddr) (port : Nat) : SocketAddress :=
  match address with
  | .v4 address => .v4 ⟨address, port.toUInt16⟩
  | .v6 address => .v6 ⟨address, port.toUInt16⟩

/-- The addresses of a host. -/
def addressesOf (host : String) : Async (List IPAddr) := do
  let plain := String.ofList (host.toList.filter fun c => c != '[' && c != ']')
  let found ← DNS.getAddrInfo plain ""
  return found.toList

/-- Reads an answer until it is complete. -/
partial def receive (client : TCP.Socket.Client) (sofar : Bytes) : Async Http.Delivery := do
  match ← client.recv? 65536 with
  | none => return (Http.readAnswer true sofar).delivery
  | some data =>
    let sofar := sofar ++ data.toList
    match Http.readAnswer false sofar with
    | .incomplete => receive client sofar
    | answer => return answer.delivery

/-- Sends a request to the first of the addresses that accepts a connection. -/
def deliver (request : Http.Request) (port : Nat) : List IPAddr → Async Http.Delivery
  | [] => return .refused
  | address :: others => do
    let client ← TCP.Socket.Client.mk
    let connected ← try
        client.connect (socketAddress address port)
        pure true
      catch _ => pure false
    if !connected then deliver request port others
    else
      try
        client.send (packed request.wire)
        receive client []
      catch _ => return .dropped

/-- Sends a request and waits for its answer, but not too long. -/
def perform (request : Http.Request) : IO Http.Delivery := do
  if request.url.scheme = .https then return .refused
  let asked : Async (Option Http.Delivery) := do
    let addresses ← try addressesOf request.url.host catch _ => pure []
    let port := request.url.port.getD request.url.scheme.defaultPort
    return some (← deliver request port addresses)
  let late : Async (Option Http.Delivery) := do
    sleep (Std.Time.Millisecond.Offset.ofNat requestTimeout)
    return none
  return ((← (Async.race asked late).block).getD .silent)

/-- Asks what was not asked yet. -/
def ask (known : Deliveries) : Option Http.Request → IO Deliveries
  | none => return known
  | some request => do
    if (known.lookup request).isSome then return known
    let begun ← IO.monoNanosNow
    let delivery ← perform request
    let ended ← IO.monoNanosNow
    return (request, delivery, Binary64.ofRatio false (ended - begun) 1000000000) :: known

/-- What providers reach, given what was asked. -/
def surroundingsOf (known : Deliveries) (now : Int) : Surroundings where
  network := fun request => ((known.lookup request).map (·.1)).getD .refused
  now := now
  service := fun _ => CloudWatch.serviceOver fun _ => none

/-- The time that the answer to a query took, given what was asked. -/
def elapsedOf (known : Deliveries) (providers : List (String × Provider)) (now : Int)
    (query : String) : Binary64 :=
  (providers.findSome? fun entry =>
    ((entry.2.queryRequest? now query).bind fun request => known.lookup request).map
      (·.2)).getD Binary64.zero

/-- The seconds since the epoch. -/
def epochSeconds : IO Int := do
  return (← Std.Time.Timestamp.now).toSecondsSinceUnixEpoch.val

/-- Asks the backends everything that a pass asks. -/
def observe (providers : List (String × Provider)) (checks : List Probe.Check) :
    IO (Surroundings × (String → Binary64)) := do
  let now ← epochSeconds
  let mut known : Deliveries := []
  for entry in providers do
    known ← ask known entry.2.onlineRequest?
  let roster := rosterOf (surroundingsOf known now) (fun _ => Binary64.zero) providers
  let health := (Probe.askAll roster .empty).health
  for task in Probe.tasksFrom roster health 0 checks do
    match providers.lookup task.check.provider with
    | none => pure ()
    | some provider => known ← ask known (provider.queryRequest? now task.check.query)
  return (surroundingsOf known now, elapsedOf known providers now)

/-- The time as it is logged. -/
def timestamp : IO String := do
  let now ← Std.Time.Timestamp.now
  return toString (Std.Time.DateTime.ofTimestampWithZone now .UTC).toPlainDateTime ++ "Z"

/-- Prints the events that a filter lets through. -/
def printEvents (filter : Log.Filter) (events : List Log.Event) : IO Unit := do
  let output ← IO.getStdout
  for event in events do
    if filter.logs eventSource event then
      output.putStrLn (event.line eventSource (← timestamp))
  output.flush

/-- Reports why a session failed. -/
def fail (fault : Fault) : IO UInt32 := do
  (← IO.getStderr).putStrLn (report fault.chain)
  return 1

/-- The environment, as far as the given variables go. -/
def readEnvironment (names : List String) : IO Environment := do
  let found ← names.mapM fun name => do
    return (← IO.getEnv name).map fun value => (name, Utf8.encode value)
  return found.filterMap id

/-- The content of a file. -/
def readFile (path : String) : IO Config.FileContent := do
  try
    return .bytes (← IO.FS.readBinFile path).toList
  catch error =>
    match error with
    | .noFileOrDirectory .. => return .missing
    | .inappropriateType .. => return .directory
    | error => return .broken (toString error)

/-- Answers one scraper. -/
def answerScraper (registry : IO.Ref Telemetry.Registry) (client : TCP.Socket.Client) :
    Async Unit := do
  match ← client.recv? 65536 with
  | none => return
  | some data =>
    let counted ← registry.get
    let (status, lines) := match Http.readRequestLine (Utf8.decodeLossy data.toList) with
      | some (method, path) => counted.serve method path
      | none => (400, [])
    client.send (packed (Http.writeAnswer status (String.join (lines.map (· ++ "\n")))))
    client.shutdown

/-- Answers scrapers one after the other. -/
partial def serveScrapers (registry : IO.Ref Telemetry.Registry) (server : TCP.Socket.Server) :
    Async Unit := do
  let client ← server.accept
  try answerScraper registry client catch _ => pure ()
  serveScrapers registry server

/-- Serves the telemetry at an address. -/
def serveTelemetry (registry : IO.Ref Telemetry.Registry) (host : String) (port : Nat) :
    Async Unit := do
  match ← addressesOf host with
  | [] => throw (IO.userError "could not resolve to any addresses")
  | address :: _ =>
    let server ← TCP.Socket.Server.mk
    server.bind (socketAddress address port)
    server.listen 128
    serveScrapers registry server

/-- A world of one pass. -/
def worldOf (environment : Environment) (surroundings : Surroundings)
    (elapsed : String → Binary64) : World where
  environment := environment
  file := fun _ => .missing
  surroundings := fun _ => surroundings
  elapsed := fun _ => elapsed
  schedule := fun _ => .sequential
  passes := 1

/-- Waits for the given time, unless the program is interrupted. -/
def interruptedWithin (waiter : Signal.Waiter) (milliseconds : Nat) : IO Bool := do
  let wait : Async Bool := do
    let pause ← Selector.sleep (Std.Time.Millisecond.Offset.ofNat milliseconds)
    Selectable.one #[.case waiter.selector fun _ => return true,
      .case pause fun _ => return false]
  wait.block

/-- Makes passes until the program is interrupted. -/
partial def repeatPasses (filter : Log.Filter) (environment : Environment)
    (providers : List (String × Provider)) (config : Config) (registry : IO.Ref Telemetry.Registry)
    (waiter : Signal.Waiter) (period : Nat) : IO Unit := do
  let begun ← IO.monoMsNow
  let (surroundings, elapsed) ← observe providers config.checks
  let before : Transcript := ⟨[], none, [], [], ← registry.get⟩
  let after := before.addPass (worldOf environment surroundings elapsed) providers config.checks 0
  registry.set after.registry
  printEvents filter after.events
  let used := (← IO.monoMsNow) - begun
  if ← interruptedWithin waiter (max 1 (period - used)) then return
  repeatPasses filter environment providers config registry waiter period

/-- Runs a session that started. -/
def runStarted (filter : Log.Filter) (environment : Environment)
    (providers : List (String × Provider)) (config : Config) : IO UInt32 := do
  if config.probe.runOnce then
    let (surroundings, elapsed) ← observe providers config.checks
    let done := runOnce (worldOf environment surroundings elapsed) [] providers config.checks
    printEvents filter done.events
    match done.failure with
    | some fault => fail fault
    | none => return 0
  else
    let registry ← IO.mkRef Telemetry.Registry.empty
    printEvents filter (serverEvents config)
    if servesTelemetry config then
      match Telemetry.readBind config.metrics.bindAddress with
      | .error _ => pure ()
      | .ok (host, port) =>
        let served : Async Unit := do
          try serveTelemetry registry host port
          catch error => printEvents filter [serverFailedEvent (toString error)]
        let _ ← served.asTask
    let waiter ← Signal.Waiter.mk .sigint false
    let period := match Interval.read config.probe.interval with
      | .ok interval => max 1000 (interval.nanoseconds / 1000000)
      | .error _ => 1000
    repeatPasses filter environment providers config registry waiter period
    printEvents filter [interruptedEvent, finishedEvent]
    return 0

/-- Runs the program. -/
def run : IO UInt32 := do
  let environment ← readEnvironment [configVariable, filterVariable]
  let path := configPath environment
  match Config.load path (← readFile path) with
  | .error fault => fail (.config fault)
  | .ok config =>
    let secrets ← readEnvironment
      (config.providers.flatMap fun entry => entry.secrets.entries.map (·.2))
    let environment := environment ++ secrets
    let (filter, ignored) := filterOf environment config
    for line in ignored do (← IO.getStderr).putStrLn line
    let started := start path config environment
    printEvents filter started.events
    match started.providers with
    | .error fault => fail fault
    | .ok providers => runStarted filter environment providers config

end MetricProbe.Program

/-- The program. -/
def main : IO UInt32 := MetricProbe.Program.run
