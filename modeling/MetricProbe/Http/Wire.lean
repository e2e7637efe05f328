import MetricProbe.Http.Exchange
import MetricProbe.Text.Hex

/-!
# Requests and answers as bytes

A request is sent as the lines of its head, and asks for the connection to be closed. An answer is
read from the bytes that came so far: it may be complete, or more must come. Where the head names
no length the answer ends with the connection.
-/

namespace MetricProbe.Http

/-- A line end of a head. -/
def lineBreak : String := "\r\n"

/-- The place that a request asks for at its host. -/
def Request.target (request : Request) : String :=
  String.ofList (request.url.path ++
    match request.url.query with
    | some query => '?' :: query
    | none => [])

/-- The host of a request, with its port if that is not the scheme's own. -/
def Request.authority (request : Request) : String :=
  request.url.host ++ (request.url.port.elim "" fun port => s!":{port}")

/-- The bytes that carry a request. -/
def Request.wire (request : Request) : Bytes :=
  let own := request.headers.map fun header =>
    header.1 ++ ": " ++ String.ofList (Text.trim header.2.toList)
  let lines := s!"GET {request.target} HTTP/1.1" :: s!"host: {request.authority}" ::
    "accept: */*" :: "connection: close" :: own
  Utf8.encode (String.join (lines.map (· ++ lineBreak)) ++ lineBreak)

/-- What stands before and after the first place where a piece occurs. -/
def splitAround? (piece : Bytes) : Bytes → Option (Bytes × Bytes)
  | [] => if piece.isEmpty then some ([], []) else none
  | byte :: rest =>
    if piece.isPrefixOf (byte :: rest) then some ([], (byte :: rest).drop piece.length)
    else (splitAround? piece rest).map fun (before, after) => (byte :: before, after)

/-- The head of an answer: its status, and its fields with their names in lower case. -/
structure Head where
  status : Nat
  fields : List (String × String)
  deriving DecidableEq, Repr

/-- The number that decimal digits stand for. -/
def decimal? (text : List Char) : Option Nat :=
  if text.isEmpty || !text.all Char.isDigit then none else some (Nat.ofDigitChars 10 text 0)

/-- A field of a head. -/
def readField (line : List Char) : Option (String × String) :=
  (Text.splitFirst? (· == ':') line).map fun (name, value) =>
    (String.ofList (name.map Char.toLower), String.ofList (Text.trim value))

/-- The head that a text stands for. -/
def Head.read? (text : String) : Option Head :=
  match (Text.splitAll (· == '\n') text.toList).map Text.trim with
  | [] => none
  | first :: rest =>
    match Text.splitAll (· == ' ') first with
    | version :: status :: _ =>
      if Text.startsWith "HTTP/".toList version then
        (decimal? status).map fun status => ⟨status, rest.filterMap readField⟩
      else none
    | _ => none

/-- What has come of an answer. -/
inductive Progress where
  | complete (status : Nat) (body : Bytes)
  | incomplete
  | malformed
  deriving DecidableEq, Repr

/-- The pieces of a body that is sent in chunks, up to an empty one. Every chunk takes bytes, so
their number is enough fuel. -/
def readChunks : Nat → Bytes → Option Bytes
  | 0, _ => none
  | fuel + 1, data => do
    let (size, rest) ← splitAround? (Utf8.encode lineBreak) data
    let digits := (Text.trim (Utf8.decodeLossy size).toList).takeWhile (· != ';')
    let length ← if digits.isEmpty then none else Url.valueInBase? 16 digits
    if length = 0 then some []
    else if rest.length < length + 2 then none
    else (readChunks fuel (rest.drop (length + 2))).map (rest.take length ++ ·)

/-- Statuses whose answers have no body. -/
def hasNoBody (status : Nat) : Bool := status == 204 || status == 304

/-- The body of an answer, from the bytes behind its head. -/
def Head.body (head : Head) (closed : Bool) (data : Bytes) : Progress :=
  let orMore (body : Option Bytes) : Progress :=
    match body with
    | some body => .complete head.status body
    | none => if closed then .malformed else .incomplete
  if hasNoBody head.status then .complete head.status []
  else if head.fields.lookup "transfer-encoding" = some "chunked" then
    orMore (readChunks (data.length + 1) data)
  else
    match head.fields.lookup "content-length" with
    | some length =>
      match decimal? length.toList with
      | some length => orMore (if data.length < length then none else some (data.take length))
      | none => .malformed
    | none => if closed then .complete head.status data else .incomplete

/-- The answer that bytes stand for, given whether the connection is closed. -/
def readAnswer (closed : Bool) (data : Bytes) : Progress :=
  match splitAround? (Utf8.encode (lineBreak ++ lineBreak)) data with
  | none => if closed then .malformed else .incomplete
  | some (head, rest) =>
    match Head.read? (Utf8.decodeLossy head) with
    | none => .malformed
    | some head => head.body closed rest

/-- The delivery of an answer. -/
def Progress.delivery : Progress → Delivery
  | complete status body => .answered status body
  | incomplete => .dropped
  | malformed => .dropped

/-- The bytes of an answer. -/
def writeAnswer (status : Nat) (body : String) : Bytes :=
  let data := Utf8.encode body
  Utf8.encode (s!"HTTP/1.1 {status}" ++ " " ++ lineBreak ++
    "content-type: text/plain; charset=utf-8" ++ lineBreak ++
    s!"content-length: {data.length}" ++ lineBreak ++
    "connection: close" ++ lineBreak ++ lineBreak) ++ data

/-- The method and the path of a request, from its first line. -/
def readRequestLine (text : String) : Option (String × String) :=
  match Text.splitAll (· == ' ') (text.toList.takeWhile fun c => c != '\r' && c != '\n') with
  | [method, target, _] =>
    some (String.ofList method, String.ofList (target.takeWhile (· != '?')))
  | _ => none

end MetricProbe.Http
