import MetricProbe.CloudWatch.Form
import MetricProbe.Decimal.Literal
import MetricProbe.Xml.Basic

/-!
# Answers of CloudWatch

An answer is a status and an XML document. A document with results counts only under a status of
success; an error document gives a code and perhaps a message. Every other answer, whatever its
status, is a refusal without a known reason: the service did answer, but nothing can be made of it.
-/

namespace MetricProbe.CloudWatch

/-- An answer of the service. -/
structure ServiceReply where
  status : Nat
  body : String
  deriving DecidableEq, Repr

/-- The value that a text in a document stands for. Infinities have a name of their own. -/
def readValue? (text : String) : Option Binary64 :=
  if text = "Infinity" then some (.infinite false)
  else if text = "-Infinity" then some (.infinite true)
  else if text = "NaN" then some .nan
  else
    match Decimal.readLiteral text with
    | .ok (.finite negative mantissa exponent) => some (.finite negative mantissa exponent)
    | _ => none

/-- The result that an element stands for. -/
def readResult? (node : Xml.Node) : Option Result := do
  let values ← match node.element? "Values" with
    | none => pure []
    | some values => (values.elements "member").mapM fun value => readValue? value.content
  pure ⟨(node.element? "Id").map (·.content), values⟩

/-- The results in the body of an answer. -/
def readResults? (body : String) : Option (List Result) := do
  match ← Xml.readDocument? body with
  | .element "GetMetricDataResponse" children =>
    let result ← (Xml.Node.element "" children).element? "GetMetricDataResult"
    match result.element? "MetricDataResults" with
    | none => pure []
    | some results => (results.elements "member").mapM readResult?
  | _ => none

/-- The code and the message in the body of an error. -/
def readError? (body : String) : Option (String × Option String) := do
  match ← Xml.readDocument? body with
  | .element "ErrorResponse" children =>
    let error ← (Xml.Node.element "" children).element? "Error"
    let code ← error.element? "Code"
    pure (code.content, (error.element? "Message").map (·.content))
  | _ => none

/-- The message of an answer that nothing can be made of. -/
def unrecognized : String := "unrecognized error response"

/-- The message of an error. -/
def errorMessage (body : String) : String :=
  match readError? body with
  | some (code, some message) => s!"{code}: {message}"
  | some (code, none) => code
  | none => unrecognized

/-- A status of success. -/
def isSuccess (status : Nat) : Bool := 200 ≤ status && status < 300

/-- The results of an answer, or the refusal that it is. -/
def ServiceReply.results (reply : ServiceReply) : Except ServiceFault (List Result) :=
  if isSuccess reply.status then
    match readResults? reply.body with
    | some results => .ok results
    | none => .error (.refused reply.status unrecognized)
  else .error (.refused reply.status (errorMessage reply.body))

/-- A service that is reached by sending forms; there may be no answer. -/
def serviceOver (send : Form → Option ServiceReply) : Service := fun call =>
  match send call.form with
  | none => .error (.unanswered "dispatch failure")
  | some reply => reply.results

/-- An element that holds nothing but a text. -/
def textElement (name value : String) : Xml.Node := .element name [.text value]

/-- The document of results, whose values are given as texts. -/
def writeResults (results : List (String × List String)) : String :=
  String.ofList <| Xml.Node.write <|
    .element "GetMetricDataResponse" [.element "GetMetricDataResult" [.element "MetricDataResults"
      (results.map fun (id, values) => .element "member"
        [textElement "Id" id, .element "Values" (values.map (textElement "member"))])]]

/-- The document of an error. -/
def writeError (code message : Option String) : String :=
  String.ofList <| Xml.Node.write <|
    .element "ErrorResponse" [.element "Error"
      ((code.map (textElement "Code")).toList ++ (message.map (textElement "Message")).toList)]

end MetricProbe.CloudWatch
