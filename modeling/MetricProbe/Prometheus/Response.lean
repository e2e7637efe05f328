import MetricProbe.Decimal.Literal
import MetricProbe.Failure
import MetricProbe.Json.Document
import MetricProbe.Json.Tree

/-!
# Answers of Prometheus

An instant query is answered with a vector of samples or with a scalar, and which of the two it is
shows only in the shape of the result. A sample holds a pair of a timestamp and the text of a
value; a scalar is such a pair by itself. Only the last sample of a vector counts. A value that is
NaN means that there is no datapoint.
-/

namespace MetricProbe.Prometheus

open Json (Reader Record Tree)

/-- A timestamp in seconds and the text of a value. -/
structure Sample where
  time : Binary64
  value : String
  deriving DecidableEq, Repr

/-- The result of an instant query. -/
inductive Result where
  | vector (samples : List Sample)
  | scalar (sample : Sample)
  deriving DecidableEq, Repr

/-- The pair of a timestamp and a value. -/
def pair? : Tree → Option Sample
  | .array [.number time, .text value] => some ⟨time.toBinary64, value⟩
  | _ => none

/-- A sample of a vector: an object with one member `value`, or an array of that one field. -/
def sample? : Tree → Option Sample
  | .object members =>
    match members.filter (·.1 == "value") with
    | [(_, value)] => pair? value
    | _ => none
  | .array [value] => pair? value
  | _ => none

/-- The samples of a vector. -/
def vector? : Tree → Option (List Sample)
  | .array elements => elements.mapM sample?
  | _ => none

/-- The result that a value stands for. -/
def Result.ofTree? (tree : Tree) : Option Result :=
  match vector? tree with
  | some samples => some (.vector samples)
  | none => (pair? tree).map .scalar

/-- Reads a result at a given depth. -/
def Result.read (depth : Nat) : Reader Result := do
  let tree ← Json.tree depth
  match Result.ofTree? tree with
  | some result => pure result
  | none => Json.Reader.stopFloating (.noVariant "PrometheusResult")

/-- The data of an answer as they are written. -/
def dataRecord : Record (Option Result) Result where
  name := "PrometheusData"
  fields :=
    [{ name := "result"
       otherName := none
       required := true
       filled := fun draft => draft.isSome
       fill := fun depth _ => do
        let result ← Result.read depth
        pure (some result) }]
  empty := none
  finish := fun draft => draft.elim (.error "result") .ok

/-- An answer as it is written. -/
def responseRecord : Record (Option Result) Result where
  name := "PrometheusResponse"
  fields :=
    [{ name := "data"
       otherName := none
       required := true
       filled := fun draft => draft.isSome
       fill := fun depth _ => do
        let result ← dataRecord.read depth
        pure (some result) }]
  empty := none
  finish := fun draft => draft.elim (.error "data") .ok

/-- The text of the value that a result reports. -/
def Result.latest? : Result → Option String
  | .vector samples => samples.getLast?.map (·.value)
  | .scalar sample => some sample.value

/-- The value that the body of an answer reports. -/
def readResponse (body : String) : Outcome Binary64 :=
  match Json.decode responseRecord.read body with
  | .error fault => .error (.decode fault.message body)
  | .ok result =>
    match result.latest? with
    | none => .error (.noValues body)
    | some text =>
      match Decimal.readLiteral text with
      | .error fault => .error (.decode s!"invalid sample value '{text}': {fault.message}" body)
      | .ok .nan => .error (.noValues body)
      | .ok value => .ok value

end MetricProbe.Prometheus
