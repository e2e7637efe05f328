import MetricProbe.Json.Record

/-!
# Whole JSON texts

A text holds exactly one value, with nothing but space around it. A fault is reported with its line
and its column, both counted in the bytes of the text: the line is one more than the line feeds
before the place, and the column is the number of bytes on that line up to it.
-/

namespace MetricProbe.Json

open Reader

/-- A complaint and its place in the text. -/
structure Fault where
  complaint : Complaint
  line : Nat
  column : Nat
  deriving DecidableEq, Repr

/-- The wording of a fault. -/
def Fault.message (fault : Fault) : String :=
  s!"{fault.complaint.message} at line {fault.line} column {fault.column}"

/-- The line feed. -/
def lineFeed : UInt8 := 10

/-- The line and the column that the end of the given bytes has. -/
def placeAfter (bytes : Bytes) : Nat × Nat :=
  (1 + bytes.count lineFeed, (bytes.reverse.takeWhile (· != lineFeed)).length)

/-- The fault of a text at a place given by how many bytes follow it. -/
def faultAt (whole : List Char) (complaint : Complaint) (remaining : Nat) : Fault :=
  let bytes := Utf8.encodeChars whole
  let (line, column) := placeAfter (bytes.take (bytes.length - remaining))
  ⟨complaint, line, column⟩

/-- The fault of a text at which a reader stopped. -/
def Stop.fault (whole : List Char) : Stop → Fault
  | .placed complaint remaining => faultAt whole complaint remaining
  | .floating complaint rest => faultAt whole complaint (byteCount rest)

/-- Reads a value and nothing after it but space. -/
def document {α : Type} (value : Nat → Reader α) : Reader α := do
  let value ← value depthLimit
  skipSpace
  match ← look with
  | [] => pure value
  | _ => stopAtNext .trailingText

/-- The value of a text. -/
def decode {α : Type} (value : Nat → Reader α) (whole : String) : Except Fault α :=
  match document value whole.toList with
  | .ok (value, _) => .ok value
  | .error stop => .error (stop.fault whole.toList)

end MetricProbe.Json
