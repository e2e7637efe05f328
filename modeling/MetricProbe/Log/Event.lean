/-!
# Log events

What the program logs: a level and named fields, one of which is the message.
-/

namespace MetricProbe.Log

/-- How grave an event is. -/
inductive Level where
  | error
  | warn
  | info
  | debug
  | trace
  deriving DecidableEq, Repr

namespace Level

/-- The name of a level in the log. -/
def name : Level → String
  | error => "ERROR"
  | warn => "WARN"
  | info => "INFO"
  | debug => "DEBUG"
  | trace => "TRACE"

/-- The place of a level: the graver, the lower. -/
def rank : Level → Nat
  | error => 1
  | warn => 2
  | info => 3
  | debug => 4
  | trace => 5

end Level

/-- The value of a field. -/
inductive FieldValue where
  | text (value : String)
  | number (value : Nat)
  | flag (value : Bool)
  deriving DecidableEq, Repr

/-- An event. -/
structure Event where
  level : Level
  /-- The fields besides the message. -/
  fields : List (String × FieldValue)
  message : String
  deriving DecidableEq, Repr

/-- The name under which the message of an event stands. -/
def messageField : String := "message"

/-- All fields of an event. -/
def Event.allFields (event : Event) : List (String × FieldValue) :=
  event.fields ++ [(messageField, .text event.message)]

end MetricProbe.Log
