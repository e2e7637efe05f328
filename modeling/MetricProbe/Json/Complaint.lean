import MetricProbe.Decimal.Layout
import MetricProbe.Text.Quoted

/-!
# What can be wrong with a JSON text

A complaint names one fault, in the syntax of a text or in its fit to the expected shape. Where in
the text the fault lies is not part of the complaint; the reader keeps that apart.
-/

namespace MetricProbe.Json

/-- What stands at a place where something else was expected. -/
inductive Found where
  | null
  | boolean (value : Bool)
  | integer (value : Int)
  | float (value : Binary64)
  | text (value : String)
  | array
  | object
  deriving DecidableEq, Repr

/-- A description of what was found. Texts are quoted. -/
def Found.describe : Found → String
  | null => "null"
  | boolean value => s!"boolean `{value}`"
  | integer value => s!"integer `{value}`"
  | float value => s!"floating point `{Decimal.jsonLayout.write value}`"
  | text value => s!"string {Text.quote value}"
  | array => "sequence"
  | object => "map"

/-- A fault of a JSON text. -/
inductive Complaint where
  | endInValue
  | endInText
  | endInArray
  | endInObject
  | expectedValue
  | expectedWord
  | expectedColon
  | expectedArrayDivider
  | expectedObjectDivider
  | keyNotText
  | trailingComma
  | trailingText
  | badNumber
  | numberOutOfRange
  | badEscape
  | endInEscape
  | loneSurrogate
  | controlCharacter
  | tooDeep
  /-- A value of another kind than the expected one. -/
  | wrongType (found : Found) (expected : String)
  /-- A value of the expected kind, but outside its range. -/
  | wrongValue (found : Found) (expected : String)
  /-- A record without a member that it needs. -/
  | missingField (name : String)
  /-- A record with a member that it already has. -/
  | duplicateField (name : String)
  /-- An array too short for the record it stands for. -/
  | wrongLength (length : Nat) (record : String) (fields : Nat)
  /-- A value that fits none of the alternatives of a type. -/
  | noVariant (name : String)
  deriving DecidableEq, Repr

/-- The wording of a complaint. -/
def Complaint.message : Complaint → String
  | endInValue => "EOF while parsing a value"
  | endInText => "EOF while parsing a string"
  | endInArray => "EOF while parsing a list"
  | endInObject => "EOF while parsing an object"
  | expectedValue => "expected value"
  | expectedWord => "expected ident"
  | expectedColon => "expected `:`"
  | expectedArrayDivider => "expected `,` or `]`"
  | expectedObjectDivider => "expected `,` or `\x7d`"
  | keyNotText => "key must be a string"
  | trailingComma => "trailing comma"
  | trailingText => "trailing characters"
  | badNumber => "invalid number"
  | numberOutOfRange => "number out of range"
  | badEscape => "invalid escape"
  | endInEscape => "unexpected end of hex escape"
  | loneSurrogate => "lone leading surrogate in hex escape"
  | controlCharacter => "control character (\\u0000-\\u001F) found while parsing a string"
  | tooDeep => "recursion limit exceeded"
  | wrongType found expected => s!"invalid type: {found.describe}, expected {expected}"
  | wrongValue found expected => s!"invalid value: {found.describe}, expected {expected}"
  | missingField name => s!"missing field `{name}`"
  | duplicateField name => s!"duplicate field `{name}`"
  | wrongLength length record fields =>
    s!"invalid length {length}, expected struct {record} with {fields} " ++
      (if fields = 1 then "element" else "elements")
  | noVariant name => s!"data did not match any variant of untagged enum {name}"

end MetricProbe.Json
