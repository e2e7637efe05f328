import MetricProbe.Decimal.Layout
import MetricProbe.Text.Quoted
import MetricProbe.Toml.Value

/-!
# Fitting values to records

A record is written as a table, or as an array of its fields in order. In a table the entries are
fitted in the order in which they were written, and names that the record does not have are ignored;
only then is a field that must be there missed. In an array the fields at the end that have a
default may be left out, and what is too much is ignored.

A moment is seen as a table of one entry, which holds its text.
-/

namespace MetricProbe.Config

open Toml (Value Table)

/-- What stands where something else is expected. -/
inductive Found where
  | integer (value : Int)
  | float (value : Binary64)
  | boolean (value : Bool)
  | text (value : String)
  | sequence
  | map
  deriving DecidableEq, Repr

/-- The wording of what was found. -/
def Found.message : Found → String
  | integer value => s!"integer `{value}`"
  | float value => "floating point `" ++ Decimal.settingLayout.write value ++ "`"
  | boolean value => s!"boolean `{value}`"
  | text value => "string " ++ Text.quote value
  | sequence => "sequence"
  | map => "map"

/-- What a value is found to be. -/
def Found.ofValue : Value → Found
  | .text value => text value
  | .integer value => integer value
  | .float value => float value
  | .boolean value => boolean value
  | .moment _ => map
  | .array _ => sequence
  | .table _ => map

/-- Why a document does not fit. -/
inductive Misfit where
  /-- A value is of another kind than the expected one. -/
  | wrongType (found : Found) (expected : String)
  /-- A table lacks a field. -/
  | missingField (name : String)
  /-- An array lacks fields of a record: the number of those that it has, the name of the record,
  and the number of its fields. -/
  | tooShort (length : Nat) (record : String) (fields : Nat)
  deriving DecidableEq, Repr

/-- The wording of a misfit. -/
def Misfit.message : Misfit → String
  | wrongType found expected => s!"invalid type: {found.message}, expected {expected}"
  | missingField name => s!"missing field `{name}`"
  | tooShort length record fields =>
    s!"invalid length {length}, expected struct {record} with {fields} elements"

/-- The outcome of fitting a value. -/
abbrev Fitted (α : Type) := Except Misfit α

/-- The misfit of a value where another kind is expected. -/
def wrongType {α : Type} (expected : String) (value : Value) : Fitted α :=
  .error (.wrongType (.ofValue value) expected)

/-- The name of the entry under which a moment holds its text. -/
def momentEntry : String := "$__toml_private_datetime"

/-- The entries of a value that is seen as a table. -/
def entriesOf? : Value → Option Table
  | .table entries => some entries
  | .moment moment => some [(momentEntry, .text moment.text)]
  | _ => none

/-- Fits a text. -/
def fitText : Value → Fitted String
  | .text value => .ok value
  | value => wrongType "a string" value

/-- Fits a truth value. -/
def fitBoolean : Value → Fitted Bool
  | .boolean value => .ok value
  | value => wrongType "a boolean" value

/-- Fits every element of an array. -/
def fitList {α : Type} (fit : Value → Fitted α) : Value → Fitted (List α)
  | .array items => items.mapM fit
  | value => wrongType "a sequence" value

/-- Fits a table of texts. -/
def fitTexts (value : Value) : Fitted (List (String × String)) :=
  match entriesOf? value with
  | some entries => entries.mapM fun (name, value) => (fitText value).map fun text => (name, text)
  | none => wrongType "a map" value

/-- A field of a record. -/
structure Field (record : Type) where
  name : String
  /-- Whether a record must have the field. -/
  required : Bool
  /-- The record with the value of the field. -/
  fill : Value → record → Fitted record

/-- A kind of record: its name, a record whose fields are all left out, and its fields in order. -/
structure Shape (record : Type) where
  name : String
  blank : record
  fields : List (Field record)

namespace Shape

variable {record : Type} (shape : Shape record)

/-- The record after one more entry. -/
def fillEntry (filled : record) (entry : String × Value) : Fitted record :=
  match shape.fields.find? (·.name == entry.1) with
  | some field => field.fill entry.2 filled
  | none => .ok filled

/-- The first field that a table must have and does not. -/
def missing? (entries : Table) : Option (Field record) :=
  shape.fields.find? fun field => field.required && (entries.lookup field.name).isNone

/-- Fits the entries of a table. -/
def fitEntries (entries : Table) : Fitted record := do
  let filled ← entries.foldlM shape.fillEntry shape.blank
  match shape.missing? entries with
  | some field => .error (.missingField field.name)
  | none => .ok filled

/-- Fits the elements of an array to the given fields, of which the first has the given place. -/
def fitItems (place : Nat) : List (Field record) → List Value → record → Fitted record
  | [], _, filled => .ok filled
  | field :: fields, item :: items, filled => do
    let filled ← field.fill item filled
    fitItems (place + 1) fields items filled
  | field :: fields, [], filled =>
    if field.required then .error (.tooShort place shape.name shape.fields.length)
    else fitItems (place + 1) fields [] filled

/-- Fits a record. -/
def fit (value : Value) : Fitted record :=
  match value, entriesOf? value with
  | .array items, _ => shape.fitItems 0 shape.fields items shape.blank
  | _, some entries => shape.fitEntries entries
  | _, none => wrongType s!"struct {shape.name}" value

end Shape

/-- A field that is read by a fit and written by a setter. -/
def field {record α : Type} (name : String) (required : Bool) (fit : Value → Fitted α)
    (write : α → record → record) : Field record where
  name := name
  required := required
  fill := fun value filled => (fit value).map fun value => write value filled

end MetricProbe.Config
