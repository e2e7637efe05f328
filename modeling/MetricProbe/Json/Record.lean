import MetricProbe.Json.Skip

/-!
# Values of a known shape

Readers for scalars, arrays, optional values and records. A record is written as an object, or as
an array of its fields in order. In an object unknown members are ignored and a known member may
stand only once, under any of its names; in an array the fields at the end that have a default may
be left out.

A record is described by its fields over a draft, which starts empty and is filled as the members
come; the description says nothing about how the text is traversed.
-/

namespace MetricProbe.Json

open Reader
open Decimal (isDigit)

/-- Names the value at the cursor. A scalar is taken whole, and a bracket is not taken. -/
def found : Reader Found := do
  match ← look with
  | 'n' :: rest => do
    moveTo rest
    word ['u', 'l', 'l']
    pure .null
  | 't' :: rest => do
    moveTo rest
    word ['r', 'u', 'e']
    pure (.boolean true)
  | 'f' :: rest => do
    moveTo rest
    word ['a', 'l', 's', 'e']
    pure (.boolean false)
  | '"' :: rest => do
    moveTo rest
    let value ← textTail
    pure (.text value)
  | '[' :: _ => pure .array
  | '\x7b' :: _ => pure .object
  | c :: _ =>
    if beginsNumber c then do
      let value ← number
      pure value.found
    else stopAtNext .expectedValue
  | [] => stopAtNext .expectedValue

/-- Stops because the value at the cursor is of another kind than the expected one. -/
def wrongType {α : Type} (expected : String) : Reader α := do
  let value ← found
  stopHere (.wrongType value expected)

/-- Reads a text. -/
def text : Reader String := do
  toValue
  match ← look with
  | '"' :: rest => do
    moveTo rest
    textTail
  | _ => wrongType "a string"

/-- Reads a boolean. -/
def boolean : Reader Bool := do
  toValue
  match ← look with
  | 't' :: rest => do
    moveTo rest
    word ['r', 'u', 'e']
    pure true
  | 'f' :: rest => do
    moveTo rest
    word ['a', 'l', 's', 'e']
    pure false
  | _ => wrongType "a boolean"

/-- Reads a number as floating point. -/
def float : Reader Binary64 := do
  toValue
  match ← look with
  | c :: _ =>
    if beginsNumber c then do
      let value ← number
      pure value.toBinary64
    else wrongType "f64"
  | [] => wrongType "f64"

/-- Whether an integer fits in 32 bits with a sign. -/
def fitsInt32 (value : Int) : Bool := -(twoPow 31 : Int) ≤ value && value < (twoPow 31 : Int)

/-- Reads an integer of 32 bits with a sign. -/
def int32 : Reader Int := do
  toValue
  match ← look with
  | c :: _ =>
    if beginsNumber c then do
      match ← number with
      | .integer value =>
        if fitsInt32 value then pure value
        else stopHere (.wrongValue (.integer value) "i32")
      | .float value => stopHere (.wrongType (.float value) "i32")
    else wrongType "i32"
  | [] => wrongType "i32"

/-- Reads a value that may also be null. -/
def optional {α : Type} (value : Reader α) : Reader (Option α) := do
  skipSpace
  match ← look with
  | 'n' :: rest => do
    moveTo rest
    word ['u', 'l', 'l']
    pure none
  | _ => do
    let value ← value
    pure (some value)

/-- Reads the elements of an array up to its end. -/
def elements {α : Type} (element : Reader α) : Nat → Bool → Reader (List α)
  | 0, _ => stopAtNext .endInArray
  | fuel + 1, first => do
    if ← nextElement first then do
      let head ← element
      let tail ← elements element fuel false
      pure (head :: tail)
    else pure []

/-- Reads the elements of an array up to its end. Every element takes a character, so the length of
the text is enough fuel. -/
def allElements {α : Type} (element : Reader α) : Reader (List α) := fun text =>
  elements element (text.length + 1) true text

/-- Reads an array at a given depth. -/
def array {α : Type} (element : Nat → Reader α) (depth : Nat) : Reader (List α) := do
  toValue
  match ← look with
  | '[' :: _ =>
    enter depth fun depth => bracketed closeArray endArray (allElements (element depth))
  | _ => wrongType "a sequence"

/-- Reads an array, which is empty if null stands for it. -/
def arrayOrNull {α : Type} (element : Nat → Reader α) (depth : Nat) : Reader (List α) := do
  let value ← optional (array element depth)
  pure (value.getD [])

/-- A field of a record over a draft. -/
structure Field (draft : Type) where
  /-- The name under which complaints speak of the field. -/
  name : String
  /-- A second name that is accepted. -/
  otherName : Option String
  /-- Whether a record must have the field. -/
  required : Bool
  /-- Whether the draft has the field. -/
  filled : draft → Bool
  /-- Reads the value of the field into the draft. -/
  fill : Nat → draft → Reader draft

/-- Whether a key names the field. -/
def Field.answersTo {draft : Type} (field : Field draft) (key : String) : Bool :=
  key == field.name || field.otherName == some key

/-- A kind of record: its name, its fields in order, and what a filled draft stands for. -/
structure Record (draft value : Type) where
  name : String
  fields : List (Field draft)
  empty : draft
  /-- The value of a draft, or the name of the first required field that it lacks. -/
  finish : draft → Except String value

namespace Record

variable {draft value : Type} (record : Record draft value)

/-- The field that a key names, if it names one. It must not be filled yet. -/
def fieldFor (state : draft) (key : String) : Reader (Option (Field draft)) :=
  match record.fields.find? (·.answersTo key) with
  | some field =>
    if field.filled state then stopFloating (.duplicateField field.name) else pure (some field)
  | none => pure none

/-- Reads the value of a member into its field; without a field the value is skipped. -/
def fillOrSkip (depth : Nat) (state : draft) : Option (Field draft) → Reader draft
  | some field => field.fill depth state
  | none => do
    skip
    pure state

/-- Reads a member of an object behind the opening quote of its key. -/
def member (depth : Nat) (state : draft) : Reader draft := do
  let key ← textTail
  let field ← record.fieldFor state key
  colon
  fillOrSkip depth state field

/-- Reads the members of an object up to its end. -/
def members (depth : Nat) : Nat → Bool → draft → Reader draft
  | 0, _, _ => stopAtNext .endInObject
  | fuel + 1, first, state => do
    if ← nextKey first then do
      let state ← record.member depth state
      members depth fuel false state
    else pure state

/-- Reads the value of an object up to its end. -/
def ofObject (depth : Nat) : Reader value := fun text =>
  (record.members depth (text.length + 1) true record.empty >>= fun state =>
    match record.finish state with
    | .ok value => pure value
    | .error name => stopFloating (.missingField name)) text

/-- Reads the fields of a record from an array. -/
def elements (depth : Nat) : List (Field draft) → Nat → Bool → draft → Reader draft
  | [], _, _, state => pure state
  | field :: fields, index, first, state => do
    if ← nextElement first then do
      let state ← field.fill depth state
      elements depth fields (index + 1) false state
    else if field.required then
      stopFloating (.wrongLength index record.name record.fields.length)
    else elements depth fields (index + 1) first state

/-- Reads the value of an array that stands for the record. -/
def ofArray (depth : Nat) : Reader value := do
  let state ← record.elements depth record.fields 0 true record.empty
  match record.finish state with
  | .ok value => pure value
  | .error name => stopFloating (.missingField name)

/-- Reads a record at a given depth. -/
def read (depth : Nat) : Reader value := do
  toValue
  match ← look with
  | '\x7b' :: _ => enter depth fun depth => bracketed closeObject endObject (record.ofObject depth)
  | '[' :: _ => enter depth fun depth => bracketed closeArray endArray (record.ofArray depth)
  | _ => wrongType s!"struct {record.name}"

end Record

end MetricProbe.Json
