import MetricProbe.Json.Complaint
import MetricProbe.Text.Utf8

/-!
# Reading JSON

A reader takes what it needs from the front of a text and either gives a value and what is left,
or stops with a complaint. Places are counted in bytes from the end of the text, so a reader needs
to know nothing about what came before its cursor.

A complaint about the shape of a record has no place of its own when it arises: it is placed where
the reader of the enclosing brackets stands after it has looked for their end. `closeObject` and
`closeArray` say where that is.

This module holds the cursor operations and the punctuation; values are read in the modules above.
-/

namespace MetricProbe.Json

/-- How many bytes a text takes. -/
def byteCount (text : List Char) : Nat :=
  text.foldr (fun c total => c.utf8Size + total) 0

/-- Why a reader stopped. -/
inductive Stop where
  /-- A complaint with its place, given as the number of bytes that follow it. -/
  | placed (complaint : Complaint) (remaining : Nat)
  /-- A complaint that is still to be placed, and the text at which it arose. -/
  | floating (complaint : Complaint) (rest : List Char)
  deriving DecidableEq, Repr

/-- A reader of values from the front of a text. -/
def Reader (α : Type) : Type := List Char → Except Stop (α × List Char)

namespace Reader

/-- Gives a value and takes nothing. -/
def give {α : Type} (value : α) : Reader α := fun rest => .ok (value, rest)

/-- Reads one thing, and then what depends on it. -/
def andThen {α β : Type} (first : Reader α) (next : α → Reader β) : Reader β := fun text =>
  match first text with
  | .error stop => .error stop
  | .ok (value, rest) => next value rest

instance : Monad Reader where
  pure := give
  bind := andThen

/-- Stops at the cursor, before the next byte. -/
def stopHere {α : Type} (complaint : Complaint) : Reader α := fun rest =>
  .error (.placed complaint (byteCount rest))

/-- Stops at the byte under the cursor, and counts that byte; at the end of the text there is none
to count. -/
def stopAtNext {α : Type} (complaint : Complaint) : Reader α := fun rest =>
  .error (.placed complaint (byteCount rest - 1))

/-- Stops with a complaint that the enclosing brackets will place. -/
def stopFloating {α : Type} (complaint : Complaint) : Reader α := fun rest =>
  .error (.floating complaint rest)

/-- The text at the cursor, which is not taken. -/
def look : Reader (List Char) := fun rest => .ok (rest, rest)

/-- Moves the cursor to the given text. -/
def moveTo (rest : List Char) : Reader Unit := fun _ => .ok ((), rest)

/-- A result is given exactly when both parts give theirs. -/
theorem bind_eq_ok {α β : Type} {first : Reader α} {next : α → Reader β} {text rest : List Char}
    {value : β} :
    (first >>= next) text = .ok (value, rest) ↔
      ∃ middle between, first text = .ok (middle, between) ∧
        next middle between = .ok (value, rest) := by
  show andThen first next text = _ ↔ _
  unfold andThen
  split
  · rename_i stop stopped
    simp [stopped]
  · rename_i middle between reached
    simp only [reached, Except.ok.injEq, Prod.mk.injEq]
    constructor
    · exact fun given => ⟨middle, between, ⟨rfl, rfl⟩, given⟩
    · rintro ⟨_, _, ⟨rfl, rfl⟩, given⟩
      exact given

end Reader

open Reader

/-- A character that may stand between the tokens of a text. -/
def isSpace (c : Char) : Bool := c == ' ' || c == '\n' || c == '\t' || c == '\r'

/-- Takes the space before a token. -/
def skipSpace : Reader Unit := fun text => .ok ((), text.dropWhile isSpace)

/-- Takes the space before a value, which must be there. -/
def toValue : Reader Unit := do
  skipSpace
  match ← look with
  | [] => stopAtNext .endInValue
  | _ => pure ()

/-- Takes the remaining letters of a word such as `true`. -/
def word : List Char → Reader Unit
  | [] => pure ()
  | expected :: more => do
    match ← look with
    | [] => stopHere .endInValue
    | c :: rest =>
      if c = expected then do
        moveTo rest
        word more
      else stopAtNext .expectedWord

/-- Takes the colon after a key. -/
def colon : Reader Unit := do
  skipSpace
  match ← look with
  | ':' :: rest => moveTo rest
  | [] => stopAtNext .endInObject
  | _ => stopAtNext .expectedColon

/-- Moves to the next element of an array, if there is one. The first has no comma before it. -/
def nextElement (first : Bool) : Reader Bool := do
  skipSpace
  match ← look with
  | [] => stopAtNext .endInArray
  | ']' :: _ => pure false
  | c :: rest =>
    if first then pure true
    else if c = ',' then do
      moveTo rest
      skipSpace
      match ← look with
      | ']' :: _ => stopAtNext .trailingComma
      | [] => stopAtNext .endInValue
      | _ => pure true
    else stopAtNext .expectedArrayDivider

/-- Moves into the key of the next member of an object, behind its opening quote, if there is a
member. The first has no comma before it. -/
def nextKey (first : Bool) : Reader Bool := do
  skipSpace
  match ← look with
  | [] => stopAtNext .endInObject
  | '\x7d' :: _ => pure false
  | c :: rest =>
    if first then
      if c = '"' then do
        moveTo rest
        pure true
      else stopAtNext .keyNotText
    else if c = ',' then do
      moveTo rest
      skipSpace
      match ← look with
      | '"' :: rest => do
        moveTo rest
        pure true
      | '\x7d' :: _ => stopAtNext .trailingComma
      | [] => stopAtNext .endInValue
      | _ => stopAtNext .keyNotText
    else stopAtNext .expectedObjectDivider

/-- Takes the end of an array. -/
def endArray : Reader Unit := do
  skipSpace
  match ← look with
  | ']' :: rest => moveTo rest
  | [] => stopAtNext .endInArray
  | ',' :: rest => do
    moveTo rest
    skipSpace
    match ← look with
    | ']' :: _ => stopAtNext .trailingComma
    | _ => stopAtNext .trailingText
  | _ => stopAtNext .trailingText

/-- Takes the end of an object. -/
def endObject : Reader Unit := do
  skipSpace
  match ← look with
  | '\x7d' :: rest => moveTo rest
  | [] => stopAtNext .endInObject
  | ',' :: _ => stopAtNext .trailingComma
  | _ => stopAtNext .trailingText

/-- Where the reader of an object stands after it has looked for the end of the object. -/
def closeObject (text : List Char) : List Char :=
  match text.dropWhile isSpace with
  | '\x7d' :: rest => rest
  | rest => rest

/-- Where the reader of an array stands after it has looked for the end of the array. -/
def closeArray (text : List Char) : List Char :=
  match text.dropWhile isSpace with
  | ']' :: rest => rest
  | ',' :: rest => rest.dropWhile isSpace
  | rest => rest

/-- Gives a complaint the place that the enclosing brackets determine. -/
def Stop.place (close : List Char → List Char) : Stop → Stop
  | .floating complaint rest => .placed complaint (byteCount (close rest))
  | stop => stop

/-- Reads the inside of brackets and then their end. -/
def bracketed {α : Type} (close : List Char → List Char) (finish : Reader Unit)
    (inside : Reader α) : Reader α := fun text =>
  match inside text with
  | .error stop => .error (stop.place close)
  | .ok (value, rest) =>
    match finish rest with
    | .error stop => .error stop
    | .ok (_, rest) => .ok (value, rest)

/-- How many arrays and objects may be open at once, plus one. -/
def depthLimit : Nat := 128

/-- Enters a bracket at the cursor and reads what is inside, one level deeper. -/
def enter {α : Type} (depth : Nat) (inside : Nat → Reader α) : Reader α := do
  match ← look with
  | [] => stopAtNext .endInValue
  | _ :: rest =>
    if depth ≤ 1 then stopAtNext .tooDeep
    else do
      moveTo rest
      inside (depth - 1)

end MetricProbe.Json
