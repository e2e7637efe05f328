import MetricProbe.Json.Number
import MetricProbe.Json.Text

/-!
# Values that do not matter

The value of an unknown member is taken without being kept. Only its syntax is checked: numbers may
be of any size, surrogates may stand alone, and brackets may be nested to any depth.
-/

namespace MetricProbe.Json

open Reader
open Decimal (isDigit)

/-- Takes an exponent behind its `e`. -/
def skipExponent : Reader Unit := do
  let _ ← exponentSign
  match ← look with
  | [] => stopHere .badNumber
  | c :: rest => if isDigit c then moveTo (rest.dropWhile isDigit) else stopAtNext .badNumber

/-- Takes an exponent, if there is one. -/
def skipOptionalExponent : Reader Unit := do
  match ← look with
  | c :: rest =>
    if c = 'e' ∨ c = 'E' then do
      moveTo rest
      skipExponent
    else pure ()
  | [] => pure ()

/-- Takes the whole digits of a number. -/
def skipWhole : Reader Unit := do
  match ← look with
  | [] => stopHere .badNumber
  | c :: rest =>
    if c = '0' then do
      moveTo rest
      match rest with
      | d :: _ => if isDigit d then stopAtNext .badNumber else pure ()
      | [] => pure ()
    else if isDigit c then moveTo (rest.dropWhile isDigit)
    else stopAtNext .badNumber

/-- Takes a fraction, if there is one. -/
def skipFraction : Reader Unit := do
  match ← look with
  | '.' :: text => do
    moveTo (text.dropWhile isDigit)
    if (text.takeWhile isDigit).isEmpty then stopAtNext .badNumber else pure ()
  | _ => pure ()

/-- Takes a number behind its sign. -/
def skipUnsigned : Reader Unit := do
  skipWhole
  skipFraction
  skipOptionalExponent

mutual

/-- Takes one value. -/
def skipValue : Nat → Reader Unit
  | 0 => stopAtNext .endInValue
  | fuel + 1 => do
    toValue
    match ← look with
    | 'n' :: rest => do
      moveTo rest
      word ['u', 'l', 'l']
    | 't' :: rest => do
      moveTo rest
      word ['r', 'u', 'e']
    | 'f' :: rest => do
      moveTo rest
      word ['a', 'l', 's', 'e']
    | '"' :: rest => do
      moveTo rest
      skipTextTail
    | '-' :: rest => do
      moveTo rest
      skipUnsigned
    | '[' :: rest => do
      moveTo rest
      skipSpace
      match ← look with
      | ']' :: rest => moveTo rest
      | [] => stopAtNext .endInArray
      | _ => skipElements fuel
    | '\x7b' :: rest => do
      moveTo rest
      skipSpace
      match ← look with
      | '\x7d' :: rest => moveTo rest
      | [] => stopAtNext .endInObject
      | _ => skipMembers fuel
    | c :: _ => if isDigit c then skipUnsigned else stopAtNext .expectedValue
    | [] => stopAtNext .endInValue

/-- Takes the elements of an array, of which there is at least one, and the end of the array. -/
def skipElements : Nat → Reader Unit
  | 0 => stopAtNext .endInArray
  | fuel + 1 => do
    skipValue fuel
    skipSpace
    match ← look with
    | ',' :: rest => do
      moveTo rest
      skipElements fuel
    | ']' :: rest => moveTo rest
    | [] => stopAtNext .endInArray
    | _ => stopAtNext .expectedArrayDivider

/-- Takes the members of an object, of which there is at least one, and the end of the object. -/
def skipMembers : Nat → Reader Unit
  | 0 => stopAtNext .endInObject
  | fuel + 1 => do
    skipSpace
    match ← look with
    | '"' :: rest => moveTo rest
    | [] => stopAtNext .endInObject
    | _ => stopAtNext .keyNotText
    skipTextTail
    colon
    skipValue fuel
    skipSpace
    match ← look with
    | ',' :: rest => do
      moveTo rest
      skipMembers fuel
    | '\x7d' :: rest => moveTo rest
    | [] => stopAtNext .endInObject
    | _ => stopAtNext .expectedObjectDivider

end

/-- Takes one value of any kind. Every step takes a character, so the length of the text is enough
fuel. -/
def skip : Reader Unit := fun text => skipValue (text.length + 1) text

end MetricProbe.Json
