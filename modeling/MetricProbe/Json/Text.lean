import MetricProbe.Json.Reader
import MetricProbe.Text.Hex

/-!
# Texts in JSON

The characters of a text between its quotes. A code point above U+FFFF may be written as two
escapes, a leading and a trailing surrogate; a surrogate that stands alone is refused. Control
characters must be escaped.
-/

namespace MetricProbe.Json

open MetricProbe.Text (hexValue?)

/-- The value of four hexadecimal digits. -/
def hexUnit? (a b c d : Char) : Option Nat := do
  let a ← hexValue? a
  let b ← hexValue? b
  let c ← hexValue? c
  let d ← hexValue? d
  pure (((a * 16 + b) * 16 + c) * 16 + d)

/-- The character that a one-letter escape stands for. -/
def shortEscape? (c : Char) : Option Char :=
  if c = '"' then some '"'
  else if c = '\\' then some '\\'
  else if c = '/' then some '/'
  else if c = 'b' then some '\x08'
  else if c = 'f' then some '\x0c'
  else if c = 'n' then some '\n'
  else if c = 'r' then some '\r'
  else if c = 't' then some '\t'
  else none

/-- The complaint about four bytes, from the given text on, that are no four hexadecimal digits.
Four bytes are taken if there are as many. -/
def badUnit (text : List Char) : Stop :=
  if byteCount text < 4 then .placed .endInText 0 else .placed .badEscape (byteCount text - 4)

/-- A surrogate that is the second of a pair. -/
def isTrailing (unit : Nat) : Bool := 0xDC00 ≤ unit && unit ≤ 0xDFFF

/-- A surrogate that is the first of a pair. -/
def isLeading (unit : Nat) : Bool := 0xD800 ≤ unit && unit ≤ 0xDBFF

/-- A character that a text may not hold as it is. -/
def isControl (c : Char) : Bool := c.toNat < 0x20

/-- The characters of a text up to its closing quote, and what follows the quote. -/
def textBody : List Char → Except Stop (List Char × List Char)
  | [] => .error (.placed .endInText 0)
  | '"' :: rest => .ok ([], rest)
  | '\\' :: [] => .error (.placed .endInText 0)
  | '\\' :: 'u' :: a :: b :: c :: d :: rest =>
    match hexUnit? a b c d with
    | none => .error (badUnit (a :: b :: c :: d :: rest))
    | some unit =>
      if isTrailing unit then .error (.placed .loneSurrogate (byteCount rest))
      else if isLeading unit then
        match rest with
        | [] => .error (.placed .endInText 0)
        | '\\' :: [] => .error (.placed .endInText 0)
        | '\\' :: 'u' :: e :: f :: g :: h :: more =>
          match hexUnit? e f g h with
          | none => .error (badUnit (e :: f :: g :: h :: more))
          | some second =>
            if isTrailing second then
              (textBody more).map fun (tail, rest) =>
                (Char.ofNat (0x10000 + (unit - 0xD800) * 0x400 + (second - 0xDC00)) :: tail, rest)
            else .error (.placed .loneSurrogate (byteCount more))
        | '\\' :: 'u' :: more => .error (badUnit more)
        | '\\' :: more => .error (.placed .endInEscape (byteCount more - 1))
        | more => .error (.placed .endInEscape (byteCount more - 1))
      else
        (textBody rest).map fun (tail, rest) => (Char.ofNat unit :: tail, rest)
  | '\\' :: 'u' :: text => .error (badUnit text)
  | '\\' :: c :: rest =>
    match shortEscape? c with
    | none => .error (.placed .badEscape (byteCount (c :: rest) - 1))
    | some meant => (textBody rest).map fun (tail, rest) => (meant :: tail, rest)
  | c :: rest =>
    if isControl c then .error (.placed .controlCharacter (byteCount rest))
    else (textBody rest).map fun (tail, rest) => (c :: tail, rest)

/-- A text ends at a quote. -/
@[simp] theorem textBody_quote (rest : List Char) : textBody ('"' :: rest) = .ok ([], rest) := by
  rw [textBody]

/-- Reads a text behind its opening quote. -/
def textTail : Reader String := fun text =>
  (textBody text).map fun (value, rest) => (String.ofList value, rest)

/-- Takes a text behind its opening quote whose characters do not matter. Escapes are checked for
their form only, and a control character is refused before it is taken. -/
def skipTextTail : List Char → Except Stop (Unit × List Char)
  | [] => .error (.placed .endInText 0)
  | '"' :: rest => .ok ((), rest)
  | '\\' :: [] => .error (.placed .endInText 0)
  | '\\' :: 'u' :: a :: b :: c :: d :: rest =>
    match hexUnit? a b c d with
    | none => .error (badUnit (a :: b :: c :: d :: rest))
    | some _ => skipTextTail rest
  | '\\' :: 'u' :: text => .error (badUnit text)
  | '\\' :: c :: rest =>
    match shortEscape? c with
    | none => .error (.placed .badEscape (byteCount (c :: rest) - 1))
    | some _ => skipTextTail rest
  | c :: rest =>
    if isControl c then .error (.placed .controlCharacter (byteCount (c :: rest)))
    else skipTextTail rest

/-- A text whose characters do not matter ends at a quote, too. -/
@[simp] theorem skipTextTail_quote (rest : List Char) :
    skipTextTail ('"' :: rest) = .ok ((), rest) := by
  rw [skipTextTail]

end MetricProbe.Json
