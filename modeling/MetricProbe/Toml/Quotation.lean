import MetricProbe.Toml.Scalar

/-!
# Quoted texts

A quoted text stands between marks: double ones, within which a backslash begins an escape, or
single ones, within which every character stands for itself. Three marks in a row open a text that
may run over several lines. A line end right after them is dropped, and up to two marks may stand
before the three that close the text.

In a text of several lines a backslash at the end of a line joins the line to the next character
that is not blank. A carriage return before a line feed is taken to be gone already; any other one
is a control character.

Reading is a machine that takes one character at a time, so it needs no bound but the text.
-/

namespace MetricProbe.Toml

/-- A character that may stand in a comment or in a quoted text: a tab, or no control character. -/
def isPlain (c : Char) : Bool :=
  c == '\t' || (0x20 ≤ c.toNat && c.toNat != 0x7F)

/-- A blank within a line. -/
def isSpace (c : Char) : Bool := c == ' ' || c == '\t'

/-- How a text is quoted. -/
structure Quotation where
  /-- The mark on both sides. -/
  mark : Char
  /-- Whether a backslash begins an escape. -/
  escapes : Bool
  /-- Whether the text may run over several lines. -/
  lines : Bool
  deriving DecidableEq, Repr

/-- What the machine has begun and not finished. -/
inductive Unfinished where
  /-- Nothing. -/
  | nothing
  /-- A backslash was read. -/
  | escape
  /-- A code point is being read: the value so far, and how many digits follow the next one. -/
  | codePoint (value more : Nat)
  /-- A backslash and blanks were read, so the line must end. -/
  | lineEnd
  /-- Blanks are dropped after a line that was joined. -/
  | joined
  deriving DecidableEq, Repr

/-- What an escape of one letter stands for. -/
def escaped? (c : Char) : Option Char :=
  if c = 'b' then some '\x08'
  else if c = 't' then some '\t'
  else if c = 'n' then some '\n'
  else if c = 'f' then some '\x0c'
  else if c = 'r' then some '\r'
  else if c = '"' then some '"'
  else if c = '\\' then some '\\'
  else none

/-- The character with a code point, if there is one. -/
def charAt? (value : Nat) : Option Char :=
  if _valid : value.isValidChar then some (Char.ofNat value) else none

namespace Quotation

/-- What a mark within the text does: it ends the text, or stands for itself. Of a text of several
lines the last three marks of a run are the end, and at most two before them belong to the text. -/
def ending? (quotation : Quotation) (text : List Char) : Option (List Char × List Char) :=
  if quotation.lines then
    let run := (text.takeWhile (· == quotation.mark)).length
    if run < 3 then none
    else
      let own := min (run - 3) 2
      some (List.replicate own quotation.mark, text.drop (own + 3))
  else some ([], text.drop 1)

/-- The characters of a text behind its opening, and what follows its end. -/
def read? (quotation : Quotation) : Unfinished → List Char → Option (List Char × List Char)
  | _, [] => none
  | .escape, c :: rest =>
    if c = 'u' then quotation.read? (.codePoint 0 3) rest
    else if c = 'U' then quotation.read? (.codePoint 0 7) rest
    else
      match escaped? c with
      | some meant => (quotation.read? .nothing rest).map fun (own, rest) => (meant :: own, rest)
      | none =>
        if quotation.lines && c == '\n' then quotation.read? .joined rest
        else if quotation.lines && isSpace c then quotation.read? .lineEnd rest
        else none
  | .codePoint value more, c :: rest =>
    match digitOf? c with
    | none => none
    | some digit =>
      let value := value * 16 + digit
      match more with
      | more + 1 => quotation.read? (.codePoint value more) rest
      | 0 =>
        match charAt? value with
        | some meant => (quotation.read? .nothing rest).map fun (own, rest) => (meant :: own, rest)
        | none => none
  | .lineEnd, c :: rest =>
    if c = '\n' then quotation.read? .joined rest
    else if isSpace c then quotation.read? .lineEnd rest
    else none
  | unfinished, c :: rest =>
    if unfinished = .joined ∧ (c = '\n' ∨ isSpace c) then quotation.read? .joined rest
    else if quotation.escapes && c == '\\' then quotation.read? .escape rest
    else
      match if c = quotation.mark then quotation.ending? (c :: rest) else none with
      | some ended => some ended
      | none =>
        if isPlain c || quotation.lines && c == '\n' then
          (quotation.read? .nothing rest).map fun (own, rest) => (c :: own, rest)
        else none

end Quotation

/-- A text between the given marks at the front of a document, and what follows it. -/
def takeQuoted? (mark : Char) (escapes lines : Bool) (text : List Char) :
    Option (String × List Char) :=
  let read (lines : Bool) (inside : List Char) : Option (String × List Char) :=
    (Quotation.read? ⟨mark, escapes, lines⟩ .nothing inside).map fun (own, rest) =>
      (String.ofList own, rest)
  match Text.stripStart? [mark, mark, mark] text with
  | some inside =>
    if lines then read true ((Text.stripStart? ['\n'] inside).getD inside) else none
  | none => (Text.stripStart? [mark] text).bind (read false)

end MetricProbe.Toml
