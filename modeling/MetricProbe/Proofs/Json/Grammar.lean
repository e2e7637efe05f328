import MetricProbe.Json.Document
import MetricProbe.Proofs.Text.Runs

/-!
# What JSON texts look like

The grammar of JSON as relations between values and texts, without a reader. A `Spelling` is a value
as it is written: the digits of its numbers, the letters of its texts and the order of its members
are kept, and only the space between the tokens is not. `Writes` says that a text is a way to write
a spelling, and `IsDocument` allows for space around it.

The grammar is that of the syntax alone. It does not bound numbers or nesting, and a letter may be
half of a surrogate pair; what readers make of such values is said where the readers are described.
-/

namespace MetricProbe.Json

open Decimal (isDigit)

/-! ## Space -/

/-- A text of nothing but space. -/
def Blank (text : List Char) : Prop := ∀ c ∈ text, isSpace c = true

/-- A text that does not begin with space. -/
def Solid (text : List Char) : Prop := ∀ c ∈ text.head?, isSpace c = false

/-- The empty text is nothing but space. -/
theorem blank_nil : Blank [] := fun _ inside => absurd inside List.not_mem_nil

/-- Space in front of a text that does not begin with space is dropped, and nothing else. -/
theorem dropWhile_blank {before text : List Char} (blank : Blank before) (solid : Solid text) :
    (before ++ text).dropWhile isSpace = text :=
  Text.dropWhile_run blank solid

/-- Every text is space and a text that does not begin with space. -/
theorem exists_blank (text : List Char) :
    ∃ before, Blank before ∧ text = before ++ text.dropWhile isSpace ∧
      Solid (text.dropWhile isSpace) :=
  ⟨text.takeWhile isSpace, fun _ inside => List.mem_takeWhile_imp inside,
    List.takeWhile_append_dropWhile.symm, Text.head_dropWhile text⟩

/-- Space behind dropped space may be dropped with it. -/
theorem exists_blank_of_dropWhile {text lead rest : List Char} (blankLead : Blank lead)
    (split : text.dropWhile isSpace = lead ++ rest) :
    ∃ before, Blank before ∧ text = before ++ rest := by
  obtain ⟨outer, blankOuter, whole, _⟩ := exists_blank text
  refine ⟨outer ++ lead, ?_, by rw [whole, split, List.append_assoc]⟩
  exact fun c inside => (List.mem_append.1 inside).elim (blankOuter c) (blankLead c)

/-! ## Letters of texts -/

/-- A character of a text as it is written. -/
inductive Letter where
  /-- A character that stands for itself. -/
  | plain (c : Char) (unescaped : c ≠ '"' ∧ c ≠ '\\' ∧ isControl c = false)
  /-- An escape of one letter, and the character that it means. -/
  | short (c meant : Char) (known : shortEscape? c = some meant)
  /-- An escape of four hexadecimal digits, and their value. -/
  | unit (a b c d : Char) (value : Nat) (digits : hexUnit? a b c d = some value)

/-- A letter as it is written. -/
def Letter.written : Letter → List Char
  | plain c _ => [c]
  | short c _ _ => ['\\', c]
  | unit a b c d _ _ => ['\\', 'u', a, b, c, d]

/-- Letters in quotes. -/
def quoted (letters : List Letter) : List Char :=
  '"' :: (letters.flatMap Letter.written ++ ['"'])

/-- The characters that letters mean. Two surrogates that follow each other mean one character; if
any other surrogate is there, the letters mean nothing. -/
def meaning? : List Letter → Option (List Char)
  | [] => some []
  | .plain c _ :: rest => (meaning? rest).map (c :: ·)
  | .short _ meant _ :: rest => (meaning? rest).map (meant :: ·)
  | .unit _ _ _ _ first _ :: rest =>
    if isTrailing first then none
    else if isLeading first then
      match rest with
      | .unit _ _ _ _ second _ :: rest =>
        if isTrailing second then
          (meaning? rest).map
            (Char.ofNat (0x10000 + (first - 0xD800) * 0x400 + (second - 0xDC00)) :: ·)
        else none
      | _ => none
    else (meaning? rest).map (Char.ofNat first :: ·)

/-! ## Numbers -/

/-- The sign of an exponent, which may be left out. -/
inductive Sign where
  | absent
  | plus
  | minus
  deriving DecidableEq

/-- A sign as it is written. -/
def Sign.written : Sign → List Char
  | absent => []
  | plus => ['+']
  | minus => ['-']

/-- An exponent of a number. -/
structure Exponent where
  mark : Char
  sign : Sign
  digits : List Char
  marked : mark = 'e' ∨ mark = 'E'
  nonempty : digits ≠ []
  decimal : ∀ c ∈ digits, isDigit c = true

/-- An exponent as it is written. -/
def Exponent.written (exponent : Exponent) : List Char :=
  exponent.mark :: (exponent.sign.written ++ exponent.digits)

/-- A number as it is written: whole digits without a superfluous zero, the digits of a fraction if
there is one, and an exponent if there is one. -/
structure Numeral where
  negative : Bool
  whole : List Char
  fraction : List Char
  exponent : Option Exponent
  canonical : whole = ['0'] ∨ (∃ c more, whole = c :: more ∧ c ≠ '0') ∧ ∀ c ∈ whole, isDigit c = true
  decimal : ∀ c ∈ fraction, isDigit c = true

namespace Numeral

/-- A fraction as it is written; no digits are no fraction. -/
def writtenFraction (digits : List Char) : List Char :=
  if digits = [] then [] else '.' :: digits

/-- An exponent as it is written, if there is one. -/
def writtenExponent (exponent : Option Exponent) : List Char :=
  exponent.elim [] Exponent.written

/-- A number behind its sign. -/
def unsigned (numeral : Numeral) : List Char :=
  numeral.whole ++ (writtenFraction numeral.fraction ++ writtenExponent numeral.exponent)

/-- A number as it is written. -/
def written (numeral : Numeral) : List Char :=
  (if numeral.negative then ['-'] else []) ++ numeral.unsigned

end Numeral

/-- Nothing at the front of a text continues a number that stands before it. -/
def Ends (rest : List Char) : Prop :=
  ∀ c ∈ rest.head?, isDigit c = false ∧ c ≠ '.' ∧ c ≠ 'e' ∧ c ≠ 'E'

/-! ## Values -/

/-- A value as it is written, up to the space between the tokens. -/
inductive Spelling where
  | null
  | boolean (value : Bool)
  | number (numeral : Numeral)
  | text (letters : List Letter)
  | array (items : List Spelling)
  | object (members : List (List Letter × Spelling))

section

variable {α : Type}

/-- What follows an item of a list: further items, each behind a comma, with space around them. -/
inductive Continued (writes : α → List Char → Prop) : List α → List Char → Prop where
  | done {after : List Char} (blank : Blank after) : Continued writes [] after
  | more {after before text rest : List Char} {item : α} {items : List α} (blankAfter : Blank after)
      (blankBefore : Blank before) (first : writes item text) (later : Continued writes items rest) :
      Continued writes (item :: items) (after ++ ',' :: (before ++ (text ++ rest)))

/-- Items with commas between them and space around them. -/
inductive Listed (writes : α → List Char → Prop) : List α → List Char → Prop where
  | none {inner : List Char} (blank : Blank inner) : Listed writes [] inner
  | some {before text rest : List Char} {item : α} {items : List α} (blank : Blank before)
      (first : writes item text) (later : Continued writes items rest) :
      Listed writes (item :: items) (before ++ (text ++ rest))

end

/-- A member of an object: its key in quotes, a colon and its value. -/
inductive Member (writes : Spelling → List Char → Prop) :
    List Letter × Spelling → List Char → Prop where
  | mk {key : List Letter} {value : Spelling} {after before text : List Char}
      (blankAfter : Blank after) (blankBefore : Blank before) (valued : writes value text) :
      Member writes (key, value) (quoted key ++ (after ++ ':' :: (before ++ text)))

/-- A text is a way to write a value. -/
inductive Writes : Spelling → List Char → Prop where
  | null : Writes .null ['n', 'u', 'l', 'l']
  | yes : Writes (.boolean true) ['t', 'r', 'u', 'e']
  | no : Writes (.boolean false) ['f', 'a', 'l', 's', 'e']
  | number (numeral : Numeral) : Writes (.number numeral) numeral.written
  | text (letters : List Letter) : Writes (.text letters) (quoted letters)
  | array {items : List Spelling} {inner : List Char} (listed : Listed Writes items inner) :
      Writes (.array items) ('[' :: (inner ++ [']']))
  | object {members : List (List Letter × Spelling)} {inner : List Char}
      (listed : Listed (Member Writes) members inner) :
      Writes (.object members) ('\x7b' :: (inner ++ ['\x7d']))

/-- A text is a way to write a value, with nothing but space around it. -/
def IsDocument (body : String) (tree : Spelling) : Prop :=
  ∃ before text after, Blank before ∧ Writes tree text ∧ Blank after ∧
    body.toList = before ++ (text ++ after)

end MetricProbe.Json
