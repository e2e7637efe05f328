import MetricProbe.Toml.Assembly
import MetricProbe.Toml.Quotation

/-!
# Documents

A document is a sequence of lines. A line is empty, opens a table, opens an element of an array of
tables, or gives a value to a name in the table that was opened last; a comment may end it. Values
are scalars, quoted texts, arrays, which may run over several lines, and tables within braces, which
may not.

`Table.read?` says whether a text is a document and which table it stands for. Arrays and braces
may be nested up to `nestingLimit`, and a dotted name has at most `nameLimit` parts.
-/

namespace MetricProbe.Toml

/-- A reader takes what it needs from the front of a text, or the text is no document. -/
abbrev Reader := StateT (List Char) Option

namespace Reader

/-- The text is no document. -/
def refuse {α : Type} : Reader α := fun _ => none

/-- Takes the characters at the front that satisfy a test. -/
def takeWhile (test : Char → Bool) : Reader (List Char) := fun text =>
  some (text.takeWhile test, text.dropWhile test)

/-- Drops the blanks at the front. -/
def skipSpace : Reader Unit := fun text => some ((), text.dropWhile isSpace)

/-- Takes one given character. -/
def mark (c : Char) : Reader Unit := fun text => (takeMark? c text).map fun rest => ((), rest)

end Reader

open Reader

/-- How deep arrays and tables within braces may be nested. -/
def nestingLimit : Nat := 79

/-- How many parts a dotted name may have. -/
def nameLimit : Nat := 79

/-- A character of a name without quotes. -/
def isNameChar (c : Char) : Bool := c.isAlphanum || c == '_' || c == '-'

/-- A character of an unquoted scalar. -/
def isScalarChar (c : Char) : Bool := isNameChar c || c == '+' || c == '.' || c == ':'

/-- Takes a quoted text. -/
def quoted (mark : Char) (escapes lines : Bool) : Reader String := takeQuoted? mark escapes lines

/-- Takes one part of a name. -/
def namePart : Reader String := do
  match ← get with
  | '"' :: _ => quoted '"' true false
  | '\'' :: _ => quoted '\'' false false
  | _ => do
    let name ← takeWhile isNameChar
    if name.isEmpty then refuse else pure (String.ofList name)

/-- Takes a dotted name of at most the given number of parts, as the parts before the last and the
last. -/
def dottedName : Nat → Reader (List String × String)
  | 0 => refuse
  | limit + 1 => do
    skipSpace
    let first ← namePart
    skipSpace
    match ← get with
    | '.' :: rest => do
      set rest
      let (path, last) ← dottedName limit
      pure (first :: path, last)
    | _ => pure ([], first)

/-- The text after blanks, line ends and comments; the flag says whether it begins within a
comment. It stops before a character that no comment may hold, and nothing can begin with one. -/
def afterGap : Bool → List Char → List Char
  | _, [] => []
  | false, c :: rest =>
    if c = '#' then afterGap true rest
    else if c = '\n' ∨ isSpace c then afterGap false rest
    else c :: rest
  | true, c :: rest =>
    if c = '\n' then afterGap false rest
    else if isPlain c then afterGap true rest
    else c :: rest

/-- Drops blanks, line ends and comments. -/
def skipGap : Reader Unit := fun text => some ((), afterGap false text)

/-- Takes an unquoted scalar. A date and a time of day with one blank between them are one
scalar. -/
def scalar : Reader Value := do
  let word ← takeWhile isScalarChar
  let whole ←
    match Date.take? word, ← get with
    | some (_, []), ' ' :: rest => do
      let time := rest.takeWhile isScalarChar
      if time.isEmpty then pure word
      else do
        set (rest.dropWhile isScalarChar)
        pure (word ++ ' ' :: time)
    | _, _ => pure word
  match readScalar? whole with
  | some value => pure value
  | none => refuse

/-- Takes the elements of an array up to its end. -/
def elements (element : Reader Value) : Nat → Reader (List Value)
  | 0 => refuse
  | fuel + 1 => do
    skipGap
    match ← get with
    | ']' :: rest => do
      set rest
      pure []
    | _ => do
      let first ← element
      skipGap
      match ← get with
      | ',' :: rest => do
        set rest
        let others ← elements element fuel
        pure (first :: others)
      | _ => do
        mark ']'
        pure [first]

/-- Takes the entries of a table within braces up to its end. -/
def entries (element : Reader Value) : Nat → Branch → Reader Branch
  | 0, _ => refuse
  | fuel + 1, branch => do
    let (path, name) ← dottedName nameLimit
    mark '='
    skipSpace
    let value ← element
    skipSpace
    match Branch.write? path name value .opened branch with
    | none => refuse
    | some branch =>
      match ← get with
      | ',' :: rest => do
        set rest
        entries element fuel branch
      | _ => do
        mark '\x7d'
        pure branch

/-- Takes an array, or a table within braces, with the given reader for the values inside. Every
element takes a character, so the length of the text is enough fuel. -/
def collection (element : Reader Value) : Reader Value := do
  match ← get with
  | '[' :: rest => do
    set rest
    let items ← elements element (rest.length + 1)
    pure (.array items)
  | '\x7b' :: rest => do
    set (rest.dropWhile isSpace)
    match ← get with
    | '\x7d' :: rest => do
      set rest
      pure (.table [])
    | _ => do
      let branch ← entries element (rest.length + 1) []
      pure (.table (Branch.values branch))
  | _ => refuse

/-- Takes a value, with the given reader for arrays and braces. -/
def valueOr (collection : Reader Value) : Reader Value := do
  match ← get with
  | '"' :: _ => do
    let content ← quoted '"' true true
    pure (.text content)
  | '\'' :: _ => do
    let content ← quoted '\'' false true
    pure (.text content)
  | '[' :: _ => collection
  | '\x7b' :: _ => collection
  | _ => scalar

/-- Takes a value in which arrays and braces are nested at most to the given depth. -/
def value : Nat → Reader Value
  | 0 => valueOr refuse
  | depth + 1 => valueOr (collection (value depth))

/-- A line of a document. -/
inductive Line where
  /-- Nothing, or only a comment. -/
  | empty
  /-- A header of a table, given as a path and the last name. -/
  | header (path : List String) (name : String)
  /-- A header of an element of an array of tables. -/
  | elementHeader (path : List String) (name : String)
  /-- A value for a dotted name. -/
  | entry (path : List String) (name : String) (value : Value)

/-- Takes what a line says. -/
def lineContent : Reader Line := do
  match ← get with
  | [] => pure .empty
  | '\n' :: _ => pure .empty
  | '#' :: _ => pure .empty
  | '[' :: '[' :: rest => do
    set rest
    let (path, name) ← dottedName nameLimit
    mark ']'
    mark ']'
    pure (.elementHeader path name)
  | '[' :: rest => do
    set rest
    let (path, name) ← dottedName nameLimit
    mark ']'
    pure (.header path name)
  | _ => do
    let (path, name) ← dottedName nameLimit
    mark '='
    skipSpace
    let value ← value nestingLimit
    pure (.entry path name value)

/-- Takes the end of a line, perhaps behind a comment. The end of the document ends its last
line. -/
def lineEnd : Reader Unit := do
  skipSpace
  match ← get with
  | '#' :: rest => set (rest.dropWhile isPlain)
  | _ => pure ()
  match ← get with
  | [] => pure ()
  | _ => mark '\n'

/-- Takes a line. -/
def line : Reader Line := do
  skipSpace
  let content ← lineContent
  lineEnd
  pure content

/-- A document up to some line: its root, and the path of the table that was opened last. -/
structure Progress where
  root : Branch
  current : List String

/-- The document after one more line. -/
def Progress.add? (progress : Progress) : Line → Option Progress
  | .empty => some progress
  | .header path name =>
    (progress.root.openTable? path name).map fun root => ⟨root, path ++ [name]⟩
  | .elementHeader path name =>
    (progress.root.openElement? path name).map fun root => ⟨root, path ++ [name]⟩
  | .entry path name value =>
    (progress.root.writeUnder? progress.current path name value).map fun root =>
      { progress with root := root }

/-- The document after all lines of a text. Every line but the last takes a character. -/
def readLines? : Nat → Progress → List Char → Option Progress
  | _, progress, [] => some progress
  | 0, _, _ => none
  | fuel + 1, progress, text =>
    match line text with
    | none => none
    | some (content, rest) => (progress.add? content).bind fun progress =>
        readLines? fuel progress rest

/-- The text with each line end written as a line feed alone. -/
def joinLineEnds : List Char → List Char
  | '\r' :: '\n' :: rest => '\n' :: joinLineEnds rest
  | c :: rest => c :: joinLineEnds rest
  | [] => []

/-- The mark of the byte order, which may stand before a document. -/
def byteOrderMark : Char := '\uFEFF'

/-- The table that a document stands for. -/
def Table.read? (document : String) : Option Table :=
  let text := document.toList
  let text := joinLineEnds ((Text.stripStart? [byteOrderMark] text).getD text)
  (readLines? (text.length + 1) ⟨[], []⟩ text).map fun progress => Branch.values progress.root

end MetricProbe.Toml
