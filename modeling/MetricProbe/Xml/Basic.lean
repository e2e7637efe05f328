import MetricProbe.Text.Hex
import MetricProbe.Text.Split

/-!
# XML documents

Enough of XML for the answers of a service: elements with text, references to characters, and
attributes, comments and instructions that are passed over. Names keep their local part. Document
types and entities of a document's own are not supported, and a document that uses them is refused.
-/

namespace MetricProbe.Xml

open Text (stripStart? splitFirst? hexValue?)

/-- A piece of a document. -/
inductive Node where
  | element (name : String) (children : List Node)
  | text (value : String)
  deriving Repr

/-- The children of an element; a text has none. -/
def Node.children : Node → List Node
  | element _ children => children
  | text _ => []

/-- The elements of a given name among the children of a node. -/
def Node.elements (node : Node) (name : String) : List Node :=
  node.children.filter fun
    | element other _ => other == name
    | text _ => false

/-- The first element of a given name among the children of a node. -/
def Node.element? (node : Node) (name : String) : Option Node :=
  (node.elements name).head?

/-- The text directly within a node. -/
def Node.content (node : Node) : String :=
  String.join (node.children.filterMap fun
    | text value => some value
    | element .. => none)

/-- A text as it is written between tags. -/
def escape (value : String) : List Char :=
  value.toList.flatMap fun c =>
    if c = '<' then "&lt;".toList
    else if c = '>' then "&gt;".toList
    else if c = '&' then "&amp;".toList
    else if c = '"' then "&quot;".toList
    else if c = '\r' then "&#xD;".toList
    else [c]

mutual

/-- A node as it is written. -/
def Node.write : Node → List Char
  | .element name children =>
    '<' :: (name.toList ++ '>' :: (writeNodes children ++ '<' :: '/' :: (name.toList ++ ['>'])))
  | .text value => escape value

/-- Nodes as they are written. -/
def writeNodes : List Node → List Char
  | [] => []
  | node :: more => node.write ++ writeNodes more

end

/-- A blank of the markup. -/
def isSpace (c : Char) : Bool := c == ' ' || c == '\t' || c == '\n' || c == '\r'

/-- A character that may be part of a name. -/
def isNameChar (c : Char) : Bool :=
  c.isAlphanum || c == '_' || c == ':' || c == '-' || c == '.' || 0x80 ≤ c.toNat

/-- The local part of a name. -/
def localName (name : List Char) : String :=
  match splitFirst? (· == ':') name with
  | some (_, rest) => String.ofList rest
  | none => String.ofList name

/-- The value of digits in a base. -/
def charCode? (base : Nat) (digits : List Char) : Option Nat :=
  if digits.isEmpty then none
  else digits.foldlM (fun value c => do
    let digit ← hexValue? c
    if digit < base ∧ value < 0x110000 then pure (value * base + digit) else none) 0

/-- The character that a reference stands for. -/
def reference? (name : List Char) : Option Char :=
  if name = "lt".toList then some '<'
  else if name = "gt".toList then some '>'
  else if name = "amp".toList then some '&'
  else if name = "quot".toList then some '"'
  else if name = "apos".toList then some '\''
  else
    let code := match name with
      | '#' :: 'x' :: digits => charCode? 16 digits
      | '#' :: digits => charCode? 10 digits
      | _ => none
    code.bind fun code => if code.isValidChar then some (Char.ofNat code) else none

/-- A text with its references replaced. -/
def unescape? : Nat → List Char → Option (List Char)
  | 0, _ => some []
  | _ + 1, [] => some []
  | fuel + 1, '&' :: rest => do
    let (name, rest) ← splitFirst? (· == ';') rest
    let c ← reference? name
    let tail ← unescape? fuel rest
    pure (c :: tail)
  | fuel + 1, c :: rest => (unescape? fuel rest).map (c :: ·)

/-- What follows the first occurrence of a mark. -/
def after? (mark : List Char) : List Char → Option (List Char × List Char)
  | [] => none
  | c :: rest =>
    match stripStart? mark (c :: rest) with
    | some rest => some ([], rest)
    | none => (after? mark rest).map fun (before, rest) => (c :: before, rest)

/-- The rest of a start tag behind its name: whether it is also the end tag, and what follows it.
The values of attributes may hold any character but their quote. -/
def tagEnd? : Option Char → List Char → Option (Bool × List Char)
  | _, [] => none
  | some quote, c :: rest => tagEnd? (if c = quote then none else some quote) rest
  | none, '/' :: '>' :: rest => some (true, rest)
  | none, c :: rest =>
    if c = '>' then some (false, rest)
    else if c = '<' then none
    else tagEnd? (if c = '"' ∨ c = '\'' then some c else none) rest

mutual

/-- The nodes up to an end tag or the end of the text, and what follows. -/
def readNodes? : Nat → List Char → Option (List Node × List Char)
  | 0, _ => none
  | _ + 1, [] => some ([], [])
  | fuel + 1, '<' :: rest =>
    match rest with
    | '/' :: _ => some ([], '<' :: rest)
    | '?' :: body => do
      let (_, rest) ← after? ['?', '>'] body
      readNodes? fuel rest
    | '!' :: '-' :: '-' :: body => do
      let (_, rest) ← after? ['-', '-', '>'] body
      readNodes? fuel rest
    | '!' :: body => do
      let body ← stripStart? "[CDATA[".toList body
      let (value, rest) ← after? [']', ']', '>'] body
      let (nodes, rest) ← readNodes? fuel rest
      pure (.text (String.ofList value) :: nodes, rest)
    | _ => do
      let (node, rest) ← readElement? fuel rest
      let (nodes, rest) ← readNodes? fuel rest
      pure (node :: nodes, rest)
  | fuel + 1, text => do
    let value ← unescape? text.length (text.takeWhile (· != '<'))
    let (nodes, rest) ← readNodes? fuel (text.dropWhile (· != '<'))
    pure (.text (String.ofList value) :: nodes, rest)

/-- An element behind its opening bracket, and what follows. -/
def readElement? : Nat → List Char → Option (Node × List Char)
  | 0, _ => none
  | fuel + 1, text => do
    let name := text.takeWhile isNameChar
    let (closed, rest) ← if name.isEmpty then none else tagEnd? none (text.dropWhile isNameChar)
    if closed then pure (.element (localName name) [], rest)
    else do
      let (children, rest) ← readNodes? fuel rest
      let rest ← stripStart? ('<' :: '/' :: name) rest
      match rest.dropWhile isSpace with
      | '>' :: rest => pure (.element (localName name) children, rest)
      | _ => none

end

/-- Whether a node may stand outside the root element. -/
def isFiller : Node → Bool
  | .text value => value.toList.all isSpace
  | .element .. => false

/-- The root element of a document. -/
def readDocument? (text : String) : Option Node := do
  let characters := text.toList
  let (nodes, rest) ← readNodes? (characters.length + 1) characters
  match nodes.filter (!isFiller ·) with
  | [root] => if rest.isEmpty then pure root else none
  | _ => none

end MetricProbe.Xml
