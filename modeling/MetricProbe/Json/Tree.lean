import MetricProbe.Json.Record

/-!
# Values of any shape

A value whose shape is only known after it has been read is read as a tree first. Reading a tree
limits the depth, refuses numbers beyond the range and decodes every text.
-/

namespace MetricProbe.Json

open Reader

/-- A JSON value. The members of an object are in the order of the text. -/
inductive Tree where
  | null
  | boolean (value : Bool)
  | number (value : Number)
  | text (value : String)
  | array (elements : List Tree)
  | object (members : List (String × Tree))
  deriving Repr

/-- Reads the members of an object of any shape up to its end. -/
def treeMembers (value : Reader Tree) : Nat → Bool → Reader (List (String × Tree))
  | 0, _ => stopAtNext .endInObject
  | fuel + 1, first => do
    if ← nextKey first then do
      let key ← textTail
      colon
      let head ← value
      let tail ← treeMembers value fuel false
      pure ((key, head) :: tail)
    else pure []

/-- Reads a value of any shape at a given depth. -/
def tree : Nat → Reader Tree
  | 0 => stopAtNext .tooDeep
  | depth + 1 => do
    toValue
    match ← look with
    | 'n' :: rest => do
      moveTo rest
      word ['u', 'l', 'l']
      pure .null
    | 't' :: rest => do
      moveTo rest
      word ['r', 'u', 'e']
      pure (.boolean true)
    | 'f' :: rest => do
      moveTo rest
      word ['a', 'l', 's', 'e']
      pure (.boolean false)
    | '"' :: rest => do
      moveTo rest
      let value ← textTail
      pure (.text value)
    | '[' :: rest =>
      if depth = 0 then stopAtNext .tooDeep
      else do
        moveTo rest
        let elements ← bracketed closeArray endArray (allElements (tree depth))
        pure (.array elements)
    | '\x7b' :: rest =>
      if depth = 0 then stopAtNext .tooDeep
      else do
        moveTo rest
        let members ← bracketed closeObject endObject fun text =>
          treeMembers (tree depth) (text.length + 1) true text
        pure (.object members)
    | c :: _ =>
      if beginsNumber c then do
        let value ← number
        pure (.number value)
      else stopAtNext .expectedValue
    | [] => stopAtNext .endInValue

end MetricProbe.Json
