/-!
# Blank characters and trimming

`isBlank` is the White_Space property of the character database. Trimming works on lists of
characters; the versions for strings are wrappers.
-/

namespace MetricProbe.Text

/-- A character with the White_Space property. -/
def isBlank (c : Char) : Bool :=
  let n := c.toNat
  (0x9 ≤ n && n ≤ 0xD) || n == 0x20 || n == 0x85 || n == 0xA0 || n == 0x1680 ||
    (0x2000 ≤ n && n ≤ 0x200A) || n == 0x2028 || n == 0x2029 || n == 0x202F || n == 0x205F ||
    n == 0x3000

/-- The list without the longest tail whose members all satisfy the test. -/
def dropEndWhile {α : Type} (test : α → Bool) (items : List α) : List α :=
  (items.reverse.dropWhile test).reverse

/-- The characters without the blanks at either end. -/
def trim (text : List Char) : List Char :=
  dropEndWhile isBlank (text.dropWhile isBlank)

/-- The text without the given character at its end, however often it stands there. -/
def trimEndOf (c : Char) (text : String) : String :=
  String.ofList (dropEndWhile (· == c) text.toList)

/-- Whether a text has nothing but blanks. -/
def allBlank (text : String) : Bool :=
  text.toList.all isBlank

end MetricProbe.Text
