import MetricProbe.Text.Hex
import MetricProbe.Text.Printable

/-!
# Quoted text

A text between double quotes, in a form that shows every character: the quote, the backslash and
the common controls have short escapes, and any other character that is not visible by itself is
written by its code point in hexadecimal. A single quote stands as it is.
-/

namespace MetricProbe.Text

/-- One character as it stands between the quotes. -/
def quoteChar (c : Char) : List Char :=
  if c = '\x00' then ['\\', '0']
  else if c = '\t' then ['\\', 't']
  else if c = '\r' then ['\\', 'r']
  else if c = '\n' then ['\\', 'n']
  else if c = '\\' then ['\\', '\\']
  else if c = '"' then ['\\', '"']
  else if extendsGrapheme c || !isPrintable c then
    '\\' :: 'u' :: '\x7b' :: (hexDigits c.toNat ++ ['\x7d'])
  else [c]

/-- The text between double quotes, escaped. -/
def quote (text : String) : String :=
  String.ofList ('"' :: (text.toList.flatMap quoteChar ++ ['"']))

end MetricProbe.Text
