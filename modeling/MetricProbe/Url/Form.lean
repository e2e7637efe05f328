import MetricProbe.Text.Split
import MetricProbe.Url.Percent

/-!
# Form encoding

Lists of names and values as one line of ASCII: pairs are joined by ampersands, a name and its value
by an equals sign, a space is a plus sign, and every other byte that is no letter, digit or one of
four marks is percent-encoded. The separators are therefore never part of a name or a value, and
reading a written list gives the list back.
-/

namespace MetricProbe.Url.Form

/-- A byte that stands for itself: a letter, a digit, `*`, `-`, `.` or `_`. -/
def isPlain (byte : UInt8) : Bool :=
  let n := byte.toNat
  (0x41 ≤ n && n ≤ 0x5a) || (0x61 ≤ n && n ≤ 0x7a) || (0x30 ≤ n && n ≤ 0x39) ||
    n == 0x2a || n == 0x2d || n == 0x2e || n == 0x5f

/-- One byte as it is written. -/
def writeByte (byte : UInt8) : List Char :=
  if isPlain byte then [Char.ofNat byte.toNat]
  else if byte = 0x20 then ['+']
  else percentByte byte

/-- A name or a value as it is written. -/
def writeText (text : String) : List Char :=
  (Utf8.encode text).flatMap writeByte

/-- A name and its value as they are written. -/
def writePair (pair : String × String) : List Char :=
  writeText pair.1 ++ '=' :: writeText pair.2

/-- A list of pairs as it is written. -/
def write : List (String × String) → List Char
  | [] => []
  | [pair] => writePair pair
  | pair :: next :: more => writePair pair ++ '&' :: write (next :: more)

/-- A name or a value from its written form. -/
def readText (written : List Char) : String :=
  let spaced := written.map fun c => if c = '+' then ' ' else c
  Utf8.decodeLossy (percentDecode (Utf8.encodeChars spaced))

/-- A pair from its written form; without an equals sign the value is empty. -/
def readPair (written : List Char) : String × String :=
  match Text.splitFirst? (· == '=') written with
  | some (name, value) => (readText name, readText value)
  | none => (readText written, "")

/-- A list of pairs from its written form. Empty pieces are passed over. -/
def read (written : List Char) : List (String × String) :=
  ((Text.splitAll (· == '&') written).filter (!·.isEmpty)).map readPair

end MetricProbe.Url.Form
