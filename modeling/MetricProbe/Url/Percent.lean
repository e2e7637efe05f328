import MetricProbe.Text.Hex
import MetricProbe.Text.Utf8

/-!
# Percent-encoding

A byte that may not stand for itself is written as a percent sign and two hexadecimal digits. Which
characters may is the choice of each part of an address; the sets are given here.
-/

namespace MetricProbe.Url

open Text (hexValue? upperHexDigit)

/-- A byte as a percent sign and two digits. -/
def percentByte (byte : UInt8) : List Char :=
  ['%', upperHexDigit (byte.toNat / 16), upperHexDigit (byte.toNat % 16)]

/-- A text in which the characters of a set, and all beyond ASCII, are percent-encoded. -/
def percentEncode (escaped : Char → Bool) (text : List Char) : List Char :=
  text.flatMap fun c =>
    if 0x80 ≤ c.toNat || escaped c then (Utf8.encodeChar c).flatMap percentByte else [c]

/-- The bytes that a text stands for. A percent sign without two digits stands for itself. -/
def percentDecode : Bytes → Bytes
  | [] => []
  | 0x25 :: high :: low :: rest =>
    match hexValue? (Char.ofNat high.toNat), hexValue? (Char.ofNat low.toNat) with
    | some high, some low => (high * 16 + low).toUInt8 :: percentDecode rest
    | _, _ => 0x25 :: percentDecode (high :: low :: rest)
  | byte :: rest => byte :: percentDecode rest

/-- A control character of ASCII. -/
def isControl (c : Char) : Bool := c.toNat < 0x20 || c.toNat == 0x7f

/-- Escaped in a fragment and in all parts below. -/
def fragmentSet (c : Char) : Bool :=
  isControl c || c == ' ' || c == '"' || c == '<' || c == '>' || c == '`'

/-- Escaped in a path. -/
def pathSet (c : Char) : Bool :=
  fragmentSet c || c == '#' || c == '?' || c == '\x7b' || c == '\x7d'

/-- Escaped in the query of an address with an authority. -/
def querySet (c : Char) : Bool :=
  isControl c || c == ' ' || c == '"' || c == '#' || c == '<' || c == '>' || c == '\''

end MetricProbe.Url
