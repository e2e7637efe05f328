import MetricProbe.Decimal.Power
import MetricProbe.Text.Split
import MetricProbe.Url.Percent
import MetricProbe.Url.Punycode

/-!
# Hosts

The host of an address is a name, an IPv4 address or an IPv6 address in brackets, and each has one
written form: names in lower case and in ASCII, IPv4 addresses as four decimal numbers, IPv6
addresses with their longest run of zeros left out. A name whose last label is a number is meant as
an IPv4 address and must be one.

Only the letters of ASCII are brought to lower case. A label beyond ASCII is coded as it stands,
without mapping or normalising its characters, and a name whose bytes are not UTF-8 is no name.
-/

namespace MetricProbe.Url

open Text (hexValue? splitAll splitFirst? splitLast?)

/-- The value of digits in a base, if each is a digit of it. -/
def valueInBase? (base : Nat) (digits : List Char) : Option Nat :=
  digits.foldlM (fun value c => do
    let digit ← hexValue? c
    if digit < base then pure (value * base + digit) else none) 0

/-- A number of an IPv4 address: decimal, octal behind a zero, or hexadecimal behind `0x`. -/
def ipv4Number? : List Char → Option Nat
  | [] => none
  | '0' :: 'x' :: digits => valueInBase? 16 digits
  | '0' :: 'X' :: digits => valueInBase? 16 digits
  | ['0'] => some 0
  | '0' :: digits => valueInBase? 8 digits
  | digits => valueInBase? 10 digits

/-- The labels of a name; a point at the end does not begin another one. -/
def labels (name : List Char) : List (List Char) :=
  let labels := splitAll (· == '.') name
  if labels.length ≠ 1 ∧ labels.getLast? = some [] then labels.dropLast else labels

/-- Whether the last label of a name is a number. -/
def endsInNumber (name : List Char) : Bool :=
  match (labels name).getLast? with
  | none => false
  | some [] => false
  | some label => label.all Char.isDigit || (Text.startsWith ['0', 'x'] (label.map Char.toLower) &&
      (ipv4Number? label).isSome)

/-- The value of the last number of an IPv4 address, which fills the places that are left, and of
the numbers before it. -/
def ipv4Value? : List Nat → Option Nat
  | numbers =>
    match numbers.reverse with
    | [] => none
    | last :: before =>
      if 4 < numbers.length ∨ before.any (255 < ·) ∨
          twoPow (8 * (5 - numbers.length)) ≤ last then none
      else
        some (before.reverse.zipIdx.foldl (fun value (number, index) =>
          value + number * twoPow (8 * (3 - index))) last)

/-- An IPv4 address in its written form. -/
def writeIpv4 (value : Nat) : List Char :=
  (String.intercalate "." ([3, 2, 1, 0].map fun index =>
    toString (value / twoPow (8 * index) % 256))).toList

/-- The IPv4 address that a name stands for. -/
def ipv4? (name : List Char) : Option (List Char) := do
  let numbers ← (labels name).mapM ipv4Number?
  let value ← ipv4Value? numbers
  pure (writeIpv4 value)

/-- A group of an IPv6 address. -/
def ipv6Group? (digits : List Char) : Option Nat :=
  if digits.isEmpty ∨ 4 < digits.length then none else valueInBase? 16 digits

/-- A plain decimal number up to 255. -/
def octet? (digits : List Char) : Option Nat := do
  let value ← valueInBase? 10 digits
  if digits.isEmpty ∨ 255 < value ∨ (1 < digits.length ∧ digits.head? = some '0') then none
  else pure value

/-- The groups of one side of an IPv6 address; the last may be an IPv4 address. -/
def ipv6Groups? (text : List Char) : Option (List Nat) :=
  if text.isEmpty then some []
  else
    let parts := splitAll (· == ':') text
    match parts.getLast? with
    | none => none
    | some last =>
      if last.contains '.' then do
        let octets ← (splitAll (· == '.') last).mapM octet?
        let groups ← parts.dropLast.mapM ipv6Group?
        match octets with
        | [a, b, c, d] => pure (groups ++ [a * 256 + b, c * 256 + d])
        | _ => none
      else parts.mapM ipv6Group?

/-- The parts before and after the first pair of colons. -/
def splitGap? : List Char → Option (List Char × List Char)
  | ':' :: ':' :: rest => some ([], rest)
  | c :: rest => (splitGap? rest).map fun (before, after) => (c :: before, after)
  | [] => none

/-- The eight groups of an IPv6 address. -/
def ipv6? (text : List Char) : Option (List Nat) :=
  match splitGap? text with
  | none => do
    let groups ← ipv6Groups? text
    if groups.length = 8 then pure groups else none
  | some (before, after) => do
    let before ← if before.contains '.' then none else ipv6Groups? before
    let after ← ipv6Groups? after
    let given := before.length + after.length
    if given < 8 then pure (before ++ List.replicate (8 - given) 0 ++ after) else none

/-- The length of the run of zeros at the start of a list. -/
def zeroRun (groups : List Nat) : Nat := (groups.takeWhile (· == 0)).length

/-- An IPv6 address in its written form, without brackets. -/
def writeIpv6 (groups : List Nat) : List Char :=
  let runs := (List.range 8).map fun index => zeroRun (groups.drop index)
  let longest := runs.foldl max 0
  let write (groups : List Nat) : List Char :=
    (String.intercalate ":" (groups.map fun group =>
      String.ofList (Nat.toDigits 16 group))).toList
  if longest < 2 then write groups
  else
    let start := runs.findIdx (· == longest)
    write (groups.take start) ++ ':' :: ':' :: write (groups.drop (start + longest))

/-- A character that no name may hold. -/
def forbiddenInName (c : Char) : Bool :=
  isControl c || [' ', '#', '/', ':', '<', '>', '?', '@', '[', '\\', ']', '^', '|', '%'].contains c

/-- A name in ASCII and in lower case. -/
def asciiName (name : List Char) : List Char :=
  let write (label : List Char) : List Char :=
    if label.all (·.toNat < 0x80) then label else Punycode.encode label
  List.intercalate ['.'] ((splitAll (· == '.') (name.map Char.toLower)).map write)

/-- The host that a text stands for, in its written form. -/
def host? (text : List Char) : Option String :=
  match text with
  | '[' :: rest =>
    match rest.getLast? with
    | some ']' => (ipv6? rest.dropLast).map fun groups =>
        String.ofList ('[' :: (writeIpv6 groups ++ [']']))
    | _ => none
  | _ =>
    let decoded := (Utf8.decodeLossy (percentDecode (Utf8.encodeChars text))).toList
    let name := asciiName decoded
    if name.isEmpty || decoded.contains Utf8.replacement || name.any forbiddenInName then none
    else if endsInNumber name then (ipv4? name).map String.ofList
    else some (String.ofList name)

end MetricProbe.Url
