/-!
# UTF-8

Texts are strings of characters and wire data are lists of bytes; this module is the only bridge
between the two. Reading is one pass of a small machine that reports, in order, every character
and every maximal ill-formed piece, so the strict reading and the lossy one differ only in what
they make of an ill-formed piece.

Which pieces count as one is fixed by the bounds on the byte after a lead byte: a piece ends
before the first byte that no well-formed character could have in that place.
-/

namespace MetricProbe

/-- Wire data: file contents, secrets and message bodies. -/
abbrev Bytes := List UInt8

namespace Utf8

/-- The bytes of one character, one to four of them. -/
def encodeChar (c : Char) : Bytes :=
  let n := c.toNat
  if n < 0x80 then [n.toUInt8]
  else if n < 0x800 then [(0xC0 + n / 64).toUInt8, (0x80 + n % 64).toUInt8]
  else if n < 0x10000 then
    [(0xE0 + n / 4096).toUInt8, (0x80 + n / 64 % 64).toUInt8, (0x80 + n % 64).toUInt8]
  else
    [(0xF0 + n / 262144).toUInt8, (0x80 + n / 4096 % 64).toUInt8, (0x80 + n / 64 % 64).toUInt8,
      (0x80 + n % 64).toUInt8]

/-- The bytes of a list of characters. -/
def encodeChars (text : List Char) : Bytes :=
  text.flatMap encodeChar

/-- The bytes of a text. -/
def encode (text : String) : Bytes :=
  encodeChars text.toList

/-- A character begun and not finished: the payload read so far, the bounds of the byte that
must come next, and how many bytes follow that one. -/
structure Pending where
  payload : Nat
  low : Nat
  high : Nat
  more : Nat
  deriving DecidableEq, Repr

/-- What one byte can begin. -/
inductive Start where
  /-- The byte is a character by itself. -/
  | whole (c : Char)
  /-- The byte begins a longer character. -/
  | pending (state : Pending)
  /-- No well-formed character begins with the byte. -/
  | stray
  deriving DecidableEq, Repr

/-- What a byte begins. The bounds exclude overlong forms, surrogates and code points above
U+10FFFF. -/
def start (byte : UInt8) : Start :=
  let b := byte.toNat
  if b < 0x80 then .whole (Char.ofNat b)
  else if b < 0xC2 then .stray
  else if b < 0xE0 then .pending ⟨b - 0xC0, 0x80, 0xBF, 0⟩
  else if b = 0xE0 then .pending ⟨0, 0xA0, 0xBF, 1⟩
  else if b = 0xED then .pending ⟨13, 0x80, 0x9F, 1⟩
  else if b < 0xF0 then .pending ⟨b - 0xE0, 0x80, 0xBF, 1⟩
  else if b = 0xF0 then .pending ⟨0, 0x90, 0xBF, 2⟩
  else if b < 0xF4 then .pending ⟨b - 0xF0, 0x80, 0xBF, 2⟩
  else if b = 0xF4 then .pending ⟨4, 0x80, 0x8F, 2⟩
  else .stray

/-- Every character of the data in order, with `none` for each maximal ill-formed piece. -/
def scan : Option Pending → Bytes → List (Option Char)
  | none, [] => []
  | some _, [] => [none]
  | none, byte :: rest =>
    match start byte with
    | .whole c => some c :: scan none rest
    | .pending state => scan (some state) rest
    | .stray => none :: scan none rest
  | some state, byte :: rest =>
    if state.low ≤ byte.toNat ∧ byte.toNat ≤ state.high then
      let payload := state.payload * 64 + byte.toNat % 64
      match state.more with
      | 0 => some (Char.ofNat payload) :: scan none rest
      | more + 1 => scan (some ⟨payload, 0x80, 0xBF, more⟩) rest
    else
      match start byte with
      | .whole c => none :: some c :: scan none rest
      | .pending next => none :: scan (some next) rest
      | .stray => none :: none :: scan none rest

/-- The character that stands for an ill-formed piece in a lossy reading. -/
def replacement : Char := '\uFFFD'

/-- The text of the data, with one replacement character for each maximal ill-formed piece. -/
def decodeLossy (data : Bytes) : String :=
  String.ofList ((scan none data).map (·.getD replacement))

/-- The text of the data, if all of it is well formed. -/
def decode? (data : Bytes) : Option String :=
  ((scan none data).mapM id).map String.ofList

end Utf8

end MetricProbe
