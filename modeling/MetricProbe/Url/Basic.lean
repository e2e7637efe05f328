import MetricProbe.Text.Blank
import MetricProbe.Url.Form
import MetricProbe.Url.Host

/-!
# Addresses of requests

An absolute `http` or `https` address, read as browsers do: blanks at the ends and line breaks
anywhere are dropped, any number of slashes may follow the scheme, dot segments are resolved, and
what may not stand for itself is percent-encoded. An address with another scheme, or without a
host, is no address here, and neither is a relative one. Fragments are dropped.

Query parameters are added at the end, after those that the address already has.
-/

namespace MetricProbe

namespace Url

/-- The schemes that requests can use. -/
inductive Scheme where
  | http
  | https
  deriving DecidableEq, Repr

/-- The name of a scheme. -/
def Scheme.name : Scheme → String
  | http => "http"
  | https => "https"

/-- The port that a scheme has when none is given. -/
def Scheme.defaultPort : Scheme → Nat
  | http => 80
  | https => 443

end Url

/-- An absolute address. The port is given only if it is not the scheme's own. -/
structure Url where
  scheme : Url.Scheme
  host : String
  port : Option Nat
  /-- The path in its written form, which starts with a slash. -/
  path : List Char
  /-- The query in its written form. -/
  query : Option (List Char)
  deriving DecidableEq, Repr

/-- A user's name and password, as an address may hold them. -/
structure Login where
  user : String
  password : Option String
  deriving DecidableEq, Repr

namespace Url

open Text (splitAll splitFirst? splitLast?)

/-- The written form of an address. -/
def toText (url : Url) : String :=
  url.scheme.name ++ "://" ++ url.host ++
    (match url.port with
      | some port => s!":{port}"
      | none => "") ++
    String.ofList url.path ++
    (match url.query with
      | some query => String.ofList ('?' :: query)
      | none => "")

/-- A character that is dropped wherever it stands. -/
def isLineBreak (c : Char) : Bool := c == '\t' || c == '\n' || c == '\r'

/-- A character that is dropped at either end. -/
def isEdge (c : Char) : Bool := c.toNat ≤ 0x20

/-- The text of an address without what does not count. -/
def clean (text : List Char) : List Char :=
  (Text.dropEndWhile isEdge (text.dropWhile isEdge)).filter (!isLineBreak ·)

/-- The scheme of an address and what follows its colon. -/
def scheme? (text : List Char) : Option (Scheme × List Char) := do
  let (name, rest) ← splitFirst? (· == ':') text
  let name := name.map Char.toLower
  if name = "http".toList then pure (.http, rest)
  else if name = "https".toList then pure (.https, rest)
  else none

/-- A slash of either direction. -/
def isSlash (c : Char) : Bool := c == '/' || c == '\\'

/-- A character that ends the authority of an address. -/
def endsAuthority (c : Char) : Bool := isSlash c || c == '?' || c == '#'

/-- The text that percent-encoding stands for, if it is well formed. -/
def decodedText? (text : List Char) : Option String :=
  Utf8.decode? (percentDecode (Utf8.encodeChars text))

/-- The user's name and password before the host. An empty password is none. -/
def login? (info : List Char) : Option Login :=
  let (user, password) := (splitFirst? (· == ':') info).getD (info, [])
  match decodedText? user with
  | none => none
  | some user =>
    let password := if password.isEmpty then none else decodedText? password
    if user.isEmpty ∧ password = none then none else some ⟨user, password⟩

/-- A host and the text of a port. The colons within brackets belong to the host. -/
def splitPort (text : List Char) : List Char × Option (List Char) :=
  match text with
  | '[' :: _ =>
    match splitFirst? (· == ']') text with
    | some (host, ':' :: port) => (host ++ [']'], some port)
    | some (host, []) => (host ++ [']'], none)
    | _ => (text, none)
  | _ =>
    match splitFirst? (· == ':') text with
    | some (host, port) => (host, some port)
    | none => (text, none)

/-- The port that a text gives; an empty text gives none, and neither does the scheme's own port.
The outer `none` is a text that is no port. -/
def port? (scheme : Scheme) : Option (List Char) → Option (Option Nat)
  | none => some none
  | some digits =>
    if digits.isEmpty then some none
    else if !digits.all Char.isDigit then none
    else
      match valueInBase? 10 digits with
      | none => none
      | some port =>
        if 65535 < port then none
        else if port = scheme.defaultPort then some none
        else some (some port)

/-- A segment that stands for the one above it. -/
def isParent (segment : List Char) : Bool :=
  let segment := segment.map Char.toLower
  [['.', '.'], ['.', '%', '2', 'e'], ['%', '2', 'e', '.'],
    ['%', '2', 'e', '%', '2', 'e']].contains segment

/-- A segment that stands for nothing. -/
def isCurrent (segment : List Char) : Bool :=
  let segment := segment.map Char.toLower
  [['.'], ['%', '2', 'e']].contains segment

/-- The segments of a path, resolved one by one; `above` holds those so far, the last one first. A
dot segment at the end leaves an empty segment. -/
def resolve (above : List (List Char)) : List (List Char) → List (List Char)
  | [] => above.reverse
  | segment :: more =>
    let above :=
      if isParent segment then above.drop 1
      else if isCurrent segment then above
      else percentEncode pathSet segment :: above
    if more.isEmpty ∧ (isParent segment ∨ isCurrent segment) then ([] :: above).reverse
    else resolve above more

/-- The path in its written form. -/
def normalPath (text : List Char) : List Char :=
  let text := match text with
    | [] => []
    | c :: rest => if isSlash c then rest else c :: rest
  (resolve [] (splitAll isSlash text)).flatMap ('/' :: ·)

/-- The scheme of an address, its authority, and what follows that. -/
def splitAuthority? (text : List Char) : Option (Scheme × List Char × List Char) := do
  let (scheme, rest) ← scheme? text
  let rest := rest.dropWhile isSlash
  pure (scheme, rest.takeWhile (!endsAuthority ·), rest.dropWhile (!endsAuthority ·))

/-- What an authority names. -/
structure Authority where
  host : String
  port : Option Nat
  login : Option Login

/-- What the text of an authority names. -/
def authority? (scheme : Scheme) (text : List Char) : Option Authority := do
  let (info, place) := (splitLast? (· == '@') text).getD ([], text)
  let (host, port) := splitPort place
  let host ← host? host
  let port ← port? scheme port
  pure ⟨host, port, login? info⟩

/-- The path and the query in what follows an authority, as they are given. -/
def splitQuery (text : List Char) : List Char × Option (List Char) :=
  let text := ((splitFirst? (· == '#') text).map (·.1)).getD text
  match splitFirst? (· == '?') text with
  | some (path, query) => (path, some query)
  | none => (text, none)

/-- The address that a text gives, and the login it holds. -/
def read? (text : String) : Option (Url × Option Login) := do
  let (scheme, authority, rest) ← splitAuthority? (clean text.toList)
  let authority ← authority? scheme authority
  let (path, query) := splitQuery rest
  pure (⟨scheme, authority.host, authority.port, normalPath path,
    query.map (percentEncode querySet)⟩, authority.login)

/-- The address with further query parameters. Without parameters an empty query is dropped. -/
def addQuery (url : Url) (pairs : List (String × String)) : Url :=
  let given := url.query.getD []
  let added := Form.write pairs
  let query :=
    if given.isEmpty then added else if added.isEmpty then given else given ++ '&' :: added
  { url with query := if query.isEmpty then none else some query }

end Url

end MetricProbe
