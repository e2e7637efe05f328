import MetricProbe.Proofs.Http.Base64
import MetricProbe.Proofs.Http.Destination
import MetricProbe.Proofs.Http.Head

/-!
# The login of Prometheus

A user name and a password reach the backend joined by a colon, in one header in base 64. The header
stands for the joined text and for nothing else, so it tells two logins apart exactly if their
joined texts differ: a user name that holds a colon is not told from what it would be without the
part behind.

An address may hold a login too, which becomes a header of its own, before the configured one. What
is said here of one header and of none is said of addresses without a login.
-/

namespace MetricProbe.Prometheus

open Http (Request authorization basicAuth hear? trimmed)
open Text (isBlank splitFirst?)

/-! ## Headers -/

/-- A user name and a password as one text. -/
def joined (username password : String) : String := username ++ ":" ++ password

/-- The text that the value of a header for a login stands for. -/
def loginText? (value : String) : Option String := do
  let encoded ← Text.stripStart? "Basic ".toList value.toList
  let bytes ← Base64.decode? encoded
  Utf8.decode? bytes

/-- The headers for the login that an address holds. -/
def ownHeaders (address : String) : List String :=
  ((Url.ownLogin? address).map fun login => basicAuth login.user login.password).toList

/-- The headers for the login that a client was given. -/
def Client.givenHeaders (client : Client) : List String :=
  (client.login.map fun (username, password) => basicAuth username (some password)).toList

/-- The values that are heard in the headers for logins of a request. -/
def heardLogins (request : Request) : Option (List String) :=
  (hear? request.wire).map (·.values "authorization")

/-- A query or a health check of a client sends a request. -/
def Client.Sends (client : Client) (request : Request) : Prop :=
  ∃ network, (∃ query, request ∈ (client.ask network query).sent) ∨
    request ∈ (client.check network).sent

/-- Letters of base 64 are no blanks. -/
theorem isBlank_of_mem_encode {bytes : Bytes} {c : Char} (inside : c ∈ Base64.encode bytes) :
    isBlank c = false := by
  have letters : Base64.alphabet.all (!isBlank ·) = true := by decide +kernel
  obtain ⟨chars, padding, whole, spells⟩ := Base64.isPadded_encode bytes
  rw [whole] at inside
  rcases List.mem_append.1 inside with letter | sign
  · simpa using List.all_eq_true.1 letters c (spells.letters c letter)
  · rw [List.eq_of_mem_replicate sign]
    rfl

/-- The text of a login is not empty, and neither is it in base 64. -/
theorem encode_joined_ne_nil (username password : String) :
    Base64.encode (Utf8.encode (joined username password)) ≠ [] := by
  intro empty
  have none : Utf8.encode (joined username password) = [] := Base64.encode_injective empty
  have colon : ':'.toNat.toUInt8 ∈ Utf8.encode (joined username password) :=
    Utf8.mem_encodeChars (by simp [joined]) (by decide)
  rw [none] at colon
  cases colon

/-- The header for a login is a word, and the text of the login in base 64 behind it. -/
theorem basicAuth_eq (username : String) (password : Option String) :
    basicAuth username password = "Basic " ++
      String.ofList (Base64.encode (Utf8.encode (joined username (password.getD "")))) := rfl

/-- The characters of the header for a login. -/
theorem toList_basicAuth (username : String) (password : Option String) :
    (basicAuth username password).toList = "Basic ".toList ++
      Base64.encode (Utf8.encode (joined username (password.getD ""))) := by
  rw [basicAuth_eq, String.toList_append]
  exact congrArg _ String.toList_ofList

/-- The header for a login has no blanks at its ends. -/
theorem trimmed_basicAuth (username : String) (password : Option String) :
    trimmed (basicAuth username password) = basicAuth username password := by
  have filled := encode_joined_ne_nil username (password.getD "")
  have noBlank (c : Char) := @isBlank_of_mem_encode
    (Utf8.encode (joined username (password.getD ""))) c
  rw [trimmed, toList_basicAuth, basicAuth_eq]
  generalize Base64.encode (Utf8.encode (joined username (password.getD ""))) = encoded at *
  have begins : "Basic ".toList.head? = some 'B' := by decide
  have ends := List.getLast?_eq_some_getLast filled
  have isTrimmed : Text.Trimmed ("Basic ".toList ++ encoded) := by
    constructor
    · rw [List.head?_append, begins]
      rintro _ ⟨⟩
      rfl
    · rw [List.getLast?_append, ends]
      rintro _ ⟨⟩
      exact noBlank _ (List.getLast_mem filled)
  rw [Text.trim_of_trimmed isTrimmed, String.ofList_append, String.ofList_toList]

/-- The header for a login stands for the user name and the password, joined. -/
theorem loginText?_basicAuth (username password : String) :
    loginText? (basicAuth username (some password)) = some (joined username password) := by
  have word : Text.stripStart? "Basic ".toList (basicAuth username (some password)).toList =
      some (Base64.encode (Utf8.encode (joined username password))) :=
    Text.stripStart?_eq_some_iff.2 (toList_basicAuth username (some password))
  rw [loginText?, word]
  simp only [Option.bind_eq_bind, Option.bind_some, Base64.decode?_encode, Utf8.decode?_encode]

/-- Two logins have the same header exactly if their joined texts are the same. -/
theorem basicAuth_eq_iff {username password other otherPassword : String} :
    basicAuth username (some password) = basicAuth other (some otherPassword) ↔
      joined username password = joined other otherPassword := by
  constructor
  · intro same
    have read := loginText?_basicAuth username password
    rw [same, loginText?_basicAuth] at read
    exact (Option.some.inj read).symm
  · intro same
    rw [basicAuth_eq, basicAuth_eq, Option.getD_some, Option.getD_some, same]

/-- The text of a login is cut at its first colon into the user name and the password, exactly if
the user name holds no colon. -/
theorem splitFirst?_joined {username password : String} :
    splitFirst? (· == ':') (joined username password).toList =
        some (username.toList, password.toList) ↔ ':' ∉ username.toList := by
  have whole : (joined username password).toList = username.toList ++ ':' :: password.toList := by
    simp [joined]
  rw [whole]
  constructor
  · intro cut colon
    have free := Text.free_of_splitFirst? cut ':' colon
    cases free
  · intro free
    refine Text.splitFirst?_append rfl (fun c inside => beq_false_of_ne ?_) _
    rintro rfl
    exact free inside

/-! ## Requests -/

section

variable {client : Client} {request : Request}

/-- The headers of the request for an address are those for its login. -/
theorem headers_of_get? {address : String} (got : Http.get? address = some request) :
    request.headers = (ownHeaders address).map (authorization, ·) := by
  obtain ⟨⟨url, login⟩, read, rfl⟩ := Option.map_eq_some_iff.1 got
  rw [ownHeaders, Url.ownLogin?, read, Option.bind_some]
  cases login <;> rfl

/-- The given header is added behind that of the address. -/
theorem headers_of_authorized? (authorized : client.authorized? = some request) :
    request.headers =
        (ownHeaders client.queryEndpoint ++ client.givenHeaders).map (authorization, ·) ∧
      request.WellFormed := by
  simp only [Client.authorized?, Option.bind_eq_bind, Option.bind_eq_some_iff] at authorized
  obtain ⟨base, got, carried⟩ := authorized
  have own := headers_of_get? got
  have wellFormed := Request.wellFormed_of_get? got
  rw [Client.givenHeaders]
  cases given : client.login with
  | none =>
      rw [given] at carried
      cases carried
      rw [Option.map_none, Option.toList_none, List.append_nil]
      exact ⟨own, wellFormed⟩
  | some login =>
      obtain ⟨username, password⟩ := login
      rw [given] at carried
      obtain ⟨legal, rfl⟩ := Request.withHeader?_eq_some_iff.1 carried
      have named : Http.isFieldName authorization = true := by decide
      refine ⟨?_, wellFormed.withHeader named legal⟩
      rw [own, Option.map_some, Option.toList_some, List.map_append]
      rfl

/-- The headers for logins are heard as they were added, and nothing else under their name. -/
theorem heardLogins_of_headers (wellFormed : request.WellFormed) {values : List String}
    (headers : request.headers = values.map (authorization, ·)) :
    heardLogins request = some (values.map trimmed) := by
  have kept : (values.map fun value => (authorization, trimmed value)).filter
      (·.1 == "authorization") = values.map fun value => (authorization, trimmed value) :=
    List.filter_eq_self.2 (List.forall_mem_map.2 fun _ _ => rfl)
  have fields : request.fields.filter (·.1 == "authorization") =
      values.map fun value => (authorization, trimmed value) := by
    simpa [Request.fields, Request.written, headers, Function.comp_def] using kept
  rw [heardLogins, wellFormed.hear?_wire, Option.map_some, Http.Heard.values, fields, List.map_map]
  rfl

/-- All headers for logins have no blanks at their ends. -/
theorem map_trimmed_headers (client : Client) (address : String) :
    (ownHeaders address ++ client.givenHeaders).map trimmed =
      ownHeaders address ++ client.givenHeaders := by
  refine (List.map_congr_left fun value inside => ?_).trans (List.map_id _)
  simp only [ownHeaders, Client.givenHeaders, List.mem_append, Option.mem_toList,
    Option.map_eq_some_iff] at inside
  rcases inside with ⟨login, _, rfl⟩ | ⟨login, _, rfl⟩
  · exact trimmed_basicAuth login.user login.password
  · exact trimmed_basicAuth login.1 (some login.2)

/-- The logins that are heard of a request that a client sends: the one of the endpoint, and the one
that the client was given. -/
theorem Client.Sends.heardLogins_eq (sends : client.Sends request) :
    (Url.read? client.queryEndpoint).isSome ∧
      heardLogins request = some (ownHeaders client.queryEndpoint ++ client.givenHeaders) := by
  have asked : ∃ query network, request ∈ (client.ask network query).sent := by
    obtain ⟨network, ⟨query, sent⟩ | sent⟩ := sends
    · exact ⟨query, network, sent⟩
    · rw [Client.sent_check] at sent
      exact ⟨onlineQuery, network, sent⟩
  obtain ⟨query, network, sent⟩ := asked
  obtain ⟨base, authorized, rfl⟩ := Client.mem_sent_ask_iff.1 sent
  obtain ⟨login, read⟩ := Client.exists_read?_of_authorized? authorized
  obtain ⟨headers, wellFormed⟩ := headers_of_authorized? authorized
  refine ⟨read ▸ rfl, ?_⟩
  have whole : (base.withQuery (asked query)).WellFormed :=
    wellFormed.withQuery (List.cons_ne_nil _ _)
  rw [heardLogins_of_headers whole headers, map_trimmed_headers]

end

/-! ## Clients -/

section

variable {settings : Settings} {credentials : Credentials} {client : Client} {request : Request}

/-- The path of queries holds no login. -/
theorem login_of_stem (scheme : Url.Scheme) (names : Url.Authority)
    (named : Url.authority? scheme (Url.authorityOf "/api/v1".toList) = some names) :
    names.login = none := by
  have none : (Url.authority? scheme (Url.authorityOf "/api/v1".toList)).map (·.login) =
      some none := by
    cases scheme <;> decide +kernel
  rw [named, Option.map_some] at none
  exact Option.some.inj none

/-- The logins that are heard of a request are the one of the configured address and the one that
the client was given. -/
theorem heardLogins_of_make (made : Client.make settings credentials = .ok client)
    (sends : client.Sends request) :
    heardLogins request =
      some (ownHeaders (settings.addressOr defaultAddress) ++ client.givenHeaders) := by
  obtain ⟨legible, heard⟩ := sends.heardLogins_eq
  rw [Client.endpoint_of_make made] at legible heard
  have own := Client.extends_queryPath.ownLogin?_endpoint Url.slashed_stem login_of_stem legible
  rw [heard, ownHeaders, own, ownHeaders]

/-- Of both credentials a client with their texts is made. -/
theorem make_of_both {username password : Bytes}
    (hasUsername : credentials.lookup "username" = some username)
    (hasPassword : credentials.lookup "password" = some password) (settings : Settings) :
    ∃ client, Client.make settings credentials = .ok client ∧
      client.login = some (Utf8.decodeLossy username, Utf8.decodeLossy password) := by
  have login : Client.loginOf credentials =
      .ok (some (Utf8.decodeLossy username, Utf8.decodeLossy password)) := by
    rw [Client.loginOf, Credentials.text?, Credentials.text?, usernameKey, passwordKey,
      hasUsername, hasPassword]
    rfl
  refine ⟨⟨Text.trimEndOf '/' (settings.addressOr defaultAddress) ++ queryPath,
    some (Utf8.decodeLossy username, Utf8.decodeLossy password)⟩, ?_, rfl⟩
  rw [Client.make, login]
  rfl

/-- A client that is made without both credentials has no login. -/
theorem login_of_make (made : Client.make settings credentials = .ok client)
    (lacking : credentials.lookup "username" = none ∨ credentials.lookup "password" = none) :
    client.login = none := by
  rw [Client.make, Client.loginOf, Credentials.text?, Credentials.text?, usernameKey,
    passwordKey] at made
  cases hasUsername : credentials.lookup "username" <;>
    cases hasPassword : credentials.lookup "password" <;>
    rw [hasUsername, hasPassword] at made lacking
  · cases made
    rfl
  · cases made
  · cases made
  · rcases lacking with absent | absent <;> cases absent

/-- The configured address holds no login. -/
def HasPlainAddress (settings : Settings) : Prop :=
  Url.ownLogin? (settings.addressOr defaultAddress) = none

instance (settings : Settings) : Decidable (HasPlainAddress settings) :=
  inferInstanceAs (Decidable (Url.ownLogin? (settings.addressOr defaultAddress) = none))

/-- A client is made of both credentials, for an address that holds no login. -/
structure Client.IsMadeOf (client : Client) (settings : Settings) (username password : Bytes) :
    Prop where
  plain : HasPlainAddress settings
  made : ∃ credentials, Client.make settings credentials = .ok client ∧
    credentials.lookup "username" = some username ∧ credentials.lookup "password" = some password

/-- A request carries a login: in one header, in padded base 64, which stands for the user name and
the password, joined. -/
def CarriesLogin (request : Request) (username password : String) : Prop :=
  ∃ encoded, heardLogins request = some ["Basic " ++ String.ofList encoded] ∧
    Base64.IsPadded encoded (Utf8.encode (joined username password)) ∧
    loginText? ("Basic " ++ String.ofList encoded) = some (joined username password)

/-- What is heard of the logins of a client that is made of both credentials. -/
theorem Client.IsMadeOf.heardLogins_eq {username password : Bytes}
    (isMade : client.IsMadeOf settings username password) (sends : client.Sends request) :
    heardLogins request =
      some [basicAuth (Utf8.decodeLossy username) (some (Utf8.decodeLossy password))] := by
  obtain ⟨plain, credentials, made, hasUsername, hasPassword⟩ := isMade
  obtain ⟨other, madeToo, login⟩ := make_of_both hasUsername hasPassword settings
  cases made.symm.trans madeToo
  rw [heardLogins_of_make made sends, ownHeaders, plain, Client.givenHeaders, login]
  rfl

/-- Without both credentials no login is heard. -/
theorem heardLogins_of_lacking (plain : HasPlainAddress settings)
    (made : Client.make settings credentials = .ok client)
    (lacking : credentials.lookup "username" = none ∨ credentials.lookup "password" = none)
    (sends : client.Sends request) : heardLogins request = some [] := by
  rw [heardLogins_of_make made sends, ownHeaders, plain, Client.givenHeaders,
    login_of_make made lacking]
  rfl

end

/-- A client can be made of every two credentials, whatever their bytes are, and for an address that
holds no login all requests of its queries and its health checks carry the two, in one header. What
is read from the header is cut at its first colon into both texts exactly if the user name holds no
colon, and two clients send the same header exactly if the joined texts are the same. Without both
credentials no such header is sent. -/
theorem login_is_carried :
    (∀ settings (credentials : Credentials) username password,
      credentials.lookup "username" = some username →
        credentials.lookup "password" = some password →
          ∃ client, Client.make settings credentials = .ok client) ∧
      (∀ (client : Client) settings username password,
        client.IsMadeOf settings username password → ∀ request, client.Sends request →
          CarriesLogin request (Utf8.decodeLossy username) (Utf8.decodeLossy password)) ∧
      (∀ username password : String,
        splitFirst? (· == ':') (joined username password).toList =
          some (username.toList, password.toList) ↔ ':' ∉ username.toList) ∧
      (∀ (client other : Client) settings otherSettings username password otherUsername
          otherPassword,
        client.IsMadeOf settings username password →
          other.IsMadeOf otherSettings otherUsername otherPassword →
            ∀ request otherRequest, client.Sends request → other.Sends otherRequest →
              (heardLogins request = heardLogins otherRequest ↔
                joined (Utf8.decodeLossy username) (Utf8.decodeLossy password) =
                  joined (Utf8.decodeLossy otherUsername) (Utf8.decodeLossy otherPassword))) ∧
      ∀ settings (credentials : Credentials) client, HasPlainAddress settings →
        Client.make settings credentials = .ok client →
          credentials.lookup "username" = none ∨ credentials.lookup "password" = none →
            ∀ request, client.Sends request → heardLogins request = some [] := by
  refine ⟨?_, ?_, fun username password => splitFirst?_joined, ?_, ?_⟩
  · intro settings credentials username password hasUsername hasPassword
    obtain ⟨client, made, _⟩ := make_of_both hasUsername hasPassword settings
    exact ⟨client, made⟩
  · intro client settings username password isMade request sends
    exact ⟨_, isMade.heardLogins_eq sends, Base64.isPadded_encode _, loginText?_basicAuth _ _⟩
  · intro client other settings otherSettings username password otherUsername otherPassword
      isMade isMadeToo request otherRequest sends sendsToo
    rw [isMade.heardLogins_eq sends, isMadeToo.heardLogins_eq sendsToo, Option.some.injEq,
      List.singleton_inj, basicAuth_eq_iff]
  · intro settings credentials client plain made lacking request sends
    exact heardLogins_of_lacking plain made lacking sends

/-- A colon at the end of one user name and at the beginning of another password makes two logins
the same. -/
theorem login_is_carried_ambiguous :
    ∃ first second,
      Client.make ⟨"prometheus", "http://a"⟩
          [("username", [0x61, 0x3A]), ("password", [0xFF])] = .ok first ∧
        Client.make ⟨"", "https://b:81/"⟩
          [("password", [0x3A, 0xFE]), ("username", [0x61])] = .ok second ∧
        ∃ request ∈ (first.check fun _ => .silent).sent,
          ∃ other ∈ (second.ask (fun _ => .silent) "up").sent,
            CarriesLogin request "a:" "\uFFFD" ∧ heardLogins request = heardLogins other := by
  obtain ⟨made, carried, _, same, _⟩ := login_is_carried
  obtain ⟨first, madeFirst⟩ := made ⟨"prometheus", "http://a"⟩
    [("username", [0x61, 0x3A]), ("password", [0xFF])] _ _ rfl rfl
  obtain ⟨second, madeSecond⟩ := made ⟨"", "https://b:81/"⟩
    [("password", [0x3A, 0xFE]), ("username", [0x61])] _ _ rfl rfl
  have isMade : first.IsMadeOf ⟨"prometheus", "http://a"⟩ [0x61, 0x3A] [0xFF] :=
    ⟨by decide +kernel, _, madeFirst, rfl, rfl⟩
  have isMadeToo : second.IsMadeOf ⟨"", "https://b:81/"⟩ [0x61] [0x3A, 0xFE] :=
    ⟨by decide +kernel, _, madeSecond, rfl, rfl⟩
  have built : (first.check fun _ => .silent).sent ≠ [] := by
    cases madeFirst
    decide +kernel
  have builtToo : (second.ask (fun _ => .silent) "up").sent ≠ [] := by
    cases madeSecond
    decide +kernel
  obtain ⟨request, sent⟩ := List.exists_mem_of_ne_nil _ built
  obtain ⟨other, sentToo⟩ := List.exists_mem_of_ne_nil _ builtToo
  have sends : first.Sends request := ⟨_, .inr sent⟩
  have sendsToo : second.Sends other := ⟨_, .inl ⟨_, sentToo⟩⟩
  have texts := carried first _ _ _ isMade request sends
  exact ⟨first, second, madeFirst, madeSecond, request, sent, other, sentToo, texts,
    (same _ _ _ _ _ _ _ _ isMade isMadeToo request other sends sendsToo).2 (by decide)⟩

end MetricProbe.Prometheus
