import MetricProbe.Proofs.Http.Clients
import MetricProbe.Proofs.Http.Head

/-!
# The keys of Datadog

Both keys reach the backend whole, each in its own header, or nothing is sent at all. A key with a
control character cannot be a header's value, and bytes that are not UTF-8 hide none: reading them
lossily keeps every control character, and makes up none.

What is heard of a request is compared with what is heard of the same request without keys, which
depends on the address, the window and the query only. So a key is in no other header, it does not
begin another field or another request, and it changes nothing about what is asked.
-/

namespace MetricProbe.Datadog

open Http (HasControl IsControlByte Request hear? isHeaderValue trimmed)

/-! ## Requests with keys -/

/-- The address of the endpoint at a path. -/
def endpoint (settings : Settings) (path : String) : String :=
  Text.trimEndOf '/' (settings.addressOr defaultAddress) ++ path

/-- The request of a query without its keys. -/
def bareQuery? (settings : Settings) (interval : Interval) (now : Int) (query : String) :
    Option Request :=
  (Http.get? (endpoint settings queryPath)).map (·.withQuery
    [("query", query), ("from", toString (now - interval.lookbackSeconds windowIntervals)),
      ("to", toString now)])

/-- The request of a health check without its keys. -/
def bareCheck? (settings : Settings) : Option Request :=
  Http.get? (endpoint settings validatePath)

/-- A request with both keys. -/
def withKeys (apiKey applicationKey : String) (bare : Request) : Request :=
  { bare with headers :=
      bare.headers ++ [(apiKeyHeader, apiKey), (applicationKeyHeader, applicationKey)] }

/-- A request with both keys, if both may be the value of a header. -/
def keyed? (apiKey applicationKey : String) (bare? : Option Request) : Option Request :=
  if isHeaderValue apiKey ∧ isHeaderValue applicationKey then
    bare?.map (withKeys apiKey applicationKey)
  else none

/-- The keys are added to the request for an endpoint. -/
theorem authorized?_eq (client : Client) (endpoint : String) :
    client.authorized? endpoint =
      keyed? client.apiKey client.applicationKey (Http.get? endpoint) := by
  simp only [Client.authorized?, keyed?, Request.withHeader?]
  cases Http.get? endpoint with
  | none => simp
  | some request =>
      cases isHeaderValue client.apiKey <;> cases isHeaderValue client.applicationKey <;>
        simp [withKeys]

/-- Keys and parameters do not touch each other. -/
theorem queryRequest?_eq {interval : Interval} {settings : Settings}
    {apiKey applicationKey : String} (now : Int) (query : String) :
    (Client.ofKeys interval settings apiKey applicationKey).queryRequest? now query =
      keyed? apiKey applicationKey (bareQuery? settings interval now query) := by
  have authorized : (Client.ofKeys interval settings apiKey applicationKey).authorized?
      (endpoint settings queryPath) =
        keyed? apiKey applicationKey (Http.get? (endpoint settings queryPath)) :=
    authorized?_eq _ _
  have window : (Client.ofKeys interval settings apiKey applicationKey).window =
      interval.lookbackSeconds windowIntervals := by dsimp only [Client.ofKeys]
  rw [Client.queryRequest?, window]
  change Option.map _ (Client.authorized? _ (endpoint settings queryPath)) = _
  rw [authorized, keyed?, keyed?, bareQuery?]
  split
  · rw [Option.map_map, Option.map_map]
    rfl
  · rfl

/-- What is sent without keys is well formed, and its headers are no keys. -/
structure IsBare (bare : Request) : Prop where
  wellFormed : bare.WellFormed
  named : ∀ header ∈ bare.headers, header.1 = Http.authorization

/-- The request for an address carries no keys. -/
theorem isBare_of_get? {address : String} {bare : Request} (got : Http.get? address = some bare) :
    IsBare bare :=
  ⟨Request.wellFormed_of_get? got, fun _ inside => (Http.of_mem_headers_of_get? got inside).1⟩

/-- The request of a query carries no keys, before they are added. -/
theorem isBare_bareQuery? {settings : Settings} {interval : Interval} {now : Int} {query : String}
    {bare : Request} (built : bareQuery? settings interval now query = some bare) :
    IsBare bare := by
  obtain ⟨base, got, rfl⟩ := Option.map_eq_some_iff.1 built
  obtain ⟨wellFormed, named⟩ := isBare_of_get? got
  exact ⟨wellFormed.withQuery (List.cons_ne_nil _ _), named⟩

/-! ## What is heard -/

/-- How the keys travel with the requests of an attempt. What is heard of them is compared with what
is heard of the same request without keys. -/
structure KeysKept {α : Type} (bare? : Option Request) (apiKey applicationKey : String)
    (attempt : Attempt Request α) : Prop where
  /-- If either key has a control character, neither key is sent, and the attempt fails for that
  reason. -/
  withheld : HasControl apiKey ∨ HasControl applicationKey →
    attempt.sent = [] ∧ attempt.outcome = .error (.transport .unsendable)
  /-- Otherwise a request is sent, if there is one without keys. -/
  sent : ¬ HasControl apiKey → ¬ HasControl applicationKey →
    (attempt.sent ≠ [] ↔ bare?.isSome)
  /-- Each key is heard once, under its own name, and nothing else differs from what is heard
  without keys. -/
  heard : ∀ request ∈ attempt.sent, ∃ heard, hear? request.wire = some heard ∧
    heard.values "dd-api-key" = [trimmed apiKey] ∧
    heard.values "dd-application-key" = [trimmed applicationKey] ∧
    ∃ bare ∈ bare?, hear? bare.wire = some (heard.without ["dd-api-key", "dd-application-key"]) ∧
      heard.behind = []

section

variable {bare : Request} {apiKey applicationKey : String}

/-- Keys that may be headers' values keep a request well formed. -/
theorem IsBare.wellFormed_withKeys (isBare : IsBare bare) (legal : isHeaderValue apiKey = true)
    (legalToo : isHeaderValue applicationKey = true) :
    (withKeys apiKey applicationKey bare).WellFormed := by
  have named : Http.isFieldName apiKeyHeader = true := by decide
  have namedToo : Http.isFieldName applicationKeyHeader = true := by decide
  have second := (isBare.wellFormed.withHeader named legal).withHeader namedToo legalToo
  simpa [withKeys] using second

/-- The fields of a request with keys are its own and those of the keys. -/
theorem fields_withKeys (bare : Request) (apiKey applicationKey : String) :
    (withKeys apiKey applicationKey bare).fields =
      bare.fields ++ [("dd-api-key", trimmed apiKey),
        ("dd-application-key", trimmed applicationKey)] := by
  simp [withKeys, Request.fields, Request.written, Request.authority, apiKeyHeader,
    applicationKeyHeader]

/-- No field of a request without keys has the name of a key. -/
theorem IsBare.not_mem_of_mem_fields (isBare : IsBare bare) {field : String × String}
    (inside : field ∈ bare.fields) : field.1 ∉ ["dd-api-key", "dd-application-key"] := by
  obtain ⟨written, inWritten, rfl⟩ := List.mem_map.1 inside
  simp only [Request.written, List.mem_cons, List.mem_map] at inWritten
  rcases inWritten with rfl | rfl | rfl | ⟨header, isHeader, rfl⟩
  · simp
  · simp
  · simp
  · dsimp only
    rw [isBare.named header isHeader]
    decide

/-- Nothing is heard under the name of a key in a request without keys. -/
theorem IsBare.filter_fields (isBare : IsBare bare) {name : String}
    (isName : name ∈ ["dd-api-key", "dd-application-key"]) :
    bare.fields.filter (·.1 == name) = [] := by
  refine List.filter_eq_nil_iff.2 fun field inside same => isBare.not_mem_of_mem_fields inside ?_
  rwa [beq_iff_eq.1 same]

/-- What is heard of a request with keys. -/
theorem IsBare.hear?_withKeys (isBare : IsBare bare) (legal : isHeaderValue apiKey = true)
    (legalToo : isHeaderValue applicationKey = true) :
    ∃ heard, hear? (withKeys apiKey applicationKey bare).wire = some heard ∧
      heard.values "dd-api-key" = [trimmed apiKey] ∧
      heard.values "dd-application-key" = [trimmed applicationKey] ∧
      hear? bare.wire = some (heard.without ["dd-api-key", "dd-application-key"]) ∧
      heard.behind = [] := by
  have whole := (isBare.wellFormed_withKeys legal legalToo).hear?_wire
  rw [fields_withKeys] at whole
  refine ⟨_, whole, ?_, ?_, ?_, rfl⟩
  · simp [Http.Heard.values, isBare.filter_fields List.mem_cons_self]
  · have isName : "dd-application-key" ∈ ["dd-api-key", "dd-application-key"] :=
      List.mem_cons_of_mem _ List.mem_cons_self
    simp [Http.Heard.values, isBare.filter_fields isName]
  · have kept : bare.fields.filter
        (fun field => !(["dd-api-key", "dd-application-key"].contains field.1)) = bare.fields :=
      List.filter_eq_self.2 fun field inside => by
        simpa using isBare.not_mem_of_mem_fields inside
    rw [isBare.wellFormed.hear?_wire, Http.Heard.without, List.filter_append, kept]
    simp [Request.line, withKeys, Request.target]

/-- A call whose request is made by adding the keys keeps them. -/
theorem keysKept_call {α : Type} {bare? : Option Request} (isBare : ∀ bare ∈ bare?, IsBare bare)
    (network : Http.Network) (read : String → Outcome α) :
    KeysKept bare? apiKey applicationKey
      (Http.call network (keyed? apiKey applicationKey bare?) read) where
  withheld := by
    intro control
    have none : keyed? apiKey applicationKey bare? = none := by
      rw [keyed?, if_neg]
      rintro ⟨legal, legalToo⟩
      exact control.elim (Http.isHeaderValue_iff.1 legal) (Http.isHeaderValue_iff.1 legalToo)
    rw [none, Http.call_none]
    exact ⟨rfl, rfl⟩
  sent := by
    intro plain plainToo
    rw [Http.sent_call, keyed?,
      if_pos ⟨Http.isHeaderValue_iff.2 plain, Http.isHeaderValue_iff.2 plainToo⟩]
    cases bare? <;> simp
  heard := by
    intro request inside
    rw [Http.sent_call, Option.mem_toList, keyed?, Option.ite_none_right_eq_some] at inside
    obtain ⟨⟨legal, legalToo⟩, built⟩ := inside
    obtain ⟨bare, isGiven, rfl⟩ := Option.map_eq_some_iff.1 built
    obtain ⟨heard, whole, first, second, rest, nothing⟩ :=
      (isBare bare isGiven).hear?_withKeys legal legalToo
    exact ⟨heard, whole, first, second, bare, isGiven, rest, nothing⟩

end

/-! ## Both calls -/

/-- A client can be made of every two keys, whatever their bytes are, and its queries and its health
checks hand on both keys whole, each in its own header, or send nothing. The keys keep a request from
being sent exactly if the bytes of one of them hold a control character other than the tab. -/
theorem keys_whole_or_withheld {text : String} {interval : Interval} {settings : Settings}
    {credentials : Credentials} {apiKey applicationKey : Bytes}
    (read : Interval.read text = .ok interval)
    (hasApiKey : credentials.lookup "datadog_api_key" = some apiKey)
    (hasApplicationKey : credentials.lookup "datadog_application_key" = some applicationKey) :
    ∃ client, Client.make text settings credentials = .ok client ∧
      (∀ network now query,
        KeysKept (bareQuery? settings interval now query) (Utf8.decodeLossy apiKey)
          (Utf8.decodeLossy applicationKey) (client.ask network now query)) ∧
      (∀ network,
        KeysKept (bareCheck? settings) (Utf8.decodeLossy apiKey)
          (Utf8.decodeLossy applicationKey) (client.check network)) ∧
      (HasControl (Utf8.decodeLossy apiKey) ↔ ∃ byte ∈ apiKey, IsControlByte byte) ∧
      (HasControl (Utf8.decodeLossy applicationKey) ↔
        ∃ byte ∈ applicationKey, IsControlByte byte) := by
  have first : credentials.text? apiKeyName = some (Utf8.decodeLossy apiKey) := by
    rw [Credentials.text?, apiKeyName, hasApiKey, Option.map_some]
  have second : credentials.text? applicationKeyName = some (Utf8.decodeLossy applicationKey) := by
    rw [Credentials.text?, applicationKeyName, hasApplicationKey, Option.map_some]
  have made : Client.make text settings credentials = .ok (Client.ofKeys interval settings
      (Utf8.decodeLossy apiKey) (Utf8.decodeLossy applicationKey)) :=
    Client.make_eq_ok_iff.2 ⟨_, _, _, read, first, second, rfl⟩
  refine ⟨_, made, fun network now query => ?_, fun network => ?_,
    Http.hasControl_decodeLossy_iff, Http.hasControl_decodeLossy_iff⟩
  · rw [Client.ask, queryRequest?_eq]
    exact keysKept_call (fun bare => isBare_bareQuery?) network readResponse
  · rw [Client.check, Client.validateRequest?, authorized?_eq]
    exact keysKept_call (fun bare => isBare_of_get?) network _

/-- A key that is not UTF-8 and has a blank and a tab is sent; one with a line end keeps both keys
from being sent. -/
theorem keys_whole_or_withheld_line_end :
    (∃ client, Client.make "1m" ⟨"datadog", "http://dog"⟩
        [("datadog_api_key", [0x20, 0x61, 0xFF, 0x09, 0x62]),
          ("datadog_application_key", [0x63])] = .ok client ∧
      ∃ request ∈ (client.check fun _ => .silent).sent, ∃ heard,
        hear? request.wire = some heard ∧ heard.values "dd-api-key" = ["a\uFFFD\tb"] ∧
          heard.values "dd-application-key" = ["c"]) ∧
      ∃ client, Client.make "1m" ⟨"datadog", "http://dog"⟩
          [("datadog_api_key", [0x61, 0x0D, 0x0A, 0x78, 0x3A, 0x20, 0x79]),
            ("datadog_application_key", [0x63])] = .ok client ∧
        (client.check fun _ => .silent).sent = [] := by
  have read : Interval.read "1m" = .ok ⟨"1m", 60000000000, by decide⟩ := by decide +kernel
  constructor
  · obtain ⟨client, made, _, check, first, second⟩ :=
      @keys_whole_or_withheld "1m" _ ⟨"datadog", "http://dog"⟩
        [("datadog_api_key", [0x20, 0x61, 0xFF, 0x09, 0x62]), ("datadog_application_key", [0x63])]
        _ _ read rfl rfl
    have kept := check fun _ => .silent
    have sent := (kept.sent (by rw [first]; decide) (by rw [second]; decide)).2 (by decide +kernel)
    obtain ⟨request, inside⟩ := List.exists_mem_of_ne_nil _ sent
    obtain ⟨heard, whole, apiKey, applicationKey, _⟩ := kept.heard request inside
    refine ⟨client, made, request, inside, heard, whole, ?_, ?_⟩
    · rw [apiKey]
      decide
    · rw [applicationKey]
      decide
  · obtain ⟨client, made, _, check, first, _⟩ :=
      @keys_whole_or_withheld "1m" _ ⟨"datadog", "http://dog"⟩
        [("datadog_api_key", [0x61, 0x0D, 0x0A, 0x78, 0x3A, 0x20, 0x79]),
          ("datadog_application_key", [0x63])] _ _ read rfl rfl
    have withheld := (check fun _ => .silent).withheld (.inl (first.2 (by decide)))
    exact ⟨client, made, withheld.1⟩

end MetricProbe.Datadog
