import MetricProbe.Proofs.Http.Outcomes
import MetricProbe.Proofs.Http.Parameters
import MetricProbe.Proofs.Url.Destination

/-!
# Where requests go

Every request of an HTTP client goes to the scheme, host and port of the configured address, and if
the address is none, nothing is sent. An address that is a scheme with nothing but slashes behind it
is the exception: it is none, but requests are sent nevertheless, to the host `api`, which is the
first segment of the path.

Slashes at the end of an address do not matter to its clients.
-/

namespace MetricProbe

open Http (Request)

/-! ## The aim of a call -/

/-- Where the requests of an attempt go whose address is configured. -/
structure Aimed {α : Type} (address : String) (attempt : Attempt Request α) : Prop where
  /-- A request goes where the address leads by itself. -/
  aimed : ¬ Url.IsBareScheme address →
    ∀ request ∈ attempt.sent, Url.origin? address = some request.url.origin
  /-- If the address leads nowhere, nothing is sent, and the attempt fails for that reason. -/
  nowhere : ¬ Url.IsBareScheme address → Url.origin? address = none →
    attempt.sent = [] ∧ attempt.outcome = .error (.transport .unsendable)
  /-- A bare scheme leads nowhere, but requests go to the first segment of the path. -/
  bare : Url.IsBareScheme address →
    Url.origin? address = none ∧ ∀ request ∈ attempt.sent, request.url.host = "api"

/-- The stem of all paths begins with a slash. -/
theorem Url.slashed_stem : ∀ d ∈ "/api/v1".toList.head?, Url.isSlash d = true := by
  have first : "/api/v1".toList.head? = some '/' := by decide +kernel
  rw [first]
  rintro d ⟨⟩
  rfl

/-- The stem of all paths leads to the host that its first segment names. -/
theorem Url.host_of_stem {scheme : Url.Scheme} {origin : Url.Scheme × String × Option Nat}
    (leads : Url.originOf? scheme (Url.authorityOf "/api/v1".toList) = some origin) :
    origin.2.1 = "api" := by
  have host : Url.originOf? scheme (Url.authorityOf "/api/v1".toList) =
      some (scheme, "api", none) := by
    cases scheme <;> decide +kernel
  cases host.symm.trans leads
  rfl

/-- An attempt for an endpoint of an address is aimed, if nothing else keeps it from being made. -/
theorem aimed_of_sent {α : Type} {address path : String} {attempt : Attempt Request α}
    (stemmed : Url.Extends path "/api/v1".toList)
    (leads : ∀ request ∈ attempt.sent,
      Url.origin? (Text.trimEndOf '/' address ++ path) = some request.url.origin)
    (unsent : attempt.sent = [] → attempt.outcome = .error (.transport .unsendable)) :
    Aimed address attempt := by
  have aimed (named : ¬ Url.IsBareScheme address) :
      ∀ request ∈ attempt.sent, Url.origin? address = some request.url.origin :=
    fun request sent => stemmed.origin?_of_endpoint Url.slashed_stem named (leads request sent)
  refine ⟨aimed, fun named none => ?_, fun bare => ⟨Url.origin?_of_bare bare, ?_⟩⟩
  · have silent : attempt.sent = [] := by
      refine List.eq_nil_iff_forall_not_mem.2 fun request sent => ?_
      cases none.symm.trans (aimed named request sent)
    exact ⟨silent, unsent silent⟩
  · intro request sent
    obtain ⟨scheme, origin⟩ := stemmed.origin?_endpoint_of_bare Url.slashed_stem bare
      (leads request sent)
    exact Url.host_of_stem origin

/-! ## Settings -/

namespace Settings

/-- An address that is configured is used. -/
theorem addressOr_of_ne {settings : Settings} (configured : settings.address ≠ "")
    (fallback : String) : settings.addressOr fallback = settings.address :=
  if_neg (by simpa [String.isEmpty_iff] using configured)

/-- The settings with slashes behind the address. -/
def slashed (settings : Settings) (count : Nat) : Settings :=
  { settings with address := settings.address ++ String.ofList (List.replicate count '/') }

/-- Slashes at the end of an address do not matter. -/
theorem trimEndOf_slashed {settings : Settings} (configured : settings.address ≠ "") (count : Nat)
    (fallback : String) :
    Text.trimEndOf '/' ((settings.slashed count).addressOr fallback) =
      Text.trimEndOf '/' (settings.addressOr fallback) := by
  have configuredToo : (settings.slashed count).address ≠ "" := by
    intro empty
    exact configured (String.append_eq_empty_iff.1 empty).1
  rw [addressOr_of_ne configured, addressOr_of_ne configuredToo, slashed, Text.trimEndOf,
    Text.trimEndOf, String.toList_append, String.toList_ofList]
  refine congrArg String.ofList (Text.dropEndWhile_append_of_all _ fun c inside => ?_)
  rw [List.eq_of_mem_replicate inside]
  rfl

end Settings

/-- A request for the address of an endpoint leads where the endpoint does. -/
theorem origin?_of_read? {settings : Settings} {fallback path : String} {url : Url}
    {login : Option Login} (configured : settings.address ≠ "")
    (read : Url.read? (Text.trimEndOf '/' (settings.addressOr fallback) ++ path) =
      some (url, login)) :
    Url.origin? (Text.trimEndOf '/' settings.address ++ path) = some url.origin := by
  rw [settings.addressOr_of_ne configured] at read
  rw [Url.origin?, read]
  rfl

/-! ## Datadog -/

namespace Datadog.Client

variable {interval : String} {settings : Settings} {credentials : Credentials} {client : Client}
  {network : Http.Network}

/-- Where the requests of queries go. -/
theorem aimed_ask (configured : settings.address ≠ "")
    (made : make interval settings credentials = .ok client) (now : Int) (query : String) :
    Aimed settings.address (client.ask network now query) := by
  refine aimed_of_sent extends_queryPath (fun request sent => ?_) (isCall_ask now query).unsent
  obtain ⟨base, authorized, rfl⟩ := mem_sent_ask_iff.1 sent
  obtain ⟨login, read⟩ := exists_read?_of_authorized? authorized
  rw [(endpoints_of_make made).1] at read
  have leads := origin?_of_read? configured read
  exact leads

/-- Where the requests of health checks go. -/
theorem aimed_check (configured : settings.address ≠ "")
    (made : make interval settings credentials = .ok client) :
    Aimed settings.address (client.check network) := by
  refine aimed_of_sent extends_validatePath (fun request sent => ?_) (isCall_check made).unsent
  rw [check, Http.sent_call, Option.mem_toList] at sent
  obtain ⟨login, read⟩ := exists_read?_of_authorized? sent
  rw [(endpoints_of_make made).2] at read
  exact origin?_of_read? configured read

/-- Slashes at the end of an address do not matter to a client. -/
theorem make_slashed (configured : settings.address ≠ "") (count : Nat) :
    make interval (settings.slashed count) credentials = make interval settings credentials := by
  rw [make, make, settings.trimEndOf_slashed configured]

end Datadog.Client

/-! ## Prometheus -/

namespace Prometheus.Client

variable {settings : Settings} {credentials : Credentials} {client : Client}
  {network : Http.Network}

/-- The path goes on behind the same stem. -/
theorem extends_queryPath : Url.Extends queryPath "/api/v1".toList where
  named := by decide
  behind := ⟨"query".toList, rfl⟩
  plain := by decide

/-- Where the requests of queries go. -/
theorem aimed_ask (configured : settings.address ≠ "") (made : make settings credentials = .ok client)
    (query : String) : Aimed settings.address (client.ask network query) := by
  refine aimed_of_sent extends_queryPath (fun request sent => ?_) (isCall_ask query).unsent
  obtain ⟨base, authorized, rfl⟩ := mem_sent_ask_iff.1 sent
  obtain ⟨login, read⟩ := exists_read?_of_authorized? authorized
  rw [endpoint_of_make made] at read
  have leads := origin?_of_read? configured read
  exact leads

/-- Where the requests of health checks go. -/
theorem aimed_check (configured : settings.address ≠ "")
    (made : make settings credentials = .ok client) :
    Aimed settings.address (client.check network) := by
  have ask : Aimed settings.address (client.ask network onlineQuery) :=
    aimed_ask configured made onlineQuery
  refine ⟨?_, ?_, ?_⟩
  · rw [sent_check]
    exact ask.aimed
  · intro named none
    obtain ⟨silent, failed⟩ := ask.nowhere named none
    rw [sent_check, outcome_check, failed]
    exact ⟨silent, rfl⟩
  · rw [sent_check]
    exact ask.bare

/-- Slashes at the end of an address do not matter to a client. -/
theorem make_slashed (configured : settings.address ≠ "") (count : Nat) :
    make (settings.slashed count) credentials = make settings credentials := by
  rw [make, make, settings.trimEndOf_slashed configured]

end Prometheus.Client

/-! ## Both clients -/

/-- The queries and the health checks of both clients send requests only to where the configured
address leads, over every network; if it leads nowhere, they fail without a request. For a bare
scheme, that is not so. Any number of slashes behind the address leaves the clients as they are. -/
theorem requests_go_to_address (network : Http.Network) {settings : Settings}
    (configured : settings.address ≠ "") :
    (∀ interval credentials client,
      Datadog.Client.make interval settings credentials = .ok client →
        (∀ now query, Aimed settings.address (client.ask network now query)) ∧
          Aimed settings.address (client.check network)) ∧
      (∀ credentials client, Prometheus.Client.make settings credentials = .ok client →
        (∀ query, Aimed settings.address (client.ask network query)) ∧
          Aimed settings.address (client.check network)) ∧
      ∀ count,
        (∀ interval credentials,
          Datadog.Client.make interval (settings.slashed count) credentials =
            Datadog.Client.make interval settings credentials) ∧
        ∀ credentials, Prometheus.Client.make (settings.slashed count) credentials =
          Prometheus.Client.make settings credentials := by
  refine ⟨fun interval credentials client made => ?_, fun credentials client made => ?_,
    fun count => ⟨fun interval credentials => ?_, fun credentials => ?_⟩⟩
  · exact ⟨Datadog.Client.aimed_ask configured made, Datadog.Client.aimed_check configured made⟩
  · exact ⟨Prometheus.Client.aimed_ask configured made,
      Prometheus.Client.aimed_check configured made⟩
  · exact Datadog.Client.make_slashed configured count
  · exact Prometheus.Client.make_slashed configured count

/-- A query goes to the host and the port of its address. -/
theorem requests_go_to_address_port :
    ∃ client,
      Datadog.Client.make "1m" ⟨"datadog", "http://dog:81//"⟩
          [("datadog_api_key", [0x61]), ("datadog_application_key", [0x62])] = .ok client ∧
        ∃ request ∈ (client.ask (fun _ => .silent) 1000 "load").sent,
          Url.origin? "http://dog:81//" = some request.url.origin := by
  have made : Datadog.Client.make "1m" ⟨"datadog", "http://dog:81//"⟩
      [("datadog_api_key", [0x61]), ("datadog_application_key", [0x62])] =
      .ok ⟨"http://dog:81/api/v1/query", "http://dog:81/api/v1/validate", "a", "b", 600⟩ := by
    decide +kernel
  have built : (Datadog.Client.ask ⟨"http://dog:81/api/v1/query", "http://dog:81/api/v1/validate",
      "a", "b", 600⟩ (fun _ => .silent) 1000 "load").sent ≠ [] := by decide +kernel
  obtain ⟨request, sent⟩ := List.exists_mem_of_ne_nil _ built
  have goes := (@requests_go_to_address (fun _ => .silent) ⟨"datadog", "http://dog:81//"⟩
    (by decide)).1 _ _ _ made
  exact ⟨_, made, request, sent, (goes.1 1000 "load").aimed (by decide +kernel) request sent⟩

/-- A health check for an address that names no host sends the keys to the host `api`. -/
theorem requests_leave_bare_scheme :
    ∃ client,
      Datadog.Client.make "1m" ⟨"datadog", "http://"⟩
          [("datadog_api_key", [0x61]), ("datadog_application_key", [0x62])] = .ok client ∧
        Url.read? "http://" = none ∧
        (client.check fun _ => .refused).sent =
          [⟨⟨.http, "api", none, "/v1/validate".toList, none⟩,
            [("dd-api-key", "a"), ("dd-application-key", "b")]⟩] := by
  have made : Datadog.Client.make "1m" ⟨"datadog", "http://"⟩
      [("datadog_api_key", [0x61]), ("datadog_application_key", [0x62])] =
      .ok ⟨"http:/api/v1/query", "http:/api/v1/validate", "a", "b", 600⟩ := by
    decide +kernel
  exact ⟨_, made, by decide +kernel, by decide +kernel⟩

end MetricProbe
