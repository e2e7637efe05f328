import MetricProbe.Proofs.Http.Clients

/-!
# Parameters of requests

The text of a query goes nowhere but into the value of one parameter. A request for an endpoint
carries the parameters that the endpoint has itself, and behind them those of the query, each as it
was given; everything else about the request is the same for every query. So a text can neither add
a parameter nor change another one, and what was asked can be read off the address.
-/

namespace MetricProbe

open Http (Request)

/-! ## Requests -/

/-- The parameters that the text of an address has itself. -/
def Url.ownParameters (text : String) : List (String × String) :=
  (Url.read? text).elim [] fun (url, _) => url.parameters

/-- An address without a question mark has no parameters. -/
theorem Url.ownParameters_of_free {text : String} (free : '?' ∉ text.toList) :
    Url.ownParameters text = [] := by
  unfold Url.ownParameters
  cases read : Url.read? text with
  | none => rfl
  | some parts =>
      have none := Url.query_of_free read free
      change Url.Form.read (parts.1.query.getD []) = []
      rw [none]
      rfl

namespace Http.Request

/-- Everything about a request but its query. -/
def apart (request : Request) : Request := { request with url := request.url.place }

/-- The query of a request for an endpoint consists of the endpoint's own parameters and, behind
them, the given ones. It is written in visible characters of ASCII that begin no fragment. -/
structure Carries (request : Request) (endpoint : String) (pairs : List (String × String)) :
    Prop where
  parameters : request.url.parameters = Url.ownParameters endpoint ++ pairs
  visible : ∃ query, request.url.query = some query ∧ ∀ c ∈ query, Url.isVisible c = true

variable {base request other : Request} {endpoint : String}
  {pairs otherPairs : List (String × String)}

/-- Parameters change nothing but the query. -/
theorem apart_withQuery (request : Request) (pairs : List (String × String)) :
    (request.withQuery pairs).apart = request.apart := rfl

/-- A request for an endpoint carries the parameters that are added to it. -/
theorem carries_withQuery {login : Option Login}
    (read : Url.read? endpoint = some (base.url, login)) (filled : pairs ≠ []) :
    (base.withQuery pairs).Carries endpoint pairs where
  parameters := by
    rw [withQuery, Url.parameters_addQuery base.url filled, Url.ownParameters, read]
    rfl
  visible := by
    have given := Url.query_addQuery base.url filled
    have visible := Url.isVisible_addQuery
      (fun c inside => Url.isVisible_of_mem_query read inside) filled
    rw [given, Option.getD_some] at visible
    exact ⟨_, given, visible⟩

/-- An endpoint without a question mark adds no parameters. -/
theorem Carries.parameters_of_free (carries : request.Carries endpoint pairs)
    (free : '?' ∉ endpoint.toList) : request.url.parameters = pairs := by
  rw [carries.parameters, Url.ownParameters_of_free free, List.nil_append]

/-- Requests for one endpoint that are alike apart from the query carry different parameters to
different addresses. -/
theorem Carries.pairs_eq (carries : request.Carries endpoint pairs)
    (otherCarries : other.Carries endpoint otherPairs) (alike : other.apart = request.apart)
    (same : other.url.toText = request.url.toText) : otherPairs = pairs := by
  obtain ⟨query, given, _⟩ := carries.visible
  obtain ⟨otherQuery, otherGiven, _⟩ := otherCarries.visible
  have places : other.url.place = request.url.place := congrArg Request.url alike
  have queries := Url.query_eq_of_toText_eq places otherGiven given same
  have parameters : other.url.parameters = request.url.parameters := by
    rw [Url.parameters, Url.parameters, given, otherGiven, queries]
  rw [carries.parameters, otherCarries.parameters] at parameters
  exact List.append_cancel_left parameters

/-- Requests for one endpoint that are made by adding parameters are alike, and parameters that
differ lead to different addresses. -/
theorem alike_withQuery {login : Option Login}
    (read : Url.read? endpoint = some (base.url, login)) (filled : pairs ≠ [])
    (otherFilled : otherPairs ≠ []) :
    (base.withQuery otherPairs).apart = (base.withQuery pairs).apart ∧
      ((base.withQuery otherPairs).url.toText = (base.withQuery pairs).url.toText →
        otherPairs = pairs) := by
  have alike : (base.withQuery otherPairs).apart = (base.withQuery pairs).apart := by
    rw [apart_withQuery, apart_withQuery]
  exact ⟨alike, fun same =>
    (carries_withQuery read filled).pairs_eq (carries_withQuery read otherFilled) alike same⟩

end Http.Request

/-! ## Settings -/

/-- An endpoint has a question mark only if the configured address does. -/
theorem Settings.free_endpoint {settings : Settings} {fallback path : String}
    (free : '?' ∉ settings.address.toList) (fallbackFree : '?' ∉ fallback.toList)
    (pathFree : '?' ∉ path.toList) :
    '?' ∉ (Text.trimEndOf '/' (settings.addressOr fallback) ++ path).toList := by
  have addressFree : '?' ∉ (settings.addressOr fallback).toList := by
    unfold Settings.addressOr
    split
    · exact fallbackFree
    · exact free
  rw [String.toList_append, List.mem_append, Text.trimEndOf, String.toList_ofList,
    Text.dropEndWhile, List.mem_reverse]
  rintro (inAddress | inPath)
  · exact addressFree (List.mem_reverse.1 ((List.dropWhile_suffix _).subset inAddress))
  · exact pathFree inPath

/-! ## Both clients -/

/-- The pairs that Datadog is asked for: the query and the ends of the window. -/
def Datadog.Client.asked (client : Client) (now : Int) (query : String) :
    List (String × String) :=
  [("query", query), ("from", toString (now - client.window)), ("to", toString now)]

/-- The requests that Datadog is sent for queries differ in what is asked only. -/
theorem Datadog.Client.mem_sent_ask_iff {client : Client} {network : Http.Network} {now : Int}
    {query : String} {request : Request} :
    request ∈ (client.ask network now query).sent ↔
      ∃ base, client.authorized? client.queryEndpoint = some base ∧
        base.withQuery (client.asked now query) = request := by
  rw [ask, Http.sent_call, Option.mem_toList, queryRequest?, Option.map_eq_some_iff]
  rfl

/-- The pair that Prometheus is asked for: the query. -/
def Prometheus.asked (query : String) : List (String × String) := [("query", normalize query)]

/-- The requests that Prometheus is sent for queries differ in what is asked only. -/
theorem Prometheus.Client.mem_sent_ask_iff {client : Client} {network : Http.Network}
    {query : String} {request : Request} :
    request ∈ (client.ask network query).sent ↔
      ∃ base, client.authorized? = some base ∧ base.withQuery (asked query) = request := by
  rw [ask, Http.sent_call, Option.mem_toList, queryRequest?_eq, Option.map_eq_some_iff]
  rfl

/-- A query of Datadog stays one parameter, beside the window and behind the address's own. -/
theorem Datadog.Client.query_stays_parameter {interval : String} {settings : Settings}
    {credentials : Credentials} {client : Client} {network : Http.Network} {now : Int}
    {query : String} {request : Request} (made : make interval settings credentials = .ok client)
    (sent : request ∈ (client.ask network now query).sent) :
    request.Carries client.queryEndpoint (client.asked now query) ∧
      ('?' ∉ settings.address.toList → request.url.parameters = client.asked now query) ∧
      ∀ otherNow otherQuery, ∀ other ∈ (client.ask network otherNow otherQuery).sent,
        other.apart = request.apart ∧
          (other.url.toText = request.url.toText → otherQuery = query) := by
  obtain ⟨base, authorized, rfl⟩ := mem_sent_ask_iff.1 sent
  obtain ⟨login, read⟩ := exists_read?_of_authorized? authorized
  have carries : (base.withQuery (client.asked now query)).Carries client.queryEndpoint
      (client.asked now query) := Request.carries_withQuery read (List.cons_ne_nil _ _)
  refine ⟨carries, fun free => carries.parameters_of_free ?_,
    fun otherNow otherQuery other otherSent => ?_⟩
  · rw [(endpoints_of_make made).1]
    exact Settings.free_endpoint free (by decide) (by decide)
  · obtain ⟨otherBase, otherAuthorized, rfl⟩ := mem_sent_ask_iff.1 otherSent
    obtain rfl := Option.some.inj (authorized.symm.trans otherAuthorized)
    obtain ⟨alike, apart⟩ := Request.alike_withQuery read
      (List.cons_ne_nil _ _ : client.asked now query ≠ [])
      (List.cons_ne_nil _ _ : client.asked otherNow otherQuery ≠ [])
    refine ⟨alike, fun same => ?_⟩
    have pairs := apart same
    simp only [List.cons.injEq, Prod.mk.injEq] at pairs
    exact pairs.1.2

/-- A query of Prometheus stays the one parameter behind the address's own. -/
theorem Prometheus.Client.query_stays_parameter {settings : Settings} {credentials : Credentials}
    {client : Client} {network : Http.Network} {query : String} {request : Request}
    (made : make settings credentials = .ok client)
    (sent : request ∈ (client.ask network query).sent) :
    request.Carries client.queryEndpoint (asked query) ∧
      ('?' ∉ settings.address.toList → request.url.parameters = asked query) ∧
      ∀ otherQuery, ∀ other ∈ (client.ask network otherQuery).sent,
        other.apart = request.apart ∧
          (other.url.toText = request.url.toText → normalize otherQuery = normalize query) := by
  obtain ⟨base, authorized, rfl⟩ := mem_sent_ask_iff.1 sent
  obtain ⟨login, read⟩ := exists_read?_of_authorized? authorized
  have carries : (base.withQuery (asked query)).Carries client.queryEndpoint (asked query) :=
    Request.carries_withQuery read (List.cons_ne_nil _ _)
  refine ⟨carries, fun free => carries.parameters_of_free ?_,
    fun otherQuery other otherSent => ?_⟩
  · rw [endpoint_of_make made]
    exact Settings.free_endpoint free (by decide) (by decide)
  · obtain ⟨otherBase, otherAuthorized, rfl⟩ := mem_sent_ask_iff.1 otherSent
    obtain rfl := Option.some.inj (authorized.symm.trans otherAuthorized)
    obtain ⟨alike, apart⟩ := Request.alike_withQuery read
      (List.cons_ne_nil _ _ : asked query ≠ []) (List.cons_ne_nil _ _ : asked otherQuery ≠ [])
    refine ⟨alike, fun same => ?_⟩
    have pairs := apart same
    simp only [List.cons.injEq, Prod.mk.injEq] at pairs
    exact pairs.1.2

/-- Every request that is sent for a query carries the query as one parameter, behind those of the
address and beside none but the window that Datadog is asked for. Requests of one client for
different queries differ in nothing but the query of their addresses, and in that. -/
theorem queries_stay_parameters (network : Http.Network) :
    (∀ interval settings credentials client,
      Datadog.Client.make interval settings credentials = .ok client →
        ∀ now query, ∀ request ∈ (client.ask network now query).sent,
          request.Carries client.queryEndpoint
            [("query", query), ("from", toString (now - client.window)), ("to", toString now)] ∧
          ('?' ∉ settings.address.toList → request.url.parameters =
            [("query", query), ("from", toString (now - client.window)),
              ("to", toString now)]) ∧
          ∀ otherNow otherQuery, ∀ other ∈ (client.ask network otherNow otherQuery).sent,
            other.apart = request.apart ∧
            (other.url.toText = request.url.toText → otherQuery = query)) ∧
      ∀ settings credentials client, Prometheus.Client.make settings credentials = .ok client →
        ∀ query, ∀ request ∈ (client.ask network query).sent,
          request.Carries client.queryEndpoint [("query", Prometheus.normalize query)] ∧
          ('?' ∉ settings.address.toList → request.url.parameters =
            [("query", Prometheus.normalize query)]) ∧
          ∀ otherQuery, ∀ other ∈ (client.ask network otherQuery).sent,
            other.apart = request.apart ∧
            (other.url.toText = request.url.toText →
              Prometheus.normalize otherQuery = Prometheus.normalize query) := by
  constructor
  · intro interval settings credentials client made now query request sent
    exact Datadog.Client.query_stays_parameter made sent
  · intro settings credentials client made query request sent
    exact Prometheus.Client.query_stays_parameter made sent

/-- A text that looks like an end of the window is asked for as it is, and the window stays. -/
theorem queries_stay_parameters_ampersand :
    ∃ client,
      Datadog.Client.make "1m" ⟨"datadog", "http://dog"⟩
          [("datadog_api_key", [0x61]), ("datadog_application_key", [0x62])] = .ok client ∧
        ∃ request ∈ (client.ask (fun _ => .silent) 1000 "load&to=0#").sent,
          request.url.parameters = [("query", "load&to=0#"), ("from", "400"), ("to", "1000")] := by
  have made : Datadog.Client.make "1m" ⟨"datadog", "http://dog"⟩
      [("datadog_api_key", [0x61]), ("datadog_application_key", [0x62])] =
      .ok ⟨"http://dog/api/v1/query", "http://dog/api/v1/validate", "a", "b", 600⟩ := by
    decide +kernel
  have built : (Datadog.Client.ask ⟨"http://dog/api/v1/query", "http://dog/api/v1/validate", "a",
      "b", 600⟩ (fun _ => .silent) 1000 "load&to=0#").sent ≠ [] := by decide +kernel
  obtain ⟨request, sent⟩ := List.exists_mem_of_ne_nil _ built
  have stays := (queries_stay_parameters fun _ => .silent).1 _ _ _ _ made _ _ request sent
  exact ⟨_, made, request, sent, stays.2.1 (by decide)⟩

end MetricProbe
