import MetricProbe.Http.Exchange

/-!
# Calls over HTTP

A call is one request, if it can be built, and what is made of the answer. `Ends` is the table of
its ends: it is read off what becomes of the request, and only a body that comes with the status of
success is looked at. What is beyond the sender is arbitrary, so the table covers every backend.
-/

namespace MetricProbe.Http

variable {α : Type} {network : Network} {request? : Option Request} {read : String → Outcome α}

/-! ## Ends of calls -/

/-- How a call ends, by what becomes of its request and by what is read from a body. -/
inductive Ends (read : String → Outcome α) : Delivery → Outcome α → Prop
  | refused : Ends read .refused (.error (.transport .disconnected))
  | dropped : Ends read .dropped (.error (.transport .disconnected))
  | silent : Ends read .silent (.error (.transport .timedOut))
  | failure {status : Nat} (body : Bytes) (other : status ≠ 200) :
      Ends read (.answered status body) (.error (.errorResponse status (Utf8.decodeLossy body)))
  | success (body : Bytes) : Ends read (.answered 200 body) (read (Utf8.decodeLossy body))

/-- A call that cannot be built is not made. -/
theorem call_none : call network none read = .ofOutcome (.error (.transport .unsendable)) := rfl

/-- A call sends its request once, and nothing if it cannot be built. -/
theorem sent_call : (call network request? read).sent = request?.toList := by
  have silent (reply : Reply) :
      (do let body ← reply.success; read body : Attempt Request α).sent = [] :=
    Attempt.sent_bind_of_silent _ _ fun body => Attempt.sent_lift (read body)
  rw [call, Attempt.sent_bind_of_silent _ _ silent]
  cases request? <;> rfl

/-- What comes of a call that is made. -/
theorem outcome_call_some (request : Request) :
    (call network (some request) read).outcome =
      (network request).reply.bind fun reply => reply.success.bind read := by
  simp only [call, exchange, Attempt.outcome_bind, Attempt.outcome_lift]

/-- A call that is made ends as the table says. -/
theorem ends_call (request : Request) :
    Ends read (network request) (call network (some request) read).outcome := by
  rw [outcome_call_some]
  cases network request with
  | answered status body =>
      by_cases success : status = 200
      · subst success
        exact .success body
      · have outcome : Reply.success ⟨status, Utf8.decodeLossy body⟩ =
            .error (.errorResponse status (Utf8.decodeLossy body)) := if_neg success
        rw [Delivery.reply, Except.bind, outcome]
        exact .failure body success
  | refused => exact .refused
  | dropped => exact .dropped
  | silent => exact .silent

/-- A call is made exactly if it can be built, by one request, and ends as the table says; otherwise
nothing is sent, and it fails for that reason. -/
structure IsCall (buildable : Prop) (network : Network) (read : String → Outcome α)
    (attempt : Attempt Request α) : Prop where
  once : attempt.sent.length ≤ 1
  sent_iff : attempt.sent ≠ [] ↔ buildable
  unsent : attempt.sent = [] → attempt.outcome = .error (.transport .unsendable)
  ends : ∀ request ∈ attempt.sent, Ends read (network request) attempt.outcome

/-- A call is one. -/
theorem isCall_call {buildable : Prop} (built : request?.isSome ↔ buildable) :
    IsCall buildable network read (call network request? read) := by
  cases request? with
  | none =>
      have unbuildable : ¬ buildable := fun built' => nomatch built.2 built'
      rw [call_none]
      exact ⟨Nat.zero_le 1, ⟨fun sent => absurd rfl sent, fun built' => absurd built' unbuildable⟩,
        fun _ => rfl, fun _ inside => nomatch inside⟩
  | some request =>
      have sent : (call network (some request) read).sent = [request] := sent_call
      refine ⟨Nat.le_of_eq (congrArg List.length sent), ?_, ?_, ?_⟩
      · simpa [sent] using built
      · intro none
        rw [sent] at none
        cases none
      · intro other inside
        rw [sent, List.mem_singleton] at inside
        subst inside
        exact ends_call other

/-- A character that a header's value may hold. -/
def isHeaderChar (c : Char) : Bool := c == '\t' || !Url.isControl c

/-- A digit of base 64 may stand in a header's value. -/
theorem isHeaderChar_digit (value : Nat) : isHeaderChar (Base64.digit value) = true := by
  have digits : ∀ value < 63, isHeaderChar (Base64.digit value) = true := by decide
  by_cases small : value < 63
  · exact digits value small
  · have last : Base64.digit value = '/' := by
      unfold Base64.digit
      rw [if_neg (by omega), if_neg (by omega), if_neg (by omega), if_neg (by omega)]
    rw [last]
    rfl

/-- Bytes in base 64 may stand in a header's value. -/
theorem isHeaderChar_of_mem_encode {bytes : Bytes} {c : Char} (inside : c ∈ Base64.encode bytes) :
    isHeaderChar c = true := by
  induction bytes using Base64.encode.induct with
  | case1 => cases inside
  | case2 a =>
      simp only [Base64.encode, List.mem_cons, List.not_mem_nil, or_false] at inside
      rcases inside with rfl | rfl | rfl | rfl <;> first | exact isHeaderChar_digit _ | rfl
  | case3 a b =>
      simp only [Base64.encode, List.mem_cons, List.not_mem_nil, or_false] at inside
      rcases inside with rfl | rfl | rfl | rfl <;> first | exact isHeaderChar_digit _ | rfl
  | case4 a b c rest inductionHypothesis =>
      simp only [Base64.encode, List.mem_cons] at inside
      rcases inside with rfl | rfl | rfl | rfl | inside
      · exact isHeaderChar_digit _
      · exact isHeaderChar_digit _
      · exact isHeaderChar_digit _
      · exact isHeaderChar_digit _
      · exact inductionHypothesis inside

/-- A text of characters that a header's value may hold is one. -/
theorem isHeaderValue_of_forall {text : String} (legal : ∀ c ∈ text.toList, isHeaderChar c = true) :
    isHeaderValue text = true :=
  List.all_eq_true.2 legal

/-- A login may be the value of a header. -/
theorem isHeaderValue_basicAuth (user : String) (password : Option String) :
    isHeaderValue (basicAuth user password) = true := by
  have scheme : "Basic ".toList.all isHeaderChar = true := by decide
  refine isHeaderValue_of_forall fun c inside => ?_
  rw [basicAuth, String.toList_append] at inside
  rcases List.mem_append.1 inside with first | second
  · exact List.all_eq_true.1 scheme c first
  · rw [String.toList_ofList] at second
    exact isHeaderChar_of_mem_encode second

/-! ## Requests for an address -/

/-- The request for an address is the address. -/
theorem exists_read?_of_get? {endpoint : String} {request : Request}
    (got : get? endpoint = some request) :
    ∃ login, Url.read? endpoint = some (request.url, login) := by
  obtain ⟨⟨url, login⟩, read, rfl⟩ := Option.map_eq_some_iff.1 got
  exact ⟨login, read⟩

/-- The only header of the request for an address is the login that the address holds. -/
theorem of_mem_headers_of_get? {endpoint : String} {request : Request}
    (got : get? endpoint = some request) {header : String × String}
    (inside : header ∈ request.headers) :
    header.1 = authorization ∧ isHeaderValue header.2 = true := by
  obtain ⟨⟨url, login⟩, _, rfl⟩ := Option.map_eq_some_iff.1 got
  cases login with
  | none => cases inside
  | some login =>
      rw [List.mem_singleton.1 inside]
      exact ⟨rfl, isHeaderValue_basicAuth login.user login.password⟩

/-- There is a request for every address. -/
theorem isSome_get? (endpoint : String) : (get? endpoint).isSome = (Url.read? endpoint).isSome :=
  Option.isSome_map

/-- A header changes nothing but the headers, and can be added if its value may be one. -/
theorem Request.withHeader?_eq_some_iff {request other : Request} {name value : String} :
    request.withHeader? name value = some other ↔
      isHeaderValue value = true ∧
        { request with headers := request.headers ++ [(name, value)] } = other := by
  unfold Request.withHeader?
  split
  next legal => simp [legal]
  next illegal => simp [illegal]

end MetricProbe.Http
