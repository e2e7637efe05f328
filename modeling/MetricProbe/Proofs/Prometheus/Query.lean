import Mathlib.Logic.Relation
import MetricProbe.Proofs.Config.Faults
import MetricProbe.Proofs.Http.Parameters
import MetricProbe.Proofs.Text.Trim
import MetricProbe.Proofs.Text.Split

/-!
# Queries on one line

Laying a query out over lines changes nothing about the line that is sent: `Relaid` says what may be
changed, at the beginning and the end of a line and by whole lines without text. The line holds what
the query holds except for blanks, and it is its own line. Nothing is sent of a query of nothing but
blanks, and a configuration with such a query is not accepted.

Blanks within a line are kept, so the line is not the same for queries that differ there.
-/

namespace MetricProbe.Prometheus

open Text (isBlank solid splitAll trim Trimmed)

/-! ## Lines -/

/-- A text is a line that is sent: something without blanks at its ends and without a line break. -/
structure IsLine (line : List Char) : Prop where
  nonempty : line ≠ []
  trimmed : Trimmed line
  whole : '\n' ∉ line

/-- The lines of a query are such lines. -/
theorem isLine_of_mem_queryLines {query line : List Char} (isLine : line ∈ queryLines query) :
    IsLine line := by
  obtain ⟨isTrimmed, filled⟩ := List.mem_filter.1 isLine
  obtain ⟨piece, isPiece, rfl⟩ := List.mem_map.1 isTrimmed
  refine ⟨?_, Text.trimmed_trim piece, fun inside => ?_⟩
  · rintro empty
    rw [empty] at filled
    cases filled
  · have kept := Text.not_separator_of_mem_splitAll isPiece (Text.mem_of_mem_trim inside)
    cases kept

/-- A text without line breaks is one line, or none if nothing is left of it. -/
theorem queryLines_of_free {query : List Char} (free : '\n' ∉ query) :
    queryLines query = [trim query].filter (!·.isEmpty) := by
  have whole : splitAll (· == '\n') query = [query] := by
    apply Text.splitAll_of_free
    intro c inside
    rw [beq_eq_false_iff_ne]
    rintro rfl
    exact free inside
  rw [queryLines, whole, List.map_singleton]

/-- Lines are joined to themselves. -/
theorem joinLines_queryLines_of_free {query : List Char} (free : '\n' ∉ query) :
    joinLines (queryLines query) = trim query := by
  rw [queryLines_of_free free]
  cases left : trim query <;> rfl

/-- The lines of two texts with a line break between them are those of both. -/
theorem queryLines_append (first second : List Char) :
    queryLines (first ++ '\n' :: second) = queryLines first ++ queryLines second := by
  rw [queryLines, Text.splitAll_append (by decide), List.map_append, List.filter_append]
  rfl

/-- The lines of a query hold all its characters that are no blanks. -/
theorem flatMap_solid_queryLines (query : List Char) :
    (queryLines query).flatMap solid = solid query := by
  have pieces (texts : List (List Char)) :
      ((texts.map trim).filter (!·.isEmpty)).flatMap solid = solid texts.flatten := by
    induction texts with
    | nil => rfl
    | cons text texts inductionHypothesis =>
        rw [List.map_cons, List.flatten_cons, Text.solid_append, ← inductionHypothesis,
          ← Text.solid_trim text]
        cases trim text <;> rfl
  rw [queryLines, pieces, Text.flatten_splitAll, solid, List.filter_filter]
  apply List.filter_congr
  intro c _
  by_cases same : c = '\n'
  · subst same
    rfl
  · simp [same]

/-! ## Lines in one -/

/-- What is joined of lines holds their characters that are no blanks. -/
theorem solid_joinLines (lines : List (List Char)) :
    solid (joinLines lines) = lines.flatMap solid := by
  fun_induction joinLines lines with
  | case1 => rfl
  | case2 line => simp
  | case3 line next more inductionHypothesis =>
      rw [Text.solid_append, List.flatMap_cons, ← inductionHypothesis]
      rfl

/-- Lines are joined to a line. -/
theorem isLine_joinLines {lines : List (List Char)} (all : ∀ line ∈ lines, IsLine line)
    (filled : lines ≠ []) : IsLine (joinLines lines) := by
  fun_induction joinLines lines with
  | case1 => exact absurd rfl filled
  | case2 line => exact all line List.mem_cons_self
  | case3 line next more inductionHypothesis =>
      obtain ⟨first, rest⟩ := List.forall_mem_cons.1 all
      have joined := inductionHypothesis rest (List.cons_ne_nil _ _)
      refine ⟨by simp, ⟨?_, ?_⟩, ?_⟩
      · rw [List.head?_append_of_ne_nil _ first.nonempty]
        exact first.trimmed.first
      · rw [List.getLast?_append_cons, List.getLast?_cons_of_ne_nil joined.nonempty]
        exact joined.trimmed.last
      · simp [first.whole, joined.whole]

/-! ## Layouts -/

/-- Blanks that break no line. -/
def Spaces (blanks : List Char) : Prop := ∀ c ∈ blanks, isBlank c = true ∧ c ≠ '\n'

/-- A line begins behind a text. -/
def BeginsLine (before : List Char) : Prop := ∀ c ∈ before.getLast?, c = '\n'

/-- A line ends before a text. -/
def EndsLine (after : List Char) : Prop := ∀ c ∈ after.head?, c = '\n'

instance (blanks : List Char) : Decidable (Spaces blanks) :=
  List.decidableBAll (fun c => isBlank c = true ∧ c ≠ '\n') blanks

instance (before : List Char) : Decidable (BeginsLine before) :=
  @Option.decidableForallMem _ (· = '\n') _ before.getLast?

instance (after : List Char) : Decidable (EndsLine after) :=
  @Option.decidableForallMem _ (· = '\n') _ after.head?

/-- One thing is added to the layout of a query. -/
inductive Relaid : List Char → List Char → Prop where
  /-- A line is indented. -/
  | indent {before after blanks : List Char} (spaces : Spaces blanks)
      (begins : BeginsLine before) : Relaid (before ++ after) (before ++ (blanks ++ after))
  /-- Blanks are added at the end of a line. -/
  | trail {before after blanks : List Char} (spaces : Spaces blanks)
      (ends : EndsLine after) : Relaid (before ++ after) (before ++ (blanks ++ after))
  /-- A line of blanks is added before a line. -/
  | lineBefore {before after blanks : List Char} (spaces : Spaces blanks)
      (begins : BeginsLine before) :
      Relaid (before ++ after) (before ++ (blanks ++ '\n' :: after))
  /-- A line of blanks is added behind a line. -/
  | lineBehind {before after blanks : List Char} (spaces : Spaces blanks)
      (ends : EndsLine after) :
      Relaid (before ++ after) (before ++ ('\n' :: blanks ++ after))

section

variable {before after blanks : List Char}

/-- A line begins at the start of a query or behind a line break. -/
theorem BeginsLine.cases (begins : BeginsLine before) :
    before = [] ∨ ∃ earlier, before = earlier ++ ['\n'] := by
  cases last : before.getLast? with
  | none => exact .inl (List.getLast?_eq_none_iff.1 last)
  | some c =>
      obtain ⟨earlier, rfl⟩ := List.getLast?_eq_some_iff.1 last
      exact .inr ⟨earlier, by rw [begins c last]⟩

/-- A line ends at the end of a query or before a line break. -/
theorem EndsLine.cases (ends : EndsLine after) : after = [] ∨ ∃ later, after = '\n' :: later := by
  cases after with
  | nil => exact .inl rfl
  | cons c later => exact .inr ⟨later, by rw [ends c rfl]⟩

/-- Spaces are blanks. -/
theorem Spaces.blank (spaces : Spaces blanks) : ∀ c ∈ blanks, isBlank c = true :=
  fun c inside => (spaces c inside).1

/-- Spaces are one piece. -/
theorem Spaces.splitAll_eq (spaces : Spaces blanks) : splitAll (· == '\n') blanks = [blanks] := by
  apply Text.splitAll_of_free
  intro c inside
  exact beq_false_of_ne (spaces c inside).2

/-- Spaces before the first line do not matter. -/
theorem queryLines_spaces_append (spaces : Spaces blanks) (query : List Char) :
    queryLines (blanks ++ query) = queryLines query := by
  obtain ⟨first, pieces, cut⟩ :=
    List.exists_cons_of_ne_nil (@Text.splitAll_ne_nil (· == '\n') query)
  have longer := @Text.splitAll_append_of_cuts _ _ _ _ _ [] _ spaces.splitAll_eq cut
  rw [queryLines, queryLines, longer, cut, List.nil_append, List.map_cons, List.map_cons,
    Text.trim_blanks_append first spaces.blank]

/-- Spaces behind the last line do not matter. -/
theorem queryLines_append_spaces (spaces : Spaces blanks) (query : List Char) :
    queryLines (query ++ blanks) = queryLines query := by
  obtain ⟨pieces, last, cut⟩ :=
    List.eq_nil_or_concat' (splitAll (· == '\n') query) |>.resolve_left (Text.splitAll_ne_nil query)
  have longer := Text.splitAll_append_of_cuts cut spaces.splitAll_eq
  rw [queryLines, queryLines, longer, cut, List.map_append, List.map_append, List.map_singleton,
    List.map_singleton, Text.trim_append_blanks last spaces.blank]

/-- Spaces alone are no line. -/
theorem queryLines_spaces (spaces : Spaces blanks) : queryLines blanks = [] := by
  have none := queryLines_spaces_append spaces []
  rwa [List.append_nil] at none

/-- A change of the layout does not change the lines. -/
theorem Relaid.queryLines_eq {query other : List Char} (relaid : Relaid query other) :
    queryLines other = queryLines query := by
  cases relaid with
  | indent spaces begins =>
      rcases begins.cases with rfl | ⟨earlier, rfl⟩
      · exact queryLines_spaces_append spaces _
      · rw [List.append_assoc, List.append_assoc, List.singleton_append, queryLines_append,
          queryLines_spaces_append spaces, ← queryLines_append]
        rfl
  | trail spaces ends =>
      rcases ends.cases with rfl | ⟨later, rfl⟩
      · rw [List.append_nil, List.append_nil, queryLines_append_spaces spaces]
      · rw [← List.append_assoc, queryLines_append, queryLines_append_spaces spaces,
          ← queryLines_append]
  | lineBefore spaces begins =>
      rcases begins.cases with rfl | ⟨earlier, rfl⟩
      · rw [List.nil_append, queryLines_append, queryLines_spaces spaces]
        rfl
      · rw [List.append_assoc, List.append_assoc, List.singleton_append, queryLines_append,
          queryLines_append, queryLines_spaces spaces, List.nil_append, ← queryLines_append]
        rfl
  | lineBehind spaces ends =>
      rcases ends.cases with rfl | ⟨later, rfl⟩
      · rw [List.append_nil, List.append_nil, queryLines_append, queryLines_spaces spaces,
          List.append_nil]
      · rw [List.cons_append, queryLines_append, queryLines_append, queryLines_spaces spaces,
          List.nil_append, ← queryLines_append]

end

/-! ## Queries -/

variable {query : String}

/-- The line of a query, as a list of characters. -/
theorem toList_normalize (query : String) :
    (normalize query).toList = joinLines (queryLines query.toList) :=
  String.toList_ofList

/-- The line of a query is empty or a line. -/
theorem eq_nil_or_isLine (query : String) :
    (normalize query).toList = [] ∨ IsLine (normalize query).toList := by
  rw [toList_normalize]
  by_cases none : queryLines query.toList = []
  · rw [none]
    exact .inl rfl
  · exact .inr (isLine_joinLines (fun line => isLine_of_mem_queryLines) none)

/-- The line of a query has no line break. -/
theorem newline_not_mem_normalize (query : String) : '\n' ∉ (normalize query).toList := by
  rcases eq_nil_or_isLine query with empty | line
  · rw [empty]
    exact List.not_mem_nil
  · exact line.whole

/-- The line of a query has no blanks at its ends. -/
theorem trimmed_normalize (query : String) : Trimmed (normalize query).toList := by
  rcases eq_nil_or_isLine query with empty | line
  · rw [empty]
    exact ⟨nofun, nofun⟩
  · exact line.trimmed

/-- The line of a query holds what the query holds, except for blanks. -/
theorem solid_normalize (query : String) :
    solid (normalize query).toList = solid query.toList := by
  rw [toList_normalize, solid_joinLines, flatMap_solid_queryLines]

/-- A query without line breaks is only trimmed. -/
theorem normalize_of_free (free : '\n' ∉ query.toList) :
    normalize query = String.ofList (trim query.toList) := by
  rw [normalize, joinLines_queryLines_of_free free]

/-- The line of a query is its own line. -/
theorem normalize_normalize (query : String) : normalize (normalize query) = normalize query := by
  rw [normalize_of_free (newline_not_mem_normalize query),
    Text.trim_of_trimmed (trimmed_normalize query), String.ofList_toList]

/-- The line of a query is empty if the query has nothing but blanks. -/
theorem normalize_eq_empty_iff :
    normalize query = "" ↔ ∀ c ∈ query.toList, isBlank c = true := by
  rw [← Text.solid_eq_nil_iff, ← solid_normalize, Text.solid_eq_nil_iff, ← String.toList_eq_nil_iff]
  constructor
  · intro empty
    rw [empty]
    exact List.forall_mem_nil _
  · exact (trimmed_normalize query).eq_nil

/-- Changes of the layout do not change the lines. -/
theorem queryLines_eq_of_relaid {query other : List Char}
    (relaid : Relation.EqvGen Relaid query other) : queryLines other = queryLines query := by
  induction relaid with
  | rel _ _ step => exact step.queryLines_eq
  | refl _ => rfl
  | symm _ _ _ inductionHypothesis => exact inductionHypothesis.symm
  | trans _ _ _ _ _ first second => exact second.trans first

/-! ## Checks -/

/-- The query of a check is reported as empty exactly if its line is. -/
theorem emptyQuery_iff {config : Config} {before : List Probe.Check} {check : Probe.Check}
    (comes : config.ComesTo before check) (known : check.provider ∈ config.providerNames) :
    config.validate = .error (.emptyQuery before.length check.name) ↔
      normalize check.query = "" := by
  rw [normalize_eq_empty_iff]
  constructor
  · exact comes.blank_of_emptyQuery
  · intro blank
    exact Config.validate_of_firstFault (.emptyQuery comes known blank)

/-- A check of a configuration that is accepted has something to send. -/
theorem normalize_ne_empty_of_validate {config : Config} {check : Probe.Check}
    (accepted : config.validate = .ok ()) (inside : check ∈ config.checks) :
    normalize check.query ≠ "" := by
  intro empty
  obtain ⟨c, member, solid⟩ := (Config.validate_eq_ok_iff.1 accepted).asking check inside
  rw [normalize_eq_empty_iff.1 empty c member] at solid
  cases solid

/-- A request for a query asks for its line. -/
theorem carries_of_sent {client : Client} {network : Http.Network} {request : Http.Request}
    (sent : request ∈ (client.ask network query).sent) :
    request.Carries client.queryEndpoint [("query", normalize query)] := by
  obtain ⟨base, authorized, rfl⟩ := Client.mem_sent_ask_iff.1 sent
  obtain ⟨login, read⟩ := Client.exists_read?_of_authorized? authorized
  exact Http.Request.carries_withQuery read (List.cons_ne_nil _ _)

/-- The line of a query is without line breaks and without blanks at its ends, holds what the query
holds except for blanks, and is its own line. Layout does not change it, and without line breaks a
query is only trimmed. It is empty exactly for queries of nothing but blanks, which are those that
are reported in checks; so no request for a check of an accepted configuration asks nothing. -/
theorem normalize_keeps_query (query : String) :
    '\n' ∉ (normalize query).toList ∧ Trimmed (normalize query).toList ∧
      solid (normalize query).toList = solid query.toList ∧
      normalize (normalize query) = normalize query ∧
      (∀ other : String, Relation.EqvGen Relaid query.toList other.toList →
        normalize other = normalize query) ∧
      ('\n' ∉ query.toList → normalize query = String.ofList (trim query.toList)) ∧
      (normalize query = "" ↔ ∀ c ∈ query.toList, isBlank c = true) ∧
      (∀ config before check, Config.ComesTo config before check →
        check.provider ∈ config.providerNames → check.query = query →
          (config.validate = .error (.emptyQuery before.length check.name) ↔
            normalize query = "")) ∧
      ∀ config : Config, config.validate = .ok () → ∀ check ∈ config.checks,
        check.query = query → ∀ (client : Client) (network : Http.Network),
          ∀ request ∈ (client.ask network query).sent, ∃ asked, asked ≠ "" ∧
            request.Carries client.queryEndpoint [("query", asked)] := by
  refine ⟨newline_not_mem_normalize query, trimmed_normalize query, solid_normalize query,
    normalize_normalize query, ?_, normalize_of_free, normalize_eq_empty_iff, ?_, ?_⟩
  · intro other relaid
    rw [normalize, normalize, queryLines_eq_of_relaid relaid]
  · rintro config before check comes known rfl
    exact emptyQuery_iff comes known
  · rintro config accepted check inside rfl client network request sent
    exact ⟨_, normalize_ne_empty_of_validate accepted inside, carries_of_sent sent⟩

/-- A sum over two lines, with carriage returns, a line of spaces and a tab before the second one. -/
theorem normalize_keeps_query_sum :
    let config : Config :=
      { probe := { name := "p" }
        providers := [{ name := "a" }]
        checks := [⟨"c", "a", "x +\ny"⟩] }
    Relation.EqvGen Relaid "x +\ny".toList "x +\r\n \n\ty".toList ∧
      normalize "x +\r\n \n\ty" = normalize "x +\ny" ∧ config.validate = .ok () ∧
      ∃ request ∈ ((⟨"http://a", none⟩ : Client).ask (fun _ => .silent) "x +\ny").sent,
        ∃ asked, asked ≠ "" ∧ request.Carries "http://a" [("query", asked)] := by
  intro config
  have carriageReturn : Relaid "x +\ny".toList "x +\r\ny".toList :=
    @Relaid.trail "x +".toList "\ny".toList "\r".toList (by decide) (by decide)
  have spaces : Relaid "x +\r\ny".toList "x +\r\n \ny".toList :=
    @Relaid.lineBefore "x +\r\n".toList "y".toList " ".toList (by decide) (by decide)
  have tab : Relaid "x +\r\n \ny".toList "x +\r\n \n\ty".toList :=
    @Relaid.indent "x +\r\n \n".toList "y".toList "\t".toList (by decide) (by decide)
  have relaid : Relation.EqvGen Relaid "x +\ny".toList "x +\r\n \n\ty".toList :=
    .trans _ _ _ (.trans _ _ _ (.rel _ _ carriageReturn) (.rel _ _ spaces)) (.rel _ _ tab)
  have valid : config.validate = .ok () := by decide +kernel
  obtain ⟨_, _, _, _, layout, _, _, _, accepted⟩ := normalize_keeps_query "x +\ny"
  have sent : ((⟨"http://a", none⟩ : Client).ask (fun _ => .silent) "x +\ny").sent ≠ [] := by
    decide +kernel
  obtain ⟨request, inside⟩ := List.exists_mem_of_ne_nil _ sent
  exact ⟨relaid, layout _ relaid, valid, request, inside,
    accepted config valid ⟨"c", "a", "x +\ny"⟩ List.mem_cons_self rfl ⟨"http://a", none⟩ _ request
      inside⟩

end MetricProbe.Prometheus
