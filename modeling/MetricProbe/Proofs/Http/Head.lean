import MetricProbe.Http.Wire
import MetricProbe.Proofs.Http.Exchange
import MetricProbe.Proofs.Text.Trim
import MetricProbe.Proofs.Url.Characters

/-!
# Heads of requests

What a backend hears of the bytes of a request: the first line, the fields up to the empty line, and
what stands behind that. Here every line feed ends a line, with or without a carriage return before
it, so a line feed that got into a value would be heard as the beginning of another field.

A request that is well formed is heard as it was built. Every request that can be built is: its
address holds no control character, and a header with one cannot be added.
-/

namespace MetricProbe.Http

open Text (isBlank splitAll splitFirst? trim Trimmed)
open Url (Plain)

/-! ## Hearing -/

/-- What is heard of a request. -/
structure Heard where
  /-- The first line. -/
  line : List Char
  /-- The fields of the head, with their names in lower case. -/
  fields : List (String × String)
  /-- What stands behind the empty line that ends the head. -/
  behind : List Char
  deriving DecidableEq, Repr

/-- What is heard of the bytes of a request, if every line of its head is a field. -/
def hear? (data : Bytes) : Option Heard :=
  match (splitAll (· == '\n') (Utf8.decodeLossy data).toList).map trim with
  | [] => none
  | first :: lines => do
    let fields ← (lines.takeWhile (!·.isEmpty)).mapM readField
    pure ⟨first, fields, List.intercalate ['\n'] ((lines.dropWhile (!·.isEmpty)).drop 1)⟩

/-- The values that are heard in the fields of a name. -/
def Heard.values (heard : Heard) (name : String) : List String :=
  (heard.fields.filter (·.1 == name)).map Prod.snd

/-- What is heard apart from the fields of some names. -/
def Heard.without (heard : Heard) (names : List String) : Heard :=
  { heard with fields := heard.fields.filter fun field => !names.contains field.1 }

/-! ## Values of headers -/

/-- A text holds a control character other than the tab. -/
def HasControl (text : String) : Prop :=
  ∃ c ∈ text.toList, (c.toNat < 0x20 ∨ c.toNat = 0x7f) ∧ c ≠ '\t'

/-- A byte is a control character of ASCII other than the tab. -/
def IsControlByte (byte : UInt8) : Prop := (byte.toNat < 0x20 ∨ byte.toNat = 0x7f) ∧ byte ≠ 0x09

instance (byte : UInt8) : Decidable (IsControlByte byte) :=
  inferInstanceAs (Decidable ((byte.toNat < 0x20 ∨ byte.toNat = 0x7f) ∧ byte ≠ 0x09))

/-- A text may be a header's value if it holds no control character but the tab. -/
theorem isHeaderValue_iff {text : String} : isHeaderValue text = true ↔ ¬ HasControl text := by
  simp only [isHeaderValue, List.all_eq_true, HasControl, Url.isControl, Bool.or_eq_true,
    beq_iff_eq, Bool.not_eq_true', Bool.or_eq_false_iff, decide_eq_false_iff_not,
    beq_eq_false_iff_ne, not_exists, not_and]
  refine forall_congr' fun c => forall_congr' fun _ => ?_
  constructor
  · rintro (tab | ⟨high, noDelete⟩) control noTab
    · exact noTab tab
    · exact control.elim high noDelete
  · intro legal
    by_cases tab : c = '\t'
    · exact .inl tab
    · exact .inr ⟨fun low => legal (.inl low) tab, fun delete => legal (.inr delete) tab⟩

/-- A lossy reading holds the control characters that the data hold. -/
theorem hasControl_decodeLossy_iff {data : Bytes} :
    HasControl (Utf8.decodeLossy data) ↔ ∃ byte ∈ data, IsControlByte byte := by
  constructor
  · rintro ⟨c, inside, control, noTab⟩
    have ascii : c.toNat < 0x80 := by omega
    have byte : c.toNat.toUInt8.toNat = c.toNat := Utf8.toNat_toUInt8 (by omega)
    refine ⟨_, (Utf8.mem_decodeLossy_iff ascii).1 inside, byte.symm ▸ control, fun tab => noTab ?_⟩
    rw [tab] at byte
    rw [← Char.ofNat_toNat c, ← byte]
    rfl
  · rintro ⟨byte, inside, control, noTab⟩
    have ascii : byte.toNat < 0x80 := by omega
    have number : (Char.ofNat byte.toNat).toNat = byte.toNat := Utf8.toNat_ofNat (.inl (by omega))
    refine ⟨_, Utf8.mem_decodeLossy inside ascii, number.symm ▸ control, fun tab => noTab ?_⟩
    rw [tab] at number
    exact UInt8.toNat_inj.1 number.symm

/-! ## Fields -/

/-- A text without the blanks at its ends. -/
def trimmed (text : String) : String := String.ofList (trim text.toList)

/-- Nothing is left to trim of a trimmed text. -/
@[simp] theorem trimmed_trimmed (text : String) : trimmed (trimmed text) = trimmed text := by
  rw [trimmed, trimmed, String.toList_ofList, Text.trim_of_trimmed (Text.trimmed_trim _)]

/-- A name that a field can have: nothing in it is a blank, a colon or a letter of upper case. -/
def isFieldName (name : String) : Bool :=
  name.toList.all fun c => !isBlank c && c != ':' && c.toLower == c

/-- A field as a line. -/
def fieldLine (field : String × String) : List Char :=
  field.1.toList ++ ':' :: ' ' :: field.2.toList

/-- What is known of the characters of a name. -/
theorem of_mem_fieldName {name : String} (named : isFieldName name = true) {c : Char}
    (inside : c ∈ name.toList) : isBlank c = false ∧ (c == ':') = false ∧ c.toLower = c := by
  have legal := List.all_eq_true.1 named c inside
  simp only [Bool.and_eq_true, Bool.not_eq_true', bne_iff_ne, beq_iff_eq] at legal
  exact ⟨legal.1.1, beq_false_of_ne legal.1.2, legal.2⟩

/-- A field is heard as it is, without the blanks at the ends of its value. -/
theorem readField_fieldLine {field : String × String} (named : isFieldName field.1 = true) :
    readField (trim (fieldLine field)) = some (field.1, trimmed field.2) := by
  have upToColon : ∀ c ∈ field.1.toList ++ [':'], isBlank c = false := by
    intro c inside
    rcases List.mem_append.1 inside with inName | isColon
    · exact (of_mem_fieldName named inName).1
    · rw [List.mem_singleton.1 isColon]
      rfl
  obtain ⟨kept, line, same⟩ := Text.exists_trim_solid_append (by simp) upToColon
    (' ' :: field.2.toList)
  have value : trim kept = trim field.2.toList := by
    have space : ∀ c ∈ [' '], isBlank c = true := List.forall_mem_singleton.2 rfl
    rw [same, ← List.singleton_append, Text.trim_blanks_append _ space]
  have cut : splitFirst? (· == ':') (field.1.toList ++ ':' :: kept) = some (field.1.toList, kept) :=
    Text.splitFirst?_append rfl (fun c inside => (of_mem_fieldName named inside).2.1) kept
  have lower : field.1.toList.map Char.toLower = field.1.toList := by
    rw [List.map_congr_left fun c inside => (of_mem_fieldName named inside).2.2, List.map_id']
  rw [List.append_assoc, List.append_assoc] at line
  rw [fieldLine, ← List.singleton_append, line, List.singleton_append, readField, cut,
    Option.map_some]
  dsimp only
  rw [lower, String.ofList_toList, value, trimmed]

/-- All fields are heard. -/
theorem mapM_readField_fieldLine {fields : List (String × String)}
    (named : ∀ field ∈ fields, isFieldName field.1 = true) :
    ((fields.map fieldLine).map trim).mapM readField =
      some (fields.map fun field => (field.1, trimmed field.2)) := by
  induction fields with
  | nil => rfl
  | cons field fields inductionHypothesis =>
      have first := readField_fieldLine (named field List.mem_cons_self)
      have rest := inductionHypothesis fun other inside =>
        named other (List.mem_cons_of_mem field inside)
      rw [List.map_cons, List.map_cons, List.mapM_cons, first, rest]
      rfl

/-- No field is an empty line. -/
theorem isEmpty_trim_fieldLine {field : String × String} (named : isFieldName field.1 = true) :
    (trim (fieldLine field)).isEmpty = false := by
  have heard := readField_fieldLine named
  cases line : trim (fieldLine field) with
  | nil =>
      rw [line] at heard
      cases heard
  | cons => rfl

/-! ## Lines -/

/-- Lines with their ends. -/
def endLines (lines : List (List Char)) : List Char := lines.flatMap (· ++ ['\r', '\n'])

/-- Texts with line ends are lines with their ends. -/
theorem toList_join_lines (lines : List String) :
    (String.join (lines.map (· ++ lineBreak)) ++ lineBreak).toList =
      endLines (lines.map String.toList) ++ ['\r', '\n'] := by
  simp [endLines, lineBreak, String.toList_join, List.flatMap_map]

/-- Lines are cut at their ends. -/
theorem splitAll_endLines {lines : List (List Char)} (plain : ∀ line ∈ lines, '\n' ∉ line)
    (rest : List Char) :
    (splitAll (· == '\n') (endLines lines ++ rest)).map trim =
      lines.map trim ++ (splitAll (· == '\n') rest).map trim := by
  induction lines with
  | nil => rfl
  | cons line lines inductionHypothesis =>
      have whole : endLines (line :: lines) ++ rest =
          (line ++ ['\r']) ++ '\n' :: (endLines lines ++ rest) := by
        simp [endLines]
      have free : ∀ c ∈ line ++ ['\r'], (c == '\n') = false := by
        intro c inside
        rcases List.mem_append.1 inside with inLine | isReturn
        · refine beq_false_of_ne ?_
          rintro rfl
          exact plain line List.mem_cons_self inLine
        · rw [List.mem_singleton.1 isReturn]
          rfl
      have blank : ∀ c ∈ ['\r'], isBlank c = true := List.forall_mem_singleton.2 rfl
      rw [whole, Text.splitAll_append rfl, Text.splitAll_of_free free, List.map_append,
        inductionHypothesis fun other inside => plain other (List.mem_cons_of_mem line inside),
        List.map_singleton, Text.trim_append_blanks line blank, List.map_cons,
        List.singleton_append, List.cons_append]

/-- A head is heard line by line, and nothing is behind it. -/
theorem hear?_endLines {line : List Char} {fields : List (String × String)}
    (plain : '\n' ∉ line) (plainFields : ∀ field ∈ fields, '\n' ∉ fieldLine field)
    (named : ∀ field ∈ fields, isFieldName field.1 = true) {data : Bytes}
    (written : Utf8.decodeLossy data =
      String.ofList (endLines (line :: fields.map fieldLine) ++ ['\r', '\n'])) :
    hear? data = some ⟨trim line, fields.map fun field => (field.1, trimmed field.2), []⟩ := by
  have plainLines : ∀ other ∈ line :: fields.map fieldLine, '\n' ∉ other :=
    List.forall_mem_cons.2 ⟨plain, List.forall_mem_map.2 plainFields⟩
  have filled : ∀ other ∈ (fields.map fieldLine).map trim, (!other.isEmpty) = true := by
    intro other inside
    simp only [List.mem_map, exists_exists_and_eq_and] at inside
    obtain ⟨field, isField, rfl⟩ := inside
    rw [isEmpty_trim_fieldLine (named field isField)]
    rfl
  have ending : (splitAll (· == '\n') ['\r', '\n']).map trim = [[], []] := by decide
  rw [hear?, written, String.toList_ofList, splitAll_endLines plainLines, ending, List.map_cons,
    List.cons_append]
  dsimp only
  rw [List.takeWhile_append_of_pos filled, List.dropWhile_append_of_pos filled]
  have none : ([[], []] : List (List Char)).takeWhile (!·.isEmpty) = [] := rfl
  rw [none, List.append_nil, mapM_readField_fieldLine named]
  rfl

/-! ## Requests -/

namespace Request

/-- The first line of a request. -/
def line (request : Request) : List Char :=
  "GET ".toList ++ (request.target.toList ++ " HTTP/1.1".toList)

/-- The fields of a request as they are written: those of every request, and its headers. -/
def written (request : Request) : List (String × String) :=
  ("host", request.authority) :: ("accept", "*/*") :: ("connection", "close") ::
    request.headers.map fun header => (header.1, trimmed header.2)

/-- The fields of a request as they are heard. -/
def fields (request : Request) : List (String × String) :=
  request.written.map fun field => (field.1, trimmed field.2)

/-- Nothing in a request ends a line of its head. -/
structure WellFormed (request : Request) : Prop where
  host : Plain request.url.host.toList
  path : Plain request.url.path
  query : ∀ c ∈ request.url.query.getD [], Url.isVisible c = true
  named : ∀ header ∈ request.headers, isFieldName header.1 = true
  valued : ∀ header ∈ request.headers, isHeaderValue header.2 = true

variable {request : Request}

/-- The first line of a request has no blanks at its ends. -/
theorem trimmed_line (request : Request) : Trimmed request.line := by
  have begins : "GET ".toList.head? = some 'G' := by decide
  have ends : " HTTP/1.1".toList.getLast? = some '1' := by decide
  constructor
  · rw [line, List.head?_append, begins]
    rintro _ ⟨⟩
    rfl
  · rw [line, List.getLast?_append, List.getLast?_append, ends]
    rintro _ ⟨⟩
    rfl

/-- The bytes of a request are those of its lines. -/
theorem decodeLossy_wire (request : Request) :
    Utf8.decodeLossy request.wire =
      String.ofList (endLines (request.line :: request.written.map fieldLine) ++ ['\r', '\n']) := by
  have first : (s!"GET {request.target} HTTP/1.1").toList = request.line := by
    change ("GET " ++ request.target ++ " HTTP/1.1").toList = _
    rw [String.toList_append, String.toList_append, List.append_assoc, line]
  have host : (s!"host: {request.authority}").toList = fieldLine ("host", request.authority) := by
    change ("host: " ++ request.authority).toList = _
    simp [fieldLine]
  have own : (request.headers.map fun header =>
      header.1 ++ ": " ++ String.ofList (trim header.2.toList)).map String.toList =
        (request.headers.map fun header => (header.1, trimmed header.2)).map fieldLine := by
    simp [fieldLine, trimmed]
  rw [wire, Utf8.decodeLossy_encode, ← String.toList_inj, toList_join_lines, String.toList_ofList,
    written]
  simp only [List.map_cons, first, host, own]
  rfl

/-- What a request asks for is plain. -/
theorem WellFormed.plain_target (wellFormed : request.WellFormed) :
    Plain request.target.toList := by
  rw [target, String.toList_ofList]
  apply wellFormed.path.append
  cases given : request.url.query with
  | none => exact List.forall_mem_nil _
  | some query =>
      have visible := wellFormed.query
      rw [given, Option.getD_some] at visible
      exact .cons rfl (.of_visible visible)

/-- The host of a request is plain, with its port. -/
theorem WellFormed.plain_authority (wellFormed : request.WellFormed) :
    Plain request.authority.toList := by
  rw [authority, String.toList_append]
  apply wellFormed.host.append
  cases request.url.port with
  | none => exact List.forall_mem_nil _
  | some port =>
      change Plain (":" ++ toString port).toList
      rw [String.toList_append]
      exact .cons rfl (Url.plain_toString port)

/-- No field of a request that is well formed holds a line feed. -/
theorem WellFormed.plain_of_mem_written (wellFormed : request.WellFormed)
    {field : String × String} (inside : field ∈ request.written) :
    isFieldName field.1 = true ∧ '\n' ∉ field.2.toList := by
  simp only [written, List.mem_cons, List.mem_map] at inside
  rcases inside with rfl | rfl | rfl | ⟨header, isHeader, rfl⟩
  · exact ⟨(by decide : isFieldName "host" = true), wellFormed.plain_authority.not_mem⟩
  · decide
  · decide
  · refine ⟨wellFormed.named header isHeader, fun inValue => ?_⟩
    rw [trimmed, String.toList_ofList] at inValue
    have legal := List.all_eq_true.1 (wellFormed.valued header isHeader) _
      (Text.mem_of_mem_trim inValue)
    cases legal

/-- A request that is well formed is heard as it was built. -/
theorem WellFormed.hear?_wire (wellFormed : request.WellFormed) :
    hear? request.wire = some ⟨request.line, request.fields, []⟩ := by
  have plainLine : '\n' ∉ request.line := by
    simp only [line, List.mem_append, not_or]
    exact ⟨by decide, wellFormed.plain_target.not_mem, by decide⟩
  have plainFields : ∀ field ∈ request.written, '\n' ∉ fieldLine field := by
    intro field inside
    obtain ⟨named, plain⟩ := wellFormed.plain_of_mem_written inside
    simp only [fieldLine, List.mem_append, List.mem_cons, not_or]
    refine ⟨fun inName => ?_, by decide, by decide, plain⟩
    cases (of_mem_fieldName named inName).1
  have named : ∀ field ∈ request.written, isFieldName field.1 = true := fun field inside =>
    (wellFormed.plain_of_mem_written inside).1
  rw [hear?_endLines plainLine plainFields named request.decodeLossy_wire,
    Text.trim_of_trimmed request.trimmed_line, fields]

/-! ## Requests that can be built -/

/-- The request for an address is well formed. -/
theorem wellFormed_of_get? {endpoint : String} (got : get? endpoint = some request) :
    request.WellFormed := by
  obtain ⟨login, read⟩ := exists_read?_of_get? got
  exact
    { host := Url.plain_host_of_read? read
      path := Url.plain_path_of_read? read
      query := fun c inside => Url.isVisible_of_mem_query read inside
      named := fun header inside => by
        rw [(of_mem_headers_of_get? got inside).1]
        decide
      valued := fun header inside => (of_mem_headers_of_get? got inside).2 }

/-- A header that can be added keeps a request well formed. -/
theorem WellFormed.withHeader (wellFormed : request.WellFormed) {name value : String}
    (named : isFieldName name = true) (legal : isHeaderValue value = true) :
    { request with headers := request.headers ++ [(name, value)] : Request }.WellFormed where
  host := wellFormed.host
  path := wellFormed.path
  query := wellFormed.query
  named := List.forall_mem_append.2 ⟨wellFormed.named, List.forall_mem_singleton.2 named⟩
  valued := List.forall_mem_append.2 ⟨wellFormed.valued, List.forall_mem_singleton.2 legal⟩

/-- Parameters keep a request well formed. -/
theorem WellFormed.withQuery (wellFormed : request.WellFormed) {pairs : List (String × String)}
    (filled : pairs ≠ []) : (request.withQuery pairs).WellFormed where
  host := wellFormed.host
  path := wellFormed.path
  query := Url.isVisible_addQuery wellFormed.query filled
  named := wellFormed.named
  valued := wellFormed.valued

end Request

end MetricProbe.Http
