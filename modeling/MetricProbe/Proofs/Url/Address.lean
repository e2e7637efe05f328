import MetricProbe.Proofs.Text.Split
import MetricProbe.Proofs.Url.Form
import MetricProbe.Url.Basic
import Mathlib.Data.List.TakeWhile

/-!
# Addresses of endpoints

An endpoint is an address with a path put behind it. Whether such a text is an address is settled
before its last slash: what stands behind it is no part of the scheme or of the authority. Its query
can only be what the text holds behind a question mark.
-/

namespace MetricProbe.Url

open Text (splitFirst?)

/-! ## Cutting and dropping -/

section

variable {test : Char → Bool} {text rest : List Char}

/-- A cut stays where it is when a text without a separator is put behind. -/
theorem splitFirst?_append_free (text : List Char) (free : ∀ c ∈ rest, test c = false) :
    splitFirst? test (text ++ rest) =
      (splitFirst? test text).map fun (before, after) => (before, after ++ rest) := by
  induction text with
  | nil => simpa [splitFirst?] using Text.splitFirst?_of_free free
  | cons c text inductionHypothesis =>
      rw [List.cons_append, splitFirst?, splitFirst?, inductionHypothesis]
      cases test c with
      | true => rfl
      | false => simp [Option.map_map, Function.comp_def]

/-- Dropping stops at the first character that stays, so what stands behind does not matter. -/
theorem dropWhile_append_of_mem {c : Char} (inside : c ∈ text) (stays : test c = false)
    (rest : List Char) : (text ++ rest).dropWhile test = text.dropWhile test ++ rest := by
  rw [List.dropWhile_append, if_neg]
  intro empty
  have dropped := List.dropWhile_eq_nil_iff.1 (List.isEmpty_iff.1 empty) c inside
  rw [stays] at dropped
  cases dropped

/-- Taking stops at a character that is not taken, so what stands behind does not matter. -/
theorem takeWhile_append_cons {c : Char} (stops : test c = false) (text rest : List Char) :
    (text ++ c :: rest).takeWhile test = text.takeWhile test := by
  induction text with
  | nil => simp [stops]
  | cons d text inductionHypothesis =>
      rw [List.cons_append, List.takeWhile_cons, List.takeWhile_cons, inductionHypothesis]

end

/-! ## Characters that count -/

/-- A character that counts wherever it stands. -/
def isSolid (c : Char) : Bool := !isEdge c && !isLineBreak c

/-- Solid characters are not dropped at the beginning. -/
theorem dropWhile_isEdge_of_solid {text : List Char} (solid : ∀ c ∈ text, isSolid c = true) :
    text.dropWhile isEdge = text := by
  cases text with
  | nil => rfl
  | cons c rest =>
      have first := solid c List.mem_cons_self
      simp only [isSolid, Bool.and_eq_true, Bool.not_eq_true'] at first
      exact List.dropWhile_cons_of_neg (by simp [first.1])

/-- What counts of a text with solid characters behind it. -/
theorem clean_append (text : List Char) {rest : List Char} (filled : rest ≠ [])
    (solid : ∀ c ∈ rest, isSolid c = true) :
    clean (text ++ rest) = (text.dropWhile isEdge).filter (!isLineBreak ·) ++ rest := by
  have atStart : (text ++ rest).dropWhile isEdge = text.dropWhile isEdge ++ rest := by
    rw [List.dropWhile_append, dropWhile_isEdge_of_solid solid]
    split
    next empty => rw [List.isEmpty_iff.1 empty, List.nil_append]
    next => rfl
  have atEnd (before : List Char) : Text.dropEndWhile isEdge (before ++ rest) = before ++ rest := by
    obtain ⟨c, inside⟩ := List.exists_mem_of_ne_nil rest filled
    have stays := solid c inside
    simp only [isSolid, Bool.and_eq_true, Bool.not_eq_true'] at stays
    rw [Text.dropEndWhile, List.reverse_append,
      dropWhile_append_of_mem (List.mem_reverse.2 inside) stays.1,
      dropWhile_isEdge_of_solid fun d member => solid d (List.mem_reverse.1 member),
      List.reverse_append, List.reverse_reverse, List.reverse_reverse]
  have kept : rest.filter (!isLineBreak ·) = rest := by
    refine List.filter_eq_self.2 fun c inside => ?_
    have here := solid c inside
    simp only [isSolid, Bool.and_eq_true] at here
    exact here.2
  rw [clean, atStart, atEnd, List.filter_append, kept]

/-! ## What settles whether a text is an address -/

/-- The scheme stands before the first colon. -/
theorem scheme?_append (text : List Char) {rest : List Char}
    (free : ∀ c ∈ rest, (c == ':') = false) :
    scheme? (text ++ rest) = (scheme? text).map fun (scheme, after) => (scheme, after ++ rest) := by
  rw [scheme?, scheme?, splitFirst?_append_free text free]
  cases splitFirst? (· == ':') text with
  | none => rfl
  | some cut =>
      simp only [Option.map_some, Option.bind_eq_bind, Option.bind_some]
      split
      · rfl
      · split <;> rfl

/-- The scheme and the authority of a text. -/
def named? (text : List Char) : Option (Scheme × List Char) :=
  (splitAuthority? text).map fun (scheme, authority, _) => (scheme, authority)

/-- A text is an address if its scheme and its authority name something. -/
theorem isSome_read? (text : String) :
    (read? text).isSome =
      ((named? (clean text.toList)).bind fun (scheme, authority) =>
        authority? scheme authority).isSome := by
  rw [read?, named?]
  cases splitAuthority? (clean text.toList) with
  | none => rfl
  | some parts =>
      obtain ⟨scheme, authority, rest⟩ := parts
      simp only [Option.bind_eq_bind, Option.bind_some, Option.map_some]
      cases authority? scheme authority <;> rfl

/-- What stands behind a slash that follows a name is no part of the scheme or of the authority. -/
theorem named?_append (text : List Char) {stem tail : List Char} {c : Char} (named : c ∈ stem)
    (noSlash : isSlash c = false) (free : ∀ d ∈ stem ++ '/' :: tail, (d == ':') = false) :
    named? (text ++ (stem ++ '/' :: tail)) =
      (scheme? text).map fun (scheme, after) =>
        (scheme, ((after ++ stem).dropWhile isSlash).takeWhile (!endsAuthority ·)) := by
  rw [named?, splitAuthority?, scheme?_append text free]
  cases scheme? text with
  | none => rfl
  | some parts =>
      obtain ⟨scheme, after⟩ := parts
      have begun : (after ++ (stem ++ '/' :: tail)).dropWhile isSlash =
          (after ++ stem).dropWhile isSlash ++ '/' :: tail := by
        rw [← List.append_assoc]
        exact dropWhile_append_of_mem (List.mem_append_right after named) noSlash _
      have authority :
          ((after ++ stem).dropWhile isSlash ++ '/' :: tail).takeWhile (!endsAuthority ·) =
            ((after ++ stem).dropWhile isSlash).takeWhile (!endsAuthority ·) :=
        takeWhile_append_cons rfl _ tail
      simp only [Option.map_some, Option.bind_eq_bind, Option.bind_some, begun, authority]
      rfl

/-- A path that begins with a stem that holds a name, and goes on behind a slash. It holds nothing
that does not count, and no colon. -/
structure Extends (path : String) (stem : List Char) : Prop where
  named : stem.any (!isSlash ·) = true
  behind : ∃ tail, path.toList = stem ++ '/' :: tail
  plain : path.toList.all (fun c => isSolid c && c != ':') = true

/-- The characters of a path are solid, and none is a colon. -/
theorem Extends.plain_of_mem {path : String} {stem : List Char} (stemmed : Extends path stem) :
    ∀ c ∈ path.toList, isSolid c = true ∧ (c == ':') = false := by
  intro c inside
  have plain := List.all_eq_true.1 stemmed.plain c inside
  rw [Bool.and_eq_true, bne_iff_ne] at plain
  exact ⟨plain.1, beq_false_of_ne plain.2⟩

/-- The scheme and the authority of an endpoint are settled by the address and the stem. -/
theorem Extends.named?_clean {path : String} {stem : List Char} (stemmed : Extends path stem)
    (address : String) :
    named? (clean (address ++ path).toList) =
      (scheme? ((address.toList.dropWhile isEdge).filter (!isLineBreak ·))).map
        fun (scheme, after) =>
          (scheme, ((after ++ stem).dropWhile isSlash).takeWhile (!endsAuthority ·)) := by
  have plain := stemmed.plain_of_mem
  obtain ⟨c, named, noSlash⟩ := List.any_eq_true.1 stemmed.named
  obtain ⟨tail, parts⟩ := stemmed.behind
  have filled : path.toList ≠ [] := by simp [parts]
  rw [String.toList_append, clean_append _ filled fun c inside => (plain c inside).1]
  rw [parts] at plain ⊢
  exact named?_append _ named (Bool.not_eq_true' _ ▸ noSlash) fun c inside => (plain c inside).2

/-- Endpoints of one address whose paths have one stem are addresses alike. -/
theorem isSome_read?_of_extends {path other : String} {stem : List Char}
    (first : Extends path stem) (second : Extends other stem) (address : String) :
    (read? (address ++ path)).isSome = (read? (address ++ other)).isSome := by
  rw [isSome_read?, isSome_read?, first.named?_clean, second.named?_clean]

/-! ## The query of an address -/

/-- What follows the scheme is the end of a text. -/
theorem isSuffix_of_scheme? {text after : List Char} {scheme : Scheme}
    (found : scheme? text = some (scheme, after)) : after <:+ text := by
  rw [scheme?, Option.bind_eq_bind, Option.bind_eq_some_iff] at found
  obtain ⟨⟨name, rest⟩, cut, found⟩ := found
  obtain ⟨colon, _, rfl⟩ := Text.eq_append_of_splitFirst? cut
  have same : rest = after := by
    dsimp only at found
    split at found
    · cases found
      rfl
    · split at found
      · cases found
        rfl
      · cases found
  rw [← same]
  exact ⟨name ++ [colon], by simp⟩

/-- What follows the authority is the end of a text. -/
theorem isSuffix_of_splitAuthority? {text authority rest : List Char} {scheme : Scheme}
    (split : splitAuthority? text = some (scheme, authority, rest)) : rest <:+ text := by
  rw [splitAuthority?, Option.bind_eq_bind, Option.bind_eq_some_iff] at split
  obtain ⟨⟨_, after⟩, begun, same⟩ := split
  cases same
  exact ((List.dropWhile_suffix _).trans (List.dropWhile_suffix _)).trans
    (isSuffix_of_scheme? begun)

/-- What counts of a text is part of it. -/
theorem mem_of_mem_clean {text : List Char} {c : Char} (inside : c ∈ clean text) : c ∈ text := by
  have kept := List.mem_of_mem_filter inside
  rw [Text.dropEndWhile, List.mem_reverse] at kept
  have before := (List.dropWhile_suffix _).subset kept
  exact (List.dropWhile_suffix _).subset (List.mem_reverse.1 before)

/-- Without a question mark there is no query. -/
theorem splitQuery_of_free {text : List Char} (free : ∀ c ∈ text, (c == '?') = false) :
    (splitQuery text).2 = none := by
  have kept : ∀ c ∈ ((splitFirst? (· == '#') text).map (·.1)).getD text, (c == '?') = false := by
    cases cut : splitFirst? (· == '#') text with
    | none => exact free
    | some parts =>
        obtain ⟨before, after⟩ := parts
        obtain ⟨mark, _, rfl⟩ := Text.eq_append_of_splitFirst? cut
        exact fun c inside => free c (List.mem_append_left _ inside)
  rw [splitQuery, Text.splitFirst?_of_free kept]

/-- The query of an address is what its text holds behind a question mark, escaped. -/
theorem query_of_read? {text : String} {url : Url} {login : Option Login}
    (read : read? text = some (url, login)) :
    ∃ rest, (∀ c ∈ rest, c ∈ text.toList) ∧
      url.query = (splitQuery rest).2.map (percentEncode querySet) := by
  rw [read?, Option.bind_eq_bind, Option.bind_eq_some_iff] at read
  obtain ⟨⟨scheme, authority, rest⟩, split, read⟩ := read
  rw [Option.bind_eq_bind, Option.bind_eq_some_iff] at read
  obtain ⟨names, _, same⟩ := read
  cases same
  exact ⟨rest, fun c inside =>
    mem_of_mem_clean ((isSuffix_of_splitAuthority? split).subset inside), rfl⟩

/-- An address whose text has no question mark has no query. -/
theorem query_of_free {text : String} {url : Url} {login : Option Login}
    (read : read? text = some (url, login)) (free : '?' ∉ text.toList) : url.query = none := by
  obtain ⟨rest, part, query⟩ := query_of_read? read
  have none := splitQuery_of_free fun c inside =>
    beq_false_of_ne fun mark => free (mark ▸ part c inside)
  rw [query, none, Option.map_none]

/-! ## Characters of a query -/

/-- A character of ASCII that is seen and begins no fragment. -/
def isVisible (c : Char) : Bool := 0x20 < c.toNat && c.toNat < 0x7f && c != '#'

/-- A percent-encoded byte is visible. -/
theorem all_isVisible_percentByte : ∀ byte : UInt8, (percentByte byte).all isVisible = true :=
  forall_byte (by decide +kernel)

/-- The characters of ASCII outside a set are visible. -/
def KeepsVisible (escaped : Char → Bool) : Prop :=
  ∀ c, c.toNat < 0x80 → escaped c = false → isVisible c = true

/-- A control character, a space or a number sign is the only character of ASCII not visible. -/
theorem isVisible_of_ascii {c : Char} (ascii : c.toNat < 0x80) (plain : isControl c = false)
    (noSpace : c ≠ ' ') (noHash : c ≠ '#') : isVisible c = true := by
  simp only [isControl, Bool.or_eq_false_iff, decide_eq_false_iff_not, beq_eq_false_iff_ne] at plain
  simp only [isVisible, Bool.and_eq_true, decide_eq_true_eq, bne_iff_ne]
  have seen : c.toNat ≠ 0x20 := fun same => noSpace <| by
    rw [← Char.ofNat_toNat c, same]
  exact ⟨⟨by omega, by omega⟩, noHash⟩

/-- What a query escapes leaves visible characters. -/
theorem keepsVisible_querySet : KeepsVisible querySet := by
  intro c ascii plain
  simp only [querySet, Bool.or_eq_false_iff, beq_eq_false_iff_ne] at plain
  exact isVisible_of_ascii ascii plain.1.1.1.1.1.1 plain.1.1.1.1.1.2 plain.1.1.1.2

/-- An escaped text is visible. -/
theorem isVisible_of_mem_percentEncode {escaped : Char → Bool} (keeps : KeepsVisible escaped)
    {text : List Char} {c : Char} (inside : c ∈ percentEncode escaped text) :
    isVisible c = true := by
  obtain ⟨given, _, written⟩ := List.mem_flatMap.1 inside
  split at written
  next =>
    obtain ⟨byte, _, inByte⟩ := List.mem_flatMap.1 written
    exact List.all_eq_true.1 (all_isVisible_percentByte byte) c inByte
  next plain =>
    obtain rfl := List.mem_singleton.1 written
    simp only [Bool.or_eq_true, decide_eq_true_eq, not_or, Bool.not_eq_true, Nat.not_le] at plain
    exact keeps c plain.1 plain.2

/-- A byte of a parameter is written visibly. -/
theorem all_isVisible_writeByte : ∀ byte : UInt8, (Form.writeByte byte).all isVisible = true :=
  forall_byte (by decide +kernel)

/-- The written form of parameters is visible. -/
theorem isVisible_of_mem_write {pairs : List (String × String)} {c : Char}
    (inside : c ∈ Form.write pairs) : isVisible c = true := by
  rcases Form.mem_write inside with ⟨byte, inByte⟩ | rfl | rfl
  · exact List.all_eq_true.1 (all_isVisible_writeByte byte) c inByte
  · rfl
  · rfl

/-- The query of an address is visible. -/
theorem isVisible_of_mem_query {text : String} {url : Url} {login : Option Login}
    (read : read? text = some (url, login)) {c : Char} (inside : c ∈ url.query.getD []) :
    isVisible c = true := by
  obtain ⟨rest, _, query⟩ := query_of_read? read
  rw [query] at inside
  cases given : (splitQuery rest).2 with
  | none =>
      rw [given] at inside
      cases inside
  | some text =>
      rw [given] at inside
      exact isVisible_of_mem_percentEncode keepsVisible_querySet inside

/-! ## Parameters -/

/-- The parameters of an address. -/
def parameters (url : Url) : List (String × String) := Form.read (url.query.getD [])

/-- The address with no query. -/
def place (url : Url) : Url := { url with query := none }

/-- Written parameters are nothing only if there are none. -/
theorem Form.write_eq_nil_iff {pairs : List (String × String)} :
    Form.write pairs = [] ↔ pairs = [] := by
  constructor
  · intro none
    have read := Form.read_write pairs
    rw [none] at read
    exact read.symm
  · rintro rfl
    rfl

/-- Further parameters are added behind those that an address has. -/
theorem query_addQuery (url : Url) {pairs : List (String × String)} (filled : pairs ≠ []) :
    (url.addQuery pairs).query =
      some (if url.query.getD [] = [] then Form.write pairs
        else url.query.getD [] ++ '&' :: Form.write pairs) := by
  have written : Form.write pairs ≠ [] := fun none => filled (Form.write_eq_nil_iff.1 none)
  by_cases given : url.query.getD [] = []
  · simp [addQuery, given, written]
  · simp [addQuery, given, written]

/-- Further parameters come behind those that an address has, and change none of them. -/
theorem parameters_addQuery (url : Url) {pairs : List (String × String)} (filled : pairs ≠ []) :
    (url.addQuery pairs).parameters = url.parameters ++ pairs := by
  rw [parameters, parameters, query_addQuery url filled, Option.getD_some]
  split
  next given =>
    rw [given, Form.read_write]
    rfl
  next => rw [Form.read_append, Form.read_write]

/-- Further parameters keep a query visible. -/
theorem isVisible_addQuery {url : Url} {pairs : List (String × String)}
    (visible : ∀ c ∈ url.query.getD [], isVisible c = true) (filled : pairs ≠ []) :
    ∀ c ∈ (url.addQuery pairs).query.getD [], isVisible c = true := by
  intro c inside
  rw [query_addQuery url filled, Option.getD_some] at inside
  split at inside
  next => exact isVisible_of_mem_write inside
  next =>
    rcases List.mem_append.1 inside with given | added
    · exact visible c given
    · rcases List.mem_cons.1 added with rfl | added
      · rfl
      · exact isVisible_of_mem_write added

/-- Addresses with one place and different queries are written differently. -/
theorem query_eq_of_toText_eq {url other : Url} (place : url.place = other.place)
    {query otherQuery : List Char} (given : url.query = some query)
    (otherGiven : other.query = some otherQuery) (same : url.toText = other.toText) :
    query = otherQuery := by
  obtain ⟨scheme, host, port, path, _⟩ := url
  obtain ⟨_, _, _, _, _⟩ := other
  cases place
  cases given
  cases otherGiven
  have queries := (String.append_right_inj _).1 same
  exact (List.cons.inj (String.ofList_injective queries)).2

end MetricProbe.Url
