import MetricProbe.Proofs.Url.Address

/-!
# Characters of addresses

An address that was read holds no control character, whatever its text holds: those that percent
signs stand for are encoded again in a path or a query, and no host is accepted with one. So nothing
within an address ends a line.
-/

namespace MetricProbe.Url

open Text (splitAll)

/-! ## Texts without control characters -/

/-- A text has no control characters. -/
def Plain (text : List Char) : Prop := ∀ c ∈ text, isControl c = false

/-- A plain text has no line ends. -/
theorem Plain.not_mem {text : List Char} (plain : Plain text) : '\n' ∉ text := by
  intro inside
  cases plain _ inside

/-- Plain texts together are plain. -/
theorem Plain.append {first second : List Char} (plain : Plain first) (plainToo : Plain second) :
    Plain (first ++ second) :=
  List.forall_mem_append.2 ⟨plain, plainToo⟩

/-- A character before a plain text keeps it plain if it is no control character. -/
theorem Plain.cons {c : Char} {rest : List Char} (first : isControl c = false)
    (plain : Plain rest) : Plain (c :: rest) :=
  List.forall_mem_cons.2 ⟨first, plain⟩

/-- Plain texts with a plain separator between them are plain. -/
theorem Plain.intercalate {separator : List Char} (plain : Plain separator)
    {pieces : List (List Char)} (each : ∀ piece ∈ pieces, Plain piece) :
    Plain (List.intercalate separator pieces) := by
  induction pieces with
  | nil => exact List.forall_mem_nil _
  | cons first pieces inductionHypothesis =>
      have plainFirst : Plain first := each first List.mem_cons_self
      have plainRest : Plain (List.intercalate separator pieces) :=
        inductionHypothesis fun piece inside => each piece (List.mem_cons_of_mem first inside)
      cases pieces with
      | nil => simpa [List.intercalate] using plainFirst
      | cons second pieces =>
          rw [List.intercalate_cons_cons]
          exact (plainFirst.append plain).append plainRest

/-- Visible characters are no control characters. -/
theorem Plain.of_visible {text : List Char} (visible : ∀ c ∈ text, isVisible c = true) :
    Plain text := by
  intro c inside
  have seen := visible c inside
  simp only [isVisible, Bool.and_eq_true, decide_eq_true_eq] at seen
  simp only [isControl, Bool.or_eq_false_iff, decide_eq_false_iff_not, beq_eq_false_iff_ne]
  omega

/-- The digits of a number are plain. -/
theorem plain_toDigits {base : Nat} (many : 1 < base) (few : base ≤ 16) (value : Nat) :
    Plain (Nat.toDigits base value) := by
  have digit : ∀ value < 16, isControl (Nat.digitChar value) = false := by decide
  induction value using Nat.strongRecOn with
  | _ value inductionHypothesis =>
      rw [Nat.toDigits_eq_if many]
      split
      next small => exact List.forall_mem_singleton.2 (digit value (by omega))
      next large =>
        have less : value / base < value := Nat.div_lt_self (by omega) many
        have last : value % base < 16 := Nat.lt_of_lt_of_le (Nat.mod_lt value (by omega)) few
        apply (inductionHypothesis _ less).append
        exact List.forall_mem_singleton.2 (digit _ last)

/-- A number in decimal is plain. -/
theorem plain_toString (value : Nat) : Plain (toString value).toList := by
  rw [Nat.toString_eq_repr, Nat.toList_repr]
  exact plain_toDigits (by decide) (by decide) value

/-! ## Hosts -/

/-- The written form of an IPv4 address is plain. -/
theorem plain_writeIpv4 (value : Nat) : Plain (writeIpv4 value) := by
  rw [writeIpv4, String.toList_intercalate]
  apply Plain.intercalate
  · exact .cons rfl (List.forall_mem_nil _)
  · intro piece inside
    simp only [List.map_map, List.mem_map] at inside
    obtain ⟨index, _, rfl⟩ := inside
    exact plain_toString _

/-- The IPv4 address that a name stands for is plain. -/
theorem plain_of_ipv4? {name written : List Char} (found : ipv4? name = some written) :
    Plain written := by
  rw [ipv4?, Option.bind_eq_bind, Option.bind_eq_some_iff] at found
  obtain ⟨numbers, _, found⟩ := found
  rw [Option.bind_eq_bind, Option.bind_eq_some_iff] at found
  obtain ⟨value, _, same⟩ := found
  rw [← Option.some.inj same]
  exact plain_writeIpv4 value

/-- The written form of an IPv6 address is plain. -/
theorem plain_writeIpv6 (groups : List Nat) : Plain (writeIpv6 groups) := by
  have colon : Plain ":".toList := .cons rfl (List.forall_mem_nil _)
  have written (groups : List Nat) : Plain (String.intercalate ":" (groups.map fun group =>
      String.ofList (Nat.toDigits 16 group))).toList := by
    rw [String.toList_intercalate]
    apply colon.intercalate
    intro piece inside
    simp only [List.map_map, List.mem_map] at inside
    obtain ⟨group, _, rfl⟩ := inside
    rw [Function.comp_apply, String.toList_ofList]
    exact plain_toDigits (by decide) (by decide) group
  simp only [writeIpv6]
  split
  · exact written groups
  · exact (written _).append (colon.append (colon.append (written _)))

/-- A host is plain. -/
theorem plain_of_host? {text : List Char} {host : String} (found : host? text = some host) :
    Plain host.toList := by
  unfold host? at found
  split at found
  next rest =>
    split at found
    next =>
      obtain ⟨groups, _, rfl⟩ := Option.map_eq_some_iff.1 found
      rw [String.toList_ofList]
      have ending : Plain [']'] := .cons rfl (List.forall_mem_nil _)
      exact .cons rfl ((plain_writeIpv6 groups).append ending)
    next => cases found
  next =>
    dsimp only at found
    split at found
    next => cases found
    next legal =>
      split at found
      next =>
        obtain ⟨written, isAddress, rfl⟩ := Option.map_eq_some_iff.1 found
        rw [String.toList_ofList]
        exact plain_of_ipv4? isAddress
      next =>
        rw [← Option.some.inj found, String.toList_ofList]
        intro c inside
        simp only [Bool.or_eq_true, not_or, Bool.not_eq_true, List.any_eq_false] at legal
        have allowed : forbiddenInName c = false := legal.2 c inside
        exact (Bool.or_eq_false_iff.1 allowed).1

/-! ## Paths -/

/-- What a path escapes leaves visible characters. -/
theorem keepsVisible_pathSet : KeepsVisible pathSet := by
  intro c ascii plain
  simp only [pathSet, fragmentSet, Bool.or_eq_false_iff, beq_eq_false_iff_ne] at plain
  exact isVisible_of_ascii ascii plain.1.1.1.1.1.1.1.1.1 plain.1.1.1.1.1.1.1.1.2 plain.1.1.1.2

/-- A segment of a resolved path stood above it, or is empty, or is an escaped one. -/
theorem mem_resolve {above segments : List (List Char)} {segment : List Char}
    (inside : segment ∈ resolve above segments) :
    segment ∈ above ∨ segment = [] ∨ ∃ given, segment = percentEncode pathSet given := by
  induction segments generalizing above with
  | nil => exact .inl (List.mem_reverse.1 inside)
  | cons first segments inductionHypothesis =>
      -- The segments above grow by the first one, lose the last of them, or stay.
      have kept {segment : List Char} (stands : segment ∈
          (if isParent first then above.drop 1 else if isCurrent first then above
            else percentEncode pathSet first :: above)) :
          segment ∈ above ∨ segment = [] ∨ ∃ given, segment = percentEncode pathSet given := by
        split at stands
        · exact .inl (List.mem_of_mem_drop stands)
        · split at stands
          · exact .inl stands
          · rcases List.mem_cons.1 stands with rfl | stands
            · exact .inr (.inr ⟨first, rfl⟩)
            · exact .inl stands
      rw [resolve] at inside
      split at inside
      · rcases List.mem_cons.1 (List.mem_reverse.1 inside) with rfl | stands
        · exact .inr (.inl rfl)
        · exact kept stands
      · rcases inductionHypothesis inside with stands | other
        · exact kept stands
        · exact .inr other

/-- A path is visible. -/
theorem isVisible_of_mem_normalPath {text : List Char} {c : Char}
    (inside : c ∈ normalPath text) : isVisible c = true := by
  obtain ⟨segment, isSegment, inSegment⟩ := List.mem_flatMap.1 inside
  rcases List.mem_cons.1 inSegment with rfl | inSegment
  · rfl
  rcases mem_resolve isSegment with none | rfl | ⟨given, rfl⟩
  · cases none
  · cases inSegment
  · exact isVisible_of_mem_percentEncode keepsVisible_pathSet inSegment

/-! ## Addresses -/

variable {text : String} {url : Url} {login : Option Login}

/-- The host of an address is plain. -/
theorem plain_host_of_read? (read : read? text = some (url, login)) : Plain url.host.toList := by
  rw [read?, Option.bind_eq_bind, Option.bind_eq_some_iff] at read
  obtain ⟨⟨scheme, place, rest⟩, _, read⟩ := read
  obtain ⟨names, authority, same⟩ := Option.bind_eq_some_iff.1 read
  cases same
  rw [authority?, Option.bind_eq_bind, Option.bind_eq_some_iff] at authority
  obtain ⟨host, found, authority⟩ := authority
  obtain ⟨port, _, same⟩ := Option.bind_eq_some_iff.1 authority
  cases same
  exact plain_of_host? found

/-- The path of an address is plain. -/
theorem plain_path_of_read? (read : read? text = some (url, login)) : Plain url.path := by
  rw [read?, Option.bind_eq_bind, Option.bind_eq_some_iff] at read
  obtain ⟨⟨scheme, place, rest⟩, _, read⟩ := read
  obtain ⟨names, _, same⟩ := Option.bind_eq_some_iff.1 read
  cases same
  exact .of_visible fun c inside => isVisible_of_mem_normalPath inside

end MetricProbe.Url
