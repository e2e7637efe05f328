import MetricProbe.Proofs.CloudWatch.Region

/-!
# Endpoints of addresses

An address and the endpoint made from it name the same region, or neither names one. The scheme of
an address is looked for before its last slashes are dropped, and that of an endpoint after it; the
two differ only where the mark of the scheme is itself made of these slashes, and then there is no
host to name a region.

Which host the endpoint of an accepted address has is another matter, because a region is any text
without a point. `host?` reads the host as a URL has it, and it is the monitoring host of the region
exactly if the region has none of the characters that end a host or begin another one.
-/

namespace MetricProbe.CloudWatch

/-! ## Marks of schemes -/

/-- What is put behind a text with a mark follows the mark too. -/
theorem afterScheme?_append {text after : List Char} (found : afterScheme? text = some after)
    (rest : List Char) : afterScheme? (text ++ rest) = some (after ++ rest) := by
  obtain ⟨before, rfl, first⟩ := afterScheme?_eq_some_iff.1 found
  refine afterScheme?_eq_some_iff.2 ⟨before, by simp, fun earlier later marked => ?_⟩
  by_contra early
  -- A mark that begins earlier ends within the text, so it would have been found there.
  have short : (earlier ++ schemeMark).length ≤ (before ++ schemeMark ++ after).length := by
    simp only [List.length_append]
    omega
  have inside : earlier ++ schemeMark <+: before ++ schemeMark ++ after :=
    List.prefix_of_prefix_length_le ⟨later, marked.symm⟩ (List.prefix_append _ rest) short
  obtain ⟨later, whole⟩ := inside
  exact early (first earlier later whole.symm)

/-- What follows the secure scheme is what is put behind it. -/
theorem afterScheme?_https (text : List Char) :
    afterScheme? ("https://".toList ++ text) = some text := by
  simp [afterScheme?, Text.stripStart?, schemeMark]

/-- A text with something behind a mark is not without a mark. -/
theorem ne_marked_of_unmarked {text : List Char} (unmarked : afterScheme? text = none)
    (before after : List Char) : text ≠ before ++ schemeMark ++ after := by
  rintro rfl
  have marked := isSome_afterScheme? before after
  rw [unmarked] at marked
  cases marked

/-! ## Hosts without slashes -/

/-- An address names the region of the host that is left without scheme and slashes. -/
theorem namesRegion_iff {address region : String} :
    NamesRegion address region ↔
      region ≠ "" ∧ '.' ∉ region.toList ∧ ∃ ending ∈ hostEnds,
        withoutSlashes (withoutScheme address.toList) =
          hostStart ++ region.toList ++ ending := by
  refine and_congr_right fun _ => and_congr_right fun _ => exists_congr fun ending =>
    and_congr_right fun isEnd => ?_
  rw [withoutSlashes_eq_iff isEnd]
  exact exists_congr fun slashes => withoutScheme_eq_iff.symm

/-- A host of a region is no empty text, and does not end in a colon. -/
theorem ne_of_hostEnd {before ending : List Char} (isEnd : ending ∈ hostEnds) :
    before ++ ending ≠ [] ∧ ∀ other, before ++ ending ≠ other ++ [':'] := by
  rcases List.mem_cons.1 isEnd with rfl | isEnd
  · refine ⟨by simp, fun other same => ?_⟩
    have last := congrArg List.getLast? same
    simp at last
  · rw [List.mem_singleton.1 isEnd]
    refine ⟨by simp, fun other same => ?_⟩
    have last := congrArg List.getLast? same
    simp at last

/-- Slashes at the end of an address are all of the end that is dropped. -/
theorem eq_withoutSlashes_append (text : List Char) :
    ∃ slashes : Nat, text = withoutSlashes text ++ List.replicate slashes '/' := by
  obtain ⟨tail, whole, drops⟩ := Text.exists_eq_dropEndWhile_append (· == '/') text
  refine ⟨tail.length, ?_⟩
  rw [← List.eq_replicate_of_mem fun c inside => beq_iff_eq.1 (drops c inside)]
  exact whole

/-- Slashes do not matter before slashes are dropped. -/
theorem withoutSlashes_append_replicate (text : List Char) (slashes : Nat) :
    withoutSlashes (text ++ List.replicate slashes '/') = withoutSlashes text := by
  refine Text.dropEndWhile_append_of_all text fun c inside => ?_
  rw [List.eq_of_mem_replicate inside]
  rfl

/-! ## Endpoints -/

/-- An endpoint is the address without its slashes, if that still has the mark of a scheme, and else
behind the secure scheme. -/
theorem endpointUrl_cases (address : String) :
    (∃ after, afterScheme? (withoutSlashes address.toList) = some after ∧
        (endpointUrl address).toList = withoutSlashes address.toList) ∨
      (afterScheme? (withoutSlashes address.toList) = none ∧
        (endpointUrl address).toList = "https://".toList ++ withoutSlashes address.toList) := by
  rw [endpointUrl]
  cases found : afterScheme? (withoutSlashes address.toList) with
  | some after => exact .inl ⟨after, rfl, by simp⟩
  | none => exact .inr ⟨rfl, by simp⟩

/-- If only the slashes at its end give an address the mark of a scheme, nothing is left behind the
mark, and what is left before it ends in a colon. -/
theorem withoutSlashes_of_mark_in_slashes {text after : List Char}
    (marked : afterScheme? text = some after)
    (unmarked : afterScheme? (withoutSlashes text) = none) :
    withoutSlashes after = [] ∧ ∃ before, withoutSlashes text = before ++ [':'] := by
  obtain ⟨before, rfl, _⟩ := afterScheme?_eq_some_iff.1 marked
  have slashes : ∀ c ∈ after, (c == '/') = true := by
    by_contra other
    obtain ⟨c, inside, stays⟩ := not_forall₂.1 other
    refine ne_marked_of_unmarked unmarked before (withoutSlashes after) ?_
    exact Text.dropEndWhile_append_of_mem _ inside (Bool.eq_false_iff.2 stays)
  constructor
  · have dropped := Text.dropEndWhile_append_of_all [] slashes
    exact dropped
  · refine ⟨before, ?_⟩
    have split : before ++ schemeMark ++ after = before ++ [':'] ++ ('/' :: '/' :: after) := by
      simp [schemeMark]
    rw [withoutSlashes, split]
    refine Text.dropEndWhile_append (by simp) fun c inside => ?_
    simp only [List.mem_cons] at inside
    rcases inside with rfl | rfl | inside
    · rfl
    · rfl
    · exact slashes c inside

/-- The host that is left of an endpoint is the one that is left of its address. -/
theorem host_endpointUrl_iff {address : String} {before ending : List Char}
    (isEnd : ending ∈ hostEnds) :
    withoutSlashes (withoutScheme (endpointUrl address).toList) = before ++ ending ↔
      withoutSlashes (withoutScheme address.toList) = before ++ ending := by
  obtain ⟨slashes, whole⟩ := eq_withoutSlashes_append address.toList
  rcases endpointUrl_cases address with ⟨after, found, endpoint⟩ | ⟨unmarked, endpoint⟩
  · have behind : afterScheme? address.toList = some (after ++ List.replicate slashes '/') := by
      rw [whole]
      exact afterScheme?_append found _
    rw [endpoint, withoutScheme, withoutScheme, found, behind, Option.getD_some, Option.getD_some,
      withoutSlashes_append_replicate]
  · have own : withoutSlashes (withoutScheme (endpointUrl address).toList) =
        withoutSlashes address.toList := by
      rw [endpoint, withoutScheme, afterScheme?_https]
      exact Text.dropEndWhile_dropEndWhile _
    rw [own]
    cases marked : afterScheme? address.toList with
    | none => rw [withoutScheme, marked, Option.getD_none]
    | some after =>
        -- Neither side is a host: one of them is nothing, the other ends in a colon.
        obtain ⟨nothing, other, colon⟩ := withoutSlashes_of_mark_in_slashes marked unmarked
        have host := @ne_of_hostEnd before ending isEnd
        rw [colon, withoutScheme, marked, Option.getD_some, nothing]
        exact iff_of_false (host.2 other).symm host.1.symm

/-- An endpoint names the region that its address names. -/
theorem namesRegion_endpointUrl_iff {address region : String} :
    NamesRegion (endpointUrl address) region ↔ NamesRegion address region := by
  rw [namesRegion_iff, namesRegion_iff]
  exact and_congr_right fun _ => and_congr_right fun _ => exists_congr fun ending =>
    and_congr_right host_endpointUrl_iff

/-- The endpoint of an address with a host is a scheme and that host, and nothing else. -/
theorem afterScheme?_endpointUrl {address : String} {before ending : List Char}
    (isEnd : ending ∈ hostEnds)
    (host : withoutSlashes (withoutScheme address.toList) = before ++ ending) :
    afterScheme? (endpointUrl address).toList = some (before ++ ending) := by
  have bare : ∀ last ∈ (withoutSlashes address.toList).getLast?, (last == '/') = false :=
    Text.getLast?_dropEndWhile address.toList
  have own := (host_endpointUrl_iff isEnd).2 host
  rcases endpointUrl_cases address with ⟨after, found, endpoint⟩ | ⟨_, endpoint⟩
  · rw [endpoint] at own ⊢
    rw [withoutScheme, found, Option.getD_some] at own
    obtain ⟨scheme, marked, _⟩ := afterScheme?_eq_some_iff.1 found
    have stays : ∀ last ∈ after.getLast?, (last == '/') = false := by
      intro last isLast
      refine bare last ?_
      rw [marked, List.getLast?_append, Option.mem_def.1 isLast]
      rfl
    have tail : withoutSlashes after = after := Text.dropEndWhile_of_stays stays
    rw [found, ← own, tail]
  · rw [endpoint, withoutScheme, afterScheme?_https, Option.getD_some] at own
    rw [endpoint, afterScheme?_https, ← own]
    exact congrArg some (Text.dropEndWhile_dropEndWhile _).symm

/-- The endpoint of an address with a host is its own endpoint. -/
theorem endpointUrl_endpointUrl {address : String} {before ending : List Char}
    (isEnd : ending ∈ hostEnds)
    (host : withoutSlashes (withoutScheme address.toList) = before ++ ending) :
    endpointUrl (endpointUrl address) = endpointUrl address := by
  have found := afterScheme?_endpointUrl isEnd host
  obtain ⟨scheme, whole, _⟩ := afterScheme?_eq_some_iff.1 found
  have bare : withoutSlashes (endpointUrl address).toList = (endpointUrl address).toList := by
    rw [whole, ← List.append_assoc]
    exact (withoutSlashes_eq_iff isEnd).2 ⟨0, (List.append_nil _).symm⟩
  rcases endpointUrl_cases (endpointUrl address) with ⟨_, _, same⟩ | ⟨unmarked, _⟩
  · exact String.toList_injective (same.trans bare)
  · rw [bare, found] at unmarked
    cases unmarked

/-- An address is accepted for the region that it names. -/
theorem readRegion_eq_ok_iff {address region : String} :
    readRegion address = .ok region ↔ NamesRegion address region := by
  rw [← region?_eq_some_iff, readRegion]
  cases region? address <;> simp

/-- An address names one region at most. -/
theorem NamesRegion.unique {address first second : String} (names : NamesRegion address first)
    (namesToo : NamesRegion address second) : first = second := by
  have read := region?_eq_some_iff.2 names
  rw [region?_eq_some_iff.2 namesToo] at read
  exact (Option.some.inj read).symm

/-- An address is accepted for the one region that it names, and its endpoint for the same. What is
left of the address without scheme and slashes is what is left of the endpoint without its scheme,
and the endpoint is its own endpoint. Where the address is refused, so is the endpoint. -/
theorem region_and_endpoint_agree (address : String) :
    (∀ region, readRegion address = .ok region ↔ NamesRegion address region) ∧
      (∀ first second, NamesRegion address first → NamesRegion address second → first = second) ∧
      (∀ region, NamesRegion address region →
        (∃ ending ∈ hostEnds, ∃ slashes : Nat,
          Behind address.toList
              (hostStart ++ region.toList ++ ending ++ List.replicate slashes '/') ∧
            Behind (endpointUrl address).toList (hostStart ++ region.toList ++ ending)) ∧
          endpointUrl (endpointUrl address) = endpointUrl address) ∧
      ((∃ region, readRegion address = .ok region ∧
          readRegion (endpointUrl address) = .ok region) ∨
        ∃ reason, readRegion address = .error (.invalidAddress address reason) ∧
          readRegion (endpointUrl address) =
            .error (.invalidAddress (endpointUrl address) reason)) := by
  refine ⟨fun region => readRegion_eq_ok_iff, fun _ _ => NamesRegion.unique,
    fun region names => ?_, ?_⟩
  · obtain ⟨_, _, ending, isEnd, host⟩ := namesRegion_iff.1 names
    obtain ⟨slashes, behind⟩ := (withoutSlashes_eq_iff isEnd).1 host
    have found := afterScheme?_endpointUrl isEnd host
    refine ⟨⟨ending, isEnd, slashes, withoutScheme_eq_iff.1 behind, withoutScheme_eq_iff.1 ?_⟩,
      endpointUrl_endpointUrl isEnd host⟩
    rw [withoutScheme, found, Option.getD_some]
  · by_cases named : ∃ region, NamesRegion address region
    · obtain ⟨region, names⟩ := named
      exact .inl ⟨region, readRegion_eq_ok_iff.2 names,
        readRegion_eq_ok_iff.2 (namesRegion_endpointUrl_iff.2 names)⟩
    · have nameless : ∀ region, ¬ NamesRegion address region := not_exists.1 named
      have namelessToo : ∀ region, ¬ NamesRegion (endpointUrl address) region :=
        fun region names => nameless region (namesRegion_endpointUrl_iff.1 names)
      exact .inr ⟨_, readRegion_eq_error_iff.2 ⟨nameless, rfl⟩,
        readRegion_eq_error_iff.2 ⟨namelessToo, rfl⟩⟩

/-- An address with a scheme before its host and slashes behind it, whose end of a host begins with
the other one. -/
theorem region_and_endpoint_agree_china :
    let address := "http://monitoring.cn-north-1.amazonaws.com.cn//"
    NamesRegion address "cn-north-1" ∧
      endpointUrl address = "http://monitoring.cn-north-1.amazonaws.com.cn" ∧
      endpointUrl (endpointUrl address) = endpointUrl address ∧
      ∀ other, NamesRegion address other → other = "cn-north-1" := by
  intro address
  obtain ⟨accepted, unique, agree, _⟩ := region_and_endpoint_agree address
  have names : NamesRegion address "cn-north-1" := (accepted _).1 (by decide +kernel)
  exact ⟨names, by decide +kernel, (agree _ names).2, fun other namesToo =>
    unique other _ namesToo names⟩

/-! ## Hosts of endpoints -/

/-- A character that ends the authority of a URL. -/
def endsAuthority (c : Char) : Bool := c == '/' || c == '?' || c == '#'

/-- A character that ends the authority of a URL, or stands between its parts. -/
def isDelimiter (c : Char) : Bool := endsAuthority c || c == '@' || c == ':'

/-- The host of a URL: what stands behind the mark of its scheme, up to a path, a query or a
fragment, without the user before it and the port behind it. -/
def host? (url : List Char) : Option (List Char) :=
  (afterScheme? url).map fun after =>
    let authority := after.takeWhile (!endsAuthority ·)
    let place := (authority.reverse.takeWhile (· != '@')).reverse
    place.takeWhile (· != ':')

/-- A single label of a host: it holds something, but no point, no delimiter and no blank. -/
def IsLabel (label : List Char) : Prop :=
  label ≠ [] ∧ ∀ c ∈ label, c ≠ '.' ∧ isDelimiter c = false ∧ Text.isBlank c = false

/-- A host has no delimiters. -/
theorem isDelimiter_of_mem_host? {url host : List Char} (found : host? url = some host) {c : Char}
    (inside : c ∈ host) : isDelimiter c = false := by
  obtain ⟨after, _, rfl⟩ := Option.map_eq_some_iff.1 found
  have noColon := List.mem_takeWhile_imp inside
  have inPlace := List.mem_reverse.1 ((List.takeWhile_sublist _).subset inside)
  have noAt := List.mem_takeWhile_imp inPlace
  have noEnd := List.mem_takeWhile_imp
    (List.mem_reverse.1 ((List.takeWhile_sublist _).subset inPlace))
  simp only [isDelimiter, Bool.or_eq_false_iff]
  exact ⟨⟨by simpa using noEnd, by simpa using noAt⟩, by simpa using noColon⟩

/-- What follows the mark of a scheme is the host, if it has no delimiters. -/
theorem host?_of_free {url after : List Char} (found : afterScheme? url = some after)
    (free : ∀ c ∈ after, isDelimiter c = false) : host? url = some after := by
  simp only [isDelimiter, Bool.or_eq_false_iff] at free
  have authority : after.takeWhile (!endsAuthority ·) = after :=
    List.takeWhile_eq_self_iff.2 fun c inside => by simp [(free c inside).1.1]
  have place : after.reverse.takeWhile (· != '@') = after.reverse :=
    List.takeWhile_eq_self_iff.2 fun c inside => by
      simpa using (free c (List.mem_reverse.1 inside)).1.2
  have host : after.takeWhile (· != ':') = after :=
    List.takeWhile_eq_self_iff.2 fun c inside => by simpa using (free c inside).2
  rw [host?, found, Option.map_some]
  simp only [authority, place, List.reverse_reverse, host]

/-- What stands before and after a region has no delimiters. -/
theorem isDelimiter_of_mem_hostEnd {ending : List Char} (isEnd : ending ∈ hostEnds) :
    ∀ c ∈ hostStart ++ ending, isDelimiter c = false := by
  have all : hostEnds.all (fun ending => (hostStart ++ ending).all (!isDelimiter ·)) = true := by
    decide +kernel
  intro c inside
  have plain := List.all_eq_true.1 (List.all_eq_true.1 all ending isEnd) c inside
  rwa [Bool.not_eq_true'] at plain

/-- The endpoint of an accepted address has the monitoring host of the region exactly if the region
has no delimiters. An address whose endpoint has no monitoring host is refused, unless its region
has delimiters or blanks. -/
theorem accepted_host (address : String) :
    (∀ region, readRegion address = .ok region →
      ((∃ ending ∈ hostEnds, host? (endpointUrl address).toList =
          some (hostStart ++ region.toList ++ ending)) ↔
        ∀ c ∈ region.toList, isDelimiter c = false)) ∧
      ((∀ label ending, IsLabel label → ending ∈ hostEnds →
          host? (endpointUrl address).toList ≠ some (hostStart ++ label ++ ending)) →
        (∃ reason, readRegion address = .error (.invalidAddress address reason)) ∨
          ∃ region, readRegion address = .ok region ∧
            ∃ c ∈ region.toList, isDelimiter c = true ∨ Text.isBlank c = true) := by
  have own : ∀ region, readRegion address = .ok region →
      (∀ c ∈ region.toList, isDelimiter c = false) →
        ∃ ending ∈ hostEnds, host? (endpointUrl address).toList =
          some (hostStart ++ region.toList ++ ending) := by
    intro region read free
    obtain ⟨_, _, ending, isEnd, host⟩ := namesRegion_iff.1 (readRegion_eq_ok_iff.1 read)
    refine ⟨ending, isEnd, host?_of_free (afterScheme?_endpointUrl isEnd host) ?_⟩
    have around := isDelimiter_of_mem_hostEnd isEnd
    intro c inside
    simp only [List.mem_append] at inside around
    rcases inside with (start | label) | tail
    · exact around c (.inl start)
    · exact free c label
    · exact around c (.inr tail)
  refine ⟨fun region read => ⟨?_, own region read⟩, fun elsewhere => ?_⟩
  · rintro ⟨ending, _, host⟩ c inside
    exact isDelimiter_of_mem_host? host (by simp [inside])
  · cases read : readRegion address with
    | error failure =>
        obtain ⟨_, rfl⟩ := readRegion_eq_error_iff.1 read
        exact .inl ⟨_, rfl⟩
    | ok region =>
        refine .inr ⟨region, rfl, ?_⟩
        by_contra plain
        have free : ∀ c ∈ region.toList, isDelimiter c = false ∧ Text.isBlank c = false := by
          simpa [not_or] using plain
        obtain ⟨nonempty, single, _⟩ := readRegion_eq_ok_iff.1 read
        have label : IsLabel region.toList := by
          refine ⟨by simpa using nonempty, fun c inside => ⟨?_, free c inside⟩⟩
          rintro rfl
          exact single inside
        obtain ⟨ending, isEnd, host⟩ := own region read fun c inside => (free c inside).1
        exact elsewhere region.toList ending label isEnd host

/-- The host of an address with a scheme, and an address of another host. -/
theorem accepted_host_virginia :
    let address := "https://monitoring.us-east-1.amazonaws.com/"
    let other := "https://example.com"
    readRegion address = .ok "us-east-1" ∧
      (∃ ending ∈ hostEnds, host? (endpointUrl address).toList =
        some (hostStart ++ "us-east-1".toList ++ ending)) ∧
      (∀ label ending, IsLabel label → ending ∈ hostEnds →
        host? (endpointUrl other).toList ≠ some (hostStart ++ label ++ ending)) ∧
      ((∃ reason, readRegion other = .error (.invalidAddress other reason)) ∨
        ∃ region, readRegion other = .ok region ∧
          ∃ c ∈ region.toList, isDelimiter c = true ∨ Text.isBlank c = true) := by
  intro address other
  have read : readRegion address = .ok "us-east-1" := by decide +kernel
  have host : host? (endpointUrl other).toList = some "example.com".toList := by decide +kernel
  have unbegun : Text.stripStart? hostStart "example.com".toList = none := by decide +kernel
  have elsewhere : ∀ label ending, IsLabel label → ending ∈ hostEnds →
      host? (endpointUrl other).toList ≠ some (hostStart ++ label ++ ending) := by
    intro label ending _ _ same
    have begun := Option.some.inj (host.symm.trans same)
    rw [List.append_assoc] at begun
    have stripped := Text.stripStart?_eq_some_iff.2 begun
    rw [unbegun] at stripped
    cases stripped
  have plain : "us-east-1".toList.all (!isDelimiter ·) = true := by decide +kernel
  have free : ∀ c ∈ "us-east-1".toList, isDelimiter c = false := fun c inside => by
    simpa only [Bool.not_eq_true'] using List.all_eq_true.1 plain c inside
  exact ⟨read, ((accepted_host address).1 _ read).2 free, elsewhere,
    (accepted_host other).2 elsewhere⟩

/-- A slash in the region ends the host before the ending that was looked for, and what stands
before an at sign is no host at all. -/
theorem accepted_host_leaves :
    readRegion "monitoring.evil/.amazonaws.com" = .ok "evil/" ∧
      host? (endpointUrl "monitoring.evil/.amazonaws.com").toList =
        some "monitoring.evil".toList ∧
      readRegion "monitoring.x@evil.amazonaws.com" = .ok "x@evil" ∧
      host? (endpointUrl "monitoring.x@evil.amazonaws.com").toList =
        some "evil.amazonaws.com".toList ∧
      ∀ ending ∈ hostEnds,
        "monitoring.evil".toList ≠ hostStart ++ "evil/".toList ++ ending ∧
          "evil.amazonaws.com".toList ≠ hostStart ++ "x@evil".toList ++ ending := by
  decide +kernel

end MetricProbe.CloudWatch
