import MetricProbe.Proofs.Text.Ends
import MetricProbe.Proofs.Url.Address
import MetricProbe.Proofs.Url.Host

/-!
# Where endpoints lead

An endpoint is an address without the slashes at its end, and a path behind it. It leads to the
scheme, host and port that the address names by itself, or nowhere: what stands behind a name that
is there does not change it, and blanks that the path encloses are no part of any name.

There is one exception. An address that is a scheme with nothing but slashes behind it names nothing,
but with the path behind it the first segment of the path is read as the host.

An endpoint that can be read holds the login that its address holds.
-/

namespace MetricProbe.Url

open Text (dropEndWhile splitFirst?)

/-- The scheme, the host and the port of an address: where its requests go. -/
def origin (url : Url) : Scheme × String × Option Nat := (url.scheme, url.host, url.port)

/-- Where the requests of an address go, if it is one. -/
def origin? (address : String) : Option (Scheme × String × Option Nat) :=
  (read? address).map (·.1.origin)

/-- The login that an address holds, if it is one. -/
def ownLogin? (address : String) : Option Login := (read? address).bind (·.2)

/-- The address is a scheme with nothing but slashes behind it. -/
def IsBareScheme (address : String) : Prop :=
  ∃ parts ∈ scheme? (clean address.toList), parts.2.all isSlash = true

instance (address : String) : Decidable (IsBareScheme address) :=
  inferInstanceAs (Decidable (∃ parts ∈ scheme? (clean address.toList), parts.2.all isSlash = true))

/-! ## Authorities -/

/-- The authority in what follows the colon of a scheme. -/
def authorityOf (after : List Char) : List Char :=
  (after.dropWhile isSlash).takeWhile (!endsAuthority ·)

/-- What the text of an authority names, with the scheme. -/
def place? (scheme : Scheme) (authority : List Char) : Option (Scheme × Authority) :=
  (authority? scheme authority).map (scheme, ·)

/-- Where the requests for an authority go. -/
def originOf? (scheme : Scheme) (authority : List Char) : Option (Scheme × String × Option Nat) :=
  (authority? scheme authority).map fun names => (scheme, names.host, names.port)

/-- The scheme of an address, and what its authority names. -/
def placeOf? (address : String) : Option (Scheme × Authority) :=
  (named? (clean address.toList)).bind fun (scheme, authority) => place? scheme authority

/-- Where the requests go and with which login is settled by the scheme and the authority. -/
theorem read?_eq_placeOf? (address : String) :
    (read? address).map (fun given => (given.1.origin, given.2)) =
      (placeOf? address).map fun (scheme, names) =>
        ((scheme, names.host, names.port), names.login) := by
  rw [placeOf?, read?, named?]
  cases splitAuthority? (clean address.toList) with
  | none => rfl
  | some parts =>
      obtain ⟨scheme, authority, rest⟩ := parts
      simp only [Option.bind_eq_bind, Option.bind_some, Option.map_some, place?]
      cases authority? scheme authority <;> rfl

/-- Where the requests go is settled by the scheme and the authority. -/
theorem origin?_eq (address : String) :
    origin? address =
      (placeOf? address).map fun (scheme, names) => (scheme, names.host, names.port) := by
  have read := congrArg (Option.map Prod.fst) (read?_eq_placeOf? address)
  rwa [Option.map_map, Option.map_map] at read

/-- The login is settled by the scheme and the authority. -/
theorem ownLogin?_eq (address : String) :
    ownLogin? address = (placeOf? address).bind (·.2.login) := by
  have read := congrArg (Option.bind · Prod.snd) (read?_eq_placeOf? address)
  dsimp only at read
  rwa [Option.bind_map, Option.bind_map] at read

/-- The scheme and the authority of a text. -/
theorem named?_eq (text : List Char) :
    named? text = (scheme? text).map fun (scheme, after) => (scheme, authorityOf after) := by
  rw [named?, splitAuthority?]
  cases scheme? text <;> rfl

/-- An empty authority names nothing. -/
theorem place?_nil (scheme : Scheme) : place? scheme [] = none := by
  have none : authority? scheme [] = none := by
    cases scheme <;> rfl
  rw [place?, none, Option.map_none]

section

variable {after rest edges stem slashes : List Char}

/-- What stands behind a slash that follows an authority does not matter. -/
theorem authorityOf_append {c : Char} (named : c ∈ after) (noSlash : isSlash c = false)
    (ends : ∀ d ∈ rest.head?, isSlash d = true) : authorityOf (after ++ rest) = authorityOf after := by
  rw [authorityOf, authorityOf, dropWhile_append_of_mem named noSlash]
  cases rest with
  | nil => rw [List.append_nil]
  | cons d rest =>
      refine takeWhile_append_cons ?_ _ rest
      rw [endsAuthority, ends d rfl]
      rfl

/-- Slashes do not matter to the authority that follows them. -/
theorem authorityOf_slashes_append (all : ∀ c ∈ slashes, isSlash c = true) (rest : List Char) :
    authorityOf (slashes ++ rest) = authorityOf rest := by
  rw [authorityOf, authorityOf, List.dropWhile_append, List.dropWhile_eq_nil_iff.2 all]
  rfl

/-- With slashes alone there is no authority. -/
theorem authorityOf_slashes (all : ∀ c ∈ slashes, isSlash c = true) : authorityOf slashes = [] := by
  rw [authorityOf, List.dropWhile_eq_nil_iff.2 all]
  rfl

/-- Characters that are dropped at the ends are no slashes and end no authority. -/
theorem continues_of_isEdge {c : Char} (edge : isEdge c = true) :
    isSlash c = false ∧ endsAuthority c = false :=
  @of_isEdge (fun c => isSlash c = false ∧ endsAuthority c = false) (by decide) c edge

/-- An authority stays what it is, or it ends in the blanks that a path encloses. -/
theorem authorityOf_append_edges (filled : edges ≠ []) (all : ∀ c ∈ edges, isEdge c = true)
    (ends : ∀ d ∈ stem.head?, isSlash d = true) :
    authorityOf (after ++ (edges ++ stem)) = authorityOf after ∨
      ∃ c ∈ (authorityOf (after ++ (edges ++ stem))).getLast?, isEdge c = true := by
  have begun : (after ++ (edges ++ stem)).dropWhile isSlash =
      after.dropWhile isSlash ++ (edges ++ stem) := by
    have kept : (edges ++ stem).dropWhile isSlash = edges ++ stem := by
      obtain ⟨first, others, rfl⟩ := List.exists_cons_of_ne_nil filled
      have noSlash := (continues_of_isEdge (all first List.mem_cons_self)).1
      rw [List.cons_append, List.dropWhile_cons, noSlash]
      rfl
    rw [List.dropWhile_append, kept]
    split
    next none => rw [List.isEmpty_iff.1 none, List.nil_append]
    next => rfl
  have enclosed : (edges ++ stem).takeWhile (!endsAuthority ·) = edges := by
    have taken : ∀ c ∈ edges, (!endsAuthority c) = true := fun c inside => by
      rw [(continues_of_isEdge (all c inside)).2]
      rfl
    rw [List.takeWhile_append_of_pos taken]
    cases stem with
    | nil => simp
    | cons d stem =>
        have stops : (!endsAuthority d) = false := by
          rw [endsAuthority, ends d rfl]
          rfl
        rw [List.takeWhile_cons, stops]
        simp
  rw [authorityOf, authorityOf, begun, List.takeWhile_append, enclosed]
  split
  next =>
    right
    have isLast := List.getLast?_eq_some_getLast filled
    refine ⟨edges.getLast filled, ?_, all _ (List.getLast_mem filled)⟩
    rw [List.getLast?_append, isLast]
    rfl
  next => exact .inl rfl

end

/-! ## Addresses and their endpoints -/

/-- What counts of an address is what counts of it without the slashes at its end, and those slashes;
or there are no such slashes, and there are blanks at the end that only count if something stands
behind them. -/
theorem clean_cases (text : List Char) :
    (∃ slashes, (∀ c ∈ slashes, c = '/') ∧
      clean text =
        ((dropEndWhile (· == '/') text).dropWhile isEdge).filter (!isLineBreak ·) ++ slashes) ∨
      ∃ edges, edges ≠ [] ∧ (∀ c ∈ edges, isEdge c = true) ∧
        ((dropEndWhile (· == '/') text).dropWhile isEdge).filter (!isLineBreak ·) =
          clean text ++ edges := by
  obtain ⟨slashes, whole, all⟩ := Text.exists_eq_dropEndWhile_append (· == '/') text
  generalize dropEndWhile (· == '/') text = trimmed at *
  subst whole
  by_cases ended : slashes = []
  · subst ended
    rw [List.append_nil]
    obtain ⟨edges, parts, drops⟩ :=
      Text.exists_eq_dropEndWhile_append isEdge (trimmed.dropWhile isEdge)
    have counted : (trimmed.dropWhile isEdge).filter (!isLineBreak ·) =
        clean trimmed ++ edges.filter (!isLineBreak ·) := by
      rw [clean, ← List.filter_append, ← parts]
    by_cases none : edges.filter (!isLineBreak ·) = []
    · refine .inl ⟨[], List.forall_mem_nil _, ?_⟩
      rw [counted, none, List.append_nil, List.append_nil]
    · exact .inr ⟨_, none, fun c inside => drops c (List.mem_of_mem_filter inside), counted⟩
  · have isSlashes : ∀ c ∈ slashes, c = '/' := fun c inside => beq_iff_eq.1 (all c inside)
    refine .inl ⟨slashes, isSlashes, clean_append trimmed ended fun c inside => ?_⟩
    rw [isSlashes c inside]
    decide

section

variable {path : String} {stem : List Char} {address : String}

/-- The scheme and the authority of an endpoint. -/
theorem Extends.named?_endpoint (stemmed : Extends path stem) (address : String) :
    named? (clean (Text.trimEndOf '/' address ++ path).toList) =
      (scheme? (((dropEndWhile (· == '/') address.toList).dropWhile isEdge).filter
        (!isLineBreak ·))).map fun (scheme, after) => (scheme, authorityOf (after ++ stem)) := by
  rw [stemmed.named?_clean, Text.trimEndOf, String.toList_ofList]
  rfl

/-- An endpoint names what the address names by itself, or nothing, unless the address is nothing but
a scheme: then it names what the path does. -/
theorem Extends.placeOf?_endpoint (stemmed : Extends path stem)
    (slashed : ∀ d ∈ stem.head?, isSlash d = true) (address : String) :
    placeOf? (Text.trimEndOf '/' address ++ path) = none ∨
      placeOf? (Text.trimEndOf '/' address ++ path) = placeOf? address ∨
      IsBareScheme address ∧
        ∃ scheme, placeOf? (Text.trimEndOf '/' address ++ path) =
          place? scheme (authorityOf stem) := by
  rw [placeOf?, placeOf?, stemmed.named?_endpoint, named?_eq]
  rcases clean_cases address.toList with ⟨slashes, all, counted⟩ | ⟨edges, filled, all, counted⟩
  · generalize ((dropEndWhile (· == '/') address.toList).dropWhile isEdge).filter
      (!isLineBreak ·) = begun at *
    have noColon : ∀ c ∈ slashes, (c == ':') = false := fun c inside => by
      rw [all c inside]
      rfl
    have isSlashes : ∀ c ∈ slashes, isSlash c = true := fun c inside => by
      rw [all c inside]
      rfl
    have own := scheme?_append begun noColon
    rw [← counted] at own
    cases found : scheme? begun with
    | none => exact .inl rfl
    | some parts =>
        obtain ⟨scheme, after⟩ := parts
        rw [found, Option.map_some] at own
        rw [own, Option.map_some, Option.map_some, Option.bind_some, Option.bind_some]
        dsimp only
        by_cases bare : ∀ c ∈ after, isSlash c = true
        · refine .inr (.inr ⟨⟨_, own, List.all_eq_true.2 fun c inside => ?_⟩, scheme, ?_⟩)
          · exact (List.mem_append.1 inside).elim (bare c) (isSlashes c)
          · rw [authorityOf_slashes_append bare]
        · obtain ⟨c, named, noSlash⟩ : ∃ c ∈ after, isSlash c = false := by
            simpa only [not_forall, Bool.not_eq_true, exists_prop] using bare
          rw [authorityOf_append named noSlash slashed, authorityOf_append named noSlash]
          · exact .inr (.inl rfl)
          · exact fun d inside => isSlashes d (List.mem_of_mem_head? inside)
  · have noColon : ∀ c ∈ edges, (c == ':') = false := fun c inside =>
      beq_false_of_ne (ne_of_isEdge (all c inside) rfl)
    rw [counted, scheme?_append _ noColon]
    cases scheme? (clean address.toList) with
    | none => exact .inl rfl
    | some parts =>
        obtain ⟨scheme, after⟩ := parts
        rw [Option.map_some, Option.map_some, Option.map_some, Option.bind_some, Option.bind_some]
        dsimp only
        rw [List.append_assoc]
        rcases @authorityOf_append_edges after edges stem filled all slashed with
          same | ⟨c, last, edge⟩
        · exact .inr (.inl (congrArg _ same))
        · rw [place?, authority?_of_getLast? last edge]
          exact .inl rfl

/-- A scheme with nothing but slashes behind it names nothing. -/
theorem placeOf?_of_bare (bare : IsBareScheme address) : placeOf? address = none := by
  obtain ⟨⟨scheme, slashes⟩, found, all⟩ := bare
  rw [placeOf?, named?_eq, Option.mem_def.1 found, Option.map_some, Option.bind_some]
  dsimp only
  rw [authorityOf_slashes (List.all_eq_true.1 all), place?_nil]

/-! ## Where endpoints lead -/

/-- The requests of an endpoint go where the address leads by itself, unless that is nothing but a
scheme: then they go where the path leads. -/
theorem Extends.origin?_endpoint (stemmed : Extends path stem)
    (slashed : ∀ d ∈ stem.head?, isSlash d = true) (address : String) :
    origin? (Text.trimEndOf '/' address ++ path) = none ∨
      origin? (Text.trimEndOf '/' address ++ path) = origin? address ∨
      IsBareScheme address ∧
        ∃ scheme, origin? (Text.trimEndOf '/' address ++ path) =
          originOf? scheme (authorityOf stem) := by
  rw [origin?_eq, origin?_eq address]
  rcases stemmed.placeOf?_endpoint slashed address with nowhere | same | ⟨bare, scheme, named⟩
  · rw [nowhere]
    exact .inl rfl
  · rw [same]
    exact .inr (.inl rfl)
  · rw [named, place?, Option.map_map]
    exact .inr (.inr ⟨bare, scheme, rfl⟩)

/-- A scheme with nothing but slashes behind it leads nowhere. -/
theorem origin?_of_bare (bare : IsBareScheme address) : origin? address = none := by
  rw [origin?_eq, placeOf?_of_bare bare, Option.map_none]

/-- An endpoint that leads somewhere leads where its address does, if that is not a bare scheme. -/
theorem Extends.origin?_of_endpoint (stemmed : Extends path stem)
    (slashed : ∀ d ∈ stem.head?, isSlash d = true) (named : ¬ IsBareScheme address)
    {origin : Scheme × String × Option Nat}
    (leads : origin? (Text.trimEndOf '/' address ++ path) = some origin) :
    origin? address = some origin := by
  rcases stemmed.origin?_endpoint slashed address with nowhere | same | ⟨bare, _⟩
  · cases nowhere.symm.trans leads
  · exact same.symm.trans leads
  · exact absurd bare named

/-- An endpoint of a bare scheme leads where the path does. -/
theorem Extends.origin?_endpoint_of_bare (stemmed : Extends path stem)
    (slashed : ∀ d ∈ stem.head?, isSlash d = true) (bare : IsBareScheme address)
    {origin : Scheme × String × Option Nat}
    (leads : origin? (Text.trimEndOf '/' address ++ path) = some origin) :
    ∃ scheme, originOf? scheme (authorityOf stem) = some origin := by
  rcases stemmed.origin?_endpoint slashed address with nowhere | same | ⟨_, scheme, path⟩
  · cases nowhere.symm.trans leads
  · rw [origin?_of_bare bare] at same
    cases same.symm.trans leads
  · exact ⟨scheme, path.symm.trans leads⟩

/-! ## Logins of endpoints -/

/-- An endpoint that can be read holds the login that its address holds, if the path holds none. -/
theorem Extends.ownLogin?_endpoint (stemmed : Extends path stem)
    (slashed : ∀ d ∈ stem.head?, isSlash d = true)
    (plain : ∀ scheme names, authority? scheme (authorityOf stem) = some names →
      names.login = none)
    (legible : (read? (Text.trimEndOf '/' address ++ path)).isSome) :
    ownLogin? (Text.trimEndOf '/' address ++ path) = ownLogin? address := by
  rw [ownLogin?_eq, ownLogin?_eq address]
  rcases stemmed.placeOf?_endpoint slashed address with nowhere | same | ⟨bare, scheme, named⟩
  · have read := congrArg Option.isSome
      (read?_eq_placeOf? (Text.trimEndOf '/' address ++ path))
    rw [nowhere, Option.isSome_map, legible] at read
    cases read
  · rw [same]
  · rw [placeOf?_of_bare bare, named, place?, Option.bind_map, Option.bind_none]
    refine Option.eq_none_iff_forall_ne_some.2 fun login holds => ?_
    obtain ⟨names, found, own⟩ := Option.bind_eq_some_iff.1 holds
    cases (plain scheme names found).symm.trans own

end

end MetricProbe.Url
