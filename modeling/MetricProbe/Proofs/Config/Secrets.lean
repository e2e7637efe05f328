import MetricProbe.Config.Secrets
import MetricProbe.Proofs.Association
import MetricProbe.Proofs.Config.Faults
import MetricProbe.Proofs.Text.Utf8

/-!
# All secrets or none

The secrets of an entry are found for all of its keys, each as it stands in its variable, or the
first key whose variable is missing is named. Which one is first is a matter of the keys: variables
are kept by key, so they are the same in whatever order they were written.
-/

namespace MetricProbe

/-! ## Variables by key -/

namespace SecretVariables

variable {known others : SecretVariables}

/-- A lookup looks at one entry, and then at the others. -/
theorem lookup_cons_eq (entry : String × String) (entries : List (String × String)) (key : String) :
    (entry :: entries).lookup key = if key = entry.1 then some entry.2 else entries.lookup key := by
  obtain ⟨first, stored⟩ := entry
  rw [List.lookup_cons]
  by_cases same : key = first
  · simp [same]
  · simp [same, beq_false_of_ne same]

/-- A key that is placed has its variable, and the others keep theirs. -/
theorem lookup_place (key envName : String) (entries : List (String × String)) (other : String) :
    (place key envName entries).lookup other =
      if other = key then some envName else entries.lookup other := by
  induction entries with
  | nil => rw [place, lookup_cons_eq]
  | cons entry rest inductionHypothesis =>
      unfold place
      split
      next => rw [lookup_cons_eq]
      next notBefore =>
        split
        next behind =>
          rw [lookup_cons_eq, inductionHypothesis, lookup_cons_eq]
          by_cases here : other = entry.1
          · have different : other ≠ key := here ▸ String.ne_of_lt behind
            simp [here, here ▸ different]
          · simp [here]
        next notBehind =>
          have same : key = entry.1 :=
            String.le_antisymm (String.not_lt.1 notBehind) (String.not_lt.1 notBefore)
          rw [lookup_cons_eq, lookup_cons_eq]
          by_cases here : other = key
          · simp [here]
          · simp [here, same ▸ here]

/-- No key stands twice. -/
theorem distinct (known : SecretVariables) : (known.entries.map Prod.fst).Nodup :=
  List.pairwise_map.2 (known.ascending.imp fun before => String.ne_of_lt before)

/-- Variables with the same ones under the same keys are the same. -/
theorem eq_of_lookup_eq (same : ∀ key, known.entries.lookup key = others.entries.lookup key) :
    known = others := by
  have mem_iff (entry : String × String) : entry ∈ known.entries ↔ entry ∈ others.entries := by
    rw [← lookup_eq_some_iff_mem known.distinct, same, lookup_eq_some_iff_mem others.distinct]
  have perm : known.entries.Perm others.entries :=
    (List.perm_ext_iff_of_nodup known.distinct.of_map others.distinct.of_map).2 mem_iff
  have sorted : known.entries = others.entries := by
    refine perm.eq_of_pairwise (fun left right _ _ before behind => ?_) known.ascending
      others.ascending
    exact absurd (String.lt_trans before behind) (String.lt_irrefl _)
  cases known
  cases others
  cases sorted
  rfl

/-- The last variable that is given for a key counts. -/
theorem lookup_ofList (entries : List (String × String)) (key : String) :
    (ofList entries).entries.lookup key = entries.reverse.lookup key := by
  suffices after : ∀ known : SecretVariables,
      (entries.foldl (fun known entry => known.insert entry.1 entry.2) known).entries.lookup key =
        (entries.reverse.lookup key).or (known.entries.lookup key) from
    (after empty).trans (Option.or_none)
  induction entries with
  | nil => exact fun known => rfl
  | cons entry rest inductionHypothesis =>
      intro known
      rw [List.foldl_cons, inductionHypothesis, insert, lookup_place, List.reverse_cons,
        List.lookup_append, Option.or_assoc, lookup_cons_eq]
      by_cases same : key = entry.1 <;> simp [same]

/-- Variables of different keys are the same in whatever order they are given. -/
theorem ofList_eq_of_perm {written rewritten : List (String × String)}
    (different : (written.map Prod.fst).Nodup) (perm : rewritten.Perm written) :
    ofList rewritten = ofList written := by
  refine eq_of_lookup_eq fun key => ?_
  have differentToo : (written.reverse.map Prod.fst).Nodup := by
    rwa [List.map_reverse, List.nodup_reverse]
  rw [lookup_ofList, lookup_ofList]
  exact lookup_eq_of_perm
    ((List.reverse_perm rewritten).trans (perm.trans (List.reverse_perm written).symm))
    differentToo

end SecretVariables

/-! ## Secrets of variables -/

section

variable {provider : String} {lookup : String → Option String} {entries : List (String × String)}
  {credentials : Credentials}

/-- A secret is the text of the variable that is named for its key. -/
def IsSecretOf (lookup : String → Option String) (entry : String × String)
    (secret : String × Bytes) : Prop :=
  ∃ text, lookup entry.2 = some text ∧ secret = (entry.1, Utf8.encode text)

/-- The secrets of variables that are all set are found, one for each key. -/
theorem resolveAll_of_forall (set : ∀ entry ∈ entries, ∃ text, lookup entry.2 = some text) :
    ∃ credentials, resolveAll provider lookup entries = .ok credentials ∧
      List.Forall₂ (IsSecretOf lookup) entries credentials := by
  induction entries with
  | nil => exact ⟨[], rfl, .nil⟩
  | cons entry rest inductionHypothesis =>
      obtain ⟨text, found⟩ := set entry List.mem_cons_self
      obtain ⟨credentials, resolved, secrets⟩ :=
        inductionHypothesis fun other inside => set other (List.mem_cons_of_mem entry inside)
      refine ⟨(entry.1, Utf8.encode text) :: credentials, ?_, .cons ⟨text, found, rfl⟩ secrets⟩
      rw [resolveAll, found, resolved]
      rfl

/-- The first variable that is not set is missed. -/
theorem resolveAll_of_first {before after : List (String × String)} {key name : String}
    (set : ∀ entry ∈ before, ∃ text, lookup entry.2 = some text) (unset : lookup name = none) :
    resolveAll provider lookup (before ++ (key, name) :: after) =
      .error ⟨name, key, provider⟩ := by
  induction before with
  | nil => rw [List.nil_append, resolveAll, unset]
  | cons entry rest inductionHypothesis =>
      obtain ⟨text, found⟩ := set entry List.mem_cons_self
      have later :=
        inductionHypothesis fun other inside => set other (List.mem_cons_of_mem entry inside)
      rw [List.cons_append, resolveAll, found, later]
      rfl

/-- The secrets have the keys of the variables. -/
theorem map_fst_of_secrets (secrets : List.Forall₂ (IsSecretOf lookup) entries credentials) :
    credentials.map Prod.fst = entries.map Prod.fst := by
  induction secrets with
  | nil => rfl
  | cons isSecret _ inductionHypothesis =>
      obtain ⟨text, _, rfl⟩ := isSecret
      rw [List.map_cons, List.map_cons, inductionHypothesis]

/-- For every variable there is its secret. -/
theorem exists_mem_of_secrets (secrets : List.Forall₂ (IsSecretOf lookup) entries credentials)
    {entry : String × String} (inside : entry ∈ entries) :
    ∃ text, lookup entry.2 = some text ∧ (entry.1, Utf8.encode text) ∈ credentials := by
  induction secrets with
  | nil => cases inside
  | cons isSecret _ inductionHypothesis =>
      rcases List.mem_cons.1 inside with rfl | later
      · obtain ⟨text, found, rfl⟩ := isSecret
        exact ⟨text, found, List.mem_cons_self⟩
      · obtain ⟨text, found, member⟩ := inductionHypothesis later
        exact ⟨text, found, List.mem_cons_of_mem _ member⟩

end

/-! ## Secrets of entries -/

namespace ProviderEntry

variable {entry : ProviderEntry} {lookup : String → Option String}

/-- A variable of an entry is missing, and no variable of a lesser key is. -/
structure FirstMissing (entry : ProviderEntry) (lookup : String → Option String)
    (missing : MissingVariable) : Prop where
  named : (missing.key, missing.name) ∈ entry.secrets.entries
  absent : lookup missing.name = none
  least : ∀ secret ∈ entry.secrets.entries, lookup secret.2 = none → missing.key ≤ secret.1
  provider : missing.provider = entry.name

/-- Only one variable is the first one that is missing. -/
theorem FirstMissing.unique {missing other : MissingVariable}
    (first : entry.FirstMissing lookup missing) (firstToo : entry.FirstMissing lookup other) :
    missing = other := by
  have key : missing.key = other.key := String.le_antisymm
    (first.least _ firstToo.named firstToo.absent) (firstToo.least _ first.named first.absent)
  have name : missing.name = other.name := by
    have found := (lookup_eq_some_iff_mem entry.secrets.distinct).2 first.named
    have foundToo := (lookup_eq_some_iff_mem entry.secrets.distinct).2 firstToo.named
    rw [key, foundToo] at found
    exact (Option.some.inj found).symm
  have provider : missing.provider = other.provider := first.provider.trans firstToo.provider.symm
  cases missing
  cases other
  cases key
  cases name
  cases provider
  rfl

/-- All secrets of an entry are found, or the first variable that is missing is named. -/
theorem resolve_cases (entry : ProviderEntry) (lookup : String → Option String) :
    (∃ credentials, entry.resolve lookup = .ok credentials ∧
      List.Forall₂ (IsSecretOf lookup) entry.secrets.entries credentials) ∨
    ∃ missing, entry.resolve lookup = .error missing ∧ entry.FirstMissing lookup missing := by
  rcases forall_or_exists_first (fun secret => ∃ text, lookup secret.2 = some text)
      entry.secrets.entries with set | ⟨before, ⟨key, name⟩, after, secrets, set, unset⟩
  · exact .inl (resolveAll_of_forall set)
  · have absent : lookup name = none := by
      cases found : lookup name with
      | none => rfl
      | some text => exact absurd ⟨text, found⟩ unset
    refine .inr ⟨⟨name, key, entry.name⟩, ?_, ?_, absent, ?_, rfl⟩
    · rw [resolve, secrets]
      exact resolveAll_of_first set absent
    · rw [secrets]
      exact List.mem_append_right before List.mem_cons_self
    · -- The keys before are those of variables that are set, and the keys behind are greater.
      intro secret inside missing
      have ascending := entry.secrets.ascending
      rw [secrets] at inside ascending
      rcases List.mem_append.1 inside with earlier | later
      · obtain ⟨text, found⟩ := set secret earlier
        cases missing.symm.trans found
      · rcases List.mem_cons.1 later with rfl | behind
        · exact String.le_refl _
        · have ordered := (List.pairwise_append.1 ascending).2.1
          exact String.not_lt.1 (String.lt_asymm ((List.pairwise_cons.1 ordered).1 secret behind))

/-- A variable is named as missing exactly if it is the first one that is. -/
theorem resolve_eq_error_iff {missing : MissingVariable} :
    entry.resolve lookup = .error missing ↔ entry.FirstMissing lookup missing := by
  rcases entry.resolve_cases lookup with ⟨credentials, resolved, secrets⟩ | ⟨other, failed, first⟩
  · rw [resolved]
    refine ⟨nofun, fun first => ?_⟩
    obtain ⟨text, found, _⟩ := exists_mem_of_secrets secrets first.named
    cases first.absent.symm.trans found
  · rw [failed]
    constructor
    · rintro ⟨⟩
      exact first
    · intro firstToo
      rw [first.unique firstToo]

/-- The secrets of an entry are found exactly if all of its variables are set. -/
theorem exists_resolve_iff :
    (∃ credentials, entry.resolve lookup = .ok credentials) ↔
      ∀ secret ∈ entry.secrets.entries, (lookup secret.2).isSome := by
  constructor
  · rintro ⟨credentials, resolved⟩ secret inside
    rcases entry.resolve_cases lookup with ⟨others, _, secrets⟩ | ⟨missing, failed, _⟩
    · obtain ⟨text, found, _⟩ := exists_mem_of_secrets secrets inside
      rw [found]
      rfl
    · cases resolved.symm.trans failed
  · intro set
    obtain ⟨credentials, resolved, _⟩ :=
      @resolveAll_of_forall entry.name lookup entry.secrets.entries fun secret inside =>
        Option.isSome_iff_exists.1 (set secret inside)
    exact ⟨credentials, resolved⟩

/-- The secrets that are found have the keys of the entry, and under every key the text of its
variable. -/
theorem secrets_of_resolve {credentials : Credentials}
    (resolved : entry.resolve lookup = .ok credentials) :
    credentials.map Prod.fst = entry.secrets.entries.map Prod.fst ∧
      ∀ secret ∈ entry.secrets.entries, ∃ text, lookup secret.2 = some text ∧
        credentials.lookup secret.1 = some (Utf8.encode text) ∧
        credentials.text? secret.1 = some text := by
  rcases entry.resolve_cases lookup with ⟨others, resolvedToo, secrets⟩ | ⟨missing, failed, _⟩
  · cases resolved.symm.trans resolvedToo
    have keys := map_fst_of_secrets secrets
    have distinct : (credentials.map Prod.fst).Nodup := keys ▸ entry.secrets.distinct
    refine ⟨keys, fun secret inside => ?_⟩
    obtain ⟨text, found, member⟩ := exists_mem_of_secrets secrets inside
    have stored := (lookup_eq_some_iff_mem distinct).2 member
    refine ⟨text, found, stored, ?_⟩
    rw [Credentials.text?, stored, Option.map_some, Utf8.decodeLossy_encode]
  · cases resolved.symm.trans failed

/-- The secrets of an entry are found completely or not at all, whatever finds them: under each of
its keys, and no other, the text of that key's variable, also if keys share it. If variables are
missing, the one of the least key is named with that key, and the order in which the variables were
written does not matter. -/
theorem resolve_all_or_first_missing (entry : ProviderEntry) (lookup : String → Option String) :
    ((∃ credentials, entry.resolve lookup = .ok credentials) ↔
        ∀ secret ∈ entry.secrets.entries, (lookup secret.2).isSome) ∧
      (∀ credentials, entry.resolve lookup = .ok credentials →
        credentials.map Prod.fst = entry.secrets.entries.map Prod.fst ∧
          ∀ secret ∈ entry.secrets.entries, ∃ text, lookup secret.2 = some text ∧
            credentials.lookup secret.1 = some (Utf8.encode text) ∧
            credentials.text? secret.1 = some text) ∧
      (∀ missing, entry.resolve lookup = .error missing ↔ entry.FirstMissing lookup missing) ∧
      (∀ missing, entry.resolve lookup = .error missing →
        missing.message = missing.name ++ (" not set (credential '" ++ (missing.key ++
          ("' of provider '" ++ (entry.name ++ "')"))))) ∧
      ∀ written rewritten : List (String × String), (written.map Prod.fst).Nodup →
        rewritten.Perm written →
          { entry with secrets := .ofList rewritten : ProviderEntry }.resolve lookup =
            { entry with secrets := .ofList written : ProviderEntry }.resolve lookup := by
  refine ⟨exists_resolve_iff, fun credentials => secrets_of_resolve,
    fun missing => resolve_eq_error_iff, fun missing failed => ?_,
    fun written rewritten different perm => ?_⟩
  · have provider := (resolve_eq_error_iff.1 failed).provider
    rw [← provider, MissingVariable.message]
    simp only [String.append_assoc]
    rfl
  · rw [SecretVariables.ofList_eq_of_perm different perm]

/-- Two keys share a variable, and of two missing variables the one of the lesser key is named,
although it was written last. -/
theorem resolve_all_or_first_missing_shared :
    let entry : ProviderEntry :=
      { name := "a", secrets := .ofList [("z", "X"), ("m", "S"), ("b", "S"), ("k", "Y")] }
    (∃ credentials, entry.resolve some = .ok credentials ∧ credentials.text? "b" = some "S" ∧
        credentials.text? "m" = some "S") ∧
      entry.resolve (fun name => if name = "S" then some "" else none) =
        .error ⟨"Y", "k", "a"⟩ := by
  intro entry
  have entries : entry.secrets.entries = [("b", "S"), ("k", "Y"), ("m", "S"), ("z", "X")] := by
    decide
  obtain ⟨found, texts, _⟩ := resolve_all_or_first_missing entry some
  obtain ⟨credentials, resolved⟩ := found.2 fun _ _ => rfl
  refine ⟨⟨credentials, resolved, ?_, ?_⟩, ?_⟩
  · obtain ⟨_, ⟨⟩, _, text⟩ := (texts credentials resolved).2 ("b", "S") (by simp [entries])
    exact text
  · obtain ⟨_, ⟨⟩, _, text⟩ := (texts credentials resolved).2 ("m", "S") (by simp [entries])
    exact text
  · obtain ⟨_, _, first, _⟩ := resolve_all_or_first_missing entry
      fun name => if name = "S" then some "" else none
    refine (first ⟨"Y", "k", "a"⟩).2 ⟨?_, by decide, ?_, rfl⟩
    · simp [entries]
    · rw [entries]
      decide

end ProviderEntry

end MetricProbe
