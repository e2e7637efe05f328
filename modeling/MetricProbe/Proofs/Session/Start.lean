import MetricProbe.Proofs.Config.Secrets
import MetricProbe.Session.Start

/-!
# How a session starts

Whether a provider can be made of an entry depends on the environment and the entry alone. A session
starts if all entries are ready, with one provider for each of them, and otherwise it fails at the
first one that is stuck, for what that one lacks. An entry is ready or stuck, so the two say all that
can be said.
-/

namespace MetricProbe

/-! ## Secrets of an entry -/

/-- A variable is set to a text. -/
def Environment.Sets (environment : Environment) (name : String) : Prop :=
  ∃ value text, environment.lookup name = some value ∧ Utf8.decode? value = some text

/-- A variable that is set to a text has it. -/
theorem Environment.Sets.exists_text {environment : Environment} {name : String}
    (sets : environment.Sets name) : ∃ text, environment.text? name = some text := by
  obtain ⟨value, text, found, decoded⟩ := sets
  exact ⟨text, by rw [Environment.text?, found, Option.bind_some, decoded]⟩

/-- A variable that is not set to a text has none. -/
theorem Environment.text?_of_not_sets {environment : Environment} {name : String}
    (unset : ¬ environment.Sets name) : environment.text? name = none := by
  cases found : environment.text? name with
  | none => rfl
  | some text =>
      obtain ⟨value, set, decoded⟩ := Option.bind_eq_some_iff.1 found
      exact absurd ⟨value, text, set, decoded⟩ unset

/-- An entry says where the secret of the given name is found. -/
def ProviderEntry.Names (entry : ProviderEntry) (key : String) : Prop :=
  ∃ name, (key, name) ∈ entry.secrets.entries

namespace Session

section

variable {environment : Environment} {interval : Interval} {entry : ProviderEntry}

/-- A provider can be made of an entry. -/
structure Ready (environment : Environment) (interval : String) (entry : ProviderEntry) : Prop where
  /-- All of its secrets are there. -/
  set : ∀ secret ∈ entry.secrets.entries, environment.Sets secret.2
  /-- Its backend needs nothing else. -/
  complete : Provider.Complete interval entry.settings entry.Names

/-- No provider can be made of an entry, and why. -/
inductive Stuck (environment : Environment) (interval : String) (entry : ProviderEntry) :
    Fault → Prop where
  /-- A secret is not there; it is the first one in the order of the names. -/
  | secret {before after : List (String × String)} {key name : String}
      (secrets : entry.secrets.entries = before ++ (key, name) :: after)
      (set : ∀ earlier ∈ before, environment.Sets earlier.2) (unset : ¬ environment.Sets name) :
      Stuck environment interval entry (.secret ⟨name, key, entry.name⟩)
  /-- The secrets are there, and the backend needs something else. -/
  | provider (set : ∀ secret ∈ entry.secrets.entries, environment.Sets secret.2)
      {failure : Failure} (lacks : Provider.Lacks interval entry.settings entry.Names failure) :
      Stuck environment interval entry (.provider entry.name failure)

/-- An entry is ready or stuck. -/
theorem ready_or_stuck (environment : Environment) (interval : String) (entry : ProviderEntry) :
    Ready environment interval entry ∨ ∃ fault, Stuck environment interval entry fault := by
  rcases forall_or_exists_first (fun secret => environment.Sets secret.2) entry.secrets.entries with
    set | ⟨before, ⟨key, name⟩, after, secrets, set, unset⟩
  · rcases Provider.complete_or_lacks interval entry.settings entry.Names with
      complete | ⟨failure, lacks⟩
    · exact .inl ⟨set, complete⟩
    · exact .inr ⟨_, .provider set lacks⟩
  · exact .inr ⟨_, .secret secrets set unset⟩

/-- The secrets of an entry that are all there are found, under the names that the entry gives. -/
theorem exists_resolve (set : ∀ secret ∈ entry.secrets.entries, environment.Sets secret.2) :
    ∃ credentials, entry.resolve environment.text? = .ok credentials ∧
      credentials.Has = entry.Names := by
  obtain ⟨credentials, resolved, secrets⟩ : ∃ credentials,
      resolveAll entry.name environment.text? entry.secrets.entries = .ok credentials ∧
        List.Forall₂ (IsSecretOf environment.text?) entry.secrets.entries credentials :=
    resolveAll_of_forall fun secret inside => (set secret inside).exists_text
  refine ⟨credentials, resolved, funext fun key => propext ?_⟩
  have present := congrArg (key ∈ ·) (map_fst_of_secrets secrets)
  simpa [Credentials.Has, ProviderEntry.Names] using present

/-- A provider of the declared backend is made of an entry that is ready. -/
theorem exists_makeProvider_of_ready (ready : Ready environment interval.text entry) :
    ∃ provider, makeProvider interval environment entry = .ok provider ∧
      provider.backend = entry.settings.backend := by
  obtain ⟨credentials, resolved, names⟩ := exists_resolve ready.set
  obtain ⟨provider, made⟩ := Provider.exists_make_of_complete (names ▸ ready.complete)
  exact ⟨provider, by simp only [makeProvider, resolved, made], Provider.backend_of_make made⟩

/-- Making a provider of an entry that is stuck fails for that reason. -/
theorem makeProvider_of_stuck {fault : Fault} (stuck : Stuck environment interval.text entry fault) :
    makeProvider interval environment entry = .error fault := by
  cases stuck with
  | @secret before after key name secrets set unset =>
      have missed : entry.resolve environment.text? = .error ⟨name, key, entry.name⟩ := by
        rw [ProviderEntry.resolve, secrets]
        exact resolveAll_of_first (fun secret inside => (set secret inside).exists_text)
          (Environment.text?_of_not_sets unset)
      simp only [makeProvider, missed]
  | provider set lacks =>
      obtain ⟨credentials, resolved, names⟩ := exists_resolve set
      simp only [makeProvider, resolved, Provider.make_of_lacks (names ▸ lacks)]

/-! ## All entries -/

/-- A provider was made of an entry. -/
structure MadeOf (entry : ProviderEntry) (made : String × Provider) : Prop where
  name : made.1 = entry.name
  backend : made.2.backend = entry.settings.backend

/-- Of entries that are all ready providers are made, one of each in their order. -/
theorem exists_makeProviders_of_ready (checks : List Probe.Check) {entries : List ProviderEntry}
    (ready : ∀ entry ∈ entries, Ready environment interval.text entry) :
    ∃ providers, (makeProviders checks interval environment entries).providers = .ok providers ∧
      List.Forall₂ MadeOf entries providers := by
  induction entries with
  | nil => exact ⟨[], rfl, .nil⟩
  | cons entry rest inductionHypothesis =>
      obtain ⟨provider, made, backend⟩ :=
        exists_makeProvider_of_ready (ready entry List.mem_cons_self)
      obtain ⟨providers, later, all⟩ :=
        inductionHypothesis fun other inside => ready other (List.mem_cons_of_mem entry inside)
      refine ⟨(entry.name, provider) :: providers, ?_, .cons ⟨rfl, backend⟩ all⟩
      simp only [makeProviders, made, later]
      rfl

/-- The first entry that is stuck ends the start. -/
theorem makeProviders_of_stuck (checks : List Probe.Check) {earlier : List ProviderEntry}
    (later : List ProviderEntry) {fault : Fault}
    (ready : ∀ before ∈ earlier, Ready environment interval.text before)
    (stuck : Stuck environment interval.text entry fault) :
    (makeProviders checks interval environment (earlier ++ entry :: later)).providers =
      .error fault := by
  induction earlier with
  | nil => simp only [List.nil_append, makeProviders, makeProvider_of_stuck stuck]
  | cons before rest inductionHypothesis =>
      obtain ⟨provider, made, _⟩ := exists_makeProvider_of_ready (ready before List.mem_cons_self)
      have failed :=
        inductionHypothesis fun other inside => ready other (List.mem_cons_of_mem before inside)
      simp only [List.cons_append, makeProviders, made, failed]
      rfl

end

/-- How a session starts with the given entries: with a provider of each of them, or with the fault
of the first one that is stuck. -/
structure Starts (environment : Environment) (interval : String) (entries : List ProviderEntry)
    (outcome : Except Fault (List (String × Provider))) : Prop where
  ok : (∃ providers, outcome = .ok providers) ↔
    ∀ entry ∈ entries, Ready environment interval entry
  error : ∀ fault, outcome = .error fault ↔
    ∃ earlier entry later, entries = earlier ++ entry :: later ∧
      (∀ before ∈ earlier, Ready environment interval before) ∧
      Stuck environment interval entry fault
  made : ∀ providers, outcome = .ok providers → List.Forall₂ MadeOf entries providers

/-- All entries are ready, or there is a first one that is stuck. -/
theorem starts_makeProviders (checks : List Probe.Check) (interval : Interval)
    (environment : Environment) (entries : List ProviderEntry) :
    Starts environment interval.text entries
      (makeProviders checks interval environment entries).providers := by
  rcases forall_or_exists_first (Ready environment interval.text) entries with
    ready | ⟨earlier, entry, later, rfl, ready, unready⟩
  · obtain ⟨providers, outcome, all⟩ := exists_makeProviders_of_ready checks ready
    rw [outcome]
    refine ⟨iff_of_true ⟨providers, rfl⟩ ready, fun fault => ?_, ?_⟩
    · refine iff_of_false nofun ?_
      rintro ⟨earlier, entry, later, rfl, before, stuck⟩
      rw [makeProviders_of_stuck checks later before stuck] at outcome
      cases outcome
    · rintro _ ⟨⟩
      exact all
  · obtain ⟨fault, stuck⟩ := (ready_or_stuck environment interval.text entry).resolve_left unready
    have outcome := makeProviders_of_stuck checks later ready stuck
    refine ⟨iff_of_false ?_ fun all => unready (all entry (by simp)), fun other => ?_, ?_⟩
    · rintro ⟨providers, made⟩
      rw [outcome] at made
      cases made
    · constructor
      · intro failed
        rw [outcome] at failed
        cases failed
        exact ⟨earlier, entry, later, rfl, ready, stuck⟩
      · rintro ⟨_, _, others, split, before, stuck⟩
        rw [split]
        exact makeProviders_of_stuck checks others before stuck
    · intro providers made
      rw [outcome] at made
      cases made

end Session

end MetricProbe
