import MetricProbe.Proofs.Association
import MetricProbe.Proofs.Provider.Answers
import MetricProbe.Proofs.Session.Start
import MetricProbe.Session.Passes

/-!
# Sessions with a configuration that was accepted

What was looked at when a configuration was accepted is not the reason of a later failure: the metric
interval is read again without a fault, the providers are as many as the configuration has, each
under its own name, and no check is for a provider that is not there.

Secrets and addresses are not looked at before the session starts, so they are what a start can fail
for.
-/

namespace MetricProbe

namespace Probe.Roster

/-- A source under a new name is put behind the others. -/
theorem entries_insert_of_fresh {roster : Roster} {name : String} (source : Source)
    (fresh : name ∉ roster.entries.map Prod.fst) :
    (roster.insert name source).entries = roster.entries ++ [(name, source)] := by
  have kept : roster.entries.filter (fun entry => decide (entry.1 ≠ name)) = roster.entries := by
    refine List.filter_eq_self.2 fun entry inside => decide_eq_true ?_
    rintro rfl
    exact fresh (List.mem_map_of_mem inside)
  exact congrArg (· ++ [(name, source)]) kept

/-- Sources under different names that are all new are put behind the others in their order. -/
theorem entries_foldl_insert {α : Type} (source : α → Source) {named : List (String × α)}
    {roster : Roster} (fresh : ∀ entry ∈ named, entry.1 ∉ roster.entries.map Prod.fst)
    (distinct : (named.map Prod.fst).Nodup) :
    (named.foldl (fun roster entry => roster.insert entry.1 (source entry.2)) roster).entries =
      roster.entries ++ named.map fun entry => (entry.1, source entry.2) := by
  induction named generalizing roster with
  | nil => simp
  | cons entry rest inductionHypothesis =>
      obtain ⟨others, distinct⟩ := List.nodup_cons.1 distinct
      have first := entries_insert_of_fresh (source entry.2) (fresh entry List.mem_cons_self)
      have later : ∀ other ∈ rest,
          other.1 ∉ (roster.insert entry.1 (source entry.2)).entries.map Prod.fst := by
        intro other inside
        rw [first, List.map_append, List.mem_append, not_or]
        refine ⟨fresh other (List.mem_cons_of_mem entry inside), fun same => others ?_⟩
        rw [List.map_singleton, List.mem_singleton] at same
        exact same ▸ List.mem_map_of_mem inside
      rw [List.foldl_cons, inductionHypothesis later distinct, first, List.append_assoc]
      rfl

end Probe.Roster

namespace Session

/-- The sources of providers with different names are those of the providers, in their order. -/
theorem entries_rosterOf {surroundings : Surroundings} {elapsed : String → Binary64}
    {providers : List (String × Provider)} (distinct : (providers.map Prod.fst).Nodup) :
    (rosterOf surroundings elapsed providers).entries =
      providers.map fun named => (named.1, sourceOf surroundings elapsed named.2) :=
  Probe.Roster.entries_foldl_insert (sourceOf surroundings elapsed) (fun _ _ => List.not_mem_nil)
    distinct

/-- What is found among the sources of providers with different names is the source of the provider
of that name. -/
theorem find?_rosterOf_eq_some_iff {surroundings : Surroundings} {elapsed : String → Binary64}
    {providers : List (String × Provider)} {name : String} {source : Probe.Source}
    (distinct : (providers.map Prod.fst).Nodup) :
    (rosterOf surroundings elapsed providers).find? name = some source ↔
      ∃ provider, (name, provider) ∈ providers ∧
        sourceOf surroundings elapsed provider = source := by
  have entries : (rosterOf surroundings elapsed providers).entries =
      providers.map fun named => (named.1, sourceOf surroundings elapsed named.2) :=
    entries_rosterOf distinct
  have names : ((rosterOf surroundings elapsed providers).entries.map Prod.fst).Nodup := by
    rw [entries, List.map_map]
    exact distinct
  rw [Probe.Roster.find?, lookup_eq_some_iff_mem names, entries, List.mem_map]
  constructor
  · rintro ⟨⟨_, provider⟩, member, same⟩
    cases same
    exact ⟨provider, member, rfl⟩
  · rintro ⟨provider, member, rfl⟩
    exact ⟨(name, provider), member, rfl⟩

/-- Providers have the names of the entries that they were made of. -/
theorem names_of_made {entries : List ProviderEntry} {providers : List (String × Provider)}
    (made : List.Forall₂ MadeOf entries providers) :
    providers.map Prod.fst = entries.map (·.name) := by
  induction made with
  | nil => rfl
  | cons first _ inductionHypothesis =>
      rw [List.map_cons, List.map_cons, first.name, inductionHypothesis]

/-- Of each entry there is a provider. -/
theorem exists_made {entries : List ProviderEntry} {providers : List (String × Provider)}
    (made : List.Forall₂ MadeOf entries providers) {entry : ProviderEntry}
    (inside : entry ∈ entries) :
    ∃ provider, (entry.name, provider) ∈ providers ∧
      provider.backend = entry.settings.backend := by
  induction made with
  | nil => cases inside
  | @cons first named _ _ head _ inductionHypothesis =>
      rcases List.mem_cons.1 inside with rfl | later
      · exact ⟨named.2, head.name ▸ List.mem_cons_self, head.backend⟩
      · obtain ⟨provider, member, backend⟩ := inductionHypothesis later
        exact ⟨provider, List.mem_cons_of_mem named member, backend⟩

/-- The sources are those of the providers of a configuration. -/
structure Equipped (config : Config) (surroundings : Surroundings) (elapsed : String → Binary64)
    (roster : Probe.Roster) : Prop where
  /-- There is one source under the name of each provider, and no other. -/
  names : roster.entries.map Prod.fst = config.providerNames
  /-- No name stands twice. -/
  distinct : config.providerNames.Nodup
  /-- What is found under the name of an entry is a provider of its declared backend. -/
  own : ∀ entry ∈ config.providers, ∃ provider : Provider,
    roster.find? entry.name = some (sourceOf surroundings elapsed provider) ∧
      provider.backend = entry.settings.backend
  /-- Each check is for one of the entries. -/
  known : ∀ check ∈ config.checks, ∃ entry ∈ config.providers, entry.name = check.provider

section

variable {config : Config} {surroundings : Surroundings} {elapsed : String → Binary64}

/-- The providers that were made for a configuration that can be used are its sources. -/
theorem equipped_of_made (valid : config.Valid) {providers : List (String × Provider)}
    (made : List.Forall₂ MadeOf config.providers providers) :
    Equipped config surroundings elapsed (rosterOf surroundings elapsed providers) := by
  have names : providers.map Prod.fst = config.providerNames := names_of_made made
  have distinct : (providers.map Prod.fst).Nodup := names ▸ valid.distinct
  refine ⟨?_, valid.distinct, fun entry inside => ?_, fun check inside => ?_⟩
  · rw [entries_rosterOf distinct, List.map_map]
    exact names
  · obtain ⟨provider, member, backend⟩ := exists_made made inside
    exact ⟨provider, (find?_rosterOf_eq_some_iff distinct).2 ⟨provider, member, rfl⟩, backend⟩
  · exact List.mem_map.1 (valid.known check inside)

/-- A pass over the checks of a configuration with its own sources finds the provider of each. -/
theorem outcome_ne_unknownProvider {roster : Probe.Roster}
    (equipped : Equipped config surroundings elapsed roster) (schedule : Probe.Schedule)
    (registry : Telemetry.Registry) {report : Probe.Report}
    (inside : report ∈ (Probe.run roster config.checks schedule registry).reports) (name : String) :
    report.outcome ≠ .unknownProvider name := by
  rw [Probe.run_reports] at inside
  obtain ⟨check, listed, rfl⟩ := List.mem_map.1 inside
  obtain ⟨entry, configured, same⟩ := equipped.known check listed
  obtain ⟨provider, found, _⟩ := equipped.own entry configured
  rw [Probe.Check.reportAlone, ← same, found]
  refine Probe.Check.outcome_ne_unknownProvider fun failure answered => ?_
  exact Probe.message_ne_unknownProvider (Provider.kind_of_run (Option.some.inj answered)) name

end

/-- A session starts with the interval that was looked at. -/
theorem start_of_read {path : String} {config : Config} {environment : Environment}
    {interval : Interval} (given : Interval.read config.probe.interval = .ok interval) :
    (start path config environment).providers =
      (makeProviders config.checks interval environment config.providers).providers := by
  simp only [start, given]

/-- An interval that was read is no reason why a provider lacks anything. -/
theorem ne_invalidInterval_of_stuck {environment : Environment} {interval : Interval}
    {entry : ProviderEntry} {name text reason : String}
    (given : Interval.read interval.text = .ok interval) :
    ¬ Stuck environment interval.text entry (.provider name (.invalidInterval text reason)) := by
  intro stuck
  cases stuck with
  | provider _ lacks =>
      cases lacks with
      | interval _ _ _ rejected =>
          rw [Interval.read_of_rejected rejected] at given
          cases given

/-- A session with a configuration that was accepted starts with the interval that was looked at, and
fails, if at all, for a secret or an address of the first provider that is stuck. Once it has
started, its providers are those of the configuration, and no report of any pass says that a
provider is not there. -/
theorem accepted_config_starts {text : String} {config : Config}
    (accepted : Config.ofText text = .ok config) (path : String) (environment : Environment) :
    (∃ interval, Interval.read config.probe.interval = .ok interval ∧
      interval.text = config.probe.interval ∧ Interval.read interval.text = .ok interval) ∧
    Starts environment config.probe.interval config.providers
      (start path config environment).providers ∧
    (∀ written cause, (start path config environment).providers ≠
      .error (.interval written cause)) ∧
    (∀ name written reason, (start path config environment).providers ≠
      .error (.provider name (.invalidInterval written reason))) ∧
    ∀ providers, (start path config environment).providers = .ok providers →
      ∀ surroundings elapsed,
        Equipped config surroundings elapsed (rosterOf surroundings elapsed providers) ∧
        ∀ schedule registry,
          ∀ report ∈ (Probe.run (rosterOf surroundings elapsed providers) config.checks schedule
            registry).reports, ∀ name, report.outcome ≠ .unknownProvider name := by
  have valid := Config.valid_of_ofText accepted
  obtain ⟨nanoseconds, denotes⟩ := valid.paced
  obtain ⟨interval, given, same, _⟩ := Interval.exists_read_of_denotes denotes
  have again : Interval.read interval.text = .ok interval := same ▸ given
  have starts := starts_makeProviders config.checks interval environment config.providers
  rw [start_of_read given]
  refine ⟨⟨interval, given, same, again⟩, same ▸ starts, ?_, ?_, ?_⟩
  · intro written cause failed
    obtain ⟨_, _, _, _, _, stuck⟩ := (starts.error _).1 failed
    cases stuck
  · intro name written reason failed
    obtain ⟨_, _, _, _, _, stuck⟩ := (starts.error _).1 failed
    exact ne_invalidInterval_of_stuck again stuck
  · intro providers started surroundings elapsed
    have equipped : Equipped config surroundings elapsed (rosterOf surroundings elapsed providers) :=
      equipped_of_made valid (starts.made providers started)
    refine ⟨equipped, fun schedule registry report inside => ?_⟩
    exact outcome_ne_unknownProvider equipped schedule registry inside

/-- A session starts with two providers that need no secrets, and the check of the second one is
always for a provider that is there. -/
theorem accepted_config_starts_without_secrets :
    let text := "probe.name=\"p\"\n[[providers]]\nname=\"a\"\n[[providers]]\nname=\"b\"\n" ++
      "type=\"cloudwatch\"\n[[checks]]\nname=\"c\"\nprovider=\"b\"\nquery=\"q\""
    let config : Config :=
      { probe := { name := "p" }
        providers := [{ name := "a" }, { name := "b", settings := ⟨"cloudwatch", ""⟩ }]
        checks := [⟨"c", "b", "q"⟩] }
    Config.ofText text = .ok config ∧
      ∃ providers, (start defaultConfigPath config []).providers = .ok providers ∧
        ∀ surroundings elapsed schedule registry,
          ∀ report ∈ (Probe.run (rosterOf surroundings elapsed providers) config.checks schedule
            registry).reports, ∀ name, report.outcome ≠ .unknownProvider name := by
  intro text config
  have accepted : Config.ofText text = .ok config := by decide +kernel
  obtain ⟨_, starts, _, _, equipped⟩ := accepted_config_starts accepted defaultConfigPath []
  have ready : ∀ entry ∈ config.providers, Ready [] config.probe.interval entry := by
    intro entry inside
    rcases List.mem_cons.1 inside with rfl | second
    · exact ⟨nofun, .prometheus (by decide) (by decide)
        (iff_of_false (fun ⟨_, named⟩ => nomatch named) fun ⟨_, named⟩ => nomatch named)⟩
    · rw [List.mem_singleton.1 second]
      exact ⟨nofun, .cloudwatch rfl (.inl rfl)⟩
  obtain ⟨providers, started⟩ := starts.ok.2 ready
  refine ⟨accepted, providers, started, fun surroundings elapsed schedule registry => ?_⟩
  exact (equipped providers started surroundings elapsed).2 schedule registry

end Session

end MetricProbe
