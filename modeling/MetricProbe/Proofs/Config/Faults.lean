import MetricProbe.Proofs.Config.Validity

/-!
# The fault that is reported

A configuration that cannot be used may break several rules. `FirstFault` says which fault is
reported: providers come before checks, checks before the interval, and the interval before the
address of the telemetry; of the providers and of the checks the first counts that breaks a rule, and
of its rules the first. It is said by what stands before the fault, without an order of looking.

A configuration can be used or has a first fault, and every first fault is the one that is found; so
there is never more than one.
-/

namespace MetricProbe

/-- The members of a list have a property, or there is a first one without it. -/
theorem forall_or_exists_first {α : Type} (property : α → Prop) (items : List α) :
    (∀ item ∈ items, property item) ∨
      ∃ before item after, items = before ++ item :: after ∧
        (∀ earlier ∈ before, property earlier) ∧ ¬ property item := by
  induction items with
  | nil => exact .inl fun item inside => nomatch inside
  | cons item rest inductionHypothesis =>
      by_cases holds : property item
      · rcases inductionHypothesis with all | ⟨before, first, after, rfl, earlier, fails⟩
        · exact .inl (List.forall_mem_cons.2 ⟨holds, all⟩)
        · exact .inr ⟨item :: before, first, after, rfl, List.forall_mem_cons.2 ⟨holds, earlier⟩,
            fails⟩
      · exact .inr ⟨[], item, rest, rfl, fun earlier inside => (nomatch inside), holds⟩

namespace Config

/-! ## First faults -/

/-- The names of providers are not empty and different from each other. -/
structure Named (entries : List ProviderEntry) : Prop where
  nonempty : ∀ entry ∈ entries, entry.name ≠ ""
  distinct : (entries.map (·.name)).Nodup

/-- A check names one of the providers with the given names, and asks something. -/
structure Sound (names : List String) (check : Probe.Check) : Prop where
  known : check.provider ∈ names
  asking : ∃ c ∈ check.query.toList, Text.isBlank c = false

variable {config : Config}

/-- There are providers, and they have names. -/
structure Equipped (config : Config) : Prop where
  filled : config.providers ≠ []
  named : Named config.providers

/-- The providers are in order, and all checks before the one behind the given ones. -/
structure ComesTo (config : Config) (before : List Probe.Check) (check : Probe.Check) : Prop
    extends config.Equipped where
  stands : ∃ after, config.checks = before ++ check :: after
  sound : ∀ earlier ∈ before, Sound config.providerNames earlier

/-- The first rule that a configuration breaks, and where it breaks it. -/
inductive FirstFault (config : Config) : Fault → Prop where
  /-- There are no providers. -/
  | noProviders (none : config.providers = []) : FirstFault config .noProviders
  /-- Behind providers with different names is one without a name. -/
  | emptyName {before after : List ProviderEntry} {entry : ProviderEntry}
      (stands : config.providers = before ++ entry :: after) (named : Named before)
      (nameless : entry.name = "") : FirstFault config (.emptyName before.length)
  /-- Behind providers with different names is one with the name of one of them. -/
  | repeatedName {before after : List ProviderEntry} {entry : ProviderEntry}
      (stands : config.providers = before ++ entry :: after) (named : Named before)
      (nonempty : entry.name ≠ "") (repeated : entry.name ∈ before.map (·.name)) :
      FirstFault config (.repeatedName entry.name)
  /-- The first check that breaks a rule names no provider. -/
  | unknownProvider {before : List Probe.Check} {check : Probe.Check}
      (comes : config.ComesTo before check) (unknown : check.provider ∉ config.providerNames) :
      FirstFault config (.unknownProvider before.length check.name check.provider)
  /-- The first check that breaks a rule names a provider and asks nothing. -/
  | emptyQuery {before : List Probe.Check} {check : Probe.Check}
      (comes : config.ComesTo before check) (known : check.provider ∈ config.providerNames)
      (blank : ∀ c ∈ check.query.toList, Text.isBlank c = true) :
      FirstFault config (.emptyQuery before.length check.name)
  /-- Providers and checks are in order, but the interval is none. -/
  | invalidInterval {cause : Interval.Fault} (equipped : config.Equipped)
      (sound : ∀ check ∈ config.checks, Sound config.providerNames check)
      (rejected : Interval.Rejected config.probe.interval.toList cause) :
      FirstFault config (.invalidInterval config.probe.interval cause)
  /-- All is in order but that the telemetry is served nowhere. -/
  | emptyBindAddress (equipped : config.Equipped)
      (sound : ∀ check ∈ config.checks, Sound config.providerNames check)
      (paced : ∃ nanoseconds, Interval.Denotes config.probe.interval.toList nanoseconds)
      (served : config.metrics.enabled = true) (nowhere : config.metrics.bindAddress = "") :
      FirstFault config .emptyBindAddress

/-! ## Providers -/

/-- Providers that are in order stay so with one more if it has a name that is new. -/
theorem named_concat_iff {before : List ProviderEntry} {entry : ProviderEntry} :
    Named (before ++ [entry]) ↔
      Named before ∧ entry.name ≠ "" ∧ entry.name ∉ before.map (·.name) := by
  constructor
  · rintro ⟨nonempty, distinct⟩
    rw [List.map_append, List.map_singleton, List.nodup_append] at distinct
    obtain ⟨distinct, _, apart⟩ := distinct
    refine ⟨⟨fun other inside => ?_, distinct⟩, ?_, fun inside => ?_⟩
    · exact nonempty other (List.mem_append_left _ inside)
    · exact nonempty entry (List.mem_append_right _ List.mem_cons_self)
    · exact apart _ inside _ List.mem_cons_self rfl
  · rintro ⟨⟨nonempty, distinct⟩, named, new⟩
    constructor
    · intro other inside
      rcases List.mem_append.1 inside with early | late
      · exact nonempty other early
      · rwa [List.mem_singleton.1 late]
    · rw [List.map_append, List.map_singleton, List.nodup_append]
      refine ⟨distinct, List.nodup_singleton _, fun name inside last isLast => ?_⟩
      rw [List.mem_singleton.1 isLast]
      rintro rfl
      exact new inside

/-- All providers are in order, or there is a first one that is not. -/
theorem named_or_exists_first (entries : List ProviderEntry) :
    Named entries ∨ ∃ before entry after, entries = before ++ entry :: after ∧ Named before ∧
      (entry.name = "" ∨ entry.name ∈ before.map (·.name)) := by
  induction entries using List.reverseRecOn with
  | nil => exact .inl ⟨List.forall_mem_nil _, List.nodup_nil⟩
  | append_singleton entries last inductionHypothesis =>
      rcases inductionHypothesis with named | ⟨before, entry, after, rfl, named, fault⟩
      · by_cases fault : last.name = "" ∨ last.name ∈ entries.map (·.name)
        · exact .inr ⟨entries, last, [], rfl, named, fault⟩
        · exact .inl (named_concat_iff.2 ⟨named, not_or.1 fault⟩)
      · refine .inr ⟨before, entry, after ++ [last], ?_, named, fault⟩
        rw [List.append_assoc, List.cons_append]

/-- Looking at providers goes on behind those that are in order. -/
theorem validateProviders_append {index : Nat} {earlier : List String}
    {before rest : List ProviderEntry} (named : Named before)
    (new : ∀ entry ∈ before, entry.name ∉ earlier) :
    validateProviders index earlier (before ++ rest) =
      validateProviders (index + before.length) (earlier ++ before.map (·.name)) rest := by
  induction before generalizing index earlier with
  | nil => simp
  | cons entry before inductionHypothesis =>
      obtain ⟨nonempty, distinct⟩ := named
      rw [List.map_cons, List.nodup_cons] at distinct
      have first : ¬ entry.name.isEmpty = true := by
        rw [String.isEmpty_iff]
        exact nonempty entry List.mem_cons_self
      have named : Named before :=
        ⟨fun other inside => nonempty other (List.mem_cons_of_mem _ inside), distinct.2⟩
      have newer : ∀ other ∈ before, other.name ∉ earlier ++ [entry.name] := by
        intro other inside known
        rcases List.mem_append.1 known with early | same
        · exact new other (List.mem_cons_of_mem _ inside) early
        · exact distinct.1 (List.mem_singleton.1 same ▸ List.mem_map_of_mem inside)
      rw [List.cons_append, validateProviders, if_neg first, if_neg (new entry List.mem_cons_self),
        inductionHypothesis named newer, List.length_cons, List.map_cons, List.append_assoc,
        List.singleton_append, Nat.add_assoc, Nat.add_comm 1]

/-- Looking at checks goes on behind those that are in order. -/
theorem validateChecks_append {names : List String} {index : Nat} {before rest : List Probe.Check}
    (sound : ∀ check ∈ before, Sound names check) :
    validateChecks names index (before ++ rest) =
      validateChecks names (index + before.length) rest := by
  induction before generalizing index with
  | nil => rfl
  | cons check before inductionHypothesis =>
      obtain ⟨first, sound⟩ := List.forall_mem_cons.1 sound
      have asking : ¬ Text.allBlank check.query = true := by
        obtain ⟨c, inside, solid⟩ := first.asking
        intro blank
        rw [List.all_eq_true.1 blank c inside] at solid
        cases solid
      rw [List.cons_append, validateChecks, if_neg (not_not.2 first.known), if_neg asking,
        inductionHypothesis sound, List.length_cons, Nat.add_assoc, Nat.add_comm 1]

/-- Looking at providers does not stop at those that are in order. -/
theorem validateProviders_of_named {entries : List ProviderEntry} (named : Named entries) :
    validateProviders 0 [] entries = .ok () :=
  validateProviders_eq_ok_iff.2
    ⟨fun entry inside => ⟨named.nonempty entry inside, List.not_mem_nil⟩, named.distinct⟩

/-- Looking at checks does not stop at those that are in order. -/
theorem validateChecks_of_sound {names : List String} {checks : List Probe.Check}
    (sound : ∀ check ∈ checks, Sound names check) : validateChecks names 0 checks = .ok () :=
  validateChecks_eq_ok_iff.2 fun check inside =>
    ⟨(sound check inside).known, (sound check inside).asking⟩

/-! ## Configurations -/

/-- Behind its providers a configuration is looked at in three steps. -/
theorem Equipped.validate_eq (equipped : config.Equipped) :
    config.validate =
      (validateChecks config.providerNames 0 config.checks).bind fun _ =>
        (validateInterval config.probe.interval).bind fun _ => validateMetrics config.metrics := by
  rw [validate_of_filled equipped.filled, validateProviders_of_named equipped.named]
  rfl

/-- The first check that is not in order decides. -/
theorem ComesTo.validate_eq {before : List Probe.Check} {check : Probe.Check}
    (comes : config.ComesTo before check) {fault : Fault}
    (found : ∀ after, validateChecks config.providerNames before.length (check :: after) =
      .error fault) : config.validate = .error fault := by
  obtain ⟨after, stands⟩ := comes.stands
  rw [comes.toEquipped.validate_eq, stands, validateChecks_append comes.sound, Nat.zero_add, found]
  rfl

/-- The first fault is the one that is found. -/
theorem validate_of_firstFault {fault : Fault} (first : config.FirstFault fault) :
    config.validate = .error fault := by
  cases first with
  | noProviders none =>
      rw [validate, none]
      rfl
  | @emptyName before after entry stands named nameless =>
      have filled : config.providers ≠ [] := stands ▸ List.append_ne_nil_of_right_ne_nil _ (by simp)
      rw [validate_of_filled filled, stands, validateProviders_append named (by simp),
        validateProviders, if_pos (by rw [nameless]; rfl), Nat.zero_add]
      rfl
  | @repeatedName before after entry stands named nonempty repeated =>
      have filled : config.providers ≠ [] := stands ▸ List.append_ne_nil_of_right_ne_nil _ (by simp)
      rw [validate_of_filled filled, stands, validateProviders_append named (by simp),
        validateProviders, if_neg (by rwa [String.isEmpty_iff]), List.nil_append, if_pos repeated]
      rfl
  | unknownProvider comes unknown =>
      apply comes.validate_eq
      intro after
      rw [validateChecks, if_pos unknown]
  | @emptyQuery before check comes known blank =>
      have empty : Text.allBlank check.query = true := List.all_eq_true.2 blank
      apply comes.validate_eq
      intro after
      rw [validateChecks, if_neg (not_not.2 known), if_pos empty]
  | invalidInterval equipped sound rejected =>
      rw [equipped.validate_eq, validateChecks_of_sound sound, validateInterval,
        Interval.read_of_rejected rejected]
      rfl
  | emptyBindAddress equipped sound paced served nowhere =>
      rw [equipped.validate_eq, validateChecks_of_sound sound, validateInterval_eq_ok_iff.2 paced,
        validateMetrics, served, nowhere]
      rfl

/-- A configuration can be used, or breaks a first rule. -/
theorem valid_or_firstFault (config : Config) :
    config.Valid ∨ ∃ fault, config.FirstFault fault := by
  by_cases filled : config.providers = []
  · exact .inr ⟨_, .noProviders filled⟩
  rcases named_or_exists_first config.providers with
    named | ⟨before, entry, after, stands, named, fault⟩
  swap
  · by_cases nameless : entry.name = ""
    · exact .inr ⟨_, .emptyName stands named nameless⟩
    · exact .inr ⟨_, .repeatedName stands named nameless (fault.resolve_left nameless)⟩
  have equipped : config.Equipped := ⟨filled, named⟩
  rcases forall_or_exists_first (Sound config.providerNames) config.checks with
    sound | ⟨before, check, after, stands, sound, fault⟩
  swap
  · have comes : config.ComesTo before check := ⟨equipped, ⟨after, stands⟩, sound⟩
    by_cases known : check.provider ∈ config.providerNames
    · refine .inr ⟨_, .emptyQuery comes known fun c inside => ?_⟩
      by_contra solid
      exact fault ⟨known, c, inside, Bool.eq_false_iff.2 solid⟩
    · exact .inr ⟨_, .unknownProvider comes known⟩
  rcases Interval.denotes_or_rejected config.probe.interval.toList with paced | ⟨cause, rejected⟩
  swap
  · exact .inr ⟨_, .invalidInterval equipped sound rejected⟩
  by_cases bound : config.metrics.enabled = true → config.metrics.bindAddress ≠ ""
  · exact .inl ⟨filled, named.nonempty, named.distinct,
      fun check inside => (sound check inside).known,
      fun check inside => (sound check inside).asking, paced, bound⟩
  · obtain ⟨served, nowhere⟩ := Classical.not_imp.1 bound
    exact .inr ⟨_, .emptyBindAddress equipped sound paced served (not_not.1 nowhere)⟩

/-- A fault is reported exactly if it is the first one. -/
theorem validate_eq_error_iff {fault : Fault} :
    config.validate = .error fault ↔ config.FirstFault fault := by
  constructor
  · intro reported
    rcases valid_or_firstFault config with valid | ⟨first, isFirst⟩
    · rw [validate_eq_ok_iff.2 valid] at reported
      cases reported
    · rw [validate_of_firstFault isFirst] at reported
      cases reported
      exact isFirst
  · exact validate_of_firstFault

/-- A place among the checks is that of one check. -/
theorem ComesTo.check_eq {before earlier : List Probe.Check} {check other : Probe.Check}
    (comes : config.ComesTo before check) (alsoComes : config.ComesTo earlier other)
    (place : earlier.length = before.length) : other = check := by
  obtain ⟨after, stands⟩ := comes.stands
  obtain ⟨later, alsoStands⟩ := alsoComes.stands
  have checks := (List.append_inj (alsoStands.symm.trans stands) place).2
  exact (List.cons.inj checks).1

/-- A check that is reported for its query is the one at that place, and asks nothing. -/
theorem ComesTo.blank_of_emptyQuery {before : List Probe.Check} {check : Probe.Check}
    {name : String} (comes : config.ComesTo before check)
    (reported : config.validate = .error (.emptyQuery before.length name)) :
    ∀ c ∈ check.query.toList, Text.isBlank c = true := by
  have first := validate_eq_error_iff.1 reported
  generalize fault : Fault.emptyQuery before.length name = reportedFault at first
  cases first with
  | emptyQuery alsoComes _ blank =>
      injection fault with place
      rwa [comes.check_eq alsoComes place.symm] at blank
  | _ => cases fault

/-- A configuration is accepted exactly if it can be used, and otherwise its first fault is
reported; so are the texts of configurations. -/
theorem validate_reports_first_fault (config : Config) :
    (config.validate = .ok () ↔ config.Valid) ∧
      (∀ fault, config.validate = .error fault ↔ config.FirstFault fault) ∧
      ∀ text, read text = .ok config →
        (ofText text = .ok config ↔ config.Valid) ∧
        ∀ fault, ofText text = .error (.invalid fault) ↔ config.FirstFault fault := by
  refine ⟨validate_eq_ok_iff, fun fault => validate_eq_error_iff, fun text given => ?_⟩
  rw [← validate_eq_ok_iff, ofText, given]
  simp only [← validate_eq_error_iff]
  cases config.validate with
  | ok => simp
  | error found => simp

/-- Of a repeated name, an unknown provider, an empty query, an interval that is none and an empty
address, the repeated name is reported. -/
theorem validate_reports_first_fault_repeated :
    let text := "probe.name=\"p\"\nprobe.interval=\"soon\"\nmetrics.bind_address=\"\"\n" ++
      "[[providers]]\nname=\"a\"\n[[providers]]\nname=\"a\"\n" ++
      "[[checks]]\nname=\"c\"\nprovider=\"b\"\nquery=\"\""
    let config : Config :=
      { probe := { name := "p", interval := "soon" }
        providers := [{ name := "a" }, { name := "a" }]
        checks := [⟨"c", "b", ""⟩]
        metrics := { bindAddress := "" } }
    read text = .ok config ∧ config.validate = .error (.repeatedName "a") ∧
      ofText text = .error (.invalid (.repeatedName "a")) := by
  intro text config
  have given : read text = .ok config := by decide +kernel
  obtain ⟨_, reported, loaded⟩ := validate_reports_first_fault config
  have named : Named [({ name := "a" } : ProviderEntry)] := ⟨by decide, by decide⟩
  have first : config.FirstFault (.repeatedName "a") :=
    @FirstFault.repeatedName config [{ name := "a" }] [] { name := "a" } rfl named (by decide)
      (by decide)
  exact ⟨given, (reported _).2 first, ((loaded text given).2 _).2 first⟩

end Config

end MetricProbe
