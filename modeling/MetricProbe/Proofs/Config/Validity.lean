import MetricProbe.Config.Load
import MetricProbe.Proofs.Interval.Reading
import MetricProbe.Proofs.Provider.Construction

/-!
# Configurations that can be used

`Valid` says what makes a configuration usable, one promise for each rule and each of them by itself:
the order in which the rules are looked at decides only which fault is reported, not whether there
is one. A text is accepted if it can be read as a configuration that keeps all promises.
-/

namespace MetricProbe.Config

/-- A configuration can be used. -/
structure Valid (config : Config) : Prop where
  /-- There is something to ask. -/
  nonempty : config.providers ≠ []
  /-- Every provider has a name. -/
  named : ∀ entry ∈ config.providers, entry.name ≠ ""
  /-- No two providers have one name. -/
  distinct : config.providerNames.Nodup
  /-- Every check names a provider. -/
  known : ∀ check ∈ config.checks, check.provider ∈ config.providerNames
  /-- Every check asks something. -/
  asking : ∀ check ∈ config.checks, ∃ c ∈ check.query.toList, Text.isBlank c = false
  /-- The metric interval is one. -/
  paced : ∃ nanoseconds, Interval.Denotes config.probe.interval.toList nanoseconds
  /-- What is served has an address. -/
  bound : config.metrics.enabled = true → config.metrics.bindAddress ≠ ""

/-- Providers are accepted if all of them have names, different from each other and from the earlier
ones. -/
theorem validateProviders_eq_ok_iff {index : Nat} {earlier : List String}
    {entries : List ProviderEntry} :
    validateProviders index earlier entries = .ok () ↔
      (∀ entry ∈ entries, entry.name ≠ "" ∧ entry.name ∉ earlier) ∧
        (entries.map (·.name)).Nodup := by
  induction entries generalizing index earlier with
  | nil => simp [validateProviders]
  | cons entry rest inductionHypothesis =>
      rw [validateProviders]
      by_cases empty : entry.name = ""
      · simp [empty]
      by_cases repeated : entry.name ∈ earlier
      · simp [repeated, empty]
      have later (other : ProviderEntry) : other.name ∉ earlier ++ [entry.name] ↔
          other.name ∉ earlier ∧ other.name ≠ entry.name := by
        rw [List.mem_append, List.mem_singleton, not_or]
      simp only [String.isEmpty_iff, empty, if_false, repeated, inductionHypothesis, later]
      rw [List.forall_mem_cons, List.map_cons, List.nodup_cons]
      constructor
      · rintro ⟨others, distinct⟩
        refine ⟨⟨⟨empty, repeated⟩, fun other inside => ?_⟩, fun inside => ?_, distinct⟩
        · exact ⟨(others other inside).1, (others other inside).2.1⟩
        · obtain ⟨other, inside, same⟩ := List.mem_map.1 inside
          exact (others other inside).2.2 same
      · rintro ⟨⟨_, others⟩, different, distinct⟩
        refine ⟨fun other inside => ?_, distinct⟩
        refine ⟨(others other inside).1, (others other inside).2, fun same => different ?_⟩
        exact same ▸ List.mem_map_of_mem inside

/-- Checks are accepted if all of them name a provider and ask something. -/
theorem validateChecks_eq_ok_iff {names : List String} {index : Nat} {checks : List Probe.Check} :
    validateChecks names index checks = .ok () ↔
      ∀ check ∈ checks, check.provider ∈ names ∧
        ∃ c ∈ check.query.toList, Text.isBlank c = false := by
  induction checks generalizing index with
  | nil => simp [validateChecks]
  | cons check rest inductionHypothesis =>
      have asking : Text.allBlank check.query = false ↔
          ∃ c ∈ check.query.toList, Text.isBlank c = false := by
        simp [Text.allBlank]
      rw [validateChecks, List.forall_mem_cons, ← asking]
      by_cases known : check.provider ∈ names
      · cases blank : Text.allBlank check.query <;> simp [known, inductionHypothesis]
      · simp [known]

/-- An interval is accepted if it is one. -/
theorem validateInterval_eq_ok_iff {text : String} :
    validateInterval text = .ok () ↔
      ∃ nanoseconds, Interval.Denotes text.toList nanoseconds := by
  rw [validateInterval]
  rcases Interval.denotes_or_rejected text.toList with
    ⟨nanoseconds, denotes⟩ | ⟨fault, rejected⟩
  · obtain ⟨interval, read, _⟩ := Interval.exists_read_of_denotes denotes
    simp only [read, true_iff]
    exact ⟨nanoseconds, denotes⟩
  · simp only [Interval.read_of_rejected rejected, reduceCtorEq, false_iff, not_exists]
    intro nanoseconds denotes
    have both := Interval.readNanoseconds_of_denotes denotes
    rw [Interval.readNanoseconds_of_rejected rejected] at both
    cases both

/-- A configuration with providers is looked at in four steps. -/
theorem validate_of_filled {config : Config} (filled : config.providers ≠ []) :
    config.validate =
      (validateProviders 0 [] config.providers).bind fun _ =>
        (validateChecks config.providerNames 0 config.checks).bind fun _ =>
          (validateInterval config.probe.interval).bind fun _ =>
            validateMetrics config.metrics := by
  rw [validate, List.isEmpty_eq_false_iff.2 filled]
  rfl

/-- A configuration is accepted exactly if it can be used. -/
theorem validate_eq_ok_iff {config : Config} : config.validate = .ok () ↔ config.Valid := by
  have done {first : Except Fault Unit} {next : Except Fault Unit} :
      (first.bind fun _ => next) = .ok () ↔ first = .ok () ∧ next = .ok () := by
    cases first <;> simp [Except.bind]
  have bound : validateMetrics config.metrics = .ok () ↔
      (config.metrics.enabled = true → config.metrics.bindAddress ≠ "") := by
    rw [validateMetrics]
    cases config.metrics.enabled <;> by_cases empty : config.metrics.bindAddress = "" <;>
      simp [empty]
  cases empty : config.providers.isEmpty with
  | true =>
      have none := List.isEmpty_iff.1 empty
      constructor
      · intro accepted
        rw [validate, empty] at accepted
        cases accepted
      · intro valid
        exact absurd none valid.nonempty
  | false =>
      have filled : config.providers ≠ [] := by
        rintro none
        rw [none] at empty
        cases empty
      rw [validate_of_filled filled, done, done, done, validateProviders_eq_ok_iff,
        validateChecks_eq_ok_iff, validateInterval_eq_ok_iff, bound]
      constructor
      · rintro ⟨⟨named, distinct⟩, checks, paced, bound⟩
        exact ⟨filled, fun entry inside => (named entry inside).1, distinct,
          fun check inside => (checks check inside).1, fun check inside => (checks check inside).2,
          paced, bound⟩
      · rintro ⟨_, named, distinct, known, asking, paced, bound⟩
        exact ⟨⟨fun entry inside => ⟨named entry inside, List.not_mem_nil⟩, distinct⟩,
          fun check inside => ⟨known check inside, asking check inside⟩, paced, bound⟩

/-- A text is accepted only as a configuration that can be used. -/
theorem valid_of_ofText {text : String} {config : Config} (accepted : ofText text = .ok config) :
    config.Valid := by
  rw [ofText] at accepted
  cases given : read text with
  | error cause =>
      rw [given] at accepted
      cases accepted
  | ok found =>
      rw [given] at accepted
      cases validated : found.validate with
      | error fault =>
          simp only [validated] at accepted
          cases accepted
      | ok =>
          simp only [validated] at accepted
          cases accepted
          exact validate_eq_ok_iff.1 validated

end MetricProbe.Config
