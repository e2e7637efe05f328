import MetricProbe.Proofs.CloudWatch.Region
import MetricProbe.Proofs.Interval.Reading
import MetricProbe.Provider.Factory

/-!
# What providers are made of

When a provider can be made, and which failure there is when it cannot. `Complete` says what the
declared backend needs, and `Lacks` what is missing first; neither looks at anything but the
declaration, the address, the interval and the names of the secrets, and each backend ignores most of
these. Every description is complete or lacks something, so the two say all that can be said about
success.

Nothing is said about whether a provider that was made is of any use: addresses of HTTP backends and
the secrets themselves are not looked at before something is asked.
-/

namespace MetricProbe

/-! ## Secrets and intervals -/

namespace Credentials

/-- There is a secret of the given name. -/
def Has (credentials : Credentials) (key : String) : Prop := ∃ secret, (key, secret) ∈ credentials

/-- Exactly the names without a secret have no text. -/
theorem text?_eq_none_iff {credentials : Credentials} {key : String} :
    credentials.text? key = none ↔ ¬ credentials.Has key := by
  rw [text?, Option.map_eq_none_iff, List.lookup_eq_none_iff]
  constructor
  · rintro absent ⟨secret, inside⟩
    simpa using absent _ inside
  · intro absent entry inside
    have different : key ≠ entry.1 := by
      rintro rfl
      exact absent ⟨entry.2, inside⟩
    exact bne_iff_ne.2 different

/-- A secret that is there has a text. -/
theorem Has.exists_text {credentials : Credentials} {key : String} (has : credentials.Has key) :
    ∃ text, credentials.text? key = some text := by
  cases found : credentials.text? key with
  | none => exact absurd has (text?_eq_none_iff.1 found)
  | some text => exact ⟨text, rfl⟩

end Credentials

namespace Interval

/-- The interval of a text that denotes a length has that text and that length. -/
theorem exists_read_of_denotes {text : String} {nanoseconds : Nat}
    (denotes : Denotes text.toList nanoseconds) :
    ∃ interval, read text = .ok interval ∧ interval.text = text ∧
      interval.nanoseconds = nanoseconds := by
  have bounded : nanoseconds < twoPow 63 := by
    cases denotes with
    | zero => decide
    | sum _ _ bounded => exact Nat.lt_of_le_of_lt bounded (by decide)
  rw [read, readNanoseconds_of_denotes denotes]
  exact ⟨⟨text, nanoseconds, bounded⟩, by simp [bounded], rfl, rfl⟩

/-- A text that is rejected is no interval. -/
theorem read_of_rejected {text : String} {fault : Fault} (rejected : Rejected text.toList fault) :
    read text = .error fault := by
  rw [read, readNanoseconds_of_rejected rejected]

end Interval

/-! ## Descriptions of providers -/

namespace Provider

/-- The names of the secrets that a backend looks at. -/
def relevantKeys : Backend → List String
  | .prometheus => ["username", "password"]
  | .datadog => ["datadog_api_key", "datadog_application_key"]
  | .cloudwatch => []

/-- Everything is there that the declared backend needs, if these are the secrets. A declaration
that is not exactly the name of another backend stands for Prometheus. -/
inductive Complete (interval : String) (settings : Settings) (given : String → Prop) : Prop where
  | datadog (declared : settings.declared = "datadog") (apiKey : given "datadog_api_key")
      (applicationKey : given "datadog_application_key") {nanoseconds : Nat}
      (denotes : Interval.Denotes interval.toList nanoseconds)
  | cloudwatch (declared : settings.declared = "cloudwatch")
      (address : settings.address = "" ∨
        ∃ region, CloudWatch.NamesRegion settings.address region)
  | prometheus (notDatadog : settings.declared ≠ "datadog")
      (notCloudWatch : settings.declared ≠ "cloudwatch")
      (login : given "username" ↔ given "password")

/-- The first thing that the declared backend needs and that is not there, as a failure. -/
inductive Lacks (interval : String) (settings : Settings) (given : String → Prop) :
    Failure → Prop where
  | apiKey (declared : settings.declared = "datadog") (absent : ¬ given "datadog_api_key") :
      Lacks interval settings given (.missingCredential "datadog" "datadog_api_key")
  | applicationKey (declared : settings.declared = "datadog") (apiKey : given "datadog_api_key")
      (absent : ¬ given "datadog_application_key") :
      Lacks interval settings given (.missingCredential "datadog" "datadog_application_key")
  | interval (declared : settings.declared = "datadog") (apiKey : given "datadog_api_key")
      (applicationKey : given "datadog_application_key") {fault : Interval.Fault}
      (rejected : Interval.Rejected interval.toList fault) :
      Lacks interval settings given (.invalidInterval interval (fault.message interval))
  | address (declared : settings.declared = "cloudwatch") (configured : settings.address ≠ "")
      (nameless : ∀ region, ¬ CloudWatch.NamesRegion settings.address region) :
      Lacks interval settings given
        (.invalidAddress settings.address "expected monitoring.<region>.amazonaws.com")
  | username (notDatadog : settings.declared ≠ "datadog")
      (notCloudWatch : settings.declared ≠ "cloudwatch") (absent : ¬ given "username")
      (password : given "password") :
      Lacks interval settings given (.missingCredential "prometheus" "username")
  | password (notDatadog : settings.declared ≠ "datadog")
      (notCloudWatch : settings.declared ≠ "cloudwatch") (username : given "username")
      (absent : ¬ given "password") :
      Lacks interval settings given (.missingCredential "prometheus" "password")

section

variable {interval : String} {settings : Settings}

/-- A description is complete or lacks something. -/
theorem complete_or_lacks (interval : String) (settings : Settings) (given : String → Prop) :
    Complete interval settings given ∨ ∃ failure, Lacks interval settings given failure := by
  by_cases datadog : settings.declared = "datadog"
  · by_cases apiKey : given "datadog_api_key"
    · by_cases applicationKey : given "datadog_application_key"
      · rcases Interval.denotes_or_rejected interval.toList with
          ⟨nanoseconds, denotes⟩ | ⟨fault, rejected⟩
        · exact .inl (.datadog datadog apiKey applicationKey denotes)
        · exact .inr ⟨_, .interval datadog apiKey applicationKey rejected⟩
      · exact .inr ⟨_, .applicationKey datadog apiKey applicationKey⟩
    · exact .inr ⟨_, .apiKey datadog apiKey⟩
  by_cases cloudwatch : settings.declared = "cloudwatch"
  · by_cases configured : settings.address = ""
    · exact .inl (.cloudwatch cloudwatch (.inl configured))
    · by_cases named : ∃ region, CloudWatch.NamesRegion settings.address region
      · exact .inl (.cloudwatch cloudwatch (.inr named))
      · exact .inr ⟨_, .address cloudwatch configured (not_exists.1 named)⟩
  by_cases username : given "username"
  · by_cases password : given "password"
    · exact .inl (.prometheus datadog cloudwatch (iff_of_true username password))
    · exact .inr ⟨_, .password datadog cloudwatch username password⟩
  · by_cases password : given "password"
    · exact .inr ⟨_, .username datadog cloudwatch username password⟩
    · exact .inl (.prometheus datadog cloudwatch (iff_of_false username password))

/-! ## Making providers -/

/-- A declaration of Datadog selects it. -/
theorem backend_of_datadog (declared : settings.declared = "datadog") :
    settings.backend = .datadog := by
  rw [Settings.backend, declared]
  rfl

/-- A declaration of CloudWatch selects it. -/
theorem backend_of_cloudwatch (declared : settings.declared = "cloudwatch") :
    settings.backend = .cloudwatch := by
  rw [Settings.backend, declared]
  rfl

/-- Every other declaration selects Prometheus. -/
theorem backend_of_other (notDatadog : settings.declared ≠ "datadog")
    (notCloudWatch : settings.declared ≠ "cloudwatch") : settings.backend = .prometheus := by
  rw [Settings.backend, Backend.ofDeclared, if_neg notDatadog, if_neg notCloudWatch]

variable {credentials : Credentials}

/-- A key that is there is given to Datadog. -/
theorem requireKey_of_has {key : String} (has : credentials.Has key) :
    ∃ text, Datadog.Client.requireKey credentials key = .ok text := by
  obtain ⟨text, found⟩ := has.exists_text
  exact ⟨text, by rw [Datadog.Client.requireKey, found]⟩

/-- A key that is not there is missed by Datadog. -/
theorem requireKey_of_not_has {key : String} (absent : ¬ credentials.Has key) :
    Datadog.Client.requireKey credentials key = .error (.missingCredential "datadog" key) := by
  rw [Datadog.Client.requireKey, Credentials.text?_eq_none_iff.2 absent]
  rfl

/-- A provider is made from a complete description. -/
theorem exists_make_of_complete (complete : Complete interval settings credentials.Has) :
    ∃ provider, make interval settings credentials = .ok provider := by
  cases complete with
  | datadog declared apiKey applicationKey denotes =>
      obtain ⟨apiKeyText, apiKey⟩ := requireKey_of_has apiKey
      obtain ⟨applicationKeyText, applicationKey⟩ := requireKey_of_has applicationKey
      obtain ⟨length, read, _⟩ := Interval.exists_read_of_denotes denotes
      rw [make, backend_of_datadog declared]
      simp only [Datadog.Client.make, Datadog.apiKeyName, apiKey, Datadog.applicationKeyName,
        applicationKey, read]
      exact ⟨_, rfl⟩
  | cloudwatch declared address =>
      rw [make, backend_of_cloudwatch declared]
      simp only [CloudWatch.Client.make]
      split
      next => exact ⟨_, rfl⟩
      next configured =>
        obtain ⟨region, named⟩ := address.resolve_left (by simpa using configured)
        rw [CloudWatch.readRegion, CloudWatch.region?_eq_some_iff.2 named]
        exact ⟨_, rfl⟩
  | prometheus notDatadog notCloudWatch login =>
      rw [make, backend_of_other notDatadog notCloudWatch]
      simp only [Prometheus.Client.make, Prometheus.Client.loginOf, Prometheus.usernameKey,
        Prometheus.passwordKey]
      by_cases username : credentials.Has "username"
      · obtain ⟨usernameText, usernameGiven⟩ := username.exists_text
        obtain ⟨passwordText, passwordGiven⟩ := (login.1 username).exists_text
        rw [usernameGiven, passwordGiven]
        exact ⟨_, rfl⟩
      · rw [Credentials.text?_eq_none_iff.2 username,
          Credentials.text?_eq_none_iff.2 (mt login.2 username)]
        exact ⟨_, rfl⟩

/-- What a description lacks is the failure of making a provider from it. -/
theorem make_of_lacks {failure : Failure} (lacks : Lacks interval settings credentials.Has failure) :
    make interval settings credentials = .error failure := by
  cases lacks with
  | apiKey declared absent =>
      rw [make, backend_of_datadog declared]
      simp only [Datadog.Client.make, Datadog.apiKeyName, requireKey_of_not_has absent]
      rfl
  | applicationKey declared apiKey absent =>
      obtain ⟨apiKeyText, apiKey⟩ := requireKey_of_has apiKey
      rw [make, backend_of_datadog declared]
      simp only [Datadog.Client.make, Datadog.apiKeyName, apiKey, Datadog.applicationKeyName,
        requireKey_of_not_has absent]
      rfl
  | interval declared apiKey applicationKey rejected =>
      obtain ⟨apiKeyText, apiKey⟩ := requireKey_of_has apiKey
      obtain ⟨applicationKeyText, applicationKey⟩ := requireKey_of_has applicationKey
      rw [make, backend_of_datadog declared]
      simp only [Datadog.Client.make, Datadog.apiKeyName, apiKey, Datadog.applicationKeyName,
        applicationKey, Interval.read_of_rejected rejected]
      rfl
  | address declared configured nameless =>
      have refused := CloudWatch.readRegion_eq_error_iff.2 ⟨nameless, rfl⟩
      rw [make, backend_of_cloudwatch declared]
      simp only [CloudWatch.Client.make, String.isEmpty_iff, configured, if_false, refused]
      rfl
  | username notDatadog notCloudWatch absent password =>
      obtain ⟨passwordText, password⟩ := password.exists_text
      rw [make, backend_of_other notDatadog notCloudWatch]
      simp only [Prometheus.Client.make, Prometheus.Client.loginOf, Prometheus.usernameKey,
        Credentials.text?_eq_none_iff.2 absent, Prometheus.passwordKey, password]
      rfl
  | password notDatadog notCloudWatch username absent =>
      obtain ⟨usernameText, username⟩ := username.exists_text
      rw [make, backend_of_other notDatadog notCloudWatch]
      simp only [Prometheus.Client.make, Prometheus.Client.loginOf, Prometheus.usernameKey,
        username, Prometheus.passwordKey, Credentials.text?_eq_none_iff.2 absent]
      rfl

/-- A provider is made exactly from the complete descriptions. -/
theorem exists_make_iff :
    (∃ provider, make interval settings credentials = .ok provider) ↔
      Complete interval settings credentials.Has := by
  refine ⟨?_, exists_make_of_complete⟩
  rintro ⟨provider, made⟩
  rcases complete_or_lacks interval settings credentials.Has with complete | ⟨failure, lacks⟩
  · exact complete
  · rw [make_of_lacks lacks] at made
    cases made

/-- No provider is made exactly if the description lacks something, and that is the failure. -/
theorem make_eq_error_iff {failure : Failure} :
    make interval settings credentials = .error failure ↔
      Lacks interval settings credentials.Has failure := by
  refine ⟨fun failed => ?_, make_of_lacks⟩
  rcases complete_or_lacks interval settings credentials.Has with complete | ⟨other, lacks⟩
  · obtain ⟨provider, made⟩ := exists_make_of_complete complete
    rw [failed] at made
    cases made
  · rw [make_of_lacks lacks] at failed
    cases failed
    exact lacks

/-- A provider asks the backend that was declared. -/
theorem backend_of_make {provider : Provider}
    (made : make interval settings credentials = .ok provider) :
    provider.backend = settings.backend := by
  rw [make] at made
  cases selected : settings.backend with
  | prometheus =>
      rw [selected] at made
      cases client : Prometheus.Client.make settings credentials <;> rw [client] at made <;>
        cases made
      rfl
  | datadog =>
      rw [selected] at made
      cases client : Datadog.Client.make interval settings credentials <;> rw [client] at made <;>
        cases made
      rfl
  | cloudwatch =>
      rw [selected] at made
      cases client : CloudWatch.Client.make settings <;> rw [client] at made <;> cases made
      rfl

/-! ## What does not matter -/

/-- A description that lacks something lacks it also if the secrets that no one looks at, and the
interval of a backend that does not read it, are others. -/
theorem Lacks.of_agree {given others : String → Prop} {other : String} {failure : Failure}
    (intervals : settings.declared = "datadog" → other = interval)
    (secrets : ∀ key ∈ relevantKeys settings.backend, others key ↔ given key)
    (lacks : Lacks interval settings given failure) : Lacks other settings others failure := by
  cases lacks with
  | apiKey declared absent =>
      rw [backend_of_datadog declared] at secrets
      exact .apiKey declared (mt (secrets _ (by decide)).1 absent)
  | applicationKey declared apiKey absent =>
      rw [backend_of_datadog declared] at secrets
      exact .applicationKey declared ((secrets _ (by decide)).2 apiKey)
        (mt (secrets _ (by decide)).1 absent)
  | interval declared apiKey applicationKey rejected =>
      rw [backend_of_datadog declared] at secrets
      obtain rfl := intervals declared
      exact .interval declared ((secrets _ (by decide)).2 apiKey)
        ((secrets _ (by decide)).2 applicationKey) rejected
  | address declared configured nameless => exact .address declared configured nameless
  | username notDatadog notCloudWatch absent password =>
      rw [backend_of_other notDatadog notCloudWatch] at secrets
      exact .username notDatadog notCloudWatch (mt (secrets _ (by decide)).1 absent)
        ((secrets _ (by decide)).2 password)
  | password notDatadog notCloudWatch username absent =>
      rw [backend_of_other notDatadog notCloudWatch] at secrets
      exact .password notDatadog notCloudWatch ((secrets _ (by decide)).2 username)
        (mt (secrets _ (by decide)).1 absent)

/-- The same provider is made if the secrets that no one looks at, and the interval of a backend that
does not read it, are others. -/
theorem make_eq_of_agree {others : Credentials} {other : String}
    (intervals : settings.declared = "datadog" → other = interval)
    (secrets : ∀ key ∈ relevantKeys settings.backend,
      others.lookup key = credentials.lookup key) :
    make other settings others = make interval settings credentials := by
  have texts (key : String) (relevant : key ∈ relevantKeys settings.backend) :
      others.text? key = credentials.text? key := by
    rw [Credentials.text?, Credentials.text?, secrets key relevant]
  by_cases datadog : settings.declared = "datadog"
  · obtain rfl := intervals datadog
    rw [backend_of_datadog datadog] at texts
    have apiKey := texts "datadog_api_key" (by decide)
    have applicationKey := texts "datadog_application_key" (by decide)
    rw [make, make, backend_of_datadog datadog]
    simp only [Datadog.Client.make, Datadog.Client.requireKey, Datadog.apiKeyName,
      Datadog.applicationKeyName, apiKey, applicationKey]
  by_cases cloudwatch : settings.declared = "cloudwatch"
  · rw [make, make, backend_of_cloudwatch cloudwatch]
  · rw [backend_of_other datadog cloudwatch] at texts
    have username := texts "username" (by decide)
    have password := texts "password" (by decide)
    rw [make, make, backend_of_other datadog cloudwatch]
    simp only [Prometheus.Client.make, Prometheus.Client.loginOf, Prometheus.usernameKey,
      Prometheus.passwordKey, username, password]

/-- A provider is made exactly if everything is there that the declared backend needs; else the
failure is the first thing that is not. A provider that is made asks the declared backend. Only the
settings, the secrets that the backend looks at and, for Datadog, the interval matter: if the same
ones of these secrets are there, the same failures arise, and if they are the same secrets, the same
provider is made. -/
theorem make_fails_closed (interval : String) (settings : Settings) (credentials : Credentials) :
    ((∃ provider, make interval settings credentials = .ok provider) ↔
        Complete interval settings credentials.Has) ∧
      (∀ failure, make interval settings credentials = .error failure ↔
        Lacks interval settings credentials.Has failure) ∧
      (∀ provider, make interval settings credentials = .ok provider →
        provider.backend = settings.backend) ∧
      ∀ (other : String) (others : Credentials),
        (settings.declared = "datadog" → other = interval) →
          ((∀ key ∈ relevantKeys settings.backend, others.Has key ↔ credentials.Has key) →
            ∀ failure, make other settings others = .error failure ↔
              make interval settings credentials = .error failure) ∧
          ((∀ key ∈ relevantKeys settings.backend,
              others.lookup key = credentials.lookup key) →
            make other settings others = make interval settings credentials) := by
  refine ⟨exists_make_iff, fun failure => make_eq_error_iff, fun provider => backend_of_make, ?_⟩
  intro other others intervals
  refine ⟨fun secrets failure => ?_, make_eq_of_agree intervals⟩
  rw [make_eq_error_iff, make_eq_error_iff]
  constructor
  · exact Lacks.of_agree (fun declared => (intervals declared).symm)
      fun key relevant => (secrets key relevant).symm
  · exact Lacks.of_agree intervals secrets

/-- A password without a user name is refused, also if there are keys of Datadog and the interval
cannot be read. -/
theorem make_fails_closed_password :
    let settings : Settings := ⟨"graphite", "http://prom:9090"⟩
    let credentials : Credentials := [("password", [0x70])]
    let others : Credentials := [("datadog_api_key", [0x61]), ("password", [0x71])]
    (settings.declared = "datadog" → "soon" = "1m") ∧
      (∀ key ∈ relevantKeys settings.backend, others.Has key ↔ credentials.Has key) ∧
      make "1m" settings credentials = .error (.missingCredential "prometheus" "username") ∧
      make "soon" settings others = .error (.missingCredential "prometheus" "username") := by
  intro settings credentials others
  have declared : settings.declared = "datadog" → "soon" = "1m" := by decide
  have secrets : ∀ key ∈ relevantKeys settings.backend,
      others.Has key ↔ credentials.Has key := by
    intro key relevant
    have known : key = "username" ∨ key = "password" := by
      simpa [settings, Settings.backend, Backend.ofDeclared, relevantKeys] using relevant
    rcases known with rfl | rfl <;> simp [Credentials.Has, others, credentials]
  obtain ⟨_, fails, _, same⟩ := make_fails_closed "1m" settings credentials
  have failed : make "1m" settings credentials =
      .error (.missingCredential "prometheus" "username") :=
    (fails _).2 (.username (by decide) (by decide) (by simp [Credentials.Has, credentials])
      ⟨_, List.mem_singleton_self _⟩)
  exact ⟨declared, secrets, failed, ((same "soon" others declared).1 secrets _).2 failed⟩

end

end Provider

end MetricProbe
