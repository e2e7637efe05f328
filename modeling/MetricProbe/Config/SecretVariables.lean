/-!
# Variables of secrets

Secrets are not part of a configuration. A configuration says for each credential in which
environment variable its secret is found. The credentials are kept in the order of their keys, so
what is said about the first of several missing secrets does not depend on how the configuration
was written.
-/

namespace MetricProbe

/-- The environment variable of each credential, in the order of the keys. -/
structure SecretVariables where
  /-- The keys with their variables. -/
  entries : List (String × String)
  /-- The keys ascend strictly, so no key stands twice. -/
  ascending : entries.Pairwise fun left right => left.1 < right.1
  deriving DecidableEq, Repr

namespace SecretVariables

/-- No credentials. -/
def empty : SecretVariables := ⟨[], .nil⟩

/-- The entries with one more, in its place, or with another variable for a key that is there. -/
def place (key envName : String) : List (String × String) → List (String × String)
  | [] => [(key, envName)]
  | entry :: rest =>
    if key < entry.1 then (key, envName) :: entry :: rest
    else if entry.1 < key then entry :: place key envName rest
    else (key, envName) :: rest

/-- The keys after an entry was placed are the key and the keys before. -/
theorem key_of_mem_place {key envName : String} {entries : List (String × String)}
    {entry : String × String} (placed : entry ∈ place key envName entries) :
    entry.1 = key ∨ ∃ old ∈ entries, old.1 = entry.1 := by
  induction entries with
  | nil => simp_all [place]
  | cons head rest inductionHypothesis =>
    unfold place at placed
    split at placed
    · grind
    · split at placed
      · rcases List.mem_cons.1 placed with rfl | later
        · exact .inr ⟨_, List.mem_cons_self, rfl⟩
        · rcases inductionHypothesis later with same | ⟨old, present, same⟩
          · exact .inl same
          · exact .inr ⟨old, List.mem_cons_of_mem _ present, same⟩
      · grind

/-- Placing an entry keeps the keys in order. -/
theorem place_ascending {entries : List (String × String)} (key envName : String)
    (ascending : entries.Pairwise fun left right => left.1 < right.1) :
    (place key envName entries).Pairwise fun left right => left.1 < right.1 := by
  induction entries with
  | nil => simp [place]
  | cons head rest inductionHypothesis =>
    have ⟨first, later⟩ := List.pairwise_cons.1 ascending
    unfold place
    split
    · rename_i before
      refine List.pairwise_cons.2 ⟨fun entry present => ?_, ascending⟩
      rcases List.mem_cons.1 present with rfl | present
      · exact before
      · exact String.lt_trans before (first entry present)
    · split
      · rename_i after
        refine List.pairwise_cons.2 ⟨fun entry present => ?_, inductionHypothesis later⟩
        rcases key_of_mem_place present with same | ⟨old, present, same⟩
        · exact same ▸ after
        · exact same ▸ first old present
      · rename_i notBefore notAfter
        have same : key = head.1 :=
          String.le_antisymm (String.not_lt.1 notAfter) (String.not_lt.1 notBefore)
        exact List.pairwise_cons.2 ⟨fun entry present => same ▸ first entry present, later⟩

/-- The variables with one more credential, or with another variable for a key that is there. -/
def insert (known : SecretVariables) (key envName : String) : SecretVariables :=
  ⟨place key envName known.entries, place_ascending key envName known.ascending⟩

/-- The variables of credentials given in any order; the last one of a key counts. -/
def ofList (entries : List (String × String)) : SecretVariables :=
  entries.foldl (fun known entry => known.insert entry.1 entry.2) empty

end SecretVariables

end MetricProbe
