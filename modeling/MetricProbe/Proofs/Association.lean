import Mathlib.Data.List.Nodup

/-!
# Lookups

A list of pairs in which no key stands twice is a table: a lookup finds exactly its entries, and
their order does not matter.
-/

namespace MetricProbe

variable {κ ι ν : Type} [BEq κ] [LawfulBEq κ] [BEq ι] [LawfulBEq ι]
variable {entries received : List (κ × ν)} {key : κ} {value : ν}

/-- A lookup finds exactly the entries. -/
theorem lookup_eq_some_iff_mem (distinct : (entries.map Prod.fst).Nodup) :
    entries.lookup key = some value ↔ (key, value) ∈ entries := by
  induction entries with
  | nil => simp
  | cons entry entries inductionHypothesis =>
      obtain ⟨first, found⟩ := entry
      have others : first ∉ entries.map Prod.fst := (List.nodup_cons.1 distinct).1
      have rest := inductionHypothesis (List.nodup_cons.1 distinct).2
      rw [List.mem_cons]
      by_cases same : key = first
      · subst same
        have absent : (key, value) ∉ entries := fun member =>
          others (List.mem_map_of_mem (f := Prod.fst) member)
        simp [absent, eq_comm]
      · have different : (key == first) = false := beq_false_of_ne same
        simp [List.lookup_cons, different, same, rest]

/-- Tables with the same entries in different orders find the same. -/
theorem lookup_eq_of_perm (same : received.Perm entries)
    (distinct : (entries.map Prod.fst).Nodup) : received.lookup key = entries.lookup key := by
  have receivedDistinct : (received.map Prod.fst).Nodup :=
    (same.map Prod.fst).nodup_iff.2 distinct
  refine Option.ext fun value => ?_
  rw [lookup_eq_some_iff_mem receivedDistinct, lookup_eq_some_iff_mem distinct]
  exact same.mem_iff

/-- A lookup survives a renaming of the keys that keeps them apart from the key that is looked
for. -/
theorem lookup_map_fst {rename : κ → ι}
    (apart : ∀ entry ∈ entries, rename key = rename entry.1 → key = entry.1) :
    (entries.map fun entry => (rename entry.1, entry.2)).lookup (rename key) =
      entries.lookup key := by
  induction entries with
  | nil => rfl
  | cons entry entries inductionHypothesis =>
      have rest := inductionHypothesis fun other member =>
        apart other (List.mem_cons_of_mem entry member)
      rw [List.map_cons, List.lookup_cons, List.lookup_cons, rest]
      have same : (rename key == rename entry.1) = (key == entry.1) := by
        rw [Bool.eq_iff_iff, beq_iff_eq, beq_iff_eq]
        exact ⟨apart entry List.mem_cons_self, congrArg rename⟩
      rw [same]

end MetricProbe
