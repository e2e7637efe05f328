import MetricProbe.CloudWatch.Address
import MetricProbe.Proofs.Text.Ends

/-!
# Regions of addresses

Which region an address names, said by how the address is put together: behind the first mark of a
scheme, or from the beginning if there is none, it is the monitoring host of the region, and then
nothing but slashes. An address names one region at most, although one end of a host is the
beginning of the other.
-/

namespace MetricProbe.CloudWatch

/-- What stands behind the first mark of a scheme, or the whole of a text that has none. -/
inductive Behind (text : List Char) : List Char → Prop where
  | mark {before after : List Char} (marked : text = before ++ schemeMark ++ after)
      (first : ∀ earlier later, text = earlier ++ schemeMark ++ later →
        before.length ≤ earlier.length) : Behind text after
  | whole (unmarked : ∀ before after, text ≠ before ++ schemeMark ++ after) : Behind text text

/-- An address names a region, of which nothing is known but that it is a single label. -/
def NamesRegion (address region : String) : Prop :=
  region ≠ "" ∧ '.' ∉ region.toList ∧ ∃ ending ∈ hostEnds, ∃ slashes : Nat,
    Behind address.toList (hostStart ++ region.toList ++ ending ++ List.replicate slashes '/')

/-- What follows the first mark of a scheme follows a mark, and no mark stands before that one. -/
theorem afterScheme?_eq_some_iff {text after : List Char} :
    afterScheme? text = some after ↔
      ∃ before, text = before ++ schemeMark ++ after ∧ ∀ earlier later,
        text = earlier ++ schemeMark ++ later → before.length ≤ earlier.length := by
  induction text with
  | nil => simp [afterScheme?, schemeMark]
  | cons c rest inductionHypothesis =>
      unfold afterScheme?
      cases stripped : Text.stripStart? schemeMark (c :: rest) with
      | some found =>
          have here := Text.stripStart?_eq_some_iff.1 stripped
          simp only [Option.some.injEq]
          constructor
          · rintro rfl
            exact ⟨[], here, fun _ _ _ => Nat.zero_le _⟩
          · rintro ⟨before, marked, first⟩
            have none : before = [] := List.length_eq_zero_iff.1 (Nat.le_zero.1 (first [] _ here))
            subst none
            exact List.append_cancel_left (here.symm.trans marked)
      | none =>
          have notHere (later : List Char) : c :: rest ≠ schemeMark ++ later := by
            intro here
            rw [Text.stripStart?_eq_some_iff.2 here] at stripped
            cases stripped
          simp only [inductionHypothesis]
          constructor
          · rintro ⟨before, rfl, first⟩
            refine ⟨c :: before, rfl, fun earlier later marked => ?_⟩
            cases earlier with
            | nil => exact absurd marked (notHere later)
            | cons d earlier =>
                have shorter := first earlier later (List.cons.inj marked).2
                simpa using shorter
          · rintro ⟨before, marked, first⟩
            cases before with
            | nil => exact absurd marked (notHere after)
            | cons d before =>
                obtain ⟨rfl, rest⟩ := List.cons.inj marked
                refine ⟨before, rest, fun earlier later marked => ?_⟩
                have shorter := first (c :: earlier) later (by rw [marked]; rfl)
                simpa using shorter

/-- In a text with a mark something follows the first one. -/
theorem isSome_afterScheme? (before after : List Char) :
    (afterScheme? (before ++ schemeMark ++ after)).isSome := by
  induction before with
  | nil => rfl
  | cons c before inductionHypothesis =>
      rw [List.cons_append, List.cons_append, afterScheme?]
      split
      · rfl
      · exact inductionHypothesis

/-- An address without its scheme is what stands behind the mark. -/
theorem withoutScheme_eq_iff {text rest : List Char} :
    withoutScheme text = rest ↔ Behind text rest := by
  rw [withoutScheme]
  constructor
  · rintro rfl
    cases found : afterScheme? text with
    | none =>
        refine .whole fun before after marked => ?_
        have some := isSome_afterScheme? before after
        rw [← marked, found] at some
        cases some
    | some after =>
        obtain ⟨before, marked, first⟩ := afterScheme?_eq_some_iff.1 found
        exact .mark marked first
  · rintro (⟨marked, first⟩ | unmarked)
    · rw [afterScheme?_eq_some_iff.2 ⟨_, marked, first⟩]
      rfl
    · cases found : afterScheme? text with
      | none => rfl
      | some after =>
          obtain ⟨before, marked, _⟩ := afterScheme?_eq_some_iff.1 found
          exact absurd marked (unmarked before after)

/-- No host has both ends. -/
theorem hostEnds_exclusive {first second : List Char}
    (same : first ++ ".amazonaws.com".toList = second ++ ".amazonaws.com.cn".toList) : False := by
  have last := congrArg List.getLast? same
  simp at last

/-- The end of a host is stripped from the texts that have one. -/
theorem findSome?_hostEnds_iff {host region : List Char} :
    hostEnds.findSome? (Text.stripEnd? · host) = some region ↔
      ∃ ending ∈ hostEnds, host = region ++ ending := by
  have either : hostEnds.findSome? (Text.stripEnd? · host) =
      (Text.stripEnd? ".amazonaws.com".toList host).or
        (Text.stripEnd? ".amazonaws.com.cn".toList host) := by
    simp only [hostEnds, List.findSome?_cons, List.findSome?_nil]
    cases Text.stripEnd? ".amazonaws.com".toList host <;>
      cases Text.stripEnd? ".amazonaws.com.cn".toList host <;> rfl
  rw [either, Option.or_eq_some_iff, Text.stripEnd?_eq_some_iff, Text.stripEnd?_eq_some_iff]
  simp only [hostEnds, List.mem_cons, List.not_mem_nil, or_false, exists_eq_or_imp,
    exists_eq_left]
  refine or_congr_right (and_iff_right_of_imp fun second => ?_)
  rw [Option.eq_none_iff_forall_ne_some]
  intro other first
  exact hostEnds_exclusive ((Text.stripEnd?_eq_some_iff.1 first).symm.trans second)

/-- A host does not end in a slash. -/
theorem getLast?_hostEnd {before ending : List Char} (isEnd : ending ∈ hostEnds) :
    ∀ last ∈ (before ++ ending).getLast?, (last == '/') = false := by
  intro last isLast
  rcases List.mem_cons.1 isEnd with rfl | isEnd
  · simp at isLast
    subst isLast
    rfl
  · rw [List.mem_singleton.1 isEnd] at isLast
    simp at isLast
    subst isLast
    rfl

/-- Without its slashes a text is a host if it is that host and slashes. -/
theorem withoutSlashes_eq_iff {text before ending : List Char} (isEnd : ending ∈ hostEnds) :
    withoutSlashes text = before ++ ending ↔
      ∃ slashes : Nat, text = before ++ ending ++ List.replicate slashes '/' := by
  rw [withoutSlashes]
  constructor
  · intro bare
    obtain ⟨tail, whole, slashes⟩ := Text.exists_eq_dropEndWhile_append (· == '/') text
    refine ⟨tail.length, ?_⟩
    rw [bare] at whole
    rw [whole, ← List.eq_replicate_of_mem fun c inside => beq_iff_eq.1 (slashes c inside)]
  · rintro ⟨slashes, rfl⟩
    refine Text.dropEndWhile_append (getLast?_hostEnd isEnd) fun c inside => ?_
    rw [List.eq_of_mem_replicate inside]
    rfl

/-- The region that an address names is read, and no other. -/
theorem region?_eq_some_iff {address region : String} :
    region? address = some region ↔ NamesRegion address region := by
  simp only [region?, Option.bind_eq_bind, Option.bind_eq_some_iff, Text.stripStart?_eq_some_iff,
    findSome?_hostEnds_iff]
  constructor
  · rintro ⟨rest, host, label, ⟨ending, isEnd, rfl⟩, read⟩
    split at read
    next => cases read
    next single =>
      cases read
      rw [← List.append_assoc] at host
      obtain ⟨slashes, text⟩ := (withoutSlashes_eq_iff isEnd).1 host
      simp only [Bool.or_eq_true, List.isEmpty_iff, List.contains_iff_mem, not_or] at single
      refine ⟨?_, by simpa using single.2, ending, isEnd, slashes, ?_⟩
      · simpa using single.1
      · rw [String.toList_ofList]
        exact withoutScheme_eq_iff.1 text
  · rintro ⟨nonempty, single, ending, isEnd, slashes, behind⟩
    have host := (withoutSlashes_eq_iff isEnd).2 ⟨slashes, withoutScheme_eq_iff.2 behind⟩
    refine ⟨region.toList ++ ending, by rw [host, List.append_assoc], region.toList,
      ⟨ending, isEnd, rfl⟩, ?_⟩
    have filled : region.toList ≠ [] := by simpa using nonempty
    simp [filled, single]

/-- An address is refused exactly if it names no region. -/
theorem readRegion_eq_error_iff {address : String} {failure : Failure} :
    readRegion address = .error failure ↔
      (∀ region, ¬ NamesRegion address region) ∧
        failure = .invalidAddress address "expected monitoring.<region>.amazonaws.com" := by
  rw [readRegion]
  cases found : region? address with
  | none =>
      have nameless : ∀ region, ¬ NamesRegion address region := by
        intro region names
        rw [region?_eq_some_iff.2 names] at found
        cases found
      simp [nameless, eq_comm]
  | some region =>
      have names := region?_eq_some_iff.1 found
      simp only [reduceCtorEq, false_iff, not_and]
      exact fun nameless => absurd names (nameless region)

end MetricProbe.CloudWatch
