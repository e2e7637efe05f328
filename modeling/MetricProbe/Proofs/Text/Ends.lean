import Mathlib.Data.List.TakeWhile
import MetricProbe.Text.Blank
import MetricProbe.Text.Split

/-!
# The ends of texts

What is stripped from the beginning or the end of a text is what stood there. A tail that is dropped
is as long as it can be, so it is known from what stands before it.
-/

namespace MetricProbe.Text

/-- A beginning is stripped exactly from the texts that begin with it. -/
theorem stripStart?_eq_some_iff {beginning text rest : List Char} :
    stripStart? beginning text = some rest ↔ text = beginning ++ rest := by
  induction beginning generalizing text with
  | nil => rw [stripStart?, Option.some.injEq, List.nil_append]
  | cons c beginning inductionHypothesis =>
      cases text with
      | nil => simp [stripStart?]
      | cons d text =>
          rw [stripStart?, List.cons_append, List.cons.injEq]
          by_cases same : c = d
          · subst same
            simp [inductionHypothesis]
          · simp [same, Ne.symm same]

/-- An ending is stripped exactly from the texts that end with it. -/
theorem stripEnd?_eq_some_iff {ending text rest : List Char} :
    stripEnd? ending text = some rest ↔ text = rest ++ ending := by
  rw [stripEnd?, Option.map_eq_some_iff]
  simp only [stripStart?_eq_some_iff]
  constructor
  · rintro ⟨before, reversed, rfl⟩
    rw [← List.reverse_reverse text, reversed, List.reverse_append, List.reverse_reverse]
  · rintro rfl
    exact ⟨rest.reverse, List.reverse_append, List.reverse_reverse rest⟩

section

variable {α : Type} {test : α → Bool}

/-- What is dropped from the end satisfies the test. -/
theorem exists_eq_dropEndWhile_append (test : α → Bool) (items : List α) :
    ∃ tail, items = dropEndWhile test items ++ tail ∧ ∀ item ∈ tail, test item = true := by
  refine ⟨(items.reverse.takeWhile test).reverse, ?_, fun item dropped => ?_⟩
  · rw [dropEndWhile, ← List.reverse_append, List.takeWhile_append_dropWhile,
      List.reverse_reverse]
  · exact List.mem_takeWhile_imp (List.mem_reverse.1 dropped)

/-- A tail that satisfies the test is dropped, up to an item that does not. -/
theorem dropEndWhile_append {kept tail : List α}
    (stays : ∀ last ∈ kept.getLast?, test last = false) (drops : ∀ item ∈ tail, test item = true) :
    dropEndWhile test (kept ++ tail) = kept := by
  have all : tail.reverse.dropWhile test = [] :=
    List.dropWhile_eq_nil_iff.2 fun item inside => drops item (List.mem_reverse.1 inside)
  have none : kept.reverse.dropWhile test = kept.reverse := by
    cases reversed : kept.reverse with
    | nil => rfl
    | cons last before =>
        have last := stays last (by rw [← List.head?_reverse, reversed]; rfl)
        rw [List.dropWhile_cons, last]
        rfl
  rw [dropEndWhile, List.reverse_append, List.dropWhile_append, all, none]
  simp

/-- Where there is nothing to drop, nothing is dropped. -/
theorem dropEndWhile_of_stays {items : List α}
    (stays : ∀ last ∈ items.getLast?, test last = false) : dropEndWhile test items = items := by
  have kept := dropEndWhile_append stays (List.forall_mem_nil _)
  rwa [List.append_nil] at kept

/-- What is left does not end in an item that satisfies the test. -/
theorem getLast?_dropEndWhile (items : List α) :
    ∀ last ∈ (dropEndWhile test items).getLast?, test last = false := by
  intro last isLast
  rw [dropEndWhile, List.getLast?_reverse] at isLast
  have first := List.head?_dropWhile_not test items.reverse
  rw [Option.mem_def.1 isLast] at first
  simpa using first

/-- Nothing is left to drop a second time. -/
theorem dropEndWhile_dropEndWhile (items : List α) :
    dropEndWhile test (dropEndWhile test items) = dropEndWhile test items :=
  dropEndWhile_of_stays (getLast?_dropEndWhile items)

/-- A tail that satisfies the test does not matter. -/
theorem dropEndWhile_append_of_all (items : List α) {tail : List α}
    (drops : ∀ item ∈ tail, test item = true) :
    dropEndWhile test (items ++ tail) = dropEndWhile test items := by
  obtain ⟨dropped, whole, dropsToo⟩ := exists_eq_dropEndWhile_append test items
  have same : items ++ tail = dropEndWhile test items ++ (dropped ++ tail) := by
    rw [← List.append_assoc, ← whole]
  rw [same]
  refine dropEndWhile_append (getLast?_dropEndWhile items) fun item inside => ?_
  rcases List.mem_append.1 inside with early | late
  · exact dropsToo item early
  · exact drops item late

/-- An item that stays keeps everything before it. -/
theorem dropEndWhile_append_of_mem (items : List α) {tail : List α} {item : α}
    (inside : item ∈ tail) (stays : test item = false) :
    dropEndWhile test (items ++ tail) = items ++ dropEndWhile test tail := by
  rw [dropEndWhile, dropEndWhile, List.reverse_append, List.dropWhile_append, if_neg]
  · rw [List.reverse_append, List.reverse_reverse]
  · intro empty
    have dropped := List.dropWhile_eq_nil_iff.1 (List.isEmpty_iff.1 empty) item
      (List.mem_reverse.2 inside)
    rw [stays] at dropped
    cases dropped

end

end MetricProbe.Text
