import MetricProbe.Proofs.Text.Ends

/-!
# Trimmed texts

Trimming takes blanks off both ends and nothing else. A text between blanks that has none at its own
ends is what is left, so it is known from any way to write the whole text like that.
-/

namespace MetricProbe.Text

/-- A text has no blank at either end. -/
structure Trimmed (text : List Char) : Prop where
  first : ∀ c ∈ text.head?, isBlank c = false
  last : ∀ c ∈ text.getLast?, isBlank c = false

/-- The characters of a text that are no blanks. -/
def solid (text : List Char) : List Char := text.filter (!isBlank ·)

variable {text blanks : List Char}

/-- Blanks have no solid characters. -/
theorem solid_eq_nil_iff : solid text = [] ↔ ∀ c ∈ text, isBlank c = true := by
  simp [solid]

/-- The solid characters of a text are those of its parts. -/
@[simp] theorem solid_append (first second : List Char) :
    solid (first ++ second) = solid first ++ solid second :=
  List.filter_append ..

/-- What is trimmed off a text are blanks at its ends. -/
theorem exists_eq_append_trim (text : List Char) :
    ∃ front back, text = front ++ (trim text ++ back) ∧ (∀ c ∈ front, isBlank c = true) ∧
      ∀ c ∈ back, isBlank c = true := by
  obtain ⟨back, dropped, blank⟩ :=
    exists_eq_dropEndWhile_append isBlank (text.dropWhile isBlank)
  refine ⟨text.takeWhile isBlank, back, ?_, fun c inside => List.mem_takeWhile_imp inside, blank⟩
  rw [trim, ← dropped, List.takeWhile_append_dropWhile]

/-- There is no blank at either end of a trimmed text. -/
theorem trimmed_trim (text : List Char) : Trimmed (trim text) := by
  constructor
  · intro c first
    obtain ⟨back, dropped, _⟩ := exists_eq_dropEndWhile_append isBlank (text.dropWhile isBlank)
    obtain ⟨rest, starts⟩ := List.head?_eq_some_iff.1 first
    have head := List.head?_dropWhile_not isBlank text
    rw [dropped, ← trim, starts, List.cons_append, List.head?_cons] at head
    simpa using head
  · exact getLast?_dropEndWhile _

/-- A text without blanks at its ends is what is left of it between blanks. -/
theorem trim_append {front back : List Char} (trimmed : Trimmed text)
    (frontBlank : ∀ c ∈ front, isBlank c = true) (backBlank : ∀ c ∈ back, isBlank c = true) :
    trim (front ++ (text ++ back)) = text := by
  rw [trim, List.dropWhile_append_of_pos frontBlank]
  cases text with
  | nil =>
      rw [List.nil_append, List.dropWhile_eq_nil_iff.2 backBlank]
      rfl
  | cons c text =>
      rw [List.cons_append, List.dropWhile_cons_of_neg (by simp [trimmed.first c rfl])]
      exact dropEndWhile_append trimmed.last backBlank

/-- Nothing is trimmed off a text without blanks at its ends. -/
theorem trim_of_trimmed (trimmed : Trimmed text) : trim text = text := by
  have whole := trim_append trimmed (List.forall_mem_nil _) (List.forall_mem_nil _)
  rwa [List.nil_append, List.append_nil] at whole

/-- Blanks before a text do not matter. -/
theorem trim_blanks_append (text : List Char) (blank : ∀ c ∈ blanks, isBlank c = true) :
    trim (blanks ++ text) = trim text := by
  obtain ⟨front, back, whole, frontBlank, backBlank⟩ := exists_eq_append_trim text
  have longer : ∀ c ∈ blanks ++ front, isBlank c = true := fun c inside =>
    (List.mem_append.1 inside).elim (blank c) (frontBlank c)
  calc trim (blanks ++ text)
    _ = trim ((blanks ++ front) ++ (trim text ++ back)) := by rw [List.append_assoc, ← whole]
    _ = trim text := trim_append (trimmed_trim text) longer backBlank

/-- Blanks behind a text do not matter. -/
theorem trim_append_blanks (text : List Char) (blank : ∀ c ∈ blanks, isBlank c = true) :
    trim (text ++ blanks) = trim text := by
  obtain ⟨front, back, whole, frontBlank, backBlank⟩ := exists_eq_append_trim text
  have longer : ∀ c ∈ back ++ blanks, isBlank c = true := fun c inside =>
    (List.mem_append.1 inside).elim (backBlank c) (blank c)
  calc trim (text ++ blanks)
    _ = trim (front ++ (trim text ++ (back ++ blanks))) := by
        rw [← List.append_assoc (trim text), ← List.append_assoc, ← whole]
    _ = trim text := trim_append (trimmed_trim text) frontBlank longer

/-- Trimming keeps the solid characters. -/
@[simp] theorem solid_trim (text : List Char) : solid (trim text) = solid text := by
  obtain ⟨front, back, whole, frontBlank, backBlank⟩ := exists_eq_append_trim text
  calc solid (trim text)
    _ = solid front ++ (solid (trim text) ++ solid back) := by
        rw [solid_eq_nil_iff.2 frontBlank, solid_eq_nil_iff.2 backBlank, List.nil_append,
          List.append_nil]
    _ = solid text := by rw [← solid_append, ← solid_append, ← whole]

/-- Nothing is left of blanks, and of nothing else. -/
theorem trim_eq_nil_iff : trim text = [] ↔ ∀ c ∈ text, isBlank c = true := by
  constructor
  · intro empty
    rw [← solid_eq_nil_iff, ← solid_trim, empty]
    rfl
  · intro blank
    have none := trim_blanks_append [] blank
    rwa [List.append_nil] at none

/-- A text without blanks at its ends has something else, unless it is empty. -/
theorem Trimmed.eq_nil (trimmed : Trimmed text) (blank : ∀ c ∈ text, isBlank c = true) :
    text = [] := by
  rw [← trim_of_trimmed trimmed]
  exact trim_eq_nil_iff.2 blank

/-- Nothing is trimmed off the solid characters that a text begins with. -/
theorem exists_trim_solid_append {front : List Char} (filled : front ≠ [])
    (frontSolid : ∀ c ∈ front, isBlank c = false) (text : List Char) :
    ∃ kept, trim (front ++ text) = front ++ kept ∧ trim kept = trim text := by
  obtain ⟨back, whole, backBlank⟩ := exists_eq_dropEndWhile_append isBlank text
  have trimmed : Trimmed (front ++ dropEndWhile isBlank text) := by
    constructor
    · intro c first
      rw [List.head?_append, Option.mem_def, Option.or_eq_some_iff] at first
      rcases first with inFront | ⟨none, _⟩
      · exact frontSolid c (List.mem_of_head? inFront)
      · exact absurd (List.head?_eq_none_iff.1 none) filled
    · intro c last
      rw [List.getLast?_append, Option.mem_def, Option.or_eq_some_iff] at last
      rcases last with inText | ⟨_, inFront⟩
      · exact getLast?_dropEndWhile text c inText
      · exact frontSolid c (List.mem_of_getLast? inFront)
  refine ⟨dropEndWhile isBlank text, ?_, ?_⟩
  · calc trim (front ++ text)
      _ = trim ((front ++ dropEndWhile isBlank text) ++ back) := by rw [List.append_assoc, ← whole]
      _ = trim (front ++ dropEndWhile isBlank text) := trim_append_blanks _ backBlank
      _ = front ++ dropEndWhile isBlank text := trim_of_trimmed trimmed
  · calc trim (dropEndWhile isBlank text)
      _ = trim (dropEndWhile isBlank text ++ back) := (trim_append_blanks _ backBlank).symm
      _ = trim text := by rw [← whole]

/-- What is left of a text was in it. -/
theorem mem_of_mem_trim {c : Char} (inside : c ∈ trim text) : c ∈ text := by
  obtain ⟨front, back, whole, _⟩ := exists_eq_append_trim text
  rw [whole]
  exact List.mem_append_right _ (List.mem_append_left _ inside)

end MetricProbe.Text
