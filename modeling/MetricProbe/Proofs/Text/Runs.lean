import Mathlib.Data.List.TakeWhile

/-!
# Runs of characters

A run of characters of one kind ends where a character of another kind stands, so what is put
together from a run and such a rest is taken apart again at the same place.
-/

namespace MetricProbe.Text

variable {p : Char → Bool} {run rest : List Char}

/-- A run of characters of one kind is taken whole when the next character is of another kind. -/
theorem takeWhile_run (all : ∀ c ∈ run, p c = true) (stops : ∀ c ∈ rest.head?, p c = false) :
    (run ++ rest).takeWhile p = run := by
  rw [List.takeWhile_append_of_pos all]
  cases rest with
  | nil => simp
  | cons c rest => simp [stops c rfl]

/-- What follows a run of characters of one kind is left when its first character is of another
kind. -/
theorem dropWhile_run (all : ∀ c ∈ run, p c = true) (stops : ∀ c ∈ rest.head?, p c = false) :
    (run ++ rest).dropWhile p = rest := by
  rw [List.dropWhile_append_of_pos all]
  cases rest with
  | nil => rfl
  | cons c rest => simp [stops c rfl]

/-- What is left of a text without its first run begins with a character of another kind. -/
theorem head_dropWhile (text : List Char) : ∀ c ∈ (text.dropWhile p).head?, p c = false := by
  intro c first
  have := List.head?_dropWhile_not p text
  rw [Option.mem_def.1 first] at this
  simpa using this

end MetricProbe.Text
