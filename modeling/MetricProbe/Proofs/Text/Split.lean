import MetricProbe.Text.Split

/-!
# Cutting and joining

A separator that stands between two texts cuts them apart again, whatever they hold; a piece without
a separator stays whole. A cut at the first separator loses nothing but the separator.
-/

namespace MetricProbe.Text

variable {isSeparator : Char → Bool}

/-- There is always a piece. -/
theorem splitAll_ne_nil (text : List Char) : splitAll isSeparator text ≠ [] := by
  cases text with
  | nil => simp [splitAll]
  | cons c rest =>
      unfold splitAll
      split
      · simp
      · split <;> simp

/-- The pieces of a text behind a character that is no separator: the first piece is longer. -/
theorem splitAll_cons_of_not {c : Char} (inside : isSeparator c = false) (rest : List Char) :
    ∃ piece pieces, splitAll isSeparator rest = piece :: pieces ∧
      splitAll isSeparator (c :: rest) = (c :: piece) :: pieces := by
  have filled : splitAll isSeparator rest ≠ [] := splitAll_ne_nil rest
  obtain ⟨piece, pieces, cut⟩ := List.exists_cons_of_ne_nil filled
  exact ⟨piece, pieces, cut, by simp [splitAll, inside, cut]⟩

/-- Texts with a separator between them are cut apart. -/
theorem splitAll_append {separator : Char} (separates : isSeparator separator = true)
    (first second : List Char) :
    splitAll isSeparator (first ++ separator :: second) =
      splitAll isSeparator first ++ splitAll isSeparator second := by
  induction first with
  | nil => simp [splitAll, separates]
  | cons c first inductionHypothesis =>
      cases kind : isSeparator c with
      | true => simp [splitAll, kind, inductionHypothesis]
      | false =>
          obtain ⟨piece, pieces, cut, longer⟩ := splitAll_cons_of_not kind first
          rw [longer, List.cons_append, splitAll, kind, inductionHypothesis, cut]
          rfl

/-- A text without a separator is a single piece. -/
theorem splitAll_of_free {text : List Char} (free : ∀ c ∈ text, isSeparator c = false) :
    splitAll isSeparator text = [text] := by
  induction text with
  | nil => rfl
  | cons c rest inductionHypothesis =>
      have whole := inductionHypothesis fun d inside => free d (List.mem_cons_of_mem c inside)
      simp [splitAll, free c List.mem_cons_self, whole]

/-- A character that is no separator is in one of the pieces. -/
theorem exists_mem_splitAll {text : List Char} {c : Char} (inside : c ∈ text)
    (kept : isSeparator c = false) : ∃ piece ∈ splitAll isSeparator text, c ∈ piece := by
  induction text with
  | nil => cases inside
  | cons d text inductionHypothesis =>
      cases kind : isSeparator d with
      | true =>
          have different : c ≠ d := by
            rintro rfl
            exact absurd (kept.symm.trans kind) Bool.false_ne_true
          obtain ⟨piece, isPiece, inPiece⟩ :=
            inductionHypothesis (List.mem_of_ne_of_mem different inside)
          refine ⟨piece, ?_, inPiece⟩
          rw [splitAll, kind]
          exact List.mem_cons_of_mem [] isPiece
      | false =>
          obtain ⟨first, pieces, cut, longer⟩ := splitAll_cons_of_not kind text
          rw [longer]
          rcases List.mem_cons.1 inside with rfl | inside
          · exact ⟨c :: first, List.mem_cons_self, List.mem_cons_self⟩
          · obtain ⟨piece, isPiece, inPiece⟩ := inductionHypothesis inside
            rw [cut] at isPiece
            rcases List.mem_cons.1 isPiece with rfl | isPiece
            · exact ⟨d :: piece, List.mem_cons_self, List.mem_cons_of_mem d inPiece⟩
            · exact ⟨piece, List.mem_cons_of_mem _ isPiece, inPiece⟩

/-- No piece holds a separator. -/
theorem not_separator_of_mem_splitAll {text piece : List Char} {c : Char}
    (isPiece : piece ∈ splitAll isSeparator text) (inside : c ∈ piece) :
    isSeparator c = false := by
  induction text generalizing piece with
  | nil =>
      rw [splitAll, List.mem_singleton] at isPiece
      subst isPiece
      cases inside
  | cons d text inductionHypothesis =>
      cases kind : isSeparator d with
      | true =>
          simp only [splitAll, kind, if_true] at isPiece
          rcases List.mem_cons.1 isPiece with rfl | later
          · cases inside
          · exact inductionHypothesis later inside
      | false =>
          obtain ⟨first, pieces, cut, longer⟩ := splitAll_cons_of_not kind text
          rw [longer] at isPiece
          rw [cut] at inductionHypothesis
          rcases List.mem_cons.1 isPiece with rfl | later
          · rcases List.mem_cons.1 inside with rfl | within
            · exact kind
            · exact inductionHypothesis List.mem_cons_self within
          · exact inductionHypothesis (List.mem_cons_of_mem _ later) inside

/-- The pieces together are the text without its separators. -/
theorem flatten_splitAll (text : List Char) :
    (splitAll isSeparator text).flatten = text.filter (!isSeparator ·) := by
  induction text with
  | nil => rfl
  | cons c text inductionHypothesis =>
      cases kind : isSeparator c with
      | true => simp [splitAll, kind, inductionHypothesis]
      | false =>
          obtain ⟨piece, pieces, cut, longer⟩ := splitAll_cons_of_not kind text
          rw [cut] at inductionHypothesis
          simp [longer, kind, ← inductionHypothesis]

/-- Where a text is followed by another one, its last piece goes on with the first piece of that. -/
theorem splitAll_append_of_cuts {first second last head : List Char}
    {before after : List (List Char)} (cutFirst : splitAll isSeparator first = before ++ [last])
    (cutSecond : splitAll isSeparator second = head :: after) :
    splitAll isSeparator (first ++ second) = before ++ (last ++ head) :: after := by
  induction first generalizing before last with
  | nil =>
      cases before with
      | nil =>
          cases cutFirst
          exact cutSecond
      | cons => simp [splitAll] at cutFirst
  | cons c first inductionHypothesis =>
      cases kind : isSeparator c with
      | true =>
          simp only [splitAll, kind, if_true] at cutFirst
          cases before with
          | nil =>
              injection cutFirst with _ none
              exact absurd none (splitAll_ne_nil first)
          | cons piece before =>
              injection cutFirst with empty rest
              subst empty
              simp [splitAll, kind, inductionHypothesis rest]
      | false =>
          obtain ⟨piece, pieces, cut, longer⟩ := splitAll_cons_of_not kind first
          rw [longer] at cutFirst
          cases before with
          | nil =>
              injection cutFirst with same none
              subst same none
              simp [splitAll, kind, @inductionHypothesis piece [] cut]
          | cons earlier before =>
              injection cutFirst with same rest
              subst same rest
              simp [splitAll, kind, @inductionHypothesis last (piece :: before) cut]

/-- A text is cut behind a piece without a separator. -/
theorem splitFirst?_append {separator : Char} (separates : isSeparator separator = true)
    {piece : List Char} (free : ∀ c ∈ piece, isSeparator c = false) (rest : List Char) :
    splitFirst? isSeparator (piece ++ separator :: rest) = some (piece, rest) := by
  induction piece with
  | nil => simp [splitFirst?, separates]
  | cons c piece inductionHypothesis =>
      have cut := inductionHypothesis fun d inside => free d (List.mem_cons_of_mem c inside)
      simp [splitFirst?, free c List.mem_cons_self, cut]

/-- A text without a separator is not cut. -/
theorem splitFirst?_of_free {text : List Char} (free : ∀ c ∈ text, isSeparator c = false) :
    splitFirst? isSeparator text = none := by
  induction text with
  | nil => rfl
  | cons c rest inductionHypothesis =>
      have whole := inductionHypothesis fun d inside => free d (List.mem_cons_of_mem c inside)
      simp [splitFirst?, free c List.mem_cons_self, whole]

/-- Whatever was cut is put together by the separator. -/
theorem eq_append_of_splitFirst? {text before after : List Char}
    (cut : splitFirst? isSeparator text = some (before, after)) :
    ∃ separator, isSeparator separator = true ∧ text = before ++ separator :: after := by
  induction text generalizing before with
  | nil => cases cut
  | cons c rest inductionHypothesis =>
      unfold splitFirst? at cut
      split at cut
      next separates =>
        cases cut
        exact ⟨c, separates, rfl⟩
      next inside =>
        obtain ⟨⟨piece, tail⟩, cutRest, same⟩ := Option.map_eq_some_iff.1 cut
        cases same
        obtain ⟨separator, separates, rfl⟩ := inductionHypothesis cutRest
        exact ⟨separator, separates, rfl⟩

/-- What stands before the first separator holds none. -/
theorem free_of_splitFirst? {text before after : List Char}
    (cut : splitFirst? isSeparator text = some (before, after)) :
    ∀ c ∈ before, isSeparator c = false := by
  induction text generalizing before with
  | nil => cases cut
  | cons c rest inductionHypothesis =>
      unfold splitFirst? at cut
      split at cut
      next =>
        cases cut
        exact List.forall_mem_nil _
      next inside =>
        obtain ⟨⟨piece, tail⟩, cutRest, same⟩ := Option.map_eq_some_iff.1 cut
        cases same
        exact List.forall_mem_cons.2 ⟨Bool.not_eq_true _ ▸ inside, inductionHypothesis cutRest⟩

/-- Whatever was cut at the last separator is put together by it. -/
theorem eq_append_of_splitLast? {text before after : List Char}
    (cut : splitLast? isSeparator text = some (before, after)) :
    ∃ separator, isSeparator separator = true ∧ text = before ++ separator :: after := by
  induction text generalizing before with
  | nil => cases cut
  | cons c rest inductionHypothesis =>
      unfold splitLast? at cut
      cases later : splitLast? isSeparator rest with
      | some parts =>
          obtain ⟨piece, tail⟩ := parts
          rw [later] at cut
          cases cut
          obtain ⟨separator, separates, rfl⟩ := inductionHypothesis later
          exact ⟨separator, separates, rfl⟩
      | none =>
          rw [later] at cut
          dsimp only at cut
          split at cut
          next separates =>
            cases cut
            exact ⟨c, separates, rfl⟩
          next => cases cut

end MetricProbe.Text
