import MetricProbe.Failure

/-!
# Attempts

Asking a backend is an attempt: it sends messages and ends in an outcome. Attempts follow one
another up to the first that fails, and what was sent stays sent, also when a later step fails.
-/

namespace MetricProbe

/-- The messages that were sent, in the order of sending, and what came of it. -/
structure Attempt (μ α : Type) where
  sent : List μ
  outcome : Outcome α

namespace Attempt

variable {μ α β : Type}

/-- An attempt that sends nothing. -/
def ofOutcome (outcome : Outcome α) : Attempt μ α := ⟨[], outcome⟩

/-- An attempt, and another one that depends on the value of the first. -/
def andThen (first : Attempt μ α) (next : α → Attempt μ β) : Attempt μ β :=
  match first.outcome with
  | .ok value => ⟨first.sent ++ (next value).sent, (next value).outcome⟩
  | .error failure => ⟨first.sent, .error failure⟩

instance : Monad (Attempt μ) where
  pure value := ofOutcome (.ok value)
  bind := andThen

instance : MonadLift Outcome (Attempt μ) where
  monadLift := ofOutcome

/-- An outcome by itself is the outcome of an attempt. -/
@[simp] theorem outcome_lift (outcome : Outcome α) : (liftM outcome : Attempt μ α).outcome = outcome :=
  rfl

/-- An outcome by itself sends nothing. -/
@[simp] theorem sent_lift (outcome : Outcome α) : (liftM outcome : Attempt μ α).sent = [] := rfl

/-- The outcome of two attempts is that of the second, if it comes to it. -/
@[simp] theorem outcome_bind (first : Attempt μ α) (next : α → Attempt μ β) :
    (first >>= next).outcome = first.outcome.bind fun value => (next value).outcome := by
  change (andThen first next).outcome = _
  unfold andThen
  cases first.outcome <;> rfl

/-- What two attempts send, if a failure of the first leaves nothing to send. -/
theorem sent_bind (first : Attempt μ α) (next : α → Attempt μ β) :
    (first >>= next).sent =
      first.sent ++ first.outcome.toOption.elim [] fun value => (next value).sent := by
  change (andThen first next).sent = _
  unfold andThen
  cases first.outcome <;> simp [Except.toOption]

/-- Nothing is sent after an attempt when no value of it leads to sending. -/
theorem sent_bind_of_silent (first : Attempt μ α) (next : α → Attempt μ β)
    (silent : ∀ value, (next value).sent = []) : (first >>= next).sent = first.sent := by
  rw [sent_bind]
  cases first.outcome <;> simp [Except.toOption, silent]

end Attempt

end MetricProbe
