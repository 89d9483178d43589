import Sift.Event

/-!
# Sift.Proofs.Reported

When computations go through, with and without events: the events play no part in it.
-/

namespace Sift

/-- A computation goes through when both of its parts do. -/
theorem except_bind_eq_ok_iff {ε α β : Type} {x : Except ε α} {next : α → Except ε β} {b : β} :
    (x >>= next) = .ok b ↔ ∃ a, x = .ok a ∧ next a = .ok b := by
  cases x <;> simp [bind, Except.bind]

/-- A computation fails when its first part does, or the second where the first goes through. -/
theorem except_bind_eq_error_iff {ε α β : Type} {x : Except ε α} {next : α → Except ε β} {e : ε} :
    (x >>= next) = .error e ↔ x = .error e ∨ ∃ a, x = .ok a ∧ next a = .error e := by
  cases x <;> simp [bind, Except.bind]

/-- A computation goes through whichever way its errors are reported. -/
theorem except_mapError_eq_ok_iff {ε ε' α : Type} {f : ε → ε'} {x : Except ε α} {a : α} :
    x.mapError f = .ok a ↔ x = .ok a := by
  cases x with
  | error e => exact ⟨nofun, nofun⟩
  | ok b =>
      show Except.ok b = Except.ok a ↔ _
      rw [Except.ok.injEq, Except.ok.injEq]

namespace Reported

variable {ε α β : Type}

/-- So does one that reports events. -/
theorem outcome_bind_eq_ok_iff {x : Reported ε α} {next : α → Reported ε β} {b : β} :
    (x >>= next).outcome = .ok b ↔ ∃ a, x.outcome = .ok a ∧ (next a).outcome = .ok b := by
  obtain ⟨events, outcome⟩ := x
  cases outcome <;> simp [bind, andThen]

/-- The outcome of a computation in two parts. -/
theorem outcome_bind (x : Reported ε α) (next : α → Reported ε β) :
    (x >>= next).outcome = (x.outcome >>= fun a => (next a).outcome) := by
  obtain ⟨events, outcome⟩ := x
  cases outcome <;> rfl

/-- What follows a computation that went through is reported behind it. -/
theorem bind_of_ok {x : Reported ε α} {a : α} (h : x.outcome = .ok a) (next : α → Reported ε β) :
    (x >>= next) = ⟨x.events ++ (next a).events, (next a).outcome⟩ := by
  simp only [bind, andThen, h]

/-- Nothing follows a computation that failed. -/
theorem bind_of_error {x : Reported ε α} {e : ε} (h : x.outcome = .error e)
    (next : α → Reported ε β) : (x >>= next) = ⟨x.events, .error e⟩ := by
  simp only [bind, andThen, h]

@[simp] theorem outcome_pure (a : α) : (pure a : Reported ε α).outcome = .ok a := rfl

@[simp] theorem events_pure (a : α) : (pure a : Reported ε α).events = [] := rfl

@[simp] theorem outcome_ofExcept (r : Except ε α) : (ofExcept r).outcome = r := rfl

@[simp] theorem outcome_report (e : Event) : (report e : Reported ε Unit).outcome = .ok () := rfl

end Reported

end Sift
