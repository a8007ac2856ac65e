/-!
Chains of actions that may fail: a chain gives a result when each of its actions does, and fails
with the first action that fails.
-/

namespace Witnessed

variable {ε α β : Type}

theorem bind_ok_iff {x : Except ε α} {f : α → Except ε β} {b : β} :
    (x >>= f) = .ok b ↔ ∃ a, x = .ok a ∧ f a = .ok b := by
  cases x <;> simp [bind, Except.bind]

theorem bind_error_iff {x : Except ε α} {f : α → Except ε β} {e : ε} :
    (x >>= f) = .error e ↔ x = .error e ∨ ∃ a, x = .ok a ∧ f a = .error e := by
  cases x <;> simp [bind, Except.bind]

theorem pure_ok_iff {a b : α} : (pure a : Except ε α) = .ok b ↔ a = b := by
  simp [pure, Except.pure]

/-- A check at the head of a chain. -/
theorem check_ok_iff {p : Prop} [Decidable p] {e : ε} {stop : α → Except ε β} {x : Except ε β}
    {b : β} : (if p then Except.error e >>= stop else x) = .ok b ↔ ¬p ∧ x = .ok b := by
  by_cases h : p <;> simp [h, bind, Except.bind]

/-- An action on each element of a list gives a result when it does so on each alone. -/
theorem mapM_eq_ok {f : α → Except ε β} {g : α → β} {as : List α}
    (each : ∀ a ∈ as, f a = .ok (g a)) : as.mapM f = .ok (as.map g) := by
  induction as with
  | nil => rfl
  | cons a rest ih =>
      obtain ⟨first, later⟩ := List.forall_mem_cons.1 each
      rw [List.mapM_cons, first, ih later]
      rfl

end Witnessed
