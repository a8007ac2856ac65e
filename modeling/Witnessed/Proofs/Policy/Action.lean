import Witnessed.Policy.Action

/-!
Actions in place: what a chain gives when it succeeds, which chains leave the value alone when they
fail, and which errors they fail with. Nothing is undone, so what comes before a failure must not
have changed anything: the checks stand first, and after the first change nothing fails any more.
-/

namespace Witnessed.Action

variable {σ τ α β : Type}

theorem run_throw (e : PolicyError) (s : σ) : (throw e : Action σ α).run s = .error e s := rfl

theorem run_within (part : σ → τ) (put : σ → τ → σ) (x : Action τ α) (s : σ) :
    (within part put x).run s = match x.run (part s) with
      | .ok a t => .ok a (put s t)
      | .error e t => .error e (put s t) := rfl

/-! ## Success -/

theorem run_bind_ok_iff {x : Action σ α} {f : α → Action σ β} {b : β} {s s' : σ} :
    (x >>= f).run s = .ok b s' ↔ ∃ a t, x.run s = .ok a t ∧ (f a).run t = .ok b s' := by
  rw [EStateM.run_bind]
  cases x.run s <;> simp [and_assoc]

theorem run_pure_ok_iff {a b : α} {s s' : σ} :
    (pure a : Action σ α).run s = .ok b s' ↔ a = b ∧ s' = s := by
  simp [eq_comm]

theorem run_get_ok_iff {a s s' : σ} : (get : Action σ σ).run s = .ok a s' ↔ a = s ∧ s' = s := by
  simp [eq_comm]

theorem run_set_ok_iff {t s s' : σ} {u : Unit} :
    (set t : Action σ Unit).run s = .ok u s' ↔ s' = t := by
  simp [eq_comm]

theorem run_modify_ok_iff {f : σ → σ} {s s' : σ} {u : Unit} :
    (modify f : Action σ Unit).run s = .ok u s' ↔ s' = f s := by
  simp [eq_comm]

theorem run_refuseIf_ok_iff {p : Prop} [Decidable p] {e : PolicyError} {u : Unit} {s s' : σ} :
    (refuseIf p e : Action σ Unit).run s = .ok u s' ↔ ¬p ∧ s' = s := by
  by_cases h : p
  · rw [refuseIf, if_pos h, run_throw]
    simp [h]
  · simp [refuseIf, h, eq_comm]

theorem run_ofResult_ok_iff {x : Except PolicyError α} {a : α} {s s' : σ} :
    (ofResult x : Action σ α).run s = .ok a s' ↔ x = .ok a ∧ s' = s := by
  cases x with
  | ok b => simp [ofResult, eq_comm]
  | error e =>
      rw [ofResult, run_throw]
      simp

theorem run_within_ok_iff {part : σ → τ} {put : σ → τ → σ} {x : Action τ α} {a : α} {s s' : σ} :
    (within part put x).run s = .ok a s' ↔ ∃ t, x.run (part s) = .ok a t ∧ s' = put s t := by
  rw [run_within]
  cases x.run (part s) <;> simp [and_assoc, eq_comm]

/-! ## Failure -/

theorem run_bind_error_iff {x : Action σ α} {f : α → Action σ β} {e : PolicyError} {s s' : σ} :
    (x >>= f).run s = .error e s' ↔ x.run s = .error e s' ∨
      ∃ a t, x.run s = .ok a t ∧ (f a).run t = .error e s' := by
  rw [EStateM.run_bind]
  cases x.run s <;> simp [and_assoc]

/-- The action changes nothing, whether it succeeds or fails. -/
structure ReadOnly (x : Action σ α) : Prop where
  ok : ∀ s a s', x.run s = .ok a s' → s' = s
  error : ∀ s e s', x.run s = .error e s' → s' = s

/-- The action never fails. -/
def Total (x : Action σ α) : Prop :=
  ∀ s e s', x.run s ≠ .error e s'

/-- The action changes nothing when it fails. -/
def Atomic (x : Action σ α) : Prop :=
  ∀ s e s', x.run s = .error e s' → s' = s

theorem Total.atomic {x : Action σ α} (total : Total x) : Atomic x :=
  fun s e s' failed => absurd failed (total s e s')

/-- A check may stand before anything that is atomic. -/
theorem ReadOnly.atomic_bind {x : Action σ α} {f : α → Action σ β} (check : ReadOnly x)
    (rest : ∀ a, Atomic (f a)) : Atomic (x >>= f) := by
  intro s e s' failed
  rcases run_bind_error_iff.1 failed with stopped | ⟨a, t, passed, later⟩
  · exact check.error s e s' stopped
  · have same := check.ok s a t passed
    rw [← same]
    exact rest a t e s' later

/-- A change may stand before anything that never fails. -/
theorem Atomic.bind_total {x : Action σ α} {f : α → Action σ β} (change : Atomic x)
    (rest : ∀ a, Total (f a)) : Atomic (x >>= f) := by
  intro s e s' failed
  rcases run_bind_error_iff.1 failed with stopped | ⟨a, t, _, later⟩
  · exact change s e s' stopped
  · exact absurd later (rest a t e s')

theorem Total.bind {x : Action σ α} {f : α → Action σ β} (first : Total x)
    (rest : ∀ a, Total (f a)) : Total (x >>= f) := by
  intro s e s' failed
  rcases run_bind_error_iff.1 failed with stopped | ⟨a, t, _, later⟩
  · exact first s e s' stopped
  · exact rest a t e s' later

/-- Acting on a part is atomic when putting back what was there changes nothing. -/
theorem Atomic.within {part : σ → τ} {put : σ → τ → σ} {x : Action τ α} (atomic : Atomic x)
    (kept : ∀ s, put s (part s) = s) : Atomic (within part put x) := by
  intro s e s' failed
  rw [run_within] at failed
  cases inner : x.run (part s) with
  | ok a t => simp [inner] at failed
  | error e' t =>
      simp only [inner, EStateM.Result.error.injEq] at failed
      rw [← failed.2, atomic _ _ _ inner, kept]

theorem total_pure (a : α) : Total (pure a : Action σ α) := by
  simp [Total]

theorem total_set (s : σ) : Total (set s : Action σ Unit) := by
  simp [Total]

theorem total_modify (f : σ → σ) : Total (modify f : Action σ Unit) := by
  simp [Total]

theorem total_get : Total (get : Action σ σ) := by
  simp [Total]

theorem readOnly_get : ReadOnly (get : Action σ σ) :=
  ⟨by simp [eq_comm], by simp⟩

theorem atomic_throw (e : PolicyError) : Atomic (throw e : Action σ α) := by
  intro s e' s' failed
  cases failed
  rfl

theorem readOnly_refuseIf (p : Prop) [Decidable p] (e : PolicyError) :
    ReadOnly (refuseIf p e : Action σ Unit) := by
  refine ⟨fun s u s' passed => (run_refuseIf_ok_iff.1 passed).2, fun s e' s' failed => ?_⟩
  by_cases h : p
  · rw [refuseIf, if_pos h] at failed
    exact atomic_throw e s e' s' failed
  · rw [refuseIf, if_neg h] at failed
    exact absurd failed (total_pure () s e' s')

theorem readOnly_ofResult (x : Except PolicyError α) : ReadOnly (ofResult x : Action σ α) := by
  refine ⟨fun s a s' passed => (run_ofResult_ok_iff.1 passed).2, fun s e' s' failed => ?_⟩
  cases x with
  | ok a => exact absurd failed (total_pure a s e' s')
  | error e => exact atomic_throw e s e' s' failed

/-! ## Errors -/

variable {p : PolicyError → Prop}

/-- The action fails with errors of one kind only. -/
def Raises (p : PolicyError → Prop) (x : Action σ α) : Prop :=
  ∀ s e s', x.run s = .error e s' → p e

theorem Total.raises {x : Action σ α} (total : Total x) : Raises p x :=
  fun s e s' failed => absurd failed (total s e s')

theorem Raises.bind {x : Action σ α} {f : α → Action σ β} (first : Raises p x)
    (rest : ∀ a, Raises p (f a)) : Raises p (x >>= f) := by
  intro s e s' failed
  rcases run_bind_error_iff.1 failed with stopped | ⟨a, t, _, later⟩
  · exact first s e s' stopped
  · exact rest a t e s' later

theorem Raises.within {part : σ → τ} {put : σ → τ → σ} {x : Action τ α} (raises : Raises p x) :
    Raises p (within part put x) := by
  intro s e s' failed
  rw [run_within] at failed
  cases inner : x.run (part s) with
  | ok a t => simp [inner] at failed
  | error e' t =>
      simp only [inner, EStateM.Result.error.injEq] at failed
      exact failed.1 ▸ raises _ _ _ inner

theorem raises_throw {e : PolicyError} (kind : p e) : Raises p (throw e : Action σ α) := by
  intro s e' s' failed
  cases failed
  exact kind

theorem raises_refuseIf (q : Prop) [Decidable q] {e : PolicyError} (kind : p e) :
    Raises p (refuseIf q e : Action σ Unit) := by
  by_cases h : q
  · rw [refuseIf, if_pos h]
    exact raises_throw kind
  · rw [refuseIf, if_neg h]
    exact (total_pure ()).raises

theorem raises_ofResult {x : Except PolicyError α} (kind : ∀ e, x = .error e → p e) :
    Raises p (ofResult x : Action σ α) := by
  cases x with
  | ok a => exact (total_pure a).raises
  | error e => exact raises_throw (kind e rfl)

end Witnessed.Action
