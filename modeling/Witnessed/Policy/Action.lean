import Witnessed.Policy.Error

/-!
Actions that change a value in place and may fail. A failed action undoes nothing: the value is
left as the action had made it by then.
-/

namespace Witnessed

abbrev Action (σ α : Type) := EStateM PolicyError σ α

namespace Action

variable {σ τ α : Type}

/-- Fails when the condition is met. -/
def refuseIf (p : Prop) [Decidable p] (e : PolicyError) : Action σ Unit :=
  if p then throw e else pure ()

/-- Goes on with a result that was worked out aside. -/
def ofResult : Except PolicyError α → Action σ α
  | .ok a => pure a
  | .error e => throw e

/-- Acts on a part of the value. -/
def within (part : σ → τ) (put : σ → τ → σ) (action : Action τ α) : Action σ α := fun s =>
  match action.run (part s) with
  | .ok a t => .ok a (put s t)
  | .error e t => .error e (put s t)

end Action

end Witnessed
