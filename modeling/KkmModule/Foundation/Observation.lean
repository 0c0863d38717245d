import Mathlib.Data.List.Basic

/-!
# States that no run tells apart

A step function with an output at each step.  Two states are indistinct if the
outputs along every run from them are the same.  A relation that equal outputs
respect and steps keep is a bisimulation; related states are indistinct, which
is how indistinctness is proved.  It is refuted by a run to a state in which one
output differs.
-/

namespace KkmModule
namespace Foundation

universe u v w

section Observation

variable {σ : Type u} {ε : Type v} {ω : Type w}
variable (step : σ → ε → σ) (out : σ → ε → ω)

/-- The outputs along a run. -/
def outputs (s : σ) : List ε → List ω
  | [] => []
  | e :: es => out s e :: outputs (step s e) es

/-- No run shows a difference. -/
def Indistinct (s s' : σ) : Prop :=
  ∀ es, outputs step out s es = outputs step out s' es

/-- A relation on states that no step leaves and no output shows. -/
structure IsBisimulation (R : σ → σ → Prop) : Prop where
  out_eq : ∀ {s s'}, R s s' → ∀ e, out s e = out s' e
  next : ∀ {s s'}, R s s' → ∀ e, R (step s e) (step s' e)

variable {step out}

theorem Indistinct.refl (s : σ) : Indistinct step out s s := fun _ => rfl

theorem Indistinct.trans
    {s s' s'' : σ} (h : Indistinct step out s s') (h' : Indistinct step out s' s'') :
    Indistinct step out s s'' :=
  fun es => (h es).trans (h' es)

theorem Indistinct.out_eq
    {s s' : σ} (h : Indistinct step out s s') (e : ε) : out s e = out s' e := by
  have hone := h [e]
  simpa [outputs] using hone

theorem Indistinct.next
    {s s' : σ} (h : Indistinct step out s s') (e : ε) :
    Indistinct step out (step s e) (step s' e) := by
  intro es
  have hcons := h (e :: es)
  simp only [outputs, List.cons.injEq] at hcons
  exact hcons.2

/-- Indistinct states are indistinct after every run. -/
theorem Indistinct.run
    {s s' : σ} (h : Indistinct step out s s') (es : List ε) :
    Indistinct step out (es.foldl step s) (es.foldl step s') := by
  induction es generalizing s s' with
  | nil => exact h
  | cons e es ih => exact ih (h.next e)

/-- Bisimulation rule. -/
theorem IsBisimulation.indistinct
    {R : σ → σ → Prop} (hR : IsBisimulation step out R) {s s' : σ} (h : R s s') :
    Indistinct step out s s' := by
  intro es
  induction es generalizing s s' with
  | nil => rfl
  | cons e es ih =>
      rw [outputs, outputs, hR.out_eq h e, ih (hR.next h e)]

end Observation

end Foundation
end KkmModule
