import Mathlib.Data.List.Basic

/-!
# Guarded runs of a step function

A step function `step : σ → ε → σ` is run over a list of events.  Two
predicates quantify over such a run:

* `EveryState P s es`: every state visited, the first and the last included,
  satisfies `P`;
* `EveryStep C s es`: every event satisfies the guard `C` in the state in which
  it happens.

The rules below turn a fact about one step into a fact about every run: an
invariant preserved by guarded steps holds in every state of a guarded run, and
a property that a step keeps exactly when its guard holds is true of all states
of a run exactly when all its steps are guarded.

`lastGiven` is what a field holds after a run of events each of which gives it a
value or leaves it alone.
-/

namespace KkmModule
namespace Foundation

universe u v

section GuardedRun

variable {σ : Type u} {ε : Type v}
variable (step : σ → ε → σ)

/-- All states visited from `s` along `es` satisfy `P`. -/
def EveryState (P : σ → Prop) (s : σ) : List ε → Prop
  | [] => P s
  | e :: es => P s ∧ EveryState P (step s e) es

/-- All events of `es` satisfy the guard `C` in the state they happen in. -/
def EveryStep (C : σ → ε → Prop) (s : σ) : List ε → Prop
  | [] => True
  | e :: es => C s e ∧ EveryStep C (step s e) es

instance decidableEveryStep
    (C : σ → ε → Prop) [∀ s e, Decidable (C s e)] :
    ∀ (s : σ) (es : List ε), Decidable (EveryStep step C s es)
  | _, [] => inferInstanceAs (Decidable True)
  | s, e :: es =>
      haveI := decidableEveryStep C (step s e) es
      inferInstanceAs (Decidable (C s e ∧ EveryStep step C (step s e) es))

variable {step}

theorem EveryState.head
    {P : σ → Prop} {s : σ} {es : List ε}
    (h : EveryState step P s es) :
    P s := by
  cases es with
  | nil => exact h
  | cons e es => exact h.1

theorem EveryState.mono
    {P Q : σ → Prop} (hPQ : ∀ s, P s → Q s) :
    ∀ {s : σ} {es : List ε},
      EveryState step P s es → EveryState step Q s es
  | s, [], h => hPQ s h
  | s, _ :: _, h => ⟨hPQ s h.1, EveryState.mono hPQ h.2⟩

/-- The last state of a run is one of its states. -/
theorem EveryState.last
    {P : σ → Prop} {s : σ} {es : List ε}
    (h : EveryState step P s es) :
    P (es.foldl step s) := by
  induction es generalizing s with
  | nil => exact h
  | cons e es ih => exact ih h.2

/-- Invariant rule: what guarded steps preserve holds along a guarded run. -/
theorem everyState_of_everyStep
    {I : σ → Prop} {C : σ → ε → Prop}
    (hstep : ∀ s e, I s → C s e → I (step s e)) :
    ∀ {s : σ} {es : List ε},
      I s → EveryStep step C s es → EveryState step I s es
  | _, [], hs, _ => hs
  | s, e :: _, hs, hC =>
      ⟨hs, everyState_of_everyStep hstep (hstep s e hs hC.1) hC.2⟩

/-- Guards that agree where an invariant of all steps holds guard the same runs. -/
theorem everyStep_congr
    {I : σ → Prop} {C D : σ → ε → Prop}
    (hstep : ∀ s e, I s → I (step s e)) (hCD : ∀ s e, I s → (C s e ↔ D s e))
    {s : σ} {es : List ε} (hs : I s) :
    EveryStep step C s es ↔ EveryStep step D s es := by
  induction es generalizing s with
  | nil => exact Iff.rfl
  | cons e es ih => rw [EveryStep, EveryStep, hCD s e hs, ih (hstep s e hs)]

theorem EveryStep.mono
    {C D : σ → ε → Prop} (hCD : ∀ s e, C s e → D s e) {s : σ} {es : List ε}
    (h : EveryStep step C s es) : EveryStep step D s es := by
  induction es generalizing s with
  | nil => trivial
  | cons e es ih => exact ⟨hCD s e h.1, ih h.2⟩

theorem EveryStep.of_forall
    {C : σ → ε → Prop} {es : List ε} (h : ∀ e ∈ es, ∀ s, C s e) (s : σ) :
    EveryStep step C s es := by
  induction es generalizing s with
  | nil => trivial
  | cons e es ih =>
      rw [List.forall_mem_cons] at h
      exact ⟨h.1 s, ih h.2 _⟩

theorem everyStep_append
    {C : σ → ε → Prop} {s : σ} {es es' : List ε} :
    EveryStep step C s (es ++ es') ↔
      EveryStep step C s es ∧ EveryStep step C (es.foldl step s) es' := by
  induction es generalizing s with
  | nil => simp [EveryStep]
  | cons e es ih => simp only [List.cons_append, EveryStep, List.foldl_cons, ih, and_assoc]

/-- A guard of the states together with one of the events alone. -/
theorem EveryStep.and_forall
    {C : σ → ε → Prop} {D : ε → Prop} {s : σ} {es : List ε}
    (hC : EveryStep step C s es) (hD : ∀ e ∈ es, D e) :
    EveryStep step (fun t e => C t e ∧ D e) s es := by
  induction es generalizing s with
  | nil => trivial
  | cons e es ih =>
      rw [List.forall_mem_cons] at hD
      exact ⟨⟨hC.1, hD.1⟩, ih hC.2 hD.2⟩

/-- What a guarded step does in a state with the invariant, every step of the run
does. -/
theorem EveryStep.of_everyState
    {I : σ → Prop} {C D : σ → ε → Prop} (hstep : ∀ s e, I s → C s e → D s e)
    {s : σ} {es : List ε} (hI : EveryState step I s es) (hC : EveryStep step C s es) :
    EveryStep step D s es := by
  induction es generalizing s with
  | nil => trivial
  | cons e es ih => exact ⟨hstep s e hI.1 hC.1, ih hI.2 hC.2⟩

/-- Exact rule with an invariant: guarded steps keep the invariant, and the
first step that is not guarded leaves `P`. -/
theorem everyState_iff_of_invariant
    {I P : σ → Prop} {C : σ → ε → Prop}
    (hIP : ∀ s, I s → P s)
    (hkeep : ∀ s e, I s → C s e → I (step s e))
    (hlose : ∀ s e, I s → ¬ C s e → ¬ P (step s e)) :
    ∀ {s : σ} {es : List ε},
      I s → (EveryState step P s es ↔ EveryStep step C s es)
  | s, [], hs => by
      simp [EveryState, EveryStep, hIP s hs]
  | s, e :: es, hs => by
      constructor
      · intro h
        have hC : C s e := by
          by_contra hno
          exact hlose s e hs hno h.2.head
        exact ⟨hC, (everyState_iff_of_invariant hIP hkeep hlose
          (hkeep s e hs hC)).mp h.2⟩
      · intro h
        exact ⟨hIP s hs, (everyState_iff_of_invariant hIP hkeep hlose
          (hkeep s e hs h.1)).mpr h.2⟩

/-- Exact rule: if a step keeps `P` precisely when its guard holds, then `P`
holds in every state of a run precisely when every step of it is guarded. -/
theorem everyState_iff_everyStep
    {P : σ → Prop} {C : σ → ε → Prop}
    (hstep : ∀ s e, P s → (P (step s e) ↔ C s e))
    {s : σ} {es : List ε} (hs : P s) :
    EveryState step P s es ↔ EveryStep step C s es :=
  everyState_iff_of_invariant (fun _ h => h)
    (fun s e h hC => (hstep s e h).mpr hC)
    (fun s e h hno hP => hno ((hstep s e h).mp hP)) hs

end GuardedRun

section Fallible

variable {σ : Type u} {ε φ : Type v}

/-- A step function with error results, extended to run states: after an error
nothing happens any more. -/
def liftStep (step : σ → ε → Except φ σ) (s : Except φ σ) (e : ε) :
    Except φ σ :=
  s.bind fun t => step t e

/-- The run has not failed and its state satisfies `P`. -/
def Holds (P : σ → Prop) : Except φ σ → Prop
  | .ok s => P s
  | .error _ => False

/-- The guard `C` on run states; after an error no event is left to guard. -/
def LiftGuard (C : σ → ε → Prop) : Except φ σ → ε → Prop
  | .ok s, e => C s e
  | .error _, _ => True

instance (C : σ → ε → Prop) [∀ s e, Decidable (C s e)] :
    ∀ (s : Except φ σ) (e : ε), Decidable (LiftGuard C s e)
  | .ok s, e => inferInstanceAs (Decidable (C s e))
  | .error _, _ => inferInstanceAs (Decidable True)

@[simp] theorem liftStep_ok (step : σ → ε → Except φ σ) (s : σ) (e : ε) :
    liftStep step (.ok s) e = step s e := rfl

@[simp] theorem holds_ok (P : σ → Prop) (s : σ) :
    Holds (φ := φ) P (.ok s) ↔ P s := Iff.rfl

@[simp] theorem holds_error (P : σ → Prop) (f : φ) :
    ¬ Holds P (.error f) := id

/-- An event that is guarded in every state is guarded on the whole run. -/
theorem LiftGuard.of_forall
    {C : σ → ε → Prop} {e : ε} (h : ∀ s, C s e) (s : Except φ σ) :
    LiftGuard C s e := by
  cases s with
  | ok t => exact h t
  | error f => exact trivial

/-- Invariant rule for fallible steps: guarded steps neither fail nor leave the
invariant, so no state of a guarded run does. -/
theorem holds_of_everyStep
    {step : σ → ε → Except φ σ} {I : σ → Prop} {C : σ → ε → Prop}
    (hstep : ∀ s e, I s → C s e → Holds I (step s e))
    {s : σ} {es : List ε} (hs : I s)
    (hC : EveryStep (liftStep step) (LiftGuard C) (.ok s) es) :
    EveryState (liftStep step) (Holds I) (.ok s) es := by
  refine everyState_of_everyStep ?_ hs hC
  intro t e ht hCt
  cases t with
  | error f => exact absurd ht (holds_error I f)
  | ok u => exact hstep u e ht hCt

/-- Exact rule for fallible steps. -/
theorem holds_iff_everyStep
    {step : σ → ε → Except φ σ} {I : σ → Prop} {C : σ → ε → Prop}
    (hstep : ∀ s e, I s → (Holds I (step s e) ↔ C s e))
    {s : σ} {es : List ε} (hs : I s) :
    EveryState (liftStep step) (Holds I) (.ok s) es ↔
      EveryStep (liftStep step) (LiftGuard C) (.ok s) es := by
  refine everyState_iff_everyStep ?_ hs
  intro t e ht
  cases t with
  | error f => exact absurd ht (holds_error I f)
  | ok u => exact hstep u e ht

/-- Exact rule with an invariant for fallible steps. -/
theorem holds_iff_of_invariant
    {step : σ → ε → Except φ σ} {I P : σ → Prop} {C : σ → ε → Prop}
    (hIP : ∀ s, I s → P s)
    (hkeep : ∀ s e, I s → C s e → Holds I (step s e))
    (hlose : ∀ s e, I s → ¬ C s e → ¬ Holds P (step s e))
    {s : σ} {es : List ε} (hs : I s) :
    EveryState (liftStep step) (Holds P) (.ok s) es ↔
      EveryStep (liftStep step) (LiftGuard C) (.ok s) es := by
  have hI : Holds I (.ok s : Except φ σ) := hs
  refine everyState_iff_of_invariant ?_ ?_ ?_ hI
  · intro t ht
    cases t with
    | error f => exact ht
    | ok u => exact hIP u ht
  · intro t e ht hC
    cases t with
    | error f => exact absurd ht (holds_error I f)
    | ok u => exact hkeep u e ht hC
  · intro t e ht hno
    cases t with
    | error f => exact absurd trivial hno
    | ok u => exact hlose u e ht hno

/-- Exact rule for a guard on the events alone. -/
theorem holds_iff_forall
    {step : σ → ε → Except φ σ} {I : σ → Prop} {G : ε → Prop}
    (hstep : ∀ s e, I s → (Holds I (step s e) ↔ G e))
    {s : σ} {es : List ε} (hs : I s) :
    EveryState (liftStep step) (Holds I) (.ok s) es ↔ ∀ e ∈ es, G e := by
  induction es generalizing s with
  | nil => simp [EveryState, hs]
  | cons e es ih =>
      rw [List.forall_mem_cons, ← hstep s e hs]
      simp only [EveryState, liftStep_ok, holds_ok, hs, true_and]
      cases hnext : step s e with
      | error f =>
          constructor
          · intro h
            exact absurd h.head (holds_error I f)
          · intro h
            exact absurd h.1 (holds_error I f)
      | ok t =>
          constructor
          · intro h
            exact ⟨h.head, (ih h.head).mp h⟩
          · intro h
            exact (ih h.1).mpr h.2

end Fallible

section LastGiven

variable {σ : Type u} {ε : Type v} {α : Type u}

/-- The last value that an event of a list gives, or the one from before. -/
def lastGiven (given : ε → Option α) (a : α) (es : List ε) : α :=
  es.foldl (fun a e => (given e).getD a) a

/-- A field that every event sets to what it gives holds the last value given
after the run. -/
theorem field_foldl
    {step : σ → ε → σ} (field : σ → α) {given : ε → Option α}
    (hstep : ∀ s e, field (step s e) = (given e).getD (field s))
    (s : σ) (es : List ε) :
    field (es.foldl step s) = lastGiven given (field s) es := by
  induction es generalizing s with
  | nil => rfl
  | cons e es ih =>
      rw [List.foldl_cons, ih, hstep]
      rfl

end LastGiven

end Foundation
end KkmModule
