import KkmModule.Foundation.GuardedRun
import Mathlib.Logic.Function.Basic

/-!
# One save area and many users

Several processors use one area.  A processor saves a list of items, one at a
time, works, and restores a list of items from the area, one at a time; nothing
keeps two processors from doing so at once.

Each use has a number, and the area records which use wrote an item last.
`ownValues_iff` is the rule: every use restores what it has saved itself, and can
go on to do so, exactly in the runs in which no item is overwritten while another
use still has to restore it.
-/

namespace KkmModule
namespace Foundation

universe u

/-- How far a use has got. -/
inductive UsePc (ι : Type u) where
  | saving (done rest : List ι)
  | inside
  | restoring (rest : List ι)

/-- An item that a use has restored, and the use that had saved it. -/
structure RestoredItem (ι : Type u) where
  use : Nat
  item : ι
  savedBy : Option Nat
deriving DecidableEq, Repr

structure SaveArea (ι : Type u) where
  /-- the use that wrote an item last -/
  savedBy : ι → Option Nat
  /-- the use on a processor -/
  current : Nat → Option (Nat × UsePc ι)
  /-- the number of the next use -/
  next : Nat
  restored : List (RestoredItem ι)

/-- An area that has not been used. -/
def SaveArea.unused (ι : Type u) : SaveArea ι :=
  ⟨fun _ => none, fun _ => none, 0, []⟩

inductive UseEvent where
  /-- a use begins on a processor that is free -/
  | start (cpu : Nat)
  /-- the use on a processor makes its next step -/
  | advance (cpu : Nat)
deriving DecidableEq, Repr

section SaveArea

variable {ι : Type u} [DecidableEq ι]
variable (saves restores : List ι)

def SaveArea.setPc (s : SaveArea ι) (cpu use : Nat) (pc : UsePc ι) : SaveArea ι :=
  { s with current := Function.update s.current cpu (some (use, pc)) }

/-- The next step of use `use` on processor `cpu`. -/
def useNext (s : SaveArea ι) (cpu use : Nat) : UsePc ι → SaveArea ι
  | .saving done (i :: rest) =>
      { s.setPc cpu use (.saving (i :: done) rest) with
        savedBy := Function.update s.savedBy i (some use) }
  | .saving _ [] => s.setPc cpu use .inside
  | .inside => s.setPc cpu use (.restoring restores)
  | .restoring (i :: rest) =>
      { s.setPc cpu use (.restoring rest) with
        restored := ⟨use, i, s.savedBy i⟩ :: s.restored }
  | .restoring [] => { s with current := Function.update s.current cpu none }

def useStep (s : SaveArea ι) : UseEvent → SaveArea ι
  | .start cpu =>
      match s.current cpu with
      | none => { s.setPc cpu s.next (.saving [] saves) with next := s.next + 1 }
      | some _ => s
  | .advance cpu =>
      match s.current cpu with
      | none => s
      | some (use, pc) => useNext restores s cpu use pc

/-- Items that a use has saved and still has to restore. -/
def Pending : UsePc ι → ι → Prop
  | .saving done _, i => i ∈ done
  | .inside, i => i ∈ restores
  | .restoring rest, i => i ∈ rest

/-- No item is overwritten that another use still has to restore. -/
def KeepsPendingItems (s : SaveArea ι) : UseEvent → Prop
  | .start _ => True
  | .advance cpu =>
      ∀ use done i rest, s.current cpu = some (use, .saving done (i :: rest)) →
        ∀ cpu' use' pc', cpu' ≠ cpu → s.current cpu' = some (use', pc') →
          ¬ Pending restores pc' i

/-- Every use has restored what it has saved itself, and what it still has to
restore is its own. -/
structure OwnValues (s : SaveArea ι) : Prop where
  restored : ∀ r ∈ s.restored, r.savedBy = some r.use
  pending : ∀ cpu use pc, s.current cpu = some (use, pc) →
    ∀ i, Pending restores pc i → s.savedBy i = some use

/-! ## The invariant -/

/-- The place of a use fits the lists of items. -/
def UsePcOk : UsePc ι → Prop
  | .saving done rest => ∀ i ∈ saves, i ∈ done ∨ i ∈ rest
  | _ => True

structure SaveAreaInv (s : SaveArea ι) : Prop extends OwnValues restores s where
  pcOk : ∀ cpu use pc, s.current cpu = some (use, pc) → UsePcOk saves pc
  numbered : ∀ cpu use pc, s.current cpu = some (use, pc) → use < s.next
  distinct : ∀ cpu cpu' use pc pc', s.current cpu = some (use, pc) →
    s.current cpu' = some (use, pc') → cpu = cpu'

variable {saves restores}

omit [DecidableEq ι] in
theorem setPc_current
    {s : SaveArea ι} {cpu use : Nat} {pc : UsePc ι} {cpu' use' : Nat} {pc' : UsePc ι}
    (h : (s.setPc cpu use pc).current cpu' = some (use', pc')) :
    (cpu' = cpu ∧ use' = use ∧ pc' = pc) ∨
      (cpu' ≠ cpu ∧ s.current cpu' = some (use', pc')) := by
  by_cases hcpu : cpu' = cpu
  · subst hcpu
    simp only [SaveArea.setPc, Function.update_self, Option.some.injEq,
      Prod.mk.injEq] at h
    exact Or.inl ⟨rfl, h.1.symm, h.2.symm⟩
  · simp only [SaveArea.setPc, Function.update_of_ne hcpu] at h
    exact Or.inr ⟨hcpu, h⟩

omit [DecidableEq ι] in
/-- The step of one processor keeps what holds of the others. -/
theorem SaveAreaInv.setPc
    {s : SaveArea ι} (h : SaveAreaInv saves restores s) {cpu use : Nat}
    {old : UsePc ι} (hcurrent : s.current cpu = some (use, old)) (pc : UsePc ι)
    (hok : UsePcOk saves pc)
    (hpending : ∀ i, Pending restores pc i → s.savedBy i = some use) :
    SaveAreaInv saves restores (s.setPc cpu use pc) := by
  refine ⟨⟨h.restored, ?_⟩, ?_, ?_, ?_⟩
  · intro cpu' use' pc' hcurrent'
    rcases setPc_current hcurrent' with ⟨rfl, rfl, rfl⟩ | ⟨_, hold⟩
    · exact hpending
    · exact h.pending cpu' use' pc' hold
  · intro cpu' use' pc' hcurrent'
    rcases setPc_current hcurrent' with ⟨rfl, rfl, rfl⟩ | ⟨_, hold⟩
    · exact hok
    · exact h.pcOk cpu' use' pc' hold
  · intro cpu' use' pc' hcurrent'
    rcases setPc_current hcurrent' with ⟨rfl, rfl, rfl⟩ | ⟨_, hold⟩
    · exact h.numbered cpu' use' old hcurrent
    · exact h.numbered cpu' use' pc' hold
  · intro cpu₁ cpu₂ use' pc₁ pc₂ h₁ h₂
    rcases setPc_current h₁ with ⟨rfl, rfl, rfl⟩ | ⟨_, hold₁⟩
    · rcases setPc_current h₂ with ⟨rfl, _, rfl⟩ | ⟨_, hold₂⟩
      · rfl
      · exact h.distinct cpu₁ cpu₂ use' old pc₂ hcurrent hold₂
    · rcases setPc_current h₂ with ⟨rfl, rfl, rfl⟩ | ⟨_, hold₂⟩
      · exact h.distinct cpu₁ cpu₂ use' pc₁ old hold₁ hcurrent
      · exact h.distinct cpu₁ cpu₂ use' pc₁ pc₂ hold₁ hold₂

/-- Saving an item that no other use waits for. -/
theorem SaveAreaInv.save
    {s : SaveArea ι} (h : SaveAreaInv saves restores s)
    {cpu use : Nat} {done rest : List ι} {i : ι}
    (hcurrent : s.current cpu = some (use, .saving done (i :: rest)))
    (hothers : ∀ cpu' use' pc', cpu' ≠ cpu → s.current cpu' = some (use', pc') →
      ¬ Pending restores pc' i) :
    SaveAreaInv saves restores
      (useNext restores s cpu use (.saving done (i :: rest))) := by
  have hok := h.pcOk cpu use _ hcurrent
  have hown := h.pending cpu use _ hcurrent
  -- `s₀` is the state with the item written and the place not yet moved on
  let s₀ : SaveArea ι := { s with savedBy := Function.update s.savedBy i (some use) }
  have hinv : SaveAreaInv saves restores s₀ := by
    refine ⟨⟨h.restored, ?_⟩, h.pcOk, h.numbered, h.distinct⟩
    intro cpu' use' pc' hcurrent' j hj
    by_cases hji : j = i
    · subst hji
      by_cases hcpu : cpu' = cpu
      · subst hcpu
        have huse : use' = use := by
          rw [show s₀.current = s.current from rfl, hcurrent] at hcurrent'
          simp only [Option.some.injEq, Prod.mk.injEq] at hcurrent'
          exact hcurrent'.1.symm
        rw [huse]
        exact Function.update_self ..
      · exact absurd hj (hothers cpu' use' pc' hcpu hcurrent')
    · exact (Function.update_of_ne hji ..).trans (h.pending cpu' use' pc' hcurrent' j hj)
  refine hinv.setPc hcurrent (.saving (i :: done) rest) ?_ ?_
  · intro j hj
    rcases hok j hj with hdone | hrest
    · exact Or.inl (List.mem_cons_of_mem i hdone)
    · rcases List.mem_cons.mp hrest with rfl | hrest
      · exact Or.inl List.mem_cons_self
      · exact Or.inr hrest
  · intro j hj
    by_cases hji : j = i
    · subst hji
      exact Function.update_self ..
    · exact (Function.update_of_ne hji ..).trans
        (hown j (List.mem_of_ne_of_mem hji hj))

omit [DecidableEq ι] in
/-- The processor is free again. -/
theorem SaveAreaInv.leave
    {s : SaveArea ι} (h : SaveAreaInv saves restores s) (cpu : Nat) :
    SaveAreaInv saves restores
      { s with current := Function.update s.current cpu none } := by
  have hold : ∀ {cpu' use' pc'},
      Function.update s.current cpu none cpu' = some (use', pc') →
        s.current cpu' = some (use', pc') := by
    intro cpu' use' pc' hcurrent
    by_cases hcpu : cpu' = cpu
    · subst hcpu
      simp at hcurrent
    · rwa [Function.update_of_ne hcpu] at hcurrent
  refine ⟨⟨h.restored, ?_⟩, ?_, ?_, ?_⟩
  · intro cpu' use' pc' hcurrent
    exact h.pending cpu' use' pc' (hold hcurrent)
  · intro cpu' use' pc' hcurrent
    exact h.pcOk cpu' use' pc' (hold hcurrent)
  · intro cpu' use' pc' hcurrent
    exact h.numbered cpu' use' pc' (hold hcurrent)
  · intro cpu₁ cpu₂ use' pc₁ pc₂ h₁ h₂
    exact h.distinct cpu₁ cpu₂ use' pc₁ pc₂ (hold h₁) (hold h₂)

omit [DecidableEq ι] in
theorem SaveAreaInv.start
    {s : SaveArea ι} (h : SaveAreaInv saves restores s) (cpu : Nat) :
    SaveAreaInv saves restores
      { s.setPc cpu s.next (.saving [] saves) with next := s.next + 1 } := by
  refine ⟨⟨h.restored, ?_⟩, ?_, ?_, ?_⟩
  · intro cpu' use' pc' hcurrent i hi
    rcases setPc_current hcurrent with ⟨rfl, rfl, rfl⟩ | ⟨_, hold⟩
    · cases hi
    · exact h.pending cpu' use' pc' hold i hi
  · intro cpu' use' pc' hcurrent
    rcases setPc_current hcurrent with ⟨rfl, rfl, rfl⟩ | ⟨_, hold⟩
    · exact fun i hi => Or.inr hi
    · exact h.pcOk cpu' use' pc' hold
  · intro cpu' use' pc' hcurrent
    rcases setPc_current hcurrent with ⟨rfl, rfl, rfl⟩ | ⟨_, hold⟩
    · exact Nat.lt_succ_self _
    · exact Nat.lt_succ_of_lt (h.numbered cpu' use' pc' hold)
  · intro cpu₁ cpu₂ use' pc₁ pc₂ h₁ h₂
    rcases setPc_current h₁ with ⟨rfl, rfl, rfl⟩ | ⟨_, hold₁⟩
    · rcases setPc_current h₂ with ⟨rfl, _, rfl⟩ | ⟨_, hold₂⟩
      · rfl
      · exact absurd (h.numbered cpu₂ _ pc₂ hold₂) (Nat.lt_irrefl _)
    · rcases setPc_current h₂ with ⟨rfl, rfl, rfl⟩ | ⟨_, hold₂⟩
      · exact absurd (h.numbered cpu₁ _ pc₁ hold₁) (Nat.lt_irrefl _)
      · exact h.distinct cpu₁ cpu₂ use' pc₁ pc₂ hold₁ hold₂

/-- A guarded step, if every item that is restored is saved first. -/
theorem saveAreaInv_step
    (hsub : ∀ i ∈ restores, i ∈ saves)
    (s : SaveArea ι) (event : UseEvent) (h : SaveAreaInv saves restores s)
    (hguard : KeepsPendingItems restores s event) :
    SaveAreaInv saves restores (useStep saves restores s event) := by
  cases event with
  | start cpu =>
      simp only [useStep]
      cases hcurrent : s.current cpu with
      | some used => exact h
      | none => exact h.start cpu
  | advance cpu =>
      simp only [useStep]
      cases hcurrent : s.current cpu with
      | none => exact h
      | some used =>
          obtain ⟨use, pc⟩ := used
          have hown := h.pending cpu use pc hcurrent
          have hok := h.pcOk cpu use pc hcurrent
          cases pc with
          | saving done rest =>
              cases rest with
              | nil =>
                  refine h.setPc hcurrent .inside trivial ?_
                  intro i hi
                  rcases hok i (hsub i hi) with hdone | hrest
                  · exact hown i hdone
                  · cases hrest
              | cons i rest =>
                  exact h.save hcurrent (hguard use done i rest hcurrent)
          | inside => exact h.setPc hcurrent (.restoring restores) trivial hown
          | restoring rest =>
              cases rest with
              | nil => exact h.leave cpu
              | cons i rest =>
                  have hset := h.setPc hcurrent (.restoring rest) trivial
                    fun j hj => hown j (List.mem_cons_of_mem i hj)
                  refine ⟨⟨?_, hset.pending⟩, hset.pcOk, hset.numbered, hset.distinct⟩
                  intro r hr
                  rcases List.mem_cons.mp hr with rfl | hr
                  · exact hown i List.mem_cons_self
                  · exact h.restored r hr

/-- A step that is not guarded takes an item from another use. -/
theorem not_ownValues_step
    (s : SaveArea ι) (event : UseEvent) (h : SaveAreaInv saves restores s)
    (hguard : ¬ KeepsPendingItems restores s event) :
    ¬ OwnValues restores (useStep saves restores s event) := by
  cases event with
  | start cpu => exact absurd trivial hguard
  | advance cpu =>
      simp only [KeepsPendingItems, not_forall, not_not] at hguard
      obtain ⟨use, done, i, rest, hcurrent, cpu', use', pc', hcpu, hcurrent', hi⟩ :=
        hguard
      intro hown
      have hstep : useStep saves restores s (.advance cpu) =
          useNext restores s cpu use (.saving done (i :: rest)) := by
        simp only [useStep, hcurrent]
      rw [hstep] at hown
      have hother : (useNext restores s cpu use (.saving done (i :: rest))).current
          cpu' = some (use', pc') := (Function.update_of_ne hcpu ..).trans hcurrent'
      have hsaved := hown.pending cpu' use' pc' hother i hi
      have hself : (useNext restores s cpu use (.saving done (i :: rest))).savedBy i =
          some use := Function.update_self ..
      have huse : use = use' := Option.some.inj (hself.symm.trans hsaved)
      subst huse
      exact hcpu (h.distinct cpu' cpu use _ _ hcurrent' hcurrent)

omit [DecidableEq ι] in
theorem saveAreaInv_unused : SaveAreaInv saves restores (SaveArea.unused ι) := by
  refine ⟨⟨?_, ?_⟩, ?_, ?_, ?_⟩
  · intro r hr
    cases hr
  · intro cpu use pc h
    cases h
  · intro cpu use pc h
    cases h
  · intro cpu use pc h
    cases h
  · intro cpu cpu' use pc pc' h
    cases h

/-- Every use keeps its own values exactly in the guarded runs. -/
theorem ownValues_iff
    (hsub : ∀ i ∈ restores, i ∈ saves) (events : List UseEvent) :
    EveryState (useStep saves restores) (OwnValues restores) (SaveArea.unused ι)
        events ↔
      EveryStep (useStep saves restores) (KeepsPendingItems restores)
        (SaveArea.unused ι) events :=
  everyState_iff_of_invariant (fun _ h => h.toOwnValues) (saveAreaInv_step hsub)
    not_ownValues_step saveAreaInv_unused

end SaveArea

end Foundation
end KkmModule
