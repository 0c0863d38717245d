import Mathlib.Data.Fintype.Card
import Mathlib.Data.List.FinRange
import Mathlib.Logic.Function.Basic

/-!
# Tables with free slots

A table `Fin n → α` some of whose entries are busy.  `occupied` is the set of
busy slots, `firstFree` the result of the usual search loop.  The search finds
a slot exactly when fewer than `n` slots are occupied, and filling or clearing
a slot changes the number of occupied slots by one.
-/

namespace KkmModule
namespace Foundation

universe u

section SlotTable

variable {α : Type u} {n : Nat}
variable (busy : α → Bool)

/-- The slots whose entries are busy. -/
def occupied (t : Fin n → α) : Finset (Fin n) :=
  Finset.univ.filter fun i => busy (t i) = true

/-- The first slot whose entry is not busy. -/
def firstFree (t : Fin n → α) : Option (Fin n) :=
  (List.finRange n).find? fun i => !busy (t i)

variable {busy} {t : Fin n → α} {i : Fin n} {a : α}

@[simp] theorem mem_occupied :
    i ∈ occupied busy t ↔ busy (t i) = true := by
  simp [occupied]

theorem occupied_card_le : (occupied busy t).card ≤ n := by
  simpa using Finset.card_le_univ (occupied busy t)

theorem firstFree_free (h : firstFree busy t = some i) :
    busy (t i) = false := by
  simpa using List.find?_some h

/-- A free slot is found unless all are occupied. -/
theorem firstFree_ne_none_iff :
    firstFree busy t ≠ none ↔ (occupied busy t).card < n := by
  have hall : firstFree busy t = none ↔ ∀ i, i ∈ occupied busy t := by
    simp [firstFree, List.find?_eq_none]
  rw [Ne, hall]
  constructor
  · intro h
    have hne : occupied busy t ≠ Finset.univ :=
      fun huniv => h (Finset.eq_univ_iff_forall.mp huniv)
    simpa using (Finset.card_lt_iff_ne_univ _).mpr hne
  · intro hlt h
    have huniv : occupied busy t = Finset.univ :=
      Finset.eq_univ_iff_forall.mpr h
    rw [huniv, Finset.card_univ, Fintype.card_fin] at hlt
    exact absurd hlt (Nat.lt_irrefl n)

theorem occupied_fill (ha : busy a = true) :
    occupied busy (Function.update t i a) = insert i (occupied busy t) := by
  ext j
  by_cases hj : j = i
  · subst hj
    simp [ha]
  · simp [hj]

theorem occupied_clear (ha : busy a = false) :
    occupied busy (Function.update t i a) = (occupied busy t).erase i := by
  ext j
  by_cases hj : j = i
  · subst hj
    simp [ha]
  · simp [hj]

/-- Filling a free slot. -/
theorem card_fill (hi : busy (t i) = false) (ha : busy a = true) :
    (occupied busy (Function.update t i a)).card = (occupied busy t).card + 1 := by
  rw [occupied_fill ha]
  exact Finset.card_insert_of_notMem (by simp [hi])

/-- Clearing an occupied slot. -/
theorem card_clear (hi : busy (t i) = true) (ha : busy a = false) :
    (occupied busy (Function.update t i a)).card + 1 = (occupied busy t).card := by
  rw [occupied_clear ha]
  exact Finset.card_erase_add_one (by simp [hi])

end SlotTable

end Foundation
end KkmModule
