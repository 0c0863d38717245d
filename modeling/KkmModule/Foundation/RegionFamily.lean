import Mathlib.Order.CompletePartialOrder
import Mathlib.Logic.Function.Basic
import Mathlib.Order.Interval.Set.Disjoint

/-!
# Families of address regions

A region is a start and a length; its points form a half-open interval of
natural numbers, so nothing wraps.  A family assigns regions to some of its
indices.  The rules say how pairwise disjointness of a family changes when one
region is inserted or deleted.
-/

namespace KkmModule
namespace Foundation

structure Region where
  start : Nat
  len : Nat
deriving DecidableEq, Repr

namespace Region

def points (r : Region) : Set Nat := Set.Ico r.start (r.start + r.len)

/-- The two regions have no address in common. -/
def Apart (r s : Region) : Prop := Disjoint r.points s.points

theorem apart_iff (r s : Region) :
    r.Apart s ↔
      min (r.start + r.len) (s.start + s.len) ≤ max r.start s.start :=
  Set.Ico_disjoint_Ico

instance (r s : Region) : Decidable (r.Apart s) :=
  decidable_of_iff _ (apart_iff r s).symm

theorem Apart.symm {r s : Region} (h : r.Apart s) : s.Apart r :=
  Disjoint.symm h

end Region

section Family

universe u

variable {ι : Type u}

/-- Regions of different indices are disjoint. -/
def PairwiseApart (f : ι → Option Region) : Prop :=
  ∀ i j, i ≠ j → ∀ r s, f i = some r → f j = some s → r.Apart s

/-- The region `r` is disjoint from every region of the family. -/
def ApartFrom (f : ι → Option Region) (r : Region) : Prop :=
  ∀ j s, f j = some s → r.Apart s

theorem pairwiseApart_empty :
    PairwiseApart (fun _ : ι => none) := by
  intro i j _ r s hr
  cases hr

variable [DecidableEq ι]

/-- Deleting a region keeps a family disjoint. -/
theorem PairwiseApart.delete
    {f : ι → Option Region} (h : PairwiseApart f) (i : ι) :
    PairwiseApart (Function.update f i none) := by
  intro j k hjk r s hr hs
  by_cases hj : j = i
  · subst hj
    simp at hr
  · by_cases hk : k = i
    · subst hk
      simp at hs
    · rw [Function.update_of_ne hj] at hr
      rw [Function.update_of_ne hk] at hs
      exact h j k hjk r s hr hs

/-- Inserting a region at a free index keeps a family disjoint exactly when the
region is disjoint from those already there. -/
theorem PairwiseApart.insert_iff
    {f : ι → Option Region} (h : PairwiseApart f)
    {i : ι} (hfree : f i = none) (r : Region) :
    PairwiseApart (Function.update f i (some r)) ↔ ApartFrom f r := by
  constructor
  · intro hins j s hs
    have hne : i ≠ j := by
      rintro rfl
      rw [hfree] at hs
      cases hs
    refine hins i j hne r s (by simp) ?_
    rw [Function.update_of_ne hne.symm, hs]
  · intro hfrom j k hjk s t hs ht
    by_cases hj : j = i
    · subst hj
      have hrs : r = s := by simpa using hs
      rw [Function.update_of_ne hjk.symm] at ht
      exact hrs ▸ hfrom k t ht
    · rw [Function.update_of_ne hj] at hs
      by_cases hk : k = i
      · subst hk
        have hrt : r = t := by simpa using ht
        exact (hrt ▸ hfrom j s hs).symm
      · rw [Function.update_of_ne hk] at ht
        exact h j k hjk s t hs ht

end Family

end Foundation
end KkmModule
