import KkmModule.Foundation.BlockPool
import Mathlib.Data.Set.Image
import Mathlib.Logic.Function.Basic

/-!
# Ownership of blocks

A program keeps its blocks in named places, each holding at most one.  `Owns`
says that the places of the whole program hold live blocks, no block twice.
`Held` is the view of one component: its own places, and the set of blocks that
are none of its business.  A component that takes blocks into its places and
gives back what its places hold keeps `Held`, and with it the blocks of all
others; no block is given back twice.
-/

namespace KkmModule
namespace Foundation

universe u v

section Held

variable {ι : Type u} [DecidableEq ι]
variable {p : BlockPool} {mine : ι → Option Block} {others : Set Block}

/-- The places of a component, next to the blocks of all others. -/
structure Held
    (p : BlockPool) (mine : ι → Option Block) (others : Set Block) : Prop where
  live : ∀ i b, mine i = some b → b ∈ p.live
  inj : ∀ i j b, mine i = some b → mine j = some b → i = j
  others_live : ∀ b ∈ others, b ∈ p.live
  apart : ∀ i b, mine i = some b → b ∉ others
  clean : p.doubleFreed = []

/-- A place may forget its block, which then nobody gives back. -/
theorem Held.forget
    (h : Held p mine others) (i : ι) :
    Held p (Function.update mine i none) others := by
  have hsub : ∀ j b, Function.update mine i none j = some b → mine j = some b := by
    intro j b hj
    by_cases hij : j = i
    · subst hij
      rw [Function.update_self] at hj
      cases hj
    · rwa [Function.update_of_ne hij] at hj
  constructor
  · intro j b hj
    exact h.live j b (hsub j b hj)
  · intro j k b hj hk
    exact h.inj j k b (hsub j b hj) (hsub k b hk)
  · exact h.others_live
  · intro j b hj
    exact h.apart j b (hsub j b hj)
  · exact h.clean

/-- A fresh block goes into a place. -/
theorem Held.take
    (h : Held p mine others) (i : ι) (skip order : Nat) :
    Held (p.take skip order)
      (Function.update mine i (some (p.offer skip order))) others := by
  have hold : ∀ j b, Function.update mine i (some (p.offer skip order)) j = some b →
      (j = i ∧ b = p.offer skip order) ∨ (j ≠ i ∧ mine j = some b) := by
    intro j b hj
    by_cases hij : j = i
    · subst hij
      rw [Function.update_self] at hj
      exact Or.inl ⟨rfl, (Option.some.inj hj).symm⟩
    · rw [Function.update_of_ne hij] at hj
      exact Or.inr ⟨hij, hj⟩
  have hfresh : ∀ j, mine j ≠ some (p.offer skip order) :=
    fun j hj => p.offer_notMem_live skip order (h.live j _ hj)
  constructor
  · intro j b hj
    rcases hold j b hj with ⟨_, rfl⟩ | ⟨_, hmine⟩
    · exact p.offer_mem_take skip order
    · exact BlockPool.mem_take_of_mem (h.live j b hmine) skip order
  · intro j k b hj hk
    rcases hold j b hj with ⟨rfl, rfl⟩ | ⟨_, hj'⟩
    · rcases hold k _ hk with ⟨rfl, _⟩ | ⟨_, hk'⟩
      · rfl
      · exact absurd hk' (hfresh k)
    · rcases hold k b hk with ⟨_, rfl⟩ | ⟨_, hk'⟩
      · exact absurd hj' (hfresh j)
      · exact h.inj j k b hj' hk'
  · intro b hb
    exact BlockPool.mem_take_of_mem (h.others_live b hb) skip order
  · intro j b hj hb
    rcases hold j b hj with ⟨_, rfl⟩ | ⟨_, hmine⟩
    · exact p.offer_notMem_live skip order (h.others_live _ hb)
    · exact h.apart j b hmine hb
  · exact h.clean

/-- The block of a place is given back. -/
theorem Held.give
    (h : Held p mine others) {i : ι} {b : Block} (hi : mine i = some b) :
    Held (p.give b) (Function.update mine i none) others := by
  have hsub : ∀ j c, Function.update mine i none j = some c →
      j ≠ i ∧ mine j = some c := by
    intro j c hj
    by_cases hij : j = i
    · subst hij
      rw [Function.update_self] at hj
      cases hj
    · rw [Function.update_of_ne hij] at hj
      exact ⟨hij, hj⟩
  constructor
  · intro j c hj
    obtain ⟨hij, hmine⟩ := hsub j c hj
    have hne : c ≠ b := by
      rintro rfl
      exact hij (h.inj j i c hmine hi)
    exact BlockPool.mem_give_of_ne (h.live j c hmine) hne
  · intro j k c hj hk
    exact h.inj j k c (hsub j c hj).2 (hsub k c hk).2
  · intro c hc
    have hne : c ≠ b := by
      rintro rfl
      exact h.apart i c hi hc
    exact BlockPool.mem_give_of_ne (h.others_live c hc) hne
  · intro j c hj
    exact h.apart j c (hsub j c hj).2
  · rw [BlockPool.give_doubleFreed_of_mem (h.live i b hi)]
    exact h.clean

end Held

section Owns

variable {ι : Type u} {κ : Type v}
variable {p p' : BlockPool} {own own' : κ → Option Block}

/-- All places of the program hold live blocks, no block twice. -/
structure Owns (p : BlockPool) (own : κ → Option Block) : Prop where
  live : ∀ q b, own q = some b → b ∈ p.live
  inj : ∀ q r b, own q = some b → own r = some b → q = r
  clean : p.doubleFreed = []

/-- Blocks in places other than the ones `place` names. -/
def othersOf (own : κ → Option Block) (place : ι → κ) : Set Block :=
  {b | ∃ q, q ∉ Set.range place ∧ own q = some b}

/-- The view of the component whose places are named by `place`. -/
theorem Owns.held
    (h : Owns p own) {place : ι → κ} (hplace : Function.Injective place) :
    Held p (own ∘ place) (othersOf own place) := by
  constructor
  · intro i b hi
    exact h.live (place i) b hi
  · intro i j b hi hj
    exact hplace (h.inj (place i) (place j) b hi hj)
  · rintro b ⟨q, _, hq⟩
    exact h.live q b hq
  · rintro i b hi ⟨q, hq, hown⟩
    exact hq ⟨i, h.inj (place i) q b hi hown⟩
  · exact h.clean

/-- What a component did to its own places is all that changed. -/
theorem Held.owns
    {mine : ι → Option Block} {place : ι → κ}
    (h : Held p' mine (othersOf own place))
    (horig : Owns p own)
    (hplace : ∀ i, own' (place i) = mine i)
    (hrest : ∀ q, q ∉ Set.range place → own' q = own q) :
    Owns p' own' := by
  constructor
  · intro q b hq
    by_cases hmem : q ∈ Set.range place
    · obtain ⟨i, rfl⟩ := hmem
      exact h.live i b (hplace i ▸ hq)
    · rw [hrest q hmem] at hq
      exact h.others_live b ⟨q, hmem, hq⟩
  · intro q r b hq hr
    by_cases hqm : q ∈ Set.range place
    · obtain ⟨i, rfl⟩ := hqm
      have hi : mine i = some b := hplace i ▸ hq
      by_cases hrm : r ∈ Set.range place
      · obtain ⟨j, rfl⟩ := hrm
        rw [h.inj i j b hi (hplace j ▸ hr)]
      · rw [hrest r hrm] at hr
        exact absurd ⟨r, hrm, hr⟩ (h.apart i b hi)
    · rw [hrest q hqm] at hq
      by_cases hrm : r ∈ Set.range place
      · obtain ⟨j, rfl⟩ := hrm
        have hj : mine j = some b := hplace j ▸ hr
        exact absurd ⟨q, hqm, hq⟩ (h.apart j b hj)
      · rw [hrest r hrm] at hr
        exact horig.inj q r b hq hr
  · exact h.clean

end Owns

end Foundation
end KkmModule
