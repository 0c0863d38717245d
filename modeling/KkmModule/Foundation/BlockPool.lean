import Mathlib.Algebra.Group.Nat.Defs
import Mathlib.Data.Finset.Insert
import Mathlib.Data.Finset.Erase

/-!
# A pool of page blocks

Blocks of `2 ^ order` consecutive page frames are taken from and given back to
a pool.  The frames of a block name the allocation: a frame is never handed out
a second time, so giving back a block that is not live any more is visible as
such, whoever would own the frame on a real machine by then.

The pool logs every block given back (`freed`) and, separately, those that were
not live at that moment (`doubleFreed`).
-/

namespace KkmModule
namespace Foundation

/-- `2 ^ order` page frames from `head` on. -/
structure Block where
  head : Nat
  order : Nat
deriving DecidableEq, Repr

/-- First frame after the block. -/
def Block.stop (b : Block) : Nat := b.head + 2 ^ b.order

structure BlockPool where
  /-- No frame from here on has been handed out. -/
  next : Nat
  live : Finset Block
  freed : List Block
  doubleFreed : List Block
  bounded : ∀ b ∈ live, b.stop ≤ next
  /-- Frame 0 is never handed out. -/
  next_pos : 0 < next

namespace BlockPool

/-- Nothing allocated yet; frames up to `reserved` are not usable. -/
def empty (reserved : Nat) : BlockPool where
  next := reserved + 1
  live := ∅
  freed := []
  doubleFreed := []
  bounded := by simp
  next_pos := Nat.succ_pos reserved

/-- The block that `take skip order` hands out. -/
def offer (p : BlockPool) (skip order : Nat) : Block := ⟨p.next + skip, order⟩

/-- Allocate a block, leaving `skip` frames unused below it. -/
def take (p : BlockPool) (skip order : Nat) : BlockPool where
  next := (p.offer skip order).stop
  live := insert (p.offer skip order) p.live
  freed := p.freed
  doubleFreed := p.doubleFreed
  bounded := by
    intro b hb
    rcases Finset.mem_insert.mp hb with rfl | hb
    · exact le_refl _
    · have h := p.bounded b hb
      have hpos : 0 < 2 ^ order := Nat.two_pow_pos order
      simp only [offer, Block.stop] at h ⊢
      omega
  next_pos := by
    have hpos : 0 < 2 ^ order := Nat.two_pow_pos order
    simp only [offer, Block.stop]
    omega

/-- Give a block back, live or not. -/
def give (p : BlockPool) (b : Block) : BlockPool where
  next := p.next
  live := p.live.erase b
  freed := b :: p.freed
  doubleFreed := if b ∈ p.live then p.doubleFreed else b :: p.doubleFreed
  bounded := fun c hc => p.bounded c (Finset.mem_of_mem_erase hc)
  next_pos := p.next_pos

@[simp] theorem take_live (p : BlockPool) (skip order : Nat) :
    (p.take skip order).live = insert (p.offer skip order) p.live := rfl

@[simp] theorem take_freed (p : BlockPool) (skip order : Nat) :
    (p.take skip order).freed = p.freed := rfl

@[simp] theorem take_doubleFreed (p : BlockPool) (skip order : Nat) :
    (p.take skip order).doubleFreed = p.doubleFreed := rfl

@[simp] theorem give_live (p : BlockPool) (b : Block) :
    (p.give b).live = p.live.erase b := rfl

@[simp] theorem give_freed (p : BlockPool) (b : Block) :
    (p.give b).freed = b :: p.freed := rfl

@[simp] theorem give_next (p : BlockPool) (b : Block) :
    (p.give b).next = p.next := rfl

theorem give_doubleFreed_of_mem
    {p : BlockPool} {b : Block} (hb : b ∈ p.live) :
    (p.give b).doubleFreed = p.doubleFreed := by
  simp [give, hb]

/-- The pool never offers a live block. -/
theorem offer_notMem_live (p : BlockPool) (skip order : Nat) :
    p.offer skip order ∉ p.live := by
  intro h
  have hb := p.bounded _ h
  have hpos : 0 < 2 ^ order := Nat.two_pow_pos order
  simp only [offer, Block.stop] at hb
  omega

/-- Live blocks survive an allocation. -/
theorem mem_take_of_mem
    {p : BlockPool} {b : Block} (hb : b ∈ p.live) (skip order : Nat) :
    b ∈ (p.take skip order).live :=
  Finset.mem_insert_of_mem hb

theorem offer_mem_take (p : BlockPool) (skip order : Nat) :
    p.offer skip order ∈ (p.take skip order).live :=
  Finset.mem_insert_self _ _

/-- Giving a block back keeps the others. -/
theorem mem_give_of_ne
    {p : BlockPool} {b c : Block} (hb : b ∈ p.live) (hne : b ≠ c) :
    b ∈ (p.give c).live :=
  Finset.mem_erase.mpr ⟨hne, hb⟩

/-- Give back several blocks, first to last. -/
def giveAll (p : BlockPool) (bs : List Block) : BlockPool :=
  bs.foldl give p

@[simp] theorem giveAll_nil (p : BlockPool) : p.giveAll [] = p := rfl

@[simp] theorem giveAll_cons (p : BlockPool) (b : Block) (bs : List Block) :
    p.giveAll (b :: bs) = (p.give b).giveAll bs := rfl

theorem mem_giveAll
    {p : BlockPool} {bs : List Block} {c : Block} :
    c ∈ (p.giveAll bs).live ↔ c ∈ p.live ∧ c ∉ bs := by
  induction bs generalizing p with
  | nil => simp
  | cons b bs ih =>
      rw [giveAll_cons, ih, give_live, Finset.mem_erase, List.mem_cons]
      tauto

/-- Distinct live blocks can be given back in any number without a double
free. -/
theorem giveAll_doubleFreed
    {p : BlockPool} {bs : List Block}
    (hlive : ∀ b ∈ bs, b ∈ p.live) (hnd : bs.Nodup) :
    (p.giveAll bs).doubleFreed = p.doubleFreed := by
  induction bs generalizing p with
  | nil => rfl
  | cons b bs ih =>
      obtain ⟨hnot, hnd'⟩ := List.nodup_cons.mp hnd
      have hb : b ∈ p.live := hlive b (by simp)
      have hrest : ∀ c ∈ bs, c ∈ (p.give b).live := by
        intro c hc
        have hne : c ≠ b := fun h => hnot (h ▸ hc)
        exact mem_give_of_ne (hlive c (List.mem_cons_of_mem _ hc)) hne
      rw [giveAll_cons, ih hrest hnd', give_doubleFreed_of_mem hb]

end BlockPool

end Foundation
end KkmModule
