import KkmModule.Driver.Structures
import KkmModule.Foundation.BlockOwnership
import Mathlib.Data.Nat.Log

/-!
# Page allocation (`kkm_mm.c`)

The kernel's page allocator is a block pool together with the contents of
memory.  Whether an allocation succeeds, and which free frame it gets, is an
input: `none` is a failing `alloc_pages`, `some skip` a successful one.
-/

namespace KkmModule
namespace Driver

open Foundation

/-- The page allocator and the contents of memory. -/
structure PageState where
  pool : BlockPool
  mem : Memory

/-- `order_base_2` -/
def orderBase2 (count : Nat) : Nat := Nat.clog 2 count

/-- Memory with a block cleared, as `__GFP_ZERO` asks for. -/
def zeroBlock (b : Block) (m : Memory) : Memory := fun a =>
  if b.head * pageSize ≤ a ∧ a < b.stop * pageSize then 0 else m a

/-- `alloc_pages(GFP_KERNEL | __GFP_ZERO, order)` -/
def allocPages (order : Nat) (answer : Option Nat) (s : PageState) :
    Option (Nat × PageState) :=
  answer.map fun skip =>
    ((s.pool.offer skip order).head,
      ⟨s.pool.take skip order, zeroBlock (s.pool.offer skip order) s.mem⟩)

def kkmMmAllocatePages
    (info : KkmMmuPageInfo) (count : Nat)
    (answer : Option Nat) (s : PageState) :
    Int × KkmMmuPageInfo × PageState :=
  if count = 0 then (-einval, info, s)
  else
    match allocPages (orderBase2 count) answer s with
    | none => (-enomem, { info with page := none }, s)
    | some (frame, s') =>
        (0, ⟨some frame, frame * pageSize, frame * pageSize⟩, s')

def kkmMmAllocatePage
    (info : KkmMmuPageInfo) (answer : Option Nat) (s : PageState) :
    Int × KkmMmuPageInfo × PageState :=
  kkmMmAllocatePages info 1 answer s

def kkmMmFreePages (va count : Nat) (s : PageState) : PageState :=
  if count = 0 then s
  else { s with pool := s.pool.give ⟨va / pageSize, orderBase2 count⟩ }

def kkmMmFreePage (va : Nat) (s : PageState) : PageState :=
  kkmMmFreePages va 1 s

@[simp] theorem orderBase2_one : orderBase2 1 = 0 := by decide

@[simp] theorem orderBase2_two : orderBase2 2 = 1 := by decide

@[simp] theorem kkmMmAllocatePages_none
    (info : KkmMmuPageInfo) {count : Nat} (hcount : count ≠ 0)
    (s : PageState) :
    kkmMmAllocatePages info count none s =
      (-enomem, { info with page := none }, s) := by
  simp [kkmMmAllocatePages, hcount, allocPages]

@[simp] theorem kkmMmAllocatePages_some
    (info : KkmMmuPageInfo) {count : Nat} (hcount : count ≠ 0)
    (skip : Nat) (s : PageState) :
    kkmMmAllocatePages info count (some skip) s =
      (0, ⟨some (s.pool.next + skip), (s.pool.next + skip) * pageSize,
          (s.pool.next + skip) * pageSize⟩,
        ⟨s.pool.take skip (orderBase2 count),
          zeroBlock (s.pool.offer skip (orderBase2 count)) s.mem⟩) := by
  simp [kkmMmAllocatePages, hcount, allocPages, BlockPool.offer]

/-- An allocation reports success exactly when there are pages. -/
theorem kkmMmAllocatePages_zero_iff
    (info : KkmMmuPageInfo) {count : Nat} (hcount : count ≠ 0)
    (answer : Option Nat) (s : PageState) :
    (kkmMmAllocatePages info count answer s).1 = 0 ↔ answer ≠ none := by
  cases answer with
  | none => simp [kkmMmAllocatePages_none info hcount, enomem]
  | some skip => simp [kkmMmAllocatePages_some info hcount]

theorem kkmMmAllocatePages_nonpos
    (info : KkmMmuPageInfo) (count : Nat) (answer : Option Nat) (s : PageState) :
    (kkmMmAllocatePages info count answer s).1 ≤ 0 := by
  unfold kkmMmAllocatePages
  split
  · simp [einval]
  · cases answer with
    | none => simp [allocPages, enomem]
    | some skip => simp [allocPages]

/-- Giving back the pages of an allocation gives back its block. -/
@[simp] theorem kkmMmFreePages_frame
    (frame : Nat) {count : Nat} (hcount : count ≠ 0) (s : PageState) :
    kkmMmFreePages (frame * pageSize) count s =
      { s with pool := s.pool.give ⟨frame, orderBase2 count⟩ } := by
  have hdiv : frame * pageSize / pageSize = frame :=
    Nat.mul_div_cancel frame (by decide)
  simp [kkmMmFreePages, hcount, hdiv]

/-- The block an allocation of the given order left behind, as long as the page
pointer is set. -/
def KkmMmuPageInfo.block (info : KkmMmuPageInfo) (order : Nat) : Option Block :=
  info.page.map fun _ => ⟨info.va / pageSize, order⟩

@[simp] theorem KkmMmuPageInfo.block_zeroed (order : Nat) :
    KkmMmuPageInfo.zeroed.block order = none := rfl

section Ownership

variable {ι : Type*} [DecidableEq ι]
variable {mine : ι → Option Block} {others : Set Block} {s : PageState}

/-- Whatever the allocator answers, the place holds what the page pointer now
says. -/
theorem held_allocatePages
    (h : Held s.pool mine others) (i : ι)
    (info : KkmMmuPageInfo) {count : Nat} (hcount : count ≠ 0)
    (answer : Option Nat) :
    let r := kkmMmAllocatePages info count answer s
    Held r.2.2.pool
      (Function.update mine i (r.2.1.block (orderBase2 count))) others := by
  cases answer with
  | none =>
      rw [kkmMmAllocatePages_none info hcount s]
      exact h.forget i
  | some skip =>
      rw [kkmMmAllocatePages_some info hcount skip s]
      have hdiv : (s.pool.next + skip) * pageSize / pageSize =
          s.pool.next + skip := Nat.mul_div_cancel _ (by decide)
      simpa [KkmMmuPageInfo.block, hdiv, BlockPool.offer] using
        h.take i skip (orderBase2 count)

/-- Freeing the block of a place. -/
theorem held_freePages
    (h : Held s.pool mine others) {i : ι}
    {info : KkmMmuPageInfo} {count : Nat} (hcount : count ≠ 0)
    (hpage : info.page ≠ none)
    (hi : mine i = info.block (orderBase2 count)) :
    Held (kkmMmFreePages info.va count s).pool
      (Function.update mine i none) others := by
  obtain ⟨frame, hframe⟩ := Option.ne_none_iff_exists'.mp hpage
  rw [KkmMmuPageInfo.block, hframe] at hi
  simp only [kkmMmFreePages, if_neg hcount]
  exact h.give hi

end Ownership

end Driver
end KkmModule
