import KkmModule.Driver.KxTable

/-!
# The kernel half of the guest tables

`kkm_mmu_copy_kernel_pgd` gives both guest tables the upper 256 entries of the
native top-level table, and puts the kx hierarchy into the slot at
`KKM_PRIVATE_START_VA`.  With 5-level paging the slot lies below the last
top-level entry, so the P4D page under it is copied too and the copy linked in.

The entries of the tables are stated first, then what a walk makes of them.
-/

namespace KkmModule
namespace Driver

open Foundation

/-! ## Copies and stores -/

section CopyRange

variable {src dest offset count : Nat} (m : Memory)

theorem kkmMmuCopyRange_entry
    {idx : Nat} (hlow : offset ≤ 8 * idx) (hhigh : 8 * idx < offset + count) :
    (kkmMmuCopyRange src offset dest offset count m).entry dest idx =
      m.entry src idx := by
  have hin : dest + offset ≤ dest + 8 * idx ∧
      dest + 8 * idx < dest + offset + count := by omega
  simp only [Memory.entry, kkmMmuCopyRange]
  rw [if_pos hin]
  congr 1
  omega

theorem kkmMmuCopyRange_of_not_mem
    {a : Nat} (h : a < dest + offset ∨ dest + offset + count ≤ a) :
    kkmMmuCopyRange src offset dest offset count m a = m a := by
  rw [kkmMmuCopyRange, if_neg (by omega)]

/-- A copy into one page leaves the other pages. -/
theorem kkmMmuCopyRange_entry_of_ne
    {table idx : Nat} (hdest : pageSize ∣ dest) (htable : pageSize ∣ table)
    (hne : table ≠ dest) (hcount : offset + count ≤ pageSize) (hidx : idx < 512) :
    (kkmMmuCopyRange src offset dest offset count m).entry table idx =
      m.entry table idx := by
  apply kkmMmuCopyRange_of_not_mem
  obtain ⟨x, rfl⟩ := hdest
  obtain ⟨y, rfl⟩ := htable
  simp only [pageSize] at *
  omega

end CopyRange

/-! ## The entries of a guest table -/

/-- Index from which a top-level table belongs to the kernel. -/
def kernelStartIndex : Nat := 256

/-- The P4D page of a guest table. -/
structure P4dPage (m : Memory) (pgd table p4d : Nat) : Prop where
  dvd : pageSize ∣ p4d
  lt : p4d < 2 ^ 48
  ne_zero : p4d ≠ 0
  ne_table : p4d ≠ table
  ne_pgd : p4d ≠ pgd
  ne_native : p4d ≠ entryPa (m.entry pgd kkmKxPgdP4dIndex)

/-- A fresh guest table, with its P4D page where the mode has one. -/
structure GuestPages (cfg : KkmConfig) (m : Memory) (pgd table p4d : Nat) : Prop where
  dvd : pageSize ∣ table
  ne_pgd : table ≠ pgd
  zeroed : ∀ idx < 512, m.entry table idx = 0#64
  ne_native : cfg.l5 = true → table ≠ entryPa (m.entry pgd kkmKxPgdP4dIndex)
  p4dPage : cfg.l5 = true → P4dPage m pgd table p4d

/-- The native top-level table. -/
structure NativeTop (cfg : KkmConfig) (m : Memory) (pgd : Nat) : Prop where
  dvd : pageSize ∣ pgd
  ne_zero : pgd ≠ 0
  last_present : cfg.l5 = true →
    present (m.entry pgd kkmKxPgdP4dIndex) = true
  last_lt : cfg.l5 = true → entryPa (m.entry pgd kkmKxPgdP4dIndex) < 2 ^ 48

/-- Entries of a guest table with 4-level paging. -/
structure GuestTopL4
    (kx : KkmMmuPml4e) (native : Nat → BitVec 64) (table : Nat) (m : Memory) :
    Prop where
  user : ∀ idx < kernelStartIndex, m.entry table idx = 0#64
  kernel : ∀ idx, kernelStartIndex ≤ idx → idx < 512 → idx ≠ kkmKxPgdIndex →
    m.entry table idx = native idx
  slot : m.entry table kkmKxPgdIndex = kx.pgdEntry

/-- Entries of a guest table and its P4D page with 5-level paging. -/
structure GuestTopL5
    (kx : KkmMmuPml4e) (native nativeP4d : Nat → BitVec 64) (table p4d : Nat)
    (m : Memory) : Prop where
  user : ∀ idx < kernelStartIndex, m.entry table idx = 0#64
  kernel : ∀ idx, kernelStartIndex ≤ idx → idx < kkmKxPgdP4dIndex →
    m.entry table idx = native idx
  last : m.entry table kkmKxPgdP4dIndex = kkmMmuMakeEntry p4d tableFlags
  p4dCopied : ∀ idx < 512, idx ≠ kkmKxPgdIndex → m.entry p4d idx = nativeP4d idx
  slot : m.entry p4d kkmKxPgdIndex = kx.pgdEntry

section SetupOnePgd

variable {cfg : KkmConfig} {m : Memory} {pgd table p4d : Nat} (kx : KkmMmuPml4e)

theorem setupOnePgd_l4
    (hl5 : cfg.l5 = false) (h : GuestPages cfg m pgd table p4d) :
    GuestTopL4 kx (m.entry pgd) table
      (kkmMmuSetupOnePgd cfg kx pgd table p4d m) := by
  simp only [kkmMmuSetupOnePgd, hl5, Bool.false_eq_true, ↓reduceIte, kkmMmuSetEntry,
    kkmPgdKernelOffset, kkmPgdKernelSize]
  constructor
  · intro idx hidx
    simp only [kernelStartIndex] at hidx
    rw [Memory.entry_setEntry_of_idx_ne _ _ (by simp only [kkmKxPgdIndex]; omega)]
    rw [Memory.entry, kkmMmuCopyRange_of_not_mem _ (by omega)]
    exact h.zeroed idx (by omega)
  · intro idx hlow hhigh hne
    simp only [kernelStartIndex] at hlow
    rw [Memory.entry_setEntry_of_idx_ne _ _ hne]
    exact kkmMmuCopyRange_entry m (by omega) (by omega)
  · exact Memory.entry_setEntry_self ..

/-- With 5-level paging: the copy of the kernel half, the copied P4D page with
the slot, and the entry that links it in. -/
theorem setupOnePgd_eq_l5
    (hl5 : cfg.l5 = true) (hnative : NativeTop cfg m pgd)
    (h : GuestPages cfg m pgd table p4d) :
    kkmMmuSetupOnePgd cfg kx pgd table p4d m =
      ((kkmMmuCopyRange (entryPa (m.entry pgd kkmKxPgdP4dIndex)) 0 p4d 0 pageSize
          (kkmMmuCopyRange pgd kkmPgdKernelOffset table kkmPgdKernelOffset
            kkmPgdKernelSize m)).setEntry p4d kkmKxPgdIndex kx.pgdEntry).setEntry
        table kkmKxPgdP4dIndex (kkmMmuMakeEntry p4d tableFlags) := by
  have hread : (kkmMmuCopyRange pgd kkmPgdKernelOffset table kkmPgdKernelOffset
      kkmPgdKernelSize m).entry pgd kkmKxPgdP4dIndex =
        m.entry pgd kkmKxPgdP4dIndex :=
    kkmMmuCopyRange_entry_of_ne m h.dvd hnative.dvd h.ne_pgd.symm (by decide)
      (by decide)
  simp only [kkmMmuSetupOnePgd, hl5, ↓reduceIte, (h.p4dPage hl5).ne_zero, hread,
    entryPa_and_pagePaMask (hnative.last_lt hl5)]
  rfl

theorem setupOnePgd_l5
    (hl5 : cfg.l5 = true) (hnative : NativeTop cfg m pgd)
    (h : GuestPages cfg m pgd table p4d) :
    GuestTopL5 kx (m.entry pgd)
      (m.entry (entryPa (m.entry pgd kkmKxPgdP4dIndex))) table p4d
      (kkmMmuSetupOnePgd cfg kx pgd table p4d m) := by
  have hp4d := h.p4dPage hl5
  rw [setupOnePgd_eq_l5 kx hl5 hnative h]
  -- of the four writes the first and the last go into the table
  have htable : ∀ idx < 512, idx ≠ kkmKxPgdP4dIndex →
      (((kkmMmuCopyRange (entryPa (m.entry pgd kkmKxPgdP4dIndex)) 0 p4d 0 pageSize
          (kkmMmuCopyRange pgd kkmPgdKernelOffset table kkmPgdKernelOffset
            kkmPgdKernelSize m)).setEntry p4d kkmKxPgdIndex kx.pgdEntry).setEntry
        table kkmKxPgdP4dIndex (kkmMmuMakeEntry p4d tableFlags)).entry table idx =
      (kkmMmuCopyRange pgd kkmPgdKernelOffset table kkmPgdKernelOffset
        kkmPgdKernelSize m).entry table idx := by
    intro idx hidx hne
    rw [Memory.entry_setEntry_of_idx_ne _ _ hne,
      Memory.entry_setEntry_of_table_ne _ _ h.dvd hp4d.dvd hp4d.ne_table.symm hidx
        (by decide),
      kkmMmuCopyRange_entry_of_ne _ hp4d.dvd h.dvd hp4d.ne_table.symm (by decide)
        hidx]
  constructor
  · intro idx hidx
    simp only [kernelStartIndex] at hidx
    rw [htable idx (by omega) (by simp only [kkmKxPgdP4dIndex]; omega),
      Memory.entry, kkmMmuCopyRange_of_not_mem _
        (by simp only [kkmPgdKernelOffset]; omega)]
    exact h.zeroed idx (by omega)
  · intro idx hlow hhigh
    simp only [kernelStartIndex, kkmKxPgdP4dIndex] at hlow hhigh
    rw [htable idx (by omega) (by simp only [kkmKxPgdP4dIndex]; omega)]
    exact kkmMmuCopyRange_entry m (by simp only [kkmPgdKernelOffset]; omega)
      (by simp only [kkmPgdKernelOffset, kkmPgdKernelSize]; omega)
  · exact Memory.entry_setEntry_self ..
  · intro idx hidx hne
    rw [Memory.entry_setEntry_of_table_ne _ _ hp4d.dvd h.dvd hp4d.ne_table hidx
        (by decide), Memory.entry_setEntry_of_idx_ne _ _ hne,
      kkmMmuCopyRange_entry _ (by omega) (by simp only [pageSize]; omega),
      kkmMmuCopyRange_entry_of_ne _ h.dvd (pageSize_dvd_entryPa _)
        (h.ne_native hl5).symm (by decide) hidx]
  · rw [Memory.entry_setEntry_of_table_ne _ _ hp4d.dvd h.dvd hp4d.ne_table
      (by decide) (by decide)]
    exact Memory.entry_setEntry_self ..

/-- The other pages stay. -/
theorem setupOnePgd_entry_of_ne
    (hnative : NativeTop cfg m pgd) (h : GuestPages cfg m pgd table p4d)
    {other idx : Nat} (hdvd : pageSize ∣ other) (hne : other ≠ table)
    (hneP4d : cfg.l5 = true → other ≠ p4d) (hidx : idx < 512) :
    (kkmMmuSetupOnePgd cfg kx pgd table p4d m).entry other idx =
      m.entry other idx := by
  cases hl5 : cfg.l5 with
  | true =>
      have hp4d := h.p4dPage hl5
      rw [setupOnePgd_eq_l5 kx hl5 hnative h,
        Memory.entry_setEntry_of_table_ne _ _ hdvd h.dvd hne hidx (by decide),
        Memory.entry_setEntry_of_table_ne _ _ hdvd hp4d.dvd (hneP4d hl5) hidx
          (by decide),
        kkmMmuCopyRange_entry_of_ne _ hp4d.dvd hdvd (hneP4d hl5) (by decide) hidx,
        kkmMmuCopyRange_entry_of_ne _ h.dvd hdvd hne (by decide) hidx]
  | false =>
      simp only [kkmMmuSetupOnePgd, hl5, Bool.false_eq_true, ↓reduceIte,
        kkmMmuSetEntry]
      rw [Memory.entry_setEntry_of_table_ne _ _ hdvd h.dvd hne hidx (by decide),
        kkmMmuCopyRange_entry_of_ne _ h.dvd hdvd hne (by decide) hidx]

end SetupOnePgd

/-! ## The walks -/

/-- The 512 GiB at `KKM_PRIVATE_START_VA`. -/
def InKxSlot (va : Nat) : Prop :=
  kkmPrivateStartVa ≤ va ∧ va < kkmPrivateStartVa + span 3

/-- Bytes in each half of the address space. -/
def halfSize (cfg : KkmConfig) : Nat := kernelStartIndex * span (topLevel cfg)

def KernelHalfVa (cfg : KkmConfig) (va : Nat) : Prop :=
  2 ^ 64 - halfSize cfg ≤ va ∧ va < 2 ^ 64

def UserHalfVa (cfg : KkmConfig) (va : Nat) : Prop := va < halfSize cfg

/-- What a guest table translates: the kernel half as the native table, the slot
through the kx hierarchy, and nothing of the user half. -/
structure TranslatesKernelHalf
    (cfg : KkmConfig) (kx : KkmMmuPml4e) (pgd table : Nat) (m : Memory) : Prop where
  native : ∀ va, KernelHalfVa cfg va → ¬ InKxSlot va →
    walkPa m (topLevel cfg) table va = walkPa m (topLevel cfg) pgd va
  slot : ∀ va, InKxSlot va →
    walkPa m (topLevel cfg) table va = kxWalkPa kx m va
  user : ∀ va, UserHalfVa cfg va → walkPa m (topLevel cfg) table va = none

section Index

variable {cfg : KkmConfig} {va : Nat}

theorem tableIndex_l4
    (hl5 : cfg.l5 = false) :
    (KernelHalfVa cfg va → kernelStartIndex ≤ tableIndex 3 va ∧
      (tableIndex 3 va = kkmKxPgdIndex → InKxSlot va)) ∧
    (InKxSlot va → tableIndex 3 va = kkmKxPgdIndex) ∧
    (UserHalfVa cfg va → tableIndex 3 va < kernelStartIndex) := by
  have h3 : span 3 = 0x8000000000 := by decide
  simp only [KernelHalfVa, UserHalfVa, InKxSlot, halfSize, topLevel, hl5,
    tableIndex, kernelStartIndex, kkmKxPgdIndex, kkmPrivateStartVa, h3,
    Bool.false_eq_true, ↓reduceIte]
  omega

theorem tableIndex_l5
    (hl5 : cfg.l5 = true) :
    (KernelHalfVa cfg va → kernelStartIndex ≤ tableIndex 4 va ∧
      (tableIndex 4 va = kkmKxPgdP4dIndex → tableIndex 3 va = kkmKxPgdIndex →
        InKxSlot va)) ∧
    (InKxSlot va →
      tableIndex 4 va = kkmKxPgdP4dIndex ∧ tableIndex 3 va = kkmKxPgdIndex) ∧
    (UserHalfVa cfg va → tableIndex 4 va < kernelStartIndex) := by
  have h3 : span 3 = 0x8000000000 := by decide
  have h4 : span 4 = 0x1000000000000 := by decide
  simp only [KernelHalfVa, UserHalfVa, InKxSlot, halfSize, topLevel, hl5,
    tableIndex, kernelStartIndex, kkmKxPgdIndex, kkmKxPgdP4dIndex,
    kkmPrivateStartVa, h3, h4, ↓reduceIte]
  omega

end Index

/-- Tables with the same entry for an address translate it alike. -/
theorem walkPa_of_entry_eq
    {m : Memory} {l table table' va : Nat}
    (h : m.entry table (tableIndex l va) = m.entry table' (tableIndex l va)) :
    walkPa m l table va = walkPa m l table' va := by
  rw [walkPa, walkPa, walk, walk, h]

theorem walkPa_of_entry_zero
    {m : Memory} {l table va : Nat}
    (h : m.entry table (tableIndex l va) = 0#64) :
    walkPa m l table va = none :=
  walkPa_of_not_present m (by rw [h]; exact present_zero)

/-- An entry of the slot sends the walk to the kx hierarchy. -/
theorem walkPa_of_entry_kx
    {kx : KkmMmuPml4e} {m : Memory} {table va : Nat}
    (h : m.entry table (tableIndex 3 va) = kx.pgdEntry) :
    walkPa m 3 table va = kxWalkPa kx m va := by
  rw [walkPa, walk, h]
  rfl

section Walk

variable {cfg : KkmConfig} {kx : KkmMmuPml4e} {m : Memory} {pgd table p4d : Nat}

theorem GuestTopL4.translates
    (hl5 : cfg.l5 = false) (h : GuestTopL4 kx (m.entry pgd) table m) :
    TranslatesKernelHalf cfg kx pgd table m := by
  have htop : topLevel cfg = 3 := by simp [topLevel, hl5]
  constructor
  · intro va hkernel hslot
    obtain ⟨hindex, hnot⟩ := (tableIndex_l4 hl5).1 hkernel
    rw [htop]
    exact walkPa_of_entry_eq (h.kernel _ hindex (tableIndex_lt 3 va)
      fun heq => hslot (hnot heq))
  · intro va hslot
    obtain ⟨-, hkx, -⟩ := @tableIndex_l4 cfg va hl5
    have hindex := hkx hslot
    rw [htop]
    apply walkPa_of_entry_kx
    rw [hindex]
    exact h.slot
  · intro va huser
    rw [htop]
    exact walkPa_of_entry_zero (h.user _ ((tableIndex_l4 hl5).2.2 huser))

theorem GuestTopL5.translates
    (hl5 : cfg.l5 = true)
    (hlast : present (m.entry pgd kkmKxPgdP4dIndex) = true)
    (hdvd : pageSize ∣ p4d) (hlt : p4d < 2 ^ 48)
    (h : GuestTopL5 kx (m.entry pgd)
      (m.entry (entryPa (m.entry pgd kkmKxPgdP4dIndex))) table p4d m) :
    TranslatesKernelHalf cfg kx pgd table m := by
  have htop : topLevel cfg = 4 := by simp [topLevel, hl5]
  obtain ⟨hpresent, hpa⟩ := makeEntry_table hdvd hlt
  -- the last entry sends the walk to the copied P4D page
  have hguest : ∀ va, tableIndex 4 va = kkmKxPgdP4dIndex →
      walkPa m 4 table va = walkPa m 3 p4d va := by
    intro va hindex
    rw [← h.last, ← hindex] at hpresent hpa
    rw [walkPa_succ_of_present m (l := 3) (by decide) hpresent, hpa]
  constructor
  · intro va hkernel hslot
    obtain ⟨hindex, hnot⟩ := (tableIndex_l5 hl5).1 hkernel
    rw [htop]
    by_cases h4 : tableIndex 4 va = kkmKxPgdP4dIndex
    · have hnative : walkPa m 4 pgd va =
          walkPa m 3 (entryPa (m.entry pgd kkmKxPgdP4dIndex)) va := by
        rw [← h4] at hlast ⊢
        exact walkPa_succ_of_present m (l := 3) (by decide) hlast
      rw [hguest va h4, hnative]
      exact walkPa_of_entry_eq (h.p4dCopied _ (tableIndex_lt 3 va)
        fun h3 => hslot (hnot h4 h3))
    · have hlt := tableIndex_lt 4 va
      exact walkPa_of_entry_eq (h.kernel _ hindex
        (by simp only [kkmKxPgdP4dIndex] at h4 ⊢; omega))
  · intro va hslot
    obtain ⟨-, hkx, -⟩ := @tableIndex_l5 cfg va hl5
    obtain ⟨h4, h3⟩ := hkx hslot
    rw [htop, hguest va h4]
    apply walkPa_of_entry_kx
    rw [h3]
    exact h.slot
  · intro va huser
    rw [htop]
    exact walkPa_of_entry_zero (h.user _ ((tableIndex_l5 hl5).2.2 huser))

end Walk

/-! ## Both tables -/

section Congr

variable {cfg : KkmConfig} {kx : KkmMmuPml4e} {m m' : Memory}
variable {native native' nativeP4d nativeP4d' : Nat → BitVec 64}
variable {pgd table p4d : Nat}

theorem NativeTop.congr
    (h : NativeTop cfg m pgd)
    (hlast : m'.entry pgd kkmKxPgdP4dIndex = m.entry pgd kkmKxPgdP4dIndex) :
    NativeTop cfg m' pgd where
  dvd := h.dvd
  ne_zero := h.ne_zero
  last_present := by
    rw [hlast]
    exact h.last_present
  last_lt := by
    rw [hlast]
    exact h.last_lt

theorem GuestPages.congr
    (h : GuestPages cfg m pgd table p4d)
    (hlast : m'.entry pgd kkmKxPgdP4dIndex = m.entry pgd kkmKxPgdP4dIndex)
    (htable : ∀ idx < 512, m'.entry table idx = m.entry table idx) :
    GuestPages cfg m' pgd table p4d where
  dvd := h.dvd
  ne_pgd := h.ne_pgd
  zeroed := by
    intro idx hidx
    rw [htable idx hidx]
    exact h.zeroed idx hidx
  ne_native := by
    rw [hlast]
    exact h.ne_native
  p4dPage := by
    intro hl5
    obtain ⟨hdvd, hlt, hzero, hne, hpgd, hnative⟩ := h.p4dPage hl5
    rw [← hlast] at hnative
    exact ⟨hdvd, hlt, hzero, hne, hpgd, hnative⟩

theorem GuestTopL4.congr
    (h : GuestTopL4 kx native table m)
    (hnative : ∀ idx < 512, native' idx = native idx)
    (htable : ∀ idx < 512, m'.entry table idx = m.entry table idx) :
    GuestTopL4 kx native' table m' where
  user := by
    intro idx hidx
    rw [htable idx (lt_trans hidx (by decide))]
    exact h.user idx hidx
  kernel := by
    intro idx hlow hhigh hne
    rw [htable idx hhigh, hnative idx hhigh]
    exact h.kernel idx hlow hhigh hne
  slot := by
    rw [htable _ (by decide)]
    exact h.slot

theorem GuestTopL5.congr
    (h : GuestTopL5 kx native nativeP4d table p4d m)
    (hnative : ∀ idx < 512, native' idx = native idx)
    (hnativeP4d : ∀ idx < 512, nativeP4d' idx = nativeP4d idx)
    (htable : ∀ idx < 512, m'.entry table idx = m.entry table idx)
    (hp4d : ∀ idx < 512, m'.entry p4d idx = m.entry p4d idx) :
    GuestTopL5 kx native' nativeP4d' table p4d m' where
  user := by
    intro idx hidx
    rw [htable idx (lt_trans hidx (by decide))]
    exact h.user idx hidx
  kernel := by
    intro idx hlow hhigh
    have hidx : idx < 512 := lt_trans hhigh (by decide)
    rw [htable idx hidx, hnative idx hidx]
    exact h.kernel idx hlow hhigh
  last := by
    rw [htable _ (by decide)]
    exact h.last
  p4dCopied := by
    intro idx hidx hne
    rw [hp4d idx hidx, hnativeP4d idx hidx]
    exact h.p4dCopied idx hidx hne
  slot := by
    rw [hp4d _ (by decide)]
    exact h.slot

end Congr

/-- A call for fresh guest tables, none of them a native one. -/
structure CopyKernelPgdCall (cfg : KkmConfig) where
  mem : Memory
  kx : KkmMmuPml4e
  currentPgdBase : Nat
  guestKernelVa : Nat
  guestPayloadVa : Nat
  kernelP4dVa : Nat
  payloadP4dVa : Nat
  native : NativeTop cfg mem currentPgdBase
  kernel : GuestPages cfg mem currentPgdBase guestKernelVa kernelP4dVa
  payload : GuestPages cfg mem currentPgdBase guestPayloadVa payloadP4dVa
  tables_ne : guestPayloadVa ≠ guestKernelVa
  p4ds_ne : cfg.l5 = true → payloadP4dVa ≠ kernelP4dVa ∧
    guestPayloadVa ≠ kernelP4dVa ∧ payloadP4dVa ≠ guestKernelVa

namespace CopyKernelPgdCall

variable {cfg : KkmConfig} (c : CopyKernelPgdCall cfg)

/-- Memory after the first of the two tables. -/
def first : Memory :=
  kkmMmuSetupOnePgd cfg c.kx c.currentPgdBase c.guestKernelVa c.kernelP4dVa c.mem

/-- Memory after both tables. -/
def last : Memory :=
  kkmMmuSetupOnePgd cfg c.kx c.currentPgdBase c.guestPayloadVa c.payloadP4dVa c.first

/-- The P4D page the last native entry points to. -/
def nativeP4d : Nat := entryPa (c.mem.entry c.currentPgdBase kkmKxPgdP4dIndex)

theorem call_eq :
    kkmMmuCopyKernelPgd cfg c.kx c.currentPgdBase c.guestKernelVa c.guestPayloadVa
      c.kernelP4dVa c.payloadP4dVa c.mem = (0, c.last) := by
  rw [kkmMmuCopyKernelPgd, if_neg c.native.ne_zero]
  rfl

theorem first_entry
    {other idx : Nat} (hdvd : pageSize ∣ other) (hne : other ≠ c.guestKernelVa)
    (hneP4d : cfg.l5 = true → other ≠ c.kernelP4dVa) (hidx : idx < 512) :
    c.first.entry other idx = c.mem.entry other idx :=
  setupOnePgd_entry_of_ne c.kx c.native c.kernel hdvd hne hneP4d hidx

theorem first_pgd {idx : Nat} (hidx : idx < 512) :
    c.first.entry c.currentPgdBase idx = c.mem.entry c.currentPgdBase idx :=
  c.first_entry c.native.dvd c.kernel.ne_pgd.symm
    (fun hl5 => (c.kernel.p4dPage hl5).ne_pgd.symm) hidx

theorem native_first : NativeTop cfg c.first c.currentPgdBase :=
  c.native.congr (c.first_pgd (by decide))

theorem payload_first :
    GuestPages cfg c.first c.currentPgdBase c.guestPayloadVa c.payloadP4dVa :=
  c.payload.congr (c.first_pgd (by decide)) fun _ hidx =>
    c.first_entry c.payload.dvd c.tables_ne (fun hl5 => (c.p4ds_ne hl5).2.1) hidx

theorem last_entry
    {other idx : Nat} (hdvd : pageSize ∣ other) (hne : other ≠ c.guestPayloadVa)
    (hneP4d : cfg.l5 = true → other ≠ c.payloadP4dVa) (hidx : idx < 512) :
    c.last.entry other idx = c.first.entry other idx :=
  setupOnePgd_entry_of_ne c.kx c.native_first c.payload_first hdvd hne hneP4d hidx

/-- The native top-level table stays. -/
theorem last_pgd {idx : Nat} (hidx : idx < 512) :
    c.last.entry c.currentPgdBase idx = c.first.entry c.currentPgdBase idx :=
  c.last_entry c.native.dvd c.payload.ne_pgd.symm
    (fun hl5 => (c.payload.p4dPage hl5).ne_pgd.symm) hidx

/-- So does the native P4D page. -/
theorem first_nativeP4d (hl5 : cfg.l5 = true) {idx : Nat} (hidx : idx < 512) :
    c.first.entry c.nativeP4d idx = c.mem.entry c.nativeP4d idx :=
  c.first_entry (pageSize_dvd_entryPa _) (c.kernel.ne_native hl5).symm
    (fun _ => (c.kernel.p4dPage hl5).ne_native.symm) hidx

theorem last_nativeP4d (hl5 : cfg.l5 = true) {idx : Nat} (hidx : idx < 512) :
    c.last.entry c.nativeP4d idx = c.first.entry c.nativeP4d idx :=
  c.last_entry (pageSize_dvd_entryPa _) (c.payload.ne_native hl5).symm
    (fun _ => (c.payload.p4dPage hl5).ne_native.symm) hidx

theorem last_nativeP4d_eq :
    entryPa (c.last.entry c.currentPgdBase kkmKxPgdP4dIndex) = c.nativeP4d := by
  rw [c.last_pgd (by decide), c.first_pgd (by decide)]
  rfl

end CopyKernelPgdCall

/-! ## Main result -/

/-- After the call both guest tables translate the kernel half as the native
table, the slot through the kx hierarchy, and nothing of the user half. -/
theorem kkmMmuCopyKernelPgd_translates
    {cfg : KkmConfig} (c : CopyKernelPgdCall cfg) :
    let r := kkmMmuCopyKernelPgd cfg c.kx c.currentPgdBase c.guestKernelVa
      c.guestPayloadVa c.kernelP4dVa c.payloadP4dVa c.mem
    r.1 = 0 ∧
      TranslatesKernelHalf cfg c.kx c.currentPgdBase c.guestKernelVa r.2 ∧
      TranslatesKernelHalf cfg c.kx c.currentPgdBase c.guestPayloadVa r.2 := by
  rw [c.call_eq]
  refine ⟨rfl, ?_, ?_⟩
  · cases hl5 : cfg.l5 with
    | false =>
        have htop := setupOnePgd_l4 c.kx hl5 c.kernel
        refine GuestTopL4.translates hl5 (htop.congr ?_ ?_)
        · intro idx hidx
          rw [c.last_pgd hidx, c.first_pgd hidx]
        · intro idx hidx
          exact c.last_entry c.kernel.dvd c.tables_ne.symm
            (fun h => by rw [hl5] at h; cases h) hidx
    | true =>
        have htop := setupOnePgd_l5 c.kx hl5 c.native c.kernel
        have hp4d := c.kernel.p4dPage hl5
        obtain ⟨hp4ds, _, hpt⟩ := c.p4ds_ne hl5
        refine GuestTopL5.translates hl5 ?_ hp4d.dvd hp4d.lt (htop.congr ?_ ?_ ?_ ?_)
        · rw [c.last_pgd (by decide), c.first_pgd (by decide)]
          exact c.native.last_present hl5
        · intro idx hidx
          rw [c.last_pgd hidx, c.first_pgd hidx]
        · intro idx hidx
          rw [c.last_nativeP4d_eq, c.last_nativeP4d hl5 hidx,
            c.first_nativeP4d hl5 hidx]
          rfl
        · intro idx hidx
          exact c.last_entry c.kernel.dvd c.tables_ne.symm (fun _ => hpt.symm) hidx
        · intro idx hidx
          exact c.last_entry hp4d.dvd (c.p4ds_ne hl5).2.1.symm
            (fun _ => hp4ds.symm) hidx
  · cases hl5 : cfg.l5 with
    | false =>
        have htop := setupOnePgd_l4 c.kx hl5 c.payload_first
        exact GuestTopL4.translates hl5 (htop.congr
          (fun _ hidx => c.last_pgd hidx) fun _ _ => rfl)
    | true =>
        have htop := setupOnePgd_l5 c.kx hl5 c.native_first c.payload_first
        have hp4d := c.payload.p4dPage hl5
        refine GuestTopL5.translates hl5 ?_ hp4d.dvd hp4d.lt (htop.congr
          (fun _ hidx => c.last_pgd hidx) ?_ (fun _ _ => rfl) fun _ _ => rfl)
        · rw [c.last_pgd (by decide)]
          exact c.native_first.last_present hl5
        · intro idx hidx
          rw [c.last_pgd (by decide), c.first_pgd (by decide)]
          exact c.last_nativeP4d hl5 hidx

/-- 5-level tables of a native address space whose last P4D page leads to a kernel
page of 1 GiB at `0x40000000`; the kx hierarchy leads to one at `0x80000000`. -/
def bigPageMemory : Memory :=
  Memory.setEntry (Memory.setEntry (Memory.setEntry (Memory.setEntry (fun _ => 0#64)
    0x1000 kkmKxPgdP4dIndex 0x2067#64) 0x2000 511 0x3067#64)
    0x3000 0 0x400000E3#64) 0x8000 0 0x800000E3#64

theorem bigPageMemory_entry
    {table idx : Nat} (hlow : 0x4000 ≤ table) (hhigh : table < 0x8000 - pageSize)
    (hidx : idx < 512) : bigPageMemory.entry table idx = 0#64 := by
  simp only [pageSize] at hhigh
  have hlast : kkmKxPgdP4dIndex = 511 := rfl
  unfold bigPageMemory
  rw [hlast]
  simp (disch := omega) only [Memory.entry_setEntry_of_ne]
  rfl

theorem bigPageMemory_guestPages
    {table p4d : Nat} (htable : table = 0x4000 ∨ table = 0x5000)
    (hp4d : p4d = 0x6000 ∨ p4d = 0x7000) :
    GuestPages { KkmConfig.stock with l5 := true } bigPageMemory 0x1000 table p4d := by
  have hnative : entryPa (bigPageMemory.entry 0x1000 kkmKxPgdP4dIndex) = 0x2000 := by
    decide
  rcases htable with rfl | rfl <;> rcases hp4d with rfl | rfl
  all_goals
    refine ⟨by decide, by decide, ?_, fun _ => (by rw [hnative]; decide),
      fun _ => ⟨by decide, by decide, by decide, by decide, by decide,
        by rw [hnative]; decide⟩⟩
    intro idx hidx
    exact bigPageMemory_entry (by decide) (by decide) hidx

/-- The call for that address space. -/
def bigPageCall : CopyKernelPgdCall { KkmConfig.stock with l5 := true } where
  mem := bigPageMemory
  kx := { KkmMmuPml4e.zeroed with pgdEntry := 0x8067#64 }
  currentPgdBase := 0x1000
  guestKernelVa := 0x4000
  guestPayloadVa := 0x5000
  kernelP4dVa := 0x6000
  payloadP4dVa := 0x7000
  native := ⟨by decide, by decide, fun _ => by decide, fun _ => by decide⟩
  kernel := bigPageMemory_guestPages (.inl rfl) (.inl rfl)
  payload := bigPageMemory_guestPages (.inr rfl) (.inr rfl)
  tables_ne := by decide
  p4ds_ne := by decide

theorem kkmMmuCopyKernelPgd_translates_bigPage :
    TranslatesKernelHalf { KkmConfig.stock with l5 := true } bigPageCall.kx 0x1000 0x4000
        bigPageCall.last ∧
      TranslatesKernelHalf { KkmConfig.stock with l5 := true } bigPageCall.kx 0x1000
        0x5000 bigPageCall.last ∧
      walkPa bigPageCall.last 4 0x5000 0xFFFFFF8000000000 = some 0x40000000 ∧
      walkPa bigPageCall.last 4 0x5000 kkmPrivateStartVa = some 0x80000000 := by
  have h := kkmMmuCopyKernelPgd_translates bigPageCall
  rw [bigPageCall.call_eq] at h
  exact ⟨h.2.1, h.2.2, by decide +kernel, by decide +kernel⟩

end Driver
end KkmModule
