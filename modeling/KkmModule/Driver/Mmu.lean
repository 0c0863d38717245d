import KkmModule.Driver.MemoryPages

/-!
# Page tables of the guest (`kkm_mmu.c`)

Tables are byte addresses in the memory of the page allocator.  Everything the
source does to them is a write of single entries or a copy of a byte range.
-/

namespace KkmModule
namespace Driver

open Foundation

/-! ## Entry format -/

def pagePresent : BitVec 64 := 0x1#64
def pageRw : BitVec 64 := 0x2#64
def pageUser : BitVec 64 := 0x4#64
def pageNx : BitVec 64 := 0x8000000000000000#64

def kkmPageFlagsMask : BitVec 64 := 0x800000000000001F#64
def kkmPagePaMask : BitVec 64 := 0xFFFFFFFFF000#64

/-- `PTE_PFN_MASK`: bits 12 to 51. -/
def ptePfnMask : BitVec 64 := paMask

/-- `_PAGE_USER | _PAGE_RW | _PAGE_PRESENT` -/
def tableFlags : BitVec 64 := pageUser ||| pageRw ||| pagePresent

def kkmMmuMakeEntry (pa : Nat) (flags : BitVec 64) : BitVec 64 :=
  (BitVec.ofNat 64 pa &&& kkmPagePaMask) ||| (flags &&& kkmPageFlagsMask)

def kkmMmuSetEntry (ptVa index : Nat) (entry : BitVec 64) (m : Memory) :
    Memory :=
  m.setEntry ptVa index entry

def kkmMmuInsertPage
    (ptVa index pa : Nat) (flags : BitVec 64) (m : Memory) : Memory :=
  m.setEntry ptVa index (kkmMmuMakeEntry pa flags)

def kkmMmuEntryPa (entry : BitVec 64) : BitVec 64 := entry &&& ptePfnMask

/-- A present entry for a page shows its address. -/
theorem makeEntry_of_present
    {pa : Nat} {flags : BitVec 64} (hpa : pageSize ∣ pa) (hlt : pa < 2 ^ 48)
    (hflags : present flags = true) :
    present (kkmMmuMakeEntry pa flags) = true ∧
      entryPa (kkmMmuMakeEntry pa flags) = pa := by
  have hmask : kkmPagePaMask = BitVec.ofNat 64 (2 ^ 48 - 2 ^ 12) := by decide
  have hentry : kkmMmuMakeEntry pa flags =
      BitVec.ofNat 64 pa ||| (flags &&& kkmPageFlagsMask) := by
    rw [kkmMmuMakeEntry, hmask, ofNat_and_addressBits (by decide) hpa hlt]
  have hapart : (flags &&& kkmPageFlagsMask) &&& paMask = 0#64 := by
    rw [BitVec.and_assoc, show kkmPageFlagsMask &&& paMask = 0#64 by decide,
      BitVec.and_zero]
  rw [hentry]
  constructor
  · have hbit : kkmPageFlagsMask.getLsbD 0 = true := by decide
    rw [present] at hflags
    rw [present, BitVec.getLsbD_or, BitVec.getLsbD_and, hflags, hbit,
      Bool.and_self, Bool.or_true]
  · rw [entryPa_or_of_disjoint _ _ hapart]
    exact entryPa_ofNat hpa (lt_trans hlt (by decide))

/-- An entry for a table shows its address. -/
theorem makeEntry_table
    {pa : Nat} (hpa : pageSize ∣ pa) (hlt : pa < 2 ^ 48) :
    present (kkmMmuMakeEntry pa tableFlags) = true ∧
      entryPa (kkmMmuMakeEntry pa tableFlags) = pa :=
  makeEntry_of_present hpa hlt (by decide)

theorem makeEntry_not_large (level pa : Nat) :
    isLarge level (kkmMmuMakeEntry pa tableFlags) = false := by
  have hmask : kkmPagePaMask.getLsbD 7 = false := by decide
  have hflags : (tableFlags &&& kkmPageFlagsMask).getLsbD 7 = false := by decide
  have hbit : (kkmMmuMakeEntry pa tableFlags).getLsbD 7 = false := by
    rw [kkmMmuMakeEntry, BitVec.getLsbD_or, BitVec.getLsbD_and, hmask, hflags]
    simp
  rw [isLarge, hbit, Bool.and_false]

theorem entryPa_and_pagePaMask
    {e : BitVec 64} (h : entryPa e < 2 ^ 48) :
    (e &&& kkmPagePaMask).toNat = entryPa e := by
  have hmask : kkmPagePaMask = paMask &&& BitVec.ofNat 64 (2 ^ 48 - 2 ^ 12) := by
    decide
  have hself : e &&& paMask = BitVec.ofNat 64 (entryPa e) := by
    rw [entryPa, BitVec.ofNat_toNat, BitVec.setWidth_eq]
  rw [hmask, ← BitVec.and_assoc, hself,
    ofNat_and_addressBits (by decide) (pageSize_dvd_entryPa e) h, ← hself]
  rfl

/-- Address of the next table, if the entry is present. -/
def kkmMmuGetTableVa (tableVa index : Nat) (m : Memory) : Option Nat :=
  let entry := m.entry tableVa index
  let entryPa := kkmMmuEntryPa entry
  let nextTableVa := entryPa.toNat
  if entry &&& pagePresent ≠ 0 then some nextTableVa else none

/-! ## Indices -/

/-- `pgd_index`, whose shift depends on the paging mode. -/
def pgdIndex (cfg : KkmConfig) (va : Nat) : Nat :=
  tableIndex (if cfg.l5 then 4 else 3) va

def p4dIndex (va : Nat) : Nat := tableIndex 3 va
def pudIndex (va : Nat) : Nat := tableIndex 2 va
def pmdIndex (va : Nat) : Nat := tableIndex 1 va
def pteIndex (va : Nat) : Nat := tableIndex 0 va

/-- Level of the table `mm->pgd` points to. -/
def topLevel (cfg : KkmConfig) : Nat := if cfg.l5 then 4 else 3

/-! ## Constants of `kkm_mmu.h` -/

def kkmPrivateStartVa : Nat := 0xFFFFFE8000000000
def kkmKxPgdP4dIndex : Nat := 511
def kkmKxPgdIndex : Nat := 509
def kkmPgdKernelOffset : Nat := 2048
def kkmPgdKernelSize : Nat := 2048
def kkmPgdLowP4dEntry : Nat := 0
def kkmPgdGuestPayloadBottomEntry : Nat := 0
def kkmPgdGuestPayloadTopEntry : Nat := 255

def kkmPgdMonitorPayloadEntry (cfg : KkmConfig) : Nat :=
  if cfg.gpaAt16T then 32 else 0

/-- `KKM_KM_GUEST_PRIVATE_MEM_START_VA`, 512 GiB. -/
def kkmKmGuestPrivateMemStartVa : Nat := 0x8000000000

/-! ## Private hierarchies -/

/-- Answers of the page allocator in one `kkm_create_pml4`. -/
structure Pml4Answers where
  pud : Option Nat
  pmd : Option Nat
  pt : Option Nat
deriving DecidableEq, Repr

/-- The hierarchy a call is about: the global one, or one of a kontainer. -/
inductive Pml4Ref where
  | kkmMmuKx
  | kontainer
deriving DecidableEq, Repr

def kkmCleanupPml4 (kmu : KkmMmuPml4e) (s : PageState) : PageState :=
  let s := if kmu.pud.page ≠ none then kkmMmFreePage kmu.pud.va s else s
  let s := if kmu.pmd.page ≠ none then kkmMmFreePage kmu.pmd.va s else s
  if kmu.pt.page ≠ none then kkmMmFreePage kmu.pt.va s else s

/-- `kkm_mmu_cleanup`; the flush of the TLB is not part of this state. -/
def kkmMmuCleanup (kx : KkmMmuPml4e) (s : PageState) : PageState :=
  kkmCleanupPml4 kx s

/-- `kkm_create_pml4` up to its error label. -/
def kkmBuildPml4 (address : Nat) (a : Pml4Answers) (s : PageState) :
    Int × KkmMmuPml4e × PageState :=
  let kmu := KkmMmuPml4e.zeroed
  let (ret, pud, s) := kkmMmAllocatePage kmu.pud a.pud s
  let kmu := { kmu with pud := pud }
  if ret ≠ 0 then (ret, kmu, s)
  else
    let (ret, pmd, s) := kkmMmAllocatePage kmu.pmd a.pmd s
    let kmu := { kmu with pmd := pmd }
    if ret ≠ 0 then (ret, kmu, s)
    else
      let (ret, pt, s) := kkmMmAllocatePage kmu.pt a.pt s
      let kmu := { kmu with pt := pt }
      if ret ≠ 0 then (ret, kmu, s)
      else
        let kmu := { kmu with
          pgdEntry := (BitVec.ofNat 64 kmu.pud.pa &&& kkmPagePaMask) |||
            pageUser ||| pageRw ||| pagePresent }
        let m := kkmMmuInsertPage kmu.pud.va (pudIndex address) kmu.pmd.pa
          tableFlags s.mem
        let m := kkmMmuInsertPage kmu.pmd.va (pmdIndex address) kmu.pt.pa
          tableFlags m
        (0, kmu, { s with mem := m })

/-- `kkm_create_pml4`.  The error path cleans up the global hierarchy, which is
`kmu` itself only when the call is about the global one. -/
def kkmCreatePml4
    (ref : Pml4Ref) (kx : KkmMmuPml4e) (address : Nat)
    (a : Pml4Answers) (s : PageState) :
    Int × KkmMmuPml4e × PageState :=
  let (ret, kmu, s) := kkmBuildPml4 address a s
  if ret ≠ 0 then
    match ref with
    | .kkmMmuKx => (ret, kmu, kkmMmuCleanup kmu s)
    | .kontainer => (ret, kmu, kkmMmuCleanup kx s)
  else (ret, kmu, s)

def kkmMmuInit (a : Pml4Answers) (s : PageState) :
    Int × KkmMmuPml4e × PageState :=
  kkmCreatePml4 .kkmMmuKx .zeroed kkmPrivateStartVa a s

/-- The hierarchy built from three page frames. -/
def pml4OfFrames (pud pmd pt : Nat) : KkmMmuPml4e where
  pgdEntry := (BitVec.ofNat 64 (pud * pageSize) &&& kkmPagePaMask) |||
    pageUser ||| pageRw ||| pagePresent
  pud := ⟨some pud, pud * pageSize, pud * pageSize⟩
  pmd := ⟨some pmd, pmd * pageSize, pmd * pageSize⟩
  pt := ⟨some pt, pt * pageSize, pt * pageSize⟩

/-- `kkm_create_pml4` when no allocation fails. -/
theorem kkmCreatePml4_some
    (ref : Pml4Ref) (kx : KkmMmuPml4e) (address pud pmd pt : Nat)
    (s : PageState) :
    kkmCreatePml4 ref kx address ⟨some pud, some pmd, some pt⟩ s =
      let pool1 := s.pool.take pud 0
      let pool2 := pool1.take pmd 0
      let pool3 := pool2.take pt 0
      let pudFrame := s.pool.next + pud
      let pmdFrame := pool1.next + pmd
      let ptFrame := pool2.next + pt
      let m := zeroBlock ⟨ptFrame, 0⟩ (zeroBlock ⟨pmdFrame, 0⟩
        (zeroBlock ⟨pudFrame, 0⟩ s.mem))
      (0, pml4OfFrames pudFrame pmdFrame ptFrame,
        ⟨pool3,
          kkmMmuInsertPage (pmdFrame * pageSize) (pmdIndex address)
            (ptFrame * pageSize) tableFlags
            (kkmMmuInsertPage (pudFrame * pageSize) (pudIndex address)
              (pmdFrame * pageSize) tableFlags m)⟩) := by
  simp [kkmCreatePml4, kkmBuildPml4, kkmMmAllocatePage, pml4OfFrames,
    BlockPool.offer]

/-- `kkm_create_pml4` succeeds only if all three allocations do. -/
theorem kkmCreatePml4_answers
    {ref : Pml4Ref} {kx kmu : KkmMmuPml4e} {address : Nat}
    {a : Pml4Answers} {s s' : PageState}
    (hok : kkmCreatePml4 ref kx address a s = (0, kmu, s')) :
    ∃ pud pmd pt, a = ⟨some pud, some pmd, some pt⟩ := by
  obtain ⟨pud, pmd, pt⟩ := a
  cases pud with
  | none =>
      cases ref <;>
        simp [kkmCreatePml4, kkmBuildPml4, kkmMmAllocatePage, enomem] at hok
  | some pud =>
      cases pmd with
      | none =>
          cases ref <;>
            simp [kkmCreatePml4, kkmBuildPml4, kkmMmAllocatePage, enomem] at hok
      | some pmd =>
          cases pt with
          | none =>
              cases ref <;>
                simp [kkmCreatePml4, kkmBuildPml4, kkmMmAllocatePage,
                  enomem] at hok
          | some pt => exact ⟨pud, pmd, pt, rfl⟩

theorem kkmCreatePml4_nonpos
    (ref : Pml4Ref) (kx : KkmMmuPml4e) (address : Nat)
    (a : Pml4Answers) (s : PageState) :
    (kkmCreatePml4 ref kx address a s).1 ≤ 0 := by
  obtain ⟨pud, pmd, pt⟩ := a
  cases pud with
  | none =>
      cases ref <;> simp [kkmCreatePml4, kkmBuildPml4, kkmMmAllocatePage, enomem]
  | some pud =>
      cases pmd with
      | none =>
          cases ref <;>
            simp [kkmCreatePml4, kkmBuildPml4, kkmMmAllocatePage, enomem]
      | some pmd =>
          cases pt with
          | none =>
              cases ref <;>
                simp [kkmCreatePml4, kkmBuildPml4, kkmMmAllocatePage, enomem]
          | some pt => rw [kkmCreatePml4_some]

/-! ## Kernel half of the guest tables -/

def kkmMmuCopyRange
    (srcBase srcOffset destBase destOffset count : Nat) (m : Memory) :
    Memory := fun a =>
  if destBase + destOffset ≤ a ∧ a < destBase + destOffset + count then
    m (a - (destBase + destOffset) + (srcBase + srcOffset))
  else m a

def kkmMmuSetupOnePgd
    (cfg : KkmConfig) (kx : KkmMmuPml4e)
    (kernelPgdBase pgdTableBase p4dTableBase : Nat) (m : Memory) : Memory :=
  let m := kkmMmuCopyRange kernelPgdBase kkmPgdKernelOffset
    pgdTableBase kkmPgdKernelOffset kkmPgdKernelSize m
  if cfg.l5 then
    if p4dTableBase = 0 then m
    else
      let kernelPgdKxP4dEntryPa :=
        m.entry kernelPgdBase kkmKxPgdP4dIndex &&& kkmPagePaMask
      let m := kkmMmuCopyRange kernelPgdKxP4dEntryPa.toNat 0
        p4dTableBase 0 pageSize m
      let m := kkmMmuSetEntry p4dTableBase kkmKxPgdIndex kx.pgdEntry m
      kkmMmuInsertPage pgdTableBase kkmKxPgdP4dIndex p4dTableBase tableFlags m
  else kkmMmuSetEntry pgdTableBase kkmKxPgdIndex kx.pgdEntry m

def kkmMmuCopyKernelPgd
    (cfg : KkmConfig) (kx : KkmMmuPml4e)
    (currentPgdBase guestKernelVa guestPayloadVa : Nat)
    (kernelP4dVa payloadP4dVa : Nat) (m : Memory) :
    Int × Memory :=
  if currentPgdBase = 0 then (-einval, m)
  else
    let m := kkmMmuSetupOnePgd cfg kx currentPgdBase guestKernelVa kernelP4dVa m
    let m := kkmMmuSetupOnePgd cfg kx currentPgdBase guestPayloadVa payloadP4dVa m
    (0, m)

/-! ## User half of the guest tables -/

/-- `native_kernel_entry` -/
def nativeKernelEntry
    (cfg : KkmConfig) (currentPgdBase : Nat) (m : Memory) : BitVec 64 :=
  if cfg.l5 then
    let nativeKernelLowP4dPa :=
      m.entry currentPgdBase kkmPgdLowP4dEntry &&& kkmPagePaMask
    m.entry nativeKernelLowP4dPa.toNat (kkmPgdMonitorPayloadEntry cfg)
  else m.entry currentPgdBase (kkmPgdMonitorPayloadEntry cfg)

/-- `guest_payload_entry` -/
def guestPayloadEntry
    (cfg : KkmConfig) (guestPayloadVa lowP4dVa : Nat) (m : Memory) : BitVec 64 :=
  if cfg.l5 then m.entry lowP4dVa kkmPgdGuestPayloadBottomEntry
  else m.entry guestPayloadVa kkmPgdGuestPayloadBottomEntry

/-- The stores of `kkm_mmu_sync` with 5-level paging. -/
def syncStoresL5
    (guestKernelVa guestPayloadVa : Nat) (guest : KkmMmuPml4e)
    (lowP4dVa lowP4dPa : Nat) (newGuestEntry : BitVec 64) (m : Memory) :
    Memory :=
  let m := kkmMmuInsertPage guestKernelVa kkmPgdLowP4dEntry lowP4dPa
    tableFlags m
  let m := kkmMmuInsertPage guestPayloadVa kkmPgdLowP4dEntry lowP4dPa
    tableFlags m
  let m := m.setEntry lowP4dVa kkmPgdGuestPayloadBottomEntry newGuestEntry
  let m := m.setEntry lowP4dVa 1 guest.pgdEntry
  m.setEntry lowP4dVa kkmPgdGuestPayloadTopEntry newGuestEntry

/-- The stores of `kkm_mmu_sync` with 4-level paging. -/
def syncStoresL4
    (guestKernelVa guestPayloadVa : Nat) (guest : KkmMmuPml4e)
    (newGuestEntry : BitVec 64) (m : Memory) : Memory :=
  let m := m.setEntry guestKernelVa kkmPgdGuestPayloadBottomEntry newGuestEntry
  let m := m.setEntry guestPayloadVa kkmPgdGuestPayloadBottomEntry newGuestEntry
  let m := m.setEntry guestKernelVa 1 guest.pgdEntry
  let m := m.setEntry guestPayloadVa 1 guest.pgdEntry
  let m := m.setEntry guestKernelVa kkmPgdGuestPayloadTopEntry newGuestEntry
  m.setEntry guestPayloadVa kkmPgdGuestPayloadTopEntry newGuestEntry

def kkmMmuSync
    (cfg : KkmConfig)
    (currentPgdBase guestKernelVa guestPayloadVa : Nat)
    (guest : KkmMmuPml4e) (lowP4dVa lowP4dPa : Nat) (m : Memory) :
    Int × Memory :=
  let nativeEntry := nativeKernelEntry cfg currentPgdBase m
  let guestEntry := guestPayloadEntry cfg guestPayloadVa lowP4dVa m
  if kkmMmuEntryPa nativeEntry = kkmMmuEntryPa guestEntry then (0, m)
  else
    let newGuestEntry := nativeEntry &&& ~~~pageNx
    if cfg.l5 then
      (0, syncStoresL5 guestKernelVa guestPayloadVa guest lowP4dVa lowP4dPa
        newGuestEntry m)
    else
      (0, syncStoresL4 guestKernelVa guestPayloadVa guest newGuestEntry m)

/-- `kkm_mmu_sync` writes the guest tables only. -/
theorem kkmMmuSync_entry_of_ne
    (cfg : KkmConfig) (currentPgdBase : Nat) (guest : KkmMmuPml4e)
    (lowP4dPa : Nat) (m : Memory)
    {guestKernelVa guestPayloadVa lowP4dVa table idx : Nat}
    (hidx : idx < 512) (hdvd : pageSize ∣ table)
    (hgkDvd : pageSize ∣ guestKernelVa) (hgk : table ≠ guestKernelVa)
    (hgpDvd : pageSize ∣ guestPayloadVa) (hgp : table ≠ guestPayloadVa)
    (hlow : cfg.l5 = true → pageSize ∣ lowP4dVa ∧ table ≠ lowP4dVa) :
    (kkmMmuSync cfg currentPgdBase guestKernelVa guestPayloadVa guest lowP4dVa
      lowP4dPa m).2.entry table idx = m.entry table idx := by
  have fgk : ∀ (m : Memory) (i : Nat) (e : BitVec 64), i < 512 →
      (m.setEntry guestKernelVa i e).entry table idx = m.entry table idx :=
    fun m _ e hi => m.entry_setEntry_of_table_ne e hdvd hgkDvd hgk hidx hi
  have fgp : ∀ (m : Memory) (i : Nat) (e : BitVec 64), i < 512 →
      (m.setEntry guestPayloadVa i e).entry table idx = m.entry table idx :=
    fun m _ e hi => m.entry_setEntry_of_table_ne e hdvd hgpDvd hgp hidx hi
  unfold kkmMmuSync
  dsimp only
  split
  · rfl
  · split
    · rename_i hl5
      obtain ⟨hlowDvd, hlowNe⟩ := hlow hl5
      have flow : ∀ (m : Memory) (i : Nat) (e : BitVec 64), i < 512 →
          (m.setEntry lowP4dVa i e).entry table idx = m.entry table idx :=
        fun m _ e hi =>
          m.entry_setEntry_of_table_ne e hdvd hlowDvd hlowNe hidx hi
      simp [syncStoresL5, fgk, fgp, flow, kkmMmuInsertPage, kkmPgdLowP4dEntry,
        kkmPgdGuestPayloadBottomEntry, kkmPgdGuestPayloadTopEntry]
    · simp [syncStoresL4, fgk, fgp, kkmPgdGuestPayloadBottomEntry,
        kkmPgdGuestPayloadTopEntry]

/-! ## Private area of the guest -/

/-- The last native table on the way to a monitor address. -/
def kkmMmuNativePageTable
    (cfg : KkmConfig) (monitorFaultAddress currentPgdBase : Nat)
    (m : Memory) : Option Nat := do
  let tableVa ← kkmMmuGetTableVa currentPgdBase
    (pgdIndex cfg monitorFaultAddress) m
  let tableVa ←
    if cfg.l5 then kkmMmuGetTableVa tableVa (p4dIndex monitorFaultAddress) m
    else some tableVa
  let tableVa ← kkmMmuGetTableVa tableVa (pudIndex monitorFaultAddress) m
  kkmMmuGetTableVa tableVa (pmdIndex monitorFaultAddress) m

def kkmMmuUpdatePrivArea
    (cfg : KkmConfig)
    (guestFaultAddress monitorFaultAddress currentPgdBase : Nat)
    (guest : KkmMmuPml4e) (m : Memory) :
    Bool × Memory :=
  match kkmMmuNativePageTable cfg monitorFaultAddress currentPgdBase m with
  | none => (false, m)
  | some tableVa =>
      (true, m.setEntry guest.pt.va (pteIndex guestFaultAddress)
        (m.entry tableVa (pteIndex monitorFaultAddress)))

end Driver
end KkmModule
