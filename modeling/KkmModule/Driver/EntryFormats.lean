import KkmModule.Driver.Mmu

/-!
# The address in a page-table entry

`kkm_mmu_entry_pa` takes bits 12 to 51 of an entry for the address of a page.
Where the source builds an entry, and where it looks up a table of the next level
by hand, it uses `KKM_PAGE_PA_MASK`, which ends at bit 47.  The places agree on
the pages below 2^48 and on no other.
-/

namespace KkmModule
namespace Driver

open Foundation

/-! ## Addresses read by hand -/

/-- `kernel_pgd_kx_p4d_entry_pa` of `kkm_mmu_setup_one_pgd` -/
def kernelPgdKxP4dEntryPa (kernelPgdBase : Nat) (m : Memory) : BitVec 64 :=
  m.entry kernelPgdBase kkmKxPgdP4dIndex &&& kkmPagePaMask

/-- `native_kernel_low_p4d_pa` of `kkm_mmu_sync` -/
def nativeKernelLowP4dPa (currentPgdBase : Nat) (m : Memory) : BitVec 64 :=
  m.entry currentPgdBase kkmPgdLowP4dEntry &&& kkmPagePaMask

/-- The tables the two functions read are at these addresses. -/
structure LooksUpByHand
    (cfg : KkmConfig) (kernelPgdBase currentPgdBase : Nat) : Prop where
  setupOnePgd : ∀ (kx : KkmMmuPml4e) (pgdTableBase p4dTableBase : Nat) (m : Memory),
    p4dTableBase ≠ 0 →
    kkmMmuSetupOnePgd cfg kx kernelPgdBase pgdTableBase p4dTableBase m =
      let m := kkmMmuCopyRange kernelPgdBase kkmPgdKernelOffset
        pgdTableBase kkmPgdKernelOffset kkmPgdKernelSize m
      let m := kkmMmuCopyRange (kernelPgdKxP4dEntryPa kernelPgdBase m).toNat 0
        p4dTableBase 0 pageSize m
      let m := kkmMmuSetEntry p4dTableBase kkmKxPgdIndex kx.pgdEntry m
      kkmMmuInsertPage pgdTableBase kkmKxPgdP4dIndex p4dTableBase tableFlags m
  sync : ∀ m : Memory, nativeKernelEntry cfg currentPgdBase m =
    m.entry (nativeKernelLowP4dPa currentPgdBase m).toNat (kkmPgdMonitorPayloadEntry cfg)

theorem looksUpByHand
    {cfg : KkmConfig} (hl5 : cfg.l5 = true) (kernelPgdBase currentPgdBase : Nat) :
    LooksUpByHand cfg kernelPgdBase currentPgdBase where
  setupOnePgd kx pgdTableBase p4dTableBase m hp4d := by
    simp only [kkmMmuSetupOnePgd, if_pos hl5, if_neg hp4d, kernelPgdKxP4dEntryPa]
  sync m := by
    simp only [nativeKernelEntry, if_pos hl5, nativeKernelLowP4dPa]

/-! ## The two masks -/

/-- The masks select the same address exactly from an entry for a page below
2^48. -/
theorem and_pagePaMask_eq_iff (e : BitVec 64) :
    e &&& kkmPagePaMask = kkmMmuEntryPa e ↔ entryPa e < 2 ^ 48 := by
  constructor
  · intro h
    have hpa : entryPa e = (e &&& kkmPagePaMask).toNat := congrArg BitVec.toNat h.symm
    rw [hpa, BitVec.toNat_and]
    exact lt_of_le_of_lt Nat.and_le_right (by decide)
  · intro h
    apply BitVec.eq_of_toNat_eq
    rw [entryPa_and_pagePaMask h]
    rfl

/-- An address that fits an entry is kept by the mask exactly if it is below
2^48. -/
theorem ofNat_and_pagePaMask_iff
    {pa : Nat} (hpa : pageSize ∣ pa) (hlt : pa < 2 ^ 52) :
    BitVec.ofNat 64 pa &&& kkmPagePaMask = BitVec.ofNat 64 pa ↔ pa < 2 ^ 48 := by
  have hself : kkmMmuEntryPa (BitVec.ofNat 64 pa) = BitVec.ofNat 64 pa := by
    have hmask : BitVec.ofNat 64 (2 ^ 52 - 2 ^ 12) = ptePfnMask := by decide
    have h := ofNat_and_addressBits (n := 52) (by decide) hpa hlt
    rwa [hmask] at h
  have h := and_pagePaMask_eq_iff (BitVec.ofNat 64 pa)
  rwa [hself, entryPa_ofNat hpa hlt] at h

/-- Of an entry put together by hand `kkm_mmu_entry_pa` shows the masked
address. -/
theorem kkmMmuEntryPa_or
    (pa : BitVec 64) {flags : BitVec 64} (hflags : flags &&& ptePfnMask = 0#64) :
    kkmMmuEntryPa (pa &&& kkmPagePaMask ||| flags) = pa &&& kkmPagePaMask := by
  have hmask : kkmPagePaMask &&& ptePfnMask = kkmPagePaMask := by decide
  have hdist : (pa &&& kkmPagePaMask ||| flags) &&& ptePfnMask =
      (pa &&& kkmPagePaMask) &&& ptePfnMask ||| flags &&& ptePfnMask := by
    ext i
    simp [Bool.and_or_distrib_right]
  rw [kkmMmuEntryPa, hdist, hflags, BitVec.and_assoc, hmask, BitVec.or_zero]

/-! ## Entries that are stored -/

theorem kkmMmuEntryPa_makeEntry (pa : Nat) (flags : BitVec 64) :
    kkmMmuEntryPa (kkmMmuMakeEntry pa flags) =
      BitVec.ofNat 64 pa &&& kkmPagePaMask := by
  refine kkmMmuEntryPa_or (BitVec.ofNat 64 pa) ?_
  rw [BitVec.and_assoc, show kkmPageFlagsMask &&& ptePfnMask = 0#64 by decide,
    BitVec.and_zero]

/-- The flags do not depend on the address. -/
theorem makeEntry_and_flagsMask (pa : Nat) (flags : BitVec 64) :
    kkmMmuMakeEntry pa flags &&& kkmPageFlagsMask = flags &&& kkmPageFlagsMask := by
  have hmask : kkmPagePaMask &&& kkmPageFlagsMask = 0#64 := by decide
  have hdist : kkmMmuMakeEntry pa flags &&& kkmPageFlagsMask =
      (BitVec.ofNat 64 pa &&& kkmPagePaMask) &&& kkmPageFlagsMask |||
        (flags &&& kkmPageFlagsMask) &&& kkmPageFlagsMask := by
    rw [kkmMmuMakeEntry]
    ext i
    simp only [BitVec.getElem_and, BitVec.getElem_or, Bool.and_or_distrib_right]
  rw [hdist, BitVec.and_assoc, hmask, BitVec.and_zero, BitVec.zero_or,
    BitVec.and_assoc, BitVec.and_self]

/-- `pgd_entry` is put together without `kkm_mmu_insert_page`. -/
theorem kkmMmuEntryPa_pgdEntry
    {ref : Pml4Ref} {kx kmu : KkmMmuPml4e} {address : Nat}
    {a : Pml4Answers} {s s' : PageState}
    (hok : kkmCreatePml4 ref kx address a s = (0, kmu, s')) :
    kkmMmuEntryPa kmu.pgdEntry = BitVec.ofNat 64 kmu.pud.pa &&& kkmPagePaMask ∧
      pageSize ∣ kmu.pud.pa := by
  obtain ⟨pud, pmd, pt, rfl⟩ := kkmCreatePml4_answers hok
  rw [kkmCreatePml4_some] at hok
  obtain ⟨-, rfl, -⟩ : 0 = (0 : Int) ∧ _ := by simpa only [Prod.mk.injEq] using hok
  refine ⟨?_, Nat.dvd_mul_left _ _⟩
  simp only [pml4OfFrames, BitVec.or_assoc]
  exact kkmMmuEntryPa_or _ (by decide)

/-! ## All places -/

/-- Every place that stores or reads the address of a page by hand handles it as
`kkm_mmu_entry_pa` does: the entry of a page with its flags, `pgd_entry` of a new
hierarchy `kmu`, and on a 5-level machine the lookups in the two native tables. -/
structure EntryFormatsAgree
    (cfg : KkmConfig) (ptVa index pa : Nat) (flags : BitVec 64) (kmu : KkmMmuPml4e)
    (kernelPgdBase currentPgdBase : Nat) (m : Memory) : Prop where
  inserted : kkmMmuEntryPa ((kkmMmuInsertPage ptVa index pa flags m).entry ptVa index) =
    BitVec.ofNat 64 pa
  flags : (kkmMmuInsertPage ptVa index pa flags m).entry ptVa index &&&
    kkmPageFlagsMask = flags
  pgdEntry : kkmMmuEntryPa kmu.pgdEntry = BitVec.ofNat 64 kmu.pud.pa
  setupOnePgd : cfg.l5 = true → kernelPgdKxP4dEntryPa kernelPgdBase m =
    kkmMmuEntryPa (m.entry kernelPgdBase kkmKxPgdP4dIndex)
  sync : cfg.l5 = true → nativeKernelLowP4dPa currentPgdBase m =
    kkmMmuEntryPa (m.entry currentPgdBase kkmPgdLowP4dEntry)

/-- The places agree exactly as long as no page lies at or above 2^48. -/
theorem entryFormatsAgree_iff
    (cfg : KkmConfig) (ptVa index : Nat)
    {pa : Nat} (hpa : pageSize ∣ pa) (hlt : pa < 2 ^ 52)
    {flags : BitVec 64} (hflags : flags &&& kkmPageFlagsMask = flags)
    {ref : Pml4Ref} {kx kmu : KkmMmuPml4e} {address : Nat}
    {a : Pml4Answers} {s s' : PageState}
    (hok : kkmCreatePml4 ref kx address a s = (0, kmu, s'))
    (hpud : kmu.pud.pa < 2 ^ 52)
    (kernelPgdBase currentPgdBase : Nat) (m : Memory) :
    (cfg.l5 = true → LooksUpByHand cfg kernelPgdBase currentPgdBase) ∧
      (EntryFormatsAgree cfg ptVa index pa flags kmu kernelPgdBase currentPgdBase m ↔
        pa < 2 ^ 48 ∧ kmu.pud.pa < 2 ^ 48 ∧
          (cfg.l5 = true →
            entryPa (m.entry kernelPgdBase kkmKxPgdP4dIndex) < 2 ^ 48 ∧
              entryPa (m.entry currentPgdBase kkmPgdLowP4dEntry) < 2 ^ 48)) := by
  refine ⟨fun hl5 => looksUpByHand hl5 kernelPgdBase currentPgdBase, ?_⟩
  obtain ⟨hentry, hdvd⟩ := kkmMmuEntryPa_pgdEntry hok
  have hstored : (kkmMmuInsertPage ptVa index pa flags m).entry ptVa index =
      kkmMmuMakeEntry pa flags := Memory.entry_setEntry_self ..
  constructor
  · intro h
    refine ⟨?_, ?_, fun hl5 => ⟨?_, ?_⟩⟩
    · have hinserted := h.inserted
      rw [hstored, kkmMmuEntryPa_makeEntry] at hinserted
      exact (ofNat_and_pagePaMask_iff hpa hlt).mp hinserted
    · exact (ofNat_and_pagePaMask_iff hdvd hpud).mp (hentry.symm.trans h.pgdEntry)
    · exact (and_pagePaMask_eq_iff _).mp (h.setupOnePgd hl5)
    · exact (and_pagePaMask_eq_iff _).mp (h.sync hl5)
  · rintro ⟨hpa48, hpud48, hnative⟩
    constructor
    · rw [hstored, kkmMmuEntryPa_makeEntry]
      exact (ofNat_and_pagePaMask_iff hpa hlt).mpr hpa48
    · rw [hstored, makeEntry_and_flagsMask, hflags]
    · rw [hentry]
      exact (ofNat_and_pagePaMask_iff hdvd hpud).mpr hpud48
    · exact fun hl5 => (and_pagePaMask_eq_iff _).mpr (hnative hl5).1
    · exact fun hl5 => (and_pagePaMask_eq_iff _).mpr (hnative hl5).2

/-- The hierarchy built first after a boot. -/
def bootedPml4 : KkmMmuPml4e :=
  (kkmCreatePml4 .kkmMmuKx .zeroed kkmPrivateStartVa ⟨some 0, some 0, some 0⟩
    ⟨.empty 1, fun _ => 0#64⟩).2.1

theorem entryFormatsAgree_booted :
    EntryFormatsAgree { KkmConfig.stock with l5 := true } 0x4000 0 0x5000 tableFlags
      bootedPml4 0x6000 0x6000 fun _ => 0#64 := by
  have hok := kkmCreatePml4_some .kkmMmuKx .zeroed kkmPrivateStartVa 0 0 0
    ⟨.empty 1, fun _ => 0#64⟩
  have hdvd : pageSize ∣ 0x5000 := by decide
  have hlt : 0x5000 < 2 ^ 52 := by decide
  have hflags : tableFlags &&& kkmPageFlagsMask = tableFlags := by decide
  exact (entryFormatsAgree_iff { KkmConfig.stock with l5 := true } 0x4000 0 hdvd hlt
    hflags hok (by decide) 0x6000 0x6000 fun _ => 0#64).2.mpr (by decide)

/-- The entry written for the page at 2^48 shows address 0. -/
theorem insertPage_loses_bit48 :
    pageSize ∣ 2 ^ 48 ∧ 2 ^ 48 < 2 ^ 52 ∧
      kkmMmuEntryPa ((kkmMmuInsertPage 0x4000 0 (2 ^ 48) tableFlags
        fun _ => 0#64).entry 0x4000 0) = 0#64 ∧
      ¬ EntryFormatsAgree .stock 0x4000 0 (2 ^ 48) tableFlags bootedPml4
        0x6000 0x6000 fun _ => 0#64 := by
  refine ⟨by decide, by decide, by decide, fun h => ?_⟩
  exact absurd h.inserted (by decide)

end Driver
end KkmModule
