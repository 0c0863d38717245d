import KkmModule.Driver.MemorySlots

/-!
# Guest addresses and monitor addresses

`kkm_guest_va_to_monitor_va` maps a guest address to the monitor address that
backs it.  Guest memory appears in two windows of 512 GiB, one at the bottom of
the guest address space and one below 128 TiB; both show the same monitor
range.  The private area above 512 GiB is backed by two memory slots.
-/

namespace KkmModule
namespace Driver

open Foundation

/-! ## Constants of `kkm_externs.h` -/

def kkmGuestMemStartVa : BitVec 64 := 0x200000#64
def kkmGuestMaxPhysMem : BitVec 64 := 0x8000000000#64
def kkmGuestMemTopVa : BitVec 64 := 0x7FFFFFE00000#64

/-- `KKM_GUEST_MEM_TOP_VA - (KKM_GUEST_MAX_PHYS_MEM - 2 * KKM_MIB)` -/
def kkmGuestVaOffset : BitVec 64 :=
  kkmGuestMemTopVa - (kkmGuestMaxPhysMem - 0x200000#64)

def kkmKmUserMemBase (cfg : KkmConfig) : BitVec 64 :=
  if cfg.gpaAt16T then 0x100000000000#64 else 0#64

def kkmGuestVvarVdsoBaseVa : BitVec 64 := 0x8000000000#64
def kkmGuestKmguestmemBaseVa : BitVec 64 := 0x8000008000#64

/-- `KKM_KM_RSRV_VDSOSLOT` -/
def kkmKmRsrvVdsoslot : Fin kkmMaxMemorySlots := 41

/-- `KKM_KM_RSRV_KMGUESTMEM_SLOT` -/
def kkmKmRsrvKmguestmemSlot : Fin kkmMaxMemorySlots := 42

/-- The address lies in the guest range of a slot that starts at `base`. -/
def inSlotRange (slot : KkmMemSlot) (base guestVa : BitVec 64) : Bool :=
  slot.used && decide (base ≤ guestVa) &&
    decide (guestVa < base + slot.mr.memorySize)

/-- `kkm_guest_va_to_monitor_va`: the monitor address and `priv_area`, or
`none` when the function returns false. -/
def kkmGuestVaToMonitorVa
    (cfg : KkmConfig) (kkm : Kkm) (guestVa : BitVec 64) :
    Option (BitVec 64 × Bool) :=
  if kkmGuestMemStartVa ≤ guestVa ∧ guestVa < kkmGuestMaxPhysMem then
    some (kkmKmUserMemBase cfg + guestVa, false)
  else if kkmGuestVaOffset ≤ guestVa ∧ guestVa < kkmGuestMemTopVa then
    some (kkmKmUserMemBase cfg + (guestVa - kkmGuestVaOffset), false)
  else if inSlotRange (kkm.memSlot kkmKmRsrvVdsoslot)
      kkmGuestVvarVdsoBaseVa guestVa = true then
    some (guestVa - kkmGuestVvarVdsoBaseVa +
      (kkm.memSlot kkmKmRsrvVdsoslot).mr.userspaceAddr, true)
  else if inSlotRange (kkm.memSlot kkmKmRsrvKmguestmemSlot)
      kkmGuestKmguestmemBaseVa guestVa = true then
    some (guestVa - kkmGuestKmguestmemBaseVa +
      (kkm.memSlot kkmKmRsrvKmguestmemSlot).mr.userspaceAddr, true)
  else none

/-- Addresses outside the private area come from one of the two windows: the
bottom one (top-level index 0) or the top one (index 255).  The monitor address
has the index of the monitor's payload entry and the same low bits. -/
theorem kkmGuestVaToMonitorVa_window
    {cfg : KkmConfig} {kkm : Kkm} {guestVa monitorVa : BitVec 64}
    (h : kkmGuestVaToMonitorVa cfg kkm guestVa = some (monitorVa, false)) :
    (tableIndex 3 guestVa.toNat = kkmPgdGuestPayloadBottomEntry ∨
      tableIndex 3 guestVa.toNat = kkmPgdGuestPayloadTopEntry) ∧
    tableIndex 4 guestVa.toNat = 0 ∧
    tableIndex 3 monitorVa.toNat = kkmPgdMonitorPayloadEntry cfg ∧
    tableIndex 4 monitorVa.toNat = 0 ∧
    guestVa.toNat % span 3 = monitorVa.toNat % span 3 := by
  have hspan3 : span 3 = 0x8000000000 := by decide
  have hspan4 : span 4 = 0x1000000000000 := by decide
  have hbase :
      (cfg.gpaAt16T = true ∧ kkmPgdMonitorPayloadEntry cfg = 32 ∧
        kkmKmUserMemBase cfg = 0x100000000000#64) ∨
      (cfg.gpaAt16T = false ∧ kkmPgdMonitorPayloadEntry cfg = 0 ∧
        kkmKmUserMemBase cfg = 0#64) := by
    cases hcfg : cfg.gpaAt16T <;>
      simp [kkmPgdMonitorPayloadEntry, kkmKmUserMemBase, hcfg]
  unfold kkmGuestVaToMonitorVa at h
  split at h
  · rename_i hbottom
    simp only [Option.some.injEq, Prod.mk.injEq, and_true] at h
    subst h
    obtain ⟨hlo, hhi⟩ := hbottom
    simp only [kkmGuestMemStartVa, kkmGuestMaxPhysMem, BitVec.le_def,
      BitVec.lt_def, BitVec.toNat_ofNat] at hlo hhi
    rcases hbase with ⟨_, hentry, hb⟩ | ⟨_, hentry, hb⟩ <;>
      simp only [tableIndex, hspan3, hspan4, hentry, hb, BitVec.toNat_add,
        BitVec.toNat_ofNat, kkmPgdGuestPayloadBottomEntry,
        kkmPgdGuestPayloadTopEntry] <;>
      omega
  · split at h
    · rename_i htop
      simp only [Option.some.injEq, Prod.mk.injEq, and_true] at h
      subst h
      obtain ⟨hlo, hhi⟩ := htop
      have hoff : kkmGuestVaOffset = 0x7F8000000000#64 := by decide
      rw [hoff] at hlo
      simp only [kkmGuestMemTopVa, BitVec.le_def, BitVec.lt_def,
        BitVec.toNat_ofNat] at hlo hhi
      rw [hoff]
      rcases hbase with ⟨_, hentry, hb⟩ | ⟨_, hentry, hb⟩ <;>
        simp only [tableIndex, hspan3, hspan4, hentry, hb, BitVec.toNat_add,
          BitVec.toNat_sub, BitVec.toNat_ofNat, kkmPgdGuestPayloadBottomEntry,
          kkmPgdGuestPayloadTopEntry] <;>
        omega
    · split at h
      · simp at h
      · split at h
        · simp at h
        · cases h

/-! ## The private area -/

/-- Monitor address behind a private guest address: the vdso slot is asked
first. -/
def privateBacking (kkm : Kkm) (guestVa : BitVec 64) : Option (BitVec 64) :=
  if inSlotRange (kkm.memSlot kkmKmRsrvVdsoslot)
      kkmGuestVvarVdsoBaseVa guestVa = true then
    some (guestVa - kkmGuestVvarVdsoBaseVa +
      (kkm.memSlot kkmKmRsrvVdsoslot).mr.userspaceAddr)
  else if inSlotRange (kkm.memSlot kkmKmRsrvKmguestmemSlot)
      kkmGuestKmguestmemBaseVa guestVa = true then
    some (guestVa - kkmGuestKmguestmemBaseVa +
      (kkm.memSlot kkmKmRsrvKmguestmemSlot).mr.userspaceAddr)
  else none

/-- The first 2 MiB of the private area lie outside the two windows. -/
theorem kkmGuestVaToMonitorVa_private
    (cfg : KkmConfig) (kkm : Kkm) {guestVa : BitVec 64}
    (hlo : 0x8000000000 ≤ guestVa.toNat) (hhi : guestVa.toNat < 0x8000200000) :
    kkmGuestVaToMonitorVa cfg kkm guestVa =
      (privateBacking kkm guestVa).map fun monitorVa => (monitorVa, true) := by
  have hbottom : ¬ (kkmGuestMemStartVa ≤ guestVa ∧
      guestVa < kkmGuestMaxPhysMem) := by
    simp only [kkmGuestMaxPhysMem, BitVec.lt_def, BitVec.toNat_ofNat]
    omega
  have htop : ¬ (kkmGuestVaOffset ≤ guestVa ∧ guestVa < kkmGuestMemTopVa) := by
    have hoff : kkmGuestVaOffset = 0x7F8000000000#64 := by decide
    simp only [hoff, BitVec.le_def, BitVec.toNat_ofNat]
    omega
  unfold kkmGuestVaToMonitorVa privateBacking
  rw [if_neg hbottom, if_neg htop]
  split
  · rfl
  · split
    · rfl
    · rfl

/-- Size and monitor address of a used slot are multiples of the page size. -/
def KkmMemSlot.Aligned (slot : KkmMemSlot) : Prop :=
  slot.used = true →
    slot.mr.memorySize.toNat % pageSize = 0 ∧
      slot.mr.userspaceAddr.toNat % pageSize = 0

/-- Whether an address lies in the range of an aligned slot depends on its
page only. -/
theorem inSlotRange_congr
    {slot : KkmMemSlot} {base va va' : BitVec 64}
    (hslot : slot.Aligned) (hbase : base.toNat % pageSize = 0)
    (hpage : va.toNat / pageSize = va'.toNat / pageSize) :
    inSlotRange slot base va = inSlotRange slot base va' := by
  unfold inSlotRange
  cases hused : slot.used with
  | false => rfl
  | true =>
      obtain ⟨hsize, _⟩ := hslot hused
      simp only [pageSize] at hbase hpage hsize
      have hlo : base ≤ va ↔ base ≤ va' := by
        simp only [BitVec.le_def]
        omega
      have hend : (base + slot.mr.memorySize).toNat % 4096 = 0 := by
        rw [BitVec.toNat_add, Nat.mod_mod_of_dvd _ (by decide)]
        omega
      have hhi : va < base + slot.mr.memorySize ↔
          va' < base + slot.mr.memorySize := by
        simp only [BitVec.lt_def]
        omega
      rw [decide_eq_decide.mpr hlo, decide_eq_decide.mpr hhi]

/-- Adding a multiple of the page size acts on page numbers. -/
theorem page_add
    {x c : BitVec 64} (hc : c.toNat % pageSize = 0) :
    (x + c).toNat / pageSize =
      (x.toNat / pageSize + c.toNat / pageSize) % 2 ^ 52 := by
  obtain ⟨k, hk⟩ := Nat.dvd_of_mod_eq_zero hc
  have hpos : 0 < pageSize := by decide
  have hsplit : 2 ^ 64 = pageSize * 2 ^ 52 := by decide
  rw [BitVec.toNat_add, hk, hsplit, Nat.mod_mul_right_div_self,
    Nat.add_mul_div_left _ _ hpos, Nat.mul_div_cancel_left _ hpos]

/-- The monitor addresses of one guest page form one page. -/
theorem slot_monitor_page
    {base ua va va' : BitVec 64}
    (hbase : base.toNat % pageSize = 0) (hua : ua.toNat % pageSize = 0)
    (hpage : va.toNat / pageSize = va'.toNat / pageSize) :
    (va - base + ua).toNat / pageSize = (va' - base + ua).toNat / pageSize := by
  have hshift : ∀ x : BitVec 64, x - base + ua = x + (ua - base) := by
    intro x
    rw [BitVec.sub_eq_add_neg, BitVec.sub_eq_add_neg, BitVec.add_assoc,
      BitVec.add_comm (-base)]
  have hdiff : (ua - base).toNat % pageSize = 0 := by
    simp only [pageSize] at *
    rw [BitVec.toNat_sub, Nat.mod_mod_of_dvd _ (by decide)]
    have := base.isLt
    omega
  rw [hshift, hshift, page_add hdiff, page_add hdiff, hpage]

/-- Addresses of one page have their backing in one page. -/
theorem privateBacking_congr
    {kkm : Kkm} {va va' monitorVa : BitVec 64}
    (hslots : ∀ i, (kkm.memSlot i).Aligned)
    (hpage : va.toNat / pageSize = va'.toNat / pageSize)
    (h : privateBacking kkm va = some monitorVa) :
    ∃ monitorVa', privateBacking kkm va' = some monitorVa' ∧
      monitorVa'.toNat / pageSize = monitorVa.toNat / pageSize := by
  have hvdso : kkmGuestVvarVdsoBaseVa.toNat % pageSize = 0 := by decide
  have hmem : kkmGuestKmguestmemBaseVa.toNat % pageSize = 0 := by decide
  unfold privateBacking at h ⊢
  rw [← inSlotRange_congr (hslots kkmKmRsrvVdsoslot) hvdso hpage,
    ← inSlotRange_congr (hslots kkmKmRsrvKmguestmemSlot) hmem hpage]
  split at h
  · rename_i hin
    rw [if_pos hin]
    have hused : (kkm.memSlot kkmKmRsrvVdsoslot).used = true := by
      simp only [inSlotRange, Bool.and_eq_true] at hin
      exact hin.1.1
    refine ⟨_, rfl, ?_⟩
    rw [← Option.some.inj h]
    exact slot_monitor_page hvdso (hslots _ hused).2 hpage.symm
  · rename_i hout
    rw [if_neg hout]
    split at h
    · rename_i hin
      rw [if_pos hin]
      have hused : (kkm.memSlot kkmKmRsrvKmguestmemSlot).used = true := by
        simp only [inSlotRange, Bool.and_eq_true] at hin
        exact hin.1.1
      refine ⟨_, rfl, ?_⟩
      rw [← Option.some.inj h]
      exact slot_monitor_page hmem (hslots _ hused).2 hpage.symm
    · cases h

end Driver
end KkmModule
