import KkmModule.Driver.PrivateHierarchy

/-!
# Page faults of the payload

`kkm_process_page_fault` touches the monitor page behind a fault address, so
that the native kernel maps it.  For an address of the private area it then
copies the native page-table entry into the kontainer's private page table.

That table has one page for 2 MiB of addresses and is indexed by the fault
address modulo 2 MiB, while the memory slots behind the private area may be of
any size.
-/

namespace KkmModule
namespace Driver

open Foundation

def x86PfWrite : BitVec 64 := 0x2#64
def x86PfUser : BitVec 64 := 0x4#64

/-- `KKM_KONTEXT_FAULT_PROCESS_DONE` -/
def kkmKontextFaultProcessDone : Int := 256

/-- Outcome of a copy of one byte from the monitor: the buffer afterwards, and
the memory, in which the native kernel may have mapped the page. -/
structure UserRead where
  failed : Bool
  byte : BitVec 8
  mem : Memory

/-- Outcome of a copy of one byte to the monitor. -/
structure UserWrite where
  failed : Bool
  mem : Memory

/-- `kkm_process_page_fault`.  `nativePgd` is `kkm->mm->pgd`.  The flush of the
TLB and the statistics are not part of this state. -/
def kkmProcessPageFault
    (cfg : KkmConfig) (nativePgd : Nat) (kkm : Kkm)
    (read : UserRead) (write : UserWrite)
    (kontext : KkmKontext) (m : Memory) :
    Int × KkmKontext × Memory :=
  let errorCode := kontext.ga.trapInfo.error
  let faultVa := kontext.ga.sregs.cr2
  let kontext := { kontext with trapAddr := faultVa, errorCode := errorCode }
  match kkmGuestVaToMonitorVa cfg kkm faultVa with
  | none => (-efault, kontext, m)
  | some (monitorFaultAddress, privArea) =>
      if errorCode &&& x86PfUser = x86PfUser then
        let kontext := { kontext with
          ga := { kontext.ga with instructionDecode := read.byte } }
        if read.failed then (-efault, kontext, read.mem)
        else
          let writes := errorCode &&& x86PfWrite = x86PfWrite
          let m := if writes then write.mem else read.mem
          if writes ∧ write.failed then (-efault, kontext, m)
          else
            let m :=
              if privArea then
                (kkmMmuUpdatePrivArea cfg faultVa.toNat
                  monitorFaultAddress.toNat nativePgd kkm.kkmGuestPml4e m).2
              else m
            let kontext := { kontext with
              ga := { kontext.ga with
                sregs := { kontext.ga.sregs with cr2 := 0 } } }
            (kkmKontextFaultProcessDone, kontext, m)
      else (0, kontext, m)

/-- Memory after the copies of a fault. -/
def memAfterCopies
    (read : UserRead) (write : UserWrite) (kontext : KkmKontext) : Memory :=
  if kontext.ga.trapInfo.error &&& x86PfWrite = x86PfWrite then write.mem
  else read.mem

/-- What a fault in the private area that is reported as done has written. -/
theorem kkmProcessPageFault_done
    {cfg : KkmConfig} {nativePgd : Nat} {kkm : Kkm}
    {read : UserRead} {write : UserWrite} {kontext : KkmKontext}
    {m : Memory} {monitorVa : BitVec 64}
    (hva : kkmGuestVaToMonitorVa cfg kkm kontext.ga.sregs.cr2 =
      some (monitorVa, true))
    (hdone : (kkmProcessPageFault cfg nativePgd kkm read write kontext m).1 =
      kkmKontextFaultProcessDone) :
    (kkmProcessPageFault cfg nativePgd kkm read write kontext m).2.2 =
      (kkmMmuUpdatePrivArea cfg kontext.ga.sregs.cr2.toNat monitorVa.toNat
        nativePgd kkm.kkmGuestPml4e (memAfterCopies read write kontext)).2 := by
  unfold kkmProcessPageFault at hdone ⊢
  simp only [hva] at hdone ⊢
  split at hdone
  · rename_i huser
    rw [if_pos huser]
    split at hdone
    · cases hdone
    · rename_i hread
      rw [if_neg hread]
      split at hdone
      · cases hdone
      · rename_i hwrite
        rw [if_neg hwrite]
        rfl
  · cases hdone

/-- Every other fault writes no table. -/
theorem kkmProcessPageFault_cases
    (cfg : KkmConfig) (nativePgd : Nat) (kkm : Kkm)
    (read : UserRead) (write : UserWrite) (kontext : KkmKontext) (m : Memory) :
    let r := kkmProcessPageFault cfg nativePgd kkm read write kontext m
    (∃ monitorVa, kkmGuestVaToMonitorVa cfg kkm kontext.ga.sregs.cr2 =
        some (monitorVa, true) ∧ r.1 = kkmKontextFaultProcessDone) ∨
      ((∀ monitorVa, kkmGuestVaToMonitorVa cfg kkm kontext.ga.sregs.cr2 =
          some (monitorVa, true) → r.1 ≠ kkmKontextFaultProcessDone) ∧
        (r.2.2 = m ∨ r.2.2 = read.mem ∨ r.2.2 = write.mem)) := by
  intro r
  have hfault : -efault ≠ kkmKontextFaultProcessDone := by decide
  have hzero : (0 : Int) ≠ kkmKontextFaultProcessDone := by decide
  cases hva : kkmGuestVaToMonitorVa cfg kkm kontext.ga.sregs.cr2 with
  | none =>
      right
      refine ⟨by simp, Or.inl ?_⟩
      simp [r, kkmProcessPageFault, hva]
  | some translated =>
      obtain ⟨monitorVa, privArea⟩ := translated
      by_cases huser : kontext.ga.trapInfo.error &&& x86PfUser = x86PfUser
      · by_cases hread : read.failed = true
        · right
          refine ⟨?_, Or.inr (Or.inl ?_)⟩ <;>
            simp [r, kkmProcessPageFault, hva, huser, hread, hfault]
        · by_cases hwrite : kontext.ga.trapInfo.error &&& x86PfWrite = x86PfWrite ∧
              write.failed = true
          · right
            refine ⟨?_, Or.inr (Or.inr ?_)⟩ <;>
              simp [r, kkmProcessPageFault, hva, huser, hread, hwrite, hfault]
          · cases privArea with
            | true =>
                left
                refine ⟨monitorVa, rfl, ?_⟩
                simp [r, kkmProcessPageFault, hva, huser, hread, hwrite]
            | false =>
                right
                refine ⟨by simp, Or.inr ?_⟩
                by_cases hw : kontext.ga.trapInfo.error &&& x86PfWrite = x86PfWrite
                · right
                  simp only [hw, true_and] at hwrite
                  simp [r, kkmProcessPageFault, hva, huser, hread, hw, hwrite]
                · left
                  simp [r, kkmProcessPageFault, hva, huser, hread, hw]
      · right
        refine ⟨?_, Or.inl ?_⟩ <;>
          simp [r, kkmProcessPageFault, hva, huser, hzero]

/-! ## Faults in the private area -/

/-- A fault in the private area that is reported as done, for an address whose
monitor page is natively mapped by a 4K page. -/
structure PrivateFault (cfg : KkmConfig) where
  nativePgd : Nat
  kkm : Kkm
  kontext : KkmKontext
  mem : Memory
  read : UserRead
  write : UserWrite
  monitorVa : BitVec 64
  nativeEntry : BitVec 64
  /-- the private hierarchy comes from `kkm_create_pml4` -/
  kx : KkmMmuPml4e
  answers : Pml4Answers
  beforeCreate : PageState
  created : PageState
  create_ok : kkmCreatePml4 .kontainer kx kkmKmGuestPrivateMemStartVa answers
    beforeCreate = (0, kkm.kkmGuestPml4e, created)
  created_low : created.pool.next * pageSize ≤ 2 ^ 48
  /-- nobody else writes its pages -/
  mem_pud : ∀ idx, idx < 512 →
    mem.entry kkm.kkmGuestPml4e.pud.va idx =
      created.mem.entry kkm.kkmGuestPml4e.pud.va idx
  mem_pmd : ∀ idx, idx < 512 →
    mem.entry kkm.kkmGuestPml4e.pmd.va idx =
      created.mem.entry kkm.kkmGuestPml4e.pmd.va idx
  copies_keep : ∀ table idx, idx < 512 →
    table = kkm.kkmGuestPml4e.pud.va ∨ table = kkm.kkmGuestPml4e.pmd.va ∨
      table = kkm.kkmGuestPml4e.pt.va →
    (memAfterCopies read write kontext).entry table idx = mem.entry table idx
  translated : kkmGuestVaToMonitorVa cfg kkm kontext.ga.sregs.cr2 =
    some (monitorVa, true)
  mapped : walk (memAfterCopies read write kontext) (topLevel cfg) nativePgd
    monitorVa.toNat = some ⟨nativeEntry, 0⟩
  native_apart : ∀ a ∈ walkPath (memAfterCopies read write kontext)
    (topLevel cfg) nativePgd monitorVa.toNat,
    ∀ idx, idx < 512 → a ≠ kkm.kkmGuestPml4e.pt.va + 8 * idx
  done : (kkmProcessPageFault cfg nativePgd kkm read write kontext mem).1 =
    kkmKontextFaultProcessDone

namespace PrivateFault

variable {cfg : KkmConfig} (f : PrivateFault cfg)

def faultVa : BitVec 64 := f.kontext.ga.sregs.cr2

def memAfter : Memory :=
  (kkmProcessPageFault cfg f.nativePgd f.kkm f.read f.write f.kontext f.mem).2.2

/-- The fault address now reaches the native leaf of its monitor address, and
no other page of the private area is translated differently. -/
def Resolved : Prop :=
  privateWalk f.kkm.kkmGuestPml4e f.memAfter f.faultVa.toNat =
      walk f.memAfter (topLevel cfg) f.nativePgd f.monitorVa.toNat ∧
    ∀ guestVa monitorVa : BitVec 64,
      kkmGuestVaToMonitorVa cfg f.kkm guestVa = some (monitorVa, true) →
      guestVa.toNat / pageSize ≠ f.faultVa.toNat / pageSize →
      privateWalk f.kkm.kkmGuestPml4e f.memAfter guestVa.toNat =
        privateWalk f.kkm.kkmGuestPml4e f.mem guestVa.toNat

theorem hierarchy : PrivateHierarchy f.kkm.kkmGuestPml4e f.mem :=
  (kkmCreatePml4_hierarchy f.create_ok f.created_low).congr f.mem_pud f.mem_pmd

/-- The copies leave the hierarchy alone. -/
theorem hierarchy_afterCopies :
    PrivateHierarchy f.kkm.kkmGuestPml4e
      (memAfterCopies f.read f.write f.kontext) :=
  f.hierarchy.congr
    (fun idx hidx => f.copies_keep _ idx hidx (Or.inl rfl))
    (fun idx hidx => f.copies_keep _ idx hidx (Or.inr (Or.inl rfl)))

/-- The whole effect on the tables: one entry of the page table. -/
theorem memAfter_eq :
    f.memAfter = (memAfterCopies f.read f.write f.kontext).setEntry
      f.kkm.kkmGuestPml4e.pt.va (pteIndex f.faultVa.toNat) f.nativeEntry := by
  obtain ⟨table, htable, hentry, _⟩ := kkmMmuNativePageTable_of_leaf f.mapped
  unfold memAfter
  rw [kkmProcessPageFault_done f.translated f.done]
  simp only [kkmMmuUpdatePrivArea, htable, hentry]
  rfl

theorem walk_native_after :
    walk f.memAfter (topLevel cfg) f.nativePgd f.monitorVa.toNat =
      some ⟨f.nativeEntry, 0⟩ := by
  rw [f.memAfter_eq, ← f.mapped]
  apply walk_congr_path
  intro a ha
  have hne := f.native_apart a ha (pteIndex f.faultVa.toNat)
    (tableIndex_lt 0 f.faultVa.toNat)
  exact Function.update_of_ne hne _ _

/-- A walk in the window ends at the entry the fault wrote or, for another
page, at the entry that was there. -/
theorem privateWalk_after
    {guestVa : Nat} (hwin : InPrivateWindow guestVa) :
    privateWalk f.kkm.kkmGuestPml4e f.memAfter guestVa =
      if pteIndex guestVa = pteIndex f.faultVa.toNat then
        some ⟨f.nativeEntry, 0⟩
      else privateWalk f.kkm.kkmGuestPml4e f.mem guestVa := by
  have hafter : PrivateHierarchy f.kkm.kkmGuestPml4e f.memAfter := by
    rw [f.memAfter_eq]
    exact f.hierarchy_afterCopies.setPte (tableIndex_lt 0 f.faultVa.toNat) _
  rw [hafter.walk_of_window hwin, f.hierarchy.walk_of_window hwin, f.memAfter_eq]
  obtain ⟨_, _, _, hpresent⟩ := kkmMmuNativePageTable_of_leaf f.mapped
  have hidx : pteIndex guestVa = tableIndex 0 guestVa := rfl
  split
  · rename_i heq
    rw [hidx] at heq
    simp [walk, walkEntry, heq, Memory.entry_setEntry_self, hpresent]
  · rename_i hne
    rw [hidx] at hne
    have hkeep := f.copies_keep f.kkm.kkmGuestPml4e.pt.va (tableIndex 0 guestVa)
      (tableIndex_lt 0 guestVa) (Or.inr (Or.inr rfl))
    simp [walk, walkEntry, Memory.entry_setEntry_of_idx_ne _ _ hne, hkeep]

theorem pteIndex_ne_of_page_ne
    {va va' : Nat} (h : InPrivateWindow va) (h' : InPrivateWindow va')
    (hne : va / pageSize ≠ va' / pageSize) :
    pteIndex va ≠ pteIndex va' := by
  have h0 : span 0 = 0x1000 := by decide
  have h1 : span 1 = 0x200000 := by decide
  simp only [InPrivateWindow, kkmKmGuestPrivateMemStartVa, h1] at h h'
  simp only [pageSize] at hne
  simp only [pteIndex, tableIndex, h0]
  omega

/-- A fault is resolved exactly when it lies in the first 2 MiB of the private
area, the part the one private page table covers. -/
theorem resolved_iff_inPrivateWindow
    (cfg : KkmConfig) (f : PrivateFault cfg) :
    f.Resolved ↔ InPrivateWindow f.faultVa.toNat := by
  have hafter : PrivateHierarchy f.kkm.kkmGuestPml4e f.memAfter := by
    rw [f.memAfter_eq]
    exact f.hierarchy_afterCopies.setPte (tableIndex_lt 0 f.faultVa.toNat) _
  constructor
  · intro h
    by_contra hwin
    have hwalk := h.1
    rw [hafter.walk_of_not_window hwin, f.walk_native_after] at hwalk
    cases hwalk
  · intro hwin
    constructor
    · rw [f.privateWalk_after hwin, if_pos rfl, f.walk_native_after]
    · intro guestVa monitorVa _ hpage
      by_cases hwin' : InPrivateWindow guestVa.toNat
      · rw [f.privateWalk_after hwin',
          if_neg (pteIndex_ne_of_page_ne hwin' hwin hpage)]
      · rw [hafter.walk_of_not_window hwin', f.hierarchy.walk_of_not_window hwin']

end PrivateFault

/-- A region for the vdso slot, one page longer than the page table covers. -/
def longVdsoRegion : KkmMemoryRegion where
  slot := 41
  flags := 0
  guestPhysAddr := 0x8000000000#64
  memorySize := 0x201000#64
  userspaceAddr := 0x100000#64

def longVdsoCreate : Int × KkmMmuPml4e × PageState :=
  kkmCreatePml4 .kontainer .zeroed kkmKmGuestPrivateMemStartVa
    ⟨some 0, some 0, some 0⟩ ⟨.empty 0, fun _ => 0#64⟩

/-- Native tables that map monitor page 0x300000. -/
def longVdsoMemory : Memory :=
  Memory.setEntry (Memory.setEntry (Memory.setEntry (Memory.setEntry
    longVdsoCreate.2.2.mem 0x100000 0 0x101067#64) 0x101000 0 0x102067#64)
    0x102000 1 0x103067#64) 0x103000 256 0x200067#64

theorem longVdsoMemory_entry
    {table idx : Nat} (htable : table < 0x100000 - pageSize) (hidx : idx < 512) :
    longVdsoMemory.entry table idx = longVdsoCreate.2.2.mem.entry table idx := by
  have hlt : table + 8 * idx < 0x100000 := by
    simp only [pageSize] at htable
    omega
  unfold longVdsoMemory
  simp (disch := omega) only [Memory.entry_setEntry_of_ne]

/-- A user-mode read fault on the page after the first 2 MiB. -/
def longVdsoFault : PrivateFault .stock where
  nativePgd := 0x100000
  kkm := { Kkm.addSlot .zeroed kkmKmRsrvVdsoslot longVdsoRegion with
    kkmGuestPml4e := longVdsoCreate.2.1 }
  kontext := { KkmKontext.zeroed with
    ga := { KkmGuestArea.zeroed with
      sregs := { KkmSregs.zeroed with cr2 := 0x8000200000#64 }
      trapInfo := { KkmTrapInfo.zeroed with error := 0x4#64 } } }
  mem := longVdsoMemory
  read := ⟨false, 0, longVdsoMemory⟩
  write := ⟨false, longVdsoMemory⟩
  monitorVa := 0x300000#64
  nativeEntry := 0x200067#64
  kx := .zeroed
  answers := ⟨some 0, some 0, some 0⟩
  beforeCreate := ⟨.empty 0, fun _ => 0#64⟩
  created := longVdsoCreate.2.2
  create_ok := Prod.ext (by decide) rfl
  created_low := by decide
  mem_pud := fun idx hidx => longVdsoMemory_entry (by decide) hidx
  mem_pmd := fun idx hidx => longVdsoMemory_entry (by decide) hidx
  copies_keep := fun _ _ _ _ => rfl
  translated := by decide
  mapped := by decide
  native_apart := by
    have hpath : walkPath longVdsoMemory 3 0x100000 0x300000 =
        [0x100000, 0x101000, 0x102008, 0x103800] := by decide
    have hpt : longVdsoCreate.2.1.pt.va = 0x3000 := by decide
    intro a ha idx hidx
    change a ∈ walkPath longVdsoMemory 3 0x100000 0x300000 at ha
    change a ≠ longVdsoCreate.2.1.pt.va + 8 * idx
    rw [hpath] at ha
    simp only [List.mem_cons, List.not_mem_nil, or_false] at ha
    rw [hpt]
    omega
  done := by decide

/-- `KKM_MEMORY` accepts the region, and the fault is reported as done without
being resolved. -/
theorem longVdsoFault_not_resolved :
    AddsRegion .zeroed longVdsoRegion kkmKmRsrvVdsoslot ∧
      longVdsoFault.kkm.memSlot =
        (Kkm.addSlot .zeroed kkmKmRsrvVdsoslot longVdsoRegion).memSlot ∧
      ¬ longVdsoFault.Resolved := by
  refine ⟨by decide, rfl, ?_⟩
  intro h
  have hnative := longVdsoFault.walk_native_after
  have hwin : ¬ InPrivateWindow longVdsoFault.faultVa.toNat := by
    intro hin
    exact absurd hin.2 (by decide)
  have hnone : privateWalk longVdsoFault.kkm.kkmGuestPml4e longVdsoFault.memAfter
      longVdsoFault.faultVa.toNat = none := by
    rw [longVdsoFault.memAfter_eq]
    exact (longVdsoFault.hierarchy_afterCopies.setPte
      (tableIndex_lt 0 longVdsoFault.faultVa.toNat) _).walk_of_not_window hwin
  rw [h.1, hnative] at hnone
  cases hnone

end Driver
end KkmModule
