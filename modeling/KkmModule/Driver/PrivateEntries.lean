import KkmModule.Driver.PageFault

/-!
# Entries of the private page table

Page faults fill the private page table of a kontainer one entry at a time,
while `KKM_MEMORY` adds and deletes the slots that justify the entries.  The
module follows both over whole runs.  Next to the source's state it records,
for every entry, the monitor page it was copied for and the native leaf of that
page at the time of the copy.

`kkm_set_kontainer_memory` never clears an entry, so an entry stays what it
was when its slot goes away.
-/

namespace KkmModule
namespace Driver

open Foundation

/-- Where an entry comes from: a monitor page and its native leaf then. -/
structure CopyRecord where
  page : Nat
  leaf : Option Leaf
deriving DecidableEq, Repr

/-- A kontainer, the memory its tables are in, and the records. -/
structure PrivateState where
  kkm : Kkm
  mem : Memory
  copied : Nat → Option CopyRecord

inductive PrivateEvent where
  /-- a `KKM_MEMORY` request -/
  | memory (call : MemoryCall)
  /-- a page fault of a kontext -/
  | fault (kontext : KkmKontext) (read : UserRead) (write : UserWrite)

/-- Memory `env` with the page at `pt` as in `m`: only the kontainer's own code
writes that page. -/
def keepPage (pt : Nat) (m env : Memory) : Memory := fun a =>
  if pt ≤ a ∧ a < pt + pageSize then m a else env a

theorem entry_keepPage
    (pt : Nat) (m env : Memory) {idx : Nat} (hidx : idx < 512) :
    (keepPage pt m env).entry pt idx = m.entry pt idx := by
  have hin : pt ≤ pt + 8 * idx ∧ pt + 8 * idx < pt + pageSize := by
    simp only [pageSize]
    omega
  simp [keepPage, Memory.entry, hin]

/-- The records after a fault that has been resolved. -/
def recordCopy
    (cfg : KkmConfig) (nativePgd : Nat) (kkm : Kkm) (faultVa : BitVec 64)
    (m : Memory) (copied : Nat → Option CopyRecord) :
    Nat → Option CopyRecord :=
  match kkmGuestVaToMonitorVa cfg kkm faultVa with
  | some (monitorVa, true) =>
      match kkmMmuNativePageTable cfg monitorVa.toNat nativePgd m with
      | some _ =>
          Function.update copied (pteIndex faultVa.toNat)
            (some ⟨monitorVa.toNat / pageSize,
              walk m (topLevel cfg) nativePgd monitorVa.toNat⟩)
      | none => copied
  | _ => copied

def privateStep
    (cfg : KkmConfig) (nativePgd : Nat) (s : PrivateState) :
    PrivateEvent → Except KernelFault PrivateState
  | .memory call =>
      let m := keepPage s.kkm.kkmGuestPml4e.pt.va s.mem call.mem
      (kkmSetKontainerMemory cfg nativePgd call.arg s.kkm m).map fun r =>
        { s with kkm := r.2.1, mem := r.2.2 }
  | .fault kontext read write =>
      let keep := keepPage s.kkm.kkmGuestPml4e.pt.va s.mem
      let read := { read with mem := keep read.mem }
      let write := { write with mem := keep write.mem }
      let r := kkmProcessPageFault cfg nativePgd s.kkm read write kontext s.mem
      let copied :=
        if r.1 = kkmKontextFaultProcessDone then
          recordCopy cfg nativePgd s.kkm kontext.ga.sregs.cr2
            (memAfterCopies read write kontext) s.copied
        else s.copied
      .ok { s with mem := r.2.2, copied := copied }

/-! ## The invariant -/

/-- Guest address of the page entry `idx` maps. -/
def privatePage (idx : Nat) : BitVec 64 :=
  BitVec.ofNat 64 (kkmKmGuestPrivateMemStartVa + idx * pageSize)

/-- Entry `idx` of the private page table. -/
def PrivateState.pte (s : PrivateState) (idx : Nat) : BitVec 64 :=
  s.mem.entry s.kkm.kkmGuestPml4e.pt.va idx

/-- Every present entry maps a page that is translated now, and is a copy of
the native leaf of that same monitor page. -/
def EntriesCurrent (cfg : KkmConfig) (s : PrivateState) : Prop :=
  ∀ idx, idx < 512 → present (s.pte idx) = true →
    ∃ monitorVa : BitVec 64,
      kkmGuestVaToMonitorVa cfg s.kkm (privatePage idx) =
        some (monitorVa, true) ∧
      s.copied idx = some ⟨monitorVa.toNat / pageSize, some ⟨s.pte idx, 0⟩⟩

/-- The page table is none of the tables `kkm_mmu_sync` writes. -/
structure PtApart (cfg : KkmConfig) (kkm : Kkm) : Prop where
  pt_dvd : pageSize ∣ kkm.kkmGuestPml4e.pt.va
  gkPgd_dvd : pageSize ∣ kkm.gkPgd.va
  gpPgd_dvd : pageSize ∣ kkm.gpPgd.va
  pt_ne_gkPgd : kkm.kkmGuestPml4e.pt.va ≠ kkm.gkPgd.va
  pt_ne_gpPgd : kkm.kkmGuestPml4e.pt.va ≠ kkm.gpPgd.va
  lowP4d : cfg.l5 = true →
    pageSize ∣ kkm.lowP4d.va ∧ kkm.kkmGuestPml4e.pt.va ≠ kkm.lowP4d.va

/-- A new kontainer: no slots, and an empty private page table. -/
structure NewPrivate (cfg : KkmConfig) where
  kontainer : NewKontainer
  nativePgd : Nat
  mem : Memory
  apart : PtApart cfg kontainer.kkm
  pt_zero : ∀ idx, idx < 512 →
    mem.entry kontainer.kkm.kkmGuestPml4e.pt.va idx = 0#64

def NewPrivate.state {cfg : KkmConfig} (n : NewPrivate cfg) : PrivateState :=
  ⟨n.kontainer.kkm, n.mem, fun _ => none⟩

/-! ## When a step keeps it -/

/-- A request that changes what lies behind the pages of one of the two slots
meets no present entry for such a page. -/
def SlotIsClear (s : PrivateState) (call : MemoryCall) : Prop :=
  ∀ mr, call.arg = some mr → ∀ idx, idx < 512 → present (s.pte idx) = true →
    (AddsRegion s.kkm mr kkmKmRsrvVdsoslot →
      inSlotRange (filledSlot mr) kkmGuestVvarVdsoBaseVa (privatePage idx) =
        false) ∧
    (DeletesRegion s.kkm mr kkmKmRsrvVdsoslot →
      inSlotRange (s.kkm.memSlot kkmKmRsrvVdsoslot) kkmGuestVvarVdsoBaseVa
        (privatePage idx) = false) ∧
    (DeletesRegion s.kkm mr kkmKmRsrvKmguestmemSlot →
      inSlotRange (s.kkm.memSlot kkmKmRsrvVdsoslot) kkmGuestVvarVdsoBaseVa
        (privatePage idx) = true ∨
      inSlotRange (s.kkm.memSlot kkmKmRsrvKmguestmemSlot)
        kkmGuestKmguestmemBaseVa (privatePage idx) = false)

/-- A fault of the private area lies in the 2 MiB the page table covers, and no
large page backs it. -/
def FaultIsCovered
    (cfg : KkmConfig) (nativePgd : Nat) (s : PrivateState)
    (kontext : KkmKontext) (read : UserRead) (write : UserWrite) : Prop :=
  ∀ monitorVa : BitVec 64,
    kkmGuestVaToMonitorVa cfg s.kkm kontext.ga.sregs.cr2 =
      some (monitorVa, true) →
    InPrivateWindow kontext.ga.sregs.cr2.toNat ∧
      ∀ leaf, walk (keepPage s.kkm.kkmGuestPml4e.pt.va s.mem
          (memAfterCopies read write kontext)) (topLevel cfg) nativePgd
          monitorVa.toNat = some leaf → leaf.level = 0

def PrivateGuard
    (cfg : KkmConfig) (nativePgd : Nat) (s : PrivateState) :
    PrivateEvent → Prop
  | .memory call => SlotIsClear s call
  | .fault kontext read write => FaultIsCovered cfg nativePgd s kontext read write

/-- What holds in every state of a guarded run. -/
structure PrivateInv (cfg : KkmConfig) (s : PrivateState) : Prop where
  apart : PtApart cfg s.kkm
  aligned : ∀ i, (s.kkm.memSlot i).Aligned
  current : EntriesCurrent cfg s

section Memory

theorem privatePage_toNat {idx : Nat} (hidx : idx < 512) :
    (privatePage idx).toNat = kkmKmGuestPrivateMemStartVa + idx * pageSize := by
  unfold privatePage
  rw [BitVec.toNat_ofNat, Nat.mod_eq_of_lt]
  simp only [kkmKmGuestPrivateMemStartVa, pageSize]
  omega

theorem privatePage_translation
    (cfg : KkmConfig) (kkm : Kkm) {idx : Nat} (hidx : idx < 512) :
    kkmGuestVaToMonitorVa cfg kkm (privatePage idx) =
      (privateBacking kkm (privatePage idx)).map fun monitorVa =>
        (monitorVa, true) := by
  have hpage := privatePage_toNat hidx
  simp only [kkmKmGuestPrivateMemStartVa, pageSize] at hpage
  apply kkmGuestVaToMonitorVa_private
  · omega
  · omega

/-- A page of the window is the page of its entry. -/
theorem privatePage_pteIndex
    {va : Nat} (h : InPrivateWindow va) :
    (privatePage (pteIndex va)).toNat / pageSize = va / pageSize := by
  have h0 : span 0 = 0x1000 := by decide
  have h1 : span 1 = 0x200000 := by decide
  have hidx : pteIndex va < 512 := tableIndex_lt 0 va
  rw [privatePage_toNat hidx]
  simp only [InPrivateWindow, kkmKmGuestPrivateMemStartVa, h1] at h
  simp only [kkmKmGuestPrivateMemStartVa, pageSize, pteIndex, tableIndex, h0]
  omega

theorem filledSlot_aligned
    {mr : KkmMemoryRegion} (h : pageAligned mr = true) :
    (filledSlot mr).Aligned := by
  have hmask : ∀ x : BitVec 64, x &&& 4095#64 = 0#64 → x.toNat % pageSize = 0 := by
    intro x hx
    have hand := congrArg BitVec.toNat hx
    rw [BitVec.toNat_and] at hand
    exact (Nat.and_two_pow_sub_one_eq_mod x.toNat 12).symm.trans hand
  simp only [pageAligned, Bool.and_eq_true, beq_iff_eq] at h
  intro _
  exact ⟨hmask _ h.1.2, hmask _ h.2⟩

variable {cfg : KkmConfig} {nativePgd : Nat} {s : PrivateState}

/-- The synchronisation that ends a request leaves the page table alone. -/
theorem syncGuestTables_pte
    {kkm : Kkm} (h : PtApart cfg kkm) (m : Memory) {idx : Nat} (hidx : idx < 512) :
    (syncGuestTables cfg nativePgd kkm m).entry kkm.kkmGuestPml4e.pt.va idx =
      m.entry kkm.kkmGuestPml4e.pt.va idx :=
  kkmMmuSync_entry_of_ne cfg nativePgd kkm.kkmGuestPml4e kkm.lowP4d.pa m hidx
    h.pt_dvd h.gkPgd_dvd h.pt_ne_gkPgd h.gpPgd_dvd h.pt_ne_gpPgd h.lowP4d

/-- A change of the slots that leaves the backing of the mapped pages alone
keeps the invariant. -/
theorem PrivateInv.changeSlots
    (hinv : PrivateInv cfg s) {kkm : Kkm} {m : Memory}
    (hapart : PtApart cfg kkm)
    (haligned : ∀ i, (kkm.memSlot i).Aligned)
    (hpt : kkm.kkmGuestPml4e = s.kkm.kkmGuestPml4e)
    (hm : ∀ idx, idx < 512 →
      m.entry s.kkm.kkmGuestPml4e.pt.va idx = s.pte idx)
    (hback : ∀ idx, idx < 512 → present (s.pte idx) = true →
      privateBacking s.kkm (privatePage idx) ≠ none →
      privateBacking kkm (privatePage idx) =
        privateBacking s.kkm (privatePage idx)) :
    PrivateInv cfg { s with kkm := kkm, mem := m } := by
  refine ⟨hapart, haligned, ?_⟩
  intro idx hidx hpresent
  have hpte : PrivateState.pte { s with kkm := kkm, mem := m } idx = s.pte idx := by
    simp only [PrivateState.pte, hpt]
    exact hm idx hidx
  rw [hpte] at hpresent
  obtain ⟨monitorVa, htrans, hcopied⟩ := hinv.current idx hidx hpresent
  have hsome : privateBacking s.kkm (privatePage idx) ≠ none := by
    intro hnone
    rw [privatePage_translation cfg s.kkm hidx, hnone] at htrans
    cases htrans
  refine ⟨monitorVa, ?_, ?_⟩
  · change kkmGuestVaToMonitorVa cfg kkm (privatePage idx) = some (monitorVa, true)
    rw [privatePage_translation cfg kkm hidx, hback idx hidx hpresent hsome,
      ← privatePage_translation cfg s.kkm hidx, htrans]
  · rw [hpte]
    exact hcopied

/-- Slots other than the two of the private area do not matter. -/
theorem privateBacking_congr_slots
    {kkm kkm' : Kkm} (va : BitVec 64)
    (hvdso : kkm'.memSlot kkmKmRsrvVdsoslot = kkm.memSlot kkmKmRsrvVdsoslot)
    (hmem : kkm'.memSlot kkmKmRsrvKmguestmemSlot =
      kkm.memSlot kkmKmRsrvKmguestmemSlot) :
    privateBacking kkm' va = privateBacking kkm va := by
  unfold privateBacking
  rw [hvdso, hmem]

theorem inSlotRange_unused
    {slot : KkmMemSlot} (h : slot.used = false) (base va : BitVec 64) :
    inSlotRange slot base va = false := by
  simp [inSlotRange, h]

/-- An add whose vdso range holds no mapped page keeps what is behind them. -/
theorem privateBacking_addSlot
    {kkm : Kkm} {mr : KkmMemoryRegion} {i : Fin kkmMaxMemorySlots}
    {va : BitVec 64}
    (hadd : AddsRegion kkm mr i)
    (hclear : i = kkmKmRsrvVdsoslot →
      inSlotRange (filledSlot mr) kkmGuestVvarVdsoBaseVa va = false)
    (hsome : privateBacking kkm va ≠ none) :
    privateBacking (kkm.addSlot i mr) va = privateBacking kkm va := by
  have hne : kkmKmRsrvKmguestmemSlot ≠ kkmKmRsrvVdsoslot := by decide
  have hother : ∀ j, j ≠ i → (kkm.addSlot i mr).memSlot j = kkm.memSlot j :=
    fun j hj => Function.update_of_ne hj _ _
  have hself : (kkm.addSlot i mr).memSlot i = filledSlot mr :=
    Function.update_self _ _ _
  by_cases hvdso : i = kkmKmRsrvVdsoslot
  · subst hvdso
    have hold := inSlotRange_unused hadd.2.2.2 kkmGuestVvarVdsoBaseVa va
    unfold privateBacking
    rw [hself, hother _ hne, hclear rfl, hold]
    rfl
  · by_cases hmem : i = kkmKmRsrvKmguestmemSlot
    · subst hmem
      have hold := inSlotRange_unused hadd.2.2.2 kkmGuestKmguestmemBaseVa va
      have hin : inSlotRange (kkm.memSlot kkmKmRsrvVdsoslot)
          kkmGuestVvarVdsoBaseVa va = true := by
        by_contra hout
        apply hsome
        unfold privateBacking
        rw [if_neg hout, hold]
        rfl
      unfold privateBacking
      rw [hother _ hne.symm, if_pos hin, if_pos hin]
    · exact privateBacking_congr_slots va (hother _ (Ne.symm hvdso))
        (hother _ (Ne.symm hmem))

/-- A delete of a slot that is behind no mapped page keeps what is. -/
theorem privateBacking_deleteSlot
    {kkm : Kkm} {i : Fin kkmMaxMemorySlots} {va : BitVec 64}
    (hvdsoClear : i = kkmKmRsrvVdsoslot →
      inSlotRange (kkm.memSlot kkmKmRsrvVdsoslot) kkmGuestVvarVdsoBaseVa va =
        false)
    (hmemClear : i = kkmKmRsrvKmguestmemSlot →
      inSlotRange (kkm.memSlot kkmKmRsrvVdsoslot) kkmGuestVvarVdsoBaseVa va =
        true ∨
      inSlotRange (kkm.memSlot kkmKmRsrvKmguestmemSlot)
        kkmGuestKmguestmemBaseVa va = false) :
    privateBacking (kkm.deleteSlot i) va = privateBacking kkm va := by
  have hne : kkmKmRsrvKmguestmemSlot ≠ kkmKmRsrvVdsoslot := by decide
  have hother : ∀ j, j ≠ i → (kkm.deleteSlot i).memSlot j = kkm.memSlot j :=
    fun j hj => Function.update_of_ne hj _ _
  have hself : (kkm.deleteSlot i).memSlot i = .zeroed :=
    Function.update_self _ _ _
  by_cases hvdso : i = kkmKmRsrvVdsoslot
  · subst hvdso
    have hnew := inSlotRange_unused
      (show KkmMemSlot.zeroed.used = false from rfl) kkmGuestVvarVdsoBaseVa va
    unfold privateBacking
    rw [hself, hother _ hne, hvdsoClear rfl, hnew]
    rfl
  · by_cases hmem : i = kkmKmRsrvKmguestmemSlot
    · subst hmem
      have hnew := inSlotRange_unused
        (show KkmMemSlot.zeroed.used = false from rfl) kkmGuestKmguestmemBaseVa va
      unfold privateBacking
      rw [hself, hother _ hne.symm]
      rcases hmemClear rfl with hin | hout
      · rw [if_pos hin, if_pos hin]
      · rw [hout, hnew]
        rfl
    · exact privateBacking_congr_slots va (hother _ (Ne.symm hvdso))
        (hother _ (Ne.symm hmem))

/-- A request keeps the invariant if it is clear of the mapped pages. -/
theorem privateStep_memory
    (hinv : PrivateInv cfg s) (call : MemoryCall) (hclear : SlotIsClear s call) :
    Holds (PrivateInv cfg) (privateStep cfg nativePgd s (.memory call)) := by
  have hkeep : ∀ idx, idx < 512 →
      (keepPage s.kkm.kkmGuestPml4e.pt.va s.mem call.mem).entry
        s.kkm.kkmGuestPml4e.pt.va idx = s.pte idx :=
    fun idx hidx => entry_keepPage _ s.mem call.mem hidx
  simp only [privateStep]
  rcases kkmSetKontainerMemory_cases cfg nativePgd s.kkm
      (keepPage s.kkm.kkmGuestPml4e.pt.va s.mem call.mem) call.slotBound with
    ⟨mr, i, harg, hadd⟩ | ⟨mr, i, harg, hdel⟩ | ⟨_, ret, _, hsame⟩
  · rw [harg, kkmSetKontainerMemory_add _ _ _ _ hadd]
    simp only [Except.map, holds_ok]
    have hapart : PtApart cfg (s.kkm.addSlot i mr) := ⟨hinv.apart.pt_dvd,
      hinv.apart.gkPgd_dvd, hinv.apart.gpPgd_dvd, hinv.apart.pt_ne_gkPgd,
      hinv.apart.pt_ne_gpPgd, hinv.apart.lowP4d⟩
    apply hinv.changeSlots hapart
    · intro j
      by_cases hj : j = i
      · subst hj
        have hself : (s.kkm.addSlot j mr).memSlot j = filledSlot mr :=
          Function.update_self _ _ _
        rw [hself]
        exact filledSlot_aligned hadd.2.1
      · have hother : (s.kkm.addSlot i mr).memSlot j = s.kkm.memSlot j :=
          Function.update_of_ne hj _ _
        rw [hother]
        exact hinv.aligned j
    · rfl
    · intro idx hidx
      exact (syncGuestTables_pte hapart _ hidx).trans (hkeep idx hidx)
    · intro idx hidx hpresent hsome
      apply privateBacking_addSlot hadd _ hsome
      rintro rfl
      exact (hclear mr harg idx hidx hpresent).1 hadd
  · rw [harg, kkmSetKontainerMemory_delete _ _ _ _ hdel]
    simp only [Except.map, holds_ok]
    have hapart : PtApart cfg (s.kkm.deleteSlot i) := ⟨hinv.apart.pt_dvd,
      hinv.apart.gkPgd_dvd, hinv.apart.gpPgd_dvd, hinv.apart.pt_ne_gkPgd,
      hinv.apart.pt_ne_gpPgd, hinv.apart.lowP4d⟩
    apply hinv.changeSlots hapart
    · intro j
      by_cases hj : j = i
      · subst hj
        have hself : (s.kkm.deleteSlot j).memSlot j = .zeroed :=
          Function.update_self _ _ _
        rw [hself]
        intro hused
        cases hused
      · have hother : (s.kkm.deleteSlot i).memSlot j = s.kkm.memSlot j :=
          Function.update_of_ne hj _ _
        rw [hother]
        exact hinv.aligned j
    · rfl
    · intro idx hidx
      exact (syncGuestTables_pte hapart _ hidx).trans (hkeep idx hidx)
    · intro idx hidx hpresent _
      apply privateBacking_deleteSlot
      · rintro rfl
        exact (hclear mr harg idx hidx hpresent).2.1 hdel
      · rintro rfl
        exact (hclear mr harg idx hidx hpresent).2.2 hdel
  · rw [hsame]
    simp only [Except.map, holds_ok]
    exact hinv.changeSlots hinv.apart hinv.aligned rfl hkeep
      (fun _ _ _ _ => rfl)

end Memory

section Fault

variable {cfg : KkmConfig} {nativePgd : Nat} {s : PrivateState}

theorem memAfterCopies_keepPage
    (pt : Nat) (m : Memory)
    (read : UserRead) (write : UserWrite) (kontext : KkmKontext) :
    memAfterCopies { read with mem := keepPage pt m read.mem }
        { write with mem := keepPage pt m write.mem } kontext =
      keepPage pt m (memAfterCopies read write kontext) := by
  unfold memAfterCopies
  split
  · rfl
  · rfl

/-- Changes of memory outside the page table keep the invariant. -/
theorem PrivateInv.changeMemory
    (hinv : PrivateInv cfg s) {m : Memory}
    (hm : ∀ idx, idx < 512 →
      m.entry s.kkm.kkmGuestPml4e.pt.va idx = s.pte idx) :
    PrivateInv cfg { s with mem := m } :=
  hinv.changeSlots hinv.apart hinv.aligned rfl hm (fun _ _ _ _ => rfl)

/-- One copied entry: current, if it is for a covered address. -/
theorem PrivateInv.copyEntry
    (hinv : PrivateInv cfg s) {m : Memory} {faultVa monitorVa : BitVec 64}
    {table : Nat}
    (hm : ∀ idx, idx < 512 →
      m.entry s.kkm.kkmGuestPml4e.pt.va idx = s.pte idx)
    (htrans : kkmGuestVaToMonitorVa cfg s.kkm faultVa = some (monitorVa, true))
    (hwin : InPrivateWindow faultVa.toNat)
    (htable : kkmMmuNativePageTable cfg monitorVa.toNat nativePgd m = some table)
    (hleaf : ∀ leaf, walk m (topLevel cfg) nativePgd monitorVa.toNat =
      some leaf → leaf.level = 0) :
    PrivateInv cfg
      { s with
        mem := m.setEntry s.kkm.kkmGuestPml4e.pt.va (pteIndex faultVa.toNat)
          (m.entry table (pteIndex monitorVa.toNat))
        copied := Function.update s.copied (pteIndex faultVa.toNat)
          (some ⟨monitorVa.toNat / pageSize,
            walk m (topLevel cfg) nativePgd monitorVa.toNat⟩) } := by
  refine ⟨hinv.apart, hinv.aligned, ?_⟩
  intro idx hidx hpresent
  by_cases hsame : idx = pteIndex faultVa.toNat
  · subst hsame
    simp only [PrivateState.pte, Memory.entry_setEntry_self] at hpresent ⊢
    -- the page of the entry is the page of the fault
    have h1 : span 1 = 0x200000 := by decide
    have hlo : 0x8000000000 ≤ faultVa.toNat := hwin.1
    have hhi : faultVa.toNat < 0x8000200000 := by
      have := hwin.2
      simpa only [kkmKmGuestPrivateMemStartVa, h1] using this
    have hback : privateBacking s.kkm faultVa = some monitorVa := by
      rw [kkmGuestVaToMonitorVa_private cfg s.kkm hlo hhi] at htrans
      simpa using htrans
    obtain ⟨monitorVa', hback', hpage⟩ := privateBacking_congr hinv.aligned
      (privatePage_pteIndex hwin).symm hback
    refine ⟨monitorVa', ?_, ?_⟩
    · rw [privatePage_translation cfg s.kkm hidx, hback']
      rfl
    · rw [Function.update_self, hpage]
      rcases walk_of_kkmMmuNativePageTable htable with
        ⟨leaf, hlarge, hlevel⟩ | hwalk
      · exact absurd (hleaf leaf hlarge) hlevel
      · rw [hwalk, if_pos hpresent]
  · have hpte : ∀ e, (m.setEntry s.kkm.kkmGuestPml4e.pt.va
        (pteIndex faultVa.toNat) e).entry s.kkm.kkmGuestPml4e.pt.va idx =
          s.pte idx := by
      intro e
      rw [Memory.entry_setEntry_of_idx_ne _ _ hsame, hm idx hidx]
    simp only [PrivateState.pte] at hpresent ⊢
    rw [hpte] at hpresent ⊢
    obtain ⟨monitorVa', htrans', hcopied⟩ := hinv.current idx hidx hpresent
    refine ⟨monitorVa', htrans', ?_⟩
    rw [Function.update_of_ne hsame]
    exact hcopied

theorem privateStep_fault
    (hinv : PrivateInv cfg s)
    (kontext : KkmKontext) (read : UserRead) (write : UserWrite)
    (hcovered : FaultIsCovered cfg nativePgd s kontext read write) :
    Holds (PrivateInv cfg)
      (privateStep cfg nativePgd s (.fault kontext read write)) := by
  have hkeep : ∀ env idx, idx < 512 →
      (keepPage s.kkm.kkmGuestPml4e.pt.va s.mem env).entry
        s.kkm.kkmGuestPml4e.pt.va idx = s.pte idx :=
    fun env idx hidx => entry_keepPage _ s.mem env hidx
  simp only [privateStep, holds_ok]
  rcases kkmProcessPageFault_cases cfg nativePgd s.kkm
      { read with mem := keepPage s.kkm.kkmGuestPml4e.pt.va s.mem read.mem }
      { write with mem := keepPage s.kkm.kkmGuestPml4e.pt.va s.mem write.mem }
      kontext s.mem with
    ⟨monitorVa, htrans, hdone⟩ | ⟨hnot, hmem⟩
  · rw [if_pos hdone, kkmProcessPageFault_done htrans hdone,
      memAfterCopies_keepPage]
    obtain ⟨hwin, hleaf⟩ := hcovered monitorVa htrans
    simp only [recordCopy, htrans, kkmMmuUpdatePrivArea]
    cases htable : kkmMmuNativePageTable cfg monitorVa.toNat nativePgd
        (keepPage s.kkm.kkmGuestPml4e.pt.va s.mem
          (memAfterCopies read write kontext)) with
    | none => exact hinv.changeMemory (hkeep _)
    | some table => exact hinv.copyEntry (hkeep _) htrans hwin htable hleaf
  · have hcopied : ∀ m, (if (kkmProcessPageFault cfg nativePgd s.kkm
        { read with mem := keepPage s.kkm.kkmGuestPml4e.pt.va s.mem read.mem }
        { write with mem := keepPage s.kkm.kkmGuestPml4e.pt.va s.mem write.mem }
        kontext s.mem).1 = kkmKontextFaultProcessDone then
          recordCopy cfg nativePgd s.kkm kontext.ga.sregs.cr2 m s.copied
        else s.copied) = s.copied := by
      intro m
      split
      · rename_i hdone
        unfold recordCopy
        split
        · rename_i monitorVa htrans
          exact absurd hdone (hnot monitorVa htrans)
        · rfl
      · rfl
    rw [hcopied]
    apply hinv.changeMemory
    intro idx hidx
    rcases hmem with h | h | h
    · rw [h]
      rfl
    · rw [h]
      exact hkeep _ idx hidx
    · rw [h]
      exact hkeep _ idx hidx

end Fault

/-! ## Runs -/

theorem NewPrivate.inv {cfg : KkmConfig} (n : NewPrivate cfg) :
    PrivateInv cfg n.state := by
  refine ⟨n.apart, ?_, ?_⟩
  · intro i hused
    have hslot : n.state.kkm.memSlot i = .zeroed :=
      congrFun n.kontainer.slotsZeroed i
    rw [hslot] at hused
    cases hused
  · intro idx hidx hpresent
    have hzero : n.state.pte idx = 0#64 := n.pt_zero idx hidx
    rw [hzero, present_zero] at hpresent
    cases hpresent

/-- In every state of a run in which no request takes a slot away from under a
mapped page and no fault lies past the page table, all present entries are
current. -/
theorem entriesCurrent_of_guarded
    (cfg : KkmConfig) (n : NewPrivate cfg) (es : List PrivateEvent) :
    EveryStep (liftStep (privateStep cfg n.nativePgd))
        (LiftGuard (PrivateGuard cfg n.nativePgd)) (.ok n.state) es →
      EveryState (liftStep (privateStep cfg n.nativePgd))
        (Holds (EntriesCurrent cfg)) (.ok n.state) es := by
  intro hguard
  have hstep : ∀ s e, PrivateInv cfg s → PrivateGuard cfg n.nativePgd s e →
      Holds (PrivateInv cfg) (privateStep cfg n.nativePgd s e) := by
    intro s e hinv hg
    cases e with
    | memory call => exact privateStep_memory hinv call hg
    | fault kontext read write =>
        exact privateStep_fault hinv kontext read write hg
  refine EveryState.mono ?_ (holds_of_everyStep hstep n.inv hguard)
  intro s hs
  cases s with
  | ok s => exact hs.current
  | error f => exact hs

/-- Native tables that map monitor page 0x200000. -/
def vdsoNativeMemory : Memory :=
  Memory.setEntry (Memory.setEntry (Memory.setEntry (Memory.setEntry
    (fun _ => 0#64) 0x100000 0 0x101067#64) 0x101000 0 0x102067#64)
    0x102000 1 0x103067#64) 0x103000 0 0x200067#64

def vdsoKontainer : NewPrivate .stock where
  kontainer :=
    { kkm := { Kkm.zeroed with
        gkPgd := ⟨some 0x10, 0x10000, 0x10000⟩
        gpPgd := ⟨some 0x11, 0x11000, 0x11000⟩
        kkmGuestPml4e := pml4OfFrames 1 2 3 }
      slotsZeroed := rfl
      countZero := rfl }
  nativePgd := 0x100000
  mem := fun _ => 0#64
  apart := by constructor <;> decide
  pt_zero := fun _ _ => rfl

def vdsoRegion (size : BitVec 64) : KkmMemoryRegion where
  slot := 41
  flags := 0
  guestPhysAddr := 0x8000000000#64
  memorySize := size
  userspaceAddr := 0x200000#64

def vdsoRequest (size : BitVec 64) : PrivateEvent :=
  .memory
    { arg := some (vdsoRegion size)
      mem := vdsoNativeMemory
      slotBound := by
        rintro mr ⟨⟩
        exact (by decide : (41#32).toNat < kkmMaxMemorySlots) }

/-- A read fault on the first page of the vdso. -/
def vdsoFault : PrivateEvent :=
  .fault
    { KkmKontext.zeroed with
      ga := { KkmGuestArea.zeroed with
        sregs := { KkmSregs.zeroed with cr2 := 0x8000000000#64 }
        trapInfo := { KkmTrapInfo.zeroed with error := 0x4#64 } } }
    ⟨false, 0, vdsoNativeMemory⟩ ⟨false, vdsoNativeMemory⟩

/-- Adding the slot and faulting its page in is a guarded run. -/
theorem entriesCurrent_vdso_added :
    EveryState (liftStep (privateStep .stock 0x100000))
      (Holds (EntriesCurrent .stock)) (.ok vdsoKontainer.state)
      [vdsoRequest 0x1000#64, vdsoFault] := by
  apply entriesCurrent_of_guarded .stock vdsoKontainer
  refine ⟨?_, ?_, trivial⟩
  · intro mr _ idx _ hpresent
    have hzero : vdsoKontainer.state.pte idx = 0#64 := rfl
    rw [hzero, present_zero] at hpresent
    cases hpresent
  · have hadd : AddsRegion vdsoKontainer.kontainer.kkm (vdsoRegion 0x1000#64)
        kkmKmRsrvVdsoslot := by decide
    simp only [liftStep_ok, privateStep, vdsoRequest, NewPrivate.state]
    rw [kkmSetKontainerMemory_add _ _ _ _ hadd]
    intro monitorVa htrans
    have hva : kkmGuestVaToMonitorVa .stock (Kkm.addSlot
        vdsoKontainer.kontainer.kkm kkmKmRsrvVdsoslot (vdsoRegion 0x1000#64))
        0x8000000000#64 = some (0x200000#64, true) := by decide
    have heq : monitorVa = 0x200000#64 := by
      have := htrans.symm.trans hva
      simpa using this
    subst heq
    constructor
    · exact ⟨by decide, by decide⟩
    · intro leaf hleaf
      have hwalk : walk (keepPage 0x3000 (syncGuestTables .stock 0x100000
          (Kkm.addSlot vdsoKontainer.kontainer.kkm kkmKmRsrvVdsoslot
            (vdsoRegion 0x1000#64))
          (keepPage 0x3000 vdsoKontainer.mem vdsoNativeMemory))
          vdsoNativeMemory) 3 0x100000 0x200000 =
            some ⟨0x200067#64, 0⟩ := by decide
      have hsame := Option.some.inj (hleaf.symm.trans hwalk)
      rw [hsame]

/-- Deleting the slot leaves the entry behind. -/
theorem entry_outlives_vdso_slot :
    ¬ EveryState (liftStep (privateStep .stock 0x100000))
      (Holds (EntriesCurrent .stock)) (.ok vdsoKontainer.state)
      [vdsoRequest 0x1000#64, vdsoFault, vdsoRequest 0#64] := by
  intro h
  have hlast := h.last
  let final := [vdsoRequest 0x1000#64, vdsoFault, vdsoRequest 0#64].foldl
    (liftStep (privateStep .stock 0x100000)) (.ok vdsoKontainer.state)
  have hfinal : (match final with
      | .ok s => present (s.pte 0) &&
          (kkmGuestVaToMonitorVa .stock s.kkm (privatePage 0)).isNone
      | .error _ => false) = true := by decide
  change Holds (EntriesCurrent .stock) final at hlast
  cases hs : final with
  | error f =>
      rw [hs] at hlast
      exact hlast
  | ok s =>
      rw [hs] at hlast hfinal
      simp only [Bool.and_eq_true] at hfinal
      obtain ⟨monitorVa, htrans, _⟩ := hlast 0 (by decide) hfinal.1
      rw [htrans] at hfinal
      cases hfinal.2

end Driver
end KkmModule
