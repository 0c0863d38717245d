import KkmModule.Driver.Mmu
import KkmModule.Foundation.GuardedRun
import KkmModule.Foundation.RegionFamily

/-!
# Memory slots of a kontainer

`kkm_set_kontainer_memory` adds and deletes slots of the table `mem_slot`.
Afterwards it brings the top-level entries of the guest tables in line with the
native ones.

The module states what one request does to the table and follows the regions
of the used slots over all sequences of requests.
-/

namespace KkmModule
namespace Driver

open Foundation

/-- Accesses the source makes outside the object it means to access. -/
inductive KernelFault where
  /-- `mem_slot[i]` past the end of the table -/
  | memSlotIndex (i : Nat)
  /-- `kontext[i]` past the end of the table -/
  | kontextIndex (i : Nat)
  /-- a kkm, or a kontext of a kkm, that has been freed -/
  | danglingKkm
deriving DecidableEq, Repr

/-- `start <= x && x < start + size` on machine words. -/
def startsInside (start size x : BitVec 64) : Bool :=
  decide (start ≤ x) && decide (x < start + size)

/-- The loop over all slots, with its `continue` and its two `break`s. -/
def overlapLoop (mr : KkmMemoryRegion) : List KkmMemSlot → Int
  | [] => 0
  | currentSlot :: rest =>
      if currentSlot.used = true then overlapLoop mr rest
      else if startsInside currentSlot.mr.userspaceAddr
          currentSlot.mr.memorySize mr.userspaceAddr then -einval
      else if startsInside currentSlot.mr.guestPhysAddr
          currentSlot.mr.memorySize mr.guestPhysAddr then -einval
      else overlapLoop mr rest

/-- The address and size checks of a request. -/
def pageAligned (mr : KkmMemoryRegion) : Bool :=
  mr.guestPhysAddr &&& 4095#64 == 0#64 &&
    mr.memorySize &&& 4095#64 == 0#64 &&
    mr.userspaceAddr &&& 4095#64 == 0#64

/-- The slot an add leaves behind. -/
def filledSlot (mr : KkmMemoryRegion) : KkmMemSlot where
  used := true
  npages := mr.memorySize >>> 12
  userPfn := mr.userspaceAddr >>> 12
  mr := mr

def Kkm.addSlot
    (kkm : Kkm) (i : Fin kkmMaxMemorySlots) (mr : KkmMemoryRegion) : Kkm :=
  { kkm with
    memSlot := Function.update kkm.memSlot i (filledSlot mr)
    memSlotCount := kkm.memSlotCount + 1#32 }

def Kkm.deleteSlot (kkm : Kkm) (i : Fin kkmMaxMemorySlots) : Kkm :=
  { kkm with
    memSlot := Function.update kkm.memSlot i .zeroed
    memSlotCount := kkm.memSlotCount - 1#32 }

def Kkm.slots (kkm : Kkm) : List KkmMemSlot := List.ofFn kkm.memSlot

/-- `kkm_mmu_sync` as `kkm_set_kontainer_memory` calls it. -/
def syncGuestTables
    (cfg : KkmConfig) (nativePgd : Nat) (kkm : Kkm) (m : Memory) : Memory :=
  (kkmMmuSync cfg nativePgd kkm.gkPgd.va kkm.gpPgd.va kkm.kkmGuestPml4e
    kkm.lowP4d.va kkm.lowP4d.pa m).2

/-- `kkm_set_kontainer_memory`.  `arg` is `none` when `copy_from_user` fails and
`nativePgd` is `kkm->mm->pgd`. -/
def kkmSetKontainerMemory
    (cfg : KkmConfig) (nativePgd : Nat)
    (arg : Option KkmMemoryRegion) (kkm : Kkm) (m : Memory) :
    Except KernelFault (Int × Kkm × Memory) :=
  match arg with
  | none => .ok (-efault, kkm, m)
  | some mr =>
      if mr.slot.toNat > kkmMaxMemorySlots then .ok (-einval, kkm, m)
      else if pageAligned mr = false then .ok (-einval, kkm, m)
      else if h : mr.slot.toNat < kkmMaxMemorySlots then
        let i : Fin kkmMaxMemorySlots := ⟨mr.slot.toNat, h⟩
        if mr.memorySize = 0#64 ∧ (kkm.memSlot i).used = false then
          .ok (-einval, kkm, m)
        else if mr.memorySize ≠ 0#64 ∧ (kkm.memSlot i).used = true then
          .ok (-einval, kkm, m)
        else if mr.memorySize = 0#64 then
          let kkm := kkm.deleteSlot i
          .ok (0, kkm, syncGuestTables cfg nativePgd kkm m)
        else
          let ret := overlapLoop mr kkm.slots
          let kkm := kkm.addSlot i mr
          .ok (ret, kkm, syncGuestTables cfg nativePgd kkm m)
      else .error (.memSlotIndex mr.slot.toNat)

/-! ## What one request does to the table -/

/-- The request adds a region at slot `i`. -/
def AddsRegion
    (kkm : Kkm) (mr : KkmMemoryRegion) (i : Fin kkmMaxMemorySlots) : Prop :=
  mr.slot.toNat = i ∧ pageAligned mr = true ∧ mr.memorySize ≠ 0#64 ∧
    (kkm.memSlot i).used = false

/-- The request deletes the region at slot `i`. -/
def DeletesRegion
    (kkm : Kkm) (mr : KkmMemoryRegion) (i : Fin kkmMaxMemorySlots) : Prop :=
  mr.slot.toNat = i ∧ pageAligned mr = true ∧ mr.memorySize = 0#64 ∧
    (kkm.memSlot i).used = true

instance (kkm : Kkm) (mr : KkmMemoryRegion) (i : Fin kkmMaxMemorySlots) :
    Decidable (AddsRegion kkm mr i) :=
  inferInstanceAs (Decidable (_ ∧ _ ∧ _ ∧ _))

instance (kkm : Kkm) (mr : KkmMemoryRegion) (i : Fin kkmMaxMemorySlots) :
    Decidable (DeletesRegion kkm mr i) :=
  inferInstanceAs (Decidable (_ ∧ _ ∧ _ ∧ _))

section Request

variable (cfg : KkmConfig) (nativePgd : Nat) (kkm : Kkm) (m : Memory)

theorem kkmSetKontainerMemory_add
    {mr : KkmMemoryRegion} {i : Fin kkmMaxMemorySlots}
    (h : AddsRegion kkm mr i) :
    kkmSetKontainerMemory cfg nativePgd (some mr) kkm m =
      .ok (overlapLoop mr kkm.slots, kkm.addSlot i mr,
        syncGuestTables cfg nativePgd (kkm.addSlot i mr) m) := by
  obtain ⟨hslot, hal, hsize, hunused⟩ := h
  have hlt : mr.slot.toNat < kkmMaxMemorySlots := hslot ▸ i.isLt
  have hi : (⟨mr.slot.toNat, hlt⟩ : Fin kkmMaxMemorySlots) = i := Fin.ext hslot
  have hle : ¬ mr.slot.toNat > kkmMaxMemorySlots := by omega
  simp [kkmSetKontainerMemory, hle, hal, hlt, hi, hsize, hunused]

theorem kkmSetKontainerMemory_delete
    {mr : KkmMemoryRegion} {i : Fin kkmMaxMemorySlots}
    (h : DeletesRegion kkm mr i) :
    kkmSetKontainerMemory cfg nativePgd (some mr) kkm m =
      .ok (0, kkm.deleteSlot i,
        syncGuestTables cfg nativePgd (kkm.deleteSlot i) m) := by
  obtain ⟨hslot, hal, hsize, hused⟩ := h
  have hlt : mr.slot.toNat < kkmMaxMemorySlots := hslot ▸ i.isLt
  have hi : (⟨mr.slot.toNat, hlt⟩ : Fin kkmMaxMemorySlots) = i := Fin.ext hslot
  have hle : ¬ mr.slot.toNat > kkmMaxMemorySlots := by omega
  simp [kkmSetKontainerMemory, hle, hal, hlt, hi, hsize, hused]

/-- A request for a slot below the end of the table adds a region, deletes one,
or is refused and changes nothing. -/
theorem kkmSetKontainerMemory_cases
    {arg : Option KkmMemoryRegion}
    (hbound : ∀ mr ∈ arg, mr.slot.toNat < kkmMaxMemorySlots) :
    (∃ mr i, arg = some mr ∧ AddsRegion kkm mr i) ∨
    (∃ mr i, arg = some mr ∧ DeletesRegion kkm mr i) ∨
    ((∀ mr i, arg = some mr → ¬ AddsRegion kkm mr i) ∧
      ∃ ret, ret ≠ 0 ∧
        kkmSetKontainerMemory cfg nativePgd arg kkm m = .ok (ret, kkm, m)) := by
  cases arg with
  | none =>
      right
      right
      exact ⟨by simp, -efault, by decide, rfl⟩
  | some mr =>
      have hlt : mr.slot.toNat < kkmMaxMemorySlots := hbound mr rfl
      have hle : ¬ mr.slot.toNat > kkmMaxMemorySlots := by omega
      let i : Fin kkmMaxMemorySlots := ⟨mr.slot.toNat, hlt⟩
      by_cases hadd : AddsRegion kkm mr i
      · left
        exact ⟨mr, i, rfl, hadd⟩
      by_cases hdel : DeletesRegion kkm mr i
      · right
        left
        exact ⟨mr, i, rfl, hdel⟩
      right
      right
      refine ⟨?_, -einval, by decide, ?_⟩
      · rintro mr' j ⟨⟩ h
        have hj : j = i := Fin.ext h.1.symm
        exact hadd (hj ▸ h)
      · cases hal : pageAligned mr with
        | false => simp [kkmSetKontainerMemory, hle, hal]
        | true =>
            by_cases hsize : mr.memorySize = 0#64
            · have hused : (kkm.memSlot i).used = false := by
                simpa [DeletesRegion, i, hal, hsize] using hdel
              simp [kkmSetKontainerMemory, hle, hal, hlt, hsize, i, hused]
            · have hused : (kkm.memSlot i).used = true := by
                simpa [AddsRegion, i, hal, hsize] using hadd
              simp [kkmSetKontainerMemory, hle, hal, hlt, hsize, i, hused]

end Request

/-! ## Runs of requests -/

/-- One request with the memory it finds, which the processes of the system
change as they like between requests. -/
structure MemoryCall where
  arg : Option KkmMemoryRegion
  mem : Memory
  slotBound : ∀ mr ∈ arg, mr.slot.toNat < kkmMaxMemorySlots

/-- A kontainer no slot of which has been used. -/
structure NewKontainer where
  kkm : Kkm
  slotsZeroed : kkm.memSlot = fun _ => .zeroed
  countZero : kkm.memSlotCount = 0#32

def memoryStep
    (cfg : KkmConfig) (nativePgd : Nat) (kkm : Kkm) (e : MemoryCall) :
    Except KernelFault Kkm :=
  (kkmSetKontainerMemory cfg nativePgd e.arg kkm e.mem).map fun r => r.2.1

/-- Monitor addresses of the used slots. -/
def monitorRegions (kkm : Kkm) (i : Fin kkmMaxMemorySlots) : Option Region :=
  if (kkm.memSlot i).used = true then
    some ⟨(kkm.memSlot i).mr.userspaceAddr.toNat,
      (kkm.memSlot i).mr.memorySize.toNat⟩
  else none

/-- Guest physical addresses of the used slots. -/
def guestPhysRegions (kkm : Kkm) (i : Fin kkmMaxMemorySlots) : Option Region :=
  if (kkm.memSlot i).used = true then
    some ⟨(kkm.memSlot i).mr.guestPhysAddr.toNat,
      (kkm.memSlot i).mr.memorySize.toNat⟩
  else none

/-- No two used slots share a monitor address or a guest physical address. -/
def SlotsDisjoint (kkm : Kkm) : Prop :=
  PairwiseApart (monitorRegions kkm) ∧ PairwiseApart (guestPhysRegions kkm)

/-- If the request adds a region, that region is clear of all used slots. -/
def AddIsClear (kkm : Kkm) (e : MemoryCall) : Prop :=
  ∀ mr i, e.arg = some mr → AddsRegion kkm mr i →
    ApartFrom (monitorRegions kkm)
      ⟨mr.userspaceAddr.toNat, mr.memorySize.toNat⟩ ∧
    ApartFrom (guestPhysRegions kkm)
      ⟨mr.guestPhysAddr.toNat, mr.memorySize.toNat⟩

theorem monitorRegions_addSlot
    (kkm : Kkm) (i : Fin kkmMaxMemorySlots) (mr : KkmMemoryRegion) :
    monitorRegions (kkm.addSlot i mr) =
      Function.update (monitorRegions kkm) i
        (some ⟨mr.userspaceAddr.toNat, mr.memorySize.toNat⟩) := by
  funext j
  by_cases hj : j = i
  · subst hj
    simp [monitorRegions, Kkm.addSlot, filledSlot]
  · simp [monitorRegions, Kkm.addSlot, Function.update_of_ne hj]

theorem guestPhysRegions_addSlot
    (kkm : Kkm) (i : Fin kkmMaxMemorySlots) (mr : KkmMemoryRegion) :
    guestPhysRegions (kkm.addSlot i mr) =
      Function.update (guestPhysRegions kkm) i
        (some ⟨mr.guestPhysAddr.toNat, mr.memorySize.toNat⟩) := by
  funext j
  by_cases hj : j = i
  · subst hj
    simp [guestPhysRegions, Kkm.addSlot, filledSlot]
  · simp [guestPhysRegions, Kkm.addSlot, Function.update_of_ne hj]

theorem monitorRegions_deleteSlot
    (kkm : Kkm) (i : Fin kkmMaxMemorySlots) :
    monitorRegions (kkm.deleteSlot i) =
      Function.update (monitorRegions kkm) i none := by
  funext j
  by_cases hj : j = i
  · subst hj
    simp [monitorRegions, Kkm.deleteSlot, KkmMemSlot.zeroed]
  · simp [monitorRegions, Kkm.deleteSlot, Function.update_of_ne hj]

theorem guestPhysRegions_deleteSlot
    (kkm : Kkm) (i : Fin kkmMaxMemorySlots) :
    guestPhysRegions (kkm.deleteSlot i) =
      Function.update (guestPhysRegions kkm) i none := by
  funext j
  by_cases hj : j = i
  · subst hj
    simp [guestPhysRegions, Kkm.deleteSlot, KkmMemSlot.zeroed]
  · simp [guestPhysRegions, Kkm.deleteSlot, Function.update_of_ne hj]

/-- A new kontainer has no regions. -/
theorem NewKontainer.slotsDisjoint (n : NewKontainer) :
    SlotsDisjoint n.kkm := by
  have hmon : monitorRegions n.kkm = fun _ => none := by
    funext i
    simp [monitorRegions, n.slotsZeroed, KkmMemSlot.zeroed]
  have hphys : guestPhysRegions n.kkm = fun _ => none := by
    funext i
    simp [guestPhysRegions, n.slotsZeroed, KkmMemSlot.zeroed]
  unfold SlotsDisjoint
  rw [hmon, hphys]
  exact ⟨pairwiseApart_empty, pairwiseApart_empty⟩

/-- One request keeps the used slots disjoint exactly when it adds no region
that overlaps one of them. -/
theorem memoryStep_slotsDisjoint_iff
    (cfg : KkmConfig) (nativePgd : Nat) {kkm : Kkm} (e : MemoryCall)
    (hinv : SlotsDisjoint kkm) :
    Holds SlotsDisjoint (memoryStep cfg nativePgd kkm e) ↔
      AddIsClear kkm e := by
  rcases kkmSetKontainerMemory_cases cfg nativePgd kkm e.mem e.slotBound with
    ⟨mr, i, harg, hadd⟩ | ⟨mr, i, harg, hdel⟩ | ⟨hnot, ret, _, hsame⟩
  · -- an add succeeds whatever the overlap loop found
    have hstep : memoryStep cfg nativePgd kkm e = .ok (kkm.addSlot i mr) := by
      rw [memoryStep, harg, kkmSetKontainerMemory_add cfg nativePgd kkm e.mem hadd]
      rfl
    have hfreeMon : monitorRegions kkm i = none := by
      simp [monitorRegions, hadd.2.2.2]
    have hfreePhys : guestPhysRegions kkm i = none := by
      simp [guestPhysRegions, hadd.2.2.2]
    rw [hstep, holds_ok, SlotsDisjoint, monitorRegions_addSlot,
      guestPhysRegions_addSlot, hinv.1.insert_iff hfreeMon,
      hinv.2.insert_iff hfreePhys]
    constructor
    · intro h mr' i' harg' _
      rw [harg] at harg'
      cases harg'
      exact h
    · intro h
      exact h mr i harg hadd
  · have hstep : memoryStep cfg nativePgd kkm e = .ok (kkm.deleteSlot i) := by
      rw [memoryStep, harg,
        kkmSetKontainerMemory_delete cfg nativePgd kkm e.mem hdel]
      rfl
    rw [hstep, holds_ok, SlotsDisjoint, monitorRegions_deleteSlot,
      guestPhysRegions_deleteSlot]
    constructor
    · intro _ mr' i' harg' hadd'
      rw [harg] at harg'
      cases harg'
      exact absurd hdel.2.2.1 hadd'.2.2.1
    · intro _
      exact ⟨hinv.1.delete i, hinv.2.delete i⟩
  · have hstep : memoryStep cfg nativePgd kkm e = .ok kkm := by
      rw [memoryStep, hsame]
      rfl
    rw [hstep, holds_ok]
    constructor
    · intro _ mr i harg hadd
      exact absurd hadd (hnot mr i harg)
    · intro _
      exact hinv

/-- The used slots are disjoint in every state of a run exactly when no add of
the run overlaps a slot used at that time. -/
theorem slotsDisjoint_iff_addsClear
    (cfg : KkmConfig) (nativePgd : Nat)
    (n : NewKontainer) (calls : List MemoryCall) :
    EveryState (liftStep (memoryStep cfg nativePgd)) (Holds SlotsDisjoint)
        (.ok n.kkm) calls ↔
      EveryStep (liftStep (memoryStep cfg nativePgd)) (LiftGuard AddIsClear)
        (.ok n.kkm) calls :=
  holds_iff_everyStep
    (fun _ e hinv => memoryStep_slotsDisjoint_iff cfg nativePgd e hinv)
    n.slotsDisjoint

/-- The kontainer as `kzalloc` leaves it. -/
def NewKontainer.zeroed : NewKontainer := ⟨.zeroed, rfl, rfl⟩

/-- The region of the module's own test program, at a slot of choice. -/
def testRegion (slot : BitVec 32) : KkmMemoryRegion where
  slot := slot
  flags := 0
  guestPhysAddr := 0x1000#64
  memorySize := 0x3f000#64
  userspaceAddr := 0x100000001000#64

def testCall (slot : BitVec 32) (h : slot.toNat < kkmMaxMemorySlots) :
    MemoryCall where
  arg := some (testRegion slot)
  mem := fun _ => 0#64
  slotBound := by
    rintro mr ⟨⟩
    exact h

/-- Adding one region at two slots succeeds twice. -/
theorem same_region_at_two_slots :
    ¬ EveryState (liftStep (memoryStep .stock 0)) (Holds SlotsDisjoint)
        (.ok NewKontainer.zeroed.kkm)
        [testCall 0 (by decide), testCall 1 (by decide)] := by
  intro h
  have hlast := h.last
  have hfirst : AddsRegion .zeroed (testRegion 0) 0 := by decide
  have hsecond :
      AddsRegion (Kkm.addSlot .zeroed 0 (testRegion 0)) (testRegion 1) 1 := by
    decide
  have hstate :
      [testCall 0 (by decide), testCall 1 (by decide)].foldl
          (liftStep (memoryStep .stock 0)) (.ok NewKontainer.zeroed.kkm) =
        .ok ((Kkm.addSlot .zeroed 0 (testRegion 0)).addSlot 1 (testRegion 1)) := by
    simp only [List.foldl_cons, List.foldl_nil, liftStep, Except.bind,
      memoryStep, testCall, NewKontainer.zeroed]
    rw [kkmSetKontainerMemory_add .stock 0 _ _ hfirst]
    simp only [Except.map]
    rw [kkmSetKontainerMemory_add .stock 0 _ _ hsecond]
  rw [hstate, holds_ok] at hlast
  have hapart := hlast.1 0 1 (by decide) _ _ rfl rfl
  exact absurd hapart (by decide)

end Driver
end KkmModule
