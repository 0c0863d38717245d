import KkmModule.Driver.MemorySlots
import KkmModule.Foundation.SlotTable

/-!
# The slot table as a map of regions

The table `mem_slot` is meant to be the map from slot numbers to regions that
results from the accepted requests: an add inserts its region, a delete removes
it.  Count, flags, derived fields and records follow the map along every
sequence of requests in which no request reaches slot 64, one past the end of
the table, which the check of the slot number lets through.
-/

namespace KkmModule
namespace Driver

open Foundation

/-! ## The map -/

/-- Regions by slot number. -/
abbrev SlotMap : Type := Nat → Option KkmMemoryRegion

/-- An accepted request inserts its region, or removes the one of its slot. -/
def SlotMap.accept (regions : SlotMap) (mr : KkmMemoryRegion) : SlotMap :=
  Function.update regions mr.slot.toNat
    (if mr.memorySize = 0#64 then none else some mr)

/-- A kontainer with the map of the requests it has accepted. -/
structure SlotHistory where
  kkm : Kkm
  regions : SlotMap

/-- One request, for any slot, with the memory it finds. -/
structure MemoryRequest where
  arg : Option KkmMemoryRegion
  mem : Memory

/-- The map after a request that has returned `ret`. -/
def mapAfter (regions : SlotMap) (arg : Option KkmMemoryRegion) (ret : Int) : SlotMap :=
  match arg with
  | none => regions
  | some mr => if ret = 0 then regions.accept mr else regions

def requestStep
    (cfg : KkmConfig) (nativePgd : Nat) (s : SlotHistory) (e : MemoryRequest) :
    Except KernelFault SlotHistory :=
  (kkmSetKontainerMemory cfg nativePgd e.arg s.kkm e.mem).map fun r =>
    ⟨r.2.1, mapAfter s.regions e.arg r.1⟩

/-! ## The table follows the map -/

/-- A used slot holds a request for it, with the fields derived from it. -/
structure SlotHolds (slot : KkmMemSlot) (i : Nat) : Prop where
  number : slot.mr.slot.toNat = i
  size_ne : slot.mr.memorySize ≠ 0#64
  size_dvd : pageSize ∣ slot.mr.memorySize.toNat
  npages : slot.npages.toNat * pageSize = slot.mr.memorySize.toNat
  userPfn : slot.userPfn.toNat * pageSize = slot.mr.userspaceAddr.toNat

/-- The region in a slot of the table; there is none past its end. -/
def Kkm.regionAt (kkm : Kkm) (n : Nat) : Option KkmMemoryRegion :=
  if h : n < kkmMaxMemorySlots then
    if (kkm.memSlot ⟨n, h⟩).used = true then some (kkm.memSlot ⟨n, h⟩).mr else none
  else none

structure TableIsMap (s : SlotHistory) : Prop where
  count : s.kkm.memSlotCount.toNat =
    (occupied KkmMemSlot.used s.kkm.memSlot).card
  used : ∀ i, (s.kkm.memSlot i).used = true → SlotHolds (s.kkm.memSlot i) i
  unused : ∀ i, (s.kkm.memSlot i).used = false → s.kkm.memSlot i = .zeroed
  map : s.regions = s.kkm.regionAt

/-- The request does not get to the slot past the end of the table. -/
def StaysInTable (e : MemoryRequest) : Prop :=
  ∀ mr ∈ e.arg, pageAligned mr = true → mr.slot.toNat ≠ kkmMaxMemorySlots

theorem toNat_and_pageMask (x : BitVec 64) :
    (x &&& 4095#64).toNat = x.toNat % pageSize := by
  have hmask : (4095#64).toNat = 2 ^ 12 - 1 := by decide
  rw [BitVec.toNat_and, hmask, Nat.and_two_pow_sub_one_eq_mod]

theorem pageSize_dvd_of_aligned {x : BitVec 64} (h : x &&& 4095#64 = 0#64) :
    pageSize ∣ x.toNat := by
  have hmod := toNat_and_pageMask x
  rw [h] at hmod
  exact Nat.dvd_of_mod_eq_zero hmod.symm

/-- The page number of an aligned address gives the address back. -/
theorem toNat_shiftRight_mul {x : BitVec 64} (h : x &&& 4095#64 = 0#64) :
    (x >>> 12).toNat * pageSize = x.toNat := by
  rw [BitVec.toNat_ushiftRight, Nat.shiftRight_eq_div_pow]
  exact Nat.div_mul_cancel (pageSize_dvd_of_aligned h)

/-- The fields of a request that has passed the checks. -/
theorem filledSlot_holds
    {mr : KkmMemoryRegion} {i : Nat} (hslot : mr.slot.toNat = i)
    (hal : pageAligned mr = true) (hsize : mr.memorySize ≠ 0#64) :
    SlotHolds (filledSlot mr) i := by
  simp only [pageAligned, Bool.and_eq_true, beq_iff_eq] at hal
  constructor
  · exact hslot
  · exact hsize
  · exact pageSize_dvd_of_aligned hal.1.2
  · exact toNat_shiftRight_mul hal.1.2
  · exact toNat_shiftRight_mul hal.2

/-- The loop looks at unused slots only, and a cleared slot contains no
address. -/
theorem overlapLoop_of_cleared
    (mr : KkmMemoryRegion) {slots : List KkmMemSlot}
    (hcleared : ∀ slot ∈ slots, slot.used = false → slot = .zeroed) :
    overlapLoop mr slots = 0 := by
  induction slots with
  | nil => rfl
  | cons slot rest ih =>
      have hrest := ih fun s hs => hcleared s (List.mem_cons_of_mem _ hs)
      cases hused : slot.used with
      | true => simp [overlapLoop, hused, hrest]
      | false =>
          have hempty : ∀ x, startsInside 0#64 0#64 x = false := by
            intro x
            simp [startsInside]
          have hzero := hcleared slot List.mem_cons_self hused
          subst hzero
          simpa [overlapLoop, KkmMemSlot.zeroed, KkmMemoryRegion.zeroed, hempty]
            using hrest

section Steps

variable {s : SlotHistory} {i : Fin kkmMaxMemorySlots} {mr : KkmMemoryRegion}

/-- The regions of a table in which one slot has changed. -/
theorem regionAt_update
    (kkm : Kkm) (i : Fin kkmMaxMemorySlots) (slot : KkmMemSlot) (count : BitVec 32) :
    Kkm.regionAt { kkm with
        memSlot := Function.update kkm.memSlot i slot, memSlotCount := count } =
      Function.update kkm.regionAt i.val
        (if slot.used = true then some slot.mr else none) := by
  funext n
  by_cases hn : n = i.val
  · subst hn
    simp [Kkm.regionAt]
  · rw [Function.update_of_ne hn]
    unfold Kkm.regionAt
    split
    · rename_i hlt
      have hne : (⟨n, hlt⟩ : Fin kkmMaxMemorySlots) ≠ i :=
        fun h => hn (congrArg Fin.val h)
      simp only [Function.update_of_ne hne]
    · rfl

theorem TableIsMap.overlapLoop_eq (h : TableIsMap s) (mr : KkmMemoryRegion) :
    overlapLoop mr s.kkm.slots = 0 := by
  apply overlapLoop_of_cleared
  intro slot hslot hused
  obtain ⟨i, rfl⟩ := (List.mem_ofFn' _ _).mp hslot
  exact h.unused i hused

/-- An add inserts its region. -/
theorem TableIsMap.add (h : TableIsMap s) (hadd : AddsRegion s.kkm mr i) :
    TableIsMap ⟨s.kkm.addSlot i mr, s.regions.accept mr⟩ := by
  obtain ⟨hslot, hal, hsize, hunused⟩ := hadd
  have hcard : (occupied KkmMemSlot.used (s.kkm.addSlot i mr).memSlot).card =
      (occupied KkmMemSlot.used s.kkm.memSlot).card + 1 := card_fill hunused rfl
  have hle : (occupied KkmMemSlot.used (s.kkm.addSlot i mr).memSlot).card ≤
      kkmMaxMemorySlots := occupied_card_le
  constructor
  · have hcount : (s.kkm.addSlot i mr).memSlotCount = s.kkm.memSlotCount + 1#32 := rfl
    rw [hcount, BitVec.toNat_add, h.count, hcard]
    rw [hcard] at hle
    exact Nat.mod_eq_of_lt (lt_of_le_of_lt hle (by decide))
  · intro j hj
    by_cases hji : j = i
    · subst hji
      simp only [Kkm.addSlot, Function.update_self]
      exact filledSlot_holds hslot hal hsize
    · simp only [Kkm.addSlot, Function.update_of_ne hji] at hj ⊢
      exact h.used j hj
  · intro j hj
    by_cases hji : j = i
    · subst hji
      simp only [Kkm.addSlot, Function.update_self] at hj
      cases hj
    · simp only [Kkm.addSlot, Function.update_of_ne hji] at hj ⊢
      exact h.unused j hj
  · rw [Kkm.addSlot, regionAt_update, SlotMap.accept, if_neg hsize, hslot, h.map]
    rfl

/-- A delete removes the region of its slot. -/
theorem TableIsMap.delete (h : TableIsMap s) (hdel : DeletesRegion s.kkm mr i) :
    TableIsMap ⟨s.kkm.deleteSlot i, s.regions.accept mr⟩ := by
  obtain ⟨hslot, hal, hsize, hused⟩ := hdel
  have hcard : (occupied KkmMemSlot.used (s.kkm.deleteSlot i).memSlot).card + 1 =
      (occupied KkmMemSlot.used s.kkm.memSlot).card := card_clear hused rfl
  have hlt := s.kkm.memSlotCount.isLt
  constructor
  · have hcount : (s.kkm.deleteSlot i).memSlotCount = s.kkm.memSlotCount - 1#32 := rfl
    have hnat := h.count
    rw [hcount, BitVec.toNat_sub]
    simp only [BitVec.toNat_ofNat]
    omega
  · intro j hj
    by_cases hji : j = i
    · subst hji
      simp only [Kkm.deleteSlot, Function.update_self] at hj
      cases hj
    · simp only [Kkm.deleteSlot, Function.update_of_ne hji] at hj ⊢
      exact h.used j hj
  · intro j hj
    by_cases hji : j = i
    · subst hji
      simp only [Kkm.deleteSlot, Function.update_self]
    · simp only [Kkm.deleteSlot, Function.update_of_ne hji] at hj ⊢
      exact h.unused j hj
  · rw [Kkm.deleteSlot, regionAt_update, SlotMap.accept, if_pos hsize, hslot, h.map]
    rfl

/-- A request that is refused before the table is read. -/
theorem kkmSetKontainerMemory_refused
    (cfg : KkmConfig) (nativePgd : Nat) (kkm : Kkm) (m : Memory)
    (h : mr.slot.toNat > kkmMaxMemorySlots ∨ pageAligned mr = false) :
    kkmSetKontainerMemory cfg nativePgd (some mr) kkm m = .ok (-einval, kkm, m) := by
  rcases h with h | h
  · simp [kkmSetKontainerMemory, h]
  · simp [kkmSetKontainerMemory, h]

theorem requestStep_of_unchanged
    {cfg : KkmConfig} {nativePgd : Nat} {e : MemoryRequest} {ret : Int}
    (hret : ret ≠ 0)
    (h : kkmSetKontainerMemory cfg nativePgd e.arg s.kkm e.mem =
      .ok (ret, s.kkm, e.mem)) :
    requestStep cfg nativePgd s e = .ok s := by
  have hmap : mapAfter s.regions e.arg ret = s.regions := by
    unfold mapAfter
    split
    · rfl
    · rw [if_neg hret]
  simp only [requestStep, h, Except.map, hmap]

/-- One request: the table follows the map unless the request gets past its
end. -/
theorem requestStep_tableIsMap_iff
    (cfg : KkmConfig) (nativePgd : Nat) (e : MemoryRequest) (hinv : TableIsMap s) :
    Holds TableIsMap (requestStep cfg nativePgd s e) ↔ StaysInTable e := by
  have hsame : requestStep cfg nativePgd s e = .ok s →
      Holds TableIsMap (requestStep cfg nativePgd s e) := by
    intro h
    rw [h]
    exact hinv
  by_cases hbound : ∀ mr ∈ e.arg, mr.slot.toNat < kkmMaxMemorySlots
  · have hstays : StaysInTable e := fun mr hmr _ => Nat.ne_of_lt (hbound mr hmr)
    refine ⟨fun _ => hstays, fun _ => ?_⟩
    rcases kkmSetKontainerMemory_cases cfg nativePgd s.kkm e.mem hbound with
      ⟨mr, i, harg, hadd⟩ | ⟨mr, i, harg, hdel⟩ | ⟨-, ret, hret, hkeep⟩
    · have hadd' := kkmSetKontainerMemory_add cfg nativePgd s.kkm e.mem hadd
      rw [hinv.overlapLoop_eq] at hadd'
      simp only [requestStep, harg, hadd', Except.map, mapAfter, if_true]
      exact hinv.add hadd
    · have hdel' := kkmSetKontainerMemory_delete cfg nativePgd s.kkm e.mem hdel
      simp only [requestStep, harg, hdel', Except.map, mapAfter, if_true]
      exact hinv.delete hdel
    · exact hsame (requestStep_of_unchanged hret hkeep)
  · -- a slot number the table does not have
    obtain ⟨mr, hmr, hge⟩ : ∃ mr, e.arg = some mr ∧
        kkmMaxMemorySlots ≤ mr.slot.toNat := by
      push Not at hbound
      exact hbound
    by_cases hrefused : mr.slot.toNat > kkmMaxMemorySlots ∨ pageAligned mr = false
    · have hkeep := kkmSetKontainerMemory_refused cfg nativePgd s.kkm e.mem hrefused
      rw [← hmr] at hkeep
      refine ⟨fun _ => ?_, fun _ => hsame (requestStep_of_unchanged (by decide) hkeep)⟩
      intro mr' hmr' hal heq
      obtain rfl : mr = mr' := Option.some.inj (hmr.symm.trans hmr')
      rcases hrefused with h | h
      · omega
      · rw [h] at hal
        cases hal
    · rw [not_or] at hrefused
      have hslot : mr.slot.toNat = kkmMaxMemorySlots := by omega
      have hal : pageAligned mr = true := by simpa using hrefused.2
      have herror : requestStep cfg nativePgd s e =
          .error (.memSlotIndex kkmMaxMemorySlots) := by
        simp [requestStep, hmr, kkmSetKontainerMemory, hslot, hal, Except.map]
      rw [herror]
      exact ⟨fun h => absurd h (holds_error TableIsMap _),
        fun h => absurd hslot (h mr hmr hal)⟩

end Steps

/-- A new kontainer has accepted nothing. -/
def NewKontainer.history (n : NewKontainer) : SlotHistory := ⟨n.kkm, fun _ => none⟩

theorem NewKontainer.tableIsMap (n : NewKontainer) : TableIsMap n.history := by
  have hunused : ∀ i, (n.kkm.memSlot i).used = false := by
    intro i
    rw [n.slotsZeroed]
    rfl
  constructor
  · have hnone : occupied KkmMemSlot.used n.kkm.memSlot = ∅ := by
      ext i
      simp [hunused i]
    simp [NewKontainer.history, hnone, n.countZero]
  · intro i hi
    rw [NewKontainer.history, hunused i] at hi
    cases hi
  · intro i _
    rw [NewKontainer.history, n.slotsZeroed]
  · funext k
    simp [NewKontainer.history, Kkm.regionAt, hunused]

/-- The table is the map of the accepted requests in every state of a run
exactly when no request gets to the slot past its end. -/
theorem tableIsMap_iff_staysInTable
    (cfg : KkmConfig) (nativePgd : Nat)
    (n : NewKontainer) (requests : List MemoryRequest) :
    EveryState (liftStep (requestStep cfg nativePgd)) (Holds TableIsMap)
        (.ok n.history) requests ↔
      ∀ e ∈ requests, StaysInTable e :=
  holds_iff_forall
    (fun _ e hinv => requestStep_tableIsMap_iff cfg nativePgd e hinv)
    n.tableIsMap

/-- A delete of slot 64 reads the slot past the end of the table. -/
theorem delete_past_the_table :
    ¬ EveryState (liftStep (requestStep .stock 0)) (Holds TableIsMap)
        (.ok NewKontainer.zeroed.history)
        [⟨some { KkmMemoryRegion.zeroed with slot := 64 }, fun _ => 0#64⟩] := by
  rintro ⟨-, h⟩
  exact h

/-! ## What one request changes -/

/-- One slot has been filled or cleared, and the count follows. -/
structure OneSlotChanged (kkm kkm' : Kkm) (i : Fin kkmMaxMemorySlots) : Prop where
  slot : (kkm'.memSlot i).used ≠ (kkm.memSlot i).used
  others : ∀ j, j ≠ i → kkm'.memSlot j = kkm.memSlot j
  filled : (kkm'.memSlot i).used = true →
    kkm'.memSlotCount.toNat = kkm.memSlotCount.toNat + 1
  cleared : (kkm'.memSlot i).used = false →
    kkm'.memSlotCount.toNat + 1 = kkm.memSlotCount.toNat
  rest : kkm' =
    { kkm with memSlot := kkm'.memSlot, memSlotCount := kkm'.memSlotCount }

/-- The request is carried out, guest tables included, or leaves the kontainer
and the memory of the tables as they were. -/
def AllOrNothing
    (cfg : KkmConfig) (nativePgd : Nat) (arg : Option KkmMemoryRegion)
    (kkm : Kkm) (m : Memory) (r : Int × Kkm × Memory) : Prop :=
  (r.1 = 0 ∧ ∃ mr, ∃ i : Fin kkmMaxMemorySlots, arg = some mr ∧
      mr.slot.toNat = i ∧ OneSlotChanged kkm r.2.1 i ∧
      r.2.2 = syncGuestTables cfg nativePgd r.2.1 m) ∨
  (r.1 ≠ 0 ∧ r.2 = (kkm, m))

/-- The table is the map of its own regions. -/
def Kkm.TableKept (kkm : Kkm) : Prop := TableIsMap ⟨kkm, kkm.regionAt⟩

theorem TableIsMap.tableKept {s : SlotHistory} (h : TableIsMap s) : s.kkm.TableKept :=
  ⟨h.count, h.used, h.unused, rfl⟩

section Effect

variable {kkm : Kkm} {mr : KkmMemoryRegion} {i : Fin kkmMaxMemorySlots}

theorem Kkm.TableKept.add (h : kkm.TableKept) (hadd : AddsRegion kkm mr i) :
    (kkm.addSlot i mr).TableKept ∧ OneSlotChanged kkm (kkm.addSlot i mr) i := by
  have hafter := TableIsMap.add h hadd
  have hslot : ((kkm.addSlot i mr).memSlot i).used = true := by
    simp [Kkm.addSlot, filledSlot]
  refine ⟨hafter.tableKept, ?_⟩
  constructor
  · simp [hslot, hadd.2.2.2]
  · intro j hj
    simp only [Kkm.addSlot, Function.update_of_ne hj]
  · intro _
    rw [hafter.count, h.count]
    exact card_fill hadd.2.2.2 rfl
  · intro hclear
    rw [hslot] at hclear
    cases hclear
  · rfl

theorem Kkm.TableKept.delete (h : kkm.TableKept) (hdel : DeletesRegion kkm mr i) :
    (kkm.deleteSlot i).TableKept ∧ OneSlotChanged kkm (kkm.deleteSlot i) i := by
  have hafter := TableIsMap.delete h hdel
  have hslot : ((kkm.deleteSlot i).memSlot i).used = false := by
    simp [Kkm.deleteSlot, KkmMemSlot.zeroed]
  refine ⟨hafter.tableKept, ?_⟩
  constructor
  · simp [hslot, hdel.2.2.2]
  · intro j hj
    simp only [Kkm.deleteSlot, Function.update_of_ne hj]
  · intro hfill
    rw [hslot] at hfill
    cases hfill
  · intro _
    rw [hafter.count, h.count]
    exact card_clear hdel.2.2.2 rfl
  · rfl

/-- One request on a table that follows its map.  The overlap loop finds
nothing in it, so an add that gets to the table succeeds. -/
theorem Kkm.TableKept.request
    (cfg : KkmConfig) (nativePgd : Nat) (h : kkm.TableKept) (e : MemoryCall) :
    ∃ r, kkmSetKontainerMemory cfg nativePgd e.arg kkm e.mem = .ok r ∧
      r.2.1.TableKept ∧ AllOrNothing cfg nativePgd e.arg kkm e.mem r := by
  rcases kkmSetKontainerMemory_cases cfg nativePgd kkm e.mem e.slotBound with
    ⟨mr, i, harg, hadd⟩ | ⟨mr, i, harg, hdel⟩ | ⟨-, ret, hret, hsame⟩
  · have hstep := kkmSetKontainerMemory_add cfg nativePgd kkm e.mem hadd
    rw [TableIsMap.overlapLoop_eq h mr] at hstep
    obtain ⟨hkept, hone⟩ := h.add hadd
    rw [harg]
    refine ⟨_, hstep, hkept, ?_⟩
    left
    exact ⟨rfl, mr, i, rfl, hadd.1, hone, rfl⟩
  · have hstep := kkmSetKontainerMemory_delete cfg nativePgd kkm e.mem hdel
    obtain ⟨hkept, hone⟩ := h.delete hdel
    rw [harg]
    refine ⟨_, hstep, hkept, ?_⟩
    left
    exact ⟨rfl, mr, i, rfl, hdel.1, hone, rfl⟩
  · refine ⟨_, hsame, h, ?_⟩
    right
    exact ⟨hret, rfl⟩

theorem memoryRun_tableKept
    (cfg : KkmConfig) (nativePgd : Nat) (h : kkm.TableKept) (calls : List MemoryCall) :
    ∃ kkm', calls.foldl (liftStep (memoryStep cfg nativePgd)) (.ok kkm) = .ok kkm' ∧
      kkm'.TableKept := by
  induction calls generalizing kkm with
  | nil => exact ⟨kkm, rfl, h⟩
  | cons e calls ih =>
      obtain ⟨r, hr, hkept, -⟩ := h.request cfg nativePgd e
      have hstep : liftStep (memoryStep cfg nativePgd) (.ok kkm) e = .ok r.2.1 := by
        simp only [liftStep, Except.bind, memoryStep, hr, Except.map]
      rw [List.foldl_cons, hstep]
      exact ih hkept

end Effect

/-- After any requests a further one changes its slot and the count, or
nothing. -/
theorem memoryRun_allOrNothing
    (cfg : KkmConfig) (nativePgd : Nat)
    (n : NewKontainer) (calls : List MemoryCall) (e : MemoryCall) :
    ∃ kkm r,
      calls.foldl (liftStep (memoryStep cfg nativePgd)) (.ok n.kkm) = .ok kkm ∧
      kkmSetKontainerMemory cfg nativePgd e.arg kkm e.mem = .ok r ∧
      AllOrNothing cfg nativePgd e.arg kkm e.mem r := by
  obtain ⟨kkm, hrun, hkept⟩ :=
    memoryRun_tableKept cfg nativePgd n.tableIsMap.tableKept calls
  obtain ⟨r, hr, -, heffect⟩ := hkept.request cfg nativePgd e
  exact ⟨kkm, r, hrun, hr, heffect⟩

end Driver
end KkmModule
