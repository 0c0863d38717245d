import KkmModule.Driver.GuestPages
import KkmModule.Driver.SwitchWords

/-!
# The table an exit continues on

`kkm_intr_entry_asm` clears bit 12 of `CR3` to get from the payload's table to the
guest kernel's.  That is sound because `kkm_kontainer_init` refuses an odd first
page, and because nothing moves the two pages afterwards; `exits_on_own_table` says
so of every state of the loaded module.
-/

namespace KkmModule
namespace Driver

open Foundation X86

/-! ## The two pages -/

/-- The guest kernel's table is an even page, and the payload's the next one. -/
def Kkm.TopPair (kkm : Kkm) : Prop :=
  ∃ frame, Even frame ∧ kkm.gkPgd = .ofFrame frame ∧
    kkm.gpPgd.va = (frame + 1) * pageSize ∧ kkm.gpPgd.pa = (frame + 1) * pageSize

theorem SamePages.topPair {kkm kkm' : Kkm} (h : SamePages kkm kkm') (hpair : kkm.TopPair) :
    kkm'.TopPair := by
  rw [Kkm.TopPair, h.gkPgd, h.gpPgd]
  exact hpair

section Init

variable {cfg : KkmConfig} {kx : KkmMmuPml4e} {kkm : Kkm} {s : PageState}

theorem kkmKontainerAllocatePgdPages_topPair
    {answer : Option Nat}
    (hzero : (kkmKontainerAllocatePgdPages answer kkm s).1 = 0) :
    (kkmKontainerAllocatePgdPages answer kkm s).2.1.TopPair := by
  have hcount : kkmKontainerLvlPageCount ≠ 0 := by decide
  cases answer with
  | none =>
      simp [kkmKontainerAllocatePgdPages, kkmKontainerAllocateLvlPages,
        kkmMmAllocatePages, allocPages, hcount, enomem] at hzero
  | some skip =>
      by_cases heven : Even (s.pool.next + skip)
      · simp only [kkmKontainerAllocatePgdPages, kkmKontainerAllocateLvlPages_some _ _ heven]
        exact ⟨_, heven, rfl, (Nat.succ_mul _ _).symm, (Nat.succ_mul _ _).symm⟩
      · have hodd := (odd_page_iff (s.pool.next + skip)).mpr heven
        simp [kkmKontainerAllocatePgdPages, kkmKontainerAllocateLvlPages,
          kkmMmAllocatePages_some _ hcount, hodd, einval] at hzero

/-- The rest of the initialisation keeps the two pages, if it succeeds. -/
theorem kkmKontainerInitRest_top
    {a : KontainerInitAnswers}
    (hzero : (kkmKontainerInitRest cfg kx a kkm s).1 = 0) :
    (kkmKontainerInitRest cfg kx a kkm s).2.1.gkPgd = kkm.gkPgd ∧
      (kkmKontainerInitRest cfg kx a kkm s).2.1.gpPgd = kkm.gpPgd := by
  have hguest : ∀ (kkm : Kkm) (s : PageState),
      (kkmKontainerInitGuest kx a.pml4 kkm s).1 = 0 →
      (kkmKontainerInitGuest kx a.pml4 kkm s).2.1.gkPgd = kkm.gkPgd ∧
        (kkmKontainerInitGuest kx a.pml4 kkm s).2.1.gpPgd = kkm.gpPgd := by
    intro kkm s hzero
    simp only [kkmKontainerInitGuest] at hzero ⊢
    split at hzero
    · rename_i hno
      exact absurd hzero hno
    · rename_i hok
      simp only [if_neg hok]
      exact ⟨rfl, rfl⟩
  simp only [kkmKontainerInitRest] at hzero ⊢
  split
  · rename_i hl5
    simp only [hl5, if_true] at hzero
    split at hzero
    · rename_i hno
      exact absurd hzero hno
    · rename_i hp4d
      simp only [if_neg hp4d]
      split at hzero
      · rename_i hno
        exact absurd hzero hno
      · rename_i hlow
        simp only [if_neg hlow]
        exact hguest _ _ hzero
  · rename_i hl4
    simp only [hl4] at hzero
    exact hguest _ _ hzero

theorem kkmKontainerInit_topPair
    {a : KontainerInitAnswers} (hzero : (kkmKontainerInit cfg kx a kkm s).1 = 0) :
    (kkmKontainerInit cfg kx a kkm s).2.1.TopPair := by
  simp only [kkmKontainerInit] at hzero ⊢
  split at hzero
  · rename_i hno
    exact absurd hzero hno
  · rename_i hpgd
    simp only [if_neg hpgd]
    have hpair := kkmKontainerAllocatePgdPages_topPair (not_not.mp hpgd)
    obtain ⟨hgk, hgp⟩ := kkmKontainerInitRest_top hzero
    rw [Kkm.TopPair, hgk, hgp]
    exact hpair

/-- A creation that completes. -/
theorem kkmCreateKontainer_topPair
    {a : CreateAnswers} {g : KernelState} (hcompletes : CreateCompletes cfg a g.pages)
    {kkm : Kkm} (hfiles : (kkmCreateKontainer cfg kx a g).2.1.files ≠ [])
    (hkkm : (kkmCreateKontainer cfg kx a g).2.1.kkm = some kkm) : kkm.TopPair := by
  simp only [kkmCreateKontainer] at hfiles hkkm
  split at hfiles
  · exact absurd rfl hfiles
  · rename_i hzalloc
    simp only [if_neg hzalloc] at hkkm
    split at hfiles
    · exact absurd rfl hfiles
    · rename_i hfd
      simp only [if_neg hfd, Option.some.injEq] at hkkm
      subst hkkm
      have hzero := (kkmKontainerInit_spec cfg kx a.init
        { Kkm.zeroed with
          kontainerFd := g.nextFd, id := g.kkmObjectId + 1#64, mm := a.currentMm }
        g.pages).1.mpr hcompletes.1
      have hpair := kkmKontainerInit_topPair hzero
      simp only [kkmCreateKontainerBody, hzero, ne_eq, not_true_eq_false, if_false]
      split
      · exact hpair
      · exact hpair

end Init

/-! ## Every state -/

section Run

variable {cfg : KkmConfig} {a : InitAnswers} {reserved nextFd : Nat}
variable {objectId : BitVec 64} {mem : Memory} {page : Fin 4 → PhysPage}

/-- The tables are kept, and the two pages of every kontainer are a pair. -/
structure ModuleState.PairsKept (cfg : KkmConfig) (s : ModuleState) : Prop where
  tables : s.TablesKept cfg
  pairs : ∀ q kkm, s.HasGuest q kkm → kkm.TopPair

theorem ModuleState.PairsKept.step
    {s s' : ModuleState} (h : s.PairsKept cfg) {e : TableEvent}
    (hguard : TableGuard cfg s e) (hstep : tableStep cfg s e = .ok s') :
    s'.PairsKept cfg := by
  refine ⟨h.tables.step hguard hstep, ?_⟩
  intro q kkm' hguest
  rcases (guestsFollow_tableStep h.tables hguard hstep).guest q kkm' hguest with
    ⟨-, a, hcreates, hfiles, hkkm⟩ | ⟨kkm, hold, hsame⟩
  · exact kkmCreateKontainer_topPair hcreates.completes hfiles hkkm
  · exact hsame.topPair (h.pairs q kkm hold)

theorem loadedAt_files (q : Nat) :
    ((loadedAt a reserved nextFd objectId mem page).world.kontainers q).files = [] := by
  simp only [loadedAt, kkmInit]
  split
  · rfl
  · split <;> rfl

theorem always_pairsKept
    (hload : LoadSucceeds a reserved nextFd objectId mem) {es : List TableEvent}
    (hguard : GuardedFrom cfg (loadedAt a reserved nextFd objectId mem page) es) :
    AlwaysFrom cfg (loadedAt a reserved nextFd objectId mem page)
      (ModuleState.PairsKept cfg) es := by
  refine alwaysFrom_of_step (fun _ h => h.tables) (fun h => h.step) ⟨?_, ?_⟩ hguard
  · exact kkmInit_tablesKept cfg page hload.init hload.low
  · rintro q kkm ⟨hfiles, -⟩
    exact absurd (loadedAt_files q) hfiles

end Run

/-! ## `CR3` -/

/-- The table `CR3` points to. -/
def cr3Table (cr3 : BitVec 64) : Nat := (cr3 &&& ~~~pcidMask).toNat

section Cr3

theorem not_pcidMask_bit {i : Nat} (hi : i < 64) :
    (~~~pcidMask).getLsbD i = decide (12 ≤ i) := by
  revert i
  decide

theorem exitMask_bit {i : Nat} (hi : i < 64) :
    (0xFFFFFFFFFFFFEFFF#64).getLsbD i = decide (i ≠ 12) := by
  revert i
  decide

theorem frame_bit (frame : Nat) {i : Nat} (hi : i < 64) :
    (BitVec.ofNat 64 (frame * pageSize)).getLsbD i =
      (decide (12 ≤ i) && frame.testBit (i - 12)) := by
  have hsize : frame * pageSize = frame * 2 ^ 12 := rfl
  rw [BitVec.getLsbD_ofNat, hsize, Nat.testBit_mul_two_pow]
  simp [hi]

theorem frame_and_not_pcidMask (frame : Nat) :
    BitVec.ofNat 64 (frame * pageSize) &&& ~~~pcidMask =
      BitVec.ofNat 64 (frame * pageSize) := by
  refine BitVec.eq_of_getLsbD_eq fun i hi => ?_
  rw [BitVec.getLsbD_and, frame_bit frame hi, not_pcidMask_bit hi]
  cases decide (12 ≤ i) <;> simp

theorem cr3Table_frame
    {frame : Nat} (hlow : frame * pageSize < 2 ^ 64) {pcid : BitVec 64}
    (hpcid : pcid &&& ~~~pcidMask = 0#64) :
    cr3Table (BitVec.ofNat 64 (frame * pageSize) ||| pcid) = frame * pageSize := by
  rw [cr3Table, BitVec.and_or_distrib_right, hpcid, BitVec.or_zero, frame_and_not_pcidMask,
    BitVec.toNat_ofNat, Nat.mod_eq_of_lt hlow]

/-- Clearing bit 12 leads from the odd page to the even one. -/
theorem odd_page_clear {frame : Nat} (heven : Even frame) :
    BitVec.ofNat 64 ((frame + 1) * pageSize) &&& 0xFFFFFFFFFFFFEFFF#64 =
      BitVec.ofNat 64 (frame * pageSize) := by
  obtain ⟨k, rfl⟩ := heven
  refine BitVec.eq_of_getLsbD_eq fun i hi => ?_
  rw [BitVec.getLsbD_and, frame_bit _ hi, frame_bit _ hi, exitMask_bit hi]
  rcases Nat.lt_or_ge i 12 with hlt | hge
  · simp [Nat.not_le.mpr hlt]
  · obtain ⟨j, rfl⟩ := Nat.exists_eq_add_of_le hge
    cases j with
    | zero =>
        simp [Nat.testBit_zero]
        omega
    | succ j =>
        simp [Nat.testBit_succ]
        congr 1
        omega

/-- What `kkm_kontext_init` computes. -/
theorem newGuestArea_cr3 (cfg : KkmConfig) (kkm : Kkm) (guestArea : Nat) :
    ∃ kernelPcid payloadPcid,
      kernelPcid &&& ~~~pcidMask = 0#64 ∧
      payloadPcid &&& ~~~pcidMask = 0#64 ∧
      payloadPcid &&& 0xFFFFFFFFFFFFEFFF#64 = payloadPcid ∧
      (newGuestArea cfg kkm guestArea).guestKernelCr3 =
        BitVec.ofNat 64 kkm.gkPgd.pa &&& ~~~pcidMask ||| kernelPcid ∧
      (newGuestArea cfg kkm guestArea).guestPayloadCr3 =
        BitVec.ofNat 64 kkm.gpPgd.pa &&& ~~~pcidMask ||| payloadPcid := by
  by_cases hfull : cfg.cpuFullTlbFlush = true
  · refine ⟨0#64, 0#64, by decide, by decide, by decide, ?_, ?_⟩
    · simp only [newGuestArea, if_pos hfull, BitVec.or_zero]
    · simp only [newGuestArea, if_pos hfull, BitVec.or_zero]
  · refine ⟨guestKernelPcid, guestPayloadPcid, by decide, by decide, by decide, ?_, ?_⟩
    · simp only [newGuestArea, if_neg hfull]
    · simp only [newGuestArea, if_neg hfull]

/-- The values of `kkm_kontext_init` in `CR3`, and what an exit makes of the
second. -/
theorem Kkm.TopPair.cr3
    {kkm : Kkm} (h : kkm.TopPair) (hlow : kkm.gpPgd.va < 2 ^ 64) (cfg : KkmConfig)
    (guestArea : Nat) :
    cr3Table (newGuestArea cfg kkm guestArea).guestKernelCr3 = kkm.gkPgd.va ∧
      cr3Table (newGuestArea cfg kkm guestArea).guestPayloadCr3 = kkm.gpPgd.va ∧
      cr3Table ((newGuestArea cfg kkm guestArea).guestPayloadCr3 &&&
        0xFFFFFFFFFFFFEFFF#64) = kkm.gkPgd.va := by
  obtain ⟨frame, heven, hgk, hgp, hpa⟩ := h
  obtain ⟨kernelPcid, payloadPcid, hkernel, hpayload, hkeep, hcr3, hcr3'⟩ :=
    newGuestArea_cr3 cfg kkm guestArea
  have hva : kkm.gkPgd.va = frame * pageSize := by
    rw [hgk]
    rfl
  have hgkPa : kkm.gkPgd.pa = frame * pageSize := by
    rw [hgk]
    rfl
  rw [hgp] at hlow
  have hfirst : frame * pageSize < 2 ^ 64 :=
    lt_of_le_of_lt (Nat.mul_le_mul_right _ (Nat.le_succ frame)) hlow
  rw [hcr3, hcr3', hgkPa, hpa, hva, hgp, frame_and_not_pcidMask, frame_and_not_pcidMask,
    BitVec.and_or_distrib_right, hkeep, odd_page_clear heven]
  exact ⟨cr3Table_frame hfirst hkernel, cr3Table_frame hlow hpayload,
    cr3Table_frame hfirst hpayload⟩

end Cr3

/-! ## The exit code -/

section Machine

theorem intrEntryCommon_cr3 (s : State) :
    (run kkmIntrEntryAsmCommon s).creg .cr3 =
      s.creg .cr3 &&& 0xFFFFFFFFFFFFEFFF#64 := by
  let s₁ := execs (toGuestKernelCr3.take 6) s
  have hsplit : kkmIntrEntryAsmCommon =
      toGuestKernelCr3.take 6 ++
        (toGuestKernelCr3.drop 6 ++ findGuestArea ++ saveContext ++ toHostKernel) := rfl
  -- only the sixth instruction writes the register
  have hkeep := creg_of_run (c := .cr3)
    (toGuestKernelCr3.drop 6 ++ findGuestArea ++ saveContext ++ toHostKernel) (by decide) 0 s₁
  rw [run, hsplit, List.foldl_append, foldl_step_plain (by decide) s, hkeep]
  simp [s₁, toGuestKernelCr3, execs, exec]

theorem intrEntry_cr3 (vector : Nat) (s : State) :
    (run (intrStub vector ++ kkmIntrEntryAsm) s).creg .cr3 =
      s.creg .cr3 &&& 0xFFFFFFFFFFFFEFFF#64 := by
  let s₁ := execs (intrStub vector) s
  obtain ⟨s₂, htest, -, -, hcreg, -⟩ := entryTest s₁
  have hstub : (intrStub vector).foldl step (0, s) = (0, s₁) := by
    refine foldl_step_plain ?_ s
    unfold intrStub
    split <;> simp [Instr.isPlain]
  have hcreg₁ : s₁.creg = s.creg := by
    simp only [s₁, intrStub]
    split <;> rfl
  have hrun : run (intrStub vector ++ kkmIntrEntryAsm) s =
      run kkmIntrEntryAsmCommon s₂ := by
    rw [run, kkmIntrEntryAsm, List.foldl_append, hstub, List.foldl_append, htest]
    rfl
  rw [hrun, intrEntryCommon_cr3, hcreg, hcreg₁]

theorem deliver_creg
    (s : State) (fromUser : Bool) (rip cs ss : BitVec 64) (error : Option (BitVec 64)) :
    (s.deliver fromUser rip cs ss error).creg = s.creg := by
  cases error <;> rfl

theorem writeTss_creg (cpu : PerCpu) (f : TssField) (v : BitVec 64) (s : State) :
    (writeTss cpu f v s).creg = s.creg := by
  unfold writeTss
  split <;> rfl

theorem syscallEntry_creg (cpu : PerCpu) (s : State) :
    (kkmSyscallEntryAsm cpu s).creg = s.creg :=
  writeTss_creg cpu .sp2 _ (exec .swapgs s)

/-- Whatever the payload did, its exit goes on with bit 12 of `CR3` cleared. -/
theorem exitCause_cr3 (cpu : PerCpu) (m : SyscallMask) (s : State) (cause : ExitCause) :
    (cause.run cpu m s).creg .cr3 = s.creg .cr3 &&& 0xFFFFFFFFFFFFEFFF#64 := by
  cases cause with
  | trap vector rip cs ss error =>
      rw [ExitCause.run, intrEntry_cr3, deliver_creg]
  | syscall next =>
      have hentry : (m.enter next s).creg = s.creg := rfl
      rw [ExitCause.run, intrEntryCommon_cr3, syscallEntry_creg, hentry]

end Machine

/-! ## On its own table -/

/-- A kontext with these values enters the payload on the payload's table, and every
exit goes on at the guest kernel's, under the tag of the payload. -/
structure ExitsOnOwnTable
    (cfg : KkmConfig) (s : ModuleState) (kkm : Kkm) (area : KkmGuestArea) (t : Trip)
    (h : State) : Prop where
  enter : cr3Table ((t.enter h).creg .cr3) = kkm.gpPgd.va
  exit : cr3Table ((t.exit h).creg .cr3) = kkm.gkPgd.va
  kernel : cr3Table ((t.exit h).creg .cr3) = cr3Table area.guestKernelCr3
  pcid : cr3Pcid ((t.exit h).creg .cr3) = cr3Pcid ((t.enter h).creg .cr3)
  alike : ∀ va, UserHalfVa cfg va ∨ KernelHalfVa cfg va →
    mapping s.mem (topLevel cfg) (cr3Table ((t.exit h).creg .cr3)) va =
      mapping s.mem (topLevel cfg) (cr3Table ((t.enter h).creg .cr3)) va

section Own

variable {cfg : KkmConfig} {s : ModuleState} {kkm : Kkm}

theorem ModuleState.HasTables.gpPgd_lt (h : s.HasTables cfg kkm) :
    kkm.gpPgd.va < 2 ^ 48 := by
  obtain ⟨fr, c, hfr, -, -⟩ := h
  obtain ⟨hpud, hpmd, hpt, -⟩ := TableFrames.order hfr.increasing
  have hbelow := hfr.below
  rw [hfr.gpPgd]
  exact lt_of_le_of_lt (Nat.mul_le_mul_right _ (by omega)) hbelow

theorem exitsOnOwnTable_of_pair
    (hpair : kkm.TopPair) (htables : s.HasTables cfg kkm) (guestArea : Nat)
    {ga : GuestAreaAddr} {nk : BitVec 64} {t : Trip} {h : State}
    (hh : HostReady ga nk t.cpu h) (hap : StacksApart ga nk)
    (hword : h.mem (addr ga.va offGpCr3) =
      (newGuestArea cfg kkm guestArea).guestPayloadCr3) :
    ExitsOnOwnTable cfg s kkm (newGuestArea cfg kkm guestArea) t h := by
  have hlow : kkm.gpPgd.va < 2 ^ 64 :=
    lt_trans htables.gpPgd_lt (Nat.pow_lt_pow_right (by decide) (by decide))
  obtain ⟨hkernel, hpayload, hclear⟩ := hpair.cr3 hlow cfg guestArea
  have hleave : (t.payload.leave (t.enter h)).creg .cr3 = (t.enter h).creg .cr3 :=
    Function.update_of_ne (show CReg.cr3 ≠ .cr2 by decide) t.payload.cr2 (t.enter h).creg
  have hin : (t.enter h).creg .cr3 = (newGuestArea cfg kkm guestArea).guestPayloadCr3 :=
    (enter_starts hh hap).2.2.trans hword
  have hout : (t.exit h).creg .cr3 = (t.enter h).creg .cr3 &&& 0xFFFFFFFFFFFFEFFF#64 := by
    rw [Trip.exit, exitCause_cr3, hleave]
  have henter : cr3Table ((t.enter h).creg .cr3) = kkm.gpPgd.va := by rw [hin, hpayload]
  have hexit : cr3Table ((t.exit h).creg .cr3) = kkm.gkPgd.va := by rw [hout, hin, hclear]
  refine ⟨henter, hexit, hexit.trans hkernel.symm, ?_, ?_⟩
  · rw [hout, cr3Pcid_clear]
  · intro va hva
    rw [henter, hexit]
    exact htables.tablesAlike va hva

/-- From the initialisation of a kontext on, in every state of the module, the
payload is entered on its kontainer's payload table and every exit continues on its
guest kernel table; the two map alike. -/
theorem exits_on_own_table
    {a : InitAnswers} {reserved nextFd : Nat} {objectId : BitVec 64} {mem : Memory}
    {page : Fin 4 → PhysPage} (hload : LoadSucceeds a reserved nextFd objectId mem)
    {es : List TableEvent}
    (hguard : GuardedFrom cfg (loadedAt a reserved nextFd objectId mem page) es) :
    AlwaysFrom cfg (loadedAt a reserved nextFd objectId mem page)
      (fun s => ∀ q kkm guestArea, s.HasGuest q kkm → ∀ later, GuardedFrom cfg s later →
        AlwaysFrom cfg s
          (fun s' => ∀ kkm', s'.HasGuest q kkm' →
            ∀ ga nk t h, HostReady ga nk t.cpu h → StacksApart ga nk →
              h.mem (addr ga.va offGpCr3) =
                (newGuestArea cfg kkm guestArea).guestPayloadCr3 →
              ExitsOnOwnTable cfg s' kkm' (newGuestArea cfg kkm guestArea) t h)
          later) es := by
  refine (always_pairsKept hload hguard).mono ?_
  intro s hs q kkm guestArea hguest later hlater
  refine (always_pagesStay hs.tables hguest hlater).mono ?_
  intro s' hs' kkm' hguest' ga nk t h hh hap hword
  have hsame := hs'.pages kkm' hguest'
  have harea : newGuestArea cfg kkm' guestArea = newGuestArea cfg kkm guestArea := by
    simp only [newGuestArea, hsame.gkPgd, hsame.gpPgd]
  rw [← harea] at hword ⊢
  exact exitsOnOwnTable_of_pair (hsame.topPair (hs.pairs q kkm hguest))
    (hs'.tables.guests q kkm' hguest'.1 hguest'.2) guestArea hh hap hword

/-- A call with the word of a new kontext. -/
def hostWithCr3 (cr3 : BitVec 64) : State :=
  { someHost with mem := fun b => if b = addr someGuestArea.va offGpCr3 then cr3 else 0 }

theorem hostWithCr3_word (cr3 : BitVec 64) :
    (hostWithCr3 cr3).mem (addr someGuestArea.va offGpCr3) = cr3 := by
  simp only [hostWithCr3, if_true]

/-- A kontext of a kontainer that has just been created. -/
theorem exits_on_own_table_created :
    ∃ s kkm, tableStep .stock
        (loadedAt ⟨⟨some 0, some 0, some 0⟩, some 3⟩ 1 3 0 (fun _ => 0) fun _ => .null)
        (.life (.create .granted)) = .ok s ∧
      ExitsOnOwnTable .stock s kkm (newGuestArea .stock kkm 0) (someTrip 0)
        (hostWithCr3 (newGuestArea .stock kkm 0).guestPayloadCr3) := by
  have hguard : GuardedFrom .stock
      (loadedAt ⟨⟨some 0, some 0, some 0⟩, some 3⟩ 1 3 0 (fun _ => 0) fun _ => .null)
      [.life (.create .granted)] :=
    ⟨(guardedFrom_oneGuest (by decide) (by decide) (by decide)).1, trivial⟩
  have halways := exits_on_own_table loadSucceeds_booted hguard
  obtain ⟨s, hstep, hguest⟩ : ∃ s, tableStep .stock
      (loadedAt ⟨⟨some 0, some 0, some 0⟩, some 3⟩ 1 3 0 (fun _ => 0) fun _ => .null)
      (.life (.create .granted)) = .ok s ∧ ∃ kkm, s.HasGuest 0 kkm :=
    ⟨_, rfl, _, by decide, rfl⟩
  obtain ⟨kkm, hguest⟩ := hguest
  have hready : HostReady someGuestArea someNativeStack (someTrip 0).cpu
      (hostWithCr3 (newGuestArea .stock kkm 0).guestPayloadCr3) :=
    ⟨rfl, rfl, rfl, rfl, (someHost_ready 0).sp0⟩
  have hreached : liftStep (tableStep .stock)
      (.ok (loadedAt ⟨⟨some 0, some 0, some 0⟩, some 3⟩ 1 3 0 (fun _ => 0) fun _ => .null))
      (.life (.create .granted)) = .ok s := hstep
  have hlast := halways.2
  rw [hreached] at hlast
  exact ⟨s, kkm, hstep, (hlast 0 kkm 0 hguest [] trivial) kkm hguest someGuestArea
    someNativeStack (someTrip 0) _ hready someStacks_apart (hostWithCr3_word _)⟩

end Own

end Driver
end KkmModule
