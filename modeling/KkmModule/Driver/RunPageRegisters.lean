import KkmModule.Driver.KontextIoctls
import KkmModule.Driver.RunLoop

/-!
# Registers in the run page

The monitor can set the registers of a payload by `KKM_SET_REGS` and
`KKM_SET_SREGS`, or by `s.regs` of the run page and two bits of
`kkm_dirty_regs`.  `kkm_run` copies dirty registers before it does anything
else; from then on the register part of the run page is not looked at
(`kkmKontextSwitchKernel_withPageRegs`), so that both ways lead to the same run.
-/

namespace KkmModule
namespace Driver

open Foundation

/-! ## The register part of the run page -/

/-- `s.regs` and `kkm_dirty_regs`. -/
structure PageRegs where
  regs : KkmRegs
  sregs : KkmSregs
  dirty : BitVec 64

/-- No register set waits to be copied. -/
def PageRegs.Clean (page : PageRegs) : Prop :=
  page.dirty &&& kkmSyncX86Regs = 0 ∧ page.dirty &&& kkmSyncX86Sregs = 0

def KkmKontext.withPageRegs (kontext : KkmKontext) (page : PageRegs) : KkmKontext :=
  { kontext with
    run := { kontext.run with
      regs := page.regs, sregs := page.sregs, kkmDirtyRegs := page.dirty } }

def LoopState.map (φ : KkmKontext → KkmKontext) : LoopState → LoopState
  | .begin kontext memory => .begin (φ kontext) memory
  | .returned ret kontext memory => .returned ret (φ kontext) memory

section PageRegs

variable (page : PageRegs) (k : KkmKontext)

@[simp] theorem withPageRegs_ga : (k.withPageRegs page).ga = k.ga := rfl

@[simp] theorem withPageRegs_immediateExit :
    (k.withPageRegs page).run.immediateExit = k.run.immediateExit := rfl

theorem withPageRegs_unseen : Unseen fun k => k.withPageRegs page where
  regs _ := rfl
  sregs _ := rfl
  trapInfo _ := rfl
  intrNo _ := rfl
  debugArch _ := rfl
  apply _ w := by cases w <;> rfl

/-! ## The run does not look at it -/

theorem handleSyscallResponse_withPageRegs (m : ByteMemory) :
    kkmKontextHandleSyscallResponse m (k.withPageRegs page) =
      ((kkmKontextHandleSyscallResponse m k).1,
        (kkmKontextHandleSyscallResponse m k).2.withPageRegs page) := by
  have hrun := handleSyscallResponse_runPage m k
  rw [KkmKontext.withPageRegs, handleSyscallResponse_run, KkmKontext.withPageRegs,
    hrun]

theorem kkmKontextSwitchKernelStart_withPageRegs (m : ByteMemory) :
    kkmKontextSwitchKernelStart m (k.withPageRegs page) =
      ((kkmKontextSwitchKernelStart m k).1,
        (kkmKontextSwitchKernelStart m k).2.withPageRegs page) := by
  have hnew : startNewThread (k.withPageRegs page) =
      (startNewThread k).withPageRegs page := rfl
  simp only [kkmKontextSwitchKernelStart, withPageRegs_immediateExit, hnew,
    handleSyscallResponse_withPageRegs]
  split
  · rfl
  · split
    · rfl
    · rfl

theorem countTrap_withPageRegs :
    countTrap (k.withPageRegs page) =
      ((countTrap k).1, (countTrap k).2.withPageRegs page) := by
  have hrepeated : isRepeatedTrap (k.withPageRegs page) = isRepeatedTrap k := rfl
  have hcounter : (k.withPageRegs page).trapRepeatCounter = k.trapRepeatCounter := rfl
  simp only [countTrap, hrepeated, hcounter]
  split
  · split
    · rfl
    · rfl
  · rfl

variable (cfg : KkmConfig)

theorem processIntr_withPageRegs (t : PayloadTurn) (m : RunMemory) :
    t.processIntr cfg (k.withPageRegs page) m =
      mapKontext (fun k => k.withPageRegs page) (t.processIntr cfg k m) :=
  kkmProcessIntr_unseen cfg t.kkm (withPageRegs_unseen page) t.answers (t.atExit k)
    { m with user := t.user } fun _ _ => rfl

theorem loopTurn_withPageRegs (t : PayloadTurn) (m : RunMemory) :
    loopTurn cfg t (k.withPageRegs page) m =
      (loopTurn cfg t k m).map fun k => k.withPageRegs page := by
  rw [loopTurn, loopTurn, processIntr_withPageRegs]
  cases t.signal with
  | true => rfl
  | false =>
      generalize t.processIntr cfg k m = r
      simp only [Bool.false_eq_true, if_false, afterIntr, mapKontext,
        countTrap_withPageRegs]
      split
      · split
        · rfl
        · rfl
      · rfl

theorem foldl_withPageRegs (turns : List PayloadTurn) (s : LoopState) :
    turns.foldl (loopStep cfg) (s.map fun k => k.withPageRegs page) =
      (turns.foldl (loopStep cfg) s).map fun k => k.withPageRegs page := by
  induction turns generalizing s with
  | nil => rfl
  | cons t turns ih =>
      rw [List.foldl_cons, List.foldl_cons, ← ih]
      congr 1
      cases s with
      | begin k m => exact loopTurn_withPageRegs page k cfg t m
      | returned ret k m => rfl

/-- What is in the register part of the run page changes nothing else. -/
theorem kkmKontextSwitchKernel_withPageRegs (turns : List PayloadTurn) (m : RunMemory) :
    kkmKontextSwitchKernel cfg turns (k.withPageRegs page) m =
      (kkmKontextSwitchKernel cfg turns k m).map fun k => k.withPageRegs page := by
  simp only [kkmKontextSwitchKernel, kkmKontextSwitchKernelStart_withPageRegs]
  split
  · rfl
  · exact foldl_withPageRegs page cfg turns
      (.begin (kkmKontextSwitchKernelStart m.user k).2 m)

end PageRegs

/-! ## Two ways to set registers -/

theorem clearDirty_eq (sync dirty : BitVec 64) :
    clearDirty sync dirty = dirty &&& ~~~sync := by
  unfold clearDirty
  split
  · rfl
  · rename_i hclean
    apply BitVec.eq_of_getLsbD_eq
    intro i hi
    have hzero : (0 : BitVec 64).getLsbD i = false := by simp
    have hbit := congrArg (fun v => v.getLsbD i) (not_not.mp hclean)
    simp only [BitVec.getLsbD_and, hzero] at hbit
    simp only [BitVec.getLsbD_and, BitVec.getLsbD_not, hi, decide_true, Bool.true_and]
    cases hd : dirty.getLsbD i with
    | false => rfl
    | true =>
        rw [hd, Bool.true_and] at hbit
        rw [hbit]
        rfl

/-- The dirty set after `kkm_set_regs`. -/
def clearedDirty (dirty : BitVec 64) : BitVec 64 :=
  clearDirty kkmSyncX86Sregs (clearDirty kkmSyncX86Regs dirty)

theorem clearedDirty_getLsbD (dirty : BitVec 64) {i : Nat} (hi : i < 64) :
    (clearedDirty dirty).getLsbD i = (dirty.getLsbD i && decide (2 ≤ i)) := by
  have hsync : ∀ j : Fin 64, (!kkmSyncX86Regs.getLsbD j.val &&
      !kkmSyncX86Sregs.getLsbD j.val) = decide (2 ≤ j.val) := by decide
  rw [clearedDirty, clearDirty_eq, clearDirty_eq, BitVec.getLsbD_and,
    BitVec.getLsbD_and, BitVec.getLsbD_not, BitVec.getLsbD_not, Bool.and_assoc,
    ← hsync ⟨i, hi⟩]
  simp [hi]

section Requests

variable (cfg : KkmConfig) (crc32 : List (BitVec 8) → BitVec 32)

/-- The requests that set the registers which the dirty bits select. -/
def setByIoctls (page : PageRegs) (kontext : KkmKontext) : KkmKontext :=
  let kontext :=
    if page.dirty &&& kkmSyncX86Regs ≠ 0 then
      (kkmExecutionKontextIoctl cfg crc32 (.setRegs ⟨false, page.regs⟩) kontext).2.2
    else kontext
  if page.dirty &&& kkmSyncX86Sregs ≠ 0 then
    (kkmExecutionKontextIoctl cfg crc32 (.setSregs ⟨false, page.sregs⟩) kontext).2.2
  else kontext

/-- `kkm_set_regs` does what the requests do. -/
theorem kkmSetRegs_withPageRegs (page : PageRegs) (k : KkmKontext) :
    kkmSetRegs (k.withPageRegs page) =
      (setByIoctls cfg crc32 page k).withPageRegs
        { page with dirty := clearedDirty page.dirty } := by
  have hsregs : clearDirty kkmSyncX86Regs page.dirty &&& kkmSyncX86Sregs =
      page.dirty &&& kkmSyncX86Sregs := by
    rw [clearDirty_eq, BitVec.and_assoc]
    congr 1
  have hpage : (k.withPageRegs page).run.kkmDirtyRegs = page.dirty := rfl
  simp only [kkmSetRegs, hpage, hsregs, setByIoctls, kkmExecutionKontextIoctl]
  by_cases hregs : page.dirty &&& kkmSyncX86Regs = 0
  · by_cases hsegs : page.dirty &&& kkmSyncX86Sregs = 0
    · simp only [hregs, hsegs, ne_eq, not_true_eq_false, if_false]
      rfl
    · simp only [hregs, hsegs, ne_eq, not_true_eq_false, not_false_eq_true, if_false,
        if_true]
      rfl
  · by_cases hsegs : page.dirty &&& kkmSyncX86Sregs = 0
    · simp only [hregs, hsegs, ne_eq, not_true_eq_false, not_false_eq_true, if_false,
        if_true]
      rfl
    · simp only [hregs, hsegs, ne_eq, not_false_eq_true, if_true]
      rfl

theorem kkmSetRegs_of_pageClean
    {page : PageRegs} (hclean : page.Clean) (k : KkmKontext) :
    kkmSetRegs (k.withPageRegs page) = k.withPageRegs page :=
  kkmSetRegs_of_clean (k := k.withPageRegs page) hclean

/-! ## After the run -/

/-- The return value, if the call has returned. -/
def LoopState.ret : LoopState → Option Int
  | .begin _ _ => none
  | .returned ret _ _ => some ret

def LoopState.kontext : LoopState → KkmKontext
  | .begin kontext _ => kontext
  | .returned _ kontext _ => kontext

def LoopState.memory : LoopState → RunMemory
  | .begin _ memory => memory
  | .returned _ _ memory => memory

/-- `kkm_run` apart from what it does with the register part of the run page. -/
theorem kkmRun_eq
    (turns : List PayloadTurn) (k k' : KkmKontext) (page : PageRegs) (m : RunMemory)
    (hset : kkmSetRegs k = k'.withPageRegs page) :
    let s := kkmKontextSwitchKernel cfg turns k' m
    let r := kkmRun cfg turns k m
    r.ret = s.ret ∧ r.kontext.ga = s.kontext.ga ∧ r.memory = s.memory ∧
      r.kontext.run.kkmDirtyRegs = page.dirty := by
  simp only [kkmRun, hset, kkmKontextSwitchKernel_withPageRegs]
  cases kkmKontextSwitchKernel cfg turns k' m with
  | begin k₁ m₁ => exact ⟨rfl, rfl, rfl, rfl⟩
  | returned ret k₁ m₁ => exact ⟨rfl, rfl, rfl, rfl⟩

/-- The valid part of `s.regs` is what the requests return. -/
theorem kkmRun_validRegs
    {turns : List PayloadTurn} {k k' : KkmKontext} {m m' : RunMemory} {ret : Int}
    (hrun : kkmRun cfg turns k m = .returned ret k' m') :
    (k'.run.kkmValidRegs &&& kkmSyncX86Regs ≠ 0 →
        (kkmExecutionKontextIoctl cfg crc32 (.getRegs false) k').2.1 =
          .regs k'.run.regs) ∧
      (k'.run.kkmValidRegs &&& kkmSyncX86Sregs ≠ 0 →
        (kkmExecutionKontextIoctl cfg crc32 (.getSregs false) k').2.1 =
          .sregs k'.run.sregs) := by
  rw [kkmRun] at hrun
  split at hrun
  · cases hrun
  · rename_i ret₁ k₁ m₁ _
    cases hrun
    refine ⟨fun hvalid => ?_, fun hvalid => ?_⟩
    · have hregs : (kkmGetRegs k₁).run.regs = k₁.ga.regs := if_pos hvalid
      rw [hregs]
      rfl
    · have hsregs : (kkmGetRegs k₁).run.sregs = k₁.ga.sregs := if_pos hvalid
      rw [hsregs]
      rfl

/-- Registers set through the run page lead to the run to which registers set by
requests lead; afterwards the run page shows what the requests show. -/
theorem kkmRun_runPage_eq_ioctls
    (k : KkmKontext) (page : PageRegs) {clean : PageRegs} (hclean : clean.Clean)
    (turns : List PayloadTurn) (m : RunMemory) :
    let r := kkmRun cfg turns (k.withPageRegs page) m
    let r' := kkmRun cfg turns ((setByIoctls cfg crc32 page k).withPageRegs clean) m
    (r.ret = r'.ret ∧ r.kontext.ga = r'.kontext.ga ∧ r.memory = r'.memory) ∧
      (∀ ret k' m', r = .returned ret k' m' →
        (k'.run.kkmValidRegs &&& kkmSyncX86Regs ≠ 0 →
            (kkmExecutionKontextIoctl cfg crc32 (.getRegs false) k').2.1 =
              .regs k'.run.regs) ∧
          (k'.run.kkmValidRegs &&& kkmSyncX86Sregs ≠ 0 →
            (kkmExecutionKontextIoctl cfg crc32 (.getSregs false) k').2.1 =
              .sregs k'.run.sregs)) ∧
      ∀ i < 64, r.kontext.run.kkmDirtyRegs.getLsbD i =
        (page.dirty.getLsbD i && decide (2 ≤ i)) := by
  intro r r'
  obtain ⟨hret, hga, hmemory, hdirty⟩ := kkmRun_eq cfg turns _ _ _ m
    (kkmSetRegs_withPageRegs cfg crc32 page k)
  obtain ⟨hret', hga', hmemory', -⟩ := kkmRun_eq cfg turns _ _ _ m
    (kkmSetRegs_of_pageClean hclean (setByIoctls cfg crc32 page k))
  refine ⟨⟨hret.trans hret'.symm, hga.trans hga'.symm, hmemory.trans hmemory'.symm⟩,
    fun ret k' m' hrun => kkmRun_validRegs cfg crc32 hrun, fun i hi => ?_⟩
  rw [hdirty]
  exact clearedDirty_getLsbD page.dirty hi

end Requests

/-- RAX is set to 7 in either way, and an NMI ends the call. -/
theorem nmi_runPage_eq_ioctls :
    let page : PageRegs := ⟨{ KkmRegs.zeroed with rax := 7#64 }, .zeroed, 5#64⟩
    let clean : PageRegs := ⟨.zeroed, .zeroed, 4#64⟩
    let turns := [exitTurn 2#64 0#64 0#64]
    let r := kkmRun .stock turns (KkmKontext.zeroed.withPageRegs page) zeroedRunMemory
    let r' := kkmRun .stock turns
      ((setByIoctls .stock (fun _ => 0#32) page .zeroed).withPageRegs clean)
      zeroedRunMemory
    r.ret = some 0 ∧ r'.ret = some 0 ∧ r.kontext.ga = r'.kontext.ga ∧
      r.kontext.run.kkmDirtyRegs.getLsbD 0 = false ∧
      r.kontext.run.kkmDirtyRegs.getLsbD 2 = true := by
  intro page clean turns r r'
  have hclean : clean.Clean := ⟨by decide, by decide⟩
  obtain ⟨⟨hret, hga, -⟩, -, hdirty⟩ := kkmRun_runPage_eq_ioctls .stock
    (fun _ => 0#32) .zeroed page hclean turns zeroedRunMemory
  have hzero : r.ret = some 0 := rfl
  exact ⟨hzero, hret ▸ hzero, hga, (hdirty 0 (by omega)).trans (by decide),
    (hdirty 2 (by omega)).trans (by decide)⟩

end Driver
end KkmModule
