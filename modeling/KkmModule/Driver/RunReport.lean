import KkmModule.Driver.IoPorts
import KkmModule.Driver.RunLoop

/-!
# What the monitor finds after `KKM_RUN`

When `KKM_RUN` returns 0 the monitor reads `exit_reason` and then the `io` or the
`debug` member of the run page, for `io` also the private area.  A member is
written by a handler when it comes out the same whatever it held before
(`Reports`).  `kkmRun_reports_iff` says for which exits that is so.
-/

namespace KkmModule
namespace Driver

open Foundation

/-! ## Reports -/

/-- The kontext with other contents where a report is written. -/
def KkmKontext.withReport
    (kontext : KkmKontext) (io : KkmRunIo) (arch : KkmDebugExitArch)
    (area : KkmPrivateArea) : KkmKontext :=
  { kontext with
    run := { kontext.run with io := io, debugArch := arch }
    privateArea := area }

/-- What the monitor reads of a `KKM_EXIT_IO`. -/
def ioReport (kontext : KkmKontext) : KkmRunIo × KkmPrivateArea :=
  (kontext.run.io, kontext.privateArea)

/-- What the monitor reads of a `KKM_EXIT_DEBUG`; `reserved` carries nothing. -/
def debugReport (kontext : KkmKontext) :
    BitVec 32 × BitVec 64 × BitVec 64 × BitVec 64 :=
  let arch := kontext.run.debugArch
  (arch.exception, arch.pc, arch.dr6, arch.dr7)

/-- `k'` holds the report of the exit of a turn that starts with `k`: what it
holds has been written by the handler of this exit. -/
def Reports
    (cfg : KkmConfig) (t : PayloadTurn) (k : KkmKontext) (m : RunMemory)
    (k' : KkmKontext) : Prop :=
  (k'.run.exitReason = kkmExitIo ∧ ∀ io arch area,
      ioReport k' = ioReport (t.processIntr cfg (k.withReport io arch area) m).2.1) ∨
    (k'.run.exitReason = kkmExitDebug ∧ ∀ io arch area,
      debugReport k' =
        debugReport (t.processIntr cfg (k.withReport io arch area) m).2.1)

/-- A signal ends the call, or the exit is neither an NMI nor a breakpoint nor a
page fault in kernel mode at an address the monitor backs. -/
def FillsReport (cfg : KkmConfig) (t : PayloadTurn) : Prop :=
  t.signal = true ∨
    (t.exit.intrNo ≠ 2#64 ∧ t.exit.intrNo ≠ 3#64 ∧
      (t.exit.intrNo = x86TrapPf →
        t.exit.error &&& x86PfUser = x86PfUser ∨
          kkmGuestVaToMonitorVa cfg t.kkm t.exit.cr2 = none))

/-! ## One exit -/

section Handlers

variable (cfg : KkmConfig) (kkm : Kkm) (k : KkmKontext)

theorem recordException_ioReport
    (args : List (BitVec 64)) (m : ByteMemory)
    (hzero : (recordException cfg kkm args k m).1 = 0) :
    (recordException cfg kkm args k m).2.1.run.exitReason = kkmExitIo ∧
      ∀ io arch area, ioReport (recordException cfg kkm args k m).2.1 =
        ioReport (recordException cfg kkm args (k.withReport io arch area) m).2.1 := by
  have hfault : -efault ≠ 0 := by decide
  have hga : ∀ io arch area, (k.withReport io arch area).ga = k.ga :=
    fun _ _ _ => rfl
  simp only [recordException_eq, lowerStack, exceptionWrites, hga] at hzero ⊢
  split at hzero
  · exact absurd hzero hfault
  · exact ⟨rfl, fun _ _ _ => rfl⟩

theorem kkmProcessGeneralProtection_ioReport
    (m : ByteMemory) (hzero : (kkmProcessGeneralProtection cfg kkm k m).1 = 0) :
    (kkmProcessGeneralProtection cfg kkm k m).2.run.exitReason = kkmExitIo ∧
      ∀ io arch area, ioReport (kkmProcessGeneralProtection cfg kkm k m).2 =
        ioReport (kkmProcessGeneralProtection cfg kkm
          (k.withReport io arch area) m).2 := by
  have hfault : -efault ≠ 0 := by decide
  have hga : ∀ io arch area, (k.withReport io arch area).ga = k.ga :=
    fun _ _ _ => rfl
  simp only [kkmProcessGeneralProtection, hga] at hzero ⊢
  cases hva : kkmGuestVaToMonitorVa cfg kkm k.ga.trapInfo.rip with
  | none =>
      simp only [hva] at hzero
      exact absurd hzero hfault
  | some found =>
      simp only [hva] at hzero ⊢
      split at hzero
      · exact absurd hzero hfault
      · rename_i hread
        simp only [if_neg hread]
        split at hzero
        · exact absurd hzero hfault
        · rename_i hopcode
          simp only [if_neg hopcode]
          exact ⟨rfl, fun _ _ _ => rfl⟩

/-- The report of a system call is complete before its arguments are copied. -/
theorem kkmProcessSyscall_ioReport (m : ByteMemory) :
    (kkmProcessSyscall cfg kkm k m).2.1.run.exitReason = kkmExitIo ∧
      ∀ io arch area, ioReport (kkmProcessSyscall cfg kkm k m).2.1 =
        ioReport (kkmProcessSyscall cfg kkm (k.withReport io arch area) m).2.1 := by
  have hpush := fun gva args k => pushHcArgs_report cfg kkm gva args k m
  refine ⟨(kkmProcessSyscall_reportedAs cfg kkm k m).1, fun io arch area => ?_⟩
  simp only [kkmProcessSyscall, ioReport, hpush]
  rfl

/-- A page fault that returns 0 was not caused in user mode. -/
theorem kkmProcessPageFault_zero_iff
    (nativePgd : Nat) (read : UserRead) (write : UserWrite) (tables : Memory) :
    (kkmProcessPageFault cfg nativePgd kkm read write k tables).1 = 0 ↔
      k.ga.trapInfo.error &&& x86PfUser ≠ x86PfUser ∧
        kkmGuestVaToMonitorVa cfg kkm k.ga.sregs.cr2 ≠ none := by
  have hfault : -efault ≠ 0 := by decide
  have hdone : kkmKontextFaultProcessDone ≠ 0 := by decide
  simp only [kkmProcessPageFault]
  cases hva : kkmGuestVaToMonitorVa cfg kkm k.ga.sregs.cr2 with
  | none => simp [hfault]
  | some found =>
      by_cases huser : k.ga.trapInfo.error &&& x86PfUser = x86PfUser
      · simp only [huser, if_true, ne_eq, not_true_eq_false, false_and, iff_false]
        split
        · exact hfault
        · split
          · exact hfault
          · exact hdone
      · simp [huser]

end Handlers

theorem intrHandler_unreported_iff (intrNo : BitVec 64) :
    (intrHandler intrNo = .nmi ↔ intrNo = 2#64) ∧
      (intrHandler intrNo = .breakpoint ↔ intrNo = 3#64) ∧
      (intrHandler intrNo = .pageFault ↔ intrNo = x86TrapPf) := by
  refine ⟨⟨?_, ?_⟩, ⟨?_, ?_⟩, ⟨?_, ?_⟩⟩
  all_goals
    intro h
    first
    | (rw [h]; rfl)
    | (unfold intrHandler at h
       split at h
       all_goals cases h
       rename_i hno
       exact BitVec.eq_of_toNat_eq hno)

section Exit

variable (cfg : KkmConfig) (kkm : Kkm) (a : ExitAnswers) (k : KkmKontext)
  (s : RunMemory)

/-- `Reports` for one exit. -/
def HandlerReports : Prop :=
  let k' := (kkmProcessIntr cfg kkm a k s).2.1
  (k'.run.exitReason = kkmExitIo ∧ ∀ io arch area,
      ioReport k' =
        ioReport (kkmProcessIntr cfg kkm a (k.withReport io arch area) s).2.1) ∨
    (k'.run.exitReason = kkmExitDebug ∧ ∀ io arch area,
      debugReport k' =
        debugReport (kkmProcessIntr cfg kkm a (k.withReport io arch area) s).2.1)

theorem not_handlerReports_of_unknown
    (h : (kkmProcessIntr cfg kkm a k s).2.1.run.exitReason = kkmExitUnknown) :
    ¬ HandlerReports cfg kkm a k s := by
  have hio : kkmExitUnknown ≠ kkmExitIo := by decide
  have hdebug : kkmExitUnknown ≠ kkmExitDebug := by decide
  rintro (⟨hreason, _⟩ | ⟨hreason, _⟩)
  · exact hio (h.symm.trans hreason)
  · exact hdebug (h.symm.trans hreason)

/-- A breakpoint leaves DR6 of the report as it was. -/
theorem not_handlerReports_of_breakpoint
    (hh : intrHandler k.ga.intrNo = .breakpoint) :
    ¬ HandlerReports cfg kkm a k s := by
  have hbp : kkmExitDebug ≠ kkmExitIo := by decide
  have hga : ∀ io arch area, (k.withReport io arch area).ga = k.ga :=
    fun _ _ _ => rfl
  simp only [HandlerReports, kkmProcessIntr, hga, hh]
  rintro (⟨hreason, _⟩ | ⟨_, hsame⟩)
  · exact hbp hreason
  · have hdr6 := congrArg (fun r => r.2.2.1) (hsame k.run.io
      { k.run.debugArch with dr6 := k.run.debugArch.dr6 + 1#64 } k.privateArea)
    have hsucc : k.run.debugArch.dr6 = k.run.debugArch.dr6 + 1#64 := hdr6
    exact absurd hsucc (by bv_omega)

/-- An exit with result 0 is reported unless its handler is one of three. -/
theorem handlerReports_iff
    (hzero : (kkmProcessIntr cfg kkm a k s).1 = 0) :
    HandlerReports cfg kkm a k s ↔
      intrHandler k.ga.intrNo ≠ .nmi ∧ intrHandler k.ga.intrNo ≠ .breakpoint ∧
        intrHandler k.ga.intrNo ≠ .pageFault := by
  let k₀ : KkmKontext := { k with run := { k.run with exitReason := kkmExitUnknown } }
  have hga : ∀ io arch area, (k.withReport io arch area).ga = k.ga :=
    fun _ _ _ => rfl
  cases hh : intrHandler k.ga.intrNo with
  | generalProtection =>
      simp only [HandlerReports, kkmProcessIntr, hga, hh] at hzero ⊢
      have hreport := kkmProcessGeneralProtection_ioReport cfg kkm k₀ s.user hzero
      exact iff_of_true (Or.inl hreport) (by simp)
  | pageFault =>
      refine iff_of_false (not_handlerReports_of_unknown cfg kkm a k s ?_) (by simp)
      simp only [kkmProcessIntr, hh, kkmProcessPageFault_run]
  | commonWithoutError =>
      simp only [HandlerReports, kkmProcessIntr, hga, hh, onUser,
        kkmProcessCommonWithoutError] at hzero ⊢
      have hreport := recordException_ioReport cfg kkm k₀ _ s.user hzero
      exact iff_of_true (Or.inl hreport) (by simp)
  | commonWithError =>
      simp only [HandlerReports, kkmProcessIntr, hga, hh, onUser,
        kkmProcessCommonWithError] at hzero ⊢
      have hreport := recordException_ioReport cfg kkm k₀ _ s.user hzero
      exact iff_of_true (Or.inl hreport) (by simp)
  | debug =>
      simp only [HandlerReports, kkmProcessIntr, hga, hh]
      exact iff_of_true (Or.inr ⟨rfl, fun _ _ _ => rfl⟩) (by simp)
  | nmi =>
      refine iff_of_false (not_handlerReports_of_unknown cfg kkm a k s ?_) (by simp)
      simp only [kkmProcessIntr, hh]
  | breakpoint =>
      exact iff_of_false (not_handlerReports_of_breakpoint cfg kkm a k s hh) (by simp)
  | syscall =>
      simp only [HandlerReports, kkmProcessIntr, hga, hh, onUser]
      have hreport := kkmProcessSyscall_ioReport cfg kkm k₀ s.user
      exact iff_of_true (Or.inl hreport) (by simp)
  | forward =>
      have hdone : kkmKontextFaultProcessDone ≠ 0 := by decide
      simp only [kkmProcessIntr, hh] at hzero
      exact absurd hzero hdone

end Exit

/-! ## The exit that ends a call -/

/-- The turn that ends the loop, with the kontext and the memory it starts
with. -/
def endingTurn (cfg : KkmConfig) :
    LoopState → List PayloadTurn → Option (PayloadTurn × KkmKontext × RunMemory)
  | .begin kontext memory, t :: turns =>
      match loopTurn cfg t kontext memory with
      | .begin kontext' memory' => endingTurn cfg (.begin kontext' memory') turns
      | .returned _ _ _ => some (t, kontext, memory)
  | _, _ => none

/-- The same for a call of `KKM_RUN`. -/
def endingTurnOfRun
    (cfg : KkmConfig) (turns : List PayloadTurn)
    (kontext : KkmKontext) (memory : RunMemory) :
    Option (PayloadTurn × KkmKontext × RunMemory) :=
  endingTurn cfg (kkmKontextSwitchKernel cfg [] (kkmSetRegs kontext) memory) turns

section Run

variable {cfg : KkmConfig} {turns : List PayloadTurn}

theorem foldl_returned (ret : Int) (k : KkmKontext) (m : RunMemory) :
    turns.foldl (loopStep cfg) (.returned ret k m) = .returned ret k m := by
  induction turns with
  | nil => rfl
  | cons t turns ih => exact ih

theorem endingTurn_some
    {s : LoopState} {t : PayloadTurn} {k : KkmKontext} {m : RunMemory}
    (hend : endingTurn cfg s turns = some (t, k, m)) :
    turns.foldl (loopStep cfg) s = loopTurn cfg t k m := by
  induction turns generalizing s with
  | nil => cases s <;> cases hend
  | cons t' turns ih =>
      cases s with
      | returned ret k' m' => cases hend
      | begin k' m' =>
          rw [List.foldl_cons, loopStep]
          rw [endingTurn] at hend
          cases hturn : loopTurn cfg t' k' m' with
          | begin k'' m'' =>
              rw [hturn] at hend
              exact ih hend
          | returned ret k'' m'' =>
              rw [hturn] at hend
              cases hend
              rw [foldl_returned, hturn]

theorem endingTurn_none
    {k : KkmKontext} {m : RunMemory}
    (hend : endingTurn cfg (.begin k m) turns = none) :
    ∃ k' m', turns.foldl (loopStep cfg) (.begin k m) = .begin k' m' := by
  induction turns generalizing k m with
  | nil => exact ⟨k, m, rfl⟩
  | cons t turns ih =>
      rw [List.foldl_cons, loopStep]
      rw [endingTurn] at hend
      cases hturn : loopTurn cfg t k m with
      | begin k' m' =>
          rw [hturn] at hend
          exact ih hend
      | returned ret k' m' =>
          rw [hturn] at hend
          cases hend

theorem kkmKontextSwitchKernel_eq_foldl (k : KkmKontext) (m : RunMemory) :
    kkmKontextSwitchKernel cfg turns k m =
      turns.foldl (loopStep cfg) (kkmKontextSwitchKernel cfg [] k m) := by
  rw [kkmKontextSwitchKernel_nil]
  simp only [kkmKontextSwitchKernel]
  split
  · rw [foldl_returned]
  · rfl

theorem kkmKontextSwitchKernelStart_ne_zero
    {k k' : KkmKontext} {m m' : RunMemory} {ret : Int}
    (hret : kkmKontextSwitchKernel cfg [] k m = .returned ret k' m') : ret ≠ 0 := by
  rw [kkmKontextSwitchKernel_nil] at hret
  split at hret
  · rename_i hne
    cases hret
    exact hne
  · cases hret

/-- A call that returns 0 has been ended by an exit. -/
theorem endingTurnOfRun_of_zero
    {k k' : KkmKontext} {m m' : RunMemory}
    (hrun : kkmRun cfg turns k m = .returned 0 k' m') :
    ∃ t k₀ m₀ k₁ m₁, endingTurnOfRun cfg turns k m = some (t, k₀, m₀) ∧
      loopTurn cfg t k₀ m₀ = .returned 0 k₁ m₁ ∧ k' = kkmGetRegs k₁ := by
  rw [kkmRun, kkmKontextSwitchKernel_eq_foldl] at hrun
  rw [endingTurnOfRun]
  cases hs : kkmKontextSwitchKernel cfg [] (kkmSetRegs k) m with
  | returned ret k₁ m₁ =>
      rw [hs, foldl_returned] at hrun
      cases hrun
      exact absurd rfl (kkmKontextSwitchKernelStart_ne_zero hs)
  | begin k₁ m₁ =>
      rw [hs] at hrun
      cases hend : endingTurn cfg (.begin k₁ m₁) turns with
      | none =>
          obtain ⟨k₂, m₂, hloop⟩ := endingTurn_none hend
          rw [hloop] at hrun
          cases hrun
      | some found =>
          obtain ⟨t, k₀, m₀⟩ := found
          rw [endingTurn_some hend] at hrun
          cases hturn : loopTurn cfg t k₀ m₀ with
          | begin k₂ m₂ =>
              rw [hturn] at hrun
              cases hrun
          | returned ret k₂ m₂ =>
              rw [hturn] at hrun
              cases hrun
              exact ⟨t, k₀, m₀, k₂, _, rfl, hturn, rfl⟩

/-- What the turn that ends a call returns, the call returns. -/
theorem kkmRun_of_endingTurn
    {k k₀ k₁ : KkmKontext} {m m₀ m₁ : RunMemory} {t : PayloadTurn} {ret : Int}
    (hend : endingTurnOfRun cfg turns k m = some (t, k₀, m₀))
    (hturn : loopTurn cfg t k₀ m₀ = .returned ret k₁ m₁) :
    kkmRun cfg turns k m = .returned ret (kkmGetRegs k₁) m₁ := by
  rw [kkmRun, kkmKontextSwitchKernel_eq_foldl, endingTurn_some hend, hturn]

end Run

section Turn

variable {cfg : KkmConfig} {t : PayloadTurn} {k k' : KkmKontext} {m m' : RunMemory}

/-- Only the handler of an exit makes a turn return 0. -/
theorem loopTurn_zero_iff :
    (∃ k' m', loopTurn cfg t k m = .returned 0 k' m') ↔
      t.signal = false ∧ (t.processIntr cfg k m).1 = 0 := by
  have hdone : kkmKontextFaultProcessDone ≠ 0 := by decide
  cases hs : t.signal with
  | true => simp [loopTurn, hs, eintr]
  | false =>
      simp only [loopTurn, hs, Bool.false_eq_true, if_false, afterIntr, true_and]
      split
      · rename_i hret
        refine iff_of_false ?_ (by rw [hret]; exact hdone)
        rintro ⟨k', m', h⟩
        split at h
        · rename_i hne
          injection h with hzero
          exact hne hzero
        · cases h
      · constructor
        · rintro ⟨k', m', h⟩
          injection h
        · intro hzero
          exact ⟨_, _, by rw [hzero]⟩

theorem loopTurn_zero
    (hturn : loopTurn cfg t k m = .returned 0 k' m') :
    k' = (t.processIntr cfg k m).2.1 := by
  obtain ⟨hsignal, hzero⟩ := loopTurn_zero_iff.mp ⟨k', m', hturn⟩
  have hdone : ¬ (t.processIntr cfg k m).1 = kkmKontextFaultProcessDone := by
    rw [hzero]
    decide
  simp only [loopTurn, hsignal, Bool.false_eq_true, if_false, afterIntr,
    if_neg hdone] at hturn
  injection hturn with _ hk'
  exact hk'.symm

theorem processIntr_pageFault_zero_iff (hpf : t.exit.intrNo = x86TrapPf) :
    (t.processIntr cfg k m).1 = 0 ↔
      t.exit.error &&& x86PfUser ≠ x86PfUser ∧
        kkmGuestVaToMonitorVa cfg t.kkm t.exit.cr2 ≠ none := by
  have hh : intrHandler (t.atExit k).ga.intrNo = .pageFault :=
    (intrHandler_unreported_iff t.exit.intrNo).2.2.mpr hpf
  simp only [PayloadTurn.processIntr, kkmProcessIntr, hh,
    kkmProcessPageFault_zero_iff]
  exact Iff.rfl

/-- Only exits with result 0 can be left without a report. -/
theorem processIntr_zero_of_not_fillsReport (hfills : ¬ FillsReport cfg t) :
    t.signal = false ∧ (t.processIntr cfg k m).1 = 0 := by
  simp only [FillsReport, not_or, not_and, Classical.not_imp] at hfills
  obtain ⟨hsignal, hcause⟩ := hfills
  obtain ⟨hnmi, hbp, -⟩ := intrHandler_unreported_iff t.exit.intrNo
  refine ⟨Bool.eq_false_iff.mpr hsignal, ?_⟩
  by_cases h2 : t.exit.intrNo = 2#64
  · have hh : intrHandler (t.atExit k).ga.intrNo = .nmi := hnmi.mpr h2
    simp only [PayloadTurn.processIntr, kkmProcessIntr, hh]
  · by_cases h3 : t.exit.intrNo = 3#64
    · have hh : intrHandler (t.atExit k).ga.intrNo = .breakpoint := hbp.mpr h3
      simp only [PayloadTurn.processIntr, kkmProcessIntr, hh]
      rfl
    · obtain ⟨hpf, hkernel, hbacked⟩ := hcause h2 h3
      exact (processIntr_pageFault_zero_iff hpf).mpr ⟨hkernel, hbacked⟩

theorem reports_iff_fillsReport
    (hsignal : t.signal = false) (hzero : (t.processIntr cfg k m).1 = 0) :
    Reports cfg t k m (t.processIntr cfg k m).2.1 ↔ FillsReport cfg t := by
  obtain ⟨hnmi, hbp, hpf⟩ := intrHandler_unreported_iff t.exit.intrNo
  have hiff := handlerReports_iff cfg t.kkm t.answers (t.atExit k)
    { m with user := t.user } hzero
  constructor
  · intro hreports
    obtain ⟨h2, h3, h14⟩ := hiff.mp hreports
    exact Or.inr ⟨mt hnmi.mpr h2, mt hbp.mpr h3, fun h => absurd (hpf.mpr h) h14⟩
  · rintro (hs | ⟨h2, h3, h14⟩)
    · rw [hsignal] at hs
      cases hs
    · refine hiff.mpr ⟨mt hnmi.mp h2, mt hbp.mp h3, fun hh => ?_⟩
      have hno := hpf.mp hh
      obtain ⟨hkernel, hbacked⟩ := (processIntr_pageFault_zero_iff hno).mp hzero
      rcases h14 hno with huser | hnone
      · exact hkernel huser
      · exact hbacked hnone

end Turn

/-- When a call returns 0, the monitor finds the report of the exit that ended
it. -/
def Reported
    (cfg : KkmConfig) (turns : List PayloadTurn) (k : KkmKontext) (m : RunMemory) :
    Prop :=
  ∀ k' m', kkmRun cfg turns k m = .returned 0 k' m' →
    ∃ t k₀ m₀, endingTurnOfRun cfg turns k m = some (t, k₀, m₀) ∧
      Reports cfg t k₀ m₀ k'

theorem kkmRun_reports_iff
    (cfg : KkmConfig) (turns : List PayloadTurn) (k : KkmKontext) (m : RunMemory) :
    Reported cfg turns k m ↔
      ∀ t k₀ m₀, endingTurnOfRun cfg turns k m = some (t, k₀, m₀) →
        FillsReport cfg t := by
  constructor
  · intro hreported t k₀ m₀ hend
    by_contra hfills
    obtain ⟨hsignal, hzero⟩ := processIntr_zero_of_not_fillsReport
      (k := k₀) (m := m₀) hfills
    obtain ⟨k₁, m₁, hturn⟩ := loopTurn_zero_iff.mpr ⟨hsignal, hzero⟩
    obtain ⟨t', k₀', m₀', hend', hreports⟩ :=
      hreported _ _ (kkmRun_of_endingTurn hend hturn)
    rw [hend] at hend'
    cases hend'
    rw [loopTurn_zero hturn] at hreports
    exact hfills ((reports_iff_fillsReport hsignal hzero).mp hreports)
  · intro hfills k' m' hrun
    obtain ⟨t, k₀, m₀, k₁, m₁, hend, hturn, rfl⟩ := endingTurnOfRun_of_zero hrun
    obtain ⟨hsignal, hzero⟩ := loopTurn_zero_iff.mp ⟨k₁, m₁, hturn⟩
    refine ⟨t, k₀, m₀, hend, ?_⟩
    rw [loopTurn_zero hturn]
    exact (reports_iff_fillsReport hsignal hzero).mpr (hfills t k₀ m₀ hend)

/-- After an NMI the call returns 0 with `KKM_EXIT_UNKNOWN`. -/
theorem nmi_not_reported :
    (∃ k' m', kkmRun .stock [exitTurn 2#64 0#64 0#64] .zeroed zeroedRunMemory =
        .returned 0 k' m' ∧ k'.run.exitReason = kkmExitUnknown) ∧
      ¬ Reported .stock [exitTurn 2#64 0#64 0#64] .zeroed zeroedRunMemory := by
  have hrun : ∃ k' m', kkmRun .stock [exitTurn 2#64 0#64 0#64] .zeroed
      zeroedRunMemory = .returned 0 k' m' ∧ k'.run.exitReason = kkmExitUnknown :=
    ⟨_, _, rfl, rfl⟩
  refine ⟨hrun, fun hreported => ?_⟩
  obtain ⟨k', m', hret, hreason⟩ := hrun
  obtain ⟨t, k₀, m₀, -, ⟨hio, -⟩ | ⟨hdebug, -⟩⟩ := hreported k' m' hret
  · rw [hreason] at hio
    exact absurd hio (by decide)
  · rw [hreason] at hdebug
    exact absurd hdebug (by decide)

end Driver
end KkmModule
