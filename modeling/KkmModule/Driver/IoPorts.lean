import KkmModule.Driver.StackFrames

/-!
# What a port tells the monitor

Exceptions, OUT instructions and system calls of the payload are all reported as
`KKM_EXIT_IO`, with a 16-bit port that has the base bit set.  The port keeps the
low 15 bits of the number a payload passes, and the exception port lies among
them; what kind of exit it was is told by the reason in the private area.
-/

namespace KkmModule
namespace Driver

open Foundation

/-! ## Kinds of exits -/

/-- The exits that are reported as `KKM_EXIT_IO`. -/
inductive IoKind where
  | exception
  | hyperCall
  | syscall
deriving DecidableEq, Repr

/-- The reason in the private area. -/
def IoKind.reason : IoKind → BitVec 32
  | .exception => faultUnknown
  | .hyperCall => faultHyperCall
  | .syscall => faultSyscall

/-- The number an exit carries: that of an OUT is in DX, that of a system call in
RAX. -/
def IoKind.number (regs : KkmRegs) : IoKind → BitVec 64
  | .exception => kkmExceptionIoPort.setWidth 64
  | .hyperCall => regs.rdx
  | .syscall => regs.rax

/-- The kind of the exits a handler reports. -/
def ioKindOf : IntrHandler → Option IoKind
  | .commonWithoutError | .commonWithError => some .exception
  | .generalProtection => some .hyperCall
  | .syscall => some .syscall
  | .pageFault | .debug | .nmi | .breakpoint | .forward => none

theorem IoKind.reason_injective : Function.Injective IoKind.reason := by
  intro kind kind' h
  cases kind <;> cases kind' <;> first | rfl | exact absurd h (by decide)

/-- The port of a number. -/
def ioPort (number : BitVec 64) : BitVec 16 :=
  number.setWidth 16 ||| kkmHypercallIoPortBase

/-- A port has the low 15 bits of its number, and the base bit. -/
theorem ioPort_getLsbD (number : BitVec 64) {i : Nat} (hi : i < 16) :
    (ioPort number).getLsbD i = (number.getLsbD i || i == 15) := by
  have hbase : ∀ j : Fin 16,
      kkmHypercallIoPortBase.getLsbD j.val = (j.val == 15) := by decide
  rw [ioPort, BitVec.getLsbD_or, hbase ⟨i, hi⟩, BitVec.getLsbD_setWidth]
  simp [hi]

theorem ioPort_eq_iff (number number' : BitVec 64) :
    ioPort number = ioPort number' ↔
      number.setWidth 15 = number'.setWidth 15 := by
  constructor
  · intro h
    apply BitVec.eq_of_getLsbD_eq
    intro i hi
    have hbit := congrArg (fun port => port.getLsbD i) h
    have hlt : i < 16 := by omega
    have hne : (i == 15) = false := by
      rw [beq_eq_false_iff_ne]
      omega
    simp only [ioPort_getLsbD _ hlt, hne, Bool.or_false] at hbit
    simp [BitVec.getLsbD_setWidth, hbit]
  · intro h
    apply BitVec.eq_of_getLsbD_eq
    intro i hi
    rw [ioPort_getLsbD _ hi, ioPort_getLsbD _ hi]
    rcases Nat.lt_or_ge i 15 with hlt | hge
    · have hbit := congrArg (fun low => low.getLsbD i) h
      simp only [BitVec.getLsbD_setWidth, hlt, decide_true, Bool.true_and] at hbit
      rw [hbit]
    · have heq : i = 15 := by omega
      simp [heq]

/-- The port of every exception. -/
theorem ioPort_exception (regs : KkmRegs) :
    ioPort (IoKind.number regs .exception) = kkmExceptionIoPort := by
  simp only [IoKind.number]
  decide

/-! ## What the handlers report -/

/-- The exit is reported with the port and the reason of a kind; `k` is the
kontext at the exit. -/
structure ReportedAs (kind : IoKind) (k k' : KkmKontext) : Prop where
  port : k'.run.io.port = ioPort (kind.number k.ga.regs)
  reason : k'.privateArea.reason = kind.reason

section Handlers

variable (cfg : KkmConfig) (kkm : Kkm)

theorem recordException_reportedAs
    (args : List (BitVec 64)) {k : KkmKontext} (m : ByteMemory)
    (hreset : k.run.exitReason ≠ kkmExitIo)
    (hio : (recordException cfg kkm args k m).2.1.run.exitReason = kkmExitIo) :
    ReportedAs .exception k (recordException cfg kkm args k m).2.1 := by
  simp only [recordException_eq] at hio ⊢
  split at hio
  · exact absurd hio hreset
  · exact ⟨(ioPort_exception k.ga.regs).symm, rfl⟩

theorem kkmProcessGeneralProtection_reportedAs
    {k : KkmKontext} (m : ByteMemory) (hreset : k.run.exitReason ≠ kkmExitIo)
    (hio : (kkmProcessGeneralProtection cfg kkm k m).2.run.exitReason =
      kkmExitIo) :
    ReportedAs .hyperCall k (kkmProcessGeneralProtection cfg kkm k m).2 := by
  simp only [kkmProcessGeneralProtection, KkmKontext.setRegs] at hio ⊢
  split at hio
  · exact absurd hio hreset
  · split at hio
    · exact absurd hio hreset
    · rename_i hread
      rw [if_neg hread]
      split at hio
      · exact absurd hio hreset
      · rename_i hopcode
        rw [if_neg hopcode]
        exact ⟨rfl, rfl⟩

theorem pushHcArgs_report
    (gva : BitVec 64) (args : List (BitVec 64)) (k : KkmKontext) (m : ByteMemory) :
    (pushHcArgs cfg kkm gva args k m).2.1.run = k.run ∧
      (pushHcArgs cfg kkm gva args k m).2.1.privateArea = k.privateArea := by
  rw [pushHcArgs_eq]
  split
  · exact ⟨rfl, rfl⟩
  · split
    · exact ⟨rfl, rfl⟩
    · exact ⟨rfl, rfl⟩

/-- A system call is reported before its arguments are copied. -/
theorem kkmProcessSyscall_reportedAs (k : KkmKontext) (m : ByteMemory) :
    (kkmProcessSyscall cfg kkm k m).2.1.run.exitReason = kkmExitIo ∧
      ReportedAs .syscall k (kkmProcessSyscall cfg kkm k m).2.1 := by
  obtain ⟨hrun, harea⟩ := pushHcArgs_report cfg kkm
    (k.ga.regs.rsp - kkmAbiRedzone - sizeofKkmHcArgs)
    [0#64, k.ga.regs.rdi, k.ga.regs.rsi, k.ga.regs.rdx, k.ga.regs.r10,
      k.ga.regs.r8, k.ga.regs.r9]
    (kkmSetupHypercall
      (k.setRegs { k.ga.regs with
        rsp := k.ga.regs.rsp - kkmAbiRedzone - sizeofKkmHcArgs })
      (k.ga.regs.rax.setWidth 16)
      ((k.ga.regs.rsp - kkmAbiRedzone - sizeofKkmHcArgs).setWidth 32)
      faultSyscall) m
  refine ⟨?_, ?_, ?_⟩
  · rw [kkmProcessSyscall, hrun]
    rfl
  · rw [kkmProcessSyscall, hrun]
    rfl
  · rw [kkmProcessSyscall, harea]
    rfl

theorem kkmProcessPageFault_run
    (nativePgd : Nat) (read : UserRead) (write : UserWrite)
    (k : KkmKontext) (tables : Memory) :
    (kkmProcessPageFault cfg nativePgd kkm read write k tables).2.1.run =
      k.run := by
  simp only [kkmProcessPageFault]
  split
  · rfl
  · split
    · split
      · rfl
      · split <;> rfl
    · rfl

/-- An exit that is reported as `KKM_EXIT_IO` is of one of the three kinds, and
reported as that. -/
theorem kkmProcessIntr_reportedAs
    (a : ExitAnswers) (k : KkmKontext) (s : RunMemory)
    (hio : (kkmProcessIntr cfg kkm a k s).2.1.run.exitReason = kkmExitIo) :
    ∃ kind, ioKindOf (intrHandler k.ga.intrNo) = some kind ∧
      ReportedAs kind k (kkmProcessIntr cfg kkm a k s).2.1 := by
  have hunknown : kkmExitUnknown ≠ kkmExitIo := by decide
  have hdebug : kkmExitDebug ≠ kkmExitIo := by decide
  cases hh : intrHandler k.ga.intrNo with
  | generalProtection =>
      simp only [kkmProcessIntr, hh] at hio ⊢
      have h := kkmProcessGeneralProtection_reportedAs cfg kkm s.user hunknown hio
      exact ⟨.hyperCall, rfl, h.port, h.reason⟩
  | pageFault =>
      simp only [kkmProcessIntr, hh, kkmProcessPageFault_run] at hio
      exact absurd hio hunknown
  | commonWithoutError =>
      simp only [kkmProcessIntr, hh, onUser, kkmProcessCommonWithoutError] at hio ⊢
      have h := recordException_reportedAs cfg kkm _ s.user hunknown hio
      exact ⟨.exception, rfl, h.port, h.reason⟩
  | commonWithError =>
      simp only [kkmProcessIntr, hh, onUser, kkmProcessCommonWithError] at hio ⊢
      have h := recordException_reportedAs cfg kkm _ s.user hunknown hio
      exact ⟨.exception, rfl, h.port, h.reason⟩
  | debug =>
      simp only [kkmProcessIntr, hh, kkmProcessDebug] at hio
      exact absurd hio hdebug
  | nmi =>
      simp only [kkmProcessIntr, hh] at hio
      exact absurd hio hunknown
  | breakpoint =>
      simp only [kkmProcessIntr, hh, kkmProcessBreakpoint] at hio
      exact absurd hio hdebug
  | syscall =>
      simp only [kkmProcessIntr, hh, onUser]
      have h := (kkmProcessSyscall_reportedAs cfg kkm
        { k with run := { k.run with exitReason := kkmExitUnknown } } s.user).2
      exact ⟨.syscall, rfl, h.port, h.reason⟩
  | forward =>
      simp only [kkmProcessIntr, hh] at hio
      exact absurd hio hunknown

end Handlers

/-! ## Telling exits apart -/

/-- An exit of the payload that is reported as `KKM_EXIT_IO`. -/
structure IoExit (cfg : KkmConfig) where
  kkm : Kkm
  answers : ExitAnswers
  /-- the kontext at the exit -/
  kontext : KkmKontext
  memory : RunMemory
  kind : IoKind
  handled : ioKindOf (intrHandler kontext.ga.intrNo) = some kind
  reported : (kkmProcessIntr cfg kkm answers kontext memory).2.1.run.exitReason =
    kkmExitIo

namespace IoExit

variable {cfg : KkmConfig} (x : IoExit cfg)

/-- The kontext the monitor finds. -/
def report : KkmKontext :=
  (kkmProcessIntr cfg x.kkm x.answers x.kontext x.memory).2.1

/-- What `kkm_process_intr` returns. -/
def ret : Int := (kkmProcessIntr cfg x.kkm x.answers x.kontext x.memory).1

def port : BitVec 16 := x.report.run.io.port

def reason : BitVec 32 := x.report.privateArea.reason

/-- The 64-bit number the payload has passed. -/
def number : BitVec 64 := x.kind.number x.kontext.ga.regs

theorem reportedAs : ReportedAs x.kind x.kontext x.report := by
  obtain ⟨kind, hkind, h⟩ :=
    kkmProcessIntr_reportedAs cfg x.kkm x.answers x.kontext x.memory x.reported
  rw [x.handled] at hkind
  cases hkind
  exact h

theorem port_eq : x.port = ioPort x.number := x.reportedAs.port

theorem reason_eq : x.reason = x.kind.reason := x.reportedAs.reason

theorem port_eq_port_iff (y : IoExit cfg) :
    x.port = y.port ↔ x.number.setWidth 15 = y.number.setWidth 15 := by
  rw [x.port_eq, y.port_eq]
  exact ioPort_eq_iff x.number y.number

end IoExit

/-- The port alone tells exceptions from other exits, and system calls from each
other. -/
def PortTellsApart {cfg : KkmConfig} (x y : IoExit cfg) : Prop :=
  x.port = y.port →
    (x.kind = .exception ↔ y.kind = .exception) ∧
      (x.kind = .syscall → y.kind = .syscall → x.number = y.number)

/-- The reason tells the kinds apart, the port the low 15 bits of the number of a
system call; they may be those of the exception port. -/
theorem ioExits_told_apart {cfg : KkmConfig} (x y : IoExit cfg) :
    (x.reason = y.reason ↔ x.kind = y.kind) ∧
      (x.kind = .syscall → y.kind = .syscall →
        (x.port = y.port ↔ x.number.setWidth 15 = y.number.setWidth 15)) ∧
      (x.kind = .exception → x.port = kkmExceptionIoPort) ∧
      (x.kind ≠ .exception →
        (x.port = kkmExceptionIoPort ↔ x.number.setWidth 15 = 0x1FD#15)) := by
  refine ⟨?_, fun _ _ => x.port_eq_port_iff y, ?_, fun _ => ?_⟩
  · rw [x.reason_eq, y.reason_eq]
    exact IoKind.reason_injective.eq_iff
  · intro h
    rw [x.port_eq, IoExit.number, h]
    exact ioPort_exception _
  · have hlow : (IoKind.number x.kontext.ga.regs .exception).setWidth 15 =
        0x1FD#15 := by
      simp only [IoKind.number]
      decide
    rw [x.port_eq, ← ioPort_exception x.kontext.ga.regs, ioPort_eq_iff, hlow]

/-- An exit with the given vector and RAX. -/
def exitWithRax (intrNo rax : BitVec 64) : KkmKontext :=
  (exitWithStack intrNo 0x400000#64).setRegs
    { KkmRegs.zeroed with rax := rax, rsp := 0x400000#64 }

/-- A system call with the given number. -/
def systemCallExit (number : BitVec 64) : IoExit .stock where
  kkm := .zeroed
  answers := zeroedExitAnswers
  kontext := exitWithRax kkmIntrSyscall number
  memory := zeroedRunMemory
  kind := .syscall
  handled := rfl
  reported := (kkmProcessSyscall_reportedAs .stock .zeroed _ _).1

def divideErrorExit : IoExit .stock where
  kkm := .zeroed
  answers := zeroedExitAnswers
  kontext := exitWithRax 0#64 0#64
  memory := zeroedRunMemory
  kind := .exception
  handled := rfl
  reported := rfl

theorem systemCallExit_ret (number : BitVec 64) : (systemCallExit number).ret = 0 := by
  have hf : stackFrame (exitWithRax kkmIntrSyscall number) =
      some (hcArgsFrame (exitWithRax kkmIntrSyscall number)) := rfl
  have hgva : (hcArgsFrame (exitWithRax kkmIntrSyscall number)).gva =
      0x400000#64 - kkmAbiRedzone - sizeofKkmHcArgs := rfl
  have hfits : FrameFits .stock .zeroed (exitWithRax kkmIntrSyscall number)
      zeroedRunMemory.user (hcArgsFrame (exitWithRax kkmIntrSyscall number)) := by
    constructor
    · rw [hgva]
      exact canCopy_bottom _ (by decide) (by decide)
    · exact fun _ => canCopy_bottom _
        (show kkmGuestMemStartVa ≤ 0x300000#64 by decide)
        (show 0x300000#64 < kkmGuestMaxPhysMem by decide)
  rcases kkmProcessIntr_frame .stock .zeroed zeroedExitAnswers zeroedRunMemory hf with
    h | h
  · exact h.2.1
  · exact absurd hfits h.1

/-- Numbers that differ by 0x8000 have one port, and system call 0x1FD has the
port of the exceptions. -/
theorem port_tells_too_little :
    (∀ number, (systemCallExit number).ret = 0) ∧ divideErrorExit.ret = 0 ∧
      ¬ PortTellsApart (systemCallExit 0#64) (systemCallExit 0x8000#64) ∧
      ¬ PortTellsApart (systemCallExit 0x1FD#64) divideErrorExit := by
  refine ⟨systemCallExit_ret, rfl, ?_, ?_⟩
  · intro h
    have hport : (systemCallExit 0#64).port = (systemCallExit 0x8000#64).port := by
      rw [IoExit.port_eq, IoExit.port_eq]
      rfl
    have hnumber : (0#64 : BitVec 64) = 0x8000#64 := (h hport).2 rfl rfl
    exact absurd hnumber (by decide)
  · intro h
    have hport : (systemCallExit 0x1FD#64).port = divideErrorExit.port := by
      rw [IoExit.port_eq, IoExit.port_eq]
      rfl
    cases (h hport).1.mpr rfl

end Driver
end KkmModule
