import KkmModule.Driver.Kontext
import KkmModule.Driver.PageFault
import KkmModule.Foundation.ByteImage

/-!
# Running a payload (`KKM_RUN`)

`kkm_run` and `kkm_kontext_switch_kernel` in the order of the source: what is
done before the label `begin`, the entry of the payload, what an exit leaves in
the guest area, and `kkm_process_intr` with its handlers.

The address-space switch and the moves of registers are not part of these
functions; an exit is given by the register file the payload had.
-/

namespace KkmModule
namespace Driver

open Foundation

/-- `-1` in a 64-bit field. -/
def minusOne : BitVec 64 := 0xFFFFFFFFFFFFFFFF#64

/-- `sizeof(struct kkm_hc_args)` -/
def sizeofKkmHcArgs : BitVec 64 := 56#64

def kkmAbiRedzone : BitVec 64 := 128#64

/-! ## Registers in the run page -/

/-- The general registers in the guest area. -/
def KkmKontext.setRegs (kontext : KkmKontext) (regs : KkmRegs) : KkmKontext :=
  { kontext with ga := { kontext.ga with regs := regs } }

/-- A set of dirty registers after one of them has been copied. -/
def clearDirty (sync dirty : BitVec 64) : BitVec 64 :=
  if dirty &&& sync ≠ 0 then dirty &&& ~~~sync else dirty

def kkmSetRegs (kontext : KkmKontext) : KkmKontext :=
  let dirty := kontext.run.kkmDirtyRegs
  let dirtySregs := clearDirty kkmSyncX86Regs dirty
  { kontext with
    ga := { kontext.ga with
      regs :=
        if dirty &&& kkmSyncX86Regs ≠ 0 then kontext.run.regs
        else kontext.ga.regs
      sregs :=
        if dirtySregs &&& kkmSyncX86Sregs ≠ 0 then kontext.run.sregs
        else kontext.ga.sregs }
    run := { kontext.run with
      kkmDirtyRegs := clearDirty kkmSyncX86Sregs dirtySregs } }

/-- `kkm_get_regs`: the run page afterwards. -/
def runPageRegs (kontext : KkmKontext) : KkmRun :=
  { kontext.run with
    regs :=
      if kontext.run.kkmValidRegs &&& kkmSyncX86Regs ≠ 0 then kontext.ga.regs
      else kontext.run.regs
    sregs :=
      if kontext.run.kkmValidRegs &&& kkmSyncX86Sregs ≠ 0 then kontext.ga.sregs
      else kontext.run.sregs }

def kkmGetRegs (kontext : KkmKontext) : KkmKontext :=
  { kontext with run := runPageRegs kontext }

/-! ## `kkm_kontext_switch_kernel` up to `begin` -/

/-- The stack pointer above the frame of a system call. -/
def aboveHcArgs (rsp : BitVec 64) : BitVec 64 :=
  rsp + sizeofKkmHcArgs + kkmAbiRedzone

/-- A new thread that is started by clone. -/
def isCloneStart (kontext : KkmKontext) : Bool :=
  kontext.newThread && !kontext.firstThread &&
    kontext.privateArea.reason == faultSyscall

/-- A new thread; its stack is adjusted if it is started by clone. -/
def startNewThread (kontext : KkmKontext) : KkmKontext :=
  { kontext.setRegs
      (if isCloneStart kontext then
        { kontext.ga.regs with rsp := aboveHcArgs kontext.ga.regs.rsp }
      else kontext.ga.regs) with
    newThread := false }

def kkmKontextHandleSyscallResponse (m : ByteMemory) (kontext : KkmKontext) :
    Int × KkmKontext :=
  if kontext.syscallPending = true then
    match readWord m kontext.retValMva with
    | none => (-efault, kontext)
    | some syscallRetValue =>
        let kontext := kontext.setRegs
          { kontext.ga.regs with
            rax := syscallRetValue
            rsp := aboveHcArgs kontext.ga.regs.rsp }
        (0, { kontext with syscallPending := false, retValMva := minusOne })
  else (0, kontext)

/-- The registers that a posted exception has displaced come back. -/
def restoreException (kontext : KkmKontext) : KkmKontext :=
  { kontext.setRegs
      (if kontext.exceptionPosted = true then
        { kontext.ga.regs with
          rax := kontext.exceptionSavedRax
          rbx := kontext.exceptionSavedRbx }
      else kontext.ga.regs) with
    exceptionPosted := false
    exceptionSavedRax := minusOne
    exceptionSavedRbx := minusOne }

def forgetTrap (kontext : KkmKontext) : KkmKontext :=
  { kontext with
    prevTrapNo := minusOne
    prevTrapAddr := minusOne
    prevErrorCode := minusOne
    trapRepeatCounter := minusOne }

/-- Result 0: the label `begin` is reached. -/
def kkmKontextSwitchKernelStart (m : ByteMemory) (kontext : KkmKontext) :
    Int × KkmKontext :=
  if kontext.run.immediateExit = 1#8 then (-eintr, kontext)
  else
    let (ret, kontext) :=
      kkmKontextHandleSyscallResponse m (startNewThread kontext)
    if ret ≠ 0 then (ret, kontext)
    else (0, forgetTrap (restoreException kontext))

/-! ## Entering the payload -/

/-- The CPU the payload is entered on. -/
structure EntryCpu where
  cpu : BitVec 64
  cr4 : BitVec 64

/-- The fields of the guest area set before the stacks are switched. -/
def prepareGuestArea (e : EntryCpu) (kontext : KkmKontext) : KkmKontext :=
  { kontext with
    ga := { kontext.ga with
      cpu := e.cpu
      guestKernelCr4 := e.cr4
      intrNo := minusOne } }

/-- `X86_EFLAGS_TF` -/
def x86EflagsTf : BitVec 64 := 0x100#64
/-- `X86_EFLAGS_IF` -/
def x86EflagsIf : BitVec 64 := 0x200#64
/-- `X86_EFLAGS_IOPL` -/
def x86EflagsIopl : BitVec 64 := 0x3000#64
/-- `X86_EFLAGS_RF` -/
def x86EflagsRf : BitVec 64 := 0x10000#64

def userCs : BitVec 64 := 0x33#64
def userDs : BitVec 64 := 0x2B#64

/-- Single step is requested. -/
def singleStep (debug : KkmDebug) : Bool :=
  debug.control &&& (kkmGuestdbgSinglestep ||| kkmGuestdbgEnable) ==
    (kkmGuestdbgSinglestep ||| kkmGuestdbgEnable)

/-- The flags a payload is started with. -/
def payloadRflags (debug : KkmDebug) (rflags : BitVec 64) : BitVec 64 :=
  let rflags :=
    if rflags &&& x86EflagsIf = 0 then rflags ||| x86EflagsIf else rflags
  let rflags :=
    if rflags &&& x86EflagsIopl ≠ 0 then rflags &&& ~~~x86EflagsIopl else rflags
  let rflags :=
    if rflags &&& x86EflagsRf = 0 then rflags ||| x86EflagsRf else rflags
  if singleStep debug then rflags ||| x86EflagsTf else rflags &&& ~~~x86EflagsTf

/-- Registers as a payload is started with them. -/
def payloadRegs (debug : KkmDebug) (regs : KkmRegs) : KkmRegs :=
  { regs with rflags := payloadRflags debug regs.rflags }

/-- `kkm_guest_kernel_start_payload`: what it leaves in the guest area. -/
def kkmGuestKernelStartPayload (kontext : KkmKontext) : KkmKontext :=
  { kontext with
    ga := { kontext.ga with
      guestPayloadCs := userCs
      guestPayloadSs := userDs
      regs := { kontext.ga.regs with
        rflags := payloadRflags kontext.ga.debug kontext.ga.regs.rflags } } }

/-- From `begin`: a pending signal, or the payload is entered. -/
def enterPayload (e : EntryCpu) (kontext : KkmKontext) : KkmKontext :=
  kkmGuestKernelStartPayload (prepareGuestArea e kontext)

@[simp] theorem enterPayload_regs (e : EntryCpu) (kontext : KkmKontext) :
    (enterPayload e kontext).ga.regs =
      { kontext.ga.regs with
        rflags := payloadRflags kontext.ga.debug kontext.ga.regs.rflags } := rfl

@[simp] theorem enterPayload_debug (e : EntryCpu) (kontext : KkmKontext) :
    (enterPayload e kontext).ga.debug = kontext.ga.debug := rfl

/-- A pending signal at `begin`. -/
def signalExit (kontext : KkmKontext) : KkmKontext :=
  { kontext with run := { kontext.run with exitReason := kkmExitIntr } }

/-- How far a call of `KKM_RUN` gets before the payload runs. -/
inductive RunOutcome where
  | returned (ret : Int) (kontext : KkmKontext)
  | entered (kontext : KkmKontext)

/-- `kkm_run` up to the first entry of the payload; `signal` is the answer of
`signal_pending`. -/
def kkmRunEntry
    (m : ByteMemory) (signal : Bool) (e : EntryCpu) (kontext : KkmKontext) :
    RunOutcome :=
  let (ret, kontext) := kkmKontextSwitchKernelStart m (kkmSetRegs kontext)
  if ret ≠ 0 then .returned ret (kkmGetRegs kontext)
  else if signal then .returned (-eintr) (kkmGetRegs (signalExit kontext))
  else .entered (enterPayload e kontext)

/-! ## Leaving the payload -/

/-- An exit of the payload. -/
structure PayloadExit where
  regs : KkmRegs
  error : BitVec 64
  cs : BitVec 64
  ss : BitVec 64
  intrNo : BitVec 64
  cr0 : BitVec 64
  cr2 : BitVec 64
  cr3 : BitVec 64
  cr4 : BitVec 64
  cr8 : BitVec 64
  debugRegisters : Fin 8 → BitVec 64
  xsave : Nat → BitVec 8

def PayloadExit.trapInfo (e : PayloadExit) : KkmTrapInfo :=
  ⟨e.error, e.regs.rip, e.cs, e.regs.rflags, e.regs.rsp, e.ss⟩

/-- Debug registers have numbers. -/
instance debugRegisterNeZero : NeZero 8 := ⟨by decide⟩

/-- `kkm_hw_debug_registers_save` -/
def kkmHwDebugRegistersSave (hardware registers : Fin 8 → BitVec 64) :
    Fin 8 → BitVec 64 := fun i =>
  if i = 4 ∨ i = 5 then registers i
  else if i = 6 then hardware i &&& 0x1E00F#64
  else hardware i

/-- What the exit code, `kkm_switch_to_host_kernel` and the saving of the
payload xstate leave behind. -/
def leavePayload (e : PayloadExit) (kontext : KkmKontext) : KkmKontext :=
  let debug := kontext.ga.debug
  { kontext with
    ga := { kontext.ga with
      regs := e.regs
      sregs := { kontext.ga.sregs with
        cr0 := e.cr0, cr2 := e.cr2, cr3 := e.cr3, cr4 := e.cr4, cr8 := e.cr8 }
      debug :=
        if kontext.debugRegistersSet then
          { debug with registers :=
              kkmHwDebugRegistersSave e.debugRegisters debug.registers }
        else debug
      trapInfo := e.trapInfo
      intrNo := e.intrNo }
    payloadXsave := e.xsave
    validPayloadXsaveArea := true }

/-! ## Handlers -/

/-- User memory and the memory that holds page tables. -/
structure RunMemory where
  user : ByteMemory
  tables : Memory

/-- What the native kernel does during the handling of one exit. -/
structure ExitAnswers where
  nativePgd : Nat
  read : UserRead
  write : UserWrite

def kkmHypercallIoPortBase : BitVec 16 := 0x8000#16
def kkmHypercallIoSize : BitVec 8 := 4#8
def kkmHypercallIoCount : BitVec 32 := 1#32
def kkmExceptionIoPort : BitVec 16 := 0x81FD#16

/-- `KKM_EXIT_IO_OUT` -/
def kkmExitIoOut : BitVec 8 := 1#8

def kkmSetupHypercall
    (kontext : KkmKontext) (port : BitVec 16) (addr reason : BitVec 32) :
    KkmKontext :=
  { kontext with
    run := { kontext.run with
      exitReason := kkmExitIo
      io := ⟨kkmExitIoOut, kkmHypercallIoSize, port ||| kkmHypercallIoPortBase,
        kkmHypercallIoCount, BitVec.ofNat 64 pageSize⟩ }
    privateArea := ⟨addr, reason⟩ }

/-- `copy_to_user` of 64-bit words. -/
def copyWordsToUser (m : ByteMemory) (mva : BitVec 64) (words : List (BitVec 64)) :
    Bool × ByteMemory :=
  writeBytes m mva (words.flatMap wordBytes)

section Handlers

variable (cfg : KkmConfig) (kkm : Kkm)

/-- The two handlers that record an exception for the monitor; `args` is the
record they push. -/
def recordException
    (args : List (BitVec 64)) (kontext : KkmKontext) (m : ByteMemory) :
    Int × KkmKontext × ByteMemory :=
  let regs := kontext.ga.regs
  let gva := regs.rsp - BitVec.ofNat 64 (8 * args.length)
  let kontext := kontext.setRegs { regs with rsp := gva }
  match kkmGuestVaToMonitorVa cfg kkm gva with
  | none => (-efault, kontext, m)
  | some (mva, _) =>
      match copyWordsToUser m mva args with
      | (false, m) => (-efault, kontext, m)
      | (true, m) =>
          let kontext := kkmSetupHypercall kontext kkmExceptionIoPort
            (gva.setWidth 32) faultUnknown
          let kontext := { kontext with
            exceptionPosted := true
            exceptionSavedRax := regs.rax
            exceptionSavedRbx := regs.rbx }
          (0, kontext.setRegs
            { kontext.ga.regs with rax := gva, rbx := kontext.ga.intrNo }, m)

def kkmProcessCommonWithoutError (kontext : KkmKontext) (m : ByteMemory) :
    Int × KkmKontext × ByteMemory :=
  let regs := kontext.ga.regs
  let info := kontext.ga.trapInfo
  recordException cfg kkm
    [regs.rax, regs.rbx, regs.rdx, info.rip, info.cs, info.rflags, info.rsp,
      info.ss] kontext m

def kkmProcessCommonWithError (kontext : KkmKontext) (m : ByteMemory) :
    Int × KkmKontext × ByteMemory :=
  let regs := kontext.ga.regs
  let info := kontext.ga.trapInfo
  recordException cfg kkm
    [regs.rax, regs.rbx, regs.rdx, info.error, info.rip, info.cs, info.rflags,
      info.rsp, info.ss] kontext m

def x86TrapDb : BitVec 32 := 1#32
def x86TrapBp : BitVec 32 := 3#32

def kkmProcessDebug (kontext : KkmKontext) : Int × KkmKontext :=
  (0, { kontext with
    run := { kontext.run with
      exitReason := kkmExitDebug
      debugArch := { kontext.run.debugArch with
        exception := x86TrapDb
        pc := kontext.ga.trapInfo.rip
        dr6 := kontext.ga.debug.registers 6
        dr7 := kontext.ga.debug.registers 7 } } })

def kkmProcessBreakpoint (kontext : KkmKontext) : Int × KkmKontext :=
  let rip := kontext.ga.regs.rip - 1#64
  let kontext := kontext.setRegs { kontext.ga.regs with rip := rip }
  (0, { kontext with
    run := { kontext.run with
      exitReason := kkmExitDebug
      debugArch := { kontext.run.debugArch with
        exception := x86TrapBp, pc := rip } } })

/-- `KKM_OUT_OPCODE` -/
def kkmOutOpcode : BitVec 8 := 0xEF#8

def kkmProcessGeneralProtection (kontext : KkmKontext) (m : ByteMemory) :
    Int × KkmKontext :=
  match kkmGuestVaToMonitorVa cfg kkm kontext.ga.trapInfo.rip with
  | none => (-efault, kontext)
  | some (mva, _) =>
      -- the part of a failed copy is filled with zeros
      let kontext := { kontext with
        ga := { kontext.ga with instructionDecode := (m mva).getD 0 } }
      if m mva = none then (-efault, kontext)
      else if kontext.ga.instructionDecode ≠ kkmOutOpcode then (-efault, kontext)
      else
        let regs := kontext.ga.regs
        let kontext := kkmSetupHypercall kontext (regs.rdx.setWidth 16)
          (regs.rax.setWidth 32) faultHyperCall
        (0, kontext.setRegs { kontext.ga.regs with rip := regs.rip + 1#64 })

/-- `kkm_process_syscall` after the hypercall has been set up. -/
def pushHcArgs (gva : BitVec 64) (args : List (BitVec 64))
    (kontext : KkmKontext) (m : ByteMemory) :
    Int × KkmKontext × ByteMemory :=
  match kkmGuestVaToMonitorVa cfg kkm gva with
  | none => (-efault, kontext, m)
  | some (mva, _) =>
      match copyWordsToUser m mva args with
      | (false, m) => (-efault, kontext, m)
      | (true, m) =>
          match kkmGuestVaToMonitorVa cfg kkm kontext.ga.sregs.gs.base with
          | none => (-efault, kontext, m)
          | some (indirectMva, _) =>
              match copyWordsToUser m indirectMva [gva] with
              | (false, m) => (-efault, kontext, m)
              | (true, m) =>
                  let kontext := { kontext with
                    syscallPending := true, retValMva := mva }
                  (0, kontext.setRegs { kontext.ga.regs with rax := gva }, m)

def kkmProcessSyscall (kontext : KkmKontext) (m : ByteMemory) :
    Int × KkmKontext × ByteMemory :=
  let regs := kontext.ga.regs
  let gva := regs.rsp - kkmAbiRedzone - sizeofKkmHcArgs
  let kontext := kontext.setRegs { regs with rsp := gva }
  let kontext := kkmSetupHypercall kontext (regs.rax.setWidth 16)
    (gva.setWidth 32) faultSyscall
  pushHcArgs cfg kkm gva
    [0#64, regs.rdi, regs.rsi, regs.rdx, regs.r10, regs.r8, regs.r9] kontext m

/-! ## `kkm_process_intr` -/

def x86TrapPf : BitVec 64 := 14#64
def kkmIntrSyscall : BitVec 64 := 511#64

/-- The handlers `kkm_process_intr` chooses from. -/
inductive IntrHandler where
  | generalProtection
  | pageFault
  | commonWithoutError
  | commonWithError
  | debug
  | nmi
  | breakpoint
  | syscall
  | forward
deriving DecidableEq, Repr

/-- The choice of `kkm_process_intr`. -/
def intrHandler (intrNo : BitVec 64) : IntrHandler :=
  match intrNo.toNat with
  | 13 => .generalProtection
  | 14 => .pageFault
  | 0 => .commonWithoutError
  | 1 => .debug
  | 2 => .nmi
  | 3 => .breakpoint
  | 4 | 5 | 6 | 7 => .commonWithoutError
  | 8 => .commonWithError
  | 9 => .commonWithoutError
  | 10 | 11 | 12 => .commonWithError
  | 15 | 16 => .commonWithoutError
  | 17 => .commonWithError
  | 18 | 19 => .commonWithoutError
  | 511 => .syscall
  | 29 => .commonWithoutError
  | 30 => .commonWithError
  | _ => .forward

/-- A handler that works on user memory. -/
def onUser (s : RunMemory) (r : Int × KkmKontext × ByteMemory) :
    Int × KkmKontext × RunMemory :=
  (r.1, r.2.1, { s with user := r.2.2 })

def kkmProcessIntr (a : ExitAnswers) (kontext : KkmKontext) (s : RunMemory) :
    Int × KkmKontext × RunMemory :=
  let kontext := { kontext with
    run := { kontext.run with exitReason := kkmExitUnknown } }
  match intrHandler kontext.ga.intrNo with
  | .generalProtection =>
      let (ret, kontext) := kkmProcessGeneralProtection cfg kkm kontext s.user
      (ret, kontext, s)
  | .pageFault =>
      let (ret, kontext, tables) :=
        kkmProcessPageFault cfg a.nativePgd kkm a.read a.write kontext s.tables
      (ret, kontext, { s with tables := tables })
  | .commonWithoutError =>
      onUser s (kkmProcessCommonWithoutError cfg kkm kontext s.user)
  | .commonWithError =>
      onUser s (kkmProcessCommonWithError cfg kkm kontext s.user)
  | .debug =>
      let (ret, kontext) := kkmProcessDebug kontext
      (ret, kontext, s)
  | .nmi => (0, kontext, s)
  | .breakpoint =>
      let (ret, kontext) := kkmProcessBreakpoint kontext
      (ret, kontext, s)
  | .syscall => onUser s (kkmProcessSyscall cfg kkm kontext s.user)
  | .forward => (kkmKontextFaultProcessDone, kontext, s)

end Handlers

/-! ## After `kkm_process_intr` -/

def kkmMaxRepeatTrap : BitVec 64 := 16#64

/-- The same page fault again. -/
def isRepeatedTrap (kontext : KkmKontext) : Bool :=
  kontext.ga.intrNo == x86TrapPf && kontext.prevTrapNo == x86TrapPf &&
    kontext.prevTrapAddr == kontext.trapAddr &&
    kontext.prevErrorCode == kontext.errorCode

/-- What follows an exit that is processed in the kernel: back to `begin`
(result 0), or -EFAULT after too many repetitions. -/
def countTrap (kontext : KkmKontext) : Int × KkmKontext :=
  if isRepeatedTrap kontext then
    let kontext := { kontext with
      trapRepeatCounter := kontext.trapRepeatCounter + 1#64 }
    if kkmMaxRepeatTrap < kontext.trapRepeatCounter then (-efault, kontext)
    else (0, kontext)
  else
    (0, { kontext with
      prevTrapNo := kontext.ga.intrNo
      prevTrapAddr := kontext.trapAddr
      prevErrorCode := kontext.errorCode
      trapRepeatCounter := 0 })

/-! ## `KKM_RUN` as steps -/

/-- Where a call of `KKM_RUN` is. -/
inductive RunPhase where
  /-- no call is in progress -/
  | monitor
  /-- at the label `begin` -/
  | begin
  | payload
deriving DecidableEq, Repr

structure RunState where
  kontext : KkmKontext
  memory : RunMemory
  phase : RunPhase

/-- `kkm_run` returns to the monitor. -/
def RunState.return (s : RunState) (kontext : KkmKontext) : RunState :=
  { s with kontext := kkmGetRegs kontext, phase := .monitor }

/-- `KKM_RUN` is called. -/
def RunState.run (s : RunState) : RunState :=
  let (ret, kontext) :=
    kkmKontextSwitchKernelStart s.memory.user (kkmSetRegs s.kontext)
  if ret ≠ 0 then s.return kontext
  else { s with kontext := kontext, phase := .begin }

/-- The code at `begin`. -/
def RunState.begin (s : RunState) (signal : Bool) (e : EntryCpu) : RunState :=
  if signal then s.return (signalExit s.kontext)
  else { s with kontext := enterPayload e s.kontext, phase := .payload }

/-- The two steps are `kkmRunEntry`. -/
theorem RunState.run_begin
    (s : RunState) (signal : Bool) (e : EntryCpu) :
    kkmRunEntry s.memory.user signal e s.kontext =
      if s.run.phase = .monitor then
        .returned (kkmKontextSwitchKernelStart s.memory.user
          (kkmSetRegs s.kontext)).1 s.run.kontext
      else if signal then .returned (-eintr) (s.run.begin signal e).kontext
      else .entered (s.run.begin signal e).kontext := by
  simp only [kkmRunEntry, RunState.run, RunState.begin, RunState.return]
  split
  · simp
  · cases signal with
    | true => simp
    | false => simp

/-- The payload exits; `user` is the user memory it leaves behind. -/
def RunState.exit
    (cfg : KkmConfig) (kkm : Kkm) (e : PayloadExit) (a : ExitAnswers)
    (user : ByteMemory) (s : RunState) : RunState :=
  let (ret, kontext, memory) := kkmProcessIntr cfg kkm a
    (leavePayload e s.kontext) { s.memory with user := user }
  let s := { s with memory := memory }
  if ret = kkmKontextFaultProcessDone then
    let (ret, kontext) := countTrap kontext
    if ret ≠ 0 then s.return kontext
    else { s with kontext := kontext, phase := .begin }
  else s.return kontext

end Driver
end KkmModule
