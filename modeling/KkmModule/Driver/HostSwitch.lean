import KkmModule.Driver.ContextSwitch
import KkmModule.Driver.KontextRun

/-!
# The host's state across a run of the payload

A call of `kkm_switch_to_gk_asm` from `kkm_kontext_switch_kernel`, up to its
return: the switch code, the two C functions between its parts, and the payload
with its exit by an exception, an interrupt or `SYSCALL`.

A C function is given by what its statements do.  What compiled code leaves in
registers, in the arithmetic flags and on the guest stack is arbitrary, and so
is all that the payload may change.
-/

namespace KkmModule
namespace Driver

open Foundation X86

/-! ## The task state -/

inductive TssField where
  | sp0 | sp1 | sp2
deriving DecidableEq

def tssField (sys : SysState) : TssField → BitVec 64
  | .sp0 => sys.sp0
  | .sp1 => sys.sp1
  | .sp2 => sys.sp2

def setTssField (sys : SysState) (v : BitVec 64) : TssField → SysState
  | .sp0 => { sys with sp0 := v }
  | .sp1 => { sys with sp1 := v }
  | .sp2 => { sys with sp2 := v }

/-- The per-CPU area of the processor: the GS base of the native kernel, and
where `cpu_tss_rw` is in the area. -/
structure PerCpu where
  gsBase : BitVec 64
  cpuTssRw : TssField → BitVec 64

/-- A per-CPU variable is reached through GS, whatever its base is. -/
def readTss (cpu : PerCpu) (f : TssField) (s : State) : BitVec 64 :=
  if s.sys.gsBase = cpu.gsBase then tssField s.sys f
  else s.mem (s.sys.gsBase + cpu.cpuTssRw f)

def writeTss (cpu : PerCpu) (f : TssField) (v : BitVec 64) (s : State) : State :=
  if s.sys.gsBase = cpu.gsBase then { s with sys := setTssField s.sys v f }
  else s.write (s.sys.gsBase + cpu.cpuTssRw f) v

/-! ## C functions -/

/-- What compiled code leaves behind: registers, arithmetic flags, words of the
guest stack, and how far it has moved the stack pointer down. -/
structure Compiled where
  reg : Reg → BitVec 64
  flags : BitVec 64
  stack : Nat → BitVec 64
  depth : Nat
  /-- `GUEST_STACK_SIZE` is not exceeded. -/
  depth_le : depth ≤ 3576

/-- `OFF_GUEST_STK` less `GUEST_STACK_SIZE` -/
def guestStkTop : Nat := 4352

def Compiled.leave (c : Compiled) (ga : BitVec 64) (s : State) : State :=
  { s with
    reg := Function.update c.reg .rsp (s.reg .rsp - BitVec.ofNat 64 c.depth)
    rflags := setArith s.rflags c.flags
    mem := fun a =>
      let off := (a - ga).toNat
      if guestStkTop ≤ off ∧ off < offGuestStk then c.stack off else s.mem a }

/-- `native_save_tss_sp0` to `native_save_tss_sp2` in the guest area. -/
def offNativeSaveTss : TssField → Nat
  | .sp0 => 8 * 13
  | .sp1 => 8 * 14
  | .sp2 => 8 * 15

/-- The values of the guest that `kkm_guest_kernel_start_payload` loads:
`ga->sregs.fs.base`, `ga->sregs.gs.base`, the address of
`kkm_syscall_entry_asm`, `ga->guest_idt_desc`, and the flags for the payload. -/
structure GuestValues where
  fsBase : BitVec 64
  gsBase : BitVec 64
  syscallEntryAddr : BitVec 64
  guestIdt : BitVec 64
  rflags : BitVec 64

/-- `kkm_guest_kernel_start_payload`, up to the call of
`kkm_switch_to_gp_asm`. -/
def startPayload (cpu : PerCpu) (g : GuestValues) (c : Compiled) (s : State) : State :=
  let ga := s.reg .rdi
  let s := c.leave ga s
  let s := { s with sys := { s.sys with
    ds := 0, es := 0, fs := 0, fsBase := g.fsBase, kernelGsBase := g.gsBase,
    lstar := g.syscallEntryAddr } }
  -- the task state is read through the CPU entry area
  let s := s.writeWords ga
    [(offGpCs, userCs), (offGpSs, userDs), (offRflags, g.rflags),
      (offNativeSaveTss .sp0, s.sys.sp0), (offNativeSaveTss .sp1, s.sys.sp1),
      (offNativeSaveTss .sp2, s.sys.sp2)]
  let s := writeTss cpu .sp0 (addr ga offGuestStk) s
  let s := { s with sys := { s.sys with idt := g.guestIdt } }
  s.set .rdi ga

/-- `native_kernel_cr3` to `native_kernel_entry_syscall_64` of the kontext, and
`ga->native_idt_desc`. -/
structure NativeKernel where
  cr3 : BitVec 64
  ds : BitVec 16
  es : BitVec 16
  fs : BitVec 16
  fsBase : BitVec 64
  gs : BitVec 16
  gsBase : BitVec 64
  gsKernBase : BitVec 64
  entrySyscall64 : BitVec 64
  idt : BitVec 64

/-- `kkm_kontext_switch_kernel` saves the state of the native kernel; the
interrupt table is the one that was found when the module was loaded. -/
def saveNativeKernel (nativeIdt : BitVec 64) (h : State) : NativeKernel where
  cr3 := h.creg .cr3
  ds := h.sys.ds
  es := h.sys.es
  fs := h.sys.fs
  fsBase := h.sys.fsBase
  gs := h.sys.gs
  gsBase := h.sys.gsBase
  gsKernBase := h.sys.kernelGsBase
  entrySyscall64 := h.sys.lstar
  idt := nativeIdt

/-- `__KERNEL_DS` -/
def kernelDs : BitVec 16 := 0x18#16

/-- The native task state is restored, field after field. -/
def restoreTss (cpu : PerCpu) (ga : BitVec 64) (s : State) : State :=
  [TssField.sp0, .sp1, .sp2].foldl
    (fun s f => writeTss cpu f (s.mem (addr ga (offNativeSaveTss f))) s) s

/-- `kkm_switch_to_host_kernel`, up to the call of `kkm_switch_to_hk_asm`. -/
def kkmSwitchToHostKernel
    (cpu : PerCpu) (n : NativeKernel) (c : Compiled) (s : State) : State :=
  let ga := s.reg .rdi
  let s := restoreTss cpu ga (c.leave ga (adjustRegs s))
  let s := { s with sys := { s.sys with
    idt := n.idt, lstar := n.entrySyscall64, ds := n.ds, es := n.es, fs := n.fs,
    fsBase := n.fsBase, gs := n.gs, gsBase := n.gsBase,
    kernelGsBase := n.gsKernBase, ss := kernelDs } }
  (s.set .rdi n.cr3).set .rsi (s.mem (addr ga offNkStack))

/-! ## The payload -/

def isUser (a : BitVec 64) : Bool := a.toNat < 2 ^ 47

/-- What the payload has made of the processor and of its memory when it
exits. -/
structure Payload where
  reg : Reg → BitVec 64
  rflags : BitVec 64
  cr2 : BitVec 64
  ds : BitVec 16
  es : BitVec 16
  fs : BitVec 16
  gs : BitVec 16
  fsBase : BitVec 64
  gsBase : BitVec 64
  mem : BitVec 64 → BitVec 64

def Payload.leave (p : Payload) (s : State) : State where
  reg := p.reg
  creg := Function.update s.creg .cr2 p.cr2
  rflags := p.rflags
  sys := { s.sys with
    ds := p.ds, es := p.es, fs := p.fs, gs := p.gs, fsBase := p.fsBase,
    gsBase := p.gsBase }
  mem := fun a => if isUser a then p.mem a else s.mem a

/-- A code segment of user privilege. -/
structure UserSegment where
  selector : BitVec 64
  user : userFrame selector = true

/-- How the payload exits; `next` is the address after the `SYSCALL`. -/
inductive ExitCause where
  | trap (vector : Nat) (rip : BitVec 64) (cs : UserSegment) (ss error : BitVec 64)
  | syscall (next : BitVec 64)

/-- DF -/
def flagDf : Nat := 10
/-- AC -/
def flagAc : Nat := 18

/-- `MSR_SYSCALL_MASK`, which the native kernel has set so that `SYSCALL` clears
DF and AC among others. -/
structure SyscallMask where
  mask : BitVec 64
  df : mask.getLsbD flagDf = true
  ac : mask.getLsbD flagAc = true

/-- What `SYSCALL` does. -/
def SyscallMask.enter (m : SyscallMask) (next : BitVec 64) (s : State) : State :=
  { (s.set .rcx next).set .r11 s.rflags with rflags := s.rflags &&& ~~~m.mask }

/-- `kkm_syscall_entry_asm`, up to the jump. -/
def kkmSyscallEntryAsm (cpu : PerCpu) (s : State) : State :=
  let s := exec .swapgs s
  let s := writeTss cpu .sp2 (s.reg .rsp) s
  let s := s.set .rsp (readTss cpu .sp0 s)
  let s := exec (.pushImm userDs) s
  let s := s.pushWord (readTss cpu .sp2 s)
  execs [.push .r11, .pushImm userCs, .push .rcx, .pushImm minusOne,
    .pushImm kkmIntrSyscall] s

/-- From the exit to the jump to `kkm_switch_to_host_kernel`. -/
def ExitCause.run (cpu : PerCpu) (m : SyscallMask) (s : State) : ExitCause → State
  | .trap vector rip cs ss error =>
      X86.run (intrStub vector ++ kkmIntrEntryAsm)
        (s.deliver true rip cs.selector ss
          (if pushesErrorCode vector then some error else none))
  | .syscall next =>
      X86.run kkmIntrEntryAsmCommon (kkmSyscallEntryAsm cpu (m.enter next s))

/-! ## The whole way -/

/-- Everything that is arbitrary on the way. -/
structure Trip where
  cpu : PerCpu
  nativeIdt : BitVec 64
  guest : GuestValues
  /-- the return address in `kkm_kontext_switch_kernel` -/
  back : BitVec 64
  /-- the address of `kkm_restore_label` -/
  restore : BitVec 64
  entryCode : Compiled
  exitCode : Compiled
  payload : Payload
  cause : ExitCause
  syscallMask : SyscallMask

/-- At the `IRETQ`. -/
def Trip.enter (t : Trip) (h : State) : State :=
  run kkmSwitchToGpAsm (startPayload t.cpu t.guest t.entryCode
    (run (kkmSwitchToGkAsm t.restore) (h.pushWord t.back)))

/-- At the jump to `kkm_switch_to_host_kernel`. -/
def Trip.exit (t : Trip) (h : State) : State :=
  t.cause.run t.cpu t.syscallMask (t.payload.leave (t.enter h))

/-- After the return of `kkm_switch_to_gk_asm`, called in the state `h`. -/
def Trip.run (t : Trip) (h : State) : State :=
  X86.run (kkmSwitchToHkAsm ++ kkmRestoreLabel)
    (kkmSwitchToHostKernel t.cpu (saveNativeKernel t.nativeIdt h) t.exitCode
      (t.exit h))

end Driver
end KkmModule
