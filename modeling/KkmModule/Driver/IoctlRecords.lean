import Mathlib.Data.Fin.Basic

/-!
# Records exchanged with the monitor

The records of `kkm_ioctl.h` and `kkm_run.h` that the modelled handlers read or
write.  Machine integers keep their width.
-/

namespace KkmModule
namespace Driver

/-! ## Error numbers (returned negated) -/

def eintr : Int := 4
def enomem : Int := 12
def efault : Int := 14
def einval : Int := 22
def eopnotsupp : Int := 95

/-- Maximum number of execution kontexts of one kontainer. -/
abbrev kkmMaxContexts : Nat := 288

/-- Number of memory slots of one kontainer. -/
abbrev kkmMaxMemorySlots : Nat := 64

/-- `struct kkm_memory_region`, the argument of `KKM_MEMORY`. -/
structure KkmMemoryRegion where
  slot : BitVec 32
  flags : BitVec 32
  guestPhysAddr : BitVec 64
  memorySize : BitVec 64
  userspaceAddr : BitVec 64
deriving DecidableEq, Repr

def KkmMemoryRegion.zeroed : KkmMemoryRegion := ⟨0, 0, 0, 0, 0⟩

/-- `struct kkm_regs`. -/
structure KkmRegs where
  rax : BitVec 64
  rbx : BitVec 64
  rcx : BitVec 64
  rdx : BitVec 64
  rsi : BitVec 64
  rdi : BitVec 64
  rsp : BitVec 64
  rbp : BitVec 64
  r8 : BitVec 64
  r9 : BitVec 64
  r10 : BitVec 64
  r11 : BitVec 64
  r12 : BitVec 64
  r13 : BitVec 64
  r14 : BitVec 64
  r15 : BitVec 64
  rip : BitVec 64
  rflags : BitVec 64
deriving DecidableEq, Repr

def KkmRegs.zeroed : KkmRegs :=
  ⟨0, 0, 0, 0, 0, 0, 0, 0, 0, 0, 0, 0, 0, 0, 0, 0, 0, 0⟩

/-- `struct kkm_segment`. -/
structure KkmSegment where
  base : BitVec 64
  limit : BitVec 32
  selector : BitVec 16
  type : BitVec 8
  present : BitVec 8
  dpl : BitVec 8
  db : BitVec 8
  s : BitVec 8
  l : BitVec 8
  g : BitVec 8
  avl : BitVec 8
  unusable : BitVec 8
  reserved : BitVec 8
deriving DecidableEq, Repr

def KkmSegment.zeroed : KkmSegment :=
  ⟨0, 0, 0, 0, 0, 0, 0, 0, 0, 0, 0, 0, 0⟩

/-- `struct kkm_dtable`. -/
structure KkmDtable where
  base : BitVec 64
  limit : BitVec 16
  reserved : Fin 3 → BitVec 16

def KkmDtable.zeroed : KkmDtable := ⟨0, 0, fun _ => 0⟩

/-- `struct kkm_sregs`. -/
structure KkmSregs where
  cs : KkmSegment
  ds : KkmSegment
  es : KkmSegment
  fs : KkmSegment
  gs : KkmSegment
  ss : KkmSegment
  tr : KkmSegment
  ldt : KkmSegment
  gdt : KkmDtable
  idt : KkmDtable
  cr0 : BitVec 64
  cr2 : BitVec 64
  cr3 : BitVec 64
  cr4 : BitVec 64
  cr8 : BitVec 64
  efer : BitVec 64
  apicBase : BitVec 64
  intrBitmap : Fin 4 → BitVec 64

def KkmSregs.zeroed : KkmSregs where
  cs := .zeroed
  ds := .zeroed
  es := .zeroed
  fs := .zeroed
  gs := .zeroed
  ss := .zeroed
  tr := .zeroed
  ldt := .zeroed
  gdt := .zeroed
  idt := .zeroed
  cr0 := 0
  cr2 := 0
  cr3 := 0
  cr4 := 0
  cr8 := 0
  efer := 0
  apicBase := 0
  intrBitmap := fun _ => 0

/-- `struct kkm_fpu`. -/
structure KkmFpu where
  fpr : Fin 128 → BitVec 8
  fcw : BitVec 16
  fsw : BitVec 16
  ftwx : BitVec 8
  pad1 : BitVec 8
  lastOpcode : BitVec 16
  lastIp : BitVec 64
  lastDp : BitVec 64
  xmm : Fin 256 → BitVec 8
  mxcsr : BitVec 32
  pad2 : BitVec 32

def KkmFpu.zeroed : KkmFpu :=
  ⟨fun _ => 0, 0, 0, 0, 0, 0, 0, 0, fun _ => 0, 0, 0⟩

def kkmGuestdbgEnable : BitVec 32 := 0x1#32
def kkmGuestdbgSinglestep : BitVec 32 := 0x2#32

/-- `struct kkm_debug`. -/
structure KkmDebug where
  control : BitVec 32
  reserved : BitVec 32
  registers : Fin 8 → BitVec 64

def KkmDebug.zeroed : KkmDebug := ⟨0, 0, fun _ => 0⟩

/-! ## `enum fault_reason`, a 32-bit value the monitor can write as well -/

def faultUnknown : BitVec 32 := 0
def faultHyperCall : BitVec 32 := 1
def faultSyscall : BitVec 32 := 2

/-- `struct kkm_private_area`, shared with the monitor in the second mmap page. -/
structure KkmPrivateArea where
  data : BitVec 32
  reason : BitVec 32
deriving DecidableEq, Repr

def KkmPrivateArea.zeroed : KkmPrivateArea := ⟨0, 0⟩

/-! ## `enum kkm_exit_status`, the values the module reports -/

def kkmExitUnknown : BitVec 32 := 0
def kkmExitIo : BitVec 32 := 2
def kkmExitDebug : BitVec 32 := 4
def kkmExitIntr : BitVec 32 := 10

/-- The `io` member of `struct kkm_run`. -/
structure KkmRunIo where
  direction : BitVec 8
  size : BitVec 8
  port : BitVec 16
  count : BitVec 32
  dataOffset : BitVec 64
deriving DecidableEq, Repr

/-- `struct kkm_debug_exit_arch`. -/
structure KkmDebugExitArch where
  exception : BitVec 32
  reserved : BitVec 32
  pc : BitVec 64
  dr6 : BitVec 64
  dr7 : BitVec 64
deriving DecidableEq, Repr

/-- `struct kkm_run`, shared with the monitor in the first mmap page. -/
structure KkmRun where
  immediateExit : BitVec 8
  exitReason : BitVec 32
  io : KkmRunIo
  debugArch : KkmDebugExitArch
  kkmValidRegs : BitVec 64
  kkmDirtyRegs : BitVec 64
  regs : KkmRegs
  sregs : KkmSregs

def KkmRun.zeroed : KkmRun where
  immediateExit := 0
  exitReason := kkmExitUnknown
  io := ⟨0, 0, 0, 0, 0⟩
  debugArch := ⟨0, 0, 0, 0, 0⟩
  kkmValidRegs := 0
  kkmDirtyRegs := 0
  regs := .zeroed
  sregs := .zeroed

/-- Bit 0 of the dirty and valid register sets. -/
def kkmSyncX86Regs : BitVec 64 := 1#64

/-- Bit 1 of the dirty and valid register sets. -/
def kkmSyncX86Sregs : BitVec 64 := 2#64

/-- `kkm_xstate_format_t`. -/
inductive KkmXstateFormat where
  | none
  | xsave
  | xsaves
deriving DecidableEq, Repr

/-- The value of the format in a `struct kkm_xstate`. -/
def KkmXstateFormat.code : KkmXstateFormat → Nat
  | .none => 0
  | .xsave => 1
  | .xsaves => 2

end Driver
end KkmModule
