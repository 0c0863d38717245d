import KkmModule.Driver.IoctlRecords
import KkmModule.Foundation.X86Machine

/-!
# The switch code (`kkm_guest_entry.S`, `kkm_guest_exit.S`)

The instructions of the two assembly files in their order, the offsets of
`kkm_offsets.h`, and what the C functions around them do to the guest area.
The guest area is 8 KiB, aligned to its size, and named by its address.
-/

namespace KkmModule
namespace Driver

open Foundation X86

/-! ## Offsets (`kkm_offsets.h`) -/

def offNkStack : Nat := 8 * 2
def offGpCr3 : Nat := 8 * 5
def offGpCs : Nat := 8 * 7
def offGpSs : Nat := 8 * 8

def regBaseOff : Nat := 128

/-- `OFF_RAX` to `OFF_R15` -/
def offReg : Reg → Nat
  | .rax => regBaseOff + 8 * 0
  | .rbx => regBaseOff + 8 * 1
  | .rcx => regBaseOff + 8 * 2
  | .rdx => regBaseOff + 8 * 3
  | .rsi => regBaseOff + 8 * 4
  | .rdi => regBaseOff + 8 * 5
  | .rsp => regBaseOff + 8 * 6
  | .rbp => regBaseOff + 8 * 7
  | .r8 => regBaseOff + 8 * 8
  | .r9 => regBaseOff + 8 * 9
  | .r10 => regBaseOff + 8 * 10
  | .r11 => regBaseOff + 8 * 11
  | .r12 => regBaseOff + 8 * 12
  | .r13 => regBaseOff + 8 * 13
  | .r14 => regBaseOff + 8 * 14
  | .r15 => regBaseOff + 8 * 15

def offRip : Nat := regBaseOff + 8 * 16
def offRflags : Nat := regBaseOff + 8 * 17

/-- `OFF_CR0` to `OFF_CR8` -/
def offCr : CReg → Nat
  | .cr0 => regBaseOff + 8 * 46
  | .cr2 => regBaseOff + 8 * 47
  | .cr3 => regBaseOff + 8 * 48
  | .cr4 => regBaseOff + 8 * 49
  | .cr8 => regBaseOff + 8 * 50

def offTiError : Nat := regBaseOff + 8 * 118
def offTiRip : Nat := regBaseOff + 8 * 119
def offTiCs : Nat := regBaseOff + 8 * 120
def offTiRflags : Nat := regBaseOff + 8 * 121
def offTiRsp : Nat := regBaseOff + 8 * 122
def offTiSs : Nat := regBaseOff + 8 * 123
def offTiIntrNo : Nat := regBaseOff + 8 * 124

/-- `OFF_PAY_ENT_STK`, the bottom of the stack for `IRETQ` -/
def offPayEntStk : Nat := 4096
/-- `OFF_GUEST_STK`, the bottom of the guest kernel stack -/
def offGuestStk : Nat := 7936

def offTsRsi : Nat := 8 * 0
def offTsRdi : Nat := 8 * 1
def offTsIntrNo : Nat := 8 * 2
def offTsError : Nat := 8 * 3
def offTsRip : Nat := 8 * 4
def offTsCs : Nat := 8 * 5
def offTsRflags : Nat := 8 * 6
def offTsRsp : Nat := 8 * 7
def offTsSs : Nat := 8 * 8

/-! ## The registers in the guest area -/

/-- The record of the general registers `f`, with `rip` and `rflags`. -/
def KkmRegs.ofFile (f : Reg → BitVec 64) (rip rflags : BitVec 64) : KkmRegs where
  rax := f .rax
  rbx := f .rbx
  rcx := f .rcx
  rdx := f .rdx
  rsi := f .rsi
  rdi := f .rdi
  rsp := f .rsp
  rbp := f .rbp
  r8 := f .r8
  r9 := f .r9
  r10 := f .r10
  r11 := f .r11
  r12 := f .r12
  r13 := f .r13
  r14 := f .r14
  r15 := f .r15
  rip := rip
  rflags := rflags

/-- `ga->regs` -/
def gaRegs (mem : BitVec 64 → BitVec 64) (ga : BitVec 64) : KkmRegs :=
  .ofFile (fun r => mem (addr ga (offReg r))) (mem (addr ga offRip))
    (mem (addr ga offRflags))

theorem KkmRegs.ofFile_inj
    {f f' : Reg → BitVec 64} {rip rip' rflags rflags' : BitVec 64} :
    KkmRegs.ofFile f rip rflags = KkmRegs.ofFile f' rip' rflags' ↔
      f = f' ∧ rip = rip' ∧ rflags = rflags' := by
  constructor
  · intro h
    simp only [ofFile, KkmRegs.mk.injEq] at h
    refine ⟨?_, h.2.2.2.2.2.2.2.2.2.2.2.2.2.2.2.2⟩
    funext r
    cases r <;> simp only [h]
  · rintro ⟨rfl, rfl, rfl⟩
    rfl

/-! ## Between the native stack and the guest stack -/

/-- `kkm_switch_to_gk_asm`, up to the call of `kkm_guest_kernel_start_payload`;
`restore` is the address the call pushes. -/
def kkmSwitchToGkAsm (restore : BitVec 64) : List Instr :=
  [.push .rbp, .push .rbx, .push .r12, .push .r13, .push .r14, .push .r15,
    .store .rdi offNkStack .rsp, .mov .rsp .rsi, .pushImm restore]

/-- `kkm_switch_to_hk_asm`: to the native address space, with a full flush
unless PCIDs are in use, and to the native stack. -/
def kkmSwitchToHkAsm : List Instr :=
  [.writeCr .cr3 .rdi, .and .rdi 0xFF#64, .cmp .rdi 0#64, .jne 5,
    .readCr .rax .cr4, .mov .rbx .rax, .xor .rax 0x80#64, .writeCr .cr4 .rax,
    .writeCr .cr4 .rbx, .mov .rsp .rsi]

def kkmRestoreLabel : List Instr :=
  [.pop .r15, .pop .r14, .pop .r13, .pop .r12, .pop .rbx, .pop .rbp, .ret]

/-! ## Entry (`kkm_switch_to_gp_asm`) -/

/-- The context is loaded; what is needed as scratch is pushed. -/
def loadContext : List Instr :=
  [.push .rbp, .push .rbx, .push .r12, .push .r13, .push .r14, .push .r15,
    .load .r15 .rdi (offReg .r15), .load .r14 .rdi (offReg .r14),
    .load .r13 .rdi (offReg .r13), .load .r12 .rdi (offReg .r12),
    .load .r11 .rdi (offReg .r11), .load .r10 .rdi (offReg .r10),
    .load .r9 .rdi (offReg .r9), .load .r8 .rdi (offReg .r8),
    .load .rbp .rdi (offReg .rbp),
    .load .rsi .rdi (offReg .rsp), .push .rsi,
    .load .rsi .rdi (offReg .rdi), .push .rsi,
    .load .rsi .rdi (offReg .rsi),
    .load .rdx .rdi (offReg .rdx), .load .rcx .rdi (offReg .rcx),
    .load .rbx .rdi (offReg .rbx), .load .rax .rdi (offReg .rax)]

/-- To the stack for `IRETQ`. -/
def toIretStack : List Instr :=
  [.mov .rbx .rsp, .mov .rax .rdi, .add .rax (BitVec.ofNat 64 offPayEntStk),
    .mov .rsp .rax]

/-- The frame for `IRETQ`, and below it the registers still in use. -/
def pushFrame : List Instr :=
  [.pushMem .rdi offGpSs, .pushMem .rdi (offReg .rsp), .pushMem .rdi offRflags,
    .pushMem .rdi offGpCs, .pushMem .rdi offRip,
    .pushMem .rdi (offReg .rdi), .pushMem .rdi (offReg .rax),
    .pushMem .rdi (offReg .rbx),
    .movImm .rax 0#64, .writeCr .cr2 .rax]

/-- To the payload's address space, with a full flush unless PCIDs are in
use. -/
def toPayloadCr3 : List Instr :=
  [.load .rax .rdi offGpCr3, .writeCr .cr3 .rax, .and .rax 0xFF#64,
    .cmp .rax 0#64, .jne 5,
    .readCr .rax .cr4, .mov .rbx .rax, .xor .rax 0x80#64, .writeCr .cr4 .rax,
    .writeCr .cr4 .rbx]

/-- `kkm_switch_to_gp_asm`, up to the `IRETQ` -/
def kkmSwitchToGpAsm : List Instr :=
  loadContext ++ toIretStack ++ pushFrame ++ toPayloadCr3 ++
    [.pop .rbx, .pop .rax, .pop .rdi, .swapgs]

/-- What the `IRETQ` starts: the registers, and the frame on the stack. -/
def iretRegs (s : State) : KkmRegs :=
  let frame := s.reg .rsp
  .ofFile (Function.update s.reg .rsp (s.mem (addr frame 24)))
    (s.mem (addr frame 0)) (s.mem (addr frame 16))

/-! ## Exit (`kkm_intr_entry_asm`) -/

/-- The vectors that have a `fault_with_error_code` stub. -/
def faultWithErrorCode (vector : Nat) : Bool :=
  vector ∈ [8, 10, 11, 12, 13, 14, 17, 30]

/-- `kkm_intr_entry_0` to `kkm_intr_entry_255`, with the stubs that
`kkm_idt_descr_init` puts in the place of some. -/
def intrStub (vector : Nat) : List Instr :=
  if faultWithErrorCode vector then
    [.clc, .pushImm (BitVec.ofNat 64 vector)]
  else [.clc, .pushImm (BitVec.ofInt 64 (-1)), .pushImm (BitVec.ofNat 64 vector)]

def toGuestKernelCr3 : List Instr :=
  [.push .rdi, .push .rsi, .mov .rsi .rsp,
    .readCr .rdi .cr3, .and .rdi 0xFFFFFFFFFFFFEFFF#64, .writeCr .cr3 .rdi,
    .and .rdi 0xFF#64, .cmp .rdi 0#64, .jne 6,
    .readCr .rdi .cr4, .push .rdi, .xor .rdi 0x80#64, .writeCr .cr4 .rdi,
    .pop .rdi, .writeCr .cr4 .rdi]

/-- The guest area is found from the stack. -/
def findGuestArea : List Instr :=
  [.mov .rdi .rsp, .and .rdi 0xFFFFFFFFFFFFE000#64]

def saveContext : List Instr :=
  [.store .rdi (offReg .r15) .r15, .store .rdi (offReg .r14) .r14,
    .store .rdi (offReg .r13) .r13, .store .rdi (offReg .r12) .r12,
    .store .rdi (offReg .r11) .r11, .store .rdi (offReg .r10) .r10,
    .store .rdi (offReg .r9) .r9, .store .rdi (offReg .r8) .r8,
    .store .rdi (offReg .rbp) .rbp,
    .load .rbp .rsi offTsRsp, .store .rdi (offReg .rsp) .rbp,
    .load .rbp .rsi offTsRdi, .store .rdi (offReg .rdi) .rbp,
    .load .rbp .rsi offTsRsi, .store .rdi (offReg .rsi) .rbp,
    .store .rdi (offReg .rdx) .rdx, .store .rdi (offReg .rcx) .rcx,
    .store .rdi (offReg .rbx) .rbx, .store .rdi (offReg .rax) .rax,
    .readCr .rax .cr0, .store .rdi (offCr .cr0) .rax,
    .readCr .rax .cr2, .store .rdi (offCr .cr2) .rax,
    .readCr .rax .cr3, .store .rdi (offCr .cr3) .rax,
    .readCr .rax .cr4, .store .rdi (offCr .cr4) .rax,
    .readCr .rax .cr8, .store .rdi (offCr .cr8) .rax,
    .load .rbp .rsi offTsError, .store .rdi offTiError .rbp,
    .load .rbp .rsi offTsRip, .store .rdi offTiRip .rbp,
    .load .rbp .rsi offTsCs, .store .rdi offTiCs .rbp,
    .load .rbp .rsi offTsRflags, .store .rdi offTiRflags .rbp,
    .load .rbp .rsi offTsRsp, .store .rdi offTiRsp .rbp,
    .load .rbp .rsi offTsSs, .store .rdi offTiSs .rbp,
    .load .rbp .rsi offTsIntrNo, .store .rdi offTiIntrNo .rbp]

/-- The jump to `kkm_switch_to_host_kernel` through the global area. -/
def toHostKernel : List Instr :=
  [.movImm .rbx 0xFFFFFE8000003000#64, .load .rax .rbx 0, .push .rax, .ret]

/-- `kkm_intr_entry_asm_common` -/
def kkmIntrEntryAsmCommon : List Instr :=
  toGuestKernelCr3 ++ findGuestArea ++ saveContext ++ toHostKernel

/-- `kkm_intr_entry_asm` -/
def kkmIntrEntryAsm : List Instr :=
  [.testByte .rsp 0x18 0x3#8, .je 1, .swapgs] ++ kkmIntrEntryAsmCommon

/-- The registers `kkm_switch_to_host_kernel` adjusts from the trap
information. -/
def adjustRegs (s : State) : State :=
  let ga := s.reg .rdi
  let s := s.write (addr ga offRip) (s.mem (addr ga offTiRip))
  s.write (addr ga offRflags) (s.mem (addr ga offTiRflags))

/-- From the delivery of an exception or interrupt to the adjustment. -/
def intrExit (vector : Nat) (s : State) : State :=
  adjustRegs (run (intrStub vector ++ kkmIntrEntryAsm) s)

end Driver
end KkmModule
