import KkmModule.Driver.IdtDescr
import KkmModule.Driver.SwitchedRuns
import KkmModule.Foundation.X86Calls

/-!
# Interrupts that arrive while the payload runs (`kkm_intr.S`)

An exit by a vector that is not reported to the monitor is one of the host's
interrupts.  `kkm_process_intr` raises it again, on the host's stack, through
`kkm_forward_intr` and the table `intr_forward_pointers`.
-/

namespace KkmModule
namespace Driver

open Foundation X86

/-! ## The code -/

/-- `kkm_forward_intr`, up to `kkm_forward_intr_ret`; `ret` is the address of that
label. -/
def kkmForwardIntr (ret : BitVec 64) : List Op :=
  [.push .rbp, .push .rbx, .push .r12, .push .r13, .push .r14, .push .r15,
    .pushImm ret, .push .rdi].map .plain ++ [.ret]

/-- `kkm_forward_intr_ret` -/
def kkmForwardIntrRet : List Op :=
  [Instr.pop .r15, .pop .r14, .pop .r13, .pop .r12, .pop .rbx, .pop .rbp].map .plain ++
    [.ret]

/-- `kkm_forward_intr_0` to `kkm_forward_intr_255` -/
def kkmForwardIntrStub (vector : Nat) : List Op := [.int vector, .ret]

/-- The code at its addresses; `back` is the return address in
`kkm_process_intr`. -/
structure ForwardCode where
  code : Code
  entry : BitVec 64
  ret : BitVec 64
  stub : Nat → BitVec 64
  back : BitVec 64
  entry_at : code entry = some (kkmForwardIntr ret)
  ret_at : code ret = some kkmForwardIntrRet
  stub_at : ∀ vector, vector < nrVectors →
    code (stub vector) = some (kkmForwardIntrStub vector)
  back_at : code back = none

/-- The words `kkm_forward_intr` pushes, the last one on top. -/
def ForwardCode.pushed (c : ForwardCode) (s : State) : List (BitVec 64) :=
  [s.reg .rbp, s.reg .rbx, s.reg .r12, s.reg .r13, s.reg .r14, s.reg .r15, c.ret,
    s.reg .rdi]

/-- The registers `kkm_forward_intr_ret` pops. -/
def calleeSaved : List Reg := [.r15, .r14, .r13, .r12, .rbx, .rbp]

section Turn

variable {cfg : KkmConfig} {ga : GuestAreaAddr} {t : SwitchedTurn}
variable {kontext : KkmKontext} {memory : RunMemory}

end Turn

end Driver
end KkmModule
