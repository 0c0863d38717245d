import Mathlib.Algebra.Ring.Nat
import Mathlib.Logic.Function.Basic

/-!
# A processor running straight-line kernel code

The registers, flags and system registers that context-switch code touches, a
memory of aligned 64-bit words, and the instructions such code is made of.

Jumps go forward only.  `jne n` and `je n` skip the next `n` instructions, so a
run is a fold over the list of instructions, with the number of instructions
still to be skipped next to the state.  Every prefix of the list is a point at
which the code can be interrupted.
-/

namespace KkmModule
namespace Foundation
namespace X86

inductive Reg where
  | rax | rbx | rcx | rdx | rsi | rdi | rsp | rbp
  | r8 | r9 | r10 | r11 | r12 | r13 | r14 | r15
deriving DecidableEq, Repr

inductive CReg where
  | cr0 | cr2 | cr3 | cr4 | cr8
deriving DecidableEq, Repr

/-- Segment selectors, model-specific registers, the interrupt table and the
stacks of the task state. -/
structure SysState where
  ds : BitVec 16
  es : BitVec 16
  fs : BitVec 16
  gs : BitVec 16
  ss : BitVec 16
  fsBase : BitVec 64
  gsBase : BitVec 64
  kernelGsBase : BitVec 64
  lstar : BitVec 64
  idt : BitVec 64
  sp0 : BitVec 64
  sp1 : BitVec 64
  sp2 : BitVec 64
deriving DecidableEq, Repr

/-- The two bases of GS change places. -/
def SysState.swapGs (sys : SysState) : SysState :=
  { sys with gsBase := sys.kernelGsBase, kernelGsBase := sys.gsBase }

structure State where
  reg : Reg → BitVec 64
  creg : CReg → BitVec 64
  rflags : BitVec 64
  sys : SysState
  mem : BitVec 64 → BitVec 64

/-- The word `off` bytes above an address. -/
def addr (base : BitVec 64) (off : Nat) : BitVec 64 := base + BitVec.ofNat 64 off

/-! ## Flags -/

/-- CF, PF, AF, ZF, SF and OF. -/
def arithMask : BitVec 64 := 0x8D5#64

def setArith (rflags f : BitVec 64) : BitVec 64 :=
  (rflags &&& ~~~arithMask) ||| (f &&& arithMask)

/-- The parity flag: the low byte has an even number of ones. -/
def evenParity (r : BitVec 64) : Bool :=
  ((List.range 8).countP fun i => r.getLsbD i) % 2 == 0

/-- ZF, SF and PF of a result. -/
def resultFlags (r : BitVec 64) : BitVec 64 :=
  (if r = 0#64 then 0x40#64 else 0#64) |||
    (if r.msb then 0x80#64 else 0#64) |||
    (if evenParity r then 0x4#64 else 0#64)

/-- CF, OF and AF of an addition or subtraction. -/
def carryFlags (cf of : Bool) (a b r : BitVec 64) : BitVec 64 :=
  (if cf then 0x1#64 else 0#64) |||
    (if of then 0x800#64 else 0#64) |||
    ((a ^^^ b ^^^ r) &&& 0x10#64)

/-- The zero flag. -/
def State.zf (s : State) : Bool := s.rflags.getLsbD 6

/-- The interrupt flag. -/
def interruptsOn (rflags : BitVec 64) : Bool := rflags.getLsbD 9

/-! ## Instructions -/

inductive Instr where
  | mov (dst src : Reg)
  | movImm (dst : Reg) (imm : BitVec 64)
  | load (dst base : Reg) (off : Nat)
  | store (base : Reg) (off : Nat) (src : Reg)
  | push (src : Reg)
  | pushMem (base : Reg) (off : Nat)
  | pushImm (imm : BitVec 64)
  | pop (dst : Reg)
  | add (dst : Reg) (imm : BitVec 64)
  | and (dst : Reg) (imm : BitVec 64)
  | xor (dst : Reg) (imm : BitVec 64)
  | cmp (dst : Reg) (imm : BitVec 64)
  /-- `testb` of the low byte of a word -/
  | testByte (base : Reg) (off : Nat) (imm : BitVec 8)
  | readCr (dst : Reg) (src : CReg)
  | writeCr (dst : CReg) (src : Reg)
  | jne (skip : Nat)
  | je (skip : Nat)
  | clc
  | swapgs
  /-- pops the address at which the code goes on -/
  | ret
deriving DecidableEq, Repr

def State.set (s : State) (r : Reg) (v : BitVec 64) : State :=
  { s with reg := Function.update s.reg r v }

def State.write (s : State) (a v : BitVec 64) : State :=
  { s with mem := Function.update s.mem a v }

def State.pushWord (s : State) (v : BitVec 64) : State :=
  (s.write (s.reg .rsp - 8#64) v).set .rsp (s.reg .rsp - 8#64)

def State.withArith (s : State) (f : BitVec 64) : State :=
  { s with rflags := setArith s.rflags f }

/-- One instruction that is not a jump. -/
def exec (i : Instr) (s : State) : State :=
  match i with
  | .mov dst src => s.set dst (s.reg src)
  | .movImm dst imm => s.set dst imm
  | .load dst base off => s.set dst (s.mem (addr (s.reg base) off))
  | .store base off src => s.write (addr (s.reg base) off) (s.reg src)
  | .push src => s.pushWord (s.reg src)
  | .pushMem base off => s.pushWord (s.mem (addr (s.reg base) off))
  | .pushImm imm => s.pushWord imm
  | .pop dst =>
      (s.set .rsp (s.reg .rsp + 8#64)).set dst (s.mem (s.reg .rsp))
  | .add dst imm =>
      let a := s.reg dst
      let r := a + imm
      (s.set dst r).withArith (resultFlags r |||
        carryFlags (a.uaddOverflow imm) (a.saddOverflow imm) a imm r)
  | .and dst imm =>
      let r := s.reg dst &&& imm
      (s.set dst r).withArith (resultFlags r)
  | .xor dst imm =>
      let r := s.reg dst ^^^ imm
      (s.set dst r).withArith (resultFlags r)
  | .cmp dst imm =>
      let a := s.reg dst
      let r := a - imm
      s.withArith (resultFlags r |||
        carryFlags (a.usubOverflow imm) (a.ssubOverflow imm) a imm r)
  | .testByte base off imm =>
      s.withArith (resultFlags
        (((s.mem (addr (s.reg base) off)).setWidth 8 &&& imm).signExtend 64))
  | .readCr dst src => s.set dst (s.creg src)
  | .writeCr dst src => { s with creg := Function.update s.creg dst (s.reg src) }
  | .jne _ => s
  | .je _ => s
  | .clc => { s with rflags := s.rflags &&& ~~~0x1#64 }
  | .swapgs => { s with sys := s.sys.swapGs }
  | .ret => s.set .rsp (s.reg .rsp + 8#64)

/-- One instruction, with the number of instructions still to be skipped. -/
def step : Nat × State → Instr → Nat × State
  | (k + 1, s), _ => (k, s)
  | (0, s), .jne n => (if s.zf then 0 else n, s)
  | (0, s), .je n => (if s.zf then n else 0, s)
  | (0, s), i => (0, exec i s)

/-- A run of a list of instructions. -/
def run (is : List Instr) (s : State) : State := (is.foldl step (0, s)).2

/-- The instruction is no jump. -/
def Instr.isPlain : Instr → Bool
  | .jne _ => false
  | .je _ => false
  | _ => true

/-- Instructions one after the other. -/
def execs (is : List Instr) (s : State) : State :=
  is.foldl (fun s i => exec i s) s

/-! ## Interrupts and exceptions -/

/-- TF, IF, NT and RF, which an interrupt gate clears. -/
def gateMask : BitVec 64 := 0x14300#64

/-- The vectors whose frame ends with an error code. -/
def pushesErrorCode (vector : Nat) : Bool :=
  vector ∈ [8, 10, 11, 12, 13, 14, 17, 21, 29, 30]

/-- Delivery through an interrupt gate without a stack of its own: the frame goes
to the stack of the task state if the code interrupted was user code, else to
the current stack. -/
def State.deliver
    (s : State) (fromUser : Bool) (rip cs ss : BitVec 64)
    (error : Option (BitVec 64)) : State :=
  let top := (if fromUser then s.sys.sp0 else s.reg .rsp) &&& ~~~0xF#64
  let frame := [ss, s.reg .rsp, s.rflags, cs, rip] ++ error.toList
  { frame.foldl State.pushWord (s.set .rsp top) with
    rflags := s.rflags &&& ~~~gateMask }

/-! ## Lemmas -/

@[simp] theorem swapGs_sp0 (sys : SysState) : sys.swapGs.sp0 = sys.sp0 := rfl
@[simp] theorem swapGs_gsBase (sys : SysState) :
    sys.swapGs.gsBase = sys.kernelGsBase := rfl
@[simp] theorem swapGs_kernelGsBase (sys : SysState) :
    sys.swapGs.kernelGsBase = sys.gsBase := rfl

@[simp] theorem set_reg (s : State) (r : Reg) (v : BitVec 64) :
    (s.set r v).reg = Function.update s.reg r v := rfl
@[simp] theorem set_mem (s : State) (r : Reg) (v : BitVec 64) :
    (s.set r v).mem = s.mem := rfl
@[simp] theorem set_creg (s : State) (r : Reg) (v : BitVec 64) :
    (s.set r v).creg = s.creg := rfl
@[simp] theorem set_rflags (s : State) (r : Reg) (v : BitVec 64) :
    (s.set r v).rflags = s.rflags := rfl
@[simp] theorem set_sys (s : State) (r : Reg) (v : BitVec 64) :
    (s.set r v).sys = s.sys := rfl

@[simp] theorem pushWord_reg (s : State) (v : BitVec 64) :
    (s.pushWord v).reg = Function.update s.reg .rsp (s.reg .rsp - 8#64) := rfl
@[simp] theorem pushWord_mem (s : State) (v : BitVec 64) :
    (s.pushWord v).mem = Function.update s.mem (s.reg .rsp - 8#64) v := rfl
@[simp] theorem pushWord_creg (s : State) (v : BitVec 64) :
    (s.pushWord v).creg = s.creg := rfl
@[simp] theorem pushWord_rflags (s : State) (v : BitVec 64) :
    (s.pushWord v).rflags = s.rflags := rfl
@[simp] theorem pushWord_sys (s : State) (v : BitVec 64) :
    (s.pushWord v).sys = s.sys := rfl

@[simp] theorem write_reg (s : State) (a v : BitVec 64) :
    (s.write a v).reg = s.reg := rfl
@[simp] theorem write_mem (s : State) (a v : BitVec 64) :
    (s.write a v).mem = Function.update s.mem a v := rfl

@[simp] theorem withArith_reg (s : State) (f : BitVec 64) :
    (s.withArith f).reg = s.reg := rfl
@[simp] theorem withArith_mem (s : State) (f : BitVec 64) :
    (s.withArith f).mem = s.mem := rfl
@[simp] theorem withArith_sys (s : State) (f : BitVec 64) :
    (s.withArith f).sys = s.sys := rfl
@[simp] theorem withArith_creg (s : State) (f : BitVec 64) :
    (s.withArith f).creg = s.creg := rfl

/-- A jump over a block: the block runs, or nothing does. -/
theorem foldl_step_skip (is : List Instr) (s : State) :
    is.foldl step (is.length, s) = (0, s) := by
  induction is with
  | nil => rfl
  | cons i is ih => exact ih

theorem foldl_step_plain
    {is : List Instr} (h : ∀ i ∈ is, i.isPlain = true) (s : State) :
    is.foldl step (0, s) = (0, execs is s) := by
  induction is generalizing s with
  | nil => rfl
  | cons i is ih =>
      have hstep : step (0, s) i = (0, exec i s) := by
        cases i with
        | jne | je => cases h _ List.mem_cons_self
        | _ => rfl
      rw [List.foldl_cons, hstep]
      exact ih (fun j hj => h j (List.mem_cons_of_mem _ hj)) (exec i s)

theorem foldl_step_jne
    (is : List Instr) (h : ∀ i ∈ is, i.isPlain = true) (s : State) :
    (.jne is.length :: is).foldl step (0, s) =
      (0, if s.zf then execs is s else s) := by
  cases hz : s.zf with
  | false => simpa [step, hz] using foldl_step_skip is s
  | true => simpa [step, hz] using foldl_step_plain h s

theorem foldl_step_je
    (is : List Instr) (h : ∀ i ∈ is, i.isPlain = true) (s : State) :
    (.je is.length :: is).foldl step (0, s) =
      (0, if s.zf then s else execs is s) := by
  cases hz : s.zf with
  | false => simpa [step, hz] using foldl_step_plain h s
  | true => simpa [step, hz] using foldl_step_skip is s

/-- Words at different offsets have different addresses. -/
theorem addr_inj
    {a : BitVec 64} {i j : Nat} (hi : i < 2 ^ 64) (hj : j < 2 ^ 64) :
    addr a i = addr a j ↔ i = j := by
  constructor
  · intro h
    have hlow := congrArg BitVec.toNat ((BitVec.add_right_inj a).mp h)
    rwa [BitVec.toNat_ofNat, BitVec.toNat_ofNat, Nat.mod_eq_of_lt hi,
      Nat.mod_eq_of_lt hj] at hlow
  · rintro rfl
    rfl

theorem addr_sub
    (a : BitVec 64) {i j : Nat} (h : j ≤ i) :
    addr a i - BitVec.ofNat 64 j = addr a (i - j) := by
  have hij : BitVec.ofNat 64 i = BitVec.ofNat 64 (i - j) + BitVec.ofNat 64 j := by
    rw [← BitVec.ofNat_add, Nat.sub_add_cancel h]
  rw [addr, addr, hij, ← BitVec.add_assoc, BitVec.add_sub_cancel]

theorem addr_add (a : BitVec 64) (i j : Nat) :
    addr a i + BitVec.ofNat 64 j = addr a (i + j) := by
  rw [addr, addr, BitVec.ofNat_add, BitVec.add_assoc]

theorem addr_addr (a : BitVec 64) (i j : Nat) :
    addr (addr a i) j = addr a (i + j) :=
  addr_add a i j

theorem addr_zero (a : BitVec 64) : addr a 0 = a := by
  simp [addr]

theorem zf_resultFlags (s : State) (r : BitVec 64) :
    (s.withArith (resultFlags r)).zf = decide (r = 0#64) := by
  by_cases hr : r = 0#64
  · subst hr
    simp [State.zf, State.withArith, setArith, resultFlags, arithMask]
  · by_cases hm : r.msb <;> by_cases hp : evenParity r <;>
      simp [State.zf, State.withArith, setArith, resultFlags, arithMask, hr, hm, hp]

theorem addr_toNat
    {a : BitVec 64} {n i : Nat} (hn : n ≤ 64)
    (ha : 2 ^ n ∣ a.toNat) (hi : i < 2 ^ n) :
    (addr a i).toNat = a.toNat + i := by
  obtain ⟨q, hq⟩ := ha
  have hlt := a.isLt
  have hsplit : 2 ^ 64 = 2 ^ n * 2 ^ (64 - n) := by
    rw [← Nat.pow_add, Nat.add_sub_cancel' hn]
  have hq64 : q < 2 ^ (64 - n) := by
    rw [hq, hsplit] at hlt
    exact Nat.lt_of_mul_lt_mul_left hlt
  have hbound : a.toNat + i < 2 ^ 64 :=
    calc a.toNat + i < 2 ^ n * q + 2 ^ n := by omega
      _ = 2 ^ n * (q + 1) := by rw [Nat.mul_add, Nat.mul_one]
      _ ≤ 2 ^ n * 2 ^ (64 - n) := Nat.mul_le_mul_left _ hq64
      _ = 2 ^ 64 := hsplit.symm
  rw [addr, BitVec.toNat_add, BitVec.toNat_ofNat,
    Nat.mod_eq_of_lt (a := i) (by omega), Nat.mod_eq_of_lt hbound]

/-- The base of an area is recovered from any address in it. -/
theorem addr_and_areaMask
    {a : BitVec 64} {n i : Nat} (hn : n ≤ 64)
    (ha : 2 ^ n ∣ a.toNat) (hi : i < 2 ^ n) :
    addr a i &&& ~~~BitVec.ofNat 64 (2 ^ n - 1) = a := by
  have haddr := addr_toNat hn ha hi
  obtain ⟨q, hq⟩ := ha
  apply BitVec.eq_of_getLsbD_eq
  intro k hk
  have hmask : (BitVec.ofNat 64 (2 ^ n - 1)).getLsbD k = decide (k < n) := by
    rw [BitVec.getLsbD_ofNat, Nat.testBit_two_pow_sub_one]
    simp only [hk, decide_true, Bool.true_and]
  rw [BitVec.getLsbD_and, BitVec.getLsbD_not, hmask]
  by_cases hkn : k < n
  · have hzero : a.getLsbD k = false := by
      rw [BitVec.getLsbD, hq, Nat.testBit_two_pow_mul, decide_eq_false (by omega),
        Bool.false_and]
    simp only [hkn, decide_true, Bool.not_true, Bool.and_false, hzero]
  · have hsame : (addr a i).getLsbD k = a.getLsbD k := by
      rw [BitVec.getLsbD, BitVec.getLsbD, haddr, hq,
        Nat.testBit_two_pow_mul_add q hi, Nat.testBit_two_pow_mul, if_neg hkn,
        decide_eq_true (by omega), Bool.true_and]
    simp only [hkn, hk, decide_true, decide_false, Bool.not_false, Bool.and_true,
      hsame]

/-- A stack pointer is aligned to 16 bytes inside an area. -/
theorem addr_align16
    {a : BitVec 64} {n i : Nat} (hn : n ≤ 64) (hn₄ : 4 ≤ n)
    (ha : 2 ^ n ∣ a.toNat) (hi : i < 2 ^ n) :
    addr a i &&& ~~~0xF#64 = addr a (i / 16 * 16) := by
  have hle : i / 16 * 16 < 2 ^ n := by omega
  have hsplit : addr a i = addr (addr a (i / 16 * 16)) (i % 16) := by
    rw [addr_addr]
    congr 1
    omega
  have hdvd : 2 ^ 4 ∣ (addr a (i / 16 * 16)).toNat := by
    rw [addr_toNat hn ha hle]
    exact Nat.dvd_add (Nat.dvd_trans (Nat.pow_dvd_pow 2 hn₄) ha)
      (Nat.dvd_mul_left 16 (i / 16))
  rw [hsplit]
  exact addr_and_areaMask (n := 4) (by decide) hdvd (Nat.mod_lt i (by decide))

end X86
end Foundation
end KkmModule
