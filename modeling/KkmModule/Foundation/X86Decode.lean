import KkmModule.Foundation.ByteImage
import KkmModule.Foundation.X86Machine

/-!
# Decoding instructions with a memory operand

The encoding of 64-bit instructions from a segment prefix over REX, opcode, ModRM
and SIB to the displacement.  Of the opcodes only those of a 64-bit move, of a
push from memory and of the one-byte NOP are known; the addressing forms are
complete, so that an encoding is told from one that differs in a single field.

The offset of an operand relative to RIP depends on where the instruction lies,
that of an operand without base and index does not.
-/

namespace KkmModule
namespace Foundation
namespace X86

/-! ## Operands -/

inductive Segment where
  | default
  | fs
  | gs
deriving DecidableEq, Repr

inductive MemBase where
  | absent
  | rip
  | reg (r : Reg)
deriving DecidableEq, Repr

/-- A memory operand; the index register comes with the exponent of its scale. -/
structure MemOperand where
  base : MemBase
  index : Option (Reg × Nat)
  disp : BitVec 32
deriving DecidableEq, Repr

inductive Operand where
  | absent
  | reg (r : Reg)
  | mem (o : MemOperand)
deriving DecidableEq, Repr

/-- The offset in the segment; `rip` is the address of the next instruction. -/
def MemOperand.offset
    (o : MemOperand) (reg : Reg → BitVec 64) (rip : BitVec 64) : BitVec 64 :=
  let base := match o.base with
    | .absent => 0#64
    | .rip => rip
    | .reg r => reg r
  let index := match o.index with
    | none => 0#64
    | some (r, scale) => reg r <<< scale
  base + index + o.disp.signExtend 64

inductive Operation where
  | store (src : Reg)
  | load (dst : Reg)
  | push
  | nop
deriving DecidableEq, Repr

structure Decoded where
  op : Operation
  seg : Segment
  operand : Operand
  length : Nat
deriving DecidableEq, Repr

/-- The offset of a memory operand. -/
def Decoded.memOffset
    (d : Decoded) (reg : Reg → BitVec 64) (rip : BitVec 64) : Option (BitVec 64) :=
  match d.operand with
  | .mem o => some (o.offset reg rip)
  | _ => none

/-! ## Fields -/

/-- Registers in the order of their numbers. -/
def regOfCode : Nat → Reg
  | 0 => .rax
  | 1 => .rcx
  | 2 => .rdx
  | 3 => .rbx
  | 4 => .rsp
  | 5 => .rbp
  | 6 => .rsi
  | 7 => .rdi
  | 8 => .r8
  | 9 => .r9
  | 10 => .r10
  | 11 => .r11
  | 12 => .r12
  | 13 => .r13
  | 14 => .r14
  | _ => .r15

/-- The four bits of a REX prefix. -/
structure Rex where
  w : Bool
  r : Bool
  x : Bool
  b : Bool
deriving DecidableEq, Repr

def Rex.absent : Rex := ⟨false, false, false, false⟩

/-- A three-bit register field with the REX bit that extends it. -/
def regOfField (ext : Bool) (field : BitVec 3) : Reg :=
  regOfCode (field.toNat + if ext then 8 else 0)

/-- A displacement of one or four bytes, lowest byte first. -/
def decodeDisp : Nat → List (BitVec 8) → Option (BitVec 32)
  | 0, _ => some 0#32
  | 1, b :: _ => some (b.signExtend 32)
  | 4, b₀ :: b₁ :: b₂ :: b₃ :: _ => some (BitVec.ofNat 32 (ofBytes [b₀, b₁, b₂, b₃]))
  | _, _ => none

/-- Bytes of the displacement that goes with a base register. -/
def dispSize (mod : BitVec 2) : Nat :=
  if mod = 1#2 then 1 else if mod = 2#2 then 4 else 0

/-- The operand after a ModRM byte and the number of bytes it takes there. -/
def decodeRm
    (rex : Rex) (mod : BitVec 2) (rm : BitVec 3) (bytes : List (BitVec 8)) :
    Option (Operand × Nat) :=
  if mod = 3#2 then some (.reg (regOfField rex.b rm), 0)
  else if rm = 4#3 then
    match bytes with
    | [] => none
    | sib :: bytes =>
        let indexField := sib.extractLsb' 3 3
        let baseField := sib.extractLsb' 0 3
        let index :=
          -- without REX.X the number of RSP stands for no index
          if indexField = 4#3 ∧ rex.x = false then none
          else some (regOfField rex.x indexField, (sib.extractLsb' 6 2).toNat)
        if mod = 0#2 ∧ baseField = 5#3 then
          (decodeDisp 4 bytes).map fun disp => (.mem ⟨.absent, index, disp⟩, 5)
        else
          (decodeDisp (dispSize mod) bytes).map fun disp =>
            (.mem ⟨.reg (regOfField rex.b baseField), index, disp⟩, 1 + dispSize mod)
  else if mod = 0#2 ∧ rm = 5#3 then
    (decodeDisp 4 bytes).map fun disp => (.mem ⟨.rip, none, disp⟩, 4)
  else
    (decodeDisp (dispSize mod) bytes).map fun disp =>
      (.mem ⟨.reg (regOfField rex.b rm), none, disp⟩, dispSize mod)

/-! ## Instructions -/

/-- A segment prefix. -/
def decodeSegment : List (BitVec 8) → Segment × List (BitVec 8)
  | [] => (.default, [])
  | b :: bytes =>
      if b = 0x64#8 then (.fs, bytes)
      else if b = 0x65#8 then (.gs, bytes)
      else (.default, b :: bytes)

/-- A REX prefix. -/
def decodeRex : List (BitVec 8) → Rex × List (BitVec 8)
  | [] => (.absent, [])
  | b :: bytes =>
      if b.extractLsb' 4 4 = 4#4 then
        (⟨b.getLsbD 3, b.getLsbD 2, b.getLsbD 1, b.getLsbD 0⟩, bytes)
      else (.absent, b :: bytes)

/-- The operation of an opcode and of the register field of its ModRM byte. -/
def decodeOperation (rex : Rex) (opcode : BitVec 8) (field : BitVec 3) :
    Option Operation :=
  if opcode = 0x89#8 ∧ rex.w = true then some (.store (regOfField rex.r field))
  else if opcode = 0x8B#8 ∧ rex.w = true then some (.load (regOfField rex.r field))
  else if opcode = 0xFF#8 ∧ field = 6#3 then some .push
  else none

/-- The first instruction of a list of bytes. -/
def decode (bytes : List (BitVec 8)) : Option Decoded :=
  let (seg, rest) := decodeSegment bytes
  let (rex, rest) := decodeRex rest
  match rest with
  | [] => none
  | opcode :: rest =>
      let prefixes := bytes.length - (rest.length + 1)
      if opcode = 0x90#8 ∧ rex.b = false then
        some ⟨.nop, seg, .absent, prefixes + 1⟩
      else
        match rest with
        | [] => none
        | modrm :: rest =>
            (decodeOperation rex opcode (modrm.extractLsb' 3 3)).bind fun op =>
              (decodeRm rex (modrm.extractLsb' 6 2) (modrm.extractLsb' 0 3) rest).map
                fun (operand, n) => ⟨op, seg, operand, prefixes + 2 + n⟩

/-! ## Displacements -/

theorem ofBytes_toBytes_disp (d : BitVec 32) :
    BitVec.ofNat 32 (ofBytes (toBytes 4 d.toNat)) = d := by
  apply BitVec.eq_of_toNat_eq
  have hlt := d.isLt
  simp only [ofBytes_toBytes, BitVec.toNat_ofNat]
  omega

/-- A displacement is decoded from its bytes. -/
@[simp] theorem decodeDisp_toBytes (d : BitVec 32) (rest : List (BitVec 8)) :
    decodeDisp 4 (toBytes 4 d.toNat ++ rest) = some d := by
  have h := ofBytes_toBytes_disp d
  simp only [toBytes, List.cons_append, List.nil_append, decodeDisp] at h ⊢
  rw [h]

/-- An offset is the extension of its low half exactly in the range of a signed
displacement. -/
theorem signExtend_setWidth_iff (x : BitVec 64) :
    (x.setWidth 32).signExtend 64 = x ↔ -2 ^ 31 ≤ x.toInt ∧ x.toInt < 2 ^ 31 := by
  rw [← BitVec.toInt_inj, BitVec.toInt_signExtend_of_le (by decide),
    BitVec.toInt_setWidth, BitVec.toInt_eq_toNat_bmod]
  have hlt := x.isLt
  simp only [Int.bmod]
  omega

/-- The low half of a sum does not depend on how a 32-bit summand is extended. -/
theorem setWidth_add_extend (x : BitVec 64) (d : BitVec 32) :
    (x + d.setWidth 64).setWidth 32 = (x + d.signExtend 64).setWidth 32 := by
  have hsigned : (d.signExtend 64).setWidth 32 = d := by
    apply BitVec.eq_of_getLsbD_eq
    intro i hi
    have hi' : i < 64 := by omega
    simp only [BitVec.getLsbD_setWidth, BitVec.getLsbD_signExtend, hi, hi', decide_true,
      Bool.true_and, if_true]
  rw [BitVec.setWidth_add _ _ (by decide), BitVec.setWidth_add _ _ (by decide), hsigned]
  simp

end X86
end Foundation
end KkmModule
