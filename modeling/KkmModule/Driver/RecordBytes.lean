import KkmModule.Driver.KontextIoctls

/-!
# The bytes a kontext request hands out

`kkm_execution_kontext_ioctl` copies four of its records from pages of the
kontext.  `struct kkm_save_info` is built field by field in a local variable, so
the bytes at which no field lies are those of the kernel stack.
-/

namespace KkmModule
namespace Driver

open Foundation

/-! ## Records without gaps -/

def KkmRegs.bytes (regs : KkmRegs) : List (BitVec 8) :=
  [regs.rax, regs.rbx, regs.rcx, regs.rdx, regs.rsi, regs.rdi, regs.rsp, regs.rbp,
    regs.r8, regs.r9, regs.r10, regs.r11, regs.r12, regs.r13, regs.r14, regs.r15,
    regs.rip, regs.rflags].flatMap wordBytes

def KkmSegment.bytes (seg : KkmSegment) : List (BitVec 8) :=
  wordBytes seg.base ++ toBytes 4 seg.limit.toNat ++ toBytes 2 seg.selector.toNat ++
    [seg.type, seg.present, seg.dpl, seg.db, seg.s, seg.l, seg.g, seg.avl,
      seg.unusable, seg.reserved]

def KkmDtable.bytes (table : KkmDtable) : List (BitVec 8) :=
  wordBytes table.base ++ toBytes 2 table.limit.toNat ++
    (List.ofFn table.reserved).flatMap fun v => toBytes 2 v.toNat

def KkmSregs.bytes (sregs : KkmSregs) : List (BitVec 8) :=
  [sregs.cs, sregs.ds, sregs.es, sregs.fs, sregs.gs, sregs.ss, sregs.tr,
      sregs.ldt].flatMap KkmSegment.bytes ++
    [sregs.gdt, sregs.idt].flatMap KkmDtable.bytes ++
    [sregs.cr0, sregs.cr2, sregs.cr3, sregs.cr4, sregs.cr8, sregs.efer,
      sregs.apicBase].flatMap wordBytes ++
    (List.ofFn sregs.intrBitmap).flatMap wordBytes

def KkmFpu.bytes (fpu : KkmFpu) : List (BitVec 8) :=
  List.ofFn fpu.fpr ++ toBytes 2 fpu.fcw.toNat ++ toBytes 2 fpu.fsw.toNat ++
    [fpu.ftwx, fpu.pad1] ++ toBytes 2 fpu.lastOpcode.toNat ++ wordBytes fpu.lastIp ++
    wordBytes fpu.lastDp ++ List.ofFn fpu.xmm ++ toBytes 4 fpu.mxcsr.toNat ++
    toBytes 4 fpu.pad2.toNat

theorem KkmSegment.bytes_length (seg : KkmSegment) : seg.bytes.length = 24 := by
  simp [KkmSegment.bytes]

theorem KkmDtable.bytes_length (table : KkmDtable) : table.bytes.length = 16 := by
  have hreserved : ∀ v : BitVec 16, (toBytes 2 v.toNat).length = 2 :=
    fun _ => toBytes_length _ _
  simp only [KkmDtable.bytes, List.length_append, length_flatMap_const hreserved,
    wordBytes_length, toBytes_length, List.length_ofFn]

theorem KkmRegs.bytes_length (regs : KkmRegs) : regs.bytes.length = 144 := by
  rw [KkmRegs.bytes, length_flatMap_const wordBytes_length]
  rfl

theorem KkmSregs.bytes_length (sregs : KkmSregs) : sregs.bytes.length = 312 := by
  simp only [KkmSregs.bytes, List.length_append,
    length_flatMap_const KkmSegment.bytes_length,
    length_flatMap_const KkmDtable.bytes_length,
    length_flatMap_const wordBytes_length, List.length_ofFn, List.length_cons,
    List.length_nil]

theorem KkmFpu.bytes_length (fpu : KkmFpu) : fpu.bytes.length = 416 := by
  simp only [KkmFpu.bytes, List.length_append, List.length_ofFn, wordBytes_length,
    toBytes_length, List.length_cons, List.length_nil]

/-- `sizeof(struct kkm_xstate)` -/
def sizeofKkmXstate : Nat := 4096

/-! ## `struct kkm_save_info` -/

/-- `KKM_SAVE_INFO_SZ` -/
def kkmSaveInfoSz : Nat := 64

def boolByte (b : Bool) : BitVec 8 := if b then 1#8 else 0#8

/-- The fields at their offsets, in the order `kkm_kontext_get_save_info` stores
them. -/
def KkmSaveInfo.fields (si : KkmSaveInfo) : List (Nat × List (BitVec 8)) :=
  [(0, [boolByte si.syscallPending]),
    (8, wordBytes si.retValMva),
    (16, [boolByte si.exceptionPosted]),
    (24, wordBytes si.exceptionSavedRax),
    (32, wordBytes si.exceptionSavedRbx),
    (40, toBytes 4 si.hypercallData.toNat),
    (44, toBytes 4 si.reason.toNat),
    (17, [boolByte si.firstThread]),
    (18, [boolByte si.newThread])]

/-- The local variable after the fields have been stored; `stack` is what it held
before. -/
def KkmSaveInfo.bytes (stack : Nat → BitVec 8) (si : KkmSaveInfo) :
    List (BitVec 8) :=
  imageBytes (storeFields stack si.fields) 0 kkmSaveInfoSz

/-- The padding after the first and the fifth field, and the rest of `data`. -/
def IsGap (i : Nat) : Prop :=
  (1 ≤ i ∧ i < 8) ∨ (19 ≤ i ∧ i < 24) ∨ (48 ≤ i ∧ i < kkmSaveInfoSz)

theorem KkmSaveInfo.not_stored_iff (si : KkmSaveInfo) {i : Nat}
    (hi : i < kkmSaveInfoSz) :
    ¬ Stored si.fields i ↔ IsGap i := by
  have hword : ∀ v : BitVec 64, (wordBytes v).length = 8 := wordBytes_length
  simp only [Stored, KkmSaveInfo.fields, List.exists_mem_cons_iff,
    List.length_singleton, hword, toBytes_length, IsGap]
  simp only [kkmSaveInfoSz] at hi ⊢
  simp only [List.not_mem_nil, false_and, exists_false, or_false]
  omega

theorem KkmSaveInfo.bytes_eq_iff (stack stack' : Nat → BitVec 8) (si : KkmSaveInfo) :
    si.bytes stack = si.bytes stack' ↔ ∀ i, IsGap i → stack i = stack' i := by
  rw [KkmSaveInfo.bytes, KkmSaveInfo.bytes, imageBytes_storeFields_eq_iff]
  constructor
  · intro h i hgap
    have hi : i < kkmSaveInfoSz := by
      simp only [IsGap, kkmSaveInfoSz] at hgap ⊢
      omega
    exact h i hi ((si.not_stored_iff hi).mpr hgap)
  · intro h i hi hstored
    exact h i ((si.not_stored_iff hi).mp hstored)

/-! ## What is copied to user space -/

/-- The bytes of a reply. -/
def KontextReply.bytes (stack : Nat → BitVec 8) : KontextReply → List (BitVec 8)
  | .none => []
  | .regs r => r.bytes
  | .sregs r => r.bytes
  | .fpu r => r.bytes
  | .saveInfo si => si.bytes stack
  | .xstate image => imageBytes image 0 sizeofKkmXstate

/-- The sizes of the records are those the monitor knows. -/
theorem KontextReply.bytes_length (stack : Nat → BitVec 8) (reply : KontextReply) :
    (reply.bytes stack).length =
      match reply with
      | .none => 0
      | .regs _ => 144
      | .sregs _ => 312
      | .fpu _ => 416
      | .saveInfo _ => 64
      | .xstate _ => 4096 := by
  cases reply with
  | none => rfl
  | regs r => exact r.bytes_length
  | sregs r => exact r.bytes_length
  | fpu r => exact r.bytes_length
  | saveInfo si => exact imageBytes_length _ _ _
  | xstate image => exact imageBytes_length _ _ _

section Requests

variable (cfg : KkmConfig) (crc32 : List (BitVec 8) → BitVec 32)

/-- What a request copies to user space when nothing fails; `stack` is the stack
of the kernel thread where the local variable of the request lies. -/
def bytesToUser
    (request : KontextIoctl) (kontext : KkmKontext) (stack : Nat → BitVec 8) :
    List (BitVec 8) :=
  (kkmExecutionKontextIoctl cfg crc32 request kontext).2.1.bytes stack

/-- Two executions of a request from one kontext hand out the same bytes, unless
it is `KKM_KONTEXT_GET_SAVE_INFO` and the stacks differ in a gap of the
record. -/
theorem bytesToUser_eq_iff
    (request : KontextIoctl) (kontext : KkmKontext) (stack stack' : Nat → BitVec 8) :
    bytesToUser cfg crc32 request kontext stack =
        bytesToUser cfg crc32 request kontext stack' ↔
      (∀ failed, request = .getSaveInfo failed →
        ∀ i, IsGap i → stack i = stack' i) := by
  cases request with
  | getSaveInfo failed =>
      have hiff := KkmSaveInfo.bytes_eq_iff stack stack' kontext.saveInfo
      refine Iff.trans hiff ⟨fun h _ _ => h, fun h => h failed rfl⟩
  | _ => exact iff_of_true rfl fun _ h => nomatch h

/-- Byte 48 of the record is a byte of the stack. -/
theorem getSaveInfo_leaks_stack :
    bytesToUser .stock (fun _ => 0#32) (.getSaveInfo false) .zeroed (fun _ => 0#8) ≠
      bytesToUser .stock (fun _ => 0#32) (.getSaveInfo false) .zeroed
        (fun i => if i = 48 then 1#8 else 0#8) := by
  intro h
  have hiff := KkmSaveInfo.bytes_eq_iff (fun _ => 0#8)
    (fun i => if i = 48 then 1#8 else 0#8) (KkmKontext.zeroed.saveInfo)
  have hgap : IsGap 48 := Or.inr (Or.inr ⟨by omega, by decide⟩)
  have hbyte := hiff.mp h 48 hgap
  exact absurd hbyte (by decide)

end Requests

end Driver
end KkmModule
