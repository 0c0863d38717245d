import KkmModule.Driver.IdtDescr

/-!
# The relocated instructions

The interrupt code runs at its copy in the kx area.  Three instructions of
`kkm_syscall_entry_asm` reach per-cpu data relative to RIP; `kkm_idt_descr_init`
gives their copies an absolute address, for which they take the byte of the NOP
behind them.  The new form carries the low half of the address, so it reaches the
same data exactly if the address is the extension of its low half.
-/

namespace KkmModule
namespace Driver

open Foundation X86

/-! ## Two forms of an instruction -/

/-- An instruction on GS data, relative to RIP and with an absolute address. -/
structure GsForm where
  op : Operation
  opcode : List (BitVec 8)
  replacement : List (BitVec 8)
  longer : replacement.length = opcode.length + 1
  decode_opcode : ∀ (disp : BitVec 32) rest,
    decode (opcode ++ toBytes 4 disp.toNat ++ rest) =
      some ⟨op, .gs, .mem ⟨.rip, none, disp⟩, opcode.length + 4⟩
  decode_replacement : ∀ disp : BitVec 32,
    decode (replacement ++ toBytes 4 disp.toNat) =
      some ⟨op, .gs, .mem ⟨.absent, none, disp⟩, replacement.length + 4⟩

/-- `mov %rsp,%gs:<offset>` -/
def storeForm : GsForm where
  op := .store .rsp
  opcode := [0x65, 0x48, 0x89, 0x25]
  replacement := [0x65, 0x48, 0x89, 0x24, 0x25]
  longer := rfl
  decode_opcode disp rest := by
    simp [decode, decodeSegment, decodeRex, decodeOperation, decodeRm, regOfField,
      regOfCode]
  decode_replacement disp := by
    have hdisp := decodeDisp_toBytes disp []
    rw [List.append_nil] at hdisp
    simp [decode, decodeSegment, decodeRex, decodeOperation, decodeRm, regOfField,
      regOfCode, hdisp]

/-- `mov %gs:<offset>,%rsp` -/
def loadForm : GsForm where
  op := .load .rsp
  opcode := [0x65, 0x48, 0x8B, 0x25]
  replacement := [0x65, 0x48, 0x8B, 0x24, 0x25]
  longer := rfl
  decode_opcode disp rest := by
    simp [decode, decodeSegment, decodeRex, decodeOperation, decodeRm, regOfField,
      regOfCode]
  decode_replacement disp := by
    have hdisp := decodeDisp_toBytes disp []
    rw [List.append_nil] at hdisp
    simp [decode, decodeSegment, decodeRex, decodeOperation, decodeRm, regOfField,
      regOfCode, hdisp]

/-- `push %gs:<offset>` -/
def pushForm : GsForm where
  op := .push
  opcode := [0x65, 0xFF, 0x35]
  replacement := [0x65, 0xFF, 0x34, 0x25]
  longer := rfl
  decode_opcode disp rest := by
    simp [decode, decodeSegment, decodeRex, decodeOperation, decodeRm]
  decode_replacement disp := by
    have hdisp := decodeDisp_toBytes disp []
    rw [List.append_nil] at hdisp
    simp [decode, decodeSegment, decodeRex, decodeOperation, decodeRm, Rex.absent,
      hdisp]

/-! ## The text -/

/-- `kkm_syscall_entry_asm` as it has been assembled and linked; only the
displacements are left open. -/
structure SyscallEntry (text : ModuleText) where
  disp1 : BitVec 32
  disp2 : BitVec 32
  disp3 : BitVec 32
  insn1 : imageBytes text.intrCode text.kkmSyscallLabel1 9 =
    [0x65, 0x48, 0x89, 0x25] ++ toBytes 4 disp1.toNat ++ [0x90]
  insn2 : imageBytes text.intrCode text.kkmSyscallLabel2 9 =
    [0x65, 0x48, 0x8B, 0x25] ++ toBytes 4 disp2.toNat ++ [0x90]
  insn3 : imageBytes text.intrCode text.kkmSyscallLabel3 8 =
    [0x65, 0xFF, 0x35] ++ toBytes 4 disp3.toNat ++ [0x90]
  label2 : text.kkmSyscallLabel2 = text.kkmSyscallLabel1 + 9
  -- `pushq $__USER_DS` lies in between
  label3 : text.kkmSyscallLabel3 = text.kkmSyscallLabel2 + 11
  fill : text.kkmSyscallLabel3 + 8 ≤ text.kkmIntrFill

/-- What a RIP-relative instruction of the given size at a label addresses. -/
def ModuleText.ripTarget
    (text : ModuleText) (label size : Nat) (disp : BitVec 32) : BitVec 64 :=
  text.kkmIntrEntry0 + BitVec.ofNat 64 (label + size) + disp.signExtend 64

/-- The range of a sign-extended 32-bit address. -/
def InSignedRange (x : BitVec 64) : Prop := -2 ^ 31 ≤ x.toInt ∧ x.toInt < 2 ^ 31

instance (x : BitVec 64) : Decidable (InSignedRange x) :=
  inferInstanceAs (Decidable (_ ∧ _))

/-- The instruction of the given size at a label of the text, and the one that has
taken its place and that of a NOP in the copy. -/
structure Relocated
    (text : ModuleText) (copy : Nat → BitVec 8) (label size : Nat)
    (target : BitVec 64) (before after : Decoded) : Prop where
  original : decode (imageBytes text.intrCode label (size + 1)) = some before
  size_before : before.length = size
  nop : decode (imageBytes text.intrCode (label + size) 1) =
    some ⟨.nop, .default, .absent, 1⟩
  copied : decode (imageBytes copy label (size + 1)) = some after
  size_after : after.length = size + 1
  op : after.op = before.op
  gs : before.seg = .gs ∧ after.seg = .gs
  offset_before : ∀ reg, before.memOffset reg
    (text.kkmIntrEntry0 + BitVec.ofNat 64 (label + size)) = some target
  /-- wherever the copy lies -/
  offset_after : ∀ reg rip, after.memOffset reg rip = some target

section Form

variable (form : GsForm) (text : ModuleText) {label : Nat} {disp : BitVec 32}
variable {copy : Nat → BitVec 8}

/-- Once the bytes of the new form are in place, the instruction is relocated
exactly if its target is in range. -/
theorem relocated_iff
    (horiginal : imageBytes text.intrCode label (form.opcode.length + 5) =
      form.opcode ++ toBytes 4 disp.toNat ++ [0x90])
    (hcopy : imageBytes copy label (form.opcode.length + 5) = form.replacement ++
      toBytes 4 ((text.ripTarget label (form.opcode.length + 4) disp).setWidth
        32).toNat) :
    (∃ before after, Relocated text copy label (form.opcode.length + 4)
        (text.ripTarget label (form.opcode.length + 4) disp) before after) ↔
      InSignedRange (text.ripTarget label (form.opcode.length + 4) disp) := by
  set target := text.ripTarget label (form.opcode.length + 4) disp with htarget
  have hafter := form.decode_replacement (target.setWidth 32)
  rw [← hcopy] at hafter
  constructor
  · rintro ⟨before, after, h⟩
    have hsame := h.copied.symm.trans hafter
    obtain rfl := Option.some.inj hsame
    have hoffset := h.offset_after (fun _ => 0#64) 0#64
    simp only [Decoded.memOffset, MemOperand.offset, BitVec.zero_add,
      Option.some.injEq] at hoffset
    exact (signExtend_setWidth_iff target).mp hoffset
  · intro hrange
    have hbefore := form.decode_opcode disp [0x90]
    rw [← horiginal] at hbefore
    refine ⟨_, _, hbefore, rfl, ?_, hafter, ?_, rfl, ⟨rfl, rfl⟩, ?_, ?_⟩
    · have hsplit := imageBytes_add text.intrCode label (form.opcode.length + 4) 1
      rw [horiginal] at hsplit
      have hnop := (List.append_inj hsplit (by simp)).2
      rw [← hnop]
      rfl
    · rw [form.longer]
    · intro reg
      simp only [Decoded.memOffset, MemOperand.offset, BitVec.add_zero]
      rfl
    · intro reg rip
      simp only [Decoded.memOffset, MemOperand.offset, BitVec.zero_add,
        (signExtend_setWidth_iff target).mpr hrange]

/-- The replacement puts the bytes of the new form in place. -/
theorem replaceRipRelative_form
    (horiginal : imageBytes text.intrCode label (form.opcode.length + 5) =
      form.opcode ++ toBytes 4 disp.toNat ++ [0x90])
    (image : Nat → BitVec 8) :
    imageBytes (replaceRipRelative text label form.opcode form.replacement image)
        (kkmIdtSize + label) (form.opcode.length + 5) =
      form.replacement ++
        toBytes 4 ((text.ripTarget label (form.opcode.length + 4) disp).setWidth
          32).toNat := by
  have hsplit := imageBytes_add text.intrCode label form.opcode.length 5
  rw [horiginal, List.append_assoc] at hsplit
  obtain ⟨hop, hrest⟩ := List.append_inj hsplit (by simp)
  have hsplit' := imageBytes_add text.intrCode (label + form.opcode.length) 4 1
  rw [← hrest] at hsplit'
  have hdisp := (List.append_inj hsplit' (by simp)).1
  have hwindow := replaceRipRelative_window text label form.opcode form.replacement
    image hop.symm hdisp.symm
  rw [form.longer] at hwindow
  exact hwindow

end Form

/-! ## The copied code -/

section Copy

variable {text : ModuleText} (asm : SyscallEntry text)

def SyscallEntry.target1 : BitVec 64 := text.ripTarget text.kkmSyscallLabel1 8 asm.disp1
def SyscallEntry.target2 : BitVec 64 := text.ripTarget text.kkmSyscallLabel2 8 asm.disp2
def SyscallEntry.target3 : BitVec 64 := text.ripTarget text.kkmSyscallLabel3 7 asm.disp3

/-- No byte of the three instructions and of their NOPs. -/
def ModuleText.Untouched (text : ModuleText) (i : Nat) : Prop :=
  (i < text.kkmSyscallLabel1 ∨ text.kkmSyscallLabel1 + 9 ≤ i) ∧
    (i < text.kkmSyscallLabel2 ∨ text.kkmSyscallLabel2 + 9 ≤ i) ∧
    (i < text.kkmSyscallLabel3 ∨ text.kkmSyscallLabel3 + 8 ≤ i)

/-- The copy differs from the text in the three instructions, which do the same
as long as their targets are in range. -/
structure CodeRelocated (copy : Nat → BitVec 8) : Prop where
  label1 : InSignedRange asm.target1 → ∃ before after,
    Relocated text copy text.kkmSyscallLabel1 8 asm.target1 before after
  label2 : InSignedRange asm.target2 → ∃ before after,
    Relocated text copy text.kkmSyscallLabel2 8 asm.target2 before after
  label3 : InSignedRange asm.target3 → ∃ before after,
    Relocated text copy text.kkmSyscallLabel3 7 asm.target3 before after
  others : ∀ i < kkmIdtCodeSize, text.Untouched i → copy i = copiedCode text i

/-- Each replacement keeps to its own instruction. -/
theorem kxPages_labels (asm : SyscallEntry text) (image : Nat → BitVec 8) :
    let image0 := fillKxPages text image
    let image1 := replaceLabel1 text image0
    let image2 := replaceLabel2 text image1
    (∀ i < 9, kxPages text image (kkmIdtSize + (text.kkmSyscallLabel1 + i)) =
        image1 (kkmIdtSize + (text.kkmSyscallLabel1 + i))) ∧
      (∀ i < 9, kxPages text image (kkmIdtSize + (text.kkmSyscallLabel2 + i)) =
        image2 (kkmIdtSize + (text.kkmSyscallLabel2 + i))) ∧
      ∀ i, text.Untouched i →
        kxPages text image (kkmIdtSize + i) = image0 (kkmIdtSize + i) := by
  have h2 := asm.label2
  have h3 := asm.label3
  have hat1 : ∀ image j, (j < kkmIdtSize + text.kkmSyscallLabel1 ∨
      kkmIdtSize + text.kkmSyscallLabel1 + 9 ≤ j) → replaceLabel1 text image j = image j :=
    fun image j hj => replaceRipRelative_of_not_mem text _ _ _ image hj
  have hat2 : ∀ image j, (j < kkmIdtSize + text.kkmSyscallLabel2 ∨
      kkmIdtSize + text.kkmSyscallLabel2 + 9 ≤ j) → replaceLabel2 text image j = image j :=
    fun image j hj => replaceRipRelative_of_not_mem text _ _ _ image hj
  have hat3 : ∀ image j, (j < kkmIdtSize + text.kkmSyscallLabel3 ∨
      kkmIdtSize + text.kkmSyscallLabel3 + 8 ≤ j) → replaceLabel3 text image j = image j :=
    fun image j hj => replaceRipRelative_of_not_mem text _ _ _ image hj
  refine ⟨?_, ?_, ?_⟩
  · intro i hi
    rw [kxPages, hat3 _ _ (by omega), hat2 _ _ (by omega)]
  · intro i hi
    rw [kxPages, hat3 _ _ (by omega)]
  · rintro i ⟨hi1, hi2, hi3⟩
    rw [kxPages, hat3 _ _ (by omega), hat2 _ _ (by omega), hat1 _ _ (by omega)]

/-- Pages that hold `kxPages` hold relocated code. -/
theorem codeRelocated_of_kxPages
    {copy : Nat → BitVec 8} (image : Nat → BitVec 8) (hfits : text.Fits)
    (hcopy : ∀ i < kkmIdtCodeSize, copy i = kxPages text image (kkmIdtSize + i)) :
    CodeRelocated asm copy := by
  obtain ⟨hat1, hat2, hothers⟩ := kxPages_labels asm image
  have hfill := asm.fill
  have h2 := asm.label2
  have h3 := asm.label3
  have hlast : text.kkmSyscallLabel3 + 8 < kkmIdtCodeSize := by
    have hfits := hfits.1
    simp only [kkmKxIntrCodeSize, kkmIdtCodeSize] at hfits ⊢
    omega
  constructor
  · refine (relocated_iff storeForm text asm.insn1 ?_).mpr
    rw [← replaceRipRelative_form storeForm text asm.insn1 (fillKxPages text image)]
    refine imageBytes_congr fun i (hi : i < 9) => ?_
    rw [hcopy _ (by omega), hat1 i hi, Nat.add_assoc]
    rfl
  · refine (relocated_iff loadForm text asm.insn2 ?_).mpr
    rw [← replaceRipRelative_form loadForm text asm.insn2
      (replaceLabel1 text (fillKxPages text image))]
    refine imageBytes_congr fun i (hi : i < 9) => ?_
    rw [hcopy _ (by omega), hat2 i hi, Nat.add_assoc]
    rfl
  · refine (relocated_iff pushForm text asm.insn3 ?_).mpr
    rw [← replaceRipRelative_form pushForm text asm.insn3
      (replaceLabel2 text (replaceLabel1 text (fillKxPages text image)))]
    refine imageBytes_congr fun i (hi : i < 8) => ?_
    rw [hcopy _ (by omega), Nat.add_assoc]
    rfl
  · intro i hi huntouched
    rw [hcopy i hi, hothers i huntouched, fillKxPages_code text image hi]

/-- After a successful `kkm_idt_descr_init` the text pages hold relocated code, for
every load address and all displacements. -/
theorem kkmIdtDescrInit_codeRelocated
    (nativeIdtDesc : DescPtr) (kx : KkmMmuPml4e) (entry : KkmIdtEntry)
    (answer : Option Nat) (s : PageState) {entry' : KkmIdtEntry} {s' : PageState}
    (hok : kkmIdtDescrInit text nativeIdtDesc kx entry answer s = (0, entry', s')) :
    CodeRelocated asm fun i => s'.mem.byte (entry'.idtTextPage0.va + i) := by
  obtain ⟨hfits, -⟩ := kkmIdtDescrInit_granted hok
  obtain ⟨htext0, image, hbytes⟩ := kkmIdtDescrInit_bytes hok
  refine codeRelocated_of_kxPages asm image hfits fun i hi => ?_
  have hin : kkmIdtSize + i < kkmIdtAllocationPages * pageSize := by
    have htotal : kkmIdtSize + kkmIdtCodeSize < kkmIdtAllocationPages * pageSize := by
      decide
    omega
  rw [← hbytes _ hin, htext0, Nat.add_assoc]

end Copy

/-- A text of the system call entry alone; the three instructions address the
first bytes of the per-cpu area. -/
def smallText : ModuleText where
  byte a := ([0x0F, 0x01, 0xF8,
    0x65, 0x48, 0x89, 0x25, 0x09, 0x00, 0x00, 0x40, 0x90,
    0x65, 0x48, 0x8B, 0x25, 0xF0, 0xFF, 0xFF, 0x3F, 0x90, 0x6A, 0x2B,
    0x65, 0xFF, 0x35, 0xF6, 0xFF, 0xFF, 0x3F, 0x90] : List (BitVec 8)).getD
      (a - 0xFFFFFFFFC0000000#64).toNat 0x90#8
  kkmIntrEntry0 := 0xFFFFFFFFC0000000#64
  kkmSwitchToGpAsm := 0xFFFFFFFFC0002000#64
  kkmSwitchToHostKernel := 0xFFFFFFFFC0003000#64
  kkmIntrEntry vector := 16 * vector
  kkmIntrEntryFault vector := 16 * vector
  kkmSyscallLabel1 := 3
  kkmSyscallLabel2 := 12
  kkmSyscallLabel3 := 23
  kkmIntrFill := 32
  kkmGuestEntryEnd := 512
  kkmIntrEntry_zero := rfl

def smallEntry : SyscallEntry smallText where
  disp1 := 0x40000009#32
  disp2 := 0x3FFFFFF0#32
  disp3 := 0x3FFFFFF6#32
  insn1 := by decide
  insn2 := by decide
  insn3 := by decide
  label2 := rfl
  label3 := rfl
  fill := by decide

/-- The three instructions of `smallText` are relocated. -/
theorem smallText_relocated :
    let r := kkmIdtDescrInit smallText ⟨4095, 0⟩ .zeroed .zeroed (some 0)
      ⟨.empty 1, fun _ => 0#64⟩
    CodeRelocated smallEntry (fun i => r.2.2.mem.byte (r.2.1.idtTextPage0.va + i)) ∧
      InSignedRange smallEntry.target1 ∧ InSignedRange smallEntry.target2 ∧
      InSignedRange smallEntry.target3 := by
  have hfits : smallText.Fits := by decide
  have hok := kkmIdtDescrInit_some smallText ⟨4095, 0⟩ .zeroed .zeroed
    ⟨.empty 1, fun _ => 0#64⟩ hfits 0
  refine ⟨?_, by decide, by decide, by decide⟩
  exact kkmIdtDescrInit_codeRelocated smallEntry _ _ _ _ _ (Prod.ext (by rw [hok]) rfl)

end Driver
end KkmModule
