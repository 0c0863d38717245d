import KkmModule.Driver.KxTable
import KkmModule.Driver.ModuleLife
import KkmModule.Driver.SwitchCode
import KkmModule.Foundation.MemoryImage
import KkmModule.Foundation.X86Decode

/-!
# The pages of the kx area (`kkm_idt.c`)

`kkm_idt_descr_init` fills four pages: the interrupt descriptor table, two pages
with copies of the interrupt code and of the entry code, and a page of global
data.  Three instructions of the copied interrupt code are replaced by forms that
do not depend on where the code lies.

The pages are filled through an image of their bytes, which goes back to memory
at the end.  The ids of the kontainers that ran last are part of the model of the
TLB.
-/

namespace KkmModule
namespace Driver

open Foundation

/-! ## The text of the module -/

/-- The loaded text.  Symbols of `kkm_guest_exit.S` are offsets from
`kkm_intr_entry_0`, `kkm_guest_entry_end` is one from `kkm_switch_to_gp_asm`. -/
structure ModuleText where
  byte : BitVec 64 → BitVec 8
  kkmIntrEntry0 : BitVec 64
  kkmSwitchToGpAsm : BitVec 64
  kkmSwitchToHostKernel : BitVec 64
  /-- `kkm_intr_entry_0` to `kkm_intr_entry_255` -/
  kkmIntrEntry : Nat → Nat
  /-- `kkm_intr_entry_double_fault` to `kkm_intr_entry_security_exception` -/
  kkmIntrEntryFault : Nat → Nat
  kkmSyscallLabel1 : Nat
  kkmSyscallLabel2 : Nat
  kkmSyscallLabel3 : Nat
  kkmIntrFill : Nat
  kkmGuestEntryEnd : Nat
  kkmIntrEntry_zero : kkmIntrEntry 0 = 0

/-- The bytes from `kkm_intr_entry_0` on. -/
def ModuleText.intrCode (text : ModuleText) (i : Nat) : BitVec 8 :=
  text.byte (text.kkmIntrEntry0 + BitVec.ofNat 64 i)

/-- The bytes from `kkm_switch_to_gp_asm` on. -/
def ModuleText.entryCode (text : ModuleText) (i : Nat) : BitVec 8 :=
  text.byte (text.kkmSwitchToGpAsm + BitVec.ofNat 64 i)

/-- The stub of a vector, with the handlers that are replaced. -/
def ModuleText.stub (text : ModuleText) (vector : Nat) : Nat :=
  if faultWithErrorCode vector then text.kkmIntrEntryFault vector
  else text.kkmIntrEntry vector

/-- `intr_function_pointers` -/
def intrFunctionPointers (text : ModuleText) (vector : Nat) : BitVec 64 :=
  text.kkmIntrEntry0 + BitVec.ofNat 64 (text.stub vector)

/-! ## Structures and constants -/

/-- `struct desc_ptr` -/
structure DescPtr where
  size : BitVec 16
  address : BitVec 64
deriving DecidableEq, Repr

/-- `struct kkm_idt_entry` -/
structure KkmIdtEntry where
  idt : KkmMmuPageInfo
  idtTextPage0 : KkmMmuPageInfo
  idtTextPage1 : KkmMmuPageInfo
  kxGlobal : KkmMmuPageInfo
  nativeIdtDesc : DescPtr
  guestIdtDesc : DescPtr
deriving DecidableEq, Repr

def KkmIdtEntry.zeroed : KkmIdtEntry :=
  ⟨.zeroed, .zeroed, .zeroed, .zeroed, ⟨0, 0⟩, ⟨0, 0⟩⟩

def kkmIdtSize : Nat := 4096
def kkmIdtCodeSize : Nat := 8192
def kkmIdtGlobalSize : Nat := 4096
def kkmKxIntrCodeSize : Nat := 6144
def kkmKxEntryCodeSize : Nat := 2048
def kkmIdtCodeStartVa : Nat := kkmPrivateStartVa + kkmIdtSize

def nrVectors : Nat := 256
/-- `__KERNEL_CS` -/
def kernelCodeSegment : BitVec 16 := 0x10#16
/-- `GATE_INTERRUPT` -/
def gateInterrupt : BitVec 5 := 0xE#5
/-- `X86_TRAP_BP` -/
def bpVector : Nat := 3
/-- `X86_TRAP_OF` -/
def ofVector : Nat := 4

/-- `struct gate_struct` -/
structure GateStruct where
  offsetLow : BitVec 16
  segment : BitVec 16
  ist : BitVec 3
  zero : BitVec 5
  type : BitVec 5
  dpl : BitVec 2
  p : BitVec 1
  offsetMiddle : BitVec 16
  offsetHigh : BitVec 32
  reserved : BitVec 32
deriving DecidableEq, Repr

def GateStruct.bytes (gs : GateStruct) : List (BitVec 8) :=
  toBytes 2 gs.offsetLow.toNat ++ toBytes 2 gs.segment.toNat ++
    toBytes 2 (gs.p ++ gs.dpl ++ gs.type ++ gs.zero ++ gs.ist).toNat ++
    toBytes 2 gs.offsetMiddle.toNat ++ toBytes 4 gs.offsetHigh.toNat ++
    toBytes 4 gs.reserved.toNat

/-- Where a gate leads to. -/
def GateStruct.offset (gs : GateStruct) : BitVec 64 :=
  gs.offsetHigh ++ gs.offsetMiddle ++ gs.offsetLow

@[simp] theorem GateStruct.bytes_length (gs : GateStruct) : gs.bytes.length = 16 := by
  simp [GateStruct.bytes]

/-! ## The code -/

def kkmMmuGetIdtVa : Nat := kkmPrivateStartVa

/-- `kkm_mmu_set_kx_global_info` for any addresses. -/
def kkmMmuSetKxGlobalInfoAt
    (kx : KkmMmuPml4e) (idtPa textPage0Pa textPage1Pa kxGlobalPa : Nat) (m : Memory) :
    Memory :=
  let m := kkmMmuInsertPage kx.pt.va kkmPteIndexIdt idtPa (pageNx ||| pagePresent) m
  let m := kkmMmuInsertPage kx.pt.va kkmPteIndexText0 textPage0Pa
    (pageRw ||| pagePresent) m
  let m := kkmMmuInsertPage kx.pt.va kkmPteIndexText1 textPage1Pa
    (pageRw ||| pagePresent) m
  kkmMmuInsertPage kx.pt.va kkmPteIndexKx kxGlobalPa
    (pageNx ||| pageRw ||| pagePresent) m

theorem kkmMmuSetKxGlobalInfo_eq
    (kx : KkmMmuPml4e) (idt text0 text1 global : PhysPage) (m : Memory) :
    kkmMmuSetKxGlobalInfo kx idt text0 text1 global m =
      kkmMmuSetKxGlobalInfoAt kx idt.pa text0.pa text1.pa global.pa m := rfl

/-- `intr_entry_addr` -/
def intrEntryAddr (text : ModuleText) (vector : Nat) : BitVec 64 :=
  BitVec.ofNat 64 kkmIdtCodeStartVa + intrFunctionPointers text vector -
    intrFunctionPointers text 0

/-- A gate of the table. -/
def idtGate (text : ModuleText) (vector : Nat) : GateStruct where
  offsetLow := (intrEntryAddr text vector).setWidth 16
  segment := kernelCodeSegment
  ist := 0
  zero := 0
  type := gateInterrupt
  dpl := if vector = bpVector ∨ vector = ofVector then 3 else 0
  p := 1
  offsetMiddle := (intrEntryAddr text vector >>> 16).setWidth 16
  offsetHigh := (intrEntryAddr text vector >>> 32).setWidth 32
  reserved := 0

def idtGates (text : ModuleText) : List (BitVec 8) :=
  (List.range nrVectors).flatMap fun vector => (idtGate text vector).bytes

/-- A RIP-relative instruction at a label, known by its first bytes, gets an
absolute address.  The displacement is read from the text, the replacement goes
into the copy. -/
def replaceRipRelative
    (text : ModuleText) (label : Nat) (opcode replacement : List (BitVec 8))
    (image : Nat → BitVec 8) : Nat → BitVec 8 :=
  if imageBytes text.intrCode label opcode.length = opcode then
    let offset := BitVec.ofNat 32
      (ofBytes (imageBytes text.intrCode (label + opcode.length) 4))
    let ripValue := text.kkmIntrEntry0 +
      BitVec.ofNat 64 (label + (opcode.length + 4))
    -- a `uint32_t` is added to a `uint64_t`: the displacement loses its sign
    let gsRelativeOffset := ripValue + offset.setWidth 64
    let relocatedAddress := kkmIdtSize + label
    let image := overlay image relocatedAddress replacement
    overlay image (relocatedAddress + replacement.length)
      (toBytes 4 (gsRelativeOffset.setWidth 32).toNat)
  else image

/-- `mov %rsp,%gs:<offset>(%rip)` becomes `mov %rsp,%gs:<offset>`. -/
def replaceLabel1 (text : ModuleText) (image : Nat → BitVec 8) : Nat → BitVec 8 :=
  replaceRipRelative text text.kkmSyscallLabel1 [0x65, 0x48, 0x89, 0x25]
    [0x65, 0x48, 0x89, 0x24, 0x25] image

/-- `mov %gs:<offset>(%rip),%rsp` becomes `mov %gs:<offset>,%rsp`. -/
def replaceLabel2 (text : ModuleText) (image : Nat → BitVec 8) : Nat → BitVec 8 :=
  replaceRipRelative text text.kkmSyscallLabel2 [0x65, 0x48, 0x8B, 0x25]
    [0x65, 0x48, 0x8B, 0x24, 0x25] image

/-- `push %gs:<offset>(%rip)` becomes `push %gs:<offset>`. -/
def replaceLabel3 (text : ModuleText) (image : Nat → BitVec 8) : Nat → BitVec 8 :=
  replaceRipRelative text text.kkmSyscallLabel3 [0x65, 0xFF, 0x35]
    [0x65, 0xFF, 0x34, 0x25] image

/-- The four pages up to the replacements. -/
def fillKxPages (text : ModuleText) (image : Nat → BitVec 8) : Nat → BitVec 8 :=
  let image := overlay image 0 (idtGates text)
  let image := overlay image kkmIdtSize (imageBytes text.intrCode 0 kkmKxIntrCodeSize)
  let image := overlay image (kkmIdtSize + kkmKxIntrCodeSize)
    (imageBytes text.entryCode 0 kkmKxEntryCodeSize)
  let kxGlobal := kkmIdtSize + kkmIdtCodeSize
  let image := overlay image kxGlobal (List.replicate kkmIdtGlobalSize 0#8)
  overlay image kxGlobal (wordBytes text.kkmSwitchToHostKernel)

/-- What `kkm_idt_descr_init` leaves in the four pages. -/
def kxPages (text : ModuleText) (image : Nat → BitVec 8) : Nat → BitVec 8 :=
  let image := fillKxPages text image
  let image := replaceLabel1 text image
  let image := replaceLabel2 text image
  replaceLabel3 text image

/-- The addresses of the four pages; of the last three only these are set. -/
def KkmIdtEntry.setPages (entry : KkmIdtEntry) (idt : KkmMmuPageInfo) : KkmIdtEntry :=
  let text0 := idt.va + kkmIdtSize
  let text1 := text0 + pageSize
  let kxGlobal := text1 + pageSize
  { entry with
    idt := idt
    idtTextPage0 := { entry.idtTextPage0 with va := text0, pa := text0 }
    idtTextPage1 := { entry.idtTextPage1 with va := text1, pa := text1 }
    kxGlobal := { entry.kxGlobal with va := kxGlobal, pa := kxGlobal } }

/-- `kkm_idt_descr_init`; `nativeIdtDesc` is what `kkm_store_idt` reports. -/
def kkmIdtDescrInit
    (text : ModuleText) (nativeIdtDesc : DescPtr) (kx : KkmMmuPml4e)
    (entry : KkmIdtEntry) (answer : Option Nat) (s : PageState) :
    Int × KkmIdtEntry × PageState :=
  if kkmKxIntrCodeSize ≤ text.kkmIntrFill then (-einval, entry, s)
  else if kkmKxEntryCodeSize ≤ text.kkmGuestEntryEnd then (-einval, entry, s)
  else
    let (ret, idt, s) := kkmMmAllocatePages entry.idt kkmIdtAllocationPages answer s
    if ret ≠ 0 then (ret, { entry with idt := idt }, s)
    else
      let entry := entry.setPages idt
      let m := kkmMmuSetKxGlobalInfoAt kx entry.idt.pa entry.idtTextPage0.pa
        entry.idtTextPage1.pa entry.kxGlobal.pa s.mem
      let entry := { entry with
        nativeIdtDesc := nativeIdtDesc
        guestIdtDesc := ⟨nativeIdtDesc.size, BitVec.ofNat 64 kkmMmuGetIdtVa⟩ }
      let image := kxPages text (m.image entry.idt.va)
      (0, entry, { s with
        mem := m.storeImage entry.idt.va (kkmIdtAllocationPages * pageSize) image })

/-! ## What the pages hold -/

theorem idtGates_length (text : ModuleText) : (idtGates text).length = kkmIdtSize := by
  rw [idtGates, length_flatMap_const fun _ => GateStruct.bytes_length _, List.length_range]
  rfl

/-- The copied code: interrupt code, then entry code. -/
def copiedCode (text : ModuleText) (i : Nat) : BitVec 8 :=
  if i < kkmKxIntrCodeSize then text.intrCode i
  else text.entryCode (i - kkmKxIntrCodeSize)

theorem fillKxPages_code
    (text : ModuleText) (image : Nat → BitVec 8) {i : Nat} (hi : i < kkmIdtCodeSize) :
    fillKxPages text image (kkmIdtSize + i) = copiedCode text i := by
  simp only [kkmIdtCodeSize] at hi
  have hglobal : kkmIdtSize + i < kkmIdtSize + kkmIdtCodeSize := by
    simp only [kkmIdtSize, kkmIdtCodeSize]
    omega
  rw [fillKxPages, overlay_of_outside (Or.inl hglobal),
    overlay_of_outside (Or.inl hglobal), copiedCode]
  split
  · rename_i hintr
    rw [overlay_of_outside (by omega), overlay_of_lt _ _ (by simpa using hintr),
      imageBytes_getD _ _ hintr, Nat.zero_add]
  · rename_i hintr
    obtain ⟨k, rfl⟩ := Nat.exists_eq_add_of_le (Nat.le_of_not_lt hintr)
    have hk : k < kkmKxEntryCodeSize := by
      simp only [kkmKxIntrCodeSize, kkmKxEntryCodeSize] at hi ⊢
      omega
    rw [← Nat.add_assoc, overlay_of_lt _ _ (by simpa using hk),
      imageBytes_getD _ _ hk, Nat.zero_add, Nat.add_sub_cancel_left]

theorem fillKxPages_gates
    (text : ModuleText) (image : Nat → BitVec 8) {i : Nat} (hi : i < kkmIdtSize) :
    fillKxPages text image i = (idtGates text).getD i 0 := by
  have hlen := idtGates_length text
  have hgate : overlay image 0 (idtGates text) (0 + i) = (idtGates text).getD i 0 :=
    overlay_of_lt image 0 (by omega)
  rw [Nat.zero_add] at hgate
  rw [fillKxPages, overlay_of_outside (by omega), overlay_of_outside (by omega),
    overlay_of_outside (by omega), overlay_of_outside (by omega), hgate]

theorem fillKxPages_global
    (text : ModuleText) (image : Nat → BitVec 8) {i : Nat} (hi : i < 8) :
    fillKxPages text image (kkmIdtSize + kkmIdtCodeSize + i) =
      (wordBytes text.kkmSwitchToHostKernel).getD i 0 := by
  rw [fillKxPages, overlay_of_lt _ _ (by simpa using hi)]

section Replacement

variable (text : ModuleText) (label : Nat) (opcode replacement : List (BitVec 8))
variable (image : Nat → BitVec 8)

/-- Only the replacement and the address after it are stored. -/
theorem replaceRipRelative_of_not_mem
    {i : Nat} (hi : i < kkmIdtSize + label ∨
      kkmIdtSize + label + (replacement.length + 4) ≤ i) :
    replaceRipRelative text label opcode replacement image i = image i := by
  unfold replaceRipRelative
  split
  · rw [overlay_of_outside (by rw [toBytes_length]; omega),
      overlay_of_outside (by omega)]
  · rfl

/-- The bytes of the new instruction. -/
theorem replaceRipRelative_window
    {disp : BitVec 32}
    (hop : imageBytes text.intrCode label opcode.length = opcode)
    (hdisp : imageBytes text.intrCode (label + opcode.length) 4 =
      toBytes 4 disp.toNat) :
    let target := text.kkmIntrEntry0 + BitVec.ofNat 64 (label + (opcode.length + 4)) +
      disp.signExtend 64
    imageBytes (replaceRipRelative text label opcode replacement image)
        (kkmIdtSize + label) (replacement.length + 4) =
      replacement ++ toBytes 4 (target.setWidth 32).toNat := by
  intro target
  have hlen : replacement.length + 4 =
      (replacement ++ toBytes 4 (target.setWidth 32).toNat).length := by simp
  simp only [replaceRipRelative, if_pos hop, hdisp, X86.ofBytes_toBytes_disp]
  rw [overlay_append, X86.setWidth_add_extend, hlen]
  exact imageBytes_overlay _ _ _

end Replacement

/-! ## The gates -/

theorem intrEntryAddr_eq (text : ModuleText) (vector : Nat) :
    intrEntryAddr text vector = BitVec.ofNat 64 (kkmIdtCodeStartVa + text.stub vector) := by
  have hzero : text.stub 0 = 0 := text.kkmIntrEntry_zero
  rw [intrEntryAddr, intrFunctionPointers, intrFunctionPointers, hzero,
    BitVec.add_zero, BitVec.ofNat_add, ← BitVec.add_assoc,
    BitVec.add_comm _ text.kkmIntrEntry0, BitVec.add_assoc,
    BitVec.add_comm text.kkmIntrEntry0, BitVec.add_sub_cancel]

/-- A gate leads to the copy of its stub. -/
theorem idtGate_offset (text : ModuleText) (vector : Nat) :
    (idtGate text vector).offset =
      BitVec.ofNat 64 (kkmIdtCodeStartVa + text.stub vector) := by
  rw [← intrEntryAddr_eq]
  apply BitVec.eq_of_getLsbD_eq
  intro i hi
  simp only [GateStruct.offset, idtGate, BitVec.getLsbD_append, BitVec.getLsbD_setWidth,
    BitVec.getLsbD_ushiftRight]
  by_cases hlow : i < 16
  · simp [hlow]
  by_cases hmiddle : i - 16 < 16
  · have hback : 16 + (i - 16) = i := by omega
    simp [hlow, hmiddle, hback]
  · have hback : 32 + (i - 16 - 16) = i := by omega
    have hhigh : i - 16 - 16 < 32 := by omega
    simp [hlow, hmiddle, hback, hhigh]

/-- The first page is the table of the gates. -/
theorem kxPages_gate
    (text : ModuleText) (image : Nat → BitVec 8) {vector k : Nat}
    (hvector : vector < nrVectors) (hk : k < 16) :
    kxPages text image (16 * vector + k) = (idtGate text vector).bytes.getD k 0 := by
  have hin : 16 * vector + k < kkmIdtSize := by
    simp only [nrVectors, kkmIdtSize] at hvector ⊢
    omega
  have hbelow : ∀ label opcode replacement image,
      replaceRipRelative text label opcode replacement image (16 * vector + k) =
        image (16 * vector + k) :=
    fun label opcode replacement image =>
      replaceRipRelative_of_not_mem text label opcode replacement image (by omega)
  rw [kxPages, replaceLabel3, hbelow, replaceLabel2, hbelow, replaceLabel1, hbelow,
    fillKxPages_gates text image hin, idtGates]
  exact getD_flatMap_range (fun _ => GateStruct.bytes_length _) hvector hk 0

/-! ## Success and failure -/

section Init

variable (text : ModuleText) (nativeIdtDesc : DescPtr) (kx : KkmMmuPml4e)
variable (entry : KkmIdtEntry) (s : PageState)

/-- Both pieces of code are shorter than their part of the text pages. -/
def ModuleText.Fits : Prop :=
  text.kkmIntrFill < kkmKxIntrCodeSize ∧ text.kkmGuestEntryEnd < kkmKxEntryCodeSize

instance : Decidable text.Fits := inferInstanceAs (Decidable (_ ∧ _))

/-- The call that gets its pages. -/
theorem kkmIdtDescrInit_some (hfits : text.Fits) (skip : Nat) :
    kkmIdtDescrInit text nativeIdtDesc kx entry (some skip) s =
      let frame := s.pool.next + skip
      let va := frame * pageSize
      let entry' : KkmIdtEntry := { entry.setPages ⟨some frame, va, va⟩ with
        nativeIdtDesc := nativeIdtDesc
        guestIdtDesc := ⟨nativeIdtDesc.size, BitVec.ofNat 64 kkmMmuGetIdtVa⟩ }
      let m := kkmMmuSetKxGlobalInfoAt kx entry'.idt.pa entry'.idtTextPage0.pa
        entry'.idtTextPage1.pa entry'.kxGlobal.pa
        (zeroBlock (s.pool.offer skip 2) s.mem)
      (0, entry', ⟨s.pool.take skip 2,
        m.storeImage va (kkmIdtAllocationPages * pageSize)
          (kxPages text (m.image va))⟩) := by
  have hcount : kkmIdtAllocationPages ≠ 0 := by decide
  have horder : orderBase2 kkmIdtAllocationPages = 2 := by decide
  rw [kkmIdtDescrInit, if_neg (Nat.not_le.mpr hfits.1), if_neg (Nat.not_le.mpr hfits.2),
    kkmMmAllocatePages_some _ hcount, horder]
  rfl

/-- Success takes code that fits and the pages. -/
theorem kkmIdtDescrInit_zero_iff (answer : Option Nat) :
    (kkmIdtDescrInit text nativeIdtDesc kx entry answer s).1 = 0 ↔
      text.Fits ∧ answer ≠ none := by
  by_cases hfits : text.Fits
  · cases answer with
    | none =>
        have hcount : kkmIdtAllocationPages ≠ 0 := by decide
        rw [kkmIdtDescrInit, if_neg (Nat.not_le.mpr hfits.1),
          if_neg (Nat.not_le.mpr hfits.2), kkmMmAllocatePages_none _ hcount]
        simp [enomem]
    | some skip =>
        rw [kkmIdtDescrInit_some text nativeIdtDesc kx entry s hfits]
        simp [hfits]
  · refine iff_of_false ?_ fun h => hfits h.1
    rw [ModuleText.Fits, not_and_or, Nat.not_lt, Nat.not_lt] at hfits
    unfold kkmIdtDescrInit
    split
    · simp [einval]
    · rename_i hintr
      rw [if_pos (hfits.resolve_left hintr)]
      simp [einval]

section Success

variable {text nativeIdtDesc kx entry s}
variable {answer : Option Nat} {entry' : KkmIdtEntry} {s' : PageState}

/-- A success has got its pages. -/
theorem kkmIdtDescrInit_granted
    (hok : kkmIdtDescrInit text nativeIdtDesc kx entry answer s = (0, entry', s')) :
    text.Fits ∧ ∃ skip, answer = some skip := by
  have hzero : (kkmIdtDescrInit text nativeIdtDesc kx entry answer s).1 = 0 := by
    rw [hok]
  obtain ⟨hfits, hanswer⟩ :=
    (kkmIdtDescrInit_zero_iff text nativeIdtDesc kx entry s answer).mp hzero
  exact ⟨hfits, Option.ne_none_iff_exists'.mp hanswer⟩

/-- After a success the four pages hold their image. -/
theorem kkmIdtDescrInit_bytes
    (hok : kkmIdtDescrInit text nativeIdtDesc kx entry answer s = (0, entry', s')) :
    entry'.idtTextPage0.va = entry'.idt.va + kkmIdtSize ∧
      ∃ image, ∀ i < kkmIdtAllocationPages * pageSize,
        s'.mem.byte (entry'.idt.va + i) = kxPages text image i := by
  obtain ⟨hfits, skip, rfl⟩ := kkmIdtDescrInit_granted hok
  rw [kkmIdtDescrInit_some text nativeIdtDesc kx entry s hfits] at hok
  simp only [Prod.mk.injEq, true_and] at hok
  obtain ⟨rfl, rfl⟩ := hok
  refine ⟨rfl, _, fun i hi => Memory.byte_storeImage _ _ ?_ (by decide) hi⟩
  exact Dvd.dvd.mul_left (by decide) _

/-- The descriptor of the guest names the table at its address in the kx area. -/
theorem kkmIdtDescrInit_guestIdtDesc
    (hok : kkmIdtDescrInit text nativeIdtDesc kx entry answer s = (0, entry', s')) :
    entry'.guestIdtDesc = ⟨nativeIdtDesc.size, BitVec.ofNat 64 kkmMmuGetIdtVa⟩ := by
  obtain ⟨hfits, skip, rfl⟩ := kkmIdtDescrInit_granted hok
  rw [kkmIdtDescrInit_some text nativeIdtDesc kx entry s hfits] at hok
  simp only [Prod.mk.injEq, true_and] at hok
  rw [← hok.1]

end Success

end Init

end Driver
end KkmModule
