import KkmModule.Driver.IoctlRecords
import KkmModule.Foundation.BlockPool
import KkmModule.Foundation.PageWalk

/-!
# Kernel-side structures

The structures of `kkm.h`, `kkm_mmu.h` and `kkm_kontext.h`.

A kernel address of the direct map is represented by the physical address it
maps, so the `va` of a page and its `pa` are the same number and
`phys_to_virt` and `virt_to_phys` are the identity.  A `struct page` pointer is
represented by the number of its page frame.

The pages a kontext owns are kept in two parts: the page bookkeeping, as in the
source, and the contents of the pages (`ga`, `payloadXsave`, `run`,
`privateArea`).  A kontext is stored in the slot of `kontext[]` that points to
it, so the pair of kkm and slot number stands for its address.
-/

namespace KkmModule
namespace Driver

open Foundation

/-- Settings fixed when the module is built, loaded or attached to a kernel. -/
structure KkmConfig where
  /-- `pgtable_l5_enabled()` -/
  l5 : Bool
  /-- `KM_GPA_AT_16T` is defined -/
  gpaAt16T : Bool
  /-- `kkm_cpu_full_tlb_flush` -/
  cpuFullTlbFlush : Bool
  /-- `kkm_xs_format` -/
  xsFormat : KkmXstateFormat
deriving DecidableEq, Repr

/-- 4-level paging, PCIDs in use, guest memory at the bottom of the monitor. -/
def KkmConfig.stock : KkmConfig := ⟨false, false, false, .xsaves⟩

/-- `struct kkm_mmu_page_info`. -/
structure KkmMmuPageInfo where
  page : Option Nat
  va : Nat
  pa : Nat
deriving DecidableEq, Repr

def KkmMmuPageInfo.zeroed : KkmMmuPageInfo := ⟨none, 0, 0⟩

/-- `struct kkm_mmu_pml4e`. -/
structure KkmMmuPml4e where
  pgdEntry : BitVec 64
  pud : KkmMmuPageInfo
  pmd : KkmMmuPageInfo
  pt : KkmMmuPageInfo
deriving DecidableEq, Repr

def KkmMmuPml4e.zeroed : KkmMmuPml4e := ⟨0, .zeroed, .zeroed, .zeroed⟩

/-- `struct kkm_mem_slot`. -/
structure KkmMemSlot where
  used : Bool
  npages : BitVec 64
  userPfn : BitVec 64
  mr : KkmMemoryRegion
deriving DecidableEq, Repr

def KkmMemSlot.zeroed : KkmMemSlot := ⟨false, 0, 0, .zeroed⟩

/-- `struct kkm_kontext_mmap_area`; `kvaddr` is 0 when no page is mapped. -/
structure KkmKontextMmapArea where
  page : Option Nat
  kvaddr : Nat
  offset : Nat
deriving DecidableEq, Repr

def KkmKontextMmapArea.zeroed : KkmKontextMmapArea := ⟨none, 0, 0⟩

/-- `KKM_CONTEXT_MAP_PAGE_COUNT` -/
abbrev kkmContextMapPageCount : Nat := 3

/-- `struct kkm_trap_info`. -/
structure KkmTrapInfo where
  error : BitVec 64
  rip : BitVec 64
  cs : BitVec 64
  rflags : BitVec 64
  rsp : BitVec 64
  ss : BitVec 64
deriving DecidableEq, Repr

def KkmTrapInfo.zeroed : KkmTrapInfo := ⟨0, 0, 0, 0, 0, 0⟩

/-- `struct kkm_guest_area`, the part kept in registers of the payload and in
the fields that C code reads. -/
structure KkmGuestArea where
  guestAreaBeg : Nat
  guestKernelCr3 : BitVec 64
  guestKernelCr4 : BitVec 64
  guestPayloadCr3 : BitVec 64
  cpu : BitVec 64
  guestPayloadCs : BitVec 64
  guestPayloadSs : BitVec 64
  regs : KkmRegs
  sregs : KkmSregs
  debug : KkmDebug
  fpu : KkmFpu
  trapInfo : KkmTrapInfo
  intrNo : BitVec 64
  /-- `instruction_decode[0]`; the source uses no other byte of the buffer -/
  instructionDecode : BitVec 8

def KkmGuestArea.zeroed : KkmGuestArea where
  guestAreaBeg := 0
  guestKernelCr3 := 0
  guestKernelCr4 := 0
  guestPayloadCr3 := 0
  cpu := 0
  guestPayloadCs := 0
  guestPayloadSs := 0
  regs := .zeroed
  sregs := .zeroed
  debug := .zeroed
  fpu := .zeroed
  trapInfo := .zeroed
  intrNo := 0
  instructionDecode := 0

/-- `struct kkm_kontext`. -/
structure KkmKontext where
  id : BitVec 64
  index : BitVec 64
  used : Bool
  firstThread : Bool
  newThread : Bool
  debugRegistersSet : Bool
  kontextFd : Int
  task : Nat
  mmapArea : Fin kkmContextMapPageCount → KkmKontextMmapArea
  guestAreaPage : Option Nat
  guestArea : Nat
  guestAreaPage0Pa : Nat
  guestAreaPage1Pa : Nat
  xsave : KkmMmuPageInfo
  kkmKernelXsave : Nat
  kkmPayloadXsave : Nat
  validPayloadXsaveArea : Bool
  syscallPending : Bool
  retValMva : BitVec 64
  exceptionPosted : Bool
  exceptionSavedRax : BitVec 64
  exceptionSavedRbx : BitVec 64
  trapAddr : BitVec 64
  errorCode : BitVec 64
  prevTrapNo : BitVec 64
  prevTrapAddr : BitVec 64
  prevErrorCode : BitVec 64
  trapRepeatCounter : BitVec 64
  /-- contents of the guest area -/
  ga : KkmGuestArea
  /-- contents of the payload xsave page -/
  payloadXsave : Nat → BitVec 8
  /-- contents of the first mmap page -/
  run : KkmRun
  /-- contents of the second mmap page -/
  privateArea : KkmPrivateArea

/-- A kontext as `kzalloc` returns it. -/
def KkmKontext.zeroed : KkmKontext where
  id := 0
  index := 0
  used := false
  firstThread := false
  newThread := false
  debugRegistersSet := false
  kontextFd := 0
  task := 0
  mmapArea := fun _ => .zeroed
  guestAreaPage := none
  guestArea := 0
  guestAreaPage0Pa := 0
  guestAreaPage1Pa := 0
  xsave := .zeroed
  kkmKernelXsave := 0
  kkmPayloadXsave := 0
  validPayloadXsaveArea := false
  syscallPending := false
  retValMva := 0
  exceptionPosted := false
  exceptionSavedRax := 0
  exceptionSavedRbx := 0
  trapAddr := 0
  errorCode := 0
  prevTrapNo := 0
  prevTrapAddr := 0
  prevErrorCode := 0
  trapRepeatCounter := 0
  ga := .zeroed
  payloadXsave := fun _ => 0
  run := .zeroed
  privateArea := .zeroed

/-- A `struct mutex`: whether `mutex_init` has run, and the thread holding it. -/
structure Mutex where
  initialised : Bool
  holder : Option Nat
deriving DecidableEq, Repr

def Mutex.zeroed : Mutex := ⟨false, none⟩

/-- `mutex_init` -/
def Mutex.init : Mutex := ⟨true, none⟩

/-- `struct kkm`. -/
structure Kkm where
  id : BitVec 64
  kontainerFd : Int
  referenceCount : Int
  mm : Nat
  memLock : Mutex
  memSlotCount : BitVec 32
  memSlot : Fin kkmMaxMemorySlots → KkmMemSlot
  idMapAddr : BitVec 64
  kontextLock : Mutex
  kontextCount : BitVec 32
  kontext : Fin kkmMaxContexts → Option KkmKontext
  pfLock : Mutex
  gkPgd : KkmMmuPageInfo
  gpPgd : KkmMmuPageInfo
  gkP4d : KkmMmuPageInfo
  gpP4d : KkmMmuPageInfo
  lowP4d : KkmMmuPageInfo
  kkmGuestPml4e : KkmMmuPml4e

/-- A kkm as `kzalloc` returns it. -/
def Kkm.zeroed : Kkm where
  id := 0
  kontainerFd := 0
  referenceCount := 0
  mm := 0
  memLock := .zeroed
  memSlotCount := 0
  memSlot := fun _ => .zeroed
  idMapAddr := 0
  kontextLock := .zeroed
  kontextCount := 0
  kontext := fun _ => none
  pfLock := .zeroed
  gkPgd := .zeroed
  gpPgd := .zeroed
  gkP4d := .zeroed
  gpP4d := .zeroed
  lowP4d := .zeroed
  kkmGuestPml4e := .zeroed

end Driver
end KkmModule
