import KkmModule.Driver.MemoryPages

/-!
# Pages of a kontext

Allocation and release of what an execution kontext owns: the guest area, the
xsave pages and the three pages the monitor maps (`kkm_kontext.c`, and the mmap
pages from `kkm_main.c`).
-/

namespace KkmModule
namespace Driver

open Foundation

def kkmGuestAreaPages : Nat := 2
def kkmFpuXsaveAllocPages : Nat := 2

/-- `KKM_INVALID_CPU_ID` -/
def kkmInvalidCpuId : BitVec 64 := 0xFFFFFFFFFFFFFFFF#64

def pcidMask : BitVec 64 := 0xFFF#64
def guestKernelPcid : BitVec 64 := 0x7F#64
def guestPayloadPcid : BitVec 64 := 0xFF#64

/-- The tag of the translations that are cached under `CR3`. -/
def cr3Pcid (cr3 : BitVec 64) : BitVec 64 := cr3 &&& pcidMask

/-- The mask of the exit code keeps it. -/
theorem cr3Pcid_clear (cr3 : BitVec 64) :
    cr3Pcid (cr3 &&& 0xFFFFFFFFFFFFEFFF#64) = cr3Pcid cr3 := by
  have hmask : 0xFFFFFFFFFFFFEFFF#64 &&& pcidMask = pcidMask := by decide
  rw [cr3Pcid, BitVec.and_assoc, hmask, cr3Pcid]

/-- Answers of the page allocator in one `kkm_kontext_init`. -/
structure KontextInitAnswers where
  guestArea : Option Nat
  xsave : Option Nat
deriving DecidableEq, Repr

/-- The guest area as page bookkeeping. -/
def KkmKontext.guestAreaInfo (kontext : KkmKontext) : KkmMmuPageInfo :=
  ⟨kontext.guestAreaPage, kontext.guestArea, 0⟩

def kkmKontextCleanup (kontext : KkmKontext) (s : PageState) :
    KkmKontext × PageState :=
  let (kontext, s) :=
    if kontext.xsave.page ≠ none then
      ({ kontext with xsave := { kontext.xsave with page := none, va := 0 } },
        kkmMmFreePages kontext.xsave.va kkmFpuXsaveAllocPages s)
    else (kontext, s)
  if kontext.guestAreaPage ≠ none then
    ({ kontext with guestAreaPage := none, guestArea := 0 },
      kkmMmFreePages kontext.guestArea kkmGuestAreaPages s)
  else (kontext, s)

/-- The guest area a new kontext starts with. -/
def newGuestArea (cfg : KkmConfig) (kkm : Kkm) (guestArea : Nat) : KkmGuestArea :=
  let kernelCr3 := BitVec.ofNat 64 kkm.gkPgd.pa &&& ~~~pcidMask
  let payloadCr3 := BitVec.ofNat 64 kkm.gpPgd.pa &&& ~~~pcidMask
  { KkmGuestArea.zeroed with
    guestAreaBeg := guestArea
    guestKernelCr3 :=
      if cfg.cpuFullTlbFlush then kernelCr3 else kernelCr3 ||| guestKernelPcid
    guestPayloadCr3 :=
      if cfg.cpuFullTlbFlush then payloadCr3 else payloadCr3 ||| guestPayloadPcid
    cpu := kkmInvalidCpuId }

/-- `kkm_kontext_init` up to the allocation of the xsave area. -/
def kkmKontextInitGuestArea
    (cfg : KkmConfig) (kkm : Kkm) (answer : Option Nat)
    (kontext : KkmKontext) (s : PageState) :
    Int × KkmKontext × PageState :=
  let (ret, info, s) :=
    kkmMmAllocatePages kontext.guestAreaInfo kkmGuestAreaPages answer s
  let kontext := { kontext with guestAreaPage := info.page, guestArea := info.va }
  if ret ≠ 0 then (ret, kontext, s)
  else
    (0,
      { kontext with
        guestAreaPage0Pa := kontext.guestArea
        guestAreaPage1Pa := kontext.guestArea + pageSize
        ga := newGuestArea cfg kkm kontext.guestArea },
      s)

/-- The rest of `kkm_kontext_init` before its error label. -/
def kkmKontextInitXsave
    (answer : Option Nat) (kontext : KkmKontext) (s : PageState) :
    Int × KkmKontext × PageState :=
  let (ret, info, s) :=
    kkmMmAllocatePages kontext.xsave kkmFpuXsaveAllocPages answer s
  let kontext := { kontext with xsave := info }
  if ret ≠ 0 then (ret, kontext, s)
  else
    (0,
      { kontext with
        kkmKernelXsave := kontext.xsave.va
        kkmPayloadXsave := kontext.xsave.va + pageSize
        payloadXsave := fun _ => 0
        validPayloadXsaveArea := false
        newThread := true
        debugRegistersSet := false
        syscallPending := false
        retValMva := 0xFFFFFFFFFFFFFFFF#64
        exceptionPosted := false
        exceptionSavedRax := 0xFFFFFFFFFFFFFFFF#64
        exceptionSavedRbx := 0xFFFFFFFFFFFFFFFF#64 },
      s)

/-- `kkm_kontext_init` -/
def kkmKontextInit
    (cfg : KkmConfig) (kkm : Kkm) (a : KontextInitAnswers)
    (kontext : KkmKontext) (s : PageState) :
    Int × KkmKontext × PageState :=
  let (ret, kontext, s) :=
    kkmKontextInitGuestArea cfg kkm a.guestArea kontext s
  if ret ≠ 0 then (ret, kkmKontextCleanup kontext s)
  else
    let (ret, kontext, s) := kkmKontextInitXsave a.xsave kontext s
    if ret ≠ 0 then (ret, kkmKontextCleanup kontext s)
    else (0, kontext, s)

/-! ## The pages the monitor maps -/

/-- One turn of the allocation loop; the first component is false if there is no
page. -/
def allocMmapPage
    (i : Fin kkmContextMapPageCount) (answer : Option Nat)
    (kontext : KkmKontext) (s : PageState) :
    Bool × KkmKontext × PageState :=
  match allocPages 0 answer s with
  | none =>
      let area := { kontext.mmapArea i with offset := i.val, page := none }
      (false,
        { kontext with mmapArea := Function.update kontext.mmapArea i area }, s)
  | some (frame, s) =>
      (true,
        { kontext with
          mmapArea := Function.update kontext.mmapArea i
            ⟨some frame, frame * pageSize, i⟩
          run := if i = 0 then .zeroed else kontext.run
          privateArea := if i = 1 then .zeroed else kontext.privateArea },
        s)

/-- The allocation loop over the remaining indices. -/
def allocMmapPages
    (answers : Fin kkmContextMapPageCount → Option Nat) :
    List (Fin kkmContextMapPageCount) → KkmKontext → PageState →
      Bool × KkmKontext × PageState
  | [], kontext, s => (true, kontext, s)
  | i :: rest, kontext, s =>
      let (ok, kontext, s) := allocMmapPage i (answers i) kontext s
      if ok then allocMmapPages answers rest kontext s else (false, kontext, s)

/-- One turn of the loop of `kkm_execution_kontext_release`. -/
def freeMmapPage
    (i : Fin kkmContextMapPageCount) (kontext : KkmKontext) (s : PageState) :
    KkmKontext × PageState :=
  if (kontext.mmapArea i).kvaddr ≠ 0 then
    let area := { kontext.mmapArea i with kvaddr := 0 }
    ({ kontext with mmapArea := Function.update kontext.mmapArea i area },
      kkmMmFreePage (kontext.mmapArea i).kvaddr s)
  else (kontext, s)

def freeMmapPages :
    List (Fin kkmContextMapPageCount) → KkmKontext → PageState →
      KkmKontext × PageState
  | [], kontext, s => (kontext, s)
  | i :: rest, kontext, s =>
      let (kontext, s) := freeMmapPage i kontext s
      freeMmapPages rest kontext s

/-! ## When the steps succeed, and what they leave alone -/

section Outcome

variable (kontext : KkmKontext) (s : PageState)

theorem kkmKontextCleanup_used :
    (kkmKontextCleanup kontext s).1.used = kontext.used := by
  simp only [kkmKontextCleanup]
  split <;> split <;> rfl

theorem kkmKontextInitGuestArea_spec
    (cfg : KkmConfig) (kkm : Kkm) (answer : Option Nat) :
    let r := kkmKontextInitGuestArea cfg kkm answer kontext s
    (r.1 = 0 ↔ answer ≠ none) ∧ r.2.1.used = kontext.used := by
  have hiff := kkmMmAllocatePages_zero_iff kontext.guestAreaInfo
    (show kkmGuestAreaPages ≠ 0 by decide) answer s
  simp only [kkmKontextInitGuestArea]
  split
  · exact ⟨hiff, rfl⟩
  · rename_i hzero
    have hsome : answer ≠ none := hiff.mp (by simpa using hzero)
    exact ⟨by simp [hsome], rfl⟩

theorem kkmKontextInitXsave_spec (answer : Option Nat) :
    let r := kkmKontextInitXsave answer kontext s
    (r.1 = 0 ↔ answer ≠ none) ∧ r.2.1.used = kontext.used := by
  have hiff := kkmMmAllocatePages_zero_iff kontext.xsave
    (show kkmFpuXsaveAllocPages ≠ 0 by decide) answer s
  simp only [kkmKontextInitXsave]
  split
  · exact ⟨hiff, rfl⟩
  · rename_i hzero
    have hsome : answer ≠ none := hiff.mp (by simpa using hzero)
    exact ⟨by simp [hsome], rfl⟩

/-- `kkm_kontext_init` succeeds exactly when both allocations do. -/
theorem kkmKontextInit_spec
    (cfg : KkmConfig) (kkm : Kkm) (a : KontextInitAnswers) :
    let r := kkmKontextInit cfg kkm a kontext s
    (r.1 = 0 ↔ a.guestArea ≠ none ∧ a.xsave ≠ none) ∧
      r.2.1.used = kontext.used := by
  obtain ⟨hguest, husedGuest⟩ :=
    kkmKontextInitGuestArea_spec kontext s cfg kkm a.guestArea
  simp only [kkmKontextInit]
  split
  · rename_i hret
    refine ⟨?_, ?_⟩
    · constructor
      · exact fun h => absurd h hret
      · exact fun h => absurd (hguest.mpr h.1) hret
    · rw [kkmKontextCleanup_used, husedGuest]
  · rename_i hret
    have hguestSome := hguest.mp (by simpa using hret)
    obtain ⟨hxsave, husedXsave⟩ := kkmKontextInitXsave_spec
      (kkmKontextInitGuestArea cfg kkm a.guestArea kontext s).2.1
      (kkmKontextInitGuestArea cfg kkm a.guestArea kontext s).2.2 a.xsave
    split
    · rename_i hret'
      refine ⟨?_, ?_⟩
      · constructor
        · exact fun h => absurd h hret'
        · exact fun h => absurd (hxsave.mpr h.2) hret'
      · rw [kkmKontextCleanup_used, husedXsave, husedGuest]
    · rename_i hret'
      have hxsaveSome := hxsave.mp (by simpa using hret')
      exact ⟨by simp [hguestSome, hxsaveSome], husedXsave.trans husedGuest⟩

/-- A successful first part leaves a guest area, and the mmap pages alone. -/
theorem kkmKontextInitGuestArea_pages
    (cfg : KkmConfig) (kkm : Kkm) (answer : Option Nat) :
    let r := kkmKontextInitGuestArea cfg kkm answer kontext s
    (r.1 = 0 → r.2.1.guestAreaPage ≠ none) ∧
      r.2.1.mmapArea = kontext.mmapArea := by
  have hcount : kkmGuestAreaPages ≠ 0 := by decide
  cases answer with
  | none =>
      simp [kkmKontextInitGuestArea,
        kkmMmAllocatePages_none kontext.guestAreaInfo hcount s, enomem]
  | some skip =>
      simp [kkmKontextInitGuestArea,
        kkmMmAllocatePages_some kontext.guestAreaInfo hcount skip s]

/-- A successful second part leaves the xsave pages, and the others alone. -/
theorem kkmKontextInitXsave_pages (answer : Option Nat) :
    let r := kkmKontextInitXsave answer kontext s
    (r.1 = 0 → r.2.1.xsave.page ≠ none) ∧
      r.2.1.guestAreaPage = kontext.guestAreaPage ∧
      r.2.1.mmapArea = kontext.mmapArea := by
  have hcount : kkmFpuXsaveAllocPages ≠ 0 := by decide
  cases answer with
  | none =>
      simp [kkmKontextInitXsave,
        kkmMmAllocatePages_none kontext.xsave hcount s, enomem]
  | some skip =>
      simp [kkmKontextInitXsave,
        kkmMmAllocatePages_some kontext.xsave hcount skip s]

theorem freeMmapPage_used (j : Fin kkmContextMapPageCount) :
    (freeMmapPage j kontext s).1.used = kontext.used := by
  unfold freeMmapPage
  split
  · rfl
  · rfl

theorem allocMmapPage_spec
    (i : Fin kkmContextMapPageCount) (answer : Option Nat) :
    let r := allocMmapPage i answer kontext s
    (r.1 = true ↔ answer ≠ none) ∧ r.2.1.used = kontext.used := by
  cases answer with
  | none => exact ⟨by simp [allocMmapPage, allocPages], rfl⟩
  | some skip => exact ⟨by simp [allocMmapPage, allocPages], rfl⟩

/-- The loop runs to its end exactly when no page is missing. -/
theorem allocMmapPages_spec
    (answers : Fin kkmContextMapPageCount → Option Nat)
    (is : List (Fin kkmContextMapPageCount)) :
    let r := allocMmapPages answers is kontext s
    (r.1 = true ↔ ∀ i ∈ is, answers i ≠ none) ∧ r.2.1.used = kontext.used := by
  induction is generalizing kontext s with
  | nil => exact ⟨by simp [allocMmapPages], rfl⟩
  | cons i is ih =>
      obtain ⟨hi, hused⟩ := allocMmapPage_spec kontext s i (answers i)
      simp only [allocMmapPages, List.forall_mem_cons]
      split
      · rename_i hok
        obtain ⟨hrest, hused'⟩ := ih (allocMmapPage i (answers i) kontext s).2.1
          (allocMmapPage i (answers i) kontext s).2.2
        refine ⟨?_, hused'.trans hused⟩
        rw [hrest]
        exact ⟨fun h => ⟨hi.mp hok, h⟩, fun h => h.2⟩
      · rename_i hok
        refine ⟨?_, hused⟩
        constructor
        · intro h
          cases h
        · intro h
          exact absurd (hi.mpr h.1) hok

end Outcome

end Driver
end KkmModule
