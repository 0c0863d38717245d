import KkmModule.Driver.Kontainer
import KkmModule.Driver.Kontext
import KkmModule.Driver.MemorySlots
import KkmModule.Foundation.SlotTable

/-!
# Life of kontainers and kontexts (`kkm_main.c`)

Creation of a kontainer, `KKM_ADD_EXECUTION_CONTEXT`, and the release functions
that closing a file runs, each as one uninterrupted call.  What the kernel
answers to an allocation or to `anon_inode_getfd` is an input.

A `KontainerState` is a kkm together with the open files whose private data
lead to it.  File descriptors name installations and are never reused.
-/

namespace KkmModule
namespace Driver

open Foundation

def emfile : Int := 24

/-- What the private data of a file points to: the kkm or one of its kontexts. -/
inductive FileTarget where
  | kontainer
  | kontext (i : Fin kkmMaxContexts)
deriving DecidableEq

structure OpenFile where
  fd : Nat
  target : FileTarget
deriving DecidableEq

/-- A kkm with the installed files that lead to it. -/
structure KontainerState where
  /-- `none` before the allocation and after `kkm_destroy_app` -/
  kkm : Option Kkm
  files : List OpenFile
  /-- a file descriptor has been installed for this kkm -/
  opened : Bool
  /-- `kkm_destroy_app` has run for this kkm -/
  destroyed : Bool

def KontainerState.absent : KontainerState := ⟨none, [], false, false⟩

/-- State shared by all kontainers. -/
structure KernelState where
  pages : PageState
  nextFd : Nat
  kkmObjectId : BitVec 64

/-! ## Reference counts -/

/-- `REFCOUNT_SATURATED` -/
def refcountSaturated : Int := -1073741824

def refcountMax : Int := 2147483647

/-- `refcount_inc` -/
def refcountInc (count : Int) : Int :=
  if count ≤ 0 ∨ refcountMax ≤ count then refcountSaturated else count + 1

/-- `refcount_dec_and_test`: whether the count dropped to zero, and the count. -/
def refcountDecAndTest (count : Int) : Bool × Int :=
  if count = 1 then (true, 0)
  else if count ≤ 0 then (false, refcountSaturated)
  else (false, count - 1)

def kkmReferenceCountInit (kkm : Kkm) : Kkm := { kkm with referenceCount := 1 }

def kkmReferenceCountUp (kkm : Kkm) : Kkm :=
  { kkm with referenceCount := refcountInc kkm.referenceCount }

/-- `kkm_destroy_app`: the pages of the kkm go back, the kkm and its kontexts
are freed. -/
def kkmDestroyApp (kkm : Kkm) (k : KontainerState) (g : KernelState) :
    KontainerState × KernelState :=
  ({ k with kkm := none, destroyed := true },
    { g with pages := (kkmKontainerCleanup kkm g.pages).2 })

def kkmReferenceCountDown (kkm : Kkm) (k : KontainerState) (g : KernelState) :
    KontainerState × KernelState :=
  let (last, count) := refcountDecAndTest kkm.referenceCount
  let kkm := { kkm with referenceCount := count }
  if last then kkmDestroyApp kkm k g else ({ k with kkm := some kkm }, g)

/-! ## Creation of a kontainer -/

/-- What the kernel answers during one `kkm_create_kontainer`. -/
structure CreateAnswers where
  kzalloc : Bool
  getfd : Bool
  /-- `current->mm` -/
  currentMm : Nat
  /-- `current->mm->pgd` -/
  currentPgd : Nat
  init : KontainerInitAnswers

/-- `kkm_create_kontainer` after the file descriptor is installed: result, kkm
and pages. -/
def kkmCreateKontainerBody
    (cfg : KkmConfig) (kx : KkmMmuPml4e) (a : CreateAnswers)
    (objectId : BitVec 64) (kkm : Kkm) (s : PageState) :
    Int × Kkm × PageState :=
  let kkm := { kkm with id := objectId, mm := a.currentMm }
  let (ret, kkm, s) := kkmKontainerInit cfg kx a.init kkm s
  if ret ≠ 0 then (ret, kkm, s)
  else
    let (ret, m) := kkmMmuCopyKernelPgd cfg kx a.currentPgd kkm.gkPgd.va
      kkm.gpPgd.va kkm.gkP4d.va kkm.gpP4d.va s.mem
    let s := { s with mem := m }
    if ret ≠ 0 then (ret, kkm, s)
    else (kkm.kontainerFd, kkmReferenceCountInit kkm, s)

/-- `kkm_create_kontainer` -/
def kkmCreateKontainer
    (cfg : KkmConfig) (kx : KkmMmuPml4e) (a : CreateAnswers) (g : KernelState) :
    Int × KontainerState × KernelState :=
  if a.kzalloc = false then (-enomem, .absent, g)
  else if a.getfd = false then
    (-emfile,
      { KontainerState.absent with
        kkm := some { Kkm.zeroed with kontainerFd := -emfile } },
      g)
  else
    let fd := g.nextFd
    let objectId := g.kkmObjectId + 1#64
    let (ret, kkm, s) := kkmCreateKontainerBody cfg kx a objectId
      { Kkm.zeroed with kontainerFd := fd } g.pages
    (ret,
      { kkm := some kkm
        files := [⟨fd, .kontainer⟩]
        opened := true
        destroyed := false },
      ⟨s, fd + 1, objectId⟩)

/-! ## Creation of a kontext -/

/-- What the kernel answers during one `kkm_add_execution_kontext`. -/
structure AddAnswers where
  /-- `current->mm` -/
  currentMm : Nat
  /-- `current` -/
  task : Nat
  kzalloc : Bool
  getfd : Bool
  mmap : Fin kkmContextMapPageCount → Option Nat
  init : KontextInitAnswers

/-- An entry of `kontext[]` that the slot search passes over. -/
def entryUsed : Option KkmKontext → Bool
  | none => false
  | some kontext => kontext.used

/-- Index at which the slot search stops, if it is below the end of the table. -/
def freeSlot (kkm : Kkm) : Option (Fin kkmMaxContexts) :=
  firstFree entryUsed kkm.kontext

def Kkm.setKontext (kkm : Kkm) (i : Fin kkmMaxContexts) (kontext : KkmKontext) :
    Kkm :=
  { kkm with kontext := Function.update kkm.kontext i (some kontext) }

/-- The fields set before the file descriptor is installed. -/
def claimKontext
    (kkm : Kkm) (vcpuId : BitVec 32) (task : Nat) (objectId : BitVec 64)
    (kontext : KkmKontext) : KkmKontext :=
  { kontext with
    id := objectId
    index := vcpuId.setWidth 64
    used := true
    firstThread := kkm.kontextCount == 0#32
    task := task }

/-- `kkm_add_execution_kontext` after `anon_inode_getfd`: pages, initialisation,
reference and count. -/
def kkmAddExecutionKontextBody
    (cfg : KkmConfig) (a : AddAnswers) (i : Fin kkmMaxContexts)
    (kkm : Kkm) (kontext : KkmKontext) (ret : Int) (s : PageState) :
    Int × Kkm × PageState :=
  let (ok, kontext, s) :=
    allocMmapPages a.mmap (List.finRange kkmContextMapPageCount) kontext s
  if ok = false then (-enomem, kkm.setKontext i kontext, s)
  else
    let (err, kontext, s) := kkmKontextInit cfg kkm a.init kontext s
    let kkm := kkm.setKontext i kontext
    if err ≠ 0 then (ret, kkm, s)
    else
      let kkm := kkmReferenceCountUp kkm
      (ret, { kkm with kontextCount := kkm.kontextCount + 1#32 }, s)

/-- The refusals at the start of `kkm_add_execution_kontext`. -/
def addIsRefused (kkm : Kkm) (vcpuId : BitVec 32) (a : AddAnswers) : Bool :=
  kkm.mm != a.currentMm || decide (vcpuId.toNat ≥ kkmMaxContexts) ||
    decide (kkm.kontextCount.toNat ≥ kkmMaxContexts)

/-- `kkm_add_execution_kontext` once the slot is chosen and its kontext there. -/
def kkmAddExecutionKontextAt
    (cfg : KkmConfig) (vcpuId : BitVec 32) (a : AddAnswers)
    (i : Fin kkmMaxContexts) (kontext : KkmKontext) (kkm : Kkm)
    (k : KontainerState) (g : KernelState) :
    Int × KontainerState × KernelState :=
  let objectId := g.kkmObjectId + 1#64
  let kontext := claimKontext kkm vcpuId a.task objectId kontext
  if a.getfd then
    let fd := g.nextFd
    let (ret, kkm, s) := kkmAddExecutionKontextBody cfg a i kkm
      { kontext with kontextFd := fd } fd g.pages
    (ret, { k with kkm := some kkm, files := ⟨fd, .kontext i⟩ :: k.files },
      ⟨s, fd + 1, objectId⟩)
  else
    -- the result of the call stays 0
    let (ret, kkm, s) := kkmAddExecutionKontextBody cfg a i kkm
      { kontext with kontextFd := -emfile } 0 g.pages
    (ret, { k with kkm := some kkm }, ⟨s, g.nextFd, objectId⟩)

/-- `kkm_add_execution_kontext` -/
def kkmAddExecutionKontext
    (cfg : KkmConfig) (vcpuId : BitVec 32) (a : AddAnswers)
    (k : KontainerState) (g : KernelState) :
    Except KernelFault (Int × KontainerState × KernelState) :=
  match k.kkm with
  | none => .error .danglingKkm
  | some kkm =>
      if addIsRefused kkm vcpuId a then .ok (-einval, k, g)
      else
        match freeSlot kkm with
        | none => .error (.kontextIndex kkmMaxContexts)
        | some i =>
            match kkm.kontext i with
            | some kontext =>
                .ok (kkmAddExecutionKontextAt cfg vcpuId a i kontext kkm k g)
            | none =>
                if a.kzalloc then
                  .ok (kkmAddExecutionKontextAt cfg vcpuId a i .zeroed kkm k g)
                else .ok (-enomem, k, g)

/-! ## Closing files -/

/-- `kkm_execution_kontext_release` before it takes `kontext_lock`. -/
def releaseKontextPages (kontext : KkmKontext) (s : PageState) :
    KkmKontext × PageState :=
  let (kontext, s) := kkmKontextCleanup kontext s
  let (kontext, s) :=
    freeMmapPages (List.finRange kkmContextMapPageCount) kontext s
  ({ kontext with used := false, firstThread := false }, s)

/-- `kkm_execution_kontext_release` -/
def kkmExecutionKontextRelease
    (i : Fin kkmMaxContexts) (k : KontainerState) (g : KernelState) :
    Except KernelFault (KontainerState × KernelState) :=
  match k.kkm with
  | none => .error .danglingKkm
  | some kkm =>
      match kkm.kontext i with
      | none => .error .danglingKkm
      | some kontext =>
          let (kontext, s) := releaseKontextPages kontext g.pages
          let kkm := kkm.setKontext i kontext
          let kkm := { kkm with kontextCount := kkm.kontextCount - 1#32 }
          .ok (kkmReferenceCountDown kkm k { g with pages := s })

/-- `kkm_kontainer_release` -/
def kkmKontainerRelease (k : KontainerState) (g : KernelState) :
    Except KernelFault (KontainerState × KernelState) :=
  match k.kkm with
  | none => .error .danglingKkm
  | some kkm => .ok (kkmReferenceCountDown kkm k g)

/-- `close(file.fd)` for an installed file: the descriptor is gone, then the
release function of the file runs. -/
def closeFile (file : OpenFile) (k : KontainerState) (g : KernelState) :
    Except KernelFault (KontainerState × KernelState) :=
  let k := { k with files := k.files.erase file }
  match file.target with
  | .kontainer => kkmKontainerRelease k g
  | .kontext i => kkmExecutionKontextRelease i k g

/-! ## What a creation leaves behind -/

/-- All that `kkm_create_kontainer` needs after the file descriptor. -/
def CreateCompletes (cfg : KkmConfig) (a : CreateAnswers) (s : PageState) : Prop :=
  InitCompletes cfg a.init s ∧ a.currentPgd ≠ 0

theorem kkmMmuCopyKernelPgd_zero_iff
    (cfg : KkmConfig) (kx : KkmMmuPml4e)
    (currentPgdBase guestKernelVa guestPayloadVa : Nat)
    (kernelP4dVa payloadP4dVa : Nat) (m : Memory) :
    (kkmMmuCopyKernelPgd cfg kx currentPgdBase guestKernelVa guestPayloadVa
      kernelP4dVa payloadP4dVa m).1 = 0 ↔ currentPgdBase ≠ 0 := by
  by_cases h : currentPgdBase = 0
  · simp [kkmMmuCopyKernelPgd, h, einval]
  · simp [kkmMmuCopyKernelPgd, h]

theorem kkmMmuCopyKernelPgd_nonpos
    (cfg : KkmConfig) (kx : KkmMmuPml4e)
    (currentPgdBase guestKernelVa guestPayloadVa : Nat)
    (kernelP4dVa payloadP4dVa : Nat) (m : Memory) :
    (kkmMmuCopyKernelPgd cfg kx currentPgdBase guestKernelVa guestPayloadVa
      kernelP4dVa payloadP4dVa m).1 ≤ 0 := by
  by_cases h : currentPgdBase = 0
  · simp [kkmMmuCopyKernelPgd, h, einval]
  · simp [kkmMmuCopyKernelPgd, h]

/-- A creation that completes sets the reference count to one; any other leaves
the count as it was, and none touches the kontexts. -/
theorem kkmCreateKontainerBody_spec
    (cfg : KkmConfig) (kx : KkmMmuPml4e) (a : CreateAnswers)
    (objectId : BitVec 64) (kkm : Kkm) (s : PageState) :
    let r := kkmCreateKontainerBody cfg kx a objectId kkm s
    (CreateCompletes cfg a s →
        r.1 = kkm.kontainerFd ∧ r.2.1.referenceCount = 1) ∧
      (¬ CreateCompletes cfg a s →
        r.1 < 0 ∧ r.2.1.referenceCount = kkm.referenceCount) ∧
      r.2.1.kontextCount = kkm.kontextCount ∧ r.2.1.kontext = kkm.kontext ∧
      r.2.1.mm = a.currentMm := by
  obtain ⟨hinit, hsame⟩ := kkmKontainerInit_spec cfg kx a.init
    { kkm with id := objectId, mm := a.currentMm } s
  simp only [kkmCreateKontainerBody]
  split
  · rename_i hret
    have hno : ¬ CreateCompletes cfg a s := fun h => hret (hinit.mpr h.1)
    have hneg := lt_of_le_of_ne (kkmKontainerInit_nonpos cfg kx a.init
      { kkm with id := objectId, mm := a.currentMm } s) hret
    exact ⟨fun h => absurd h hno, fun _ => ⟨hneg, hsame.referenceCount⟩,
      hsame.kontextCount, hsame.kontext, hsame.mm⟩
  · rename_i hret
    have hcompletes := hinit.mp (by simpa using hret)
    split
    · rename_i hcopy
      have hno : ¬ CreateCompletes cfg a s :=
        fun h => hcopy ((kkmMmuCopyKernelPgd_zero_iff ..).mpr h.2)
      have hneg := lt_of_le_of_ne (kkmMmuCopyKernelPgd_nonpos ..) hcopy
      exact ⟨fun h => absurd h hno, fun _ => ⟨hneg, hsame.referenceCount⟩,
        hsame.kontextCount, hsame.kontext, hsame.mm⟩
    · rename_i hcopy
      have hyes : CreateCompletes cfg a s :=
        ⟨hcompletes, (kkmMmuCopyKernelPgd_zero_iff ..).mp (by simpa using hcopy)⟩
      exact ⟨fun _ => ⟨hsame.kontainerFd, rfl⟩, fun h => absurd hyes h,
        hsame.kontextCount, hsame.kontext, hsame.mm⟩

/-- `kkm_create_kontainer` returns a file descriptor exactly when everything
works out. -/
theorem kkmCreateKontainer_nonneg_iff
    (cfg : KkmConfig) (kx : KkmMmuPml4e) (a : CreateAnswers) (g : KernelState) :
    0 ≤ (kkmCreateKontainer cfg kx a g).1 ↔
      a.kzalloc = true ∧ a.getfd = true ∧ CreateCompletes cfg a g.pages := by
  obtain ⟨hyes, hno, _⟩ := kkmCreateKontainerBody_spec cfg kx a
    (g.kkmObjectId + 1#64) { Kkm.zeroed with kontainerFd := g.nextFd } g.pages
  cases hzalloc : a.kzalloc with
  | false => simp [kkmCreateKontainer, hzalloc, enomem]
  | true =>
      cases hfd : a.getfd with
      | false => simp [kkmCreateKontainer, hzalloc, hfd, emfile]
      | true =>
          simp only [kkmCreateKontainer, hzalloc, hfd, Bool.true_eq_false,
            if_false, true_and]
          by_cases hcompletes : CreateCompletes cfg a g.pages
          · rw [(hyes hcompletes).1]
            simp [hcompletes]
          · have hneg := (hno hcompletes).1
            exact ⟨fun h => absurd hneg (not_lt.mpr h),
              fun h => absurd h hcompletes⟩

/-- A successful creation: one file, one reference, no kontext. -/
theorem kkmCreateKontainer_created
    {cfg : KkmConfig} {kx : KkmMmuPml4e} {a : CreateAnswers} {g : KernelState}
    (hcreated : 0 ≤ (kkmCreateKontainer cfg kx a g).1) :
    ∃ kkm, kkm.referenceCount = 1 ∧ kkm.kontextCount = 0#32 ∧
      kkm.kontext = (fun _ => none) ∧ kkm.mm = a.currentMm ∧
      (kkmCreateKontainer cfg kx a g).2.1 =
        ⟨some kkm, [⟨g.nextFd, .kontainer⟩], true, false⟩ := by
  obtain ⟨hzalloc, hfd, hcompletes⟩ :=
    (kkmCreateKontainer_nonneg_iff cfg kx a g).mp hcreated
  obtain ⟨hyes, _, hcount, hkontext, hmm⟩ := kkmCreateKontainerBody_spec cfg kx a
    (g.kkmObjectId + 1#64) { Kkm.zeroed with kontainerFd := g.nextFd } g.pages
  refine ⟨_, (hyes hcompletes).2, hcount, hkontext, hmm, ?_⟩
  simp [kkmCreateKontainer, hzalloc, hfd]

/-! ## Calls that get everything they ask for -/

/-- Nothing has been allocated yet. -/
def KernelState.booted : KernelState :=
  ⟨⟨BlockPool.empty 1, fun _ => 0⟩, 3, 0⟩

def KontainerInitAnswers.granted : KontainerInitAnswers :=
  ⟨some 0, some 0, some 0, ⟨some 0, some 0, some 0⟩⟩

def CreateAnswers.granted : CreateAnswers where
  kzalloc := true
  getfd := true
  currentMm := 1
  currentPgd := 4096
  init := .granted

def AddAnswers.granted : AddAnswers where
  currentMm := 1
  task := 1
  kzalloc := true
  getfd := true
  mmap := fun _ => some 0
  init := ⟨some 0, some 0⟩

theorem granted_completes (kx : KkmMmuPml4e) :
    0 ≤ (kkmCreateKontainer .stock kx .granted .booted).1 := by
  have hpml4 : Pml4Answers.AllSome ⟨some 0, some 0, some 0⟩ := by decide
  have hinit : InitCompletes .stock .granted KernelState.booted.pages :=
    ⟨hpml4, 0, rfl, by decide, fun h => by cases h⟩
  exact (kkmCreateKontainer_nonneg_iff ..).mpr ⟨rfl, rfl, hinit, by decide⟩

/-! ## What an add leaves behind -/

/-- All that `kkm_add_execution_kontext` needs after the file descriptor. -/
def AddCompletes (a : AddAnswers) : Prop :=
  (∀ i, a.mmap i ≠ none) ∧ a.init.guestArea ≠ none ∧ a.init.xsave ≠ none

instance (a : AddAnswers) : Decidable (AddCompletes a) :=
  inferInstanceAs (Decidable (_ ∧ _ ∧ _))

/-- An add takes the reference and counts the kontext only if it completes; the
entry stays in use either way. -/
theorem kkmAddExecutionKontextBody_spec
    (cfg : KkmConfig) (a : AddAnswers) (i : Fin kkmMaxContexts)
    (kkm : Kkm) (kontext : KkmKontext) (ret : Int) (s : PageState) :
    let r := kkmAddExecutionKontextBody cfg a i kkm kontext ret s
    ∃ kontext', kontext'.used = kontext.used ∧
      (AddCompletes a → r.2.1 =
        { kkmReferenceCountUp (kkm.setKontext i kontext') with
          kontextCount := kkm.kontextCount + 1#32 }) ∧
      (¬ AddCompletes a → r.2.1 = kkm.setKontext i kontext') := by
  obtain ⟨hmmap, hused⟩ := allocMmapPages_spec kontext s a.mmap
    (List.finRange kkmContextMapPageCount)
  simp only [List.mem_finRange, true_imp_iff] at hmmap
  simp only [kkmAddExecutionKontextBody]
  split
  · rename_i hok
    have hno : ¬ AddCompletes a := by
      intro h
      rw [hmmap.mpr h.1] at hok
      cases hok
    exact ⟨_, hused, fun h => absurd h hno, fun _ => rfl⟩
  · rename_i hok
    have hmmap := hmmap.mp (by simpa using hok)
    obtain ⟨hinit, hused'⟩ := kkmKontextInit_spec
      (allocMmapPages a.mmap (List.finRange kkmContextMapPageCount) kontext s).2.1
      (allocMmapPages a.mmap (List.finRange kkmContextMapPageCount) kontext s).2.2
      cfg kkm a.init
    split
    · rename_i herr
      have hno : ¬ AddCompletes a := fun h => herr (hinit.mpr h.2)
      exact ⟨_, hused'.trans hused, fun h => absurd h hno, fun _ => rfl⟩
    · rename_i herr
      have hyes : AddCompletes a := ⟨hmmap, hinit.mp (by simpa using herr)⟩
      exact ⟨_, hused'.trans hused, fun _ => rfl, fun h => absurd hyes h⟩

end Driver
end KkmModule
