import KkmModule.Driver.ReferenceCount
import KkmModule.Driver.KontextRun
import KkmModule.Foundation.GuardedRun

/-!
# Address spaces of kontainers

`kkm->mm` is the address space of the process that has created the kontainer, and
no reference to it is held.  `KKM_MEMORY` and a page fault in the private area
read the page tables of `kkm->mm`; the handlers of an exit write through the
address space of the process that has called `KKM_RUN`.  Only
`kkm_add_execution_kontext` compares the two.

Processes clone, exec, exit and pass their files on; an address space is freed
with the last process in it, and its address can then be used again.
-/

namespace KkmModule
namespace Driver

open Foundation

/-! ## Requests that touch an address space -/

/-- `kkm_set_kontainer_memory` gets as far as `kkm_mmu_sync`. -/
def readsPgd (kkm : Kkm) : Option KkmMemoryRegion → Bool
  | none => false
  | some mr =>
      if h : mr.slot.toNat < kkmMaxMemorySlots then
        decide (AddsRegion kkm mr ⟨mr.slot.toNat, h⟩ ∨
          DeletesRegion kkm mr ⟨mr.slot.toNat, h⟩)
      else false

/-- `kkm_process_page_fault` writes to the monitor or updates the private area. -/
def pageFaultTouches (cfg : KkmConfig) (kkm : Kkm) (read : UserRead) (kontext : KkmKontext) :
    Bool :=
  match kkmGuestVaToMonitorVa cfg kkm kontext.ga.sregs.cr2 with
  | none => false
  | some (_, privArea) =>
      let errorCode := kontext.ga.trapInfo.error
      errorCode &&& x86PfUser == x86PfUser && !read.failed &&
        (errorCode &&& x86PfWrite == x86PfWrite || privArea)

/-- The record that a handler pushes is copied to the monitor. -/
def recordTouches (cfg : KkmConfig) (kkm : Kkm) (words : Nat) (kontext : KkmKontext) : Bool :=
  (kkmGuestVaToMonitorVa cfg kkm
    (kontext.ga.regs.rsp - BitVec.ofNat 64 (8 * words))).isSome

/-- `kkm_process_intr` reads `kkm->mm->pgd` or writes to the monitor. -/
def intrTouches (cfg : KkmConfig) (kkm : Kkm) (a : ExitAnswers) (kontext : KkmKontext) :
    Bool :=
  match intrHandler kontext.ga.intrNo with
  | .pageFault => pageFaultTouches cfg kkm a.read kontext
  | .commonWithoutError => recordTouches cfg kkm 8 kontext
  | .commonWithError => recordTouches cfg kkm 9 kontext
  | .syscall =>
      (kkmGuestVaToMonitorVa cfg kkm
        (kontext.ga.regs.rsp - kkmAbiRedzone - sizeofKkmHcArgs)).isSome
  | _ => false

section Touches

variable (cfg : KkmConfig) (kkm : Kkm)

/-- A request that does not get there does not depend on the page tables. -/
theorem kkmSetKontainerMemory_of_not_readsPgd
    {arg : Option KkmMemoryRegion} (h : readsPgd kkm arg = false)
    (pgd pgd' : Nat) (m : Memory) :
    kkmSetKontainerMemory cfg pgd arg kkm m =
      kkmSetKontainerMemory cfg pgd' arg kkm m := by
  cases arg with
  | none => rfl
  | some mr =>
      by_cases hlt : mr.slot.toNat < kkmMaxMemorySlots
      · cases haligned : pageAligned mr with
        | false => simp [kkmSetKontainerMemory, haligned]
        | true =>
            let i : Fin kkmMaxMemorySlots := ⟨mr.slot.toNat, hlt⟩
            have hno : ¬ (AddsRegion kkm mr i ∨ DeletesRegion kkm mr i) := by
              simpa [readsPgd, hlt, i] using h
            by_cases hsize : mr.memorySize = 0#64
            · have hused : (kkm.memSlot i).used = false := by
                simpa [DeletesRegion, i, haligned, hsize] using fun h => hno (.inr h)
              simp [kkmSetKontainerMemory, haligned, hlt, hsize, i, hused]
            · have hused : (kkm.memSlot i).used = true := by
                simpa [AddsRegion, i, haligned, hsize] using fun h => hno (.inl h)
              simp [kkmSetKontainerMemory, haligned, hlt, hsize, i, hused]
      · simp [kkmSetKontainerMemory, hlt]

/-- A fault that does not get there depends on neither the page tables nor a
write. -/
theorem kkmProcessPageFault_of_not_touches
    {read : UserRead} {k : KkmKontext}
    (h : pageFaultTouches cfg kkm read k = false)
    (pgd pgd' : Nat) (write write' : UserWrite) (m : Memory) :
    kkmProcessPageFault cfg pgd kkm read write k m =
      kkmProcessPageFault cfg pgd' kkm read write' k m := by
  simp only [kkmProcessPageFault]
  cases hva : kkmGuestVaToMonitorVa cfg kkm k.ga.sregs.cr2 with
  | none => rfl
  | some found =>
      simp only [pageFaultTouches, hva] at h
      simp only
      by_cases huser : k.ga.trapInfo.error &&& x86PfUser = x86PfUser
      · cases hread : read.failed with
        | true => simp [huser]
        | false =>
            simp only [huser, hread, beq_self_eq_true, Bool.not_false, Bool.true_and,
              Bool.or_eq_false_iff, beq_eq_false_iff_ne, ne_eq] at h
            simp [huser, h.1, h.2]
      · simp [huser]

theorem recordException_of_not_touches
    {args : List (BitVec 64)} {kontext : KkmKontext}
    (h : recordTouches cfg kkm args.length kontext = false) (m : ByteMemory) :
    (recordException cfg kkm args kontext m).2.2 = m := by
  have hva := Option.not_isSome_iff_eq_none.mp (Bool.eq_false_iff.mp h)
  simp only [recordException, hva]

theorem kkmProcessSyscall_of_not_touches
    {k : KkmKontext}
    (h : (kkmGuestVaToMonitorVa cfg kkm
      (k.ga.regs.rsp - kkmAbiRedzone - sizeofKkmHcArgs)).isSome = false)
    (m : ByteMemory) : (kkmProcessSyscall cfg kkm k m).2.2 = m := by
  have hva := Option.not_isSome_iff_eq_none.mp (Bool.eq_false_iff.mp h)
  simp only [kkmProcessSyscall, pushHcArgs, hva]

/-- An exit whose handler does not get there depends on neither, and leaves user
memory alone. -/
theorem kkmProcessIntr_of_not_touches
    {a : ExitAnswers} {kontext : KkmKontext}
    (h : intrTouches cfg kkm a kontext = false)
    (pgd : Nat) (write : UserWrite) (s : RunMemory) :
    kkmProcessIntr cfg kkm { a with nativePgd := pgd, write := write } kontext s =
        kkmProcessIntr cfg kkm a kontext s ∧
      (kkmProcessIntr cfg kkm a kontext s).2.2.user = s.user := by
  let kontext' := { kontext with run := { kontext.run with exitReason := kkmExitUnknown } }
  cases hhandler : intrHandler kontext.ga.intrNo with
  | pageFault =>
      simp only [intrTouches, hhandler] at h
      have hfault := kkmProcessPageFault_of_not_touches (k := kontext') cfg kkm h
        pgd a.nativePgd write a.write s.tables
      simp only [kkmProcessIntr, hhandler, and_true]
      rw [hfault]
  | commonWithoutError =>
      simp only [intrTouches, hhandler] at h
      have hrecord : ∀ args : List (BitVec 64), args.length = 8 →
          (recordException cfg kkm args kontext' s.user).2.2 = s.user := by
        intro args hlength
        exact recordException_of_not_touches cfg kkm (by rw [hlength]; exact h) s.user
      simp only [kkmProcessIntr, hhandler, true_and]
      exact hrecord _ rfl
  | commonWithError =>
      simp only [intrTouches, hhandler] at h
      have hrecord : ∀ args : List (BitVec 64), args.length = 9 →
          (recordException cfg kkm args kontext' s.user).2.2 = s.user := by
        intro args hlength
        exact recordException_of_not_touches cfg kkm (by rw [hlength]; exact h) s.user
      simp only [kkmProcessIntr, hhandler, true_and]
      exact hrecord _ rfl
  | syscall =>
      simp only [intrTouches, hhandler] at h
      simp only [kkmProcessIntr, hhandler, true_and]
      exact kkmProcessSyscall_of_not_touches (k := kontext') cfg kkm h s.user
  | _ => simp only [kkmProcessIntr, hhandler, and_self]

end Touches

/-! ## Processes -/

/-- An address space: where its `struct mm_struct` is, and which one it is of
those that have been there. -/
structure Mm where
  addr : Nat
  serial : Nat
deriving DecidableEq

/-- A file of a kontainer that a process has open. -/
structure HeldFile where
  kontainer : Nat
  file : OpenFile
deriving DecidableEq

structure Task where
  pid : Nat
  mm : Mm
  files : List HeldFile
  /-- the kontainers created in its address space since it is in it -/
  family : List Nat

/-- The kontainers with the processes of the machine. -/
structure ProcessWorld where
  world : World
  tasks : List Task
  /-- the address space a kontainer was created in -/
  owner : Nat → Option Mm
  nextSerial : Nat

inductive ProcessEvent where
  /-- `clone`; without `CLONE_VM` the child gets an address space at `addr` -/
  | clone (t child : Nat) (vm : Bool) (addr : Nat)
  /-- `execve`; `kept` are the files that are not closed -/
  | exec (t addr : Nat) (kept : List HeldFile)
  | exit (t : Nat)
  /-- a file descriptor is sent to another process -/
  | pass (t t' : Nat) (file : HeldFile)
  | close (t : Nat) (file : HeldFile)
  | create (t : Nat) (a : CreateAnswers)
  | add (t : Nat) (file : HeldFile) (vcpuId : BitVec 32) (a : AddAnswers)
  /-- `KKM_MEMORY` -/
  | memory (t : Nat) (file : HeldFile) (arg : Option KkmMemoryRegion) (nativePgd : Nat)
  /-- an exit of the payload while the process is in `KKM_RUN` -/
  | payloadExit (t : Nat) (file : HeldFile) (e : PayloadExit) (a : ExitAnswers)
      (user : ByteMemory)

namespace ProcessWorld

variable (w : ProcessWorld)

def task (t : Nat) : Option Task := w.tasks.find? fun task => decide (task.pid = t)

/-- Some process is in the address space. -/
def Alive (mm : Mm) : Prop := ∃ task ∈ w.tasks, task.mm = mm

/-- No address space is at the address. -/
def isFree (addr : Nat) : Bool := w.tasks.all fun task => decide (task.mm.addr ≠ addr)

/-- A change to one process. -/
def updateTask (t : Nat) (f : Task → Task) : ProcessWorld :=
  { w with tasks := w.tasks.map fun task => if task.pid = t then f task else task }

end ProcessWorld

/-- A request on a file: who makes it, and the kontainer. -/
structure KontainerUse where
  task : Task
  q : Nat
  owner : Mm
  kkm : Kkm

/-- `current`, and what the private data of the file leads to. -/
def kontainerUse (w : ProcessWorld) (t : Nat) (file : HeldFile) : Option KontainerUse :=
  match w.task t with
  | none => none
  | some task =>
      if file ∈ task.files then
        match w.owner file.kontainer, (w.world.kontainers file.kontainer).kkm with
        | some owner, some kkm => some ⟨task, file.kontainer, owner, kkm⟩
        | _, _ => none
      else none

/-- The request that an event is, if it reads `kkm->mm->pgd` or writes guest
memory. -/
def touchingUse (cfg : KkmConfig) (w : ProcessWorld) : ProcessEvent → Option KontainerUse
  | .memory t file arg _ =>
      (kontainerUse w t file).filter fun use =>
        decide (file.file.target = .kontainer) && readsPgd use.kkm arg
  | .payloadExit t file e a _ =>
      match file.file.target with
      | .kontainer => none
      | .kontext i =>
          (kontainerUse w t file).filter fun use =>
            match use.kkm.kontext i with
            | none => false
            | some kontext => intrTouches cfg use.kkm a (leavePayload e kontext)
  | _ => none

section Steps

variable (cfg : KkmConfig) (kx : KkmMmuPml4e)

/-- A step of the kontainers; what follows a fault is not part of the model. -/
def ProcessWorld.lifecycle (w : ProcessWorld) (e : LifecycleEvent) : ProcessWorld :=
  match lifecycleStep cfg kx w.world e with
  | .ok world => { w with world := world }
  | .error _ => w

/-- The release function runs when no process has the file open any more. -/
def dropFile (w : ProcessWorld) (file : HeldFile) : ProcessWorld :=
  if w.tasks.any fun task => decide (file ∈ task.files) then w
  else w.lifecycle cfg kx (.close file.kontainer file.file.fd)

def ProcessWorld.clone
    (w : ProcessWorld) (task : Task) (child : Nat) (vm : Bool) (addr : Nat) :
    ProcessWorld :=
  if w.tasks.any fun other => decide (other.pid = child) then w
  else if vm then { w with tasks := { task with pid := child } :: w.tasks }
  else if w.isFree addr then
    { w with
      tasks := { task with
        pid := child, mm := ⟨addr, w.nextSerial⟩, family := [] } :: w.tasks
      nextSerial := w.nextSerial + 1 }
  else w

def ProcessWorld.exec
    (w : ProcessWorld) (task : Task) (addr : Nat) (kept : List HeldFile) :
    ProcessWorld :=
  if w.isFree addr then
    let w' := w.updateTask task.pid fun task =>
      { task with
        mm := ⟨addr, w.nextSerial⟩
        files := task.files.filter fun file => decide (file ∈ kept)
        family := [] }
    task.files.foldl (dropFile cfg kx) { w' with nextSerial := w.nextSerial + 1 }
  else w

/-- The files that an add has installed. -/
def newFiles (q : Nat) (k k' : KontainerState) : List HeldFile :=
  (k'.files.filter fun file => decide (file ∉ k.files)).map fun file => ⟨q, file⟩

/-- `kkm_create_kontainer` is called by a process. -/
def ProcessWorld.create
    (w : ProcessWorld) (task : Task) (a : CreateAnswers) : ProcessWorld :=
  let q := w.world.created
  let w' := w.lifecycle cfg kx (.create { a with currentMm := task.mm.addr })
  let k := w'.world.kontainers q
  if k.opened then
    { w' with
      owner := Function.update w.owner q (some task.mm)
      tasks := w.tasks.map fun other =>
        let other := if other.mm = task.mm then
          { other with family := q :: other.family } else other
        if other.pid = task.pid then
          { other with files := newFiles q .absent k ++ other.files }
        else other }
  else w'

def processStep (w : ProcessWorld) : ProcessEvent → ProcessWorld
  | .clone t child vm addr =>
      match w.task t with
      | none => w
      | some task => w.clone task child vm addr
  | .exec t addr kept =>
      match w.task t with
      | none => w
      | some task => w.exec cfg kx task addr kept
  | .exit t =>
      match w.task t with
      | none => w
      | some task =>
          task.files.foldl (dropFile cfg kx)
            { w with tasks := w.tasks.filter fun other => decide (other.pid ≠ t) }
  | .pass t t' file =>
      match w.task t with
      | none => w
      | some task =>
          if file ∈ task.files then
            w.updateTask t' fun task => { task with files := file :: task.files }
          else w
  | .close t file =>
      dropFile cfg kx
        (w.updateTask t fun task =>
          { task with files := task.files.filter fun other => decide (other ≠ file) })
        file
  | .create t a =>
      match w.task t with
      | none => w
      | some task => w.create cfg kx task a
  | .add t file vcpuId a =>
      match kontainerUse w t file with
      | none => w
      | some use =>
          if file.file.target = .kontainer then
            let w' := w.lifecycle cfg kx (.add use.q vcpuId
              { a with currentMm := use.task.mm.addr, task := t })
            let files :=
              newFiles use.q (w.world.kontainers use.q) (w'.world.kontainers use.q)
            w'.updateTask t fun task => { task with files := files ++ task.files }
          else w
  | .memory t file arg nativePgd =>
      match kontainerUse w t file with
      | none => w
      | some use =>
          if file.file.target = .kontainer then
            let g := w.world.kernel
            match kkmSetKontainerMemory cfg nativePgd arg use.kkm g.pages.mem with
            | .ok (_, kkm, m) =>
                let k := { w.world.kontainers use.q with kkm := some kkm }
                let g := { g with pages := { g.pages with mem := m } }
                { w with world := w.world.set use.q k g }
            | .error _ => w
          else w
  | .payloadExit t file e a user =>
      match kontainerUse w t file, file.file.target with
      | some use, .kontext i =>
          match use.kkm.kontext i with
          | some kontext =>
              let g := w.world.kernel
              let r := kkmProcessIntr cfg use.kkm a (leavePayload e kontext)
                ⟨user, g.pages.mem⟩
              let kkm := use.kkm.setKontext i r.2.1
              let k := { w.world.kontainers use.q with kkm := some kkm }
              let g := { g with pages := { g.pages with mem := r.2.2.tables } }
              { w with world := w.world.set use.q k g }
          | none => w
      | _, _ => w

end Steps

/-! ## `kkm->mm` is written once -/

/-- The kkm is the one from before, with the same `mm`, or is gone. -/
def MmKept (k k' : KontainerState) : Prop :=
  ∀ kkm', k'.kkm = some kkm' → ∃ kkm, k.kkm = some kkm ∧ kkm'.mm = kkm.mm

theorem MmKept.refl (k : KontainerState) : MmKept k k :=
  fun kkm h => ⟨kkm, h, rfl⟩

theorem kkmReferenceCountDown_mmKept
    {kkm kkm' : Kkm} {k : KontainerState} {g : KernelState}
    (h : (kkmReferenceCountDown kkm k g).1.kkm = some kkm') : kkm'.mm = kkm.mm := by
  simp only [kkmReferenceCountDown] at h
  split at h
  · cases h
  · cases h
    rfl

theorem closeFile_mmKept
    {file : OpenFile} {k : KontainerState} {g : KernelState}
    {r : KontainerState × KernelState} (h : closeFile file k g = .ok r) :
    MmKept k r.1 := by
  intro kkm' hkkm'
  cases hkkm : k.kkm with
  | none =>
      cases htarget : file.target with
      | kontainer => simp [closeFile, htarget, kkmKontainerRelease, hkkm] at h
      | kontext i => simp [closeFile, htarget, kkmExecutionKontextRelease, hkkm] at h
  | some kkm =>
      refine ⟨kkm, rfl, ?_⟩
      cases htarget : file.target with
      | kontainer =>
          simp only [closeFile, htarget, kkmKontainerRelease, hkkm, Except.ok.injEq] at h
          subst h
          exact kkmReferenceCountDown_mmKept hkkm'
      | kontext i =>
          cases hentry : kkm.kontext i with
          | none =>
              simp [closeFile, htarget, kkmExecutionKontextRelease, hkkm, hentry] at h
          | some kontext =>
              simp only [closeFile, htarget, kkmExecutionKontextRelease, hkkm, hentry,
                Except.ok.injEq] at h
              subst h
              have hmm := kkmReferenceCountDown_mmKept hkkm'
              exact hmm

theorem kkmAddExecutionKontextBody_mm
    (cfg : KkmConfig) (a : AddAnswers) (i : Fin kkmMaxContexts) (kkm : Kkm)
    (kontext : KkmKontext) (ret : Int) (s : PageState) :
    (kkmAddExecutionKontextBody cfg a i kkm kontext ret s).2.1.mm = kkm.mm := by
  obtain ⟨kontext', -, hyes, hno⟩ :=
    kkmAddExecutionKontextBody_spec cfg a i kkm kontext ret s
  by_cases hadd : AddCompletes a
  · rw [hyes hadd]
    rfl
  · rw [hno hadd]
    rfl

theorem kkmAddExecutionKontextAt_mmKept
    (cfg : KkmConfig) (vcpuId : BitVec 32) (a : AddAnswers)
    (i : Fin kkmMaxContexts) (kontext : KkmKontext) {kkm : Kkm}
    {k : KontainerState} (hkkm : k.kkm = some kkm) (g : KernelState) :
    MmKept k (kkmAddExecutionKontextAt cfg vcpuId a i kontext kkm k g).2.1 := by
  intro kkm' h
  refine ⟨kkm, hkkm, ?_⟩
  simp only [kkmAddExecutionKontextAt] at h
  split at h
  · cases h
    exact kkmAddExecutionKontextBody_mm cfg a i kkm _ _ _
  · cases h
    exact kkmAddExecutionKontextBody_mm cfg a i kkm _ _ _

theorem kkmAddExecutionKontext_mmKept
    {cfg : KkmConfig} {vcpuId : BitVec 32} {a : AddAnswers}
    {k : KontainerState} {g : KernelState} {r : Int × KontainerState × KernelState}
    (h : kkmAddExecutionKontext cfg vcpuId a k g = .ok r) : MmKept k r.2.1 := by
  cases hkkm : k.kkm with
  | none => simp [kkmAddExecutionKontext, hkkm] at h
  | some kkm =>
      simp only [kkmAddExecutionKontext, hkkm] at h
      split at h
      · cases h
        exact .refl k
      · split at h
        · cases h
        · split at h
          · cases h
            exact kkmAddExecutionKontextAt_mmKept cfg vcpuId a _ _ hkkm g
          · split at h
            · cases h
              exact kkmAddExecutionKontextAt_mmKept cfg vcpuId a _ _ hkkm g
            · cases h
              exact .refl k

/-- One kontainer changes, and keeps its `mm`. -/
theorem mmKept_set
    {world : World} {q : Nat} {k : KontainerState} (h : MmKept (world.kontainers q) k)
    (g : KernelState) (r : Nat) :
    MmKept (world.kontainers r) ((world.set q k g).kontainers r) := by
  by_cases hr : r = q
  · subst hr
    simpa [World.set] using h
  · simpa [World.set, Function.update_of_ne hr] using MmKept.refl _

/-- Adds and closes write no `mm`. -/
theorem lifecycleStep_mmKept
    {cfg : KkmConfig} {kx : KkmMmuPml4e} {world world' : World} {e : LifecycleEvent}
    (he : ∀ a, e ≠ .create a) (h : lifecycleStep cfg kx world e = .ok world') :
    world'.created = world.created ∧
      ∀ q, MmKept (world.kontainers q) (world'.kontainers q) := by
  cases e with
  | create a => exact absurd rfl (he a)
  | add q vcpuId a =>
      simp only [lifecycleStep] at h
      split at h
      · cases hadd : kkmAddExecutionKontext cfg vcpuId a (world.kontainers q)
            world.kernel with
        | error fault =>
            rw [hadd] at h
            cases h
        | ok r =>
            rw [hadd] at h
            cases h
            exact ⟨rfl, mmKept_set (kkmAddExecutionKontext_mmKept hadd) _⟩
      · cases h
        exact ⟨rfl, fun q => .refl _⟩
  | close q fd =>
      simp only [lifecycleStep] at h
      split at h
      · cases h
        exact ⟨rfl, fun q => .refl _⟩
      · rename_i file hfile
        cases hclose : closeFile file (world.kontainers q) world.kernel with
        | error fault =>
            rw [hclose] at h
            cases h
        | ok r =>
            rw [hclose] at h
            cases h
            exact ⟨rfl, mmKept_set (closeFile_mmKept hclose) _⟩

theorem kkmSetKontainerMemory_mm
    {cfg : KkmConfig} {pgd : Nat} {arg : Option KkmMemoryRegion} {kkm kkm' : Kkm}
    {m m' : Memory} {ret : Int}
    (h : kkmSetKontainerMemory cfg pgd arg kkm m = .ok (ret, kkm', m')) :
    kkm'.mm = kkm.mm := by
  cases arg with
  | none =>
      cases h
      rfl
  | some mr =>
      simp only [kkmSetKontainerMemory] at h
      split at h
      · cases h
        rfl
      · split at h
        · cases h
          rfl
        · split at h
          · split at h
            · cases h
              rfl
            · split at h
              · cases h
                rfl
              · split at h
                · cases h
                  rfl
                · cases h
                  rfl
          · cases h

/-! ## Who is in the address space of a kontainer -/

namespace ProcessWorld

/-- A process is in the address space a kontainer was created in exactly if it
has been in it since. -/
structure Tracked (w : ProcessWorld) : Prop where
  addrs : ∀ task ∈ w.tasks, ∀ task' ∈ w.tasks,
    task.mm.addr = task'.mm.addr → task.mm = task'.mm
  serials : ∀ task ∈ w.tasks, task.mm.serial < w.nextSerial
  owners : ∀ q mm, w.owner q = some mm →
    q < w.world.created ∧ mm.serial < w.nextSerial ∧
      ∀ kkm, (w.world.kontainers q).kkm = some kkm → kkm.mm = mm.addr
  family : ∀ task ∈ w.tasks, ∀ q mm, w.owner q = some mm →
    (q ∈ task.family ↔ task.mm = mm)
  known : ∀ task ∈ w.tasks, ∀ q ∈ task.family, q < w.world.created

variable {w : ProcessWorld}

/-- Processes come and go, and open and close files, in the address spaces there
are. -/
theorem Tracked.tasks
    (h : w.Tracked) {tasks : List Task}
    (htasks : ∀ task' ∈ tasks, ∃ task ∈ w.tasks,
      task'.mm = task.mm ∧ task'.family = task.family) :
    Tracked { w with tasks := tasks } := by
  constructor
  · intro task₁ h₁ task₂ h₂ haddr
    obtain ⟨old₁, hold₁, hmm₁, -⟩ := htasks task₁ h₁
    obtain ⟨old₂, hold₂, hmm₂, -⟩ := htasks task₂ h₂
    rw [hmm₁, hmm₂] at haddr ⊢
    exact h.addrs old₁ hold₁ old₂ hold₂ haddr
  · intro task' htask'
    obtain ⟨task, htask, hmm, -⟩ := htasks task' htask'
    rw [hmm]
    exact h.serials task htask
  · exact h.owners
  · intro task' htask' q mm hq
    obtain ⟨task, htask, hmm, hfamily⟩ := htasks task' htask'
    rw [hmm, hfamily]
    exact h.family task htask q mm hq
  · intro task' htask' q hq
    obtain ⟨task, htask, -, hfamily⟩ := htasks task' htask'
    rw [hfamily] at hq
    exact h.known task htask q hq

/-- The kontainers change, but no `mm` does. -/
theorem Tracked.world
    (h : w.Tracked) {world : World} (hcreated : world.created = w.world.created)
    (hmm : ∀ q, MmKept (w.world.kontainers q) (world.kontainers q)) :
    Tracked { w with world := world } := by
  constructor
  · exact h.addrs
  · exact h.serials
  · intro q mm hq
    obtain ⟨hlt, hserial, haddr⟩ := h.owners q mm hq
    refine ⟨by rw [hcreated]; exact hlt, hserial, ?_⟩
    intro kkm' hkkm'
    obtain ⟨kkm, hkkm, hkept⟩ := hmm q kkm' hkkm'
    rw [hkept]
    exact haddr kkm hkkm
  · exact h.family
  · intro task htask q hq
    rw [hcreated]
    exact h.known task htask q hq

/-- A process starts in an address space of its own. -/
theorem Tracked.newMm
    (h : w.Tracked) {addr : Nat} (hfree : w.isFree addr = true) {tasks : List Task}
    (htasks : ∀ task' ∈ tasks,
      (∃ task ∈ w.tasks, task'.mm = task.mm ∧ task'.family = task.family) ∨
        (task'.mm = ⟨addr, w.nextSerial⟩ ∧ task'.family = [])) :
    Tracked { w with tasks := tasks, nextSerial := w.nextSerial + 1 } := by
  have hother : ∀ task ∈ w.tasks, task.mm.addr ≠ addr := by
    intro task htask
    simpa using List.all_eq_true.mp hfree task htask
  constructor
  · intro task₁ h₁ task₂ h₂ haddr
    rcases htasks task₁ h₁ with ⟨old₁, hold₁, hmm₁, -⟩ | ⟨hmm₁, -⟩
    · rcases htasks task₂ h₂ with ⟨old₂, hold₂, hmm₂, -⟩ | ⟨hmm₂, -⟩
      · rw [hmm₁, hmm₂] at haddr ⊢
        exact h.addrs old₁ hold₁ old₂ hold₂ haddr
      · rw [hmm₁, hmm₂] at haddr
        exact absurd haddr (hother old₁ hold₁)
    · rcases htasks task₂ h₂ with ⟨old₂, hold₂, hmm₂, -⟩ | ⟨hmm₂, -⟩
      · rw [hmm₁, hmm₂] at haddr
        exact absurd haddr.symm (hother old₂ hold₂)
      · rw [hmm₁, hmm₂]
  · intro task' htask'
    rcases htasks task' htask' with ⟨task, htask, hmm, -⟩ | ⟨hmm, -⟩
    · rw [hmm]
      exact Nat.lt_succ_of_lt (h.serials task htask)
    · rw [hmm]
      exact Nat.lt_succ_self _
  · intro q mm hq
    obtain ⟨hlt, hserial, haddr⟩ := h.owners q mm hq
    exact ⟨hlt, Nat.lt_succ_of_lt hserial, haddr⟩
  · intro task' htask' q mm hq
    rcases htasks task' htask' with ⟨task, htask, hmm, hfamily⟩ | ⟨hmm, hfamily⟩
    · rw [hmm, hfamily]
      exact h.family task htask q mm hq
    · rw [hmm, hfamily]
      constructor
      · intro hnil
        cases hnil
      · rintro rfl
        exact absurd (h.owners q _ hq).2.1 (Nat.lt_irrefl _)
  · intro task' htask' q hq
    rcases htasks task' htask' with ⟨task, htask, -, hfamily⟩ | ⟨-, hfamily⟩
    · rw [hfamily] at hq
      exact h.known task htask q hq
    · rw [hfamily] at hq
      cases hq

/-! ### Steps -/

variable {cfg : KkmConfig} {kx : KkmMmuPml4e}

theorem Tracked.updateTask
    (h : w.Tracked) (t : Nat) {f : Task → Task}
    (hmm : ∀ task, (f task).mm = task.mm) (hfamily : ∀ task, (f task).family = task.family) :
    (w.updateTask t f).Tracked := by
  apply h.tasks
  intro task' htask'
  obtain ⟨task, htask, rfl⟩ := List.mem_map.mp htask'
  refine ⟨task, htask, ?_⟩
  split
  · exact ⟨hmm task, hfamily task⟩
  · exact ⟨rfl, rfl⟩

theorem Tracked.lifecycle
    (h : w.Tracked) {e : LifecycleEvent} (he : ∀ a, e ≠ .create a) :
    (w.lifecycle cfg kx e).Tracked := by
  rw [ProcessWorld.lifecycle]
  split
  · rename_i world hstep
    obtain ⟨hcreated, hmm⟩ := lifecycleStep_mmKept he hstep
    exact h.world hcreated hmm
  · exact h

theorem Tracked.dropFile
    (h : w.Tracked) (file : HeldFile) : (dropFile cfg kx w file).Tracked := by
  rw [Driver.dropFile]
  split
  · exact h
  · exact h.lifecycle fun _ => LifecycleEvent.noConfusion

theorem Tracked.dropFiles
    (h : w.Tracked) (files : List HeldFile) :
    (files.foldl (Driver.dropFile cfg kx) w).Tracked := by
  induction files generalizing w with
  | nil => exact h
  | cons file files ih => exact ih (h.dropFile file)

theorem mem_of_task {t : Nat} {task : Task} (h : w.task t = some task) : task ∈ w.tasks :=
  List.mem_of_find?_eq_some h

theorem Tracked.clone
    (h : w.Tracked) {task : Task} (htask : task ∈ w.tasks)
    (child : Nat) (vm : Bool) (addr : Nat) : (w.clone task child vm addr).Tracked := by
  rw [ProcessWorld.clone]
  split
  · exact h
  · split
    · apply h.tasks
      intro task' htask'
      rcases List.mem_cons.mp htask' with rfl | hold
      · exact ⟨task, htask, rfl, rfl⟩
      · exact ⟨task', hold, rfl, rfl⟩
    · split
      · rename_i hfree
        apply h.newMm hfree
        intro task' htask'
        rcases List.mem_cons.mp htask' with rfl | hold
        · exact .inr ⟨rfl, rfl⟩
        · exact .inl ⟨task', hold, rfl, rfl⟩
      · exact h

theorem Tracked.exec
    (h : w.Tracked) (task : Task) (addr : Nat) (kept : List HeldFile) :
    (w.exec cfg kx task addr kept).Tracked := by
  rw [ProcessWorld.exec]
  split
  · rename_i hfree
    apply Tracked.dropFiles
    apply h.newMm hfree
    intro task' htask'
    obtain ⟨old, hold, rfl⟩ := List.mem_map.mp htask'
    split
    · exact .inr ⟨rfl, rfl⟩
    · exact .inl ⟨old, hold, rfl, rfl⟩
  · exact h

/-- The kkm of a new kontainer that can be reached has the `mm` of its creator. -/
theorem kkmCreateKontainer_mm
    {cfg : KkmConfig} {kx : KkmMmuPml4e} {a : CreateAnswers} {g : KernelState} {kkm : Kkm}
    (hopened : (kkmCreateKontainer cfg kx a g).2.1.opened = true)
    (hkkm : (kkmCreateKontainer cfg kx a g).2.1.kkm = some kkm) : kkm.mm = a.currentMm := by
  simp only [kkmCreateKontainer] at hopened hkkm
  split at hopened
  · cases hopened
  · rename_i hzalloc
    rw [if_neg hzalloc] at hkkm
    split at hopened
    · cases hopened
    · rename_i hfd
      rw [if_neg hfd] at hkkm
      cases hkkm
      exact (kkmCreateKontainerBody_spec cfg kx a (g.kkmObjectId + 1#64)
        { Kkm.zeroed with kontainerFd := g.nextFd } g.pages).2.2.2.2

/-- The processes in the address space of `task` get the new kontainer. -/
theorem Tracked.joinOwner
    (h : w.Tracked) {task : Task} (htask : task ∈ w.tasks) {world : World}
    (howners : ∀ p mm, w.owner p = some mm →
      p < world.created ∧ mm.serial < w.nextSerial ∧
        ∀ kkm, (world.kontainers p).kkm = some kkm → kkm.mm = mm.addr)
    (hcreated : world.created = w.world.created + 1)
    (hkkm : ∀ kkm, (world.kontainers w.world.created).kkm = some kkm →
      kkm.mm = task.mm.addr)
    {tasks : List Task}
    (htasks : ∀ other' ∈ tasks, ∃ other ∈ w.tasks, other'.mm = other.mm ∧
      other'.family = if other.mm = task.mm then w.world.created :: other.family
        else other.family) :
    Tracked { w with
      world := world
      owner := Function.update w.owner w.world.created (some task.mm)
      tasks := tasks } := by
  have hmem : ∀ other' ∈ tasks, ∃ other ∈ w.tasks, other'.mm = other.mm ∧
      ∀ p, p ∈ other'.family ↔
        (p = w.world.created ∧ other.mm = task.mm) ∨ p ∈ other.family := by
    intro other' hother'
    obtain ⟨other, hother, hmm, hfamily⟩ := htasks other' hother'
    refine ⟨other, hother, hmm, fun p => ?_⟩
    rw [hfamily]
    by_cases hsame : other.mm = task.mm
    · simp [hsame]
    · simp [hsame]
  constructor
  · intro task₁ h₁ task₂ h₂ haddr
    obtain ⟨old₁, hold₁, hmm₁, -⟩ := hmem task₁ h₁
    obtain ⟨old₂, hold₂, hmm₂, -⟩ := hmem task₂ h₂
    rw [hmm₁, hmm₂] at haddr ⊢
    exact h.addrs old₁ hold₁ old₂ hold₂ haddr
  · intro other' hother'
    obtain ⟨other, hother, hmm, -⟩ := hmem other' hother'
    rw [hmm]
    exact h.serials other hother
  · intro p mm hp
    by_cases hnew : p = w.world.created
    · subst hnew
      have hmm : task.mm = mm := by simpa using hp
      subst hmm
      exact ⟨by rw [hcreated]; exact Nat.lt_succ_self _, h.serials task htask, hkkm⟩
    · have hp' : w.owner p = some mm := by simpa [Function.update_of_ne hnew] using hp
      exact howners p mm hp'
  · intro other' hother' p mm hp
    obtain ⟨other, hother, hmm, hfamily⟩ := hmem other' hother'
    rw [hmm, hfamily]
    by_cases hnew : p = w.world.created
    · subst hnew
      have hmm' : task.mm = mm := by simpa using hp
      subst hmm'
      have hno : w.world.created ∉ other.family :=
        fun hold => Nat.lt_irrefl _ (h.known other hother _ hold)
      simp [hno]
    · have hp' : w.owner p = some mm := by simpa [Function.update_of_ne hnew] using hp
      simp only [hnew, false_and, false_or]
      exact h.family other hother p mm hp'
  · intro other' hother' p hp
    obtain ⟨other, hother, -, hfamily⟩ := hmem other' hother'
    have hlt : p ≤ w.world.created := by
      rcases (hfamily p).mp hp with ⟨rfl, -⟩ | hold
      · exact Nat.le_refl _
      · exact Nat.le_of_lt (h.known other hother p hold)
    rw [hcreated]
    exact Nat.lt_succ_of_le hlt

theorem Tracked.create
    (h : w.Tracked) {task : Task} (htask : task ∈ w.tasks) (a : CreateAnswers) :
    (w.create cfg kx task a).Tracked := by
  let q := w.world.created
  let r := kkmCreateKontainer cfg kx { a with currentMm := task.mm.addr } w.world.kernel
  let world : World := { w.world.set q r.2.1 r.2.2 with created := q + 1 }
  have hstep : w.lifecycle cfg kx (.create { a with currentMm := task.mm.addr }) =
      { w with world := world } := rfl
  have hnew : world.kontainers q = r.2.1 := Function.update_self ..
  have hold : ∀ p mm, w.owner p = some mm → world.kontainers p = w.world.kontainers p := by
    intro p mm hp
    have hne : p ≠ q := Nat.ne_of_lt (h.owners p mm hp).1
    exact Function.update_of_ne hne ..
  have howners : ∀ p mm, w.owner p = some mm →
      p < world.created ∧ mm.serial < w.nextSerial ∧
        ∀ kkm, (world.kontainers p).kkm = some kkm → kkm.mm = mm.addr := by
    intro p mm hp
    obtain ⟨hlt, hserial, haddr⟩ := h.owners p mm hp
    rw [hold p mm hp]
    exact ⟨Nat.lt_succ_of_lt hlt, hserial, haddr⟩
  rw [ProcessWorld.create]
  simp only [hstep]
  split
  · rename_i hopened
    rw [hnew] at hopened
    apply h.joinOwner htask howners rfl
    · intro kkm hkkm
      rw [hnew] at hkkm
      exact kkmCreateKontainer_mm hopened hkkm
    · intro other' hother'
      obtain ⟨other, hother, rfl⟩ := List.mem_map.mp hother'
      refine ⟨other, hother, ?_⟩
      split
      · split
        · exact ⟨rfl, rfl⟩
        · exact ⟨rfl, rfl⟩
      · split
        · exact ⟨rfl, rfl⟩
        · exact ⟨rfl, rfl⟩
  · constructor
    · exact h.addrs
    · exact h.serials
    · exact howners
    · exact h.family
    · intro other hother p hp
      exact Nat.lt_succ_of_lt (h.known other hother p hp)

/-- What a request works on. -/
theorem kontainerUse_spec
    {t : Nat} {file : HeldFile} {use : KontainerUse} (h : kontainerUse w t file = some use) :
    use.task ∈ w.tasks ∧ w.owner use.q = some use.owner ∧
      (w.world.kontainers use.q).kkm = some use.kkm := by
  rw [kontainerUse] at h
  split at h
  · cases h
  · rename_i task htask
    split at h
    · split at h
      · rename_i owner kkm howner hkkm
        cases h
        exact ⟨mem_of_task htask, howner, hkkm⟩
      · cases h
    · cases h

/-- A request changes the contents of its kkm. -/
theorem Tracked.setKkm
    (h : w.Tracked) {q : Nat} {kkm kkm' : Kkm}
    (hkkm : (w.world.kontainers q).kkm = some kkm) (hmm : kkm'.mm = kkm.mm)
    (g : KernelState) :
    Tracked { w with
      world := w.world.set q { w.world.kontainers q with kkm := some kkm' } g } := by
  have hkept : MmKept (w.world.kontainers q)
      { w.world.kontainers q with kkm := some kkm' } := by
    intro kkm'' hkkm''
    cases hkkm''
    exact ⟨kkm, hkkm, hmm⟩
  refine h.world ?_ (mmKept_set hkept g)
  rfl

/-- Every step keeps track of who is where. -/
theorem processStep_tracked
    (h : w.Tracked) (e : ProcessEvent) : (processStep cfg kx w e).Tracked := by
  cases e with
  | clone t child vm addr =>
      simp only [processStep]
      split
      · exact h
      · rename_i task htask
        exact h.clone (mem_of_task htask) child vm addr
  | exec t addr kept =>
      simp only [processStep]
      split
      · exact h
      · exact h.exec _ addr kept
  | exit t =>
      simp only [processStep]
      split
      · exact h
      · apply Tracked.dropFiles
        apply h.tasks
        intro task htask
        exact ⟨task, List.mem_of_mem_filter htask, rfl, rfl⟩
  | pass t t' file =>
      simp only [processStep]
      split
      · exact h
      · split
        · exact h.updateTask t' (fun _ => rfl) fun _ => rfl
        · exact h
  | close t file =>
      apply Tracked.dropFile
      apply h.updateTask t
      · intro task
        rfl
      · intro task
        rfl
  | create t a =>
      simp only [processStep]
      split
      · exact h
      · rename_i task htask
        exact h.create (mem_of_task htask) a
  | add t file vcpuId a =>
      simp only [processStep]
      split
      · exact h
      · split
        · exact (h.lifecycle fun _ => LifecycleEvent.noConfusion).updateTask t
            (fun _ => rfl) fun _ => rfl
        · exact h
  | memory t file arg nativePgd =>
      simp only [processStep]
      split
      · exact h
      · rename_i use huse
        split
        · split
          · rename_i ret kkm m hset
            exact h.setKkm (kontainerUse_spec huse).2.2 (kkmSetKontainerMemory_mm hset) _
          · exact h
        · exact h
  | payloadExit t file e a user =>
      simp only [processStep]
      split
      · rename_i use i huse _
        split
        · rename_i kontext _
          have hmm : ∀ k, (use.kkm.setKontext i k).mm = use.kkm.mm := fun _ => rfl
          exact h.setKkm (kontainerUse_spec huse).2.2 (hmm _) _
        · exact h
      · exact h

/-! ## Main result -/

/-- The request works on the address space of the caller, which is there. -/
structure AccessSound (w : ProcessWorld) (use : KontainerUse) : Prop where
  current : use.task.mm.addr = use.kkm.mm
  alive : w.Alive use.owner

/-- Where everyone is tracked, that is so for the creator's family. -/
theorem accessSound_iff
    (h : w.Tracked) {t : Nat} {file : HeldFile} {use : KontainerUse}
    (huse : kontainerUse w t file = some use) :
    AccessSound w use ↔ use.q ∈ use.task.family := by
  obtain ⟨htask, howner, hkkm⟩ := kontainerUse_spec huse
  have haddr := (h.owners use.q use.owner howner).2.2 use.kkm hkkm
  rw [h.family use.task htask use.q use.owner howner]
  constructor
  · rintro ⟨hcurrent, task, hin, hmm⟩
    rw [← hmm]
    apply h.addrs use.task htask task hin
    rw [hcurrent, haddr, hmm]
  · intro hmm
    exact ⟨by rw [hmm, haddr], use.task, htask, hmm⟩

theorem touchingUse_memory
    {t : Nat} {file : HeldFile} {arg : Option KkmMemoryRegion} {nativePgd : Nat}
    {use : KontainerUse} (h : touchingUse cfg w (.memory t file arg nativePgd) = some use) :
    kontainerUse w t file = some use :=
  (Option.filter_eq_some_iff.mp h).1

theorem touchingUse_use
    {e : ProcessEvent} {use : KontainerUse} (h : touchingUse cfg w e = some use) :
    ∃ t file, kontainerUse w t file = some use := by
  cases e with
  | memory t file arg nativePgd =>
      exact ⟨t, file, touchingUse_memory h⟩
  | payloadExit t file e a user =>
      simp only [touchingUse] at h
      split at h
      · cases h
      · exact ⟨t, file, (Option.filter_eq_some_iff.mp h).1⟩
  | _ => cases h

/-- Before any kontainer: every address space at an address of its own. -/
structure Booted (w : ProcessWorld) (g : KernelState) : Prop where
  world : w.world = .start g
  owner : w.owner = fun _ => none
  addrs : ∀ task ∈ w.tasks, ∀ task' ∈ w.tasks,
    task.mm.addr = task'.mm.addr → task.mm = task'.mm
  serials : ∀ task ∈ w.tasks, task.mm.serial < w.nextSerial
  family : ∀ task ∈ w.tasks, task.family = []

theorem Booted.tracked {g : KernelState} (h : w.Booted g) : w.Tracked := by
  constructor
  · exact h.addrs
  · exact h.serials
  · intro q mm hq
    rw [h.owner] at hq
    cases hq
  · intro task htask q mm hq
    rw [h.owner] at hq
    cases hq
  · intro task htask q hq
    rw [h.family task htask] at hq
    cases hq

/-- Along a run every request that reads `kkm->mm->pgd` or writes guest memory is
made in the address space of its kontainer, and that address space is there,
exactly if each is made by a process that has been in it since the creation. -/
theorem accesses_sound_iff
    (cfg : KkmConfig) (kx : KkmMmuPml4e) {g : KernelState} (h : w.Booted g)
    (es : List ProcessEvent) :
    EveryStep (processStep cfg kx)
        (fun w e => ∀ use, touchingUse cfg w e = some use → AccessSound w use) w es ↔
      EveryStep (processStep cfg kx)
        (fun w e => ∀ use, touchingUse cfg w e = some use →
          use.q ∈ use.task.family) w es := by
  apply everyStep_congr (I := Tracked)
  · intro w e htracked
    exact processStep_tracked htracked e
  · intro w e htracked
    refine forall_congr' fun use => forall_congr' fun huse => ?_
    obtain ⟨t, file, hrequest⟩ := touchingUse_use huse
    exact accessSound_iff htracked hrequest
  · exact h.tracked

end ProcessWorld

/-- One process, with its address space at 4096. -/
def bootedWorld : ProcessWorld where
  world := .start .booted
  tasks := [⟨1, ⟨4096, 0⟩, [], []⟩]
  owner := fun _ => none
  nextSerial := 1

theorem bootedWorld_booted : bootedWorld.Booted .booted := by
  constructor
  · rfl
  · rfl
  · intro task htask task' htask' _
    rw [List.mem_singleton.mp htask, List.mem_singleton.mp htask']
  · intro task htask
    rw [List.mem_singleton.mp htask]
    exact Nat.zero_lt_one
  · intro task htask
    rw [List.mem_singleton.mp htask]

/-- The file of the first kontainer. -/
def kontainerFile : HeldFile := ⟨0, ⟨3, .kontainer⟩⟩

/-- `KKM_MEMORY` for slot 0. -/
def addMemory (t : Nat) : ProcessEvent :=
  .memory t kontainerFile (some (testRegion 0)) 4096

/-- A thread of the creator calls. -/
def threadRun : List ProcessEvent :=
  [.create 1 .granted, .clone 1 2 true 0, addMemory 2]

theorem accesses_sound_thread :
    EveryStep (processStep .stock .zeroed)
      (fun w e => ∀ use, touchingUse .stock w e = some use → w.AccessSound use)
      bootedWorld threadRun := by
  refine (ProcessWorld.accesses_sound_iff .stock .zeroed bootedWorld_booted threadRun).mpr
    ⟨?_, ?_, ?_, trivial⟩
  · intro use huse
    cases huse
  · intro use huse
    cases huse
  · intro use huse
    have hrequest := ProcessWorld.touchingUse_memory huse
    cases hrequest
    exact List.mem_singleton_self 0

/-- A child calls after the creator has exited. -/
def orphanRun : List ProcessEvent :=
  [.create 1 .granted, .clone 1 2 false 8192, .exit 1, addMemory 2]

theorem access_unsound_orphan :
    ¬ EveryStep (processStep .stock .zeroed)
      (fun w e => ∀ use, touchingUse .stock w e = some use → w.AccessSound use)
      bootedWorld orphanRun := by
  rintro ⟨-, -, -, hmemory, -⟩
  let w := (orphanRun.take 3).foldl (processStep .stock .zeroed) bootedWorld
  have htouches : (touchingUse .stock w (addMemory 2)).isSome = true := by
    decide +kernel
  obtain ⟨use, huse⟩ := Option.isSome_iff_exists.mp htouches
  obtain ⟨task, htask, hmm⟩ := (hmemory use huse).alive
  have hrequest := ProcessWorld.touchingUse_memory huse
  cases hrequest
  cases List.mem_singleton.mp htask
  cases hmm

end Driver
end KkmModule
