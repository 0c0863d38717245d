import KkmModule.Driver.InstalledFiles

/-!
# Calls in progress

The calls of the driver as sequences of small steps, taken by threads in any
order: creation of a kontainer, `KKM_ADD_EXECUTION_CONTEXT`, ioctl handlers and
releases.  A file descriptor can be used from the step on in which
`anon_inode_getfd` installs it.  A release function runs when the file is
closed and no handler on it is in progress any more.

Handlers other than `kkm_add_execution_kontext` change neither the pages nor the
counts of a kontainer; all that matters here is that they are in progress.
What the kernel answers during a call is fixed when the call starts.
-/

namespace KkmModule
namespace Driver

open Foundation

/-! ## Steps of `kkm_create_kontainer` -/

/-- What comes next after the file descriptor is installed. -/
inductive CreatePc where
  | ids
  | pgd
  | p4d
  | low
  | pml4
  | mutexes
  | copyPgd
  | count
  | cleanup (ret : Int)
  | done (ret : Int)

def createNext (cfg : KkmConfig) (kx : KkmMmuPml4e) (a : CreateAnswers) :
    CreatePc → Kkm → KernelState → CreatePc × Kkm × KernelState
  | .ids, kkm, g =>
      let objectId := g.kkmObjectId + 1#64
      (.pgd, { kkm with id := objectId, mm := a.currentMm },
        { g with kkmObjectId := objectId })
  | .pgd, kkm, g =>
      let (ret, kkm, s) := kkmKontainerAllocatePgdPages a.init.pgd kkm g.pages
      (if ret ≠ 0 then .cleanup ret else if cfg.l5 then .p4d else .pml4, kkm,
        { g with pages := s })
  | .p4d, kkm, g =>
      let (ret, kkm, s) := kkmKontainerAllocateP4dPages a.init.p4d kkm g.pages
      (if ret ≠ 0 then .cleanup ret else .low, kkm, { g with pages := s })
  | .low, kkm, g =>
      let (ret, kkm, s) := kkmKontainerAllocateLowPage a.init.low kkm g.pages
      (if ret ≠ 0 then .done ret else .pml4, kkm, { g with pages := s })
  | .pml4, kkm, g =>
      let (ret, kkm, s) := kkmKontainerCreatePml4 kx a.init.pml4 kkm g.pages
      (if ret ≠ 0 then .cleanup ret else .mutexes, kkm, { g with pages := s })
  | .mutexes, kkm, g => (.copyPgd, kkmKontainerInitMutexes kkm, g)
  | .copyPgd, kkm, g =>
      let (ret, m) := kkmMmuCopyKernelPgd cfg kx a.currentPgd kkm.gkPgd.va
        kkm.gpPgd.va kkm.gkP4d.va kkm.gpP4d.va g.pages.mem
      (if ret ≠ 0 then .done ret else .count, kkm,
        { g with pages := { g.pages with mem := m } })
  | .count, kkm, g => (.done kkm.kontainerFd, kkmReferenceCountInit kkm, g)
  | .cleanup ret, kkm, g =>
      let (kkm, s) := kkmKontainerCleanup kkm g.pages
      (.done ret, kkm, { g with pages := s })
  | .done ret, kkm, g => (.done ret, kkm, g)

/-! ## Steps of `kkm_add_execution_kontext` -/

/-- What comes next; `fd` is the descriptor that the call has installed.  The
slot search and the fields up to `used` are one step: nobody else gets to the
kontext before its file descriptor exists. -/
inductive AddPc where
  | lock
  | checks
  | select
  | getfd (i : Fin kkmMaxContexts)
  | mmap (i : Fin kkmMaxContexts) (rest : List (Fin kkmContextMapPageCount))
      (fd : Option Nat)
  | guestArea (i : Fin kkmMaxContexts) (fd : Option Nat)
  | xsave (i : Fin kkmMaxContexts) (fd : Option Nat)
  | cleanup (i : Fin kkmMaxContexts) (fd : Option Nat)
  | reference (i : Fin kkmMaxContexts) (fd : Option Nat)
  | count (fd : Option Nat)
  | unlock (ret : Int) (fd : Option Nat)
  | done (ret : Int) (fd : Option Nat)

/-- `ret_val` of a call that gets to its end. -/
def addResult : Option Nat → Int
  | some fd => fd
  | none => 0

/-- Work on a kontext of the table. -/
def onKontext {α : Type} (kkm : Kkm) (i : Fin kkmMaxContexts)
    (f : KkmKontext → α) : Except KernelFault α :=
  match kkm.kontext i with
  | none => .error .danglingKkm
  | some kontext => .ok (f kontext)

/-- State of the kkm, its files and the kernel. -/
structure AddState where
  kkm : Kkm
  files : List OpenFile
  kernel : KernelState

def AddState.setKontext
    (s : AddState) (i : Fin kkmMaxContexts) (kontext : KkmKontext)
    (pages : PageState) : AddState :=
  { s with
    kkm := s.kkm.setKontext i kontext
    kernel := { s.kernel with pages := pages } }

/-- The entry found by the search is taken. -/
def addClaim
    (vcpuId : BitVec 32) (a : AddAnswers) (i : Fin kkmMaxContexts)
    (kontext : KkmKontext) (s : AddState) : AddPc × AddState :=
  let objectId := s.kernel.kkmObjectId + 1#64
  (.getfd i,
    { s with
      kkm := s.kkm.setKontext i (claimKontext s.kkm vcpuId a.task objectId kontext)
      kernel := { s.kernel with kkmObjectId := objectId } })

def addGetfd (a : AddAnswers) (i : Fin kkmMaxContexts) (kontext : KkmKontext)
    (s : AddState) : AddPc × AddState :=
  if a.getfd then
    let fd := s.kernel.nextFd
    (.mmap i (List.finRange kkmContextMapPageCount) (some fd),
      { kkm := s.kkm.setKontext i { kontext with kontextFd := fd }
        files := ⟨fd, .kontext i⟩ :: s.files
        kernel := { s.kernel with nextFd := fd + 1 } })
  else
    (.mmap i (List.finRange kkmContextMapPageCount) none,
      { s with kkm := s.kkm.setKontext i { kontext with kontextFd := -emfile } })

def addNext (cfg : KkmConfig) (thread : Nat) (vcpuId : BitVec 32) (a : AddAnswers) :
    AddPc → AddState → Except KernelFault (AddPc × AddState)
  | .lock, s =>
      if s.kkm.kontextLock.holder = none then
        .ok (.checks, { s with kkm := { s.kkm with
          kontextLock := { s.kkm.kontextLock with holder := some thread } } })
      else .ok (.lock, s)
  | .checks, s =>
      .ok (if addIsRefused s.kkm vcpuId a then .unlock (-einval) none else .select,
        s)
  | .select, s =>
      match freeSlot s.kkm with
      | none => .error (.kontextIndex kkmMaxContexts)
      | some i =>
          match s.kkm.kontext i with
          | some kontext => .ok (addClaim vcpuId a i kontext s)
          | none =>
              .ok (if a.kzalloc then addClaim vcpuId a i .zeroed s
                else (.unlock (-enomem) none, s))
  | .getfd i, s => onKontext s.kkm i fun kontext => addGetfd a i kontext s
  | .mmap i [] fd, s => .ok (.guestArea i fd, s)
  | .mmap i (j :: rest) fd, s => onKontext s.kkm i fun kontext =>
      let (ok, kontext, pages) := allocMmapPage j (a.mmap j) kontext s.kernel.pages
      (if ok then .mmap i rest fd else .unlock (-enomem) fd,
        s.setKontext i kontext pages)
  | .guestArea i fd, s => onKontext s.kkm i fun kontext =>
      let (ret, kontext, pages) := kkmKontextInitGuestArea cfg s.kkm
        a.init.guestArea kontext s.kernel.pages
      (if ret ≠ 0 then .cleanup i fd else .xsave i fd,
        s.setKontext i kontext pages)
  | .xsave i fd, s => onKontext s.kkm i fun kontext =>
      let (ret, kontext, pages) :=
        kkmKontextInitXsave a.init.xsave kontext s.kernel.pages
      (if ret ≠ 0 then .cleanup i fd else .reference i fd,
        s.setKontext i kontext pages)
  | .cleanup i fd, s => onKontext s.kkm i fun kontext =>
      let (kontext, pages) := kkmKontextCleanup kontext s.kernel.pages
      -- the error label leaves `ret_val` alone
      (.unlock (addResult fd) fd, s.setKontext i kontext pages)
  | .reference _ fd, s =>
      .ok (.count fd, { s with kkm := kkmReferenceCountUp s.kkm })
  | .count fd, s =>
      .ok (.unlock (addResult fd) fd,
        { s with kkm := { s.kkm with kontextCount := s.kkm.kontextCount + 1#32 } })
  | .unlock ret fd, s =>
      .ok (.done ret fd, { s with kkm := { s.kkm with
        kontextLock := { s.kkm.kontextLock with holder := none } } })
  | .done ret fd, s => .ok (.done ret fd, s)

/-! ## Steps of a release -/

/-- What comes next in `kkm_execution_kontext_release`; a kontainer file has the
last step only. -/
inductive ReleasePc where
  | cleanup (i : Fin kkmMaxContexts)
  | mmap (i : Fin kkmMaxContexts) (rest : List (Fin kkmContextMapPageCount))
  | unuse (i : Fin kkmMaxContexts)
  | lock
  | count
  | unlock
  | reference

def releaseStart : FileTarget → ReleasePc
  | .kontainer => .reference
  | .kontext i => .cleanup i

def releaseNext (thread : Nat) :
    ReleasePc → Kkm → PageState → Except KernelFault (ReleasePc × Kkm × PageState)
  | .cleanup i, kkm, s => onKontext kkm i fun kontext =>
      let (kontext, s) := kkmKontextCleanup kontext s
      (.mmap i (List.finRange kkmContextMapPageCount), kkm.setKontext i kontext, s)
  | .mmap i [], kkm, s => .ok (.unuse i, kkm, s)
  | .mmap i (j :: rest), kkm, s => onKontext kkm i fun kontext =>
      let (kontext, s) := freeMmapPage j kontext s
      (.mmap i rest, kkm.setKontext i kontext, s)
  | .unuse i, kkm, s => onKontext kkm i fun kontext =>
      (.lock, kkm.setKontext i { kontext with used := false, firstThread := false },
        s)
  | .lock, kkm, s =>
      if kkm.kontextLock.holder = none then
        .ok (.count, { kkm with
          kontextLock := { kkm.kontextLock with holder := some thread } }, s)
      else .ok (.lock, kkm, s)
  | .count, kkm, s =>
      .ok (.unlock, { kkm with kontextCount := kkm.kontextCount - 1#32 }, s)
  | .unlock, kkm, s =>
      .ok (.reference, { kkm with
        kontextLock := { kkm.kontextLock with holder := none } }, s)
  | .reference, kkm, s => .ok (.reference, kkm, s)

/-! ## Threads -/

/-- What a thread does in a kontainer. -/
inductive Call where
  | idle
  | create (answers : CreateAnswers) (pc : CreatePc)
  /-- any handler but the one of `KKM_ADD_EXECUTION_CONTEXT` -/
  | ioctl (file : OpenFile)
  | add (file : OpenFile) (vcpuId : BitVec 32) (answers : AddAnswers) (pc : AddPc)
  | release (file : OpenFile) (pc : ReleasePc)

/-- The file whose handler the call is. -/
def Call.handles : Call → Option OpenFile
  | .ioctl file => some file
  | .add file _ _ _ => some file
  | _ => none

/-- The file the call works on. -/
def Call.file : Call → Option OpenFile
  | .ioctl file => some file
  | .add file _ _ _ => some file
  | .release file _ => some file
  | _ => none

/-- A kontainer with `n` threads. -/
structure SharedKontainer (n : Nat) where
  kkm : Option Kkm
  /-- descriptors that work -/
  installed : List OpenFile
  /-- descriptors that a call has returned to its caller -/
  returned : List Nat
  calls : Fin n → Call

section Threads

variable {n : Nat}

def SharedKontainer.absent : SharedKontainer n := ⟨none, [], [], fun _ => .idle⟩

def SharedKontainer.setCall (k : SharedKontainer n) (t : Fin n) (c : Call) :
    SharedKontainer n :=
  { k with calls := Function.update k.calls t c }

/-- The descriptor of an installed file. -/
def SharedKontainer.find (k : SharedKontainer n) (fd : Nat) : Option OpenFile :=
  k.installed.find? fun f => decide (f.fd = fd)

/-- The file is installed, or a thread other than `t` is in a handler of it. -/
def SharedKontainer.keepsOpen
    (k : SharedKontainer n) (t : Fin n) (file : OpenFile) : Bool :=
  k.installed.any (fun f => decide (f.fd = file.fd)) ||
    decide (∃ t', t' ≠ t ∧ (k.calls t').handles.map OpenFile.fd = some file.fd)

/-- Thread `t` gives up its hold on a file. -/
def SharedKontainer.dropFile
    (k : SharedKontainer n) (t : Fin n) (file : OpenFile) : SharedKontainer n :=
  if k.keepsOpen t file then k.setCall t .idle
  else k.setCall t (.release file (releaseStart file.target))

/-- The caller learns a descriptor from the result of its call. -/
def learn (ret : Int) (fd : Option Nat) (returned : List Nat) : List Nat :=
  match fd with
  | some fd => if ret = fd then fd :: returned else returned
  | none => returned

/-- The next step of thread `t`. -/
def SharedKontainer.next
    (cfg : KkmConfig) (kx : KkmMmuPml4e) (k : SharedKontainer n) (t : Fin n)
    (g : KernelState) : Except KernelFault (SharedKontainer n × KernelState) :=
  match k.calls t with
  | .idle => .ok (k, g)
  | .ioctl file => .ok (k.dropFile t file, g)
  | .create _ (.done ret) =>
      let returned := if 0 ≤ ret then ret.toNat :: k.returned else k.returned
      .ok ({ k with returned := returned }.setCall t .idle, g)
  | .create a pc =>
      match k.kkm with
      | none => .error .danglingKkm
      | some kkm =>
          let (pc, kkm, g) := createNext cfg kx a pc kkm g
          .ok ({ k with kkm := some kkm }.setCall t (.create a pc), g)
  | .add file _ _ (.done ret fd) =>
      .ok ({ k with returned := learn ret fd k.returned }.dropFile t file, g)
  | .add file vcpuId a pc =>
      match k.kkm with
      | none => .error .danglingKkm
      | some kkm =>
          (addNext cfg t vcpuId a pc ⟨kkm, k.installed, g⟩).map fun r =>
            ({ k with kkm := some r.2.kkm, installed := r.2.files }.setCall t
              (.add file vcpuId a r.1), r.2.kernel)
  | .release _ .reference =>
      match k.kkm with
      | none => .error .danglingKkm
      | some kkm =>
          let (r, g) := kkmReferenceCountDown kkm .absent g
          .ok ({ k with kkm := r.kkm }.setCall t .idle, g)
  | .release file pc =>
      match k.kkm with
      | none => .error .danglingKkm
      | some kkm =>
          (releaseNext t pc kkm g.pages).map fun r =>
            ({ k with kkm := some r.2.1 }.setCall t (.release file r.1),
              { g with pages := r.2.2 })

/-- A thread that is not in a call of the kontainer starts one. -/
def SharedKontainer.start
    (k : SharedKontainer n) (t : Fin n) (fd : Nat)
    (call : OpenFile → SharedKontainer n) : SharedKontainer n :=
  match k.calls t with
  | .idle =>
      match k.find fd with
      | none => k
      | some file => call file
  | _ => k

def SharedKontainer.startIoctl (k : SharedKontainer n) (t : Fin n) (fd : Nat) :
    SharedKontainer n :=
  k.start t fd fun file => k.setCall t (.ioctl file)

def SharedKontainer.startAdd
    (k : SharedKontainer n) (t : Fin n) (fd : Nat) (vcpuId : BitVec 32)
    (a : AddAnswers) : SharedKontainer n :=
  k.start t fd fun file =>
    if file.target = .kontainer then k.setCall t (.add file vcpuId a .lock) else k

def SharedKontainer.close (k : SharedKontainer n) (t : Fin n) (fd : Nat) :
    SharedKontainer n :=
  k.start t fd fun file =>
    { k with installed := k.installed.erase file }.dropFile t file

/-- The start of `kkm_create_kontainer`, up to the file descriptor. -/
def startCreate (a : CreateAnswers) (t : Fin n) (g : KernelState) :
    SharedKontainer n × KernelState :=
  if a.kzalloc = false then (.absent, g)
  else if a.getfd = false then
    ({ SharedKontainer.absent with
        kkm := some { Kkm.zeroed with kontainerFd := -emfile } }, g)
  else
    let fd := g.nextFd
    (SharedKontainer.setCall
      { kkm := some { Kkm.zeroed with kontainerFd := fd }
        installed := [⟨fd, .kontainer⟩]
        returned := []
        calls := fun _ => .idle } t (.create a .ids),
      { g with nextFd := fd + 1 })

/-- All kontainers of a machine. -/
structure Machine (n : Nat) where
  kontainers : Nat → SharedKontainer n
  created : Nat
  kernel : KernelState

def Machine.booted (g : KernelState) : Machine n := ⟨fun _ => .absent, 0, g⟩

inductive MachineEvent (n : Nat) where
  | create (t : Fin n) (answers : CreateAnswers)
  | ioctl (q : Nat) (t : Fin n) (fd : Nat)
  | add (q : Nat) (t : Fin n) (fd : Nat) (vcpuId : BitVec 32) (answers : AddAnswers)
  | close (q : Nat) (t : Fin n) (fd : Nat)
  | next (q : Nat) (t : Fin n)

def Machine.set (m : Machine n) (q : Nat) (k : SharedKontainer n) : Machine n :=
  { m with kontainers := Function.update m.kontainers q k }

def machineStep (cfg : KkmConfig) (kx : KkmMmuPml4e) (m : Machine n) :
    MachineEvent n → Except KernelFault (Machine n)
  | .create t a =>
      let (k, g) := startCreate a t m.kernel
      .ok { m.set m.created k with created := m.created + 1, kernel := g }
  | .ioctl q t fd => .ok (m.set q ((m.kontainers q).startIoctl t fd))
  | .add q t fd vcpuId a => .ok (m.set q ((m.kontainers q).startAdd t fd vcpuId a))
  | .close q t fd => .ok (m.set q ((m.kontainers q).close t fd))
  | .next q t =>
      ((m.kontainers q).next cfg kx t m.kernel).map fun r =>
        { m.set q r.1 with kernel := r.2 }

end Threads

end Driver
end KkmModule
