import KkmModule.Driver.Interleaving
import KkmModule.Foundation.GuardedRun
import Mathlib.Data.Finset.Card

/-!
# What ioctl handlers find

Whenever an ioctl handler is in progress the object of its file should be
complete: a kontainer with page tables, mutexes and a reference, a kontext with
its guest area, xsave area and mmap pages.

Both creators install the file descriptor first.  `handlersReady_of_guarded`
says that the handlers are safe in all interleavings in which a descriptor is
used only after a call has returned it, an add finds a free entry, and no add
returns a descriptor after `kkm_kontext_init` has failed.

The invariant keeps a ledger: for every entry of the table of kontexts who is
in charge of it, and the set of descriptors whose reference is still held.
-/

namespace KkmModule
namespace Driver

open Foundation

/-! ## Complete objects -/

/-- A pair of pages for guest kernel and payload. -/
def LvlReady (kPage pPage : KkmMmuPageInfo) : Prop :=
  kPage.page ≠ none ∧ pPage.va = kPage.va + pageSize

/-- Page-table pages and mutexes of a kontainer. -/
structure KontainerBuilt (cfg : KkmConfig) (kkm : Kkm) : Prop where
  pgd : LvlReady kkm.gkPgd kkm.gpPgd
  p4d : cfg.l5 = true → LvlReady kkm.gkP4d kkm.gpP4d ∧ kkm.lowP4d.page ≠ none
  pud : kkm.kkmGuestPml4e.pud.page ≠ none
  pmd : kkm.kkmGuestPml4e.pmd.page ≠ none
  pt : kkm.kkmGuestPml4e.pt.page ≠ none
  pfLock : kkm.pfLock.initialised = true
  memLock : kkm.memLock.initialised = true
  kontextLock : kkm.kontextLock.initialised = true

section Built

variable {cfg : KkmConfig} {kkm : Kkm}

theorem KontainerBuilt.setCounts
    (h : KontainerBuilt cfg kkm) (references : Int) (count : BitVec 32) :
    KontainerBuilt cfg
      { kkm with referenceCount := references, kontextCount := count } :=
  ⟨h.pgd, h.p4d, h.pud, h.pmd, h.pt, h.pfLock, h.memLock, h.kontextLock⟩

theorem KontainerBuilt.setLock
    (h : KontainerBuilt cfg kkm) {m : Mutex}
    (hm : m.initialised = kkm.kontextLock.initialised) :
    KontainerBuilt cfg { kkm with kontextLock := m } :=
  ⟨h.pgd, h.p4d, h.pud, h.pmd, h.pt, h.pfLock, h.memLock, hm.trans h.kontextLock⟩

theorem KontainerBuilt.setKontext
    (h : KontainerBuilt cfg kkm) (i : Fin kkmMaxContexts) (kontext : KkmKontext) :
    KontainerBuilt cfg (kkm.setKontext i kontext) :=
  ⟨h.pgd, h.p4d, h.pud, h.pmd, h.pt, h.pfLock, h.memLock, h.kontextLock⟩

end Built

/-- A page the monitor maps. -/
def MmapReady (kontext : KkmKontext) (j : Fin kkmContextMapPageCount) : Prop :=
  (kontext.mmapArea j).page ≠ none ∧ (kontext.mmapArea j).kvaddr ≠ 0

structure KontextReady (kontext : KkmKontext) : Prop where
  guestArea : kontext.guestAreaPage ≠ none
  xsave : kontext.xsave.page ≠ none
  mmap : ∀ j, MmapReady kontext j

def EntryReady (entry : Option KkmKontext) : Prop :=
  ∃ kontext, entry = some kontext ∧ KontextReady kontext

/-- What a handler on the file relies on. -/
def TargetReady (cfg : KkmConfig) (kkm : Kkm) : FileTarget → Prop
  | .kontainer => KontainerBuilt cfg kkm ∧ kkm.referenceCount ≠ 0
  | .kontext i => EntryReady (kkm.kontext i)

section Threads

variable {n : Nat}

def SharedKontainer.HandlersReady (cfg : KkmConfig) (k : SharedKontainer n) : Prop :=
  ∀ t file, (k.calls t).handles = some file →
    ∃ kkm, k.kkm = some kkm ∧ TargetReady cfg kkm file.target

/-- Every handler in progress finds a complete object. -/
def Machine.HandlersReady (cfg : KkmConfig) (m : Machine n) : Prop :=
  ∀ q, (m.kontainers q).HandlersReady cfg

/-! ## The condition -/

/-- A descriptor that works has been returned by the call that installed it. -/
def SharedKontainer.FdReturned (k : SharedKontainer n) (fd : Nat) : Prop :=
  ∀ file ∈ k.installed, file.fd = fd → fd ∈ k.returned

instance (k : SharedKontainer n) (fd : Nat) : Decidable (k.FdReturned fd) :=
  inferInstanceAs (Decidable (∀ file ∈ k.installed, file.fd = fd → fd ∈ k.returned))

/-- An add that returns a descriptor has got the pages of its kontext. -/
def AddReturnsComplete (a : AddAnswers) : Prop :=
  a.getfd = true → (∀ j, a.mmap j ≠ none) →
    a.init.guestArea ≠ none ∧ a.init.xsave ≠ none

instance (a : AddAnswers) : Decidable (AddReturnsComplete a) :=
  inferInstanceAs (Decidable (_ → _ → _ ∧ _))

/-- A thread about to search a slot finds one inside the table. -/
def SharedKontainer.findsEntry (k : SharedKontainer n) (t : Fin n) : Bool :=
  match k.calls t, k.kkm with
  | .add _ _ _ .select, some kkm => (freeSlot kkm).isSome
  | _, _ => true

def FdsUsedAfterReturn (m : Machine n) : MachineEvent n → Prop
  | .create _ _ => True
  | .ioctl q _ fd => (m.kontainers q).FdReturned fd
  | .add q _ fd _ a => (m.kontainers q).FdReturned fd ∧ AddReturnsComplete a
  | .close q _ fd => (m.kontainers q).FdReturned fd
  | .next q t => (m.kontainers q).findsEntry t = true

instance (m : Machine n) : ∀ e, Decidable (FdsUsedAfterReturn m e)
  | .create _ _ => inferInstanceAs (Decidable True)
  | .ioctl q _ fd => inferInstanceAs (Decidable ((m.kontainers q).FdReturned fd))
  | .add q _ fd _ a => inferInstanceAs
      (Decidable ((m.kontainers q).FdReturned fd ∧ AddReturnsComplete a))
  | .close q _ fd => inferInstanceAs (Decidable ((m.kontainers q).FdReturned fd))
  | .next q t => inferInstanceAs (Decidable ((m.kontainers q).findsEntry t = true))

/-! ## The ledger -/

/-- Who is in charge of an entry of the table. -/
inductive EntryOwner (n : Nat) where
  | free
  /-- a call of this thread -/
  | busy (t : Fin n)
  /-- the file with this descriptor -/
  | file (fd : Nat)
  /-- nobody: an add left it in use -/
  | lost

structure Ledger (n : Nat) where
  owner : Fin kkmMaxContexts → EntryOwner n
  /-- descriptors whose reference is held -/
  refs : Finset Nat

def Ledger.setOwner
    (L : Ledger n) (i : Fin kkmMaxContexts) (o : EntryOwner n) : Ledger n :=
  { L with owner := Function.update L.owner i o }

@[simp] theorem Ledger.setOwner_refs
    (L : Ledger n) (i : Fin kkmMaxContexts) (o : EntryOwner n) :
    (L.setOwner i o).refs = L.refs := rfl

@[simp] theorem Ledger.setOwner_self
    (L : Ledger n) (i : Fin kkmMaxContexts) (o : EntryOwner n) :
    (L.setOwner i o).owner i = o := by
  simp [Ledger.setOwner]

theorem Ledger.setOwner_of_ne
    (L : Ledger n) {i j : Fin kkmMaxContexts} (h : j ≠ i) (o : EntryOwner n) :
    (L.setOwner i o).owner j = L.owner j := by
  simp [Ledger.setOwner, h]

/-- The ledger has the reference and the entry of a file. -/
def Tracks (L : Ledger n) (file : OpenFile) : Prop :=
  file.fd ∈ L.refs ∧ ∀ i, file.target = .kontext i → L.owner i = .file file.fd

/-! ## What each call relies on -/

/-- A call in progress on entry `i`, holding the lock. -/
structure Working
    (files : List OpenFile) (kkm : Kkm) (nextFd : Nat) (L : Ledger n) (t : Fin n)
    (a : AddAnswers) (i : Fin kkmMaxContexts) (fd : Option Nat)
    (R : KkmKontext → Prop) : Prop where
  holder : kkm.kontextLock.holder = some t.val
  busy : L.owner i = .busy t
  entry : ∃ kontext, kkm.kontext i = some kontext ∧ R kontext
  file : ∀ x, fd = some x →
    x < nextFd ∧ ∀ f ∈ files, f.fd = x → f.target = .kontext i
  asked : fd ≠ none → a.getfd = true

/-- What the caller may rely on once it has learned the descriptor. -/
def Learnt
    (files : List OpenFile) (nextFd : Nat) (L : Ledger n)
    (ret : Int) (fd : Option Nat) : Prop :=
  ∀ x, fd = some x → ret = x →
    x < nextFd ∧ ∀ f ∈ files, f.fd = x → Tracks L f

/-- The mmap pages outside `rest` are there. -/
def MmapDone
    (a : AddAnswers) (rest : List (Fin kkmContextMapPageCount))
    (kontext : KkmKontext) : Prop :=
  ∀ j, j ∉ rest → MmapReady kontext j ∧ a.mmap j ≠ none

def AddPcOk
    (files : List OpenFile) (kkm : Kkm) (nextFd : Nat) (L : Ledger n) (t : Fin n)
    (a : AddAnswers) : AddPc → Prop
  | .lock => True
  | .checks => kkm.kontextLock.holder = some t.val
  | .select => kkm.kontextLock.holder = some t.val
  | .getfd i => Working files kkm nextFd L t a i none fun _ => True
  | .mmap i rest fd => Working files kkm nextFd L t a i fd (MmapDone a rest)
  | .guestArea i fd => Working files kkm nextFd L t a i fd (MmapDone a [])
  | .xsave i fd => Working files kkm nextFd L t a i fd fun kontext =>
      MmapDone a [] kontext ∧ kontext.guestAreaPage ≠ none
  | .cleanup i fd => Working files kkm nextFd L t a i fd (fun _ => True) ∧ fd = none
  | .reference i fd => Working files kkm nextFd L t a i fd KontextReady
  | .count fd => kkm.kontextLock.holder = some t.val ∧
      Learnt files nextFd L (addResult fd) fd
  | .unlock ret fd => kkm.kontextLock.holder = some t.val ∧
      Learnt files nextFd L ret fd
  | .done ret fd => Learnt files nextFd L ret fd

/-- The entry a release works on. -/
def ReleasesEntry
    (kkm : Kkm) (L : Ledger n) (t : Fin n) (i : Fin kkmMaxContexts) : Prop :=
  L.owner i = .busy t ∧ kkm.kontext i ≠ none

def ReleasePcOk (kkm : Kkm) (L : Ledger n) (t : Fin n) : ReleasePc → Prop
  | .cleanup i => ReleasesEntry kkm L t i
  | .mmap i _ => ReleasesEntry kkm L t i
  | .unuse i => ReleasesEntry kkm L t i
  | .lock => True
  | .count => kkm.kontextLock.holder = some t.val
  | .unlock => kkm.kontextLock.holder = some t.val
  | .reference => True

/-- What a creation has built so far. -/
def CreatePcOk (cfg : KkmConfig) (kkm : Kkm) : CreatePc → Prop
  | .ids => True
  | .pgd => True
  | .p4d => LvlReady kkm.gkPgd kkm.gpPgd
  | .low => LvlReady kkm.gkPgd kkm.gpPgd ∧ LvlReady kkm.gkP4d kkm.gpP4d
  | .pml4 => LvlReady kkm.gkPgd kkm.gpPgd ∧
      (cfg.l5 = true → LvlReady kkm.gkP4d kkm.gpP4d ∧ kkm.lowP4d.page ≠ none)
  | .mutexes => KontainerBuilt cfg (kkmKontainerInitMutexes kkm)
  | .copyPgd => KontainerBuilt cfg kkm
  | .count => KontainerBuilt cfg kkm
  | .cleanup ret => ret < 0
  | .done ret => ret < 0 ∨
      ret = kkm.kontainerFd ∧ KontainerBuilt cfg kkm ∧ kkm.referenceCount = 1

def CallOk
    (cfg : KkmConfig) (k : SharedKontainer n) (nextFd : Nat) (L : Ledger n)
    (t : Fin n) : Call → Prop
  | .idle => True
  | .create _ pc => ∃ kkm fd, k.kkm = some kkm ∧ CreatePcOk cfg kkm pc ∧
      k.installed = [⟨fd, .kontainer⟩] ∧ kkm.kontainerFd = fd ∧ fd < nextFd ∧
      kkm.kontext = fun _ => none
  | .ioctl f => f.fd ∈ k.returned ∧ Tracks L f
  | .add f _ a pc => f.fd ∈ k.returned ∧ f.fd ∈ L.refs ∧ f.target = .kontainer ∧
      AddReturnsComplete a ∧ ∃ kkm, k.kkm = some kkm ∧
        AddPcOk k.installed kkm nextFd L t a pc
  | .release f pc => f.fd ∈ k.returned ∧ f.fd ∈ L.refs ∧
      ∃ kkm, k.kkm = some kkm ∧ ReleasePcOk kkm L t pc

/-- The invariant of one kontainer. -/
structure HandlersTracked
    (cfg : KkmConfig) (k : SharedKontainer n) (nextFd : Nat) (L : Ledger n) :
    Prop where
  fresh : ∀ f ∈ k.installed, f.fd < nextFd
  apart : (k.installed.map OpenFile.fd).Nodup
  known : ∀ fd ∈ k.returned, fd < nextFd
  installed : ∀ f ∈ k.installed, f.fd ∈ k.returned → Tracks L f
  calls : ∀ t, CallOk cfg k nextFd L t (k.calls t)
  /-- nobody else can use a kontainer that is being created -/
  creating : ∀ t a pc, k.calls t = .create a pc →
    k.returned = [] ∧ L.refs = ∅ ∧ (∀ i, L.owner i = .free) ∧
      ∀ t', t' ≠ t → k.calls t' = .idle
  /-- nobody else uses a file that is being released -/
  alone : ∀ t f pc, k.calls t = .release f pc →
    (∀ f' ∈ k.installed, f'.fd ≠ f.fd) ∧
      ∀ t', t' ≠ t → (k.calls t').file.map OpenFile.fd ≠ some f.fd
  built : k.returned ≠ [] → ∀ kkm, k.kkm = some kkm → KontainerBuilt cfg kkm
  alive : L.refs.Nonempty → k.kkm ≠ none
  count : ∀ kkm, k.kkm = some kkm →
    (L.refs.card : Int) ≤ kkm.referenceCount ∨ kkm.referenceCount < 0
  slots : ∀ kkm i, k.kkm = some kkm → entryUsed (kkm.kontext i) = false →
    L.owner i = .free
  complete : ∀ kkm i fd, k.kkm = some kkm → L.owner i = .file fd →
    EntryReady (kkm.kontext i)

/-- The invariant is enough for the handlers. -/
theorem HandlersTracked.handlersReady
    {cfg : KkmConfig} {k : SharedKontainer n} {nextFd : Nat} {L : Ledger n}
    (h : HandlersTracked cfg k nextFd L) :
    k.HandlersReady cfg := by
  have hkontainer : ∀ f : OpenFile, f.fd ∈ k.returned → f.fd ∈ L.refs →
      ∃ kkm, k.kkm = some kkm ∧ TargetReady cfg kkm .kontainer := by
    intro f hret href
    obtain ⟨kkm, hkkm⟩ := Option.ne_none_iff_exists'.mp (h.alive ⟨_, href⟩)
    have hbuilt := h.built (List.ne_nil_of_mem hret) kkm hkkm
    have hpos : 0 < L.refs.card := Finset.card_pos.mpr ⟨_, href⟩
    refine ⟨kkm, hkkm, hbuilt, ?_⟩
    rcases h.count kkm hkkm with hle | hneg
    · omega
    · omega
  intro t file hhandles
  have hcall := h.calls t
  cases hc : k.calls t with
  | idle => simp [hc, Call.handles] at hhandles
  | create a pc => simp [hc, Call.handles] at hhandles
  | release f pc => simp [hc, Call.handles] at hhandles
  | add f vcpuId a pc =>
      rw [hc] at hcall hhandles
      cases hhandles
      obtain ⟨hret, href, htarget, _⟩ := hcall
      rw [htarget]
      exact hkontainer file hret href
  | ioctl f =>
      rw [hc] at hcall hhandles
      cases hhandles
      obtain ⟨hret, htracks⟩ := hcall
      cases htarget : file.target with
      | kontainer => exact hkontainer file hret htracks.1
      | kontext i =>
          obtain ⟨kkm, hkkm⟩ :=
            Option.ne_none_iff_exists'.mp (h.alive ⟨_, htracks.1⟩)
          exact ⟨kkm, hkkm, h.complete kkm i _ hkkm (htracks.2 i htarget)⟩

/-! ## Frames -/

/-- What a step of thread `t` leaves to the calls of other threads. -/
structure KkmFrame
    (t : Fin n) (L : Ledger n) (kkm kkm' : Kkm) : Prop where
  entries : ∀ i t', t' ≠ t → L.owner i = .busy t' →
    kkm'.kontext i = kkm.kontext i
  lock : ∀ t' : Fin n, t' ≠ t → kkm.kontextLock.holder = some t'.val →
    kkm'.kontextLock.holder = some t'.val

theorem KkmFrame.of_eq
    {t : Fin n} {L : Ledger n} {k : Option Kkm} {kkm kkm' : Kkm}
    (h : k = some kkm) (h' : k = some kkm') : KkmFrame t L kkm kkm' := by
  cases h.symm.trans h'
  exact ⟨fun _ _ _ _ => rfl, fun _ _ hholder => hholder⟩

/-- The file `gone`, if any, is one that no other thread uses. -/
structure Frame
    (t : Fin n) (gone : Option Nat) (k k' : SharedKontainer n)
    (nextFd nextFd' : Nat) (L L' : Ledger n) : Prop where
  next : nextFd ≤ nextFd'
  installed : ∀ f ∈ k'.installed,
    some f.fd ≠ gone ∧ (f ∈ k.installed ∨ nextFd ≤ f.fd)
  returned : ∀ fd ∈ k.returned, fd ∈ k'.returned
  refs : ∀ fd ∈ L.refs, some fd ≠ gone → fd ∈ L'.refs
  files : ∀ i fd, L.owner i = .file fd → some fd ≠ gone → L'.owner i = .file fd
  busy : ∀ i t', t' ≠ t → L.owner i = .busy t' → L'.owner i = .busy t'
  kkm : ∀ kkm kkm', k.kkm = some kkm → k'.kkm = some kkm' → KkmFrame t L kkm kkm'
  alive : L'.refs.Nonempty → k'.kkm ≠ none

section Frames

variable {t t' : Fin n} {gone : Option Nat} {k k' : SharedKontainer n}
variable {nextFd nextFd' : Nat} {L L' : Ledger n} {cfg : KkmConfig}

theorem Frame.tracks
    (hframe : Frame t gone k k' nextFd nextFd' L L') {f : OpenFile}
    (h : Tracks L f) (hgone : some f.fd ≠ gone) :
    Tracks L' f :=
  ⟨hframe.refs f.fd h.1 hgone,
    fun i htarget => hframe.files i f.fd (h.2 i htarget) hgone⟩

theorem Frame.learnt
    (hframe : Frame t gone k k' nextFd nextFd' L L')
    {ret : Int} {fd : Option Nat} (h : Learnt k.installed nextFd L ret fd) :
    Learnt k'.installed nextFd' L' ret fd := by
  intro x hx hret
  obtain ⟨hlt, htracks⟩ := h x hx hret
  refine ⟨lt_of_lt_of_le hlt hframe.next, ?_⟩
  intro f hf hfd
  obtain ⟨hgone, hold | hnew⟩ := hframe.installed f hf
  · exact hframe.tracks (htracks f hold hfd) hgone
  · omega

theorem Frame.working
    (hframe : Frame t gone k k' nextFd nextFd' L L') (ht : t' ≠ t)
    {kkm kkm' : Kkm} (hkkm : k.kkm = some kkm) (hkkm' : k'.kkm = some kkm')
    {a : AddAnswers} {i : Fin kkmMaxContexts} {fd : Option Nat}
    {R : KkmKontext → Prop} (h : Working k.installed kkm nextFd L t' a i fd R) :
    Working k'.installed kkm' nextFd' L' t' a i fd R := by
  have hkeep := hframe.kkm kkm kkm' hkkm hkkm'
  refine ⟨hkeep.lock t' ht h.holder, hframe.busy i t' ht h.busy, ?_, ?_, h.asked⟩
  · rw [hkeep.entries i t' ht h.busy]
    exact h.entry
  · intro x hx
    obtain ⟨hlt, hfiles⟩ := h.file x hx
    refine ⟨lt_of_lt_of_le hlt hframe.next, ?_⟩
    intro f hf hfd
    rcases (hframe.installed f hf).2 with hold | hnew
    · exact hfiles f hold hfd
    · omega

theorem Frame.addPcOk
    (hframe : Frame t gone k k' nextFd nextFd' L L') (ht : t' ≠ t)
    {kkm kkm' : Kkm} (hkkm : k.kkm = some kkm) (hkkm' : k'.kkm = some kkm')
    {a : AddAnswers} {pc : AddPc} (h : AddPcOk k.installed kkm nextFd L t' a pc) :
    AddPcOk k'.installed kkm' nextFd' L' t' a pc := by
  have hkeep := hframe.kkm kkm kkm' hkkm hkkm'
  cases pc with
  | lock => exact trivial
  | checks => exact hkeep.lock t' ht h
  | select => exact hkeep.lock t' ht h
  | getfd i => exact hframe.working ht hkkm hkkm' h
  | mmap i rest fd => exact hframe.working ht hkkm hkkm' h
  | guestArea i fd => exact hframe.working ht hkkm hkkm' h
  | xsave i fd => exact hframe.working ht hkkm hkkm' h
  | cleanup i fd => exact ⟨hframe.working ht hkkm hkkm' h.1, h.2⟩
  | reference i fd => exact hframe.working ht hkkm hkkm' h
  | count fd => exact ⟨hkeep.lock t' ht h.1, hframe.learnt h.2⟩
  | unlock ret fd => exact ⟨hkeep.lock t' ht h.1, hframe.learnt h.2⟩
  | done ret fd => exact hframe.learnt h

theorem Frame.releasePcOk
    (hframe : Frame t gone k k' nextFd nextFd' L L') (ht : t' ≠ t)
    {kkm kkm' : Kkm} (hkkm : k.kkm = some kkm) (hkkm' : k'.kkm = some kkm')
    {pc : ReleasePc} (h : ReleasePcOk kkm L t' pc) :
    ReleasePcOk kkm' L' t' pc := by
  have hkeep := hframe.kkm kkm kkm' hkkm hkkm'
  have hentry : ∀ i, ReleasesEntry kkm L t' i → ReleasesEntry kkm' L' t' i := by
    rintro i ⟨hbusy, hsome⟩
    refine ⟨hframe.busy i t' ht hbusy, ?_⟩
    rw [hkeep.entries i t' ht hbusy]
    exact hsome
  cases pc with
  | cleanup i => exact hentry i h
  | mmap i rest => exact hentry i h
  | unuse i => exact hentry i h
  | lock => exact trivial
  | count => exact hkeep.lock t' ht h
  | unlock => exact hkeep.lock t' ht h
  | reference => exact trivial

/-- A call of another thread is not disturbed. -/
theorem Frame.callOk
    (hframe : Frame t gone k k' nextFd nextFd' L L') (ht : t' ≠ t)
    {c : Call} (hcreate : ∀ a pc, c ≠ .create a pc)
    (hgone : ∀ f, c.file = some f → some f.fd ≠ gone)
    (h : CallOk cfg k nextFd L t' c) :
    CallOk cfg k' nextFd' L' t' c := by
  cases c with
  | idle => exact trivial
  | create a pc => exact absurd rfl (hcreate a pc)
  | ioctl f => exact ⟨hframe.returned _ h.1, hframe.tracks h.2 (hgone f rfl)⟩
  | add f vcpuId a pc =>
      obtain ⟨hret, href, htarget, ha, kkm, hkkm, hpc⟩ := h
      have href' := hframe.refs _ href (hgone f rfl)
      obtain ⟨kkm', hkkm'⟩ :=
        Option.ne_none_iff_exists'.mp (hframe.alive ⟨_, href'⟩)
      exact ⟨hframe.returned _ hret, href', htarget, ha, kkm', hkkm',
        hframe.addPcOk ht hkkm hkkm' hpc⟩
  | release f pc =>
      obtain ⟨hret, href, kkm, hkkm, hpc⟩ := h
      have href' := hframe.refs _ href (hgone f rfl)
      obtain ⟨kkm', hkkm'⟩ :=
        Option.ne_none_iff_exists'.mp (hframe.alive ⟨_, href'⟩)
      exact ⟨hframe.returned _ hret, href', kkm', hkkm',
        hframe.releasePcOk ht hkkm hkkm' hpc⟩

end Frames

end Threads

end Driver
end KkmModule
