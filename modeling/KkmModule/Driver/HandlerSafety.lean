import KkmModule.Driver.HandlerRuns

/-!
# Safety of handlers in all interleavings

The steps of a creation, then the steps of a kontainer and of the machine, and
`handlersReady_of_guarded`: in every guarded interleaving all handlers find
complete objects.

`handler_before_pgd` is an interleaving in which one does not: a thread uses the
descriptor of a kontainer whose creation has only just installed it.
-/

namespace KkmModule
namespace Driver

open Foundation

section Creation

variable {n : Nat} {cfg : KkmConfig} {kx : KkmMmuPml4e} {a : CreateAnswers}
variable {kkm : Kkm} {g : KernelState}

/-! ## What the parts of `kkm_kontainer_init` build -/

theorem kkmKontainerAllocateLvlPages_ready
    {kPage pPage : KkmMmuPageInfo} {answer : Option Nat} {s : PageState}
    (hzero : (kkmKontainerAllocateLvlPages kPage pPage answer s).1 = 0) :
    let r := kkmKontainerAllocateLvlPages kPage pPage answer s
    LvlReady r.2.1 r.2.2.1 := by
  obtain ⟨frame, rfl, heven⟩ :=
    (kkmKontainerAllocateLvlPages_zero_iff kPage pPage answer s).mp hzero
  have hcount : kkmKontainerLvlPageCount ≠ 0 := by decide
  have hodd : ¬ (s.pool.next + frame) * pageSize &&& kkmUserPgtableMask =
      kkmUserPgtableMask := by
    rw [odd_page_iff, not_not]
    exact heven
  simp only [kkmKontainerAllocateLvlPages,
    kkmMmAllocatePages_some kPage hcount frame s, if_neg hodd]
  exact ⟨by simp, rfl⟩

theorem kkmKontainerAllocateLowPage_ready
    {answer : Option Nat} {s : PageState}
    (hzero : (kkmKontainerAllocateLowPage answer kkm s).1 = 0) :
    (kkmKontainerAllocateLowPage answer kkm s).2.1.lowP4d.page ≠ none := by
  have hcount : kkmKontainerLowPageCount ≠ 0 := by decide
  obtain ⟨frame, rfl⟩ := Option.ne_none_iff_exists'.mp
    ((kkmKontainerAllocateLowPage_zero_iff answer kkm s).mp hzero)
  simp only [kkmKontainerAllocateLowPage,
    kkmMmAllocatePages_some kkm.lowP4d hcount frame s]
  simp

/-- With its private hierarchy and its mutexes a kontainer is complete. -/
theorem kkmKontainerCreatePml4_built
    {answers : Pml4Answers} {s : PageState}
    (hpgd : LvlReady kkm.gkPgd kkm.gpPgd)
    (hl5 : cfg.l5 = true →
      LvlReady kkm.gkP4d kkm.gpP4d ∧ kkm.lowP4d.page ≠ none)
    (hzero : (kkmKontainerCreatePml4 kx answers kkm s).1 = 0) :
    KontainerBuilt cfg (kkmKontainerInitMutexes
      (kkmKontainerCreatePml4 kx answers kkm s).2.1) := by
  have hret : (kkmCreatePml4 .kontainer kx kkmKmGuestPrivateMemStartVa answers
      s).1 = 0 := hzero
  obtain ⟨pud, pmd, pt, rfl⟩ := kkmCreatePml4_answers (Prod.ext hret rfl)
  simp only [kkmKontainerCreatePml4, kkmCreatePml4_some]
  exact ⟨hpgd, hl5, by simp [pml4OfFrames, kkmKontainerInitMutexes],
    by simp [pml4OfFrames, kkmKontainerInitMutexes],
    by simp [pml4OfFrames, kkmKontainerInitMutexes], rfl, rfl, rfl⟩

theorem neg_of_nonpos_of_ne {ret : Int} (hle : ret ≤ 0) (hne : ret ≠ 0) : ret < 0 :=
  lt_of_le_of_ne hle hne

/-! ## One step of a creation -/

/-- A step of a creation builds what the next one relies on, installs nothing
and leaves the table of kontexts alone. -/
def CreateStepOk
    (cfg : KkmConfig) (kkm : Kkm) (g : KernelState)
    (r : CreatePc × Kkm × KernelState) : Prop :=
  CreatePcOk cfg r.2.1 r.1 ∧ r.2.1.kontainerFd = kkm.kontainerFd ∧
    r.2.1.kontext = kkm.kontext ∧ r.2.2.nextFd = g.nextFd

theorem createNext_pgd :
    CreateStepOk cfg kkm g (createNext cfg kx a .pgd kkm g) := by
  refine ⟨?_, rfl, rfl, rfl⟩
  simp only [createNext]
  split
  · rename_i hret
    exact neg_of_nonpos_of_ne (kkmKontainerAllocateLvlPages_nonpos ..) hret
  · rename_i hret
    have hready := kkmKontainerAllocateLvlPages_ready (not_not.mp hret)
    split
    · exact hready
    · rename_i hl4
      exact ⟨hready, fun hl5 => absurd hl5 hl4⟩

theorem createNext_p4d
    (hs : CreatePcOk cfg kkm .p4d) :
    CreateStepOk cfg kkm g (createNext cfg kx a .p4d kkm g) := by
  refine ⟨?_, rfl, rfl, rfl⟩
  simp only [createNext]
  split
  · rename_i hret
    exact neg_of_nonpos_of_ne (kkmKontainerAllocateLvlPages_nonpos ..) hret
  · rename_i hret
    exact ⟨hs, kkmKontainerAllocateLvlPages_ready (not_not.mp hret)⟩

theorem createNext_low
    (hs : CreatePcOk cfg kkm .low) :
    CreateStepOk cfg kkm g (createNext cfg kx a .low kkm g) := by
  refine ⟨?_, rfl, rfl, rfl⟩
  simp only [createNext]
  split
  · rename_i hret
    refine Or.inl (neg_of_nonpos_of_ne ?_ hret)
    exact kkmMmAllocatePages_nonpos _ kkmKontainerLowPageCount a.init.low _
  · rename_i hret
    exact ⟨hs.1, fun _ =>
      ⟨hs.2, kkmKontainerAllocateLowPage_ready (not_not.mp hret)⟩⟩

theorem createNext_pml4
    (hs : CreatePcOk cfg kkm .pml4) :
    CreateStepOk cfg kkm g (createNext cfg kx a .pml4 kkm g) := by
  refine ⟨?_, rfl, rfl, rfl⟩
  simp only [createNext]
  split
  · rename_i hret
    refine neg_of_nonpos_of_ne ?_ hret
    exact kkmCreatePml4_nonpos .kontainer kx kkmKmGuestPrivateMemStartVa
      a.init.pml4 g.pages
  · rename_i hret
    exact kkmKontainerCreatePml4_built hs.1 hs.2 (not_not.mp hret)

theorem createNext_copyPgd
    (hs : CreatePcOk cfg kkm .copyPgd) :
    CreateStepOk cfg kkm g (createNext cfg kx a .copyPgd kkm g) := by
  refine ⟨?_, rfl, rfl, rfl⟩
  simp only [createNext, kkmMmuCopyKernelPgd]
  split
  · exact Or.inl (show (-einval : Int) < 0 by decide)
  · exact hs

/-- One step of a creation. -/
theorem createNext_ok
    {pc : CreatePc} (hs : CreatePcOk cfg kkm pc) :
    CreateStepOk cfg kkm g (createNext cfg kx a pc kkm g) := by
  cases pc with
  | ids => exact ⟨trivial, rfl, rfl, rfl⟩
  | pgd => exact createNext_pgd
  | p4d => exact createNext_p4d hs
  | low => exact createNext_low hs
  | pml4 => exact createNext_pml4 hs
  | mutexes => exact ⟨hs, rfl, rfl, rfl⟩
  | copyPgd => exact createNext_copyPgd hs
  | count => exact ⟨Or.inr ⟨rfl, hs.setCounts _ _, rfl⟩, rfl, rfl, rfl⟩
  | cleanup ret =>
      have hsame := kkmKontainerCleanup_sameCounts kkm g.pages
      exact ⟨Or.inl hs, hsame.kontainerFd, hsame.kontext, rfl⟩
  | done ret => exact ⟨hs, rfl, rfl, rfl⟩

end Creation

/-! ## Steps of a kontainer -/

section Kontainer

variable {n : Nat} {cfg : KkmConfig} {kx : KkmMmuPml4e}
variable {k : SharedKontainer n} {nextFd : Nat} {L : Ledger n} {t : Fin n}
variable {kkm : Kkm} {g : KernelState}

theorem Working.mono
    {files : List OpenFile} {a : AddAnswers} {i : Fin kkmMaxContexts}
    {fd : Option Nat} {R : KkmKontext → Prop}
    (h : Working files kkm nextFd L t a i fd R)
    {nextFd' : Nat} (hle : nextFd ≤ nextFd') :
    Working files kkm nextFd' L t a i fd R :=
  ⟨h.holder, h.busy, h.entry,
    fun x hx => ⟨lt_of_lt_of_le (h.file x hx).1 hle, (h.file x hx).2⟩, h.asked⟩

theorem Learnt.mono
    {files : List OpenFile} {ret : Int} {fd : Option Nat}
    (h : Learnt files nextFd L ret fd) {nextFd' : Nat} (hle : nextFd ≤ nextFd') :
    Learnt files nextFd' L ret fd :=
  fun x hx hret => ⟨lt_of_lt_of_le (h x hx hret).1 hle, (h x hx hret).2⟩

theorem AddPcOk.mono
    {files : List OpenFile} {a : AddAnswers} {pc : AddPc}
    (h : AddPcOk files kkm nextFd L t a pc)
    {nextFd' : Nat} (hle : nextFd ≤ nextFd') :
    AddPcOk files kkm nextFd' L t a pc := by
  cases pc with
  | lock => exact trivial
  | checks => exact h
  | select => exact h
  | getfd i => exact Working.mono h hle
  | mmap i rest fd => exact Working.mono h hle
  | guestArea i fd => exact Working.mono h hle
  | xsave i fd => exact Working.mono h hle
  | cleanup i fd => exact ⟨h.1.mono hle, h.2⟩
  | reference i fd => exact Working.mono h hle
  | count fd => exact ⟨h.1, h.2.mono hle⟩
  | unlock ret fd => exact ⟨h.1, h.2.mono hle⟩
  | done ret fd => exact Learnt.mono h hle

/-- A step in another kontainer hands out descriptors. -/
theorem HandlersTracked.mono
    (h : HandlersTracked cfg k nextFd L) {nextFd' : Nat} (hle : nextFd ≤ nextFd') :
    HandlersTracked cfg k nextFd' L := by
  have hcalls : ∀ t, CallOk cfg k nextFd' L t (k.calls t) := by
    intro t
    have hcall := h.calls t
    cases hc : k.calls t with
    | create a pc =>
        rw [hc] at hcall
        obtain ⟨kkm, fd, hkkm, hpc, hinstalled, hfd, hlt, hkontext⟩ := hcall
        exact ⟨kkm, fd, hkkm, hpc, hinstalled, hfd, lt_of_lt_of_le hlt hle,
          hkontext⟩
    | idle => exact trivial
    | ioctl f => rwa [hc] at hcall
    | release f pc => rwa [hc] at hcall
    | add f vcpuId a pc =>
        rw [hc] at hcall
        obtain ⟨hret, href, htarget, ha, kkm, hkkm, hpc⟩ := hcall
        exact ⟨hret, href, htarget, ha, kkm, hkkm, hpc.mono hle⟩
  exact ⟨fun f hf => lt_of_lt_of_le (h.fresh f hf) hle, h.apart,
    fun fd hfd => lt_of_lt_of_le (h.known fd hfd) hle, h.installed, hcalls,
    h.creating, h.alone, h.built, h.alive, h.count, h.slots, h.complete⟩

/-- A step of a creation. -/
theorem HandlersTracked.workCreate
    (h : HandlersTracked cfg k nextFd L) {a : CreateAnswers} {pc : CreatePc}
    (hc : k.calls t = .create a pc) (hkkm : k.kkm = some kkm)
    {r : CreatePc × Kkm × KernelState} (hr : CreateStepOk cfg kkm g r) :
    HandlersTracked cfg
      (SharedKontainer.setCall { k with kkm := some r.2.1 } t (.create a r.1))
      nextFd L := by
  obtain ⟨hret, hrefs, howner, hidle⟩ := h.creating t a pc hc
  obtain ⟨hpc, hfd, hkontext, _⟩ := hr
  have hcall := h.calls t
  rw [hc] at hcall
  obtain ⟨kkm', fd, hkkm', _, hinstalled, hfd', hlt, hkontext'⟩ := hcall
  rw [hkkm] at hkkm'
  cases hkkm'
  have hothers : ∀ t', t' ≠ t →
      (SharedKontainer.setCall { k with kkm := some r.2.1 } t
        (.create a r.1)).calls t' = .idle := by
    intro t' ht
    rw [setCall_of_ne _ ht]
    exact hidle t' ht
  refine ⟨h.fresh, h.apart, h.known, h.installed, ?_, ?_, ?_, ?_, ?_, ?_, ?_, ?_⟩
  · intro t'
    by_cases ht : t' = t
    · subst ht
      rw [setCall_self]
      exact ⟨r.2.1, fd, rfl, hpc, hinstalled, hfd.trans hfd', hlt,
        hkontext.trans hkontext'⟩
    · rw [hothers t' ht]
      exact trivial
  · intro t' a' pc' hcreate
    by_cases ht : t' = t
    · subst ht
      exact ⟨hret, hrefs, howner, hothers⟩
    · rw [hothers t' ht] at hcreate
      cases hcreate
  · intro t' f pc' hrelease
    by_cases ht : t' = t
    · subst ht
      rw [setCall_self] at hrelease
      cases hrelease
    · rw [hothers t' ht] at hrelease
      cases hrelease
  · intro hne
    exact absurd hret hne
  · intro _ hnone
    cases hnone
  · intro kkm₁ _
    rw [hrefs]
    rcases lt_or_ge kkm₁.referenceCount 0 with hneg | hpos
    · exact Or.inr hneg
    · exact Or.inl (by simpa using hpos)
  · intro _ i _ _
    exact howner i
  · intro _ i fd' _ hfile
    have hfree := howner i
    have howner' : L.owner i = .file fd' := hfile
    rw [hfree] at howner'
    cases howner'

/-- A creation ends; its caller learns the descriptor of a complete kontainer. -/
theorem HandlersTracked.created
    (h : HandlersTracked cfg k nextFd L) {a : CreateAnswers} {ret : Int}
    (hc : k.calls t = .create a (.done ret)) :
    let returned := if 0 ≤ ret then ret.toNat :: k.returned else k.returned
    ∃ L', HandlersTracked cfg
      (SharedKontainer.setCall { k with returned := returned } t .idle) nextFd L' := by
  intro returned
  obtain ⟨hnone, hrefs, howner, hidle⟩ := h.creating t a _ hc
  have hcall := h.calls t
  rw [hc] at hcall
  obtain ⟨kkm, fd, hkkm, hpc, hinstalled, hfd, hlt, hkontext⟩ := hcall
  rcases hpc with hneg | ⟨hret, hbuilt, hcount⟩
  · have hsame : returned = k.returned := if_neg (by omega)
    rw [hsame]
    exact ⟨L, h.idle t⟩
  · have hnew : returned = [fd] := by
      simp [returned, hret, hfd, hnone]
    rw [hnew]
    have hall : ∀ t', (SharedKontainer.setCall { k with returned := [fd] } t
        .idle).calls t' = .idle := by
      intro t'
      by_cases ht : t' = t
      · subst ht
        exact setCall_self ..
      · rw [setCall_of_ne _ ht]
        exact hidle t' ht
    refine ⟨⟨L.owner, {fd}⟩, h.fresh, h.apart, ?_, ?_, ?_, ?_, ?_, ?_, ?_, ?_, ?_, ?_⟩
    · intro fd' hmem
      cases List.mem_singleton.mp hmem
      exact hlt
    · intro f hf _
      have hf' : f ∈ k.installed := hf
      rw [hinstalled] at hf'
      cases List.mem_singleton.mp hf'
      refine ⟨Finset.mem_singleton_self fd, ?_⟩
      intro i htarget
      cases htarget
    · intro t'
      rw [hall t']
      exact trivial
    · intro t' a' pc hcreate
      rw [hall t'] at hcreate
      cases hcreate
    · intro t' f pc hrelease
      rw [hall t'] at hrelease
      cases hrelease
    · intro _ kkm₁ h₁
      have heq : some kkm = some kkm₁ := hkkm.symm.trans h₁
      cases heq
      exact hbuilt
    · intro _ hgone
      have heq : k.kkm = none := hgone
      rw [hkkm] at heq
      cases heq
    · intro kkm₁ h₁
      have heq : some kkm = some kkm₁ := hkkm.symm.trans h₁
      cases heq
      exact Or.inl (by simp [hcount])
    · intro _ i _ _
      exact howner i
    · intro _ i fd' _ hfile
      have hfree := howner i
      have howner' : L.owner i = .file fd' := hfile
      rw [hfree] at howner'
      cases howner'

theorem kkmReferenceCountDown_nextFd
    (kkm : Kkm) (k : KontainerState) (g : KernelState) :
    (kkmReferenceCountDown kkm k g).2.nextFd = g.nextFd := by
  simp only [kkmReferenceCountDown]
  split
  · rfl
  · rfl

/-- The outcome of a step in a kontainer. -/
def KontainerTracked
    (cfg : KkmConfig) (g : KernelState) (r : SharedKontainer n × KernelState) : Prop :=
  g.nextFd ≤ r.2.nextFd ∧ ∃ L, HandlersTracked cfg r.1 r.2.nextFd L

theorem HandlersTracked.nextCreate
    (h : HandlersTracked cfg k g.nextFd L) {a : CreateAnswers} {pc : CreatePc}
    (hc : k.calls t = .create a pc) (hkkm : k.kkm = some kkm)
    {r : CreatePc × Kkm × KernelState} (hr : CreateStepOk cfg kkm g r) :
    KontainerTracked cfg g
      (SharedKontainer.setCall { k with kkm := some r.2.1 } t (.create a r.1),
        r.2.2) := by
  have hsame : r.2.2.nextFd = g.nextFd := hr.2.2.2
  refine ⟨hsame.ge, L, ?_⟩
  rw [hsame]
  exact h.workCreate hc hkkm hr

theorem HandlersTracked.nextAdd
    (h : HandlersTracked cfg k g.nextFd L) {f : OpenFile} {vcpuId : BitVec 32}
    {a : AddAnswers} {pc : AddPc} (hc : k.calls t = .add f vcpuId a pc)
    (hkkm : k.kkm = some kkm) (hfind : k.findsEntry t = true) :
    Holds (KontainerTracked cfg g)
      ((addNext cfg t vcpuId a pc ⟨kkm, k.installed, g⟩).map fun r =>
        ({ k with kkm := some r.2.kkm, installed := r.2.files }.setCall t
          (.add f vcpuId a r.1), r.2.kernel)) := by
  have hcall := h.calls t
  rw [hc] at hcall
  obtain ⟨_, _, _, ha, kkm', hkkm', hpc⟩ := hcall
  rw [hkkm] at hkkm'
  cases hkkm'
  have hfree : pc = .select → freeSlot kkm ≠ none := by
    rintro rfl hnone
    simp [SharedKontainer.findsEntry, hc, hkkm, hnone] at hfind
  have hstep : Holds (AddStepOk cfg t a L ⟨kkm, k.installed, g⟩)
      (addNext cfg t vcpuId a pc ⟨kkm, k.installed, g⟩) :=
    addNext_ok hpc (fun i => h.slots kkm i hkkm) h.fresh hfree ha
  cases hr : addNext cfg t vcpuId a pc ⟨kkm, k.installed, g⟩ with
  | error e =>
      rw [hr] at hstep
      exact hstep
  | ok r =>
      rw [hr] at hstep
      obtain ⟨L', hkeeps, hinstalls, hpc'⟩ := hstep
      exact ⟨hinstalls.le, L', h.workAdd hkkm hc hkeeps hinstalls hpc'⟩

theorem HandlersTracked.nextRelease
    (h : HandlersTracked cfg k g.nextFd L) {f : OpenFile} {pc : ReleasePc}
    (hc : k.calls t = .release f pc) (hkkm : k.kkm = some kkm) :
    Holds (KontainerTracked cfg g)
      ((releaseNext t pc kkm g.pages).map fun r =>
        ({ k with kkm := some r.2.1 }.setCall t (.release f r.1),
          { g with pages := r.2.2 })) := by
  have hcall := h.calls t
  rw [hc] at hcall
  obtain ⟨_, _, kkm', hkkm', hpc⟩ := hcall
  rw [hkkm] at hkkm'
  cases hkkm'
  have hstep : Holds (ReleaseStepOk cfg t L kkm) (releaseNext t pc kkm g.pages) :=
    releaseNext_ok hpc fun i => h.slots kkm i hkkm
  cases hr : releaseNext t pc kkm g.pages with
  | error e =>
      rw [hr] at hstep
      exact hstep
  | ok r =>
      rw [hr] at hstep
      obtain ⟨L', hkeeps, hpc'⟩ := hstep
      exact ⟨le_rfl, L', h.workRelease hkkm hc hkeeps hpc'⟩

/-- A handler other than the one of an add ends. -/
theorem HandlersTracked.endHandler
    (h : HandlersTracked cfg k nextFd L) {f : OpenFile}
    (hc : (k.calls t).file = some f) (htracks : Tracks L f)
    (hret : f.fd ∈ k.returned) :
    ∃ L', HandlersTracked cfg (k.dropFile t f) nextFd L' := by
  refine h.dropFile htracks hret ?_
  intro t' f' pc ht hrelease heq
  have halone := (h.alone t' f' pc hrelease).2 t (Ne.symm ht)
  rw [hc] at halone
  exact halone (congrArg some heq.symm)

/-- One step of a thread in a kontainer. -/
theorem HandlersTracked.next
    (h : HandlersTracked cfg k g.nextFd L) (hfind : k.findsEntry t = true) :
    Holds (KontainerTracked cfg g) (k.next cfg kx t g) := by
  have hcall := h.calls t
  unfold SharedKontainer.next
  split
  · exact ⟨le_rfl, L, h⟩
  · rename_i f hc
    rw [hc] at hcall
    exact ⟨le_rfl, h.endHandler (by rw [hc]; rfl) hcall.2 hcall.1⟩
  · rename_i a ret hc
    exact ⟨le_rfl, h.created hc⟩
  · rename_i a pc hnot hc
    rw [hc] at hcall
    obtain ⟨kkm, _, hkkm, hpc, _⟩ := hcall
    have hstep : CreateStepOk cfg kkm g (createNext cfg kx a pc kkm g) :=
      createNext_ok hpc
    rw [hkkm]
    exact h.nextCreate hc hkkm hstep
  · rename_i f vcpuId a ret fd hc
    have hlearns := h.learns hc
    have hcall' := hlearns.calls t
    have hc' : ({ k with returned := learn ret fd k.returned } :
        SharedKontainer n).calls t = .add f vcpuId a (.done ret fd) := hc
    rw [hc'] at hcall'
    obtain ⟨hret, href, htarget, _⟩ := hcall'
    have htracks : Tracks L f := by
      refine ⟨href, ?_⟩
      intro i hi
      rw [htarget] at hi
      cases hi
    exact ⟨le_rfl, hlearns.endHandler (by rw [hc']; rfl) htracks hret⟩
  · rename_i f vcpuId a pc hnot hc
    rw [hc] at hcall
    obtain ⟨_, _, _, _, kkm, hkkm, _⟩ := hcall
    rw [hkkm]
    exact h.nextAdd hc hkkm hfind
  · rename_i f hc
    rw [hc] at hcall
    obtain ⟨_, _, kkm, hkkm, _⟩ := hcall
    rw [hkkm]
    refine ⟨(kkmReferenceCountDown_nextFd kkm .absent g).ge, L.dropReference f.fd, ?_⟩
    have hdrop := h.dropReference hc hkkm g
    rw [← kkmReferenceCountDown_nextFd kkm .absent g] at hdrop
    exact hdrop
  · rename_i f pc hnot hc
    rw [hc] at hcall
    obtain ⟨_, _, kkm, hkkm, _⟩ := hcall
    rw [hkkm]
    exact h.nextRelease hc hkkm

/-! ## Events -/

/-- The event finds a thread and a file, or nothing happens. -/
theorem SharedKontainer.start_cases
    (k : SharedKontainer n) (t : Fin n) (fd : Nat)
    (call : OpenFile → SharedKontainer n) :
    k.start t fd call = k ∨
      ∃ f ∈ k.installed, f.fd = fd ∧ k.calls t = .idle ∧
        k.start t fd call = call f := by
  unfold SharedKontainer.start
  cases hc : k.calls t with
  | idle =>
      cases hfind : k.find fd with
      | none => exact Or.inl rfl
      | some f =>
          have hmem := List.mem_of_find?_eq_some hfind
          have hfd : f.fd = fd := by
            simpa using List.find?_some hfind
          exact Or.inr ⟨f, hmem, hfd, rfl, rfl⟩
  | create a pc => exact Or.inl rfl
  | ioctl f => exact Or.inl rfl
  | add f vcpuId a pc => exact Or.inl rfl
  | release f pc => exact Or.inl rfl

theorem HandlersTracked.startIoctl
    (h : HandlersTracked cfg k nextFd L) {fd : Nat} (hfd : k.FdReturned fd) :
    HandlersTracked cfg (k.startIoctl t fd) nextFd L := by
  rcases k.start_cases t fd fun file => k.setCall t (.ioctl file) with
    hsame | ⟨f, hf, rfl, _, heq⟩
  · rw [SharedKontainer.startIoctl, hsame]
    exact h
  · rw [SharedKontainer.startIoctl, heq]
    have hret := hfd f hf rfl
    exact h.begin hf hret rfl ⟨hret, h.installed f hf hret⟩

theorem HandlersTracked.startAdd
    (h : HandlersTracked cfg k nextFd L) {fd : Nat} (hfd : k.FdReturned fd)
    (vcpuId : BitVec 32) {a : AddAnswers} (ha : AddReturnsComplete a) :
    HandlersTracked cfg (k.startAdd t fd vcpuId a) nextFd L := by
  rcases k.start_cases t fd fun file =>
      if file.target = .kontainer then k.setCall t (.add file vcpuId a .lock)
      else k with hsame | ⟨f, hf, rfl, _, heq⟩
  · rw [SharedKontainer.startAdd, hsame]
    exact h
  · rw [SharedKontainer.startAdd, heq]
    have hret := hfd f hf rfl
    have htracks := h.installed f hf hret
    obtain ⟨kkm, hkkm⟩ := Option.ne_none_iff_exists'.mp (h.alive ⟨_, htracks.1⟩)
    split
    · rename_i htarget
      exact h.begin hf hret rfl
        ⟨hret, htracks.1, htarget, ha, kkm, hkkm, trivial⟩
    · exact h

theorem HandlersTracked.close
    (h : HandlersTracked cfg k nextFd L) {fd : Nat} (hfd : k.FdReturned fd) :
    ∃ L', HandlersTracked cfg (k.close t fd) nextFd L' := by
  rcases k.start_cases t fd fun file =>
      { k with installed := k.installed.erase file }.dropFile t file with
    hsame | ⟨f, hf, rfl, hidle, heq⟩
  · rw [SharedKontainer.close, hsame]
    exact ⟨L, h⟩
  · rw [SharedKontainer.close, heq]
    have hret := hfd f hf rfl
    refine (h.uninstall hidle hret).dropFile (h.installed f hf hret) hret ?_
    intro t' f' pc _ hrelease heq
    exact (h.alone t' f' pc hrelease).1 f hf heq.symm

/-! ## New kontainers -/

/-- Nothing is referenced, every entry is free. -/
def Ledger.empty : Ledger n := ⟨fun _ => .free, ∅⟩

/-- A kontainer nobody has been told about. -/
theorem handlersTracked_new
    (kkm : Option Kkm) {files : List OpenFile}
    (hfresh : ∀ f ∈ files, f.fd < nextFd) (hapart : (files.map OpenFile.fd).Nodup) :
    HandlersTracked cfg (⟨kkm, files, [], fun _ => .idle⟩ : SharedKontainer n)
      nextFd .empty := by
  refine ⟨hfresh, hapart, ?_, ?_, fun _ => trivial, ?_, ?_, ?_, ?_, ?_,
    fun _ _ _ _ => rfl, ?_⟩
  · intro fd hfd
    exact absurd hfd List.not_mem_nil
  · intro f _ hfd
    exact absurd hfd List.not_mem_nil
  · intro t a pc hc
    cases hc
  · intro t f pc hc
    cases hc
  · intro hne
    exact absurd rfl hne
  · intro hrefs
    exact absurd hrefs Finset.not_nonempty_empty
  · intro kkm₁ _
    rcases lt_or_ge kkm₁.referenceCount 0 with hneg | hpos
    · exact Or.inr hneg
    · exact Or.inl (by simpa [Ledger.empty] using hpos)
  · intro _ i fd _ hfile
    cases hfile

theorem startCreate_tracked (a : CreateAnswers) (t : Fin n) (g : KernelState) :
    KontainerTracked cfg g (startCreate a t g) := by
  unfold startCreate
  split
  · exact ⟨le_rfl, .empty, handlersTracked_new none (by simp) (by simp)⟩
  · split
    · have hnew : HandlersTracked cfg
          (⟨some { Kkm.zeroed with kontainerFd := -emfile }, [], [],
            fun _ => .idle⟩ : SharedKontainer n) g.nextFd .empty :=
        handlersTracked_new _ (by simp) (by simp)
      exact ⟨le_rfl, .empty, hnew⟩
    · refine ⟨Nat.le_succ _, .empty, ?_⟩
      have hnew : HandlersTracked cfg
          (⟨some { Kkm.zeroed with kontainerFd := g.nextFd },
            [⟨g.nextFd, .kontainer⟩], [], fun _ => .idle⟩ : SharedKontainer n)
          (g.nextFd + 1) .empty :=
        handlersTracked_new _ (by simp) (by simp)
      refine hnew.setCall ?_ ?_ ?_ ?_ ?_
      · exact ⟨_, g.nextFd, rfl, trivial, rfl, rfl, Nat.lt_succ_self _, rfl⟩
      · intro _ _ _
        exact ⟨rfl, rfl, fun _ => rfl, fun _ _ => rfl⟩
      · intro t' _ _ _ hc
        cases hc
      · intro f pc hc
        cases hc
      · intro t' f pc _ hc
        cases hc

end Kontainer

/-! ## The machine -/

section Machines

variable {n : Nat} {cfg : KkmConfig} {kx : KkmMmuPml4e} {m : Machine n}

/-- Every kontainer has its ledger. -/
def Machine.Tracked (cfg : KkmConfig) (m : Machine n) : Prop :=
  ∀ q, ∃ L, HandlersTracked cfg (m.kontainers q) m.kernel.nextFd L

/-- One kontainer changes; the others see more descriptors. -/
theorem Machine.Tracked.set
    (h : m.Tracked cfg) (q : Nat) {r : SharedKontainer n × KernelState}
    (hr : KontainerTracked cfg m.kernel r) (created : Nat) :
    Machine.Tracked cfg { m.set q r.1 with created := created, kernel := r.2 } := by
  obtain ⟨hle, L, htracked⟩ := hr
  intro q'
  by_cases hq : q' = q
  · subst hq
    refine ⟨L, ?_⟩
    simpa [Machine.set] using htracked
  · obtain ⟨L', htracked'⟩ := h q'
    refine ⟨L', ?_⟩
    simpa [Machine.set, hq] using htracked'.mono hle

theorem machineStep_tracked
    (h : m.Tracked cfg) {e : MachineEvent n} (he : FdsUsedAfterReturn m e) :
    Holds (Machine.Tracked cfg) (machineStep cfg kx m e) := by
  cases e with
  | create t a => exact h.set m.created (startCreate_tracked a t m.kernel) _
  | ioctl q t fd =>
      obtain ⟨L, htracked⟩ := h q
      have hr : KontainerTracked cfg m.kernel
          ((m.kontainers q).startIoctl t fd, m.kernel) :=
        ⟨le_rfl, L, htracked.startIoctl he⟩
      exact h.set q hr m.created
  | add q t fd vcpuId a =>
      obtain ⟨L, htracked⟩ := h q
      have hr : KontainerTracked cfg m.kernel
          ((m.kontainers q).startAdd t fd vcpuId a, m.kernel) :=
        ⟨le_rfl, L, htracked.startAdd he.1 vcpuId he.2⟩
      exact h.set q hr m.created
  | close q t fd =>
      obtain ⟨L, htracked⟩ := h q
      have hr : KontainerTracked cfg m.kernel
          ((m.kontainers q).close t fd, m.kernel) :=
        ⟨le_rfl, htracked.close he⟩
      exact h.set q hr m.created
  | next q t =>
      obtain ⟨L, htracked⟩ := h q
      have hnext : Holds (KontainerTracked cfg m.kernel)
          ((m.kontainers q).next cfg kx t m.kernel) := htracked.next he
      simp only [machineStep]
      cases hr : (m.kontainers q).next cfg kx t m.kernel with
      | error e =>
          rw [hr] at hnext
          exact hnext
      | ok r =>
          rw [hr] at hnext
          exact h.set q hnext _

/-- In every interleaving in which descriptors are used only after a call has
returned them, all handlers find complete objects. -/
theorem handlersReady_of_guarded
    (cfg : KkmConfig) (kx : KkmMmuPml4e) (g : KernelState)
    (es : List (MachineEvent n))
    (h : EveryStep (liftStep (machineStep cfg kx)) (LiftGuard FdsUsedAfterReturn)
      (.ok (Machine.booted g)) es) :
    EveryState (liftStep (machineStep cfg kx)) (Holds (Machine.HandlersReady cfg))
      (.ok (Machine.booted g)) es := by
  have hbooted : (Machine.booted g : Machine n).Tracked cfg :=
    fun _ => ⟨.empty, handlersTracked_new none (by simp) (by simp)⟩
  have hall := holds_of_everyStep
    (fun m e hm he => machineStep_tracked hm he) hbooted h
  refine hall.mono ?_
  intro s hs
  cases s with
  | error e => exact hs
  | ok m =>
      intro q
      obtain ⟨L, htracked⟩ := hs q
      exact htracked.handlersReady

/-- A thread creates a kontainer and adds a kontext, another uses both. -/
theorem handlersReady_create_add_ioctl :
    EveryState (liftStep (machineStep .stock .zeroed))
      (Holds (Machine.HandlersReady .stock))
      (.ok (Machine.booted .booted : Machine 2))
      (.create 0 .granted :: List.replicate 7 (.next 0 0) ++
        .ioctl 0 1 3 :: .add 0 0 3 0#32 .granted ::
        List.replicate 14 (.next 0 0) ++ [.next 0 1, .ioctl 0 1 4, .close 0 0 4]) := by
  refine handlersReady_of_guarded .stock .zeroed .booted _ ?_
  decide +kernel

/-- Right after the descriptor of a new kontainer is installed there is no page
table yet for a handler to work with. -/
theorem handler_before_pgd :
    ¬ EveryState (liftStep (machineStep .stock .zeroed))
      (Holds (Machine.HandlersReady .stock))
      (.ok (Machine.booted .booted : Machine 2))
      [.create 0 .granted, .ioctl 0 1 3] := by
  intro h
  have hlast := h.2.2
  obtain ⟨kkm, hkkm, hbuilt, _⟩ := hlast 0 1 ⟨3, .kontainer⟩ rfl
  cases hkkm
  exact hbuilt.pgd.1 rfl

end Machines

end Driver
end KkmModule
