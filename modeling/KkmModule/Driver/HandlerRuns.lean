import KkmModule.Driver.HandlerSteps

/-!
# Runs of the calls in progress

What every single step of an add and of a release does to the ledger,
and from that the safety of handlers along all guarded interleavings.
-/

namespace KkmModule
namespace Driver

open Foundation

section Adds

variable {n : Nat} {cfg : KkmConfig} {L : Ledger n} {t : Fin n}
variable {vcpuId : BitVec 32} {a : AddAnswers} {s : AddState}

/-- A step of an add keeps what the others rely on, and gets to a point where
the next step finds what it needs. -/
def AddStepOk
    (cfg : KkmConfig) (t : Fin n) (a : AddAnswers) (L : Ledger n) (s : AddState)
    (r : AddPc × AddState) : Prop :=
  ∃ L', StepKeeps cfg t s.kkm r.2.kkm L L' ∧
    Installs s.files r.2.files s.kernel.nextFd r.2.kernel.nextFd ∧
    AddPcOk r.2.files r.2.kkm r.2.kernel.nextFd L' t a r.1

/-- Nothing changes but the point the call has got to. -/
theorem AddStepOk.stay
    {pc : AddPc} (h : AddPcOk s.files s.kkm s.kernel.nextFd L t a pc) :
    AddStepOk cfg t a L s (pc, s) :=
  ⟨L, .of_same rfl rfl (fun _ _ h => h) (fun h => h), Or.inl ⟨rfl, rfl⟩, h⟩

theorem learnt_none
    (files : List OpenFile) (nextFd : Nat) (L : Ledger n) (ret : Int) :
    Learnt files nextFd L ret none := by
  intro x hx
  cases hx

/-- A failing call returns no descriptor. -/
theorem learnt_neg
    (files : List OpenFile) (nextFd : Nat) (L : Ledger n) {ret : Int}
    (hret : ret < 0) (fd : Option Nat) :
    Learnt files nextFd L ret fd := by
  intro x _ hx
  omega

theorem addNext_lock
    (hs : AddPcOk s.files s.kkm s.kernel.nextFd L t a .lock) :
    Holds (AddStepOk cfg t a L s) (addNext cfg t vcpuId a .lock s) := by
  simp only [addNext]
  split
  · rename_i hfree
    refine ⟨L, .of_same rfl rfl ?_ ?_, Or.inl ⟨rfl, rfl⟩, rfl⟩
    · intro t' _ hholder
      rw [hfree] at hholder
      cases hholder
    · exact fun h => h.setLock rfl
  · exact AddStepOk.stay hs

theorem addNext_unlock
    {ret : Int} {fd : Option Nat}
    (hs : AddPcOk s.files s.kkm s.kernel.nextFd L t a (.unlock ret fd)) :
    Holds (AddStepOk cfg t a L s) (addNext cfg t vcpuId a (.unlock ret fd) s) := by
  obtain ⟨hholder, hlearnt⟩ := hs
  refine ⟨L, .of_same rfl rfl ?_ ?_, Or.inl ⟨rfl, rfl⟩, hlearnt⟩
  · intro t' ht hother
    rw [hholder] at hother
    exact absurd (Fin.ext (Option.some.inj hother).symm) ht
  · exact fun h => h.setLock rfl

/-- The entry a call works on stays in use. -/
theorem Working.used
    {files : List OpenFile} {kkm : Kkm} {nextFd : Nat}
    {i : Fin kkmMaxContexts} {fd : Option Nat} {R : KkmKontext → Prop}
    (h : Working files kkm nextFd L t a i fd R)
    (hslots : ∀ i, entryUsed (kkm.kontext i) = false → L.owner i = .free)
    {kontext : KkmKontext} (hkontext : kkm.kontext i = some kontext) :
    kontext.used = true := by
  by_contra hunused
  have hfree := hslots i (by rw [hkontext]; simpa [entryUsed] using hunused)
  rw [h.busy] at hfree
  cases hfree

/-- A step on the call's own entry. -/
theorem Working.step
    {i : Fin kkmMaxContexts} {fd : Option Nat} {R R' : KkmKontext → Prop}
    (h : Working s.files s.kkm s.kernel.nextFd L t a i fd R)
    {kontext : KkmKontext} (hready : R' kontext) (pages : PageState) :
    Working (s.setKontext i kontext pages).files (s.setKontext i kontext pages).kkm
      (s.setKontext i kontext pages).kernel.nextFd (L.setOwner i (.busy t)) t a i
      fd R' :=
  ⟨h.holder, L.setOwner_self i _, ⟨kontext, Function.update_self .., hready⟩,
    h.file, h.asked⟩

theorem StepKeeps.of_busy
    {kkm : Kkm} {i : Fin kkmMaxContexts} {kontext : KkmKontext}
    (howner : L.owner i = .busy t) (hused : kontext.used = true) :
    StepKeeps cfg t kkm (kkm.setKontext i kontext) L (L.setOwner i (.busy t)) := by
  refine .of_entry (Or.inl howner) ?_ ?_
  · intro hunused
    rw [hused] at hunused
    cases hunused
  · intro fd hfile
    cases hfile

/-- A call gives up: its entry stays in use and belongs to nobody. -/
theorem StepKeeps.of_lost
    {kkm : Kkm} {i : Fin kkmMaxContexts} {kontext : KkmKontext}
    (howner : L.owner i = .busy t) (hused : kontext.used = true) :
    StepKeeps cfg t kkm (kkm.setKontext i kontext) L (L.setOwner i .lost) := by
  refine .of_entry (Or.inl howner) ?_ ?_
  · intro hunused
    rw [hused] at hunused
    cases hunused
  · intro fd hfile
    cases hfile

theorem addNext_select
    (hs : AddPcOk s.files s.kkm s.kernel.nextFd L t a .select)
    (hslots : ∀ i, entryUsed (s.kkm.kontext i) = false → L.owner i = .free)
    (hfree : freeSlot s.kkm ≠ none) :
    Holds (AddStepOk cfg t a L s) (addNext cfg t vcpuId a .select s) := by
  obtain ⟨i, hi⟩ := Option.ne_none_iff_exists'.mp hfree
  have hclaim : ∀ kontext, AddStepOk cfg t a L s
      (addClaim vcpuId a i kontext s) := by
    intro kontext
    refine ⟨L.setOwner i (.busy t), .of_entry
      (Or.inr (hslots i (freeSlot_not_used hi))) ?_ ?_, Or.inl ⟨rfl, rfl⟩, ?_⟩
    · intro hunused
      cases hunused
    · intro fd hfile
      cases hfile
    · refine ⟨hs, L.setOwner_self i _, ⟨_, Function.update_self .., trivial⟩, ?_, ?_⟩
      · intro x hx
        cases hx
      · exact fun h => absurd rfl h
  cases hentry : s.kkm.kontext i with
  | some kontext =>
      simp only [addNext, hi, hentry]
      exact hclaim kontext
  | none =>
      simp only [addNext, hi, hentry]
      cases hzalloc : a.kzalloc with
      | true => exact hclaim .zeroed
      | false => exact AddStepOk.stay ⟨hs, learnt_none _ _ _ _⟩

/-- No mmap page is there before the loop. -/
theorem mmapDone_none (a : AddAnswers) (kontext : KkmKontext) :
    MmapDone a (List.finRange kkmContextMapPageCount) kontext :=
  fun j hj => absurd (List.mem_finRange j) hj

theorem addNext_getfd
    {i : Fin kkmMaxContexts}
    (hs : AddPcOk s.files s.kkm s.kernel.nextFd L t a (.getfd i))
    (hslots : ∀ i, entryUsed (s.kkm.kontext i) = false → L.owner i = .free)
    (hfresh : ∀ f ∈ s.files, f.fd < s.kernel.nextFd) :
    Holds (AddStepOk cfg t a L s) (addNext cfg t vcpuId a (.getfd i) s) := by
  have hwork : Working s.files s.kkm s.kernel.nextFd L t a i none
      (fun _ => True) := hs
  obtain ⟨kontext, hkontext, _⟩ := hwork.entry
  have hused := hwork.used hslots hkontext
  simp only [addNext, onKontext, hkontext, addGetfd]
  cases hfd : a.getfd with
  | true =>
      refine ⟨L.setOwner i (.busy t), .of_busy hwork.busy hused,
        Or.inr ⟨.kontext i, rfl, rfl⟩, ?_⟩
      refine ⟨hwork.holder, L.setOwner_self i _,
        ⟨_, Function.update_self .., mmapDone_none a _⟩, ?_, fun _ => hfd⟩
      intro x hx
      cases hx
      refine ⟨Nat.lt_succ_self _, ?_⟩
      intro f hf hfd'
      rcases List.mem_cons.mp hf with rfl | hf
      · rfl
      · exact absurd hfd' (Nat.ne_of_lt (hfresh f hf))
  | false =>
      refine ⟨L.setOwner i (.busy t), .of_busy hwork.busy hused,
        Or.inl ⟨rfl, rfl⟩, ?_⟩
      refine ⟨hwork.holder, L.setOwner_self i _,
        ⟨_, Function.update_self .., mmapDone_none a _⟩, ?_, fun h => absurd rfl h⟩
      intro x hx
      cases hx

theorem addNext_mmap
    {i : Fin kkmMaxContexts} {rest : List (Fin kkmContextMapPageCount)}
    {fd : Option Nat}
    (hs : AddPcOk s.files s.kkm s.kernel.nextFd L t a (.mmap i rest fd))
    (hslots : ∀ i, entryUsed (s.kkm.kontext i) = false → L.owner i = .free) :
    Holds (AddStepOk cfg t a L s) (addNext cfg t vcpuId a (.mmap i rest fd) s) := by
  have hwork : Working s.files s.kkm s.kernel.nextFd L t a i fd
      (MmapDone a rest) := hs
  cases rest with
  | nil => exact AddStepOk.stay hwork
  | cons j rest =>
      obtain ⟨kontext, hkontext, hdone⟩ := hwork.entry
      have hused := hwork.used hslots hkontext
      have hkept := (allocMmapPage_spec kontext s.kernel.pages j (a.mmap j)).2
      simp only [addNext, onKontext, hkontext]
      cases hanswer : a.mmap j with
      | none =>
          rw [hanswer] at hkept
          refine ⟨L.setOwner i .lost, .of_lost hwork.busy (hkept.trans hused),
            Or.inl ⟨rfl, rfl⟩, ?_⟩
          exact ⟨hwork.holder, learnt_neg _ _ _ (by decide) fd⟩
      | some skip =>
          rw [hanswer] at hkept
          refine ⟨L.setOwner i (.busy t), .of_busy hwork.busy (hkept.trans hused),
            Or.inl ⟨rfl, rfl⟩, hwork.step ?_ _⟩
          intro j' hj'
          by_cases heq : j' = j
          · subst heq
            refine ⟨⟨by simp [allocMmapPage, allocPages], ?_⟩, by simp [hanswer]⟩
            have hpos := s.kernel.pages.pool.next_pos
            simp only [allocMmapPage, allocPages, Option.map_some,
              Function.update_self, BlockPool.offer, pageSize]
            omega
          · have hnot : j' ∉ j :: rest := by simp [heq, hj']
            have hold := hdone j' hnot
            simpa [MmapReady, allocMmapPage, allocPages, heq] using hold

theorem addNext_guestArea
    {i : Fin kkmMaxContexts} {fd : Option Nat}
    (hs : AddPcOk s.files s.kkm s.kernel.nextFd L t a (.guestArea i fd))
    (hslots : ∀ i, entryUsed (s.kkm.kontext i) = false → L.owner i = .free)
    (ha : AddReturnsComplete a) :
    Holds (AddStepOk cfg t a L s) (addNext cfg t vcpuId a (.guestArea i fd) s) := by
  have hwork : Working s.files s.kkm s.kernel.nextFd L t a i fd
      (MmapDone a []) := hs
  obtain ⟨kontext, hkontext, hdone⟩ := hwork.entry
  have hused := hwork.used hslots hkontext
  obtain ⟨hzero, hkept⟩ := kkmKontextInitGuestArea_spec kontext s.kernel.pages cfg
    s.kkm a.init.guestArea
  obtain ⟨hpage, hmmap⟩ := kkmKontextInitGuestArea_pages kontext s.kernel.pages cfg
    s.kkm a.init.guestArea
  simp only [addNext, onKontext, hkontext]
  split
  · rename_i hret
    refine ⟨L.setOwner i (.busy t), .of_busy hwork.busy (hkept.trans hused),
      Or.inl ⟨rfl, rfl⟩, hwork.step trivial _, ?_⟩
    by_contra hsome
    have hmmaps : ∀ j, a.mmap j ≠ none :=
      fun j => (hdone j (List.not_mem_nil)).2
    exact hret (hzero.mpr (ha (hwork.asked hsome) hmmaps).1)
  · rename_i hret
    refine ⟨L.setOwner i (.busy t), .of_busy hwork.busy (hkept.trans hused),
      Or.inl ⟨rfl, rfl⟩, hwork.step ⟨?_, hpage (by simpa using hret)⟩ _⟩
    intro j hj
    have hold := hdone j hj
    simp only [MmapReady] at hold ⊢
    rw [hmmap]
    exact hold

theorem addNext_xsave
    {i : Fin kkmMaxContexts} {fd : Option Nat}
    (hs : AddPcOk s.files s.kkm s.kernel.nextFd L t a (.xsave i fd))
    (hslots : ∀ i, entryUsed (s.kkm.kontext i) = false → L.owner i = .free)
    (ha : AddReturnsComplete a) :
    Holds (AddStepOk cfg t a L s) (addNext cfg t vcpuId a (.xsave i fd) s) := by
  have hwork : Working s.files s.kkm s.kernel.nextFd L t a i fd
      (fun kontext => MmapDone a [] kontext ∧ kontext.guestAreaPage ≠ none) := hs
  obtain ⟨kontext, hkontext, hdone, hguest⟩ := hwork.entry
  have hused := hwork.used hslots hkontext
  obtain ⟨hzero, hkept⟩ := kkmKontextInitXsave_spec kontext s.kernel.pages
    a.init.xsave
  obtain ⟨hpage, hguestKept, hmmap⟩ := kkmKontextInitXsave_pages kontext
    s.kernel.pages a.init.xsave
  simp only [addNext, onKontext, hkontext]
  split
  · rename_i hret
    refine ⟨L.setOwner i (.busy t), .of_busy hwork.busy (hkept.trans hused),
      Or.inl ⟨rfl, rfl⟩, hwork.step trivial _, ?_⟩
    by_contra hsome
    have hmmaps : ∀ j, a.mmap j ≠ none :=
      fun j => (hdone j (List.not_mem_nil)).2
    exact hret (hzero.mpr (ha (hwork.asked hsome) hmmaps).2)
  · rename_i hret
    refine ⟨L.setOwner i (.busy t), .of_busy hwork.busy (hkept.trans hused),
      Or.inl ⟨rfl, rfl⟩, hwork.step ⟨?_, hpage (by simpa using hret), ?_⟩ _⟩
    · rw [hguestKept]
      exact hguest
    · intro j
      have hold := (hdone j (List.not_mem_nil)).1
      simp only [MmapReady] at hold ⊢
      rw [hmmap]
      exact hold

theorem addNext_cleanup
    {i : Fin kkmMaxContexts} {fd : Option Nat}
    (hs : AddPcOk s.files s.kkm s.kernel.nextFd L t a (.cleanup i fd))
    (hslots : ∀ i, entryUsed (s.kkm.kontext i) = false → L.owner i = .free) :
    Holds (AddStepOk cfg t a L s) (addNext cfg t vcpuId a (.cleanup i fd) s) := by
  obtain ⟨hwork, rfl⟩ := hs
  obtain ⟨kontext, hkontext, _⟩ := hwork.entry
  have hused := hwork.used hslots hkontext
  have hkept := kkmKontextCleanup_used kontext s.kernel.pages
  simp only [addNext, onKontext, hkontext]
  exact ⟨L.setOwner i .lost, .of_lost hwork.busy (hkept.trans hused),
    Or.inl ⟨rfl, rfl⟩, hwork.holder, learnt_none _ _ _ _⟩

/-- The reference of the new file, if there is one. -/
def Ledger.addReference
    (L : Ledger n) (i : Fin kkmMaxContexts) : Option Nat → Ledger n
  | some fd => { L.setOwner i (.file fd) with refs := insert fd L.refs }
  | none => L.setOwner i .lost

theorem refcountInc_covers
    {c : Int} {m m' : Nat} (h : (m : Int) ≤ c ∨ c < 0) (hm : m' ≤ m + 1) :
    (m' : Int) ≤ refcountInc c ∨ refcountInc c < 0 := by
  unfold refcountInc
  split
  · exact Or.inr (by decide)
  · rename_i hpos
    rcases h with h | h
    · exact Or.inl (by omega)
    · exact Or.inl (by omega)

theorem addNext_reference
    {i : Fin kkmMaxContexts} {fd : Option Nat}
    (hs : AddPcOk s.files s.kkm s.kernel.nextFd L t a (.reference i fd))
    (hslots : ∀ i, entryUsed (s.kkm.kontext i) = false → L.owner i = .free) :
    Holds (AddStepOk cfg t a L s) (addNext cfg t vcpuId a (.reference i fd) s) := by
  have hwork : Working s.files s.kkm s.kernel.nextFd L t a i fd KontextReady := hs
  obtain ⟨kontext, hkontext, hready⟩ := hwork.entry
  have hused := hwork.used hslots hkontext
  -- the entry stays as it is, its owner changes
  have hkeeps : ∀ o, (o = .lost ∨ ∃ x, o = .file x) →
      StepKeeps cfg t s.kkm (s.kkm.setKontext i kontext) L (L.setOwner i o) := by
    intro o ho
    refine .of_entry (Or.inl hwork.busy) ?_ fun _ _ => hready
    intro hunused
    rw [hused] at hunused
    cases hunused
  have hsame : (s.kkm.setKontext i kontext).kontext = s.kkm.kontext := by
    simp only [Kkm.setKontext]
    rw [← hkontext]
    exact Function.update_eq_self i _
  cases fd with
  | none =>
      have hlost := hkeeps .lost (Or.inl rfl)
      refine ⟨L.setOwner i .lost, ⟨⟨fun _ _ _ _ => rfl, fun _ _ h => h⟩,
        hlost.refs, hlost.files, hlost.busy, ?_, ?_, ?_, ?_⟩, Or.inl ⟨rfl, rfl⟩,
        hwork.holder, learnt_none _ _ _ _⟩
      · exact fun h => h.setCounts _ _
      · exact fun h => refcountInc_covers h (Nat.le_succ _)
      · intro j h hunused
        exact hlost.slots j h (by rw [hsame]; exact hunused)
      · intro j x h howner
        have hentry := hlost.complete j x h howner
        rw [hsame] at hentry
        exact hentry
  | some x =>
      have hfile := hkeeps (.file x) (Or.inr ⟨x, rfl⟩)
      refine ⟨L.addReference i (some x), ⟨⟨fun _ _ _ _ => rfl, fun _ _ h => h⟩,
        Finset.subset_insert x L.refs, hfile.files, hfile.busy, ?_, ?_, ?_, ?_⟩,
        Or.inl ⟨rfl, rfl⟩, hwork.holder, ?_⟩
      · exact fun h => h.setCounts _ _
      · exact fun h => refcountInc_covers h (Finset.card_insert_le x L.refs)
      · intro j h hunused
        exact hfile.slots j h (by rw [hsame]; exact hunused)
      · intro j y h howner
        have hentry := hfile.complete j y h howner
        rw [hsame] at hentry
        exact hentry
      · intro y hy _
        cases hy
        obtain ⟨hlt, hfiles⟩ := hwork.file x rfl
        refine ⟨hlt, ?_⟩
        intro f hf hfd
        refine ⟨hfd ▸ Finset.mem_insert_self x L.refs, ?_⟩
        intro j htarget
        rw [hfiles f hf hfd] at htarget
        cases htarget
        rw [hfd]
        exact L.setOwner_self i _

/-- One step of an add. -/
theorem addNext_ok
    {pc : AddPc} (hs : AddPcOk s.files s.kkm s.kernel.nextFd L t a pc)
    (hslots : ∀ i, entryUsed (s.kkm.kontext i) = false → L.owner i = .free)
    (hfresh : ∀ f ∈ s.files, f.fd < s.kernel.nextFd)
    (hfree : pc = .select → freeSlot s.kkm ≠ none) (ha : AddReturnsComplete a) :
    Holds (AddStepOk cfg t a L s) (addNext cfg t vcpuId a pc s) := by
  cases pc with
  | lock => exact addNext_lock hs
  | checks =>
      simp only [addNext]
      split
      · exact AddStepOk.stay ⟨hs, learnt_none _ _ _ _⟩
      · exact AddStepOk.stay hs
  | select => exact addNext_select hs hslots (hfree rfl)
  | getfd i => exact addNext_getfd hs hslots hfresh
  | mmap i rest fd => exact addNext_mmap hs hslots
  | guestArea i fd => exact addNext_guestArea hs hslots ha
  | xsave i fd => exact addNext_xsave hs hslots ha
  | cleanup i fd => exact addNext_cleanup hs hslots
  | reference i fd => exact addNext_reference hs hslots
  | count fd =>
      refine ⟨L, .of_same rfl rfl (fun _ _ h => h) ?_, Or.inl ⟨rfl, rfl⟩, hs⟩
      exact fun h => h.setCounts _ _
  | unlock ret fd => exact addNext_unlock hs
  | done ret fd => exact AddStepOk.stay hs

end Adds

section Releases

variable {n : Nat} {cfg : KkmConfig} {k : SharedKontainer n} {nextFd : Nat}
variable {L : Ledger n} {t : Fin n} {kkm : Kkm}

/-- A step of a release keeps what the others rely on, and gets to a point where
the next step finds what it needs. -/
def ReleaseStepOk
    (cfg : KkmConfig) (t : Fin n) (L : Ledger n) (kkm : Kkm)
    (r : ReleasePc × Kkm × PageState) : Prop :=
  ∃ L', StepKeeps cfg t kkm r.2.1 L L' ∧ ReleasePcOk r.2.1 L' t r.1

theorem ReleasesEntry.used
    {i : Fin kkmMaxContexts} (h : ReleasesEntry kkm L t i)
    (hslots : ∀ i, entryUsed (kkm.kontext i) = false → L.owner i = .free) :
    ∃ kontext, kkm.kontext i = some kontext ∧ kontext.used = true := by
  obtain ⟨kontext, hkontext⟩ := Option.ne_none_iff_exists'.mp h.2
  refine ⟨kontext, hkontext, ?_⟩
  by_contra hunused
  have hfree := hslots i (by rw [hkontext]; simpa [entryUsed] using hunused)
  rw [h.1] at hfree
  cases hfree

/-- A step on the entry that keeps it in use. -/
theorem ReleasesEntry.step
    {i : Fin kkmMaxContexts} (h : ReleasesEntry kkm L t i)
    {kontext : KkmKontext} (hused : kontext.used = true) :
    StepKeeps cfg t kkm (kkm.setKontext i kontext) L (L.setOwner i (.busy t)) ∧
      ReleasesEntry (kkm.setKontext i kontext) (L.setOwner i (.busy t)) t i := by
  refine ⟨.of_busy h.1 hused, L.setOwner_self i _, ?_⟩
  simp [Kkm.setKontext]

/-- One step of a release. -/
theorem releaseNext_ok
    {pc : ReleasePc} {s : PageState} (h : ReleasePcOk kkm L t pc)
    (hslots : ∀ i, entryUsed (kkm.kontext i) = false → L.owner i = .free) :
    Holds (ReleaseStepOk cfg t L kkm) (releaseNext t pc kkm s) := by
  cases pc with
  | cleanup i =>
      have hentry : ReleasesEntry kkm L t i := h
      obtain ⟨kontext, hkontext, hused⟩ := hentry.used hslots
      have hkept := kkmKontextCleanup_used kontext s
      simp only [releaseNext, onKontext, hkontext]
      exact ⟨_, hentry.step (hkept.trans hused)⟩
  | mmap i rest =>
      have hentry : ReleasesEntry kkm L t i := h
      cases rest with
      | nil =>
          exact ⟨L, .of_same rfl rfl (fun _ _ h => h) (fun h => h), hentry⟩
      | cons j rest =>
          obtain ⟨kontext, hkontext, hused⟩ := hentry.used hslots
          have hkept := freeMmapPage_used kontext s j
          simp only [releaseNext, onKontext, hkontext]
          exact ⟨_, hentry.step (hkept.trans hused)⟩
  | unuse i =>
      have hentry : ReleasesEntry kkm L t i := h
      obtain ⟨kontext, hkontext, _⟩ := hentry.used hslots
      simp only [releaseNext, onKontext, hkontext]
      refine ⟨L.setOwner i .free, .of_entry (Or.inl hentry.1) (fun _ => rfl) ?_,
        trivial⟩
      intro fd hfile
      cases hfile
  | lock =>
      simp only [releaseNext]
      split
      · rename_i hfree
        refine ⟨L, .of_same rfl rfl ?_ (fun h => h.setLock rfl), rfl⟩
        intro t' _ hholder
        rw [hfree] at hholder
        cases hholder
      · exact ⟨L, .of_same rfl rfl (fun _ _ h => h) (fun h => h), trivial⟩
  | count =>
      exact ⟨L, .of_same rfl rfl (fun _ _ h => h) (fun h => h.setCounts _ _), h⟩
  | unlock =>
      have hholder : kkm.kontextLock.holder = some t.val := h
      refine ⟨L, .of_same rfl rfl ?_ (fun h => h.setLock rfl), trivial⟩
      intro t' ht hother
      rw [hholder] at hother
      exact absurd (Fin.ext (Option.some.inj hother).symm) ht
  | reference =>
      exact ⟨L, .of_same rfl rfl (fun _ _ h => h) (fun h => h), trivial⟩

/-- The reference of a file is struck off. -/
def Ledger.dropReference (L : Ledger n) (fd : Nat) : Ledger n :=
  { L with refs := L.refs.erase fd }

/-- The references left after one has been dropped. -/
theorem dropReference_covers
    {fd : Nat} {c : Int} (href : fd ∈ L.refs)
    (h : (L.refs.card : Int) ≤ c ∨ c < 0) :
    (c = 1 ∧ (L.dropReference fd).refs = ∅) ∨
      (c ≠ 1 ∧ (((L.dropReference fd).refs.card : Int) ≤ (refcountDecAndTest c).2 ∨
        (refcountDecAndTest c).2 < 0)) := by
  have hpos : 0 < L.refs.card := Finset.card_pos.mpr ⟨fd, href⟩
  have hcard : (L.refs.erase fd).card = L.refs.card - 1 :=
    Finset.card_erase_of_mem href
  by_cases hone : c = 1
  · refine Or.inl ⟨hone, ?_⟩
    have hzero : (L.refs.erase fd).card = 0 := by omega
    exact Finset.card_eq_zero.mp hzero
  · refine Or.inr ⟨hone, ?_⟩
    simp only [refcountDecAndTest, if_neg hone, Ledger.dropReference, hcard]
    split
    · exact Or.inr (by decide)
    · rename_i hle
      exact Or.inl (by omega)

theorem refcountDecAndTest_of_ne_one {c : Int} (hne : c ≠ 1) :
    (refcountDecAndTest c).1 = false := by
  unfold refcountDecAndTest
  split
  · contradiction
  · split
    · rfl
    · rfl

/-- The kkm is gone with the last reference, or has one less. -/
theorem HandlersTracked.kkm_dropReference
    (h : HandlersTracked cfg k nextFd L) (hkkm : k.kkm = some kkm) {fd : Nat}
    (href : fd ∈ L.refs) (g : KernelState) :
    ((L.dropReference fd).refs.Nonempty →
        (kkmReferenceCountDown kkm .absent g).1.kkm ≠ none) ∧
      ∀ kkm', (kkmReferenceCountDown kkm .absent g).1.kkm = some kkm' →
        ∃ c, kkm' = { kkm with referenceCount := c } ∧
          (((L.dropReference fd).refs.card : Int) ≤ c ∨ c < 0) := by
  rcases dropReference_covers href (h.count kkm hkkm) with
    ⟨hone, hempty⟩ | ⟨hne, hcount⟩
  · rw [kkmReferenceCountDown_of_one hone, hempty]
    exact ⟨fun hno => absurd hno Finset.not_nonempty_empty, fun _ hno => by cases hno⟩
  · have hlast := refcountDecAndTest_of_ne_one hne
    simp only [kkmReferenceCountDown, hlast]
    refine ⟨fun _ => by simp, ?_⟩
    intro kkm' hkkm'
    exact ⟨_, (Option.some.inj hkkm').symm, hcount⟩

/-- The last step of a release. -/
theorem HandlersTracked.dropReference
    (h : HandlersTracked cfg k nextFd L) {f : OpenFile}
    (hc : k.calls t = .release f .reference) (hkkm : k.kkm = some kkm)
    (g : KernelState) :
    HandlersTracked cfg
      (SharedKontainer.setCall
        { k with kkm := (kkmReferenceCountDown kkm .absent g).1.kkm } t .idle)
      nextFd (L.dropReference f.fd) := by
  have hcall := h.calls t
  rw [hc] at hcall
  obtain ⟨hret, href, _⟩ := hcall
  have hne := List.ne_nil_of_mem hret
  obtain ⟨hinstalled, hothers⟩ := h.alone t f _ hc
  obtain ⟨halive, hafter⟩ := h.kkm_dropReference hkkm href g
  have hframe : Frame t (some f.fd) k
      { k with kkm := (kkmReferenceCountDown kkm .absent g).1.kkm }
      nextFd nextFd L (L.dropReference f.fd) := by
    refine ⟨le_rfl, ?_, fun _ hfd => hfd, ?_, fun _ _ howner _ => howner,
      fun _ _ _ howner => howner, ?_, halive⟩
    · intro f' hf'
      exact ⟨fun heq => hinstalled f' hf' (Option.some.inj heq), Or.inl hf'⟩
    · intro fd hfd hgone
      exact Finset.mem_erase.mpr ⟨fun heq => hgone (congrArg some heq), hfd⟩
    · intro kkm₁ kkm₂ h₁ h₂
      cases hkkm.symm.trans h₁
      obtain ⟨c, rfl, _⟩ := hafter kkm₂ h₂
      exact ⟨fun _ _ _ _ => rfl, fun _ _ hholder => hholder⟩
  have hidle := h.idle t
  refine ⟨h.fresh, h.apart, h.known, ?_, ?_, ?_, hidle.alone, ?_, halive, ?_, ?_, ?_⟩
  · intro f' hf' hfd
    exact hframe.tracks (h.installed f' hf' hfd) (hframe.installed f' hf').1
  · refine h.callsOk hne hframe ?_ (fun t' ht => setCall_of_ne _ ht _) ?_
    · intro t' f' ht hf' heq
      have hother := hothers t' ht
      rw [hf'] at hother
      exact hother heq
    · rw [setCall_self]
      exact trivial
  · intro t' a pc hcreate
    exact absurd (hidle.creating t' a pc hcreate).1 hne
  · intro _ kkm₁ h₁
    obtain ⟨c, rfl, _⟩ := hafter kkm₁ h₁
    exact (h.built hne kkm hkkm).setCounts c kkm.kontextCount
  · intro kkm₁ h₁
    obtain ⟨c, rfl, hcount⟩ := hafter kkm₁ h₁
    exact hcount
  · intro kkm₁ i h₁ hunused
    obtain ⟨c, rfl, _⟩ := hafter kkm₁ h₁
    exact h.slots kkm i hkkm hunused
  · intro kkm₁ i fd h₁ howner
    obtain ⟨c, rfl, _⟩ := hafter kkm₁ h₁
    exact h.complete kkm i fd hkkm howner

end Releases

section Files

variable {n : Nat} {cfg : KkmConfig} {k : SharedKontainer n} {nextFd : Nat}
variable {L : Ledger n} {t : Fin n}

/-- The caller of an add learns the descriptor. -/
theorem HandlersTracked.learns
    (h : HandlersTracked cfg k nextFd L) {f : OpenFile} {vcpuId : BitVec 32}
    {a : AddAnswers} {ret : Int} {fd : Option Nat}
    (hc : k.calls t = .add f vcpuId a (.done ret fd)) :
    HandlersTracked cfg { k with returned := learn ret fd k.returned } nextFd L := by
  have hcall := h.calls t
  rw [hc] at hcall
  obtain ⟨hret, _, _, _, _, _, hlearnt⟩ := hcall
  have hne := List.ne_nil_of_mem hret
  have hmem : ∀ x ∈ k.returned, x ∈ learn ret fd k.returned := by
    intro x hx
    unfold learn
    split
    · split
      · exact List.mem_cons_of_mem _ hx
      · exact hx
    · exact hx
  have hnew : ∀ x ∈ learn ret fd k.returned, x ∈ k.returned ∨
      (fd = some x ∧ ret = x) := by
    intro x hx
    cases fd with
    | none => exact Or.inl hx
    | some y =>
        simp only [learn] at hx
        split at hx
        · rename_i hret
          rcases List.mem_cons.mp hx with rfl | hx
          · exact Or.inr ⟨rfl, hret⟩
          · exact Or.inl hx
        · exact Or.inl hx
  have hframe : Frame t none k { k with returned := learn ret fd k.returned }
      nextFd nextFd L L :=
    ⟨le_rfl, fun f hf => ⟨by simp, Or.inl hf⟩, hmem, fun _ hfd _ => hfd,
      fun _ _ howner _ => howner, fun _ _ _ howner => howner, fun _ _ => .of_eq,
      h.alive⟩
  refine ⟨h.fresh, h.apart, ?_, ?_, ?_, ?_, h.alone, ?_, h.alive, h.count, h.slots,
    h.complete⟩
  · intro x hx
    rcases hnew x hx with hold | ⟨hfd, heq⟩
    · exact h.known x hold
    · exact (hlearnt x hfd heq).1
  · intro f' hf' hx
    rcases hnew _ hx with hold | ⟨hfd, heq⟩
    · exact h.installed f' hf' hold
    · exact (hlearnt _ hfd heq).2 f' hf' rfl
  · refine h.callsOk hne hframe (fun _ _ _ _ => by simp) (fun _ _ => rfl) ?_
    have hok := h.calls t
    rw [hc] at hok ⊢
    obtain ⟨hret, hrest⟩ := hok
    exact ⟨hmem _ hret, hrest⟩
  · intro t' a' pc hcreate
    exact absurd (h.creating t' a' pc hcreate).1 hne
  · intro _
    exact h.built hne

/-- A thread that is in no call closes a descriptor it has been given. -/
theorem HandlersTracked.uninstall
    (h : HandlersTracked cfg k nextFd L) {f : OpenFile}
    (hc : k.calls t = .idle) (hret : f.fd ∈ k.returned) :
    HandlersTracked cfg { k with installed := k.installed.erase f } nextFd L := by
  have hne := List.ne_nil_of_mem hret
  have hsub : ∀ f' ∈ k.installed.erase f, f' ∈ k.installed :=
    fun f' hf' => List.mem_of_mem_erase hf'
  have hcalls : ∀ t', CallOk cfg { k with installed := k.installed.erase f } nextFd L
      t' (k.calls t') := by
    have hframe : Frame t none k { k with installed := k.installed.erase f }
        nextFd nextFd L L :=
      ⟨le_rfl, fun f' hf' => ⟨by simp, Or.inl (hsub f' hf')⟩,
        fun _ hfd => hfd, fun _ hfd _ => hfd, fun _ _ howner _ => howner,
        fun _ _ _ howner => howner, fun _ _ => .of_eq, h.alive⟩
    refine h.callsOk hne hframe (fun _ _ _ _ => by simp) (fun _ _ => rfl) ?_
    rw [hc]
    exact trivial
  refine ⟨fun f' hf' => h.fresh f' (hsub f' hf'), ?_, h.known, ?_, hcalls, ?_, ?_,
    h.built, h.alive, h.count, h.slots, h.complete⟩
  · exact h.apart.sublist (List.erase_sublist.map OpenFile.fd)
  · exact fun f' hf' => h.installed f' (hsub f' hf')
  · intro t' a pc hcreate
    exact absurd (h.creating t' a pc hcreate).1 hne
  · intro t' f' pc hrelease
    obtain ⟨hfiles, hothers⟩ := h.alone t' f' pc hrelease
    exact ⟨fun f'' hf'' => hfiles f'' (hsub f'' hf''), hothers⟩

end Files

end Driver
end KkmModule
