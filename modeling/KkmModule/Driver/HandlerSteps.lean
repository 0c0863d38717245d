import KkmModule.Driver.HandlerReadiness

/-!
# Steps of the calls in progress

One lemma for each kind of step: it keeps the invariant of the kontainer it
happens in.  Most steps work on the kkm and one entry of its table;
`HandlersTracked.work` is about all of them.
-/

namespace KkmModule
namespace Driver

open Foundation

section Steps

variable {n : Nat} {cfg : KkmConfig} {k : SharedKontainer n} {nextFd : Nat}
variable {L L' : Ledger n} {t : Fin n} {kkm kkm' : Kkm}

/-! ## Starting and ending calls -/

/-- A thread that is in a call of its own keeps creations away. -/
theorem HandlersTracked.not_creating
    (h : HandlersTracked cfg k nextFd L) (hret : k.returned ≠ [])
    (t' : Fin n) (a : CreateAnswers) (pc : CreatePc) :
    k.calls t' ≠ .create a pc :=
  fun hc => hret (h.creating t' a pc hc).1

theorem setCall_of_ne
    (k : SharedKontainer n) {t t' : Fin n} (h : t' ≠ t) (c : Call) :
    (k.setCall t c).calls t' = k.calls t' := by
  simp [SharedKontainer.setCall, h]

@[simp] theorem setCall_self (k : SharedKontainer n) (t : Fin n) (c : Call) :
    (k.setCall t c).calls t = c := by
  simp [SharedKontainer.setCall]

@[simp] theorem setCall_setCall (k : SharedKontainer n) (t : Fin n) (c c' : Call) :
    (k.setCall t c).setCall t c' = k.setCall t c' := by
  simp [SharedKontainer.setCall]

/-- The invariant with another call of thread `t`. -/
theorem HandlersTracked.setCall
    (h : HandlersTracked cfg k nextFd L) {c : Call}
    (hok : CallOk cfg k nextFd L t c)
    (hcreate : ∀ a pc, c = .create a pc →
      k.returned = [] ∧ L.refs = ∅ ∧ (∀ i, L.owner i = .free) ∧
        ∀ t', t' ≠ t → k.calls t' = .idle)
    (hothers : ∀ t' a pc, t' ≠ t → k.calls t' = .create a pc → c = .idle)
    (hrelease : ∀ f pc, c = .release f pc →
      (∀ f' ∈ k.installed, f'.fd ≠ f.fd) ∧
        ∀ t', t' ≠ t → (k.calls t').file.map OpenFile.fd ≠ some f.fd)
    (halone : ∀ t' f pc, t' ≠ t → k.calls t' = .release f pc →
      c.file.map OpenFile.fd ≠ some f.fd) :
    HandlersTracked cfg (k.setCall t c) nextFd L := by
  refine ⟨h.fresh, h.apart, h.known, h.installed, ?_, ?_, ?_, h.built, h.alive,
    h.count, h.slots, h.complete⟩
  · intro t'
    by_cases ht : t' = t
    · subst ht
      rw [setCall_self]
      exact hok
    · rw [setCall_of_ne k ht]
      exact h.calls t'
  · intro t' a pc hc
    by_cases ht : t' = t
    · subst ht
      rw [setCall_self] at hc
      obtain ⟨hret, hrefs, howner, hidle⟩ := hcreate a pc hc
      refine ⟨hret, hrefs, howner, ?_⟩
      intro t'' ht''
      rw [setCall_of_ne k ht'']
      exact hidle t'' ht''
    · rw [setCall_of_ne k ht] at hc
      obtain ⟨hret, hrefs, howner, hidle⟩ := h.creating t' a pc hc
      refine ⟨hret, hrefs, howner, ?_⟩
      intro t'' ht''
      by_cases heq : t'' = t
      · subst heq
        rw [setCall_self]
        exact hothers t' a pc ht hc
      · rw [setCall_of_ne k heq]
        exact hidle t'' ht''
  · intro t' f pc hc
    by_cases ht : t' = t
    · subst ht
      rw [setCall_self] at hc
      obtain ⟨hfiles, hcalls⟩ := hrelease f pc hc
      refine ⟨hfiles, ?_⟩
      intro t'' ht''
      rw [setCall_of_ne k ht'']
      exact hcalls t'' ht''
    · rw [setCall_of_ne k ht] at hc
      obtain ⟨hfiles, hcalls⟩ := h.alone t' f pc hc
      refine ⟨hfiles, ?_⟩
      intro t'' ht''
      by_cases heq : t'' = t
      · subst heq
        rw [setCall_self]
        exact halone t' f pc ht hc
      · rw [setCall_of_ne k heq]
        exact hcalls t'' ht''

/-- A call ends. -/
theorem HandlersTracked.idle
    (h : HandlersTracked cfg k nextFd L) (t : Fin n) :
    HandlersTracked cfg (k.setCall t .idle) nextFd L := by
  refine h.setCall trivial ?_ ?_ ?_ ?_
  · intro a pc hc
    cases hc
  · intro _ _ _ _ _
    rfl
  · intro f pc hc
    cases hc
  · intro t' f pc _ _ hfile
    cases hfile

/-- What thread `t` does disturbs no other call. -/
theorem HandlersTracked.callsOk
    (h : HandlersTracked cfg k nextFd L) (hret : k.returned ≠ [])
    {gone : Option Nat} {k' : SharedKontainer n} {nextFd' : Nat}
    (hframe : Frame t gone k k' nextFd nextFd' L L')
    (hgone : ∀ t' f, t' ≠ t → (k.calls t').file = some f → some f.fd ≠ gone)
    {calls : Fin n → Call} (hcalls : ∀ t', t' ≠ t → calls t' = k.calls t')
    (hself : CallOk cfg k' nextFd' L' t (calls t)) (t' : Fin n) :
    CallOk cfg k' nextFd' L' t' (calls t') := by
  by_cases ht : t' = t
  · subst ht
    exact hself
  · rw [hcalls t' ht]
    exact hframe.callOk ht (h.not_creating hret t') (fun f hf => hgone t' f ht hf)
      (h.calls t')

/-- A handler starts on a file that the caller has been given. -/
theorem HandlersTracked.begin
    (h : HandlersTracked cfg k nextFd L) {f : OpenFile} (hf : f ∈ k.installed)
    (hret : f.fd ∈ k.returned) {c : Call} (hc : c.handles = some f)
    (hok : CallOk cfg k nextFd L t c) :
    HandlersTracked cfg (k.setCall t c) nextFd L := by
  have hnot := h.not_creating (List.ne_nil_of_mem hret)
  refine h.setCall hok ?_ ?_ ?_ ?_
  · intro a pc heq
    subst heq
    cases hc
  · intro t' a pc _ hcreate
    exact absurd hcreate (hnot t' a pc)
  · intro f' pc heq
    subst heq
    cases hc
  · intro t' f' pc _ hrelease hfile
    have hne := (h.alone t' f' pc hrelease).1 f hf
    cases c with
    | ioctl g =>
        cases hc
        exact hne (Option.some.inj hfile)
    | add g vcpuId a pc =>
        cases hc
        exact hne (Option.some.inj hfile)
    | idle => cases hc
    | create a pc => cases hc
    | release g pc => cases hc

/-! ## Giving up a file -/

/-- The entry of a file passes to the call that releases it. -/
def Ledger.startRelease (L : Ledger n) (t : Fin n) (f : OpenFile) : Ledger n :=
  match f.target with
  | .kontainer => L
  | .kontext i => L.setOwner i (.busy t)

theorem Ledger.startRelease_refs (L : Ledger n) (t : Fin n) (f : OpenFile) :
    (L.startRelease t f).refs = L.refs := by
  unfold Ledger.startRelease
  cases f.target with
  | kontainer => rfl
  | kontext i => rfl

/-- Only the entry of the file changes hands. -/
theorem Ledger.startRelease_owner
    (L : Ledger n) (t : Fin n) {f : OpenFile} {i : Fin kkmMaxContexts}
    (hi : f.target ≠ .kontext i) :
    (L.startRelease t f).owner i = L.owner i := by
  unfold Ledger.startRelease
  cases htarget : f.target with
  | kontainer => rfl
  | kontext j =>
      have hij : i ≠ j := by
        rintro rfl
        exact hi htarget
      exact L.setOwner_of_ne hij _

theorem Tracks.startRelease_owner
    {f : OpenFile} (htracks : Tracks L f) (t : Fin n) {i : Fin kkmMaxContexts}
    (hne : L.owner i ≠ .file f.fd) :
    (L.startRelease t f).owner i = L.owner i :=
  L.startRelease_owner t fun htarget => hne (htracks.2 i htarget)

/-- What another file owns it has owned before. -/
theorem Ledger.file_of_startRelease
    {f : OpenFile} {i : Fin kkmMaxContexts} {fd : Nat}
    (howner : (L.startRelease t f).owner i = .file fd) : L.owner i = .file fd := by
  have hi : f.target ≠ .kontext i := by
    intro htarget
    simp [Ledger.startRelease, htarget] at howner
  rw [L.startRelease_owner t hi] at howner
  exact howner

theorem HandlersTracked.releaseFrame
    (h : HandlersTracked cfg k nextFd L) {f : OpenFile} (htracks : Tracks L f)
    (hinstalled : ∀ f' ∈ k.installed, f'.fd ≠ f.fd) (t : Fin n) :
    Frame t (some f.fd) k k nextFd nextFd L (L.startRelease t f) := by
  have hrefs := L.startRelease_refs t f
  refine ⟨le_rfl, ?_, fun _ hfd => hfd, ?_, ?_, ?_, fun _ _ => .of_eq, ?_⟩
  · intro f' hf'
    exact ⟨fun heq => hinstalled f' hf' (Option.some.inj heq), Or.inl hf'⟩
  · intro fd hfd _
    rw [hrefs]
    exact hfd
  · intro i fd howner hne
    rw [htracks.startRelease_owner t]
    · exact howner
    · intro hsame
      cases howner.symm.trans hsame
      exact hne rfl
  · intro i t' _ howner
    rw [htracks.startRelease_owner t]
    · exact howner
    · intro hsame
      cases howner.symm.trans hsame
  · rw [hrefs]
    exact h.alive

/-- The entry has changed hands; the call is put aside. -/
theorem HandlersTracked.release_idle
    (h : HandlersTracked cfg k nextFd L) {f : OpenFile} (htracks : Tracks L f)
    (hret : f.fd ∈ k.returned) (hinstalled : ∀ f' ∈ k.installed, f'.fd ≠ f.fd)
    (hcalls : ∀ t', t' ≠ t → (k.calls t').file.map OpenFile.fd ≠ some f.fd) :
    HandlersTracked cfg (k.setCall t .idle) nextFd (L.startRelease t f) := by
  have hne := List.ne_nil_of_mem hret
  have hrefs := L.startRelease_refs t f
  have hframe := h.releaseFrame htracks hinstalled t
  have hidle := h.idle t
  refine ⟨h.fresh, h.apart, h.known, ?_, ?_, ?_, hidle.alone, h.built, hframe.alive,
    ?_, ?_, ?_⟩
  · intro f' hf' hfd
    exact hframe.tracks (h.installed f' hf' hfd) (hframe.installed f' hf').1
  · refine h.callsOk hne hframe ?_ (fun t' ht => setCall_of_ne k ht _) ?_
    · intro t' f' ht hf' heq
      have hother := hcalls t' ht
      rw [hf'] at hother
      exact hother heq
    · rw [setCall_self]
      exact trivial
  · intro t' a pc hc
    exact absurd (hidle.creating t' a pc hc).1 hne
  · rw [hrefs]
    exact h.count
  · intro kkm₁ i h₁ hunused
    have hfree := h.slots kkm₁ i h₁ hunused
    rw [htracks.startRelease_owner t]
    · exact hfree
    · intro hsame
      cases hfree.symm.trans hsame
  · intro kkm₁ i fd h₁ howner
    exact h.complete kkm₁ i fd h₁ (Ledger.file_of_startRelease howner)

theorem HandlersTracked.release
    (h : HandlersTracked cfg k nextFd L) {f : OpenFile} (htracks : Tracks L f)
    (hret : f.fd ∈ k.returned) (hinstalled : ∀ f' ∈ k.installed, f'.fd ≠ f.fd)
    (hcalls : ∀ t', t' ≠ t → (k.calls t').file.map OpenFile.fd ≠ some f.fd) :
    HandlersTracked cfg (k.setCall t (.release f (releaseStart f.target))) nextFd
      (L.startRelease t f) := by
  obtain ⟨kkm, hkkm⟩ := Option.ne_none_iff_exists'.mp (h.alive ⟨_, htracks.1⟩)
  have hnot := h.not_creating (List.ne_nil_of_mem hret)
  have htracked := h.release_idle htracks hret hinstalled hcalls
  rw [← setCall_setCall k t .idle]
  refine htracked.setCall ?_ ?_ ?_ ?_ ?_
  · refine ⟨hret, by rw [L.startRelease_refs]; exact htracks.1, kkm, hkkm, ?_⟩
    cases htarget : f.target with
    | kontainer => exact trivial
    | kontext i =>
        refine ⟨by simp [Ledger.startRelease, htarget], ?_⟩
        obtain ⟨kontext, hkontext, _⟩ :=
          h.complete kkm i f.fd hkkm (htracks.2 i htarget)
        rw [hkontext]
        simp
  · intro a pc hc
    cases hc
  · intro t' a pc ht hc
    rw [setCall_of_ne k ht] at hc
    exact absurd hc (hnot t' a pc)
  · intro f' pc hc
    cases hc
    refine ⟨hinstalled, ?_⟩
    intro t' ht
    rw [setCall_of_ne k ht]
    exact hcalls t' ht
  · intro t' f' pc ht hc hfile
    rw [setCall_of_ne k ht] at hc
    refine hcalls t' ht ?_
    rw [hc]
    exact hfile.symm

/-- Thread `t` gives up its hold on a file it knows. -/
theorem HandlersTracked.dropFile
    (h : HandlersTracked cfg k nextFd L) {f : OpenFile} (htracks : Tracks L f)
    (hret : f.fd ∈ k.returned)
    (hreleases : ∀ t' f' pc, t' ≠ t → k.calls t' = .release f' pc →
      f'.fd ≠ f.fd) :
    ∃ L', HandlersTracked cfg (k.dropFile t f) nextFd L' := by
  unfold SharedKontainer.dropFile
  split
  · exact ⟨L, h.idle t⟩
  · rename_i hopen
    simp only [SharedKontainer.keepsOpen, Bool.or_eq_true, List.any_eq_true,
      decide_eq_true_eq, not_or, not_exists, not_and] at hopen
    refine ⟨L.startRelease t f, h.release htracks hret hopen.1 ?_⟩
    intro t' ht hfile
    have hhandles := hopen.2 t' ht
    cases hc : k.calls t' with
    | idle => simp [hc, Call.file] at hfile
    | create a pc => simp [hc, Call.file] at hfile
    | ioctl f' =>
        rw [hc] at hhandles hfile
        exact hhandles hfile
    | add f' vcpuId a pc =>
        rw [hc] at hhandles hfile
        exact hhandles hfile
    | release f' pc =>
        rw [hc] at hfile
        exact hreleases t' f' pc ht hc (Option.some.inj hfile)

/-! ## Working on the kkm -/

/-- What a step of thread `t` on the kkm and the ledger keeps. -/
structure StepKeeps
    (cfg : KkmConfig) (t : Fin n) (kkm kkm' : Kkm) (L L' : Ledger n) : Prop where
  frame : KkmFrame t L kkm kkm'
  refs : L.refs ⊆ L'.refs
  files : ∀ i fd, L.owner i = .file fd → L'.owner i = .file fd
  busy : ∀ i t', t' ≠ t → L.owner i = .busy t' → L'.owner i = .busy t'
  built : KontainerBuilt cfg kkm → KontainerBuilt cfg kkm'
  count : (L.refs.card : Int) ≤ kkm.referenceCount ∨ kkm.referenceCount < 0 →
    (L'.refs.card : Int) ≤ kkm'.referenceCount ∨ kkm'.referenceCount < 0
  slots : ∀ i, (entryUsed (kkm.kontext i) = false → L.owner i = .free) →
    entryUsed (kkm'.kontext i) = false → L'.owner i = .free
  complete : ∀ i fd, (∀ fd, L.owner i = .file fd → EntryReady (kkm.kontext i)) →
    L'.owner i = .file fd → EntryReady (kkm'.kontext i)

/-- Nothing is installed, or a file with the next descriptor. -/
def Installs
    (files files' : List OpenFile) (nextFd nextFd' : Nat) : Prop :=
  (files' = files ∧ nextFd' = nextFd) ∨
    ∃ target, files' = ⟨nextFd, target⟩ :: files ∧ nextFd' = nextFd + 1

theorem Installs.mem
    {files files' : List OpenFile} {nextFd nextFd' : Nat}
    (h : Installs files files' nextFd nextFd') {f : OpenFile} (hf : f ∈ files') :
    f ∈ files ∨ f.fd = nextFd := by
  rcases h with ⟨rfl, _⟩ | ⟨target, rfl, _⟩
  · exact Or.inl hf
  · rcases List.mem_cons.mp hf with rfl | hf
    · exact Or.inr rfl
    · exact Or.inl hf

theorem Installs.le
    {files files' : List OpenFile} {nextFd nextFd' : Nat}
    (h : Installs files files' nextFd nextFd') :
    nextFd ≤ nextFd' := by
  rcases h with ⟨_, rfl⟩ | ⟨_, _, rfl⟩
  · exact le_rfl
  · exact Nat.le_succ nextFd

/-- The kkm, the files and the ledger change; the call is put aside. -/
theorem HandlersTracked.work_idle
    (h : HandlersTracked cfg k nextFd L) (hkkm : k.kkm = some kkm)
    (hret : k.returned ≠ []) (hkeeps : StepKeeps cfg t kkm kkm' L L')
    {files' : List OpenFile} {nextFd' : Nat}
    (hinstalls : Installs k.installed files' nextFd nextFd') :
    HandlersTracked cfg
      (SharedKontainer.setCall
        { k with kkm := some kkm', installed := files' } t .idle) nextFd' L' := by
  have hframe : Frame t none k { k with kkm := some kkm', installed := files' }
      nextFd nextFd' L L' := by
    refine ⟨hinstalls.le, ?_, fun _ hfd => hfd, fun _ hfd _ => hkeeps.refs hfd,
      fun i fd howner _ => hkeeps.files i fd howner, hkeeps.busy, ?_, ?_⟩
    · intro f hf
      refine ⟨by simp, ?_⟩
      rcases hinstalls.mem hf with hold | hnew
      · exact Or.inl hold
      · exact Or.inr (by omega)
    · intro kkm₁ kkm₂ h₁ h₂
      rw [hkkm] at h₁
      cases h₁
      cases h₂
      exact hkeeps.frame
    · intro _ hnone
      cases hnone
  have hfresh : ∀ f ∈ files', f.fd < nextFd' := by
    rcases hinstalls with ⟨rfl, rfl⟩ | ⟨target, rfl, rfl⟩
    · exact h.fresh
    · intro f hf
      rcases List.mem_cons.mp hf with rfl | hf
      · exact Nat.lt_succ_self nextFd
      · exact Nat.lt_succ_of_lt (h.fresh f hf)
  have hapart : (files'.map OpenFile.fd).Nodup := by
    rcases hinstalls with ⟨rfl, rfl⟩ | ⟨target, rfl, rfl⟩
    · exact h.apart
    · rw [List.map_cons, List.nodup_cons]
      refine ⟨?_, h.apart⟩
      intro hmem
      obtain ⟨f, hf, hfd⟩ := List.mem_map.mp hmem
      exact absurd hfd (Nat.ne_of_lt (h.fresh f hf))
  have hold : ∀ f ∈ files', f.fd ∈ k.returned → f ∈ k.installed := by
    intro f hf hfd
    rcases hinstalls.mem hf with hold | hnew
    · exact hold
    · have hlt := h.known f.fd hfd
      omega
  have hidle := h.idle t
  refine ⟨hfresh, hapart, ?_, ?_, ?_, ?_, ?_, ?_, ?_, ?_, ?_, ?_⟩
  · intro fd hfd
    exact lt_of_lt_of_le (h.known fd hfd) hinstalls.le
  · intro f hf hfd
    exact hframe.tracks (h.installed f (hold f hf hfd) hfd) (by simp)
  · refine h.callsOk hret hframe (fun _ _ _ _ => by simp)
      (fun t' ht => setCall_of_ne _ ht _) ?_
    rw [setCall_self]
    exact trivial
  · intro t' a pc hc
    exact absurd (hidle.creating t' a pc hc).1 hret
  · intro t' f pc hc
    obtain ⟨hfiles, hcalls⟩ := hidle.alone t' f pc hc
    refine ⟨?_, hcalls⟩
    intro f' hf'
    rcases hinstalls.mem hf' with hold | hnew
    · exact hfiles f' hold
    · have hc' : (k.setCall t .idle).calls t' = .release f pc := hc
      have hcall := hidle.calls t'
      rw [hc'] at hcall
      have hlt := h.known f.fd hcall.1
      omega
  · intro _ kkm₁ h₁
    cases h₁
    exact hkeeps.built (h.built hret kkm hkkm)
  · intro _ hnone
    cases hnone
  · intro kkm₁ h₁
    cases h₁
    exact hkeeps.count (h.count kkm hkkm)
  · intro kkm₁ i h₁ hunused
    cases h₁
    exact hkeeps.slots i (h.slots kkm i hkkm) hunused
  · intro kkm₁ i fd h₁ howner
    cases h₁
    exact hkeeps.complete i fd (fun fd => h.complete kkm i fd hkkm) howner

/-- A step of an add. -/
theorem HandlersTracked.workAdd
    (h : HandlersTracked cfg k nextFd L) (hkkm : k.kkm = some kkm)
    {f : OpenFile} {vcpuId : BitVec 32} {a : AddAnswers} {pc pc' : AddPc}
    (hc : k.calls t = .add f vcpuId a pc)
    (hkeeps : StepKeeps cfg t kkm kkm' L L')
    {files' : List OpenFile} {nextFd' : Nat}
    (hinstalls : Installs k.installed files' nextFd nextFd')
    (hpc : AddPcOk files' kkm' nextFd' L' t a pc') :
    HandlersTracked cfg
      (SharedKontainer.setCall { k with kkm := some kkm', installed := files' } t
        (.add f vcpuId a pc')) nextFd' L' := by
  have hcall := h.calls t
  rw [hc] at hcall
  obtain ⟨hret, href, htarget, ha, _⟩ := hcall
  have hne := List.ne_nil_of_mem hret
  have hwork := h.work_idle hkkm hne hkeeps hinstalls
  rw [← setCall_setCall _ t .idle]
  refine hwork.setCall ?_ ?_ ?_ ?_ ?_
  · exact ⟨hret, hkeeps.refs href, htarget, ha, kkm', rfl, hpc⟩
  · intro a' pc₁ heq
    cases heq
  · intro t' a' pc₁ _ hcreate
    exact absurd hcreate (hwork.not_creating hne t' a' pc₁)
  · intro f' pc₁ heq
    cases heq
  · intro t' f' pc₁ ht hrelease hfile
    rw [setCall_of_ne _ ht] at hrelease
    have halone := (h.alone t' f' pc₁ hrelease).2 t (Ne.symm ht)
    rw [hc] at halone
    exact halone hfile

/-- A step of a release. -/
theorem HandlersTracked.workRelease
    (h : HandlersTracked cfg k nextFd L) (hkkm : k.kkm = some kkm)
    {f : OpenFile} {pc pc' : ReleasePc} (hc : k.calls t = .release f pc)
    (hkeeps : StepKeeps cfg t kkm kkm' L L') (hpc : ReleasePcOk kkm' L' t pc') :
    HandlersTracked cfg
      (SharedKontainer.setCall { k with kkm := some kkm' } t (.release f pc'))
      nextFd L' := by
  have hcall := h.calls t
  rw [hc] at hcall
  obtain ⟨hret, href, _⟩ := hcall
  have hne := List.ne_nil_of_mem hret
  have hwork := h.work_idle hkkm hne hkeeps (Or.inl ⟨rfl, rfl⟩)
  obtain ⟨hfiles, hcalls⟩ := h.alone t f pc hc
  rw [← setCall_setCall _ t .idle]
  refine hwork.setCall ?_ ?_ ?_ ?_ ?_
  · exact ⟨hret, hkeeps.refs href, kkm', rfl, hpc⟩
  · intro a' pc₁ heq
    cases heq
  · intro t' a' pc₁ _ hcreate
    exact absurd hcreate (hwork.not_creating hne t' a' pc₁)
  · intro f' pc₁ heq
    cases heq
    refine ⟨hfiles, ?_⟩
    intro t' ht
    rw [setCall_of_ne _ ht]
    exact hcalls t' ht
  · intro t' f' pc₁ ht hrelease hfile
    rw [setCall_of_ne _ ht] at hrelease
    have halone := (h.alone t' f' pc₁ hrelease).2 t (Ne.symm ht)
    rw [hc] at halone
    exact halone hfile

/-! ## The two kinds of work -/

/-- Nothing but locks, counts and the fields that no handler relies on. -/
theorem StepKeeps.of_same
    (hkontext : kkm'.kontext = kkm.kontext)
    (hcount : kkm'.referenceCount = kkm.referenceCount)
    (hlock : ∀ t' : Fin n, t' ≠ t → kkm.kontextLock.holder = some t'.val →
      kkm'.kontextLock.holder = some t'.val)
    (hbuilt : KontainerBuilt cfg kkm → KontainerBuilt cfg kkm') :
    StepKeeps cfg t kkm kkm' L L := by
  refine ⟨⟨?_, hlock⟩, Finset.Subset.refl _, fun _ _ h => h, fun _ _ _ h => h,
    hbuilt, ?_, ?_, ?_⟩
  · intro i t' _ _
    rw [hkontext]
  · intro h
    rw [hcount]
    exact h
  · intro i h hunused
    rw [hkontext] at hunused
    exact h hunused
  · intro i fd h howner
    rw [hkontext]
    exact h fd howner

/-- One entry, which is the thread's own or free. -/
theorem StepKeeps.of_entry
    {i : Fin kkmMaxContexts} {kontext : KkmKontext} {o : EntryOwner n}
    (hown : L.owner i = .busy t ∨ L.owner i = .free)
    (hunused : kontext.used = false → o = .free)
    (hready : ∀ fd, o = .file fd → KontextReady kontext) :
    StepKeeps cfg t kkm (kkm.setKontext i kontext) L (L.setOwner i o) := by
  have hbusy : ∀ j t', t' ≠ t → L.owner j = .busy t' → j ≠ i := by
    rintro j t' ht howner rfl
    rcases hown with h | h
    · rw [h] at howner
      cases howner
      exact ht rfl
    · rw [h] at howner
      cases howner
  have hfile : ∀ j fd, L.owner j = .file fd → j ≠ i := by
    rintro j fd howner rfl
    rcases hown with h | h
    · rw [h] at howner
      cases howner
    · rw [h] at howner
      cases howner
  have hentry : ∀ j, j ≠ i → (kkm.setKontext i kontext).kontext j = kkm.kontext j :=
    fun j hj => Function.update_of_ne hj _ _
  have hself : (kkm.setKontext i kontext).kontext i = some kontext :=
    Function.update_self ..
  refine ⟨⟨?_, fun _ _ h => h⟩, Finset.Subset.refl _, ?_, ?_,
    fun h => h.setKontext i kontext, fun h => h, ?_, ?_⟩
  · intro j t' ht howner
    exact hentry j (hbusy j t' ht howner)
  · intro j fd howner
    rw [L.setOwner_of_ne (hfile j fd howner)]
    exact howner
  · intro j t' ht howner
    rw [L.setOwner_of_ne (hbusy j t' ht howner)]
    exact howner
  · intro j h hj
    by_cases hji : j = i
    · subst hji
      rw [hself] at hj
      rw [L.setOwner_self]
      exact hunused hj
    · rw [hentry j hji] at hj
      rw [L.setOwner_of_ne hji]
      exact h hj
  · intro j fd h howner
    by_cases hji : j = i
    · subst hji
      rw [L.setOwner_self] at howner
      exact ⟨kontext, hself, hready fd howner⟩
    · rw [L.setOwner_of_ne hji] at howner
      rw [hentry j hji]
      exact h fd howner

end Steps

end Driver
end KkmModule
