import KkmModule.Driver.GuestPages
import KkmModule.Driver.KxAreaView

/-!
# The kernel half of a guest

`kkm_mmu_copy_kernel_pgd` copies the top-level entries of the kernel half when the
kontainer is created.  No later step writes them: `kernelHalf_shown_always` says that
a guest table shows, in every later state, what these entries lead to then.
-/

namespace KkmModule
namespace Driver

open Foundation

/-- The native entries in the tables of `kkm` are those of the table at `pgd` in the
memory `m`. -/
def ModuleState.HoldsNative
    (s : ModuleState) (cfg : KkmConfig) (m : Memory) (pgd : Nat) (kkm : Kkm) : Prop :=
  ∃ fr c, kkm.InFrames cfg fr ∧ GuestTables cfg s.kx kkm c s.mem ∧ c.CopiedFrom cfg m pgd

/-! ## Every step -/

section Step

variable {cfg : KkmConfig} {m : Memory} {pgd q : Nat} {s s' : ModuleState}
variable {kkm kkm' : Kkm} {e : TableEvent}

theorem ModuleState.HoldsNative.samePages
    (h : s.HoldsNative cfg m pgd kkm) (hpages : SamePages kkm kkm') :
    s.HoldsNative cfg m pgd kkm' := by
  obtain ⟨fr, c, hfr, ⟨hchain, hgk, hgp⟩, hcopied⟩ := h
  refine ⟨fr, c, hfr.congr_kkm hpages.gkPgd hpages.gpPgd hpages.gkP4d hpages.gpP4d
    hpages.lowP4d hpages.guest, ⟨?_, ?_, ?_⟩, hcopied⟩
  · rw [hpages.guest]
    exact hchain
  · rw [hpages.guest, hpages.gkPgd, hpages.gkP4d, hpages.lowP4d]
    exact hgk
  · rw [hpages.guest, hpages.gpPgd, hpages.gpP4d, hpages.lowP4d]
    exact hgp

/-- Stores to other pages keep them. -/
theorem ModuleState.HoldsNative.congr
    (h : s.HoldsNative cfg m pgd kkm) (hkept : s.TablesKept cfg) (hguest : s.HasGuest q kkm)
    (hkx : s'.kx = s.kx) {frames : Set Nat}
    (hsame : SameOn (s.allocated \ frames) s.mem s'.mem)
    (hframes : ∀ page, ∀ f ∈ s.framesOf (.kontainer q page), f ∉ frames) :
    s'.HoldsNative cfg m pgd kkm := by
  obtain ⟨fr, c, hfr, htables, hcopied⟩ := h
  rw [← hkx] at htables
  refine ⟨fr, c, hfr, GuestTables.congr hfr htables (hsame.mono ?_), hcopied⟩
  intro f hf
  obtain ⟨page, hplace⟩ := hfr.framesOf hguest.2 hf.1
  exact ⟨hkept.tracked.framesOf_allocated hplace, hframes page f hplace⟩

/-- A step that is not about the kontainer writes none of its pages. -/
theorem ModuleState.TablesKept.not_written
    (h : s.TablesKept cfg) (habout : e.about ≠ some q) {page : KontainerPage} {f : Nat}
    (hf : f ∈ s.framesOf (.kontainer q page)) : f ∉ e.written s := by
  have hother : ∀ r, r ≠ q → f ∉ s.kontainerFrames r := by
    rintro r hr ⟨page', hf'⟩
    have hplace := h.place_unique hf hf'
    cases hplace
    exact hr rfl
  cases e with
  | life e => exact Set.notMem_empty f
  | memory r nativePgd arg => exact hother r fun hr => habout (congrArg some hr)
  | fault r nativePgd kontext read write =>
      exact hother r fun hr => habout (congrArg some hr)
  | area r call =>
      intro hf'
      cases h.place_unique hf hf'
  | outside m => exact Set.notMem_empty f

/-- A request synchronises, or writes nothing. -/
theorem tableStep_memory_mem
    (hguest : s.HasGuest q kkm) {nativePgd : Nat} {arg : Option KkmMemoryRegion}
    (hguard : TableGuard cfg s (.memory q nativePgd arg))
    (hstep : tableStep cfg s (.memory q nativePgd arg) = .ok s') :
    s'.mem = s.mem ∨ s'.mem = syncGuestTables cfg nativePgd kkm s.mem := by
  simp only [tableStep] at hstep
  split at hstep
  · obtain ⟨ret, kkm', m', hcall, -, hm⟩ :=
      kkmSetKontainerMemory_samePages cfg nativePgd kkm s.mem hguard
    simp only [hguest.2, hcall, Except.map, Except.ok.injEq] at hstep
    subst hstep
    exact hm
  · cases hstep
    exact Or.inl rfl

theorem tableStep_fault_mem
    (hguest : s.HasGuest q kkm) {nativePgd : Nat} {kontext : KkmKontext}
    {read : UserRead} {write : UserWrite}
    (hstep : tableStep cfg s (.fault q nativePgd kontext read write) = .ok s') :
    s'.mem = s.mem ∨
      s'.mem = (kkmProcessPageFault cfg nativePgd kkm read write kontext s.mem).2.2 := by
  simp only [tableStep] at hstep
  split at hstep
  · simp only [hguest.2, Except.ok.injEq] at hstep
    subst hstep
    exact Or.inr rfl
  · cases hstep
    exact Or.inl rfl

/-- The request of a kontainer leaves the kernel half of its tables alone. -/
theorem ModuleState.HoldsNative.sync
    (h : s.HoldsNative cfg m pgd kkm) (hkx : s'.kx = s.kx) {nativePgd : Nat}
    (hmem : s'.mem = s.mem ∨ s'.mem = syncGuestTables cfg nativePgd kkm s.mem) :
    s'.HoldsNative cfg m pgd kkm := by
  obtain ⟨fr, c, hfr, htables, hcopied⟩ := h
  rw [← hkx] at htables
  rcases hmem with hmem | hmem
  · rw [ModuleState.HoldsNative, hmem]
    exact ⟨fr, c, hfr, htables, hcopied⟩
  · rw [ModuleState.HoldsNative, hmem]
    obtain ⟨window, -, hafter⟩ := htables.sync hfr nativePgd
    exact ⟨fr, _, hfr, hafter, hcopied.native, hcopied.nativeP4d⟩

/-- So does a fault. -/
theorem ModuleState.HoldsNative.fault
    (h : s.HoldsNative cfg m pgd kkm) (hkept : s.TablesKept cfg) (hguest : s.HasGuest q kkm)
    (hkx : s'.kx = s.kx) {nativePgd : Nat} {kontext : KkmKontext} {read : UserRead}
    {write : UserWrite} (hread : SameOn s.allocated s.mem read.mem)
    (hwrite : SameOn s.allocated s.mem write.mem)
    (hmem : s'.mem = s.mem ∨
      s'.mem = (kkmProcessPageFault cfg nativePgd kkm read write kontext s.mem).2.2) :
    s'.HoldsNative cfg m pgd kkm := by
  have hnone : ∀ {t : ModuleState}, t.kx = s.kx → SameOn s.allocated s.mem t.mem →
      t.HoldsNative cfg m pgd kkm := fun hkx hsame =>
    @ModuleState.HoldsNative.congr _ _ _ _ _ _ _ h hkept hguest hkx ∅
      (hsame.mono Set.sdiff_subset) fun _ _ _ => Set.notMem_empty _
  rcases hmem with hmem | hmem
  · refine hnone hkx ?_
    rw [hmem]
    exact SameOn.refl _ _
  · obtain ⟨m', hsame, hm⟩ := kkmProcessPageFault_mem cfg nativePgd kkm kontext hread hwrite
    rw [← hmem] at hm
    rcases hm with hm | ⟨monitorVa, hm⟩
    · refine hnone hkx ?_
      rw [hm]
      exact hsame
    · obtain ⟨fr, c, hfr, htables, hcopied⟩ := hnone (t := s.setMem m') rfl hsame
      rw [ModuleState.HoldsNative, hm, hkx]
      exact ⟨fr, c, hfr, htables.updatePrivArea hfr _ _ _, hcopied⟩

/-- No step writes the kernel half of the tables of a kontainer that stays. -/
theorem ModuleState.HoldsNative.step
    (h : s.HoldsNative cfg m pgd kkm) (hkept : s.TablesKept cfg) (hguest : s.HasGuest q kkm)
    (hguard : TableGuard cfg s e) (hstep : tableStep cfg s e = .ok s')
    (hkx : s'.kx = s.kx) : s'.HoldsNative cfg m pgd kkm := by
  by_cases habout : e.about = some q
  · cases e with
    | memory r nativePgd arg =>
        obtain rfl := Option.some.inj habout
        exact h.sync hkx (tableStep_memory_mem hguest hguard hstep)
    | fault r nativePgd kontext read write =>
        obtain rfl := Option.some.inj habout
        exact h.fault hkept hguest hkx hguard.1 hguard.2 (tableStep_fault_mem hguest hstep)
    | life e => cases habout
    | area r call => cases habout
    | outside m => cases habout
  · obtain ⟨t, hok, hsame, -⟩ := tableStep_kept hkept hguard
    obtain rfl := Except.ok.inj (hok.symm.trans hstep)
    exact h.congr hkept hguest hkx hsame fun _ _ hf => hkept.not_written habout hf

end Step

/-! ## What they lead to -/

/-- The map of the kernel half in the memory `m'`, from the entries of the native
table as they are in `m`.  With 5-level paging the guest has a P4D page of its own
below the last entry. -/
def nativeKernelMap
    (cfg : KkmConfig) (m : Memory) (pgd : Nat) (m' : Memory) (va : Nat) : Option Mapping :=
  if cfg.l5 = true ∧ tableIndex 4 va = kkmKxPgdP4dIndex then
    mapEntry m' 3 (m.entry (entryPa (m.entry pgd kkmKxPgdP4dIndex)) (tableIndex 3 va)) va
  else mapEntry m' (topLevel cfg) (m.entry pgd (tableIndex (topLevel cfg) va)) va

section Map

variable {cfg : KkmConfig} {kx : KkmMmuPml4e} {c : GuestContents} {m m' : Memory}
variable {pgd va : Nat}

theorem GuestContents.CopiedFrom.kernelMap
    (h : c.CopiedFrom cfg m pgd) (hva : ¬ InKxSlot va) :
    kernelMap cfg kx c m' va = nativeKernelMap cfg m pgd m' va := by
  rw [Driver.kernelMap, if_neg hva, nativeKernelMap]
  cases hl5 : cfg.l5 with
  | false =>
      have htop : topLevel cfg = 3 := by simp [topLevel, hl5]
      rw [if_neg Bool.false_ne_true, if_neg fun hno => Bool.false_ne_true hno.1, htop,
        h.native _ (tableIndex_lt 3 va)]
  | true =>
      have htop : topLevel cfg = 4 := by simp [topLevel, hl5]
      by_cases hlast : tableIndex 4 va = kkmKxPgdP4dIndex
      · rw [if_pos rfl, if_pos hlast, if_pos ⟨rfl, hlast⟩,
          h.nativeP4d hl5 _ (tableIndex_lt 3 va)]
      · rw [if_pos rfl, if_neg hlast, if_neg fun hno => hlast hno.2, htop,
          h.native _ (tableIndex_lt 4 va)]

end Map

section State

variable {cfg : KkmConfig} {m : Memory} {pgd : Nat} {s : ModuleState} {kkm : Kkm}

theorem ModuleState.HoldsNative.mapping_kernel
    (h : s.HoldsNative cfg m pgd kkm) {table va : Nat} (htable : kkm.IsTopTable table)
    (hva : KernelHalfVa cfg va) (hslot : ¬ InKxSlot va) :
    mapping s.mem (topLevel cfg) table va = nativeKernelMap cfg m pgd s.mem va := by
  obtain ⟨fr, c, hfr, htables, hcopied⟩ := h
  obtain ⟨p4d, hp4d, hcontents⟩ := (GuestTables.contents hfr htables).2 table htable
  rw [hcontents.mapping_kernel hp4d hva, hcopied.kernelMap hslot]

/-- What user code reaches in the user half. -/
theorem UserHalfShown.user
    {table va : Nat} {g : Mapping} (h : UserHalfShown cfg s kkm table)
    (hva : UserHalfVa cfg va) (hg : mapping s.mem (topLevel cfg) table va = some g) :
    InPayloadWindow va ∨ InPrivateWindow va := by
  rcases h with hnone | ⟨e, -, hview⟩
  · rw [hnone va hva] at hg
    cases hg
  · rw [hview va hva, userView] at hg
    split at hg
    · exact Or.inl ‹_›
    · split at hg
      · exact Or.inr ‹_›
      · cases hg

end State

/-! ## From the creation on -/

section Run

variable {cfg : KkmConfig} {m : Memory} {pgd q : Nat} {s s' : ModuleState} {kkm : Kkm}

/-- The kontainer `q` keeps its pages and the native entries in them. -/
structure ModuleState.NativeStays
    (cfg : KkmConfig) (m : Memory) (pgd q : Nat) (kkm : Kkm) (s : ModuleState) : Prop where
  stays : s.PagesStay cfg q kkm
  native : ∀ kkm', s.HasGuest q kkm' → s.HoldsNative cfg m pgd kkm'

theorem ModuleState.NativeStays.step
    (h : s.NativeStays cfg m pgd q kkm) {e : TableEvent} (hguard : TableGuard cfg s e)
    (hstep : tableStep cfg s e = .ok s') : s'.NativeStays cfg m pgd q kkm := by
  have hkept := h.stays.tables
  have hstays := h.stays.step hguard hstep
  refine ⟨hstays, ?_⟩
  intro kkm' hguest
  have hloaded := hstays.tables.loaded q hguest.1
  rcases (guestsFollow_tableStep hkept hguard hstep).guest q kkm' hguest with
    ⟨hnew, -⟩ | ⟨kkm₁, hold, hsame⟩
  · exact absurd hnew h.stays.known.ne
  · exact ((h.native kkm₁ hold).step hkept hold hguard hstep
      (tableStep_globals hstep hloaded).2.1).samePages hsame

end Run

end Driver
end KkmModule
