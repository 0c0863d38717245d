import KkmModule.Driver.InstalledFiles

/-!
# The count of kontexts

One kontainer, whose file stays open while kontexts are added and kontext files
are closed.  `kontext_count` is meant to be the number of entries in use.

An add whose page allocations fail leaves its entry in use without counting it,
and the file descriptor it may have installed counts down on its release.
`kontextsCounted_iff_addsComplete` says that this is the only way to lose the
count.
-/

namespace KkmModule
namespace Driver

open Foundation

structure OneKontainer where
  kontainer : KontainerState
  kernel : KernelState

inductive KontextRequest where
  | add (vcpuId : BitVec 32) (answers : AddAnswers)
  | close (fd : Nat)

/-- The installed kontext file with this descriptor. -/
def kontextFile (k : KontainerState) (fd : Nat) : Option OpenFile :=
  k.files.find? fun f => decide (f.fd = fd) && decide (f.target ≠ .kontainer)

def kontextStep (cfg : KkmConfig) (s : OneKontainer) :
    KontextRequest → Except KernelFault OneKontainer
  | .add vcpuId a =>
      (kkmAddExecutionKontext cfg vcpuId a s.kontainer s.kernel).map
        fun r => ⟨r.2.1, r.2.2⟩
  | .close fd =>
      match kontextFile s.kontainer fd with
      | none => .ok s
      | some file =>
          (closeFile file s.kontainer s.kernel).map fun r => ⟨r.1, r.2⟩

def usedEntries (kkm : Kkm) : Finset (Fin kkmMaxContexts) :=
  occupied entryUsed kkm.kontext

/-- The count is right, the next release does not wrap it, and the next add
stops its search inside the table. -/
structure KontextsCounted (kkm : Kkm) (files : List OpenFile) : Prop where
  count : kkm.kontextCount.toNat = (usedEntries kkm).card
  noWrap : ∀ f ∈ files, f.target ≠ .kontainer → kkm.kontextCount ≠ 0#32
  inBounds : ∀ vcpuId a, addIsRefused kkm vcpuId a = false → freeSlot kkm ≠ none

def OneKontainer.Counted (s : OneKontainer) : Prop :=
  ∃ kkm, s.kontainer.kkm = some kkm ∧ KontextsCounted kkm s.kontainer.files

/-- An add that gets to an entry gets all its pages. -/
def AddsComplete (s : OneKontainer) : KontextRequest → Prop
  | .add vcpuId a => ∀ kkm i, s.kontainer.kkm = some kkm →
      AddSelects kkm vcpuId a i → AddCompletes a
  | .close _ => True

/-! ## The invariant -/

/-- Entries, files and both counts agree. -/
structure KontextsTracked (kkm : Kkm) (files : List OpenFile) : Prop where
  track : FilesTrack kkm files
  count : kkm.kontextCount.toNat = (usedEntries kkm).card
  references : kkm.referenceCount = (usedEntries kkm).card + 1

def OneKontainer.Tracked (s : OneKontainer) : Prop :=
  ∃ kkm, s.kontainer.kkm = some kkm ∧ KontextsTracked kkm s.kontainer.files

theorem addIsRefused_false
    {kkm : Kkm} {vcpuId : BitVec 32} {a : AddAnswers}
    (h : addIsRefused kkm vcpuId a = false) :
    kkm.kontextCount.toNat < kkmMaxContexts := by
  simp only [addIsRefused, Bool.or_eq_false_iff, decide_eq_false_iff_not] at h
  omega

theorem usedEntries_card_le (kkm : Kkm) :
    (usedEntries kkm).card ≤ kkmMaxContexts :=
  occupied_card_le

theorem freeSlot_ne_none_of_count
    {kkm : Kkm} (hcount : kkm.kontextCount.toNat = (usedEntries kkm).card)
    {vcpuId : BitVec 32} {a : AddAnswers}
    (h : addIsRefused kkm vcpuId a = false) :
    freeSlot kkm ≠ none := by
  have hlt := addIsRefused_false h
  rw [hcount] at hlt
  exact firstFree_ne_none_iff.mpr hlt

theorem KontextsTracked.counted
    {kkm : Kkm} {files : List OpenFile} (h : KontextsTracked kkm files) :
    KontextsCounted kkm files := by
  refine ⟨h.count, ?_, fun _ _ => freeSlot_ne_none_of_count h.count⟩
  intro f hf htarget hzero
  cases hkontext : f.target with
  | kontainer => exact htarget hkontext
  | kontext i =>
      have hmem : i ∈ usedEntries kkm :=
        mem_occupied.mpr (h.track.used f hf i hkontext)
      have hpos : 0 < (usedEntries kkm).card := Finset.card_pos.mpr ⟨i, hmem⟩
      have hcount := h.count
      rw [hzero] at hcount
      simp at hcount
      omega

/-- An add at a free entry puts one more entry in use. -/
theorem AddedAt.card
    {a : AddAnswers} {i : Fin kkmMaxContexts} {kkm kkm' : Kkm}
    (h : AddedAt a i kkm kkm') (hfree : freeSlot kkm = some i) :
    (usedEntries kkm').card = (usedEntries kkm).card + 1 := by
  obtain ⟨kontext, hused, hkontext⟩ := h.entry
  unfold usedEntries
  rw [hkontext]
  exact card_fill (freeSlot_not_used hfree) hused

theorem KontextsTracked.add
    {a : AddAnswers} {i : Fin kkmMaxContexts} {kkm kkm' : Kkm}
    {files : List OpenFile} (fd : Nat)
    (h : KontextsTracked kkm files) (hfree : freeSlot kkm = some i)
    (hadded : AddedAt a i kkm kkm') (hcompletes : AddCompletes a) :
    KontextsTracked kkm' (filesAfterAdd a i fd files) := by
  have hcard := hadded.card hfree
  have hle := usedEntries_card_le kkm
  obtain ⟨hcount, hreferences⟩ := hadded.counted hcompletes
  simp only [kkmMaxContexts] at hle
  refine ⟨h.track.add fd hfree hadded, ?_, ?_⟩
  · rw [hcount, hcard, BitVec.toNat_add, h.count]
    simp
    omega
  · rw [hreferences, h.references, hcard, refcountInc, if_neg]
    · push_cast
      omega
    · simp only [refcountMax]
      omega

/-- Releasing an entry in use. -/
theorem KontextsTracked.close
    {kkm kkm' : Kkm} {files : List OpenFile} {f : OpenFile}
    {i : Fin kkmMaxContexts} {kontext : Option KkmKontext}
    (h : KontextsTracked kkm files) (hf : f ∈ files)
    (htarget : f.target = .kontext i) (hunused : entryUsed kontext = false)
    (hkontext : kkm'.kontext = Function.update kkm.kontext i kontext)
    (hcount : kkm'.kontextCount = kkm.kontextCount - 1#32)
    (hreferences : kkm'.referenceCount = kkm.referenceCount - 1) :
    KontextsTracked kkm' (files.erase f) := by
  have hused := h.track.used f hf i htarget
  have hcard : (usedEntries kkm').card + 1 = (usedEntries kkm).card := by
    unfold usedEntries
    rw [hkontext]
    exact card_clear hused hunused
  have hle := usedEntries_card_le kkm
  simp only [kkmMaxContexts] at hle
  refine ⟨h.track.close hf ?_, ?_, ?_⟩
  · intro j hj
    have hne : j ≠ i := by
      rintro rfl
      exact hj htarget
    rw [hkontext, Function.update_of_ne hne]
  · rw [hcount, BitVec.toNat_sub, h.count]
    simp
    omega
  · rw [hreferences, h.references]
    omega

/-! ## Steps and runs -/

theorem kontextFile_spec
    {k : KontainerState} {fd : Nat} {f : OpenFile}
    (h : kontextFile k fd = some f) :
    f ∈ k.files ∧ ∃ i, f.target = .kontext i := by
  refine ⟨List.mem_of_find?_eq_some h, ?_⟩
  have hsome := List.find?_some h
  cases htarget : f.target with
  | kontainer => simp [htarget] at hsome
  | kontext i => exact ⟨i, rfl⟩

theorem kontextStep_close_tracked
    (cfg : KkmConfig) (s : OneKontainer) (fd : Nat) (h : s.Tracked) :
    Holds OneKontainer.Tracked (kontextStep cfg s (.close fd)) := by
  cases hfile : kontextFile s.kontainer fd with
  | none =>
      simp only [kontextStep, hfile]
      exact h
  | some f =>
      obtain ⟨kkm, hkkm, htracked⟩ := h
      obtain ⟨hf, i, htarget⟩ := kontextFile_spec hfile
      have hused := htracked.track.used f hf i htarget
      obtain ⟨kkm', g', kontext, hunused, hkontext, hcount, hreferences, hrun⟩ :=
        kkmExecutionKontextRelease_spec
          (k := { s.kontainer with files := s.kontainer.files.erase f })
          hkkm hused s.kernel
      have hpos : 0 < (usedEntries kkm).card :=
        Finset.card_pos.mpr ⟨i, mem_occupied.mpr hused⟩
      have hgt : 1 < kkm'.referenceCount := by
        rw [hreferences, htracked.references]
        omega
      simp only [kontextStep, hfile, closeFile, htarget, hrun, Except.map,
        kkmReferenceCountDown_of_gt hgt]
      refine ⟨_, rfl, ?_⟩
      exact htracked.close hf htarget hunused hkontext hcount (by rw [hreferences])

theorem kontextStep_add_tracked
    (cfg : KkmConfig) (s : OneKontainer) (vcpuId : BitVec 32) (a : AddAnswers)
    (h : s.Tracked) (hguard : AddsComplete s (.add vcpuId a)) :
    Holds OneKontainer.Tracked (kontextStep cfg s (.add vcpuId a)) := by
  have htracked := h
  obtain ⟨kkm, hkkm, hkkmTracked⟩ := h
  rcases kkmAddExecutionKontext_cases cfg vcpuId a hkkm s.kernel with
    ⟨_, ret, hrun⟩ | ⟨hrefused, hfull, _⟩ | ⟨i, kkm', ret, g', hsel, hadded, hrun⟩
  · simp only [kontextStep, hrun, Except.map]
    exact htracked
  · exact absurd hfull (freeSlot_ne_none_of_count hkkmTracked.count hrefused)
  · simp only [kontextStep, hrun, Except.map]
    refine ⟨kkm', rfl, ?_⟩
    exact hkkmTracked.add _ hsel.2.1 hadded (hguard kkm i hkkm hsel)

/-- An add that gets to an entry but not to all its pages breaks the count. -/
theorem kontextStep_not_counted
    (cfg : KkmConfig) (s : OneKontainer) (r : KontextRequest)
    (h : s.Tracked) (hguard : ¬ AddsComplete s r) :
    ¬ Holds OneKontainer.Counted (kontextStep cfg s r) := by
  cases r with
  | close fd => exact absurd trivial hguard
  | add vcpuId a =>
      obtain ⟨kkm, hkkm, htracked⟩ := h
      obtain ⟨j, hselects, hno⟩ :
          ∃ j, AddSelects kkm vcpuId a j ∧ ¬ AddCompletes a := by
        simp only [AddsComplete] at hguard
        push Not at hguard
        obtain ⟨kkm', j, hkkm', hselects, hno⟩ := hguard
        rw [hkkm] at hkkm'
        cases hkkm'
        exact ⟨j, hselects, hno⟩
      rcases kkmAddExecutionKontext_cases cfg vcpuId a hkkm s.kernel with
        ⟨hnone, _⟩ | ⟨_, hfull, _⟩ | ⟨i, kkm', ret, g', hsel, hadded, hrun⟩
      · exact absurd hselects (hnone j)
      · rw [hselects.2.1] at hfull
        cases hfull
      · simp only [kontextStep, hrun, Except.map]
        rintro ⟨kkm'', hkkm'', hcounted⟩
        cases hkkm''
        have hcard := hadded.card hsel.2.1
        have hcount := hcounted.count
        rw [(hadded.uncounted hno).1, htracked.count, hcard] at hcount
        omega

/-- A kontainer right after its creation. -/
def createdKontainer
    (cfg : KkmConfig) (kx : KkmMmuPml4e) (a : CreateAnswers) (g : KernelState) :
    OneKontainer :=
  ⟨(kkmCreateKontainer cfg kx a g).2.1, (kkmCreateKontainer cfg kx a g).2.2⟩

theorem created_tracked
    {cfg : KkmConfig} {kx : KkmMmuPml4e} {a : CreateAnswers} {g : KernelState}
    (hcreated : 0 ≤ (kkmCreateKontainer cfg kx a g).1) :
    (createdKontainer cfg kx a g).Tracked := by
  obtain ⟨kkm, hreferences, hcount, hkontext, _, hk⟩ :=
    kkmCreateKontainer_created hcreated
  have hcard : (usedEntries kkm).card = 0 := by
    unfold usedEntries
    rw [hkontext]
    rfl
  have hfiles : (createdKontainer cfg kx a g).kontainer.files =
      [⟨g.nextFd, .kontainer⟩] := congrArg KontainerState.files hk
  refine ⟨kkm, congrArg KontainerState.kkm hk, ?_⟩
  rw [hfiles]
  refine ⟨⟨by simp, by simp⟩, ?_, ?_⟩
  · simp [hcount, hcard]
  · simp [hreferences, hcard]

/-- From a successful creation on, the count is right in every state of a run
exactly when every add that gets to an entry gets all its pages. -/
theorem kontextsCounted_iff_addsComplete
    (cfg : KkmConfig) (kx : KkmMmuPml4e) (a : CreateAnswers) (g : KernelState)
    (hcreated : 0 ≤ (kkmCreateKontainer cfg kx a g).1)
    (rs : List KontextRequest) :
    EveryState (liftStep (kontextStep cfg)) (Holds OneKontainer.Counted)
        (.ok (createdKontainer cfg kx a g)) rs ↔
      EveryStep (liftStep (kontextStep cfg)) (LiftGuard AddsComplete)
        (.ok (createdKontainer cfg kx a g)) rs := by
  refine holds_iff_of_invariant ?_ ?_ ?_ (created_tracked hcreated)
  · rintro s ⟨kkm, hkkm, htracked⟩
    exact ⟨kkm, hkkm, htracked.counted⟩
  · intro s r hs hguard
    cases r with
    | add vcpuId answers => exact kontextStep_add_tracked cfg s vcpuId answers hs hguard
    | close fd => exact kontextStep_close_tracked cfg s fd hs
  · exact kontextStep_not_counted cfg

/-- An add that gets its pages and the release of its file keep the count. -/
theorem kontextsCounted_add_close :
    EveryState (liftStep (kontextStep .stock)) (Holds OneKontainer.Counted)
      (.ok (createdKontainer .stock .zeroed .granted .booted))
      [.add 0#32 .granted, .close 4] := by
  refine (kontextsCounted_iff_addsComplete .stock .zeroed .granted .booted
    (granted_completes .zeroed) _).mpr ⟨?_, ?_, trivial⟩
  · intro kkm i _ _
    decide
  · exact LiftGuard.of_forall (fun _ => trivial) _

/-- An add whose first mmap page cannot be allocated leaves an uncounted entry
in use. -/
theorem add_without_pages_not_counted :
    ¬ EveryState (liftStep (kontextStep .stock)) (Holds OneKontainer.Counted)
      (.ok (createdKontainer .stock .zeroed .granted .booted))
      [.add 0#32 { AddAnswers.granted with mmap := fun _ => none }] := by
  intro h
  have hcreated := granted_completes .zeroed
  obtain ⟨kkm, _, hcount, hkontext, hmm, hk⟩ := kkmCreateKontainer_created hcreated
  refine kontextStep_not_counted .stock _
    (.add 0#32 { AddAnswers.granted with mmap := fun _ => none })
    (created_tracked hcreated) ?_ h.2
  intro hguard
  have hcompletes := hguard kkm 0 (congrArg KontainerState.kkm hk)
    (addSelects_zero hkontext hcount hmm (by decide) rfl)
  exact hcompletes.1 0 rfl

end Driver
end KkmModule
