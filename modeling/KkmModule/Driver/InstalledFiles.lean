import KkmModule.Driver.Lifecycle

/-!
# Installed files and the entries they lead to

The outcomes of `kkm_add_execution_kontext` and of closing a file, in terms of
the fields that count: `kontext_count`, `reference_count` and the `used` flags.
`FilesTrack` relates the installed files of a kontainer to its table of
kontexts: each file leads to an entry of its own, which is in use.
-/

namespace KkmModule
namespace Driver

open Foundation

/-- The add gets past its checks and the slot search to entry `i`. -/
def AddSelects
    (kkm : Kkm) (vcpuId : BitVec 32) (a : AddAnswers) (i : Fin kkmMaxContexts) :
    Prop :=
  addIsRefused kkm vcpuId a = false ∧ freeSlot kkm = some i ∧
    (kkm.kontext i = none → a.kzalloc = true)

/-- The first add to a kkm without kontexts works on entry 0. -/
theorem addSelects_zero
    {kkm : Kkm} {vcpuId : BitVec 32} {a : AddAnswers}
    (hkontext : kkm.kontext = fun _ => none) (hcount : kkm.kontextCount = 0#32)
    (hmm : kkm.mm = a.currentMm) (hvcpu : vcpuId.toNat < kkmMaxContexts)
    (hzalloc : a.kzalloc = true) :
    AddSelects kkm vcpuId a 0 := by
  refine ⟨?_, ?_, fun _ => hzalloc⟩
  · have hzero : ¬ kkmMaxContexts ≤ 0 := by decide
    simp [addIsRefused, hmm, hcount, hvcpu]
  · unfold freeSlot
    rw [hkontext]
    rfl

/-- What an add at entry `i` does to the kkm. -/
structure AddedAt
    (a : AddAnswers) (i : Fin kkmMaxContexts) (kkm kkm' : Kkm) : Prop where
  entry : ∃ kontext, entryUsed kontext = true ∧
    kkm'.kontext = Function.update kkm.kontext i kontext
  counted : AddCompletes a →
    kkm'.kontextCount = kkm.kontextCount + 1#32 ∧
      kkm'.referenceCount = refcountInc kkm.referenceCount
  uncounted : ¬ AddCompletes a →
    kkm'.kontextCount = kkm.kontextCount ∧
      kkm'.referenceCount = kkm.referenceCount

/-- The files after an add at entry `i`. -/
def filesAfterAdd
    (a : AddAnswers) (i : Fin kkmMaxContexts) (fd : Nat) (files : List OpenFile) :
    List OpenFile :=
  if a.getfd then ⟨fd, .kontext i⟩ :: files else files

section Add

variable (cfg : KkmConfig) (vcpuId : BitVec 32) (a : AddAnswers)

theorem kkmAddExecutionKontextBody_addedAt
    (i : Fin kkmMaxContexts) (kkm : Kkm) (kontext : KkmKontext)
    (hused : kontext.used = true) (ret : Int) (s : PageState) :
    AddedAt a i kkm
      (kkmAddExecutionKontextBody cfg a i kkm kontext ret s).2.1 := by
  obtain ⟨kontext', hused', hyes, hno⟩ :=
    kkmAddExecutionKontextBody_spec cfg a i kkm kontext ret s
  by_cases hadd : AddCompletes a
  · rw [hyes hadd]
    exact ⟨⟨some kontext', hused'.trans hused, rfl⟩, fun _ => ⟨rfl, rfl⟩,
      fun h => absurd hadd h⟩
  · rw [hno hadd]
    exact ⟨⟨some kontext', hused'.trans hused, rfl⟩, fun h => absurd h hadd,
      fun _ => ⟨rfl, rfl⟩⟩

theorem kkmAddExecutionKontextAt_spec
    (i : Fin kkmMaxContexts) (kontext : KkmKontext) (kkm : Kkm)
    (k : KontainerState) (g : KernelState) :
    let r := kkmAddExecutionKontextAt cfg vcpuId a i kontext kkm k g
    ∃ kkm', AddedAt a i kkm kkm' ∧
      r.2.1 = { k with
        kkm := some kkm', files := filesAfterAdd a i g.nextFd k.files } := by
  cases hfd : a.getfd with
  | true =>
      simp only [kkmAddExecutionKontextAt, filesAfterAdd, hfd, if_true]
      exact ⟨_, kkmAddExecutionKontextBody_addedAt cfg a i kkm _ rfl _ _, rfl⟩
  | false =>
      simp only [kkmAddExecutionKontextAt, filesAfterAdd, hfd]
      exact ⟨_, kkmAddExecutionKontextBody_addedAt cfg a i kkm _ rfl _ _, rfl⟩

/-- An add is refused or out of memory, runs off the end of the table, or works
on the entry it selects. -/
theorem kkmAddExecutionKontext_cases
    {k : KontainerState} {kkm : Kkm} (hkkm : k.kkm = some kkm)
    (g : KernelState) :
    ((∀ i, ¬ AddSelects kkm vcpuId a i) ∧
        ∃ ret, kkmAddExecutionKontext cfg vcpuId a k g = .ok (ret, k, g)) ∨
      (addIsRefused kkm vcpuId a = false ∧ freeSlot kkm = none ∧
        kkmAddExecutionKontext cfg vcpuId a k g =
          .error (.kontextIndex kkmMaxContexts)) ∨
      ∃ i kkm' ret g', AddSelects kkm vcpuId a i ∧ AddedAt a i kkm kkm' ∧
        kkmAddExecutionKontext cfg vcpuId a k g =
          .ok (ret, { k with
            kkm := some kkm', files := filesAfterAdd a i g.nextFd k.files },
            g') := by
  have hat : ∀ i kontext, AddSelects kkm vcpuId a i →
      ∃ i' kkm' ret g', AddSelects kkm vcpuId a i' ∧ AddedAt a i' kkm kkm' ∧
        (Except.ok (kkmAddExecutionKontextAt cfg vcpuId a i kontext kkm k g) :
          Except KernelFault _) =
          .ok (ret, { k with
            kkm := some kkm', files := filesAfterAdd a i' g.nextFd k.files },
            g') := by
    intro i kontext hselects
    obtain ⟨kkm', hadded, hk⟩ :=
      kkmAddExecutionKontextAt_spec cfg vcpuId a i kontext kkm k g
    exact ⟨i, kkm', _, _, hselects, hadded,
      congrArg Except.ok (Prod.ext rfl (Prod.ext hk rfl))⟩
  cases hrefused : addIsRefused kkm vcpuId a with
  | true =>
      refine Or.inl ⟨?_, -einval, ?_⟩
      · rintro i ⟨hno, _⟩
        rw [hrefused] at hno
        cases hno
      · simp [kkmAddExecutionKontext, hkkm, hrefused]
  | false =>
      cases hfree : freeSlot kkm with
      | none =>
          refine Or.inr (Or.inl ⟨rfl, rfl, ?_⟩)
          simp [kkmAddExecutionKontext, hkkm, hrefused, hfree]
      | some i =>
          cases hentry : kkm.kontext i with
          | some kontext =>
              have hselects : AddSelects kkm vcpuId a i :=
                ⟨hrefused, hfree, fun h => by simp [hentry] at h⟩
              simpa [kkmAddExecutionKontext, hkkm, hrefused, hfree, hentry] using
                Or.inr (hat i kontext hselects)
          | none =>
              cases hzalloc : a.kzalloc with
              | true =>
                  have hselects : AddSelects kkm vcpuId a i :=
                    ⟨hrefused, hfree, fun _ => hzalloc⟩
                  simpa [kkmAddExecutionKontext, hkkm, hrefused, hfree, hentry,
                    hzalloc] using Or.inr (hat i .zeroed hselects)
              | false =>
                  refine Or.inl ⟨?_, -enomem, ?_⟩
                  · rintro j ⟨_, hj, hsome⟩
                    rw [hfree] at hj
                    cases hj
                    rw [hsome hentry] at hzalloc
                    cases hzalloc
                  · simp [kkmAddExecutionKontext, hkkm, hrefused, hfree, hentry,
                      hzalloc]

end Add

/-! ## Closing a file -/

/-- A release clears its entry and counts down before it drops the reference. -/
theorem kkmExecutionKontextRelease_spec
    {k : KontainerState} {kkm : Kkm} (hkkm : k.kkm = some kkm)
    {i : Fin kkmMaxContexts} (hused : entryUsed (kkm.kontext i) = true)
    (g : KernelState) :
    ∃ kkm' g' kontext, entryUsed kontext = false ∧
      kkm'.kontext = Function.update kkm.kontext i kontext ∧
      kkm'.kontextCount = kkm.kontextCount - 1#32 ∧
      kkm'.referenceCount = kkm.referenceCount ∧
      kkmExecutionKontextRelease i k g = .ok (kkmReferenceCountDown kkm' k g') := by
  cases hentry : kkm.kontext i with
  | none =>
      rw [hentry] at hused
      cases hused
  | some kontext =>
      refine ⟨_, _, some (releaseKontextPages kontext g.pages).1, rfl, ?_, ?_, ?_,
        by simp only [kkmExecutionKontextRelease, hkkm, hentry]; rfl⟩
      · rfl
      · rfl
      · rfl

/-- Dropping a reference that is not the last one. -/
theorem kkmReferenceCountDown_of_gt
    {kkm : Kkm} (hcount : 1 < kkm.referenceCount)
    (k : KontainerState) (g : KernelState) :
    kkmReferenceCountDown kkm k g =
      ({ k with kkm := some { kkm with
          referenceCount := kkm.referenceCount - 1 } }, g) := by
  have hne : kkm.referenceCount ≠ 1 := by omega
  have hpos : ¬ kkm.referenceCount ≤ 0 := by omega
  simp [kkmReferenceCountDown, refcountDecAndTest, hne, hpos]

/-- Dropping the last reference. -/
theorem kkmReferenceCountDown_of_one
    {kkm : Kkm} (hcount : kkm.referenceCount = 1)
    (k : KontainerState) (g : KernelState) :
    (kkmReferenceCountDown kkm k g).1 =
      { k with kkm := none, destroyed := true } := by
  simp [kkmReferenceCountDown, refcountDecAndTest, hcount, kkmDestroyApp]

/-! ## Files and entries -/

/-- Every installed file leads to an object of its own, a kontext file to an
entry in use. -/
structure FilesTrack (kkm : Kkm) (files : List OpenFile) : Prop where
  apart : (files.map OpenFile.target).Nodup
  used : ∀ f ∈ files, ∀ i, f.target = .kontext i →
    entryUsed (kkm.kontext i) = true

section FilesTrack

variable {kkm kkm' : Kkm} {files : List OpenFile}

theorem freeSlot_not_used {i : Fin kkmMaxContexts} (h : freeSlot kkm = some i) :
    entryUsed (kkm.kontext i) = false :=
  firstFree_free h

/-- An add at a free entry. -/
theorem FilesTrack.add
    {a : AddAnswers} {i : Fin kkmMaxContexts} (fd : Nat)
    (h : FilesTrack kkm files) (hfree : freeSlot kkm = some i)
    (hadded : AddedAt a i kkm kkm') :
    FilesTrack kkm' (filesAfterAdd a i fd files) := by
  obtain ⟨kontext, hused, hkontext⟩ := hadded.entry
  have hkeep : ∀ j, entryUsed (kkm.kontext j) = true →
      entryUsed (kkm'.kontext j) = true := by
    intro j hj
    rw [hkontext]
    by_cases hji : j = i
    · subst hji
      rwa [Function.update_self]
    · rwa [Function.update_of_ne hji]
  have hold : ∀ f ∈ files, f.target ≠ .kontext i := by
    intro f hf htarget
    have hbusy := h.used f hf i htarget
    rw [freeSlot_not_used hfree] at hbusy
    cases hbusy
  unfold filesAfterAdd
  split
  · refine ⟨?_, ?_⟩
    · rw [List.map_cons, List.nodup_cons]
      refine ⟨?_, h.apart⟩
      rintro hmem
      obtain ⟨f, hf, htarget⟩ := List.mem_map.mp hmem
      exact hold f hf htarget
    · intro f hf j htarget
      rcases List.mem_cons.mp hf with rfl | hf
      · cases htarget
        rw [hkontext, Function.update_self]
        exact hused
      · exact hkeep j (h.used f hf j htarget)
  · exact ⟨h.apart, fun f hf j htarget => hkeep j (h.used f hf j htarget)⟩

/-- After a file is closed no other file leads to its object. -/
theorem target_ne_of_mem_erase
    (h : (files.map OpenFile.target).Nodup) {f f' : OpenFile}
    (hf : f ∈ files) (hf' : f' ∈ files.erase f) :
    f'.target ≠ f.target := by
  intro htarget
  have hinj := List.inj_on_of_nodup_map h
  have hnodup : files.Nodup := List.Nodup.of_map OpenFile.target h
  have heq : f' = f := hinj (List.mem_of_mem_erase hf') hf htarget
  rw [heq] at hf'
  exact hnodup.not_mem_erase hf'

/-- Closing the file of an entry clears the entry. -/
theorem FilesTrack.close
    {f : OpenFile} (h : FilesTrack kkm files) (hf : f ∈ files)
    (hkontext : ∀ j, f.target ≠ .kontext j → kkm'.kontext j = kkm.kontext j) :
    FilesTrack kkm' (files.erase f) := by
  refine ⟨?_, ?_⟩
  · exact h.apart.sublist (List.erase_sublist.map OpenFile.target)
  · intro f' hf' j htarget
    have hne : f.target ≠ .kontext j := by
      rw [← htarget]
      exact (target_ne_of_mem_erase h.apart hf hf').symm
    rw [hkontext j hne]
    exact h.used f' (List.mem_of_mem_erase hf') j htarget

end FilesTrack

end Driver
end KkmModule
