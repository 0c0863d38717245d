import KkmModule.Driver.InstalledFiles

/-!
# The outcome of an add

`kkm_add_execution_kontext` is meant to return the descriptor of a new kontext
if every step works out, and a negative number with everything as before if one
does not.  The steps after the slot search are not undone, so this holds
exactly where the call ends before them or all of them work out.
-/

namespace KkmModule
namespace Driver

open Foundation

/-! ## The descriptor in the entry -/

section Descriptor

variable (kontext : KkmKontext) (s : PageState)

theorem allocMmapPages_kontextFd
    (answers : Fin kkmContextMapPageCount → Option Nat)
    (is : List (Fin kkmContextMapPageCount)) :
    (allocMmapPages answers is kontext s).2.1.kontextFd = kontext.kontextFd := by
  induction is generalizing kontext s with
  | nil => rfl
  | cons i is ih =>
      have hone : (allocMmapPage i (answers i) kontext s).2.1.kontextFd =
          kontext.kontextFd := by
        cases answers i with
        | none => rfl
        | some _ => rfl
      simp only [allocMmapPages]
      split
      · rw [ih, hone]
      · exact hone

theorem kkmKontextInitGuestArea_kontextFd
    (cfg : KkmConfig) (kkm : Kkm) (answer : Option Nat) :
    (kkmKontextInitGuestArea cfg kkm answer kontext s).2.1.kontextFd =
      kontext.kontextFd := by
  simp only [kkmKontextInitGuestArea]
  split <;> rfl

theorem kkmKontextInitXsave_kontextFd (answer : Option Nat) :
    (kkmKontextInitXsave answer kontext s).2.1.kontextFd = kontext.kontextFd := by
  simp only [kkmKontextInitXsave]
  split <;> rfl

theorem kkmKontextCleanup_kontextFd :
    (kkmKontextCleanup kontext s).1.kontextFd = kontext.kontextFd := by
  simp only [kkmKontextCleanup]
  split <;> split <;> rfl

theorem kkmKontextInit_kontextFd
    (cfg : KkmConfig) (kkm : Kkm) (a : KontextInitAnswers) :
    (kkmKontextInit cfg kkm a kontext s).2.1.kontextFd = kontext.kontextFd := by
  simp only [kkmKontextInit]
  split
  · rw [kkmKontextCleanup_kontextFd, kkmKontextInitGuestArea_kontextFd]
  · split
    · rw [kkmKontextCleanup_kontextFd, kkmKontextInitXsave_kontextFd,
        kkmKontextInitGuestArea_kontextFd]
    · rw [kkmKontextInitXsave_kontextFd, kkmKontextInitGuestArea_kontextFd]

end Descriptor

/-- An add whose pages and initialisation work out returns what it was given,
and its entry keeps the descriptor. -/
theorem kkmAddExecutionKontextBody_completes
    {a : AddAnswers} (hadd : AddCompletes a) (cfg : KkmConfig)
    (i : Fin kkmMaxContexts) (kkm : Kkm) (kontext : KkmKontext) (ret : Int)
    (s : PageState) :
    let r := kkmAddExecutionKontextBody cfg a i kkm kontext ret s
    r.1 = ret ∧ ∃ kontext', r.2.1.kontext i = some kontext' ∧
      kontext'.kontextFd = kontext.kontextFd := by
  have hmmap := (allocMmapPages_spec kontext s a.mmap
    (List.finRange kkmContextMapPageCount)).1.mpr fun i _ => hadd.1 i
  have hinit := (kkmKontextInit_spec
    (allocMmapPages a.mmap (List.finRange kkmContextMapPageCount) kontext s).2.1
    (allocMmapPages a.mmap (List.finRange kkmContextMapPageCount) kontext s).2.2
    cfg kkm a.init).1.mpr hadd.2
  simp only [kkmAddExecutionKontextBody]
  rw [if_neg (by rw [hmmap]; decide), if_neg (by rw [hinit]; decide)]
  refine ⟨rfl, _, Function.update_self .., ?_⟩
  rw [kkmKontextInit_kontextFd, allocMmapPages_kontextFd]

/-! ## The outcome -/

/-- Every step of the call works out. -/
def AddSucceeds (kkm : Kkm) (vcpuId : BitVec 32) (a : AddAnswers) : Prop :=
  (∃ i, AddSelects kkm vcpuId a i) ∧ a.getfd = true ∧ AddCompletes a

/-- What a call that fails must leave alone. -/
structure AddUndone
    (kkm : Kkm) (k k' : KontainerState) (g g' : KernelState) : Prop where
  entry : ∃ kkm', k'.kkm = some kkm' ∧
    (∀ i, entryUsed (kkm'.kontext i) = entryUsed (kkm.kontext i)) ∧
    kkm'.kontextCount = kkm.kontextCount ∧
    kkm'.referenceCount = kkm.referenceCount
  files : k'.files = k.files
  live : g'.pages.pool.live = g.pages.pool.live

/-- A new file leads to an entry that is in use and has its descriptor. -/
structure AddInstalled (k k' : KontainerState) (fd : Int) : Prop where
  entry : ∃ i kkm' kontext n, k'.kkm = some kkm' ∧ kkm'.kontext i = some kontext ∧
    kontext.used = true ∧ kontext.kontextFd = fd ∧ fd = Int.ofNat n ∧
    k'.files = ⟨n, .kontext i⟩ :: k.files

/-- The outcome `kkm_add_execution_kontext` is meant to have. -/
structure AddOutcome
    (cfg : KkmConfig) (vcpuId : BitVec 32) (a : AddAnswers) (kkm : Kkm)
    (k : KontainerState) (g : KernelState)
    (ret : Int) (k' : KontainerState) (g' : KernelState) : Prop where
  returned : kkmAddExecutionKontext cfg vcpuId a k g = .ok (ret, k', g')
  nonneg_iff : 0 ≤ ret ↔ AddSucceeds kkm vcpuId a
  installed : AddSucceeds kkm vcpuId a → AddInstalled k k' ret
  undone : ¬ AddSucceeds kkm vcpuId a → AddUndone kkm k k' g g'

/-- The call ends before it uses an entry, or nothing fails after that. -/
def AddEndsEarlyOrWell (kkm : Kkm) (vcpuId : BitVec 32) (a : AddAnswers) : Prop :=
  addIsRefused kkm vcpuId a = true ∨
    ∃ i, freeSlot kkm = some i ∧
      (kkm.kontext i = none ∧ a.kzalloc = false ∨
        a.getfd = true ∧ AddCompletes a)

section Outcome

variable {cfg : KkmConfig} {vcpuId : BitVec 32} {a : AddAnswers} {kkm : Kkm}
variable {k : KontainerState} {g : KernelState}

/-- A call that ends before it uses an entry. -/
theorem addOutcome_of_unchanged
    (hkkm : k.kkm = some kkm) (hno : ∀ i, ¬ AddSelects kkm vcpuId a i)
    {ret : Int} (hret : ret < 0)
    (hreturned : kkmAddExecutionKontext cfg vcpuId a k g = .ok (ret, k, g)) :
    AddOutcome cfg vcpuId a kkm k g ret k g where
  returned := hreturned
  nonneg_iff := by
    constructor
    · intro hnonneg
      exact absurd hret (not_lt.mpr hnonneg)
    · rintro ⟨⟨i, hselects⟩, _⟩
      exact absurd hselects (hno i)
  installed := fun ⟨⟨i, hselects⟩, _⟩ => absurd hselects (hno i)
  undone := fun _ => ⟨⟨kkm, hkkm, fun _ => rfl, rfl, rfl⟩, rfl, rfl⟩

theorem addOutcome_of_refused
    (hkkm : k.kkm = some kkm) (hrefused : addIsRefused kkm vcpuId a = true) :
    AddOutcome cfg vcpuId a kkm k g (-einval) k g := by
  refine addOutcome_of_unchanged hkkm ?_ (by decide) ?_
  · rintro i ⟨hno, _⟩
    rw [hrefused] at hno
    cases hno
  · simp only [kkmAddExecutionKontext, hkkm, hrefused, if_true]

theorem addOutcome_of_no_kontext
    (hkkm : k.kkm = some kkm) (hrefused : addIsRefused kkm vcpuId a = false)
    {i : Fin kkmMaxContexts} (hfree : freeSlot kkm = some i)
    (hentry : kkm.kontext i = none) (hzalloc : a.kzalloc = false) :
    AddOutcome cfg vcpuId a kkm k g (-enomem) k g := by
  refine addOutcome_of_unchanged hkkm ?_ (by decide) ?_
  · rintro j ⟨_, hj, hsome⟩
    obtain rfl : i = j := Option.some.inj (hfree.symm.trans hj)
    rw [hsome hentry] at hzalloc
    cases hzalloc
  · simp [kkmAddExecutionKontext, hkkm, hrefused, hfree, hentry, hzalloc]

/-- Past the slot search the call works on the selected entry. -/
theorem kkmAddExecutionKontext_of_selects
    (hkkm : k.kkm = some kkm) {i : Fin kkmMaxContexts}
    (hselects : AddSelects kkm vcpuId a i) :
    ∃ kontext, kkmAddExecutionKontext cfg vcpuId a k g =
      .ok (kkmAddExecutionKontextAt cfg vcpuId a i kontext kkm k g) := by
  obtain ⟨hrefused, hfree, hzalloc⟩ := hselects
  cases hentry : kkm.kontext i with
  | some kontext =>
      exact ⟨kontext, by simp [kkmAddExecutionKontext, hkkm, hrefused, hfree, hentry]⟩
  | none =>
      exact ⟨.zeroed, by
        simp [kkmAddExecutionKontext, hkkm, hrefused, hfree, hentry,
          hzalloc hentry]⟩

/-- A call in which every step works out. -/
theorem addOutcome_of_succeeds
    (hkkm : k.kkm = some kkm) {i : Fin kkmMaxContexts}
    (hselects : AddSelects kkm vcpuId a i)
    (hfd : a.getfd = true) (hadd : AddCompletes a) :
    ∃ k' g', AddOutcome cfg vcpuId a kkm k g g.nextFd k' g' := by
  have hsucceeds : AddSucceeds kkm vcpuId a := ⟨⟨i, hselects⟩, hfd, hadd⟩
  obtain ⟨old, hcall⟩ : ∃ old, kkmAddExecutionKontext cfg vcpuId a k g =
      .ok (kkmAddExecutionKontextAt cfg vcpuId a i old kkm k g) :=
    kkmAddExecutionKontext_of_selects hkkm hselects
  let kontext : KkmKontext :=
    { claimKontext kkm vcpuId a.task (g.kkmObjectId + 1#64) old with
      kontextFd := g.nextFd }
  let r := kkmAddExecutionKontextBody cfg a i kkm kontext g.nextFd g.pages
  obtain ⟨hret, new, hnew, hnewFd⟩ := kkmAddExecutionKontextBody_completes hadd
    cfg i kkm kontext g.nextFd g.pages
  obtain ⟨kontext', hentryUsed, hkontext⟩ :=
    (kkmAddExecutionKontextBody_addedAt cfg a i kkm kontext rfl g.nextFd
      g.pages).entry
  have hused : new.used = true := by
    rw [hkontext, Function.update_self] at hnew
    rw [hnew] at hentryUsed
    exact hentryUsed
  have hat : kkmAddExecutionKontextAt cfg vcpuId a i old kkm k g =
      ((g.nextFd : Int), { k with
        kkm := some r.2.1, files := ⟨g.nextFd, .kontext i⟩ :: k.files },
        ⟨r.2.2, g.nextFd + 1, g.kkmObjectId + 1#64⟩) := by
    simp only [kkmAddExecutionKontextAt, hfd, if_true]
    exact Prod.ext hret rfl
  rw [hat] at hcall
  exact ⟨_, _, {
    returned := hcall
    nonneg_iff := ⟨fun _ => hsucceeds, fun _ => Int.natCast_nonneg _⟩
    installed := fun _ =>
      ⟨i, r.2.1, new, g.nextFd, rfl, hnew, hused, hnewFd, rfl, rfl⟩
    undone := fun hno => absurd hsucceeds hno }⟩

/-- A call that fails after the slot search leaves its entry in use. -/
theorem not_addOutcome_of_fails
    (hkkm : k.kkm = some kkm) {i : Fin kkmMaxContexts}
    (hselects : AddSelects kkm vcpuId a i)
    (hfails : ¬ (a.getfd = true ∧ AddCompletes a))
    (ret : Int) (k' : KontainerState) (g' : KernelState) :
    ¬ AddOutcome cfg vcpuId a kkm k g ret k' g' := by
  intro houtcome
  obtain ⟨⟨kkm', hkkm', hflags, _⟩, _, _⟩ :=
    houtcome.undone fun hsucceeds => hfails hsucceeds.2
  obtain ⟨old, hcall⟩ : ∃ old, kkmAddExecutionKontext cfg vcpuId a k g =
      .ok (kkmAddExecutionKontextAt cfg vcpuId a i old kkm k g) :=
    kkmAddExecutionKontext_of_selects hkkm hselects
  obtain ⟨added, hadded, hk⟩ :=
    kkmAddExecutionKontextAt_spec cfg vcpuId a i old kkm k g
  rw [houtcome.returned, Except.ok.injEq] at hcall
  rw [← hcall] at hk
  dsimp only at hk
  obtain ⟨kontext', hused, hkontext⟩ := hadded.entry
  have hkkmEq : kkm' = added := by
    rw [hk] at hkkm'
    exact (Option.some.inj hkkm').symm
  -- the entry was free before and is in use now
  have hflag := hflags i
  rw [hkkmEq, hkontext, Function.update_self, hused,
    freeSlot_not_used hselects.2.1] at hflag
  cases hflag

end Outcome

/-! ## Main result -/

/-- The add has the outcome it is meant to have exactly if the call ends before
it uses an entry, or an entry is free and nothing fails after that. -/
theorem exists_addOutcome_iff
    (cfg : KkmConfig) (vcpuId : BitVec 32) (a : AddAnswers) (kkm : Kkm)
    (k : KontainerState) (g : KernelState) :
    (∃ ret k' g',
      AddOutcome cfg vcpuId a kkm { k with kkm := some kkm } g ret k' g') ↔
      AddEndsEarlyOrWell kkm vcpuId a := by
  have hkkm : ({ k with kkm := some kkm } : KontainerState).kkm = some kkm := rfl
  cases hrefused : addIsRefused kkm vcpuId a with
  | true =>
      exact ⟨fun _ => Or.inl hrefused,
        fun _ => ⟨_, _, _, addOutcome_of_refused hkkm hrefused⟩⟩
  | false =>
      have hnot : ¬ addIsRefused kkm vcpuId a = true := by
        rw [hrefused]
        decide
      constructor
      · rintro ⟨ret, k', g', houtcome⟩
        right
        rcases hfree : freeSlot kkm with _ | i
        · -- the search runs off the end of the table
          have hcall := houtcome.returned
          simp [kkmAddExecutionKontext, hrefused, hfree] at hcall
        · refine ⟨i, rfl, ?_⟩
          by_cases hzalloc : kkm.kontext i = none ∧ a.kzalloc = false
          · exact Or.inl hzalloc
          · right
            by_contra hfails
            have hselects : AddSelects kkm vcpuId a i := by
              refine ⟨hrefused, hfree, fun hentry => ?_⟩
              by_contra hno
              exact hzalloc ⟨hentry, by simpa using hno⟩
            exact not_addOutcome_of_fails hkkm hselects hfails ret k' g' houtcome
      · rintro (h | ⟨i, hfree, ⟨hentry, hzalloc⟩ | ⟨hfd, hadd⟩⟩)
        · exact absurd h hnot
        · exact ⟨_, _, _, addOutcome_of_no_kontext hkkm hrefused hfree hentry hzalloc⟩
        · by_cases hselects : AddSelects kkm vcpuId a i
          · obtain ⟨k', g', houtcome⟩ :
                ∃ k' g', AddOutcome cfg vcpuId a kkm _ g g.nextFd k' g' :=
              addOutcome_of_succeeds hkkm hselects hfd hadd
            exact ⟨_, k', g', houtcome⟩
          · have hno : ¬ (kkm.kontext i = none → a.kzalloc = true) :=
              fun hzalloc => hselects ⟨hrefused, hfree, hzalloc⟩
            rw [Classical.not_imp, Bool.not_eq_true] at hno
            exact ⟨_, _, _,
              addOutcome_of_no_kontext hkkm hrefused hfree hno.1 hno.2⟩

/-- Everything is granted but the file descriptor. -/
def AddAnswers.withoutFd : AddAnswers := { AddAnswers.granted with getfd := false }

def newKontainer : Kkm := { Kkm.zeroed with mm := 1, referenceCount := 1 }

def newKontainerState : KontainerState :=
  ⟨some newKontainer, [⟨3, .kontainer⟩], true, false⟩

/-- Without a file descriptor the call returns 0. -/
theorem not_addOutcome_without_fd :
    (∃ k' g', kkmAddExecutionKontext .stock 0#32 .withoutFd newKontainerState
        .booted = .ok (0, k', g')) ∧
      ¬ ∃ ret k' g', AddOutcome .stock 0#32 .withoutFd newKontainer
        newKontainerState .booted ret k' g' := by
  have hselects : AddSelects newKontainer 0#32 .withoutFd 0 :=
    addSelects_zero rfl rfl rfl (by decide) rfl
  refine ⟨?_, ?_⟩
  · obtain ⟨kontext, hcall⟩ : ∃ kontext,
        kkmAddExecutionKontext .stock 0#32 .withoutFd newKontainerState .booted =
          .ok (kkmAddExecutionKontextAt .stock 0#32 .withoutFd 0 kontext newKontainer
            newKontainerState .booted) :=
      kkmAddExecutionKontext_of_selects rfl hselects
    have hadd : AddCompletes .withoutFd := by decide
    have hret := (kkmAddExecutionKontextBody_completes hadd .stock 0 newKontainer
      { claimKontext newKontainer 0#32 1 1 kontext with kontextFd := -emfile } 0
      KernelState.booted.pages).1
    refine ⟨_, _, hcall.trans (congrArg Except.ok (Prod.ext ?_ rfl))⟩
    exact hret
  · rintro ⟨ret, k', g', houtcome⟩
    refine not_addOutcome_of_fails rfl hselects ?_ ret k' g' houtcome
    rintro ⟨hfd, _⟩
    cases hfd

end Driver
end KkmModule
