import KkmModule.Driver.InstalledFiles
import Mathlib.Data.Fintype.Option

/-!
# References to a kontainer

Creations, adds and closes of all kontainers of a machine, in any order.
`reference_count` is meant to be the number of installed files that lead to the
kkm.

The reference of a file is taken only when the call that installs the file has
got everything else, and dropped by every release.  `refCounted_iff_callsMatched`
says that the count is right along a run exactly when no call installs a file
without completing or completes without a file.
-/

namespace KkmModule
namespace Driver

open Foundation

structure World where
  kontainers : Nat → KontainerState
  /-- number of calls of `kkm_create_kontainer` -/
  created : Nat
  kernel : KernelState

def World.start (g : KernelState) : World := ⟨fun _ => .absent, 0, g⟩

inductive LifecycleEvent where
  | create (answers : CreateAnswers)
  | add (q : Nat) (vcpuId : BitVec 32) (answers : AddAnswers)
  | close (q fd : Nat)

/-- The file of the kontainer itself is installed, so ioctls reach it. -/
def KontainerState.reachable (k : KontainerState) : Bool :=
  k.files.any fun f => decide (f.target = .kontainer)

def World.set
    (w : World) (q : Nat) (k : KontainerState) (g : KernelState) : World :=
  { w with kontainers := Function.update w.kontainers q k, kernel := g }

def lifecycleStep (cfg : KkmConfig) (kx : KkmMmuPml4e) (w : World) :
    LifecycleEvent → Except KernelFault World
  | .create a =>
      let (_, k, g) := kkmCreateKontainer cfg kx a w.kernel
      .ok { w.set w.created k g with created := w.created + 1 }
  | .add q vcpuId a =>
      if (w.kontainers q).reachable then
        (kkmAddExecutionKontext cfg vcpuId a (w.kontainers q) w.kernel).map
          fun r => w.set q r.2.1 r.2.2
      else .ok w
  | .close q fd =>
      match (w.kontainers q).files.find? fun f => decide (f.fd = fd) with
      | none => .ok w
      | some file =>
          (closeFile file (w.kontainers q) w.kernel).map
            fun r => w.set q r.1 r.2

/-- As many references as installed files; the kkm is there while there is a
file, and destroyed once the last one is closed. -/
structure RefCounted (k : KontainerState) : Prop where
  count : ∀ kkm, k.kkm = some kkm → kkm.referenceCount = k.files.length
  alive : k.files ≠ [] → k.kkm ≠ none
  destroyed : k.destroyed = true ↔ k.opened = true ∧ k.files = []

def World.RefCounted (w : World) : Prop := ∀ q, Driver.RefCounted (w.kontainers q)

/-- A call completes if and only if it installs its file, and an add finds a
free entry. -/
def CallsMatched (cfg : KkmConfig) (w : World) : LifecycleEvent → Prop
  | .create a => a.kzalloc = true → a.getfd = true →
      CreateCompletes cfg a w.kernel.pages
  | .add q vcpuId a => ∀ kkm, (w.kontainers q).reachable = true →
      (w.kontainers q).kkm = some kkm → addIsRefused kkm vcpuId a = false →
        freeSlot kkm ≠ none ∧
          ∀ i, AddSelects kkm vcpuId a i → (a.getfd = true ↔ AddCompletes a)
  | .close _ _ => True

/-! ## The invariant of one kontainer -/

structure RefTracked (k : KontainerState) : Prop where
  counted : RefCounted k
  opened : k.files ≠ [] → k.opened = true
  track : ∀ kkm, k.kkm = some kkm → FilesTrack kkm k.files

def FileTarget.entry : FileTarget → Option (Fin kkmMaxContexts)
  | .kontainer => none
  | .kontext i => some i

theorem FileTarget.entry_injective : Function.Injective FileTarget.entry := by
  intro t t' h
  cases t with
  | kontainer =>
      cases t' with
      | kontainer => rfl
      | kontext j => cases h
  | kontext i =>
      cases t' with
      | kontainer => cases h
      | kontext j => exact congrArg FileTarget.kontext (Option.some.inj h)

/-- There are not enough objects for the count to saturate. -/
theorem FilesTrack.length_le
    {kkm : Kkm} {files : List OpenFile} (h : FilesTrack kkm files) :
    files.length ≤ kkmMaxContexts + 1 := by
  have hnodup := h.apart.map FileTarget.entry_injective
  have hle := hnodup.length_le_card
  simpa using hle

theorem refTracked_absent : RefTracked .absent := by
  refine ⟨⟨?_, ?_, ?_⟩, ?_, ?_⟩
  · intro kkm h
    cases h
  · intro h
    exact absurd rfl h
  · simp [KontainerState.absent]
  · intro h
    exact absurd rfl h
  · intro kkm h
    cases h

section Create

variable {cfg : KkmConfig} {a : CreateAnswers} {g : KernelState}

/-- The three ends of `kkm_create_kontainer`. -/
theorem kkmCreateKontainer_cases
    (cfg : KkmConfig) (kx : KkmMmuPml4e) (a : CreateAnswers) (g : KernelState) :
    let k := (kkmCreateKontainer cfg kx a g).2.1
    (a.kzalloc = false ∧ k = .absent) ∨
      (a.getfd = false ∧
        ∃ kkm, kkm.referenceCount = 0 ∧ k = ⟨some kkm, [], false, false⟩) ∨
      (a.kzalloc = true ∧ a.getfd = true ∧
        ∃ kkm, k = ⟨some kkm, [⟨g.nextFd, .kontainer⟩], true, false⟩ ∧
          (CreateCompletes cfg a g.pages → kkm.referenceCount = 1) ∧
          (¬ CreateCompletes cfg a g.pages → kkm.referenceCount = 0)) := by
  cases hzalloc : a.kzalloc with
  | false =>
      refine Or.inl ⟨rfl, ?_⟩
      simp [kkmCreateKontainer, hzalloc]
  | true =>
      cases hfd : a.getfd with
      | false =>
          refine Or.inr (Or.inl
            ⟨rfl, { Kkm.zeroed with kontainerFd := -emfile }, rfl, ?_⟩)
          simp [kkmCreateKontainer, hzalloc, hfd, KontainerState.absent]
      | true =>
          obtain ⟨hyes, hno, _⟩ := kkmCreateKontainerBody_spec cfg kx a
            (g.kkmObjectId + 1#64) { Kkm.zeroed with kontainerFd := g.nextFd }
            g.pages
          refine Or.inr (Or.inr ⟨rfl, rfl, _, ?_, fun h => (hyes h).2,
            fun h => (hno h).2⟩)
          simp [kkmCreateKontainer, hzalloc, hfd]

theorem kkmCreateKontainer_tracked
    (kx : KkmMmuPml4e)
    (h : a.kzalloc = true → a.getfd = true → CreateCompletes cfg a g.pages) :
    RefTracked (kkmCreateKontainer cfg kx a g).2.1 := by
  rcases kkmCreateKontainer_cases cfg kx a g with
    ⟨_, hk⟩ | ⟨_, kkm, hcount, hk⟩ | ⟨hzalloc, hfd, kkm, hk, hcount, _⟩
  · rw [hk]
    exact refTracked_absent
  · rw [hk]
    refine ⟨⟨?_, fun h => absurd rfl h, by simp⟩, fun h => absurd rfl h, ?_⟩
    · intro kkm' hkkm
      cases hkkm
      exact hcount
    · intro kkm' _
      exact ⟨by simp, by simp⟩
  · rw [hk]
    refine ⟨⟨?_, fun _ => by simp, by simp⟩, fun _ => rfl, ?_⟩
    · intro kkm' hkkm
      cases hkkm
      exact hcount (h hzalloc hfd)
    · intro kkm' _
      exact ⟨by simp, by simp⟩

theorem kkmCreateKontainer_not_counted
    (kx : KkmMmuPml4e) (hzalloc : a.kzalloc = true) (hfd : a.getfd = true)
    (hno : ¬ CreateCompletes cfg a g.pages) :
    ¬ RefCounted (kkmCreateKontainer cfg kx a g).2.1 := by
  rcases kkmCreateKontainer_cases cfg kx a g with
    ⟨h, _⟩ | ⟨h, _⟩ | ⟨_, _, kkm, hk, _, hcount⟩
  · rw [hzalloc] at h
    cases h
  · rw [hfd] at h
    cases h
  · intro h
    rw [hk] at h
    have hone := h.count kkm rfl
    rw [hcount hno] at hone
    simp at hone

end Create

theorem KontainerState.files_ne_nil
    {k : KontainerState} (h : k.reachable = true) : k.files ≠ [] := by
  intro hnil
  simp [KontainerState.reachable, hnil] at h

section Add

variable {k : KontainerState} {kkm kkm' : Kkm} {a : AddAnswers}
variable {i : Fin kkmMaxContexts}

theorem filesAfterAdd_length (fd : Nat) (files : List OpenFile) :
    (filesAfterAdd a i fd files).length =
      files.length + if a.getfd then 1 else 0 := by
  unfold filesAfterAdd
  split
  · simp
  · simp

/-- An add that completes exactly when it installs its file keeps the count. -/
theorem RefTracked.add
    (h : RefTracked k) (hkkm : k.kkm = some kkm) (hreach : k.reachable = true)
    (hfree : freeSlot kkm = some i) (hadded : AddedAt a i kkm kkm')
    (hmatched : a.getfd = true ↔ AddCompletes a) (fd : Nat) :
    RefTracked { k with
      kkm := some kkm', files := filesAfterAdd a i fd k.files } := by
  have htrack := h.track kkm hkkm
  have hcount := h.counted.count kkm hkkm
  have hlength := htrack.length_le
  have hne := k.files_ne_nil hreach
  have hpos : 0 < k.files.length := List.length_pos_of_ne_nil hne
  simp only [kkmMaxContexts] at hlength
  have hfiles : filesAfterAdd a i fd k.files ≠ [] := by
    intro hnil
    have hzero := congrArg List.length hnil
    rw [filesAfterAdd_length, List.length_nil] at hzero
    have hlen := Nat.eq_zero_of_add_eq_zero_right hzero
    omega
  refine ⟨⟨?_, fun _ => by simp, ?_⟩, fun _ => h.opened hne, ?_⟩
  · intro kkm'' hkkm''
    cases hkkm''
    rw [filesAfterAdd_length]
    cases hfd : a.getfd with
    | true =>
        rw [(hadded.counted (hmatched.mp hfd)).2, hcount, refcountInc, if_neg]
        · simp
        · simp only [refcountMax]
          omega
    | false =>
        have hno : ¬ AddCompletes a := by
          intro hyes
          rw [hmatched.mpr hyes] at hfd
          cases hfd
        rw [(hadded.uncounted hno).2, hcount]
        simp
  · have hold := h.counted.destroyed
    simp only [hne, and_false] at hold
    simp only [hfiles, and_false]
    exact hold
  · intro kkm'' hkkm''
    cases hkkm''
    exact htrack.add fd hfree hadded

/-- An add that does only one of the two loses the count. -/
theorem RefTracked.add_not_counted
    (h : RefTracked k) (hkkm : k.kkm = some kkm)
    (hreach : k.reachable = true) (hadded : AddedAt a i kkm kkm')
    (hunmatched : ¬ (a.getfd = true ↔ AddCompletes a)) (fd : Nat) :
    ¬ RefCounted { k with
      kkm := some kkm', files := filesAfterAdd a i fd k.files } := by
  intro hcounted
  have hcount := h.counted.count kkm hkkm
  have hcount' := hcounted.count kkm' rfl
  have hlength := (h.track kkm hkkm).length_le
  have hpos : 0 < k.files.length :=
    List.length_pos_of_ne_nil (k.files_ne_nil hreach)
  simp only [kkmMaxContexts] at hlength
  rw [filesAfterAdd_length] at hcount'
  by_cases hcompletes : AddCompletes a
  · have hfd : a.getfd = false := by
      by_contra hfd
      exact hunmatched ⟨fun _ => hcompletes, fun _ => by simpa using hfd⟩
    rw [(hadded.counted hcompletes).2, hcount, hfd, refcountInc, if_neg] at hcount'
    · simp at hcount'
    · simp only [refcountMax]
      omega
  · have hfd : a.getfd = true := by
      by_contra hfd
      exact hunmatched ⟨fun h => absurd h hfd, fun h => absurd h hcompletes⟩
    rw [(hadded.uncounted hcompletes).2, hcount, hfd] at hcount'
    simp at hcount'

end Add

section Close

variable {k : KontainerState} {kkm kkm' : Kkm} {f : OpenFile}

/-- Dropping the reference of a file that has just been closed. -/
theorem RefTracked.close
    (h : RefTracked k) (hkkm : k.kkm = some kkm) (hf : f ∈ k.files)
    (hreferences : kkm'.referenceCount = kkm.referenceCount)
    (htrack : FilesTrack kkm' (k.files.erase f)) (g : KernelState) :
    RefTracked (kkmReferenceCountDown kkm'
      { k with files := k.files.erase f } g).1 := by
  have hcount := h.counted.count kkm hkkm
  have hlength := List.length_erase_of_mem hf
  have hpos : 0 < k.files.length := List.length_pos_of_mem hf
  have hne : k.files ≠ [] := List.ne_nil_of_mem hf
  have hold := h.counted.destroyed
  simp only [hne, and_false] at hold
  by_cases hone : kkm'.referenceCount = 1
  · -- the last file: the kkm is destroyed
    rw [kkmReferenceCountDown_of_one hone]
    have hnil : k.files.erase f = [] := by
      apply List.eq_nil_of_length_eq_zero
      rw [hreferences, hcount] at hone
      omega
    refine ⟨⟨?_, fun h => absurd hnil h, ?_⟩, fun h => absurd hnil h, ?_⟩
    · intro kkm'' hkkm''
      cases hkkm''
    · simp [hnil, h.opened hne]
    · intro kkm'' hkkm''
      cases hkkm''
  · have hgt : 1 < kkm'.referenceCount := by
      rw [hreferences, hcount] at hone ⊢
      omega
    rw [kkmReferenceCountDown_of_gt hgt]
    have hfiles : k.files.erase f ≠ [] := by
      intro hnil
      rw [hnil] at hlength
      rw [hreferences, hcount] at hgt
      simp at hlength
      omega
    refine ⟨⟨?_, fun _ => by simp, ?_⟩, fun _ => h.opened hne, ?_⟩
    · intro kkm'' hkkm''
      cases hkkm''
      simp only [hreferences, hcount, hlength]
      omega
    · simp only [hfiles, and_false]
      exact hold
    · intro kkm'' hkkm''
      cases hkkm''
      exact ⟨htrack.apart, htrack.used⟩

end Close

/-! ## Steps and runs -/

def World.RefTracked (w : World) : Prop :=
  ∀ q, Driver.RefTracked (w.kontainers q)

/-- Only one kontainer changes. -/
theorem World.RefTracked.set
    {w : World} (h : w.RefTracked) {q : Nat} {k : KontainerState}
    (hk : Driver.RefTracked k) (g : KernelState) :
    (w.set q k g).RefTracked := by
  intro r
  by_cases hr : r = q
  · subst hr
    simpa [World.set] using hk
  · simpa [World.set, Function.update_of_ne hr] using h r

theorem World.RefCounted.get
    {w : World} {q : Nat} {k : KontainerState} {g : KernelState}
    (h : (w.set q k g).RefCounted) :
    Driver.RefCounted k := by
  simpa [World.set] using h q

theorem closeFile_tracked
    {k : KontainerState} {f : OpenFile} (h : RefTracked k) (hf : f ∈ k.files)
    (g : KernelState) :
    Holds (fun r => RefTracked r.1) (closeFile f k g) := by
  obtain ⟨kkm, hkkm⟩ := Option.ne_none_iff_exists'.mp
    (h.counted.alive (List.ne_nil_of_mem hf))
  have htrack := h.track kkm hkkm
  cases htarget : f.target with
  | kontainer =>
      simp only [closeFile, htarget, kkmKontainerRelease, hkkm]
      refine h.close hkkm hf rfl ?_ g
      exact htrack.close hf fun _ _ => rfl
  | kontext i =>
      have hused := htrack.used f hf i htarget
      obtain ⟨kkm', g', kontext, _, hkontext, _, hreferences, hrun⟩ :=
        kkmExecutionKontextRelease_spec
          (k := { k with files := k.files.erase f }) hkkm hused g
      simp only [closeFile, htarget, hrun]
      refine h.close hkkm hf hreferences ?_ g'
      refine htrack.close hf ?_
      intro j hj
      have hne : j ≠ i := by
        rintro rfl
        exact hj htarget
      rw [hkontext, Function.update_of_ne hne]

theorem lifecycleStep_close_tracked
    (cfg : KkmConfig) (kx : KkmMmuPml4e) (w : World) (q fd : Nat)
    (h : w.RefTracked) :
    Holds World.RefTracked (lifecycleStep cfg kx w (.close q fd)) := by
  cases hfile : (w.kontainers q).files.find? fun f => decide (f.fd = fd) with
  | none =>
      simp only [lifecycleStep, hfile]
      exact h
  | some f =>
      have hf := List.mem_of_find?_eq_some hfile
      have hclose := closeFile_tracked (h q) hf w.kernel
      simp only [lifecycleStep, hfile]
      cases hrun : closeFile f (w.kontainers q) w.kernel with
      | error fault =>
          rw [hrun] at hclose
          exact absurd hclose (holds_error _ fault)
      | ok r =>
          rw [hrun] at hclose
          exact h.set hclose r.2

theorem lifecycleStep_add_tracked
    (cfg : KkmConfig) (kx : KkmMmuPml4e) (w : World)
    (q : Nat) (vcpuId : BitVec 32) (a : AddAnswers)
    (h : w.RefTracked) (hguard : CallsMatched cfg w (.add q vcpuId a)) :
    Holds World.RefTracked (lifecycleStep cfg kx w (.add q vcpuId a)) := by
  cases hreach : (w.kontainers q).reachable with
  | false =>
      simp only [lifecycleStep, hreach]
      exact h
  | true =>
      obtain ⟨kkm, hkkm⟩ := Option.ne_none_iff_exists'.mp
        ((h q).counted.alive ((w.kontainers q).files_ne_nil hreach))
      rcases kkmAddExecutionKontext_cases cfg vcpuId a hkkm w.kernel with
        ⟨_, ret, hrun⟩ | ⟨hrefused, hfull, _⟩ |
        ⟨i, kkm', ret, g', hsel, hadded, hrun⟩
      · simp only [lifecycleStep, hreach, if_true, hrun, Except.map]
        exact h.set (h q) w.kernel
      · exact absurd hfull (hguard kkm hreach hkkm hrefused).1
      · have hmatched := (hguard kkm hreach hkkm hsel.1).2 i hsel
        simp only [lifecycleStep, hreach, if_true, hrun, Except.map]
        exact h.set ((h q).add hkkm hreach hsel.2.1 hadded hmatched _) g'

theorem lifecycleStep_tracked
    (cfg : KkmConfig) (kx : KkmMmuPml4e) (w : World) (e : LifecycleEvent)
    (h : w.RefTracked) (hguard : CallsMatched cfg w e) :
    Holds World.RefTracked (lifecycleStep cfg kx w e) := by
  cases e with
  | create a =>
      have hk := kkmCreateKontainer_tracked kx hguard
      exact h.set (q := w.created) hk (kkmCreateKontainer cfg kx a w.kernel).2.2
  | add q vcpuId a => exact lifecycleStep_add_tracked cfg kx w q vcpuId a h hguard
  | close q fd => exact lifecycleStep_close_tracked cfg kx w q fd h

/-- A call that installs its file without completing, or completes without a
file, loses the count; an add without a free entry leaves the table. -/
theorem lifecycleStep_not_counted
    (cfg : KkmConfig) (kx : KkmMmuPml4e) (w : World) (e : LifecycleEvent)
    (h : w.RefTracked) (hguard : ¬ CallsMatched cfg w e) :
    ¬ Holds World.RefCounted (lifecycleStep cfg kx w e) := by
  cases e with
  | create a =>
      simp only [CallsMatched] at hguard
      push Not at hguard
      obtain ⟨hzalloc, hfd, hno⟩ := hguard
      intro hcounted
      have hk := hcounted.get (q := w.created) (w := w)
        (g := (kkmCreateKontainer cfg kx a w.kernel).2.2)
      exact kkmCreateKontainer_not_counted kx hzalloc hfd hno hk
  | close q fd => exact absurd trivial hguard
  | add q vcpuId a =>
      simp only [CallsMatched] at hguard
      simp only [not_forall] at hguard
      obtain ⟨kkm, hreach, hkkm, hrefused, hguard⟩ := hguard
      rcases kkmAddExecutionKontext_cases cfg vcpuId a hkkm w.kernel with
        ⟨hnone, ret, hrun⟩ | ⟨_, hfull, hrun⟩ |
        ⟨i, kkm', ret, g', hsel, hadded, hrun⟩
      · -- out of memory: the search has found a free entry
        exfalso
        refine hguard ⟨?_, fun i hi => absurd hi (hnone i)⟩
        intro hfull
        have hrun' : kkmAddExecutionKontext cfg vcpuId a (w.kontainers q) w.kernel =
            .error (.kontextIndex kkmMaxContexts) := by
          simp [kkmAddExecutionKontext, hkkm, hrefused, hfull]
        rw [hrun] at hrun'
        cases hrun'
      · simp only [lifecycleStep, hreach, if_true, hrun, Except.map]
        exact holds_error _ _
      · have hunmatched : ¬ (a.getfd = true ↔ AddCompletes a) := by
          intro hmatched
          refine hguard ⟨by simp [hsel.2.1], ?_⟩
          intro j _
          exact hmatched
        simp only [lifecycleStep, hreach, if_true, hrun, Except.map]
        intro hcounted
        exact (h q).add_not_counted hkkm hreach hadded hunmatched w.kernel.nextFd
          hcounted.get

/-- Along a run of creations, adds and closes, the reference counts are right in
every state exactly when each call completes if and only if it installs its
file. -/
theorem refCounted_iff_callsMatched
    (cfg : KkmConfig) (kx : KkmMmuPml4e) (g : KernelState)
    (es : List LifecycleEvent) :
    EveryState (liftStep (lifecycleStep cfg kx)) (Holds World.RefCounted)
        (.ok (World.start g)) es ↔
      EveryStep (liftStep (lifecycleStep cfg kx)) (LiftGuard (CallsMatched cfg))
        (.ok (World.start g)) es := by
  refine holds_iff_of_invariant ?_ ?_ ?_ (I := World.RefTracked) ?_
  · exact fun w h q => (h q).counted
  · exact lifecycleStep_tracked cfg kx
  · exact lifecycleStep_not_counted cfg kx
  · exact fun _ => refTracked_absent

/-- An add whose first mmap page cannot be allocated installs a file for which
no reference is taken. -/
theorem add_without_pages_not_referenced :
    ¬ EveryState (liftStep (lifecycleStep .stock .zeroed)) (Holds World.RefCounted)
      (.ok (World.start .booted))
      [.create .granted,
        .add 0 0#32 { AddAnswers.granted with mmap := fun _ => none }] := by
  intro h
  have hcreated := granted_completes .zeroed
  obtain ⟨hzalloc, hfd, hcompletes⟩ :=
    (kkmCreateKontainer_nonneg_iff ..).mp hcreated
  obtain ⟨kkm, _, hcount, hkontext, hmm, hk⟩ := kkmCreateKontainer_created hcreated
  have hstart : (World.start .booted).RefTracked := fun _ => refTracked_absent
  have htracked := lifecycleStep_tracked .stock .zeroed _ (.create .granted) hstart
    fun _ _ => hcompletes
  refine lifecycleStep_not_counted .stock .zeroed _
    (.add 0 0#32 { AddAnswers.granted with mmap := fun _ => none })
    htracked ?_ h.2.2
  intro hguard
  have hreach : (kkmCreateKontainer .stock .zeroed .granted
      .booted).2.1.reachable = true := by
    rw [hk]
    rfl
  have hselects : AddSelects kkm 0#32
      { AddAnswers.granted with mmap := fun _ => none } 0 :=
    addSelects_zero hkontext hcount hmm (by decide) rfl
  have hmatched := (hguard kkm hreach (congrArg KontainerState.kkm hk)
    hselects.1).2 0 hselects
  exact (hmatched.mp rfl).1 0 rfl

end Driver
end KkmModule
