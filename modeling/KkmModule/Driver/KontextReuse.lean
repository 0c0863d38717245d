import KkmModule.Driver.Lifecycle
import KkmModule.Driver.SaveInfo

/-!
# A reused kontext and a new one

`KKM_KONTEXT_REUSE` prepares a kontext for another thread.  The two ways to
obtain a kontext are compared: after the same registers and the same mmap pages
have been set, `reuse_like_new_iff` says when the payload is entered alike.

`reuse_after_run` is a kontext that has run before and is not entered like a new
one: `kkm_kontext_reinit` leaves `valid_payload_xsave_area` set.
-/

namespace KkmModule
namespace Driver

open Foundation

/-! ## What a new kontext starts with -/

/-- The fields of a kontext that a first run reads, as a new thread has them. -/
structure Fresh (kontext : KkmKontext) : Prop where
  newThread : kontext.newThread = true
  debugRegistersSet : kontext.debugRegistersSet = false
  syscallPending : kontext.syscallPending = false
  exceptionPosted : kontext.exceptionPosted = false

theorem fresh_kkmKontextReinit (kontext : KkmKontext) :
    Fresh (kkmKontextReinit kontext) :=
  ⟨rfl, rfl, rfl, rfl⟩

/-- What `kkm_kontext_init` leaves when its two allocations succeed. -/
theorem kkmKontextInit_fresh
    {cfg : KkmConfig} {kkm : Kkm} {a : KontextInitAnswers}
    (kontext : KkmKontext) (s : PageState)
    (ha : a.guestArea ≠ none ∧ a.xsave ≠ none) :
    let r := kkmKontextInit cfg kkm a kontext s
    Fresh r.2.1 ∧ r.2.1.firstThread = kontext.firstThread ∧
      r.2.1.validPayloadXsaveArea = false ∧ r.2.1.ga.debug = .zeroed := by
  obtain ⟨guestArea, hguest⟩ := Option.ne_none_iff_exists'.mp ha.1
  obtain ⟨xsave, hxsave⟩ := Option.ne_none_iff_exists'.mp ha.2
  have hcount : kkmGuestAreaPages ≠ 0 := by decide
  have hcount' : kkmFpuXsaveAllocPages ≠ 0 := by decide
  simp only [kkmKontextInit, kkmKontextInitGuestArea, kkmKontextInitXsave, hguest,
    hxsave, kkmMmAllocatePages_some _ hcount, kkmMmAllocatePages_some _ hcount',
    ne_eq, not_true_eq_false, if_false]
  exact ⟨⟨rfl, rfl, rfl, rfl⟩, trivial, trivial, rfl⟩

theorem allocMmapPages_firstThread
    (answers : Fin kkmContextMapPageCount → Option Nat)
    (is : List (Fin kkmContextMapPageCount)) (kontext : KkmKontext) (s : PageState) :
    (allocMmapPages answers is kontext s).2.1.firstThread = kontext.firstThread := by
  induction is generalizing kontext s with
  | nil => rfl
  | cons i is ih =>
      have hone : (allocMmapPage i (answers i) kontext s).2.1.firstThread =
          kontext.firstThread := by
        unfold allocMmapPage
        split
        · rfl
        · rfl
      simp only [allocMmapPages]
      split
      · exact (ih _ _).trans hone
      · exact hone

/-- A kontext that a completed `KKM_ADD_EXECUTION_CONTEXT` has put in a slot, in a kontainer
that has kontexts already. -/
def NewNonFirst (cfg : KkmConfig) (kontext : KkmKontext) : Prop :=
  ∃ (kkm : Kkm) (vcpuId : BitVec 32) (a : AddAnswers) (i : Fin kkmMaxContexts)
    (objectId : BitVec 64) (old : KkmKontext) (fd ret : Int) (s : PageState),
    kkm.kontextCount ≠ 0#32 ∧ AddCompletes a ∧
      (kkmAddExecutionKontextBody cfg a i kkm
        { claimKontext kkm vcpuId a.task objectId old with kontextFd := fd }
        ret s).2.1.kontext i = some kontext

theorem NewNonFirst.fresh
    {cfg : KkmConfig} {kontext : KkmKontext} (h : NewNonFirst cfg kontext) :
    Fresh kontext ∧ kontext.firstThread = false ∧
      kontext.validPayloadXsaveArea = false ∧ kontext.ga.debug = .zeroed := by
  obtain ⟨kkm, vcpuId, a, i, objectId, old, fd, ret, s, hcount, ha, hslot⟩ := h
  generalize hk : { claimKontext kkm vcpuId a.task objectId old with
    kontextFd := fd } = k at hslot
  have hfirst : k.firstThread = false := by
    rw [← hk]
    exact beq_eq_false_iff_ne.mpr hcount
  have hmmap : (allocMmapPages a.mmap (List.finRange kkmContextMapPageCount) k
      s).1 = true :=
    (allocMmapPages_spec k s a.mmap _).1.mpr fun i _ => ha.1 i
  have hsame := allocMmapPages_firstThread a.mmap
    (List.finRange kkmContextMapPageCount) k s
  have hzero := fun k s => ((kkmKontextInit_spec k s cfg kkm a.init).1.mpr ha.2)
  have hinit := fun k s =>
    @kkmKontextInit_fresh cfg kkm a.init k s ha.2
  simp only [kkmAddExecutionKontextBody, hmmap, hzero, ne_eq, not_true_eq_false,
    Bool.true_eq_false, if_false, kkmReferenceCountUp, Kkm.setKontext,
    Function.update_self, Option.some.injEq] at hslot
  subst hslot
  obtain ⟨hfresh, hthread, hrest⟩ := hinit
    (allocMmapPages a.mmap (List.finRange kkmContextMapPageCount) k s).2.1
    (allocMmapPages a.mmap (List.finRange kkmContextMapPageCount) k s).2.2
  exact ⟨hfresh, hthread.trans (hsame.trans hfirst), hrest⟩

/-! ## The first run -/

/-- The registers the payload is to have: those of the run page if they are
dirty. -/
def givenRegs (regs : KkmRegs) (run : KkmRun) : KkmRegs :=
  if run.kkmDirtyRegs &&& kkmSyncX86Regs ≠ 0 then run.regs else regs

/-- The flags differ if single step is requested in one kontext only. -/
theorem payloadRflags_eq_iff (debug debug' : KkmDebug) (rflags : BitVec 64) :
    payloadRflags debug rflags = payloadRflags debug' rflags ↔
      singleStep debug = singleStep debug' := by
  have hne : ∀ x : BitVec 64, x ||| x86EflagsTf ≠ x &&& ~~~x86EflagsTf := by
    intro x hx
    have hbit := congrArg (fun y => y.getLsbD 8) hx
    simp [x86EflagsTf] at hbit
  unfold payloadRflags
  cases singleStep debug with
  | false =>
      cases singleStep debug' with
      | false => simp
      | true => simpa using fun h => hne _ h.symm
  | true =>
      cases singleStep debug' with
      | false => simpa using hne _
      | true => simp

/-- The decisions about extended state and debug registers are those of the
kontext. -/
theorem enterPayload_decisions (e : EntryCpu) (kontext : KkmKontext) :
    let p := enterPayload e (forgetTrap (restoreException (startNewThread kontext)))
    p.validPayloadXsaveArea = kontext.validPayloadXsaveArea ∧
      p.debugRegistersSet = kontext.debugRegistersSet := by
  simp only [enterPayload, kkmGuestKernelStartPayload, prepareGuestArea,
    forgetTrap, restoreException, startNewThread, KkmKontext.setRegs, and_self]

section Reuse

variable (cfg : KkmConfig) (crc32 : List (BitVec 8) → BitVec 32)

/-- The monitor sets registers and the mmap pages, and runs the kontext. -/
def setAndRun
    (regs : KkmRegs) (run : KkmRun) (area : KkmPrivateArea) (e : EntryCpu) :
    List KontextEvent :=
  [.ioctl (.setRegs ⟨false, regs⟩), .writeRunPage run, .writePrivateArea area,
    .run, .begin false e]

/-- What the first run of a fresh kontext enters the payload with. -/
theorem setAndRun_fresh
    {s : RunState} (hphase : s.phase = .monitor) (hfresh : Fresh s.kontext)
    (regs : KkmRegs) {run : KkmRun} (area : KkmPrivateArea) (e : EntryCpu)
    (himmediate : run.immediateExit ≠ 1#8) :
    let given := givenRegs regs run
    let s' := (setAndRun regs run area e).foldl (runStep cfg crc32) s
    s'.phase = .payload ∧
      s'.kontext.ga.regs =
        { given with
          rsp := if !s.kontext.firstThread && area.reason == faultSyscall then
            aboveHcArgs given.rsp else given.rsp
          rflags := payloadRflags s.kontext.ga.debug given.rflags } ∧
      s'.kontext.validPayloadXsaveArea = s.kontext.validPayloadXsaveArea ∧
      s'.kontext.debugRegistersSet = s.kontext.debugRegistersSet := by
  obtain ⟨hnew, _, hpending, hposted⟩ := hfresh
  obtain ⟨k, mem, phase⟩ := s
  subst hphase
  intro given s'
  let k₁ := kkmSetRegs { k.setRegs regs with run := run, privateArea := area }
  have hnothing : NothingPending k₁ given := ⟨hpending, hposted, rfl⟩
  obtain ⟨hstart, hregs⟩ := start_of_nothingPending (m := mem.user) hnothing
    (show k₁.run.immediateExit ≠ 1#8 from himmediate)
  have hclone : isCloneStart k₁ =
      (!k.firstThread && area.reason == faultSyscall) := by
    have hk : k₁.newThread = true := hnew
    simp only [isCloneStart, hk, Bool.true_and]
    rfl
  have hs' : s' = ⟨enterPayload e (forgetTrap (restoreException
      (startNewThread k₁))), mem, .payload⟩ := by
    simp only [s', setAndRun, List.foldl_cons, List.foldl_nil, runStep, if_true,
      kkmExecutionKontextIoctl, RunState.run]
    rw [show kkmKontextSwitchKernelStart mem.user (kkmSetRegs _) = _ from hstart]
    rfl
  have hentered : s'.kontext.ga.regs =
      { (startNewThread k₁).ga.regs with
        rflags := payloadRflags k.ga.debug (startNewThread k₁).ga.regs.rflags } := by
    rw [hs', ← hregs]
    rfl
  have hnewRegs : (startNewThread k₁).ga.regs =
      { given with
        rsp := if !k.firstThread && area.reason == faultSyscall then
          aboveHcArgs given.rsp else given.rsp } := by
    rw [← hclone]
    unfold startNewThread
    cases isCloneStart k₁ with
    | false => rfl
    | true => rfl
  have hvalid : k₁.validPayloadXsaveArea = k.validPayloadXsaveArea := rfl
  have hdebug : k₁.debugRegistersSet = k.debugRegistersSet := rfl
  obtain ⟨hvalid', hdebug'⟩ := enterPayload_decisions e k₁
  refine ⟨by rw [hs'], ?_, ?_, ?_⟩
  · rw [hentered, hnewRegs]
  · rw [hs']
    exact hvalid'.trans hvalid
  · rw [hs']
    exact hdebug'.trans hdebug

/-! ## The comparison -/

/-- The same at the first entry: registers, extended state, debug registers. -/
structure EntersAlike (k k' : KkmKontext) : Prop where
  regs : k.ga.regs = k'.ga.regs
  restore : k.validPayloadXsaveArea = k'.validPayloadXsaveArea
  debugRegisters : k.debugRegistersSet = k'.debugRegistersSet

/-- Nothing that `kkm_kontext_reinit` passes over matters to the next run. -/
structure ReusesCleanly (kontext : KkmKontext) (area : KkmPrivateArea) : Prop where
  noXstate : kontext.validPayloadXsaveArea = false
  noSingleStep : singleStep kontext.ga.debug = false
  notFirst : kontext.firstThread = true → area.reason ≠ faultSyscall

theorem adjusted_eq_iff (first : Bool) (reason : BitVec 32) (rsp : BitVec 64) :
    (if !first && reason == faultSyscall then aboveHcArgs rsp else rsp) =
        (if !false && reason == faultSyscall then aboveHcArgs rsp else rsp) ↔
      (first = true → reason ≠ faultSyscall) := by
  have hne : rsp ≠ aboveHcArgs rsp := by
    simp only [aboveHcArgs, sizeofKkmHcArgs, kkmAbiRedzone]
    bv_omega
  cases first with
  | false => simp
  | true =>
      by_cases hreason : reason = faultSyscall
      · simp [hreason, hne]
      · simp [hreason]

/-- A reused kontext is entered like a new one exactly when it has no extended
state, does not single-step, and, if it was the first thread, is not started by
clone. -/
theorem reuse_like_new_iff
    {s : RunState} {new : KkmKontext} {run : KkmRun}
    (hphase : s.phase = .monitor) (hnew : NewNonFirst cfg new)
    (himmediate : run.immediateExit ≠ 1#8)
    (regs : KkmRegs) (area : KkmPrivateArea) (e : EntryCpu) :
    let sets := setAndRun regs run area e
    let reused := (.ioctl .reuse :: sets).foldl (runStep cfg crc32) s
    let other := sets.foldl (runStep cfg crc32) { s with kontext := new }
    reused.phase = .payload ∧ other.phase = .payload ∧
      (EntersAlike reused.kontext other.kontext ↔
        ReusesCleanly s.kontext area) := by
  intro sets reused other
  have hreinit : runStep cfg crc32 s (.ioctl .reuse) =
      { s with kontext := kkmKontextReinit s.kontext } := if_pos hphase
  obtain ⟨hfresh, hfirst, hvalid, hdebug⟩ := hnew.fresh
  have hreused := setAndRun_fresh cfg crc32
    (s := { s with kontext := kkmKontextReinit s.kontext }) hphase
    (fresh_kkmKontextReinit s.kontext) regs area e himmediate
  have hother := setAndRun_fresh cfg crc32 (s := { s with kontext := new }) hphase
    hfresh regs area e himmediate
  have hfold : reused = sets.foldl (runStep cfg crc32)
      { s with kontext := kkmKontextReinit s.kontext } := by
    simp only [reused, List.foldl_cons, hreinit]
  rw [← hfold] at hreused
  obtain ⟨hphase₁, hregs₁, hvalid₁, hdebug₁⟩ := hreused
  obtain ⟨hphase₂, hregs₂, hvalid₂, hdebug₂⟩ := hother
  refine ⟨hphase₁, hphase₂, ?_⟩
  have hzeroed : singleStep KkmDebug.zeroed = false := by decide
  have hregs : reused.kontext.ga.regs = other.kontext.ga.regs ↔
      (s.kontext.firstThread = true → area.reason ≠ faultSyscall) ∧
        singleStep s.kontext.ga.debug = false := by
    rw [hregs₁, hregs₂, KkmRegs.mk.injEq]
    simp only [true_and, hfirst, hdebug]
    rw [payloadRflags_eq_iff, hzeroed]
    exact and_congr (adjusted_eq_iff _ _ _) Iff.rfl
  constructor
  · rintro ⟨hsame, hrestore, _⟩
    obtain ⟨hthread, hstep⟩ := hregs.mp hsame
    exact ⟨hvalid₁.symm.trans (hrestore.trans (hvalid₂.trans hvalid)), hstep, hthread⟩
  · rintro ⟨hxstate, hstep, hthread⟩
    exact ⟨hregs.mpr ⟨hthread, hstep⟩,
      hvalid₁.trans (hxstate.trans (hvalid₂.trans hvalid).symm),
      hdebug₁.trans (hdebug₂.trans hfresh.debugRegistersSet).symm⟩

/-- The second kontext of a kontainer, as it is added. -/
def secondKontext : KkmKontext :=
  let kkm := { Kkm.zeroed with kontextCount := 1 }
  let a : AddAnswers :=
    ⟨0, 0, true, true, fun _ => some 0, ⟨some 0, some 0⟩⟩
  ((kkmAddExecutionKontextBody .stock a 1 kkm
    { claimKontext kkm 1 a.task 2 .zeroed with kontextFd := 4 } 4
    KernelState.booted.pages).2.1.kontext 1).getD .zeroed

theorem newNonFirst_secondKontext : NewNonFirst .stock secondKontext :=
  ⟨{ Kkm.zeroed with kontextCount := 1 }, 1,
    ⟨0, 0, true, true, fun _ => some 0, ⟨some 0, some 0⟩⟩, 1, 2, .zeroed, 4, 4,
    KernelState.booted.pages, by decide, ⟨by simp, by simp, by simp⟩, rfl⟩

/-- A kontext that is reused before it has run. -/
theorem reuse_like_new_before_run :
    let s : RunState :=
      ⟨secondKontext, ⟨fun _ => none, fun _ => 0#64⟩, .monitor⟩
    let sets := setAndRun { KkmRegs.zeroed with rip := 0x401000#64 } .zeroed
      .zeroed ⟨0, 0⟩
    EntersAlike
      ((.ioctl .reuse :: sets).foldl (runStep .stock fun _ => 0) s).kontext
      (sets.foldl (runStep .stock fun _ => 0) s).kontext := by
  intro s sets
  have hnew := newNonFirst_secondKontext.fresh
  have himmediate : KkmRun.zeroed.immediateExit ≠ 1#8 := by
    decide
  refine (reuse_like_new_iff .stock (fun _ => 0) (s := s) rfl
    newNonFirst_secondKontext himmediate _ .zeroed
    ⟨0, 0⟩).2.2.mpr ⟨hnew.2.2.1, ?_, fun _ => by decide⟩
  exact (congrArg singleStep hnew.2.2.2).trans (by decide)

/-- A debug exception. -/
def debugExit : PayloadExit where
  regs := .zeroed
  error := 0
  cs := userCs
  ss := userDs
  intrNo := 1
  cr0 := 0
  cr2 := 0
  cr3 := 0
  cr4 := 0
  cr8 := 0
  debugRegisters := fun _ => 0
  xsave := fun _ => 0

/-- A new kontext runs once and is then reused: the next payload starts with the
extended state of the last one. -/
theorem reuse_after_run :
    let s : RunState :=
      ⟨secondKontext, ⟨fun _ => none, fun _ => 0#64⟩, .monitor⟩
    let sets := setAndRun { KkmRegs.zeroed with rip := 0x401000#64 } .zeroed
      .zeroed ⟨0, 0⟩
    let events := sets ++
      [.exit .zeroed debugExit
        ⟨0, ⟨false, 0, fun _ => 0⟩, ⟨false, fun _ => 0⟩⟩ fun _ => none]
    let ran := events.foldl (runStep .stock fun _ => 0) s
    ran.phase = .monitor ∧
      ¬ EntersAlike
        ((.ioctl .reuse :: sets).foldl (runStep .stock fun _ => 0) ran).kontext
        (sets.foldl (runStep .stock fun _ => 0)
          { ran with kontext := secondKontext }).kontext := by
  intro s sets events ran
  refine ⟨by decide +kernel, ?_⟩
  intro h
  exact absurd h.restore (by decide +kernel)

end Reuse

end Driver
end KkmModule
