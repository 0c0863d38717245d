import KkmModule.Driver.HandlerWrites
import KkmModule.Driver.RunRestart
import KkmModule.Driver.SaveInfo

/-!
# Replies to system calls

The stack pointer is lowered at the exit of a system call and raised when a
later `KKM_RUN` collects the reply.  `calls_answered_once` follows a kontext
through any number of exits, interrupted calls and resumed ones.

The monitor changes `immediate_exit`, the `ret_val` of the frame that waits for
a reply, and memory apart from it.
-/

namespace KkmModule
namespace Driver

open Foundation

/-! ## What the handlers keep -/

/-- What is not pending stays so, and no register set becomes dirty. -/
structure KeepsCall (k k' : KkmKontext) : Prop where
  newThread : k'.newThread = k.newThread
  syscallPending : k'.syscallPending = k.syscallPending
  dirty : k'.run.kkmDirtyRegs = k.run.kkmDirtyRegs

/-- A handler that posts no exception either. -/
structure KeepsPending (k k' : KkmKontext) : Prop extends KeepsCall k k' where
  exceptionPosted : k'.exceptionPosted = k.exceptionPosted

theorem KeepsCall.trans
    {k k' k'' : KkmKontext} (h : KeepsCall k k') (h' : KeepsCall k' k'') :
    KeepsCall k k'' :=
  ⟨h'.newThread.trans h.newThread, h'.syscallPending.trans h.syscallPending,
    h'.dirty.trans h.dirty⟩

theorem KeepsPending.refl (k : KkmKontext) : KeepsPending k k :=
  ⟨⟨rfl, rfl, rfl⟩, rfl⟩

theorem KeepsPending.trans
    {k k' k'' : KkmKontext} (h : KeepsPending k k') (h' : KeepsPending k' k'') :
    KeepsPending k k'' :=
  ⟨h.toKeepsCall.trans h'.toKeepsCall, h'.exceptionPosted.trans h.exceptionPosted⟩

theorem KeepsCall.of_writes
    {k k' : KkmKontext} (h : Writes HandlerWrite.noReply k k') : KeepsCall k k' where
  newThread := h.keeps (f := KkmKontext.newThread) fun _ w _ => by cases w <;> rfl
  syscallPending := by
    refine h.keeps (f := KkmKontext.syscallPending) ?_
    intro k w hw
    cases w with
    | pendReply mva => cases hw
    | _ => rfl
  dirty := h.keeps (f := fun k => k.run.kkmDirtyRegs) fun _ w _ => by cases w <;> rfl

theorem KeepsPending.of_writes
    {k k' : KkmKontext} (h : Writes HandlerWrite.isQuiet k k') : KeepsPending k k' where
  toKeepsCall := by
    refine .of_writes (h.mono ?_)
    intro w hw
    cases w with
    | postException rax rbx => rfl
    | _ => exact hw
  exceptionPosted := by
    refine h.keeps (f := KkmKontext.exceptionPosted) ?_
    intro k w hw
    cases w with
    | postException rax rbx => cases hw
    | _ => rfl

section Handlers

variable (cfg : KkmConfig) (kkm : Kkm)

/-- The frame of a system call. -/
def hcArgsGva (regs : KkmRegs) : BitVec 64 :=
  regs.rsp - kkmAbiRedzone - sizeofKkmHcArgs

/-- A system call exits with a reply pending and its frame in RAX and RSP. -/
structure ExitsWithCall (k k' : KkmKontext) : Prop where
  syscallPending : k'.syscallPending = true
  newThread : k'.newThread = k.newThread
  exceptionPosted : k'.exceptionPosted = k.exceptionPosted
  dirty : k'.run.kkmDirtyRegs = k.run.kkmDirtyRegs
  regs : k'.ga.regs =
    { k.ga.regs with rax := hcArgsGva k.ga.regs, rsp := hcArgsGva k.ga.regs }

theorem kkmProcessSyscall_spec (k : KkmKontext) (m : ByteMemory) :
    let r := kkmProcessSyscall cfg kkm k m
    (r.1 = 0 ∧ ExitsWithCall k r.2.1) ∨ (r.1 = -efault ∧ KeepsPending k r.2.1) := by
  simp only [kkmProcessSyscall, pushHcArgs_eq]
  split
  · exact Or.inr ⟨rfl, ⟨rfl, rfl, rfl⟩, rfl⟩
  · split
    · exact Or.inr ⟨rfl, ⟨rfl, rfl, rfl⟩, rfl⟩
    · refine Or.inl ⟨rfl, ?_, ?_, ?_, ?_, ?_⟩
      all_goals
        simp only [List.foldl_cons, List.foldl_nil, HandlerWrite.apply,
          KkmKontext.setRegs, kkmSetupHypercall, hcArgsGva]

theorem intrHandler_syscall_iff (intrNo : BitVec 64) :
    intrHandler intrNo = .syscall ↔ intrNo = kkmIntrSyscall := by
  constructor
  · intro h
    unfold intrHandler at h
    split at h
    all_goals cases h
    rename_i hno
    exact BitVec.eq_of_toNat_eq hno
  · rintro rfl
    rfl

/-- What the other handlers keep; only a return to the monitor posts an
exception. -/
theorem kkmProcessIntr_of_ne_syscall
    (a : ExitAnswers) {k : KkmKontext} (s : RunMemory)
    (hintr : k.ga.intrNo ≠ kkmIntrSyscall) :
    let r := kkmProcessIntr cfg kkm a k s
    KeepsCall k r.2.1 ∧ (r.1 = kkmKontextFaultProcessDone → KeepsPending k r.2.1) := by
  let k₀ := { k with run := { k.run with exitReason := kkmExitUnknown } }
  have hk₀ : KeepsPending k k₀ := ⟨⟨rfl, rfl, rfl⟩, rfl⟩
  have hquiet : ∀ {k'}, Writes HandlerWrite.isQuiet k₀ k' → KeepsCall k k' ∧
      ∀ p : Prop, p → KeepsPending k k' := by
    intro k' h
    have hk := hk₀.trans (.of_writes h)
    exact ⟨hk.toKeepsCall, fun _ _ => hk⟩
  have hcall : ∀ {args m}, KeepsCall k (recordException cfg kkm args k₀ m).2.1 :=
    fun {args m} => hk₀.toKeepsCall.trans
      (.of_writes (recordException_writes cfg kkm args k₀ m))
  have hret : ∀ {args m}, (recordException cfg kkm args k₀ m).1 ≠
      kkmKontextFaultProcessDone := fun {args m} =>
    recordException_ret cfg kkm args k₀ m
  intro r
  simp only [r, kkmProcessIntr]
  cases hhandler : intrHandler k.ga.intrNo with
  | generalProtection =>
      have h := hquiet (kkmProcessGeneralProtection_writes cfg kkm k₀ s.user)
      exact ⟨h.1, h.2 _⟩
  | pageFault =>
      have h := hquiet (kkmProcessPageFault_writes cfg kkm a.nativePgd a.read a.write
        k₀ s.tables)
      exact ⟨h.1, h.2 _⟩
  | commonWithoutError => exact ⟨hcall, fun h => absurd h hret⟩
  | commonWithError => exact ⟨hcall, fun h => absurd h hret⟩
  | debug =>
      have h := hquiet (kkmProcessDebug_writes k₀)
      exact ⟨h.1, h.2 _⟩
  | nmi => exact ⟨hk₀.toKeepsCall, fun _ => hk₀⟩
  | breakpoint =>
      have h := hquiet (kkmProcessBreakpoint_writes k₀)
      exact ⟨h.1, h.2 _⟩
  | syscall => exact absurd ((intrHandler_syscall_iff _).mp hhandler) hintr
  | forward => exact ⟨hk₀.toKeepsCall, fun _ => hk₀⟩

theorem kkmProcessIntr_syscall
    (a : ExitAnswers) {k : KkmKontext} (s : RunMemory)
    (hintr : k.ga.intrNo = kkmIntrSyscall) :
    let r := kkmProcessIntr cfg kkm a k s
    (r.1 = 0 ∧ ExitsWithCall k r.2.1) ∨ (r.1 = -efault ∧ KeepsPending k r.2.1) := by
  have hhandler := (intrHandler_syscall_iff _).mpr hintr
  let k₀ := { k with run := { k.run with exitReason := kkmExitUnknown } }
  intro r
  simp only [r, kkmProcessIntr, hhandler, onUser]
  rcases kkmProcessSyscall_spec cfg kkm k₀ s.user with ⟨hzero, h⟩ | ⟨hfault, h⟩
  · exact Or.inl ⟨hzero, h.syscallPending, h.newThread, h.exceptionPosted, h.dirty,
      h.regs⟩
  · exact Or.inr ⟨hfault, ⟨h.newThread, h.syscallPending, h.dirty⟩,
      h.exceptionPosted⟩

end Handlers

/-! ## Runs with replies -/

/-- The registers a kontext goes on with, those that a posted exception has
displaced among them. -/
def regsLeft (k : KkmKontext) : KkmRegs := (restoreException k).ga.regs

/-- The registers of an entry without a reply after a call of `KKM_RUN`. -/
def regsResumed (k : KkmKontext) : KkmRegs := regsLeft (startNewThread (kkmSetRegs k))

/-- A run with a record of the last exit. -/
structure AnsweredRun where
  state : RunState
  /-- the registers of the payload at its last exit, if that was a system call
  and has exited successfully -/
  call : Option KkmRegs
  /-- what the monitor has written in `ret_val` since the exit -/
  answer : Option (BitVec 64)
  /-- the replies collected since the exit -/
  replies : List (BitVec 64)
  /-- the registers that the last exit leaves for the next entry, those of the
  kontext before the first one -/
  left : KkmRegs

inductive AnswerEvent where
  | immediateExit (flag : BitVec 8)
  /-- the monitor writes `ret_val` of the frame -/
  | answer (v : BitVec 64)
  /-- memory changes by other means -/
  | memory (memory : RunMemory)
  | run
  | begin (signal : Bool) (e : EntryCpu)
  | exit (kkm : Kkm) (e : PayloadExit) (a : ExitAnswers) (user : ByteMemory)

/-- The reply that a call of `KKM_RUN` collects: it ends the wait for one and leaves
it in RAX. -/
def collectedReply (s : RunState) : Option (BitVec 64) :=
  let kontext := (kkmKontextSwitchKernelStart s.memory.user (kkmSetRegs s.kontext)).2
  if s.kontext.syscallPending = true ∧ kontext.syscallPending = false then
    some kontext.ga.regs.rax
  else none

section AnsweredRun

variable (cfg : KkmConfig)

/-- The registers of the payload at a system call that exits successfully. -/
def exitCall
    (kkm : Kkm) (e : PayloadExit) (a : ExitAnswers) (user : ByteMemory)
    (s : RunState) : Option KkmRegs :=
  if e.intrNo = kkmIntrSyscall ∧
      (kkmProcessIntr cfg kkm a (leavePayload e s.kontext)
        { s.memory with user := user }).1 = 0 then
    some e.regs
  else none

/-- The registers that an exit leaves for the next entry. -/
def exitRegs
    (kkm : Kkm) (e : PayloadExit) (a : ExitAnswers) (user : ByteMemory)
    (s : RunState) : KkmRegs :=
  regsLeft (kkmProcessIntr cfg kkm a (leavePayload e s.kontext)
    { s.memory with user := user }).2.1

/-- An event that does not fit the phase changes nothing. -/
def answeredStep (s : AnsweredRun) : AnswerEvent → AnsweredRun
  | .immediateExit flag =>
      { s with state := { s.state with
          kontext := setImmediateExit flag s.state.kontext } }
  | .answer v =>
      if s.state.kontext.syscallPending = true then
        let (ok, user) := writeBytes s.state.memory.user s.state.kontext.retValMva
          (wordBytes v)
        { s with
          state := { s.state with memory := { s.state.memory with user := user } }
          answer := if ok then some v else none }
      else s
  | .memory memory => { s with state := { s.state with memory := memory } }
  | .run =>
      if s.state.phase = .monitor then
        { s with
          state := s.state.run
          replies := (collectedReply s.state).toList ++ s.replies }
      else s
  | .begin signal e =>
      if s.state.phase = .begin then { s with state := s.state.begin signal e }
      else s
  | .exit kkm e a user =>
      if s.state.phase = .payload then
        ⟨s.state.exit cfg kkm e a user, exitCall cfg kkm e a user s.state, none, [],
          exitRegs cfg kkm e a user s.state⟩
      else s

/-- The monitor answers before it resumes, and the `ret_val` that waits is not
changed otherwise. -/
def MonitorAnswers (s : AnsweredRun) : AnswerEvent → Prop
  | .memory memory =>
      s.state.kontext.syscallPending = true →
        readWord memory.user s.state.kontext.retValMva =
          readWord s.state.memory.user s.state.kontext.retValMva
  | .run =>
      s.state.phase = .monitor → s.state.kontext.syscallPending = true →
        s.state.kontext.run.immediateExit ≠ 1#8 → s.answer ≠ none
  | _ => True

/-- The payload has been entered with the reply to the system call it made, or
if it made none, with the registers its exit has left. -/
def EntryAnswered (s : AnsweredRun) : Prop :=
  s.state.phase = .payload →
    match s.call with
    | none => s.replies = [] ∧
        s.state.kontext.ga.regs = payloadRegs s.state.kontext.ga.debug s.left
    | some regs => ∃ v, s.answer = some v ∧ s.replies = [v] ∧
        s.state.kontext.ga.regs =
          payloadRegs s.state.kontext.ga.debug { regs with rax := v }

/-! ## The invariant -/

/-- Once the payload has run, only a reply can be pending. -/
structure Running (k : KkmKontext) : Prop where
  newThread : k.newThread = false
  exceptionPosted : k.exceptionPosted = false
  clean : RegsClean k

/-- The reply to the last system call has not been collected. -/
structure ReplyWaits (s : AnsweredRun) (regs : KkmRegs) : Prop where
  phase : s.state.phase = .monitor
  syscallPending : s.state.kontext.syscallPending = true
  replies : s.replies = []
  regs : s.state.kontext.ga.regs =
    { regs with rax := hcArgsGva regs, rsp := hcArgsGva regs }
  answer : ∀ v, s.answer = some v →
    readWord s.state.memory.user s.state.kontext.retValMva = some v

/-- The reply has been collected. -/
structure ReplyCollected
    (s : AnsweredRun) (regs : KkmRegs) (v : BitVec 64) : Prop where
  syscallPending : s.state.kontext.syscallPending = false
  answer : s.answer = some v
  replies : s.replies = [v]
  waiting : s.state.phase ≠ .payload →
    s.state.kontext.ga.regs = { regs with rax := v }
  entered : s.state.phase = .payload →
    s.state.kontext.ga.regs =
      payloadRegs s.state.kontext.ga.debug { regs with rax := v }

/-- There is no reply to collect. -/
structure NoCall (s : AnsweredRun) : Prop where
  syscallPending : s.state.kontext.syscallPending = false
  replies : s.replies = []
  waiting : s.state.phase = .monitor → regsResumed s.state.kontext = s.left
  begun : s.state.phase = .begin → s.state.kontext.ga.regs = s.left
  entered : s.state.phase = .payload →
    s.state.kontext.ga.regs = payloadRegs s.state.kontext.ga.debug s.left

structure AnsweredInv (s : AnsweredRun) : Prop where
  running : s.call ≠ none ∨ s.state.phase ≠ .monitor → Running s.state.kontext
  noCall : s.call = none → NoCall s
  call : ∀ regs, s.call = some regs →
    ReplyWaits s regs ∨ ∃ v, ReplyCollected s regs v

theorem AnsweredInv.entryAnswered {s : AnsweredRun} (h : AnsweredInv s) :
    EntryAnswered s := by
  intro hphase
  cases hcall : s.call with
  | none => exact ⟨(h.noCall hcall).replies, (h.noCall hcall).entered hphase⟩
  | some regs =>
      rcases h.call regs hcall with hwaits | ⟨v, hcollected⟩
      · cases hwaits.phase.symm.trans hphase
      · exact ⟨v, hcollected.answer, hcollected.replies, hcollected.entered hphase⟩

/-! ## Collecting a reply -/

theorem aboveHcArgs_hcArgsGva (regs : KkmRegs) :
    aboveHcArgs (hcArgsGva regs) = regs.rsp := by
  simp only [aboveHcArgs, hcArgsGva, sizeofKkmHcArgs, kkmAbiRedzone]
  bv_omega

/-- A run that collects a reply. -/
theorem start_of_reply
    {m : ByteMemory} {k : KkmKontext} {v : BitVec 64}
    (hnew : k.newThread = false) (hposted : k.exceptionPosted = false)
    (hpending : k.syscallPending = true)
    (himmediate : k.run.immediateExit ≠ 1#8)
    (hread : readWord m k.retValMva = some v) :
    let r := kkmKontextSwitchKernelStart m k
    r.1 = 0 ∧ r.2.ga.regs =
      { k.ga.regs with rax := v, rsp := aboveHcArgs k.ga.regs.rsp } := by
  have hclone : isCloneStart k = false := by simp [isCloneStart, hnew]
  have hregs := (startNewThread_regs_iff k).mpr hclone
  let k₁ := { (startNewThread k).setRegs
      { k.ga.regs with rax := v, rsp := aboveHcArgs k.ga.regs.rsp } with
    syscallPending := false, retValMva := minusOne }
  have hresponse : kkmKontextHandleSyscallResponse m (startNewThread k) = (0, k₁) := by
    have hpending' : (startNewThread k).syscallPending = true := hpending
    have hread' : readWord m (startNewThread k).retValMva = some v := hread
    simp only [kkmKontextHandleSyscallResponse, if_pos hpending', hread', hregs, k₁]
  have hrestore : (restoreException k₁).ga.regs = k₁.ga.regs := by
    refine if_neg ?_
    intro htrue
    cases hposted.symm.trans htrue
  have hstart : kkmKontextSwitchKernelStart m k =
      (0, forgetTrap (restoreException k₁)) := by
    simp only [kkmKontextSwitchKernelStart, if_neg himmediate, hresponse]
    simp
  intro r
  rw [show r = _ from hstart]
  exact ⟨rfl, hrestore⟩

theorem regsClean_of_dirty
    {k k' : KkmKontext} (h : RegsClean k)
    (hdirty : k'.run.kkmDirtyRegs = k.run.kkmDirtyRegs) :
    RegsClean k' := by
  unfold RegsClean at h ⊢
  rw [hdirty]
  exact h

theorem Running.of_keeps
    {k k' : KkmKontext} (h : Running k) (hkeeps : KeepsPending k k') : Running k' :=
  ⟨hkeeps.newThread.trans h.newThread, hkeeps.exceptionPosted.trans h.exceptionPosted,
    regsClean_of_dirty h.clean hkeeps.dirty⟩

/-- A payload that has run goes on with the registers of the guest area. -/
theorem regsResumed_of_started
    {k : KkmKontext} (hnew : k.newThread = false) (hclean : RegsClean k) :
    regsResumed k = regsLeft k := by
  have hregs : (startNewThread k).ga.regs = k.ga.regs :=
    (startNewThread_regs_iff k).mpr (by simp [isCloneStart, hnew])
  rw [regsResumed, kkmSetRegs_of_clean hclean]
  show (if k.exceptionPosted = true then
    { (startNewThread k).ga.regs with
      rax := k.exceptionSavedRax, rbx := k.exceptionSavedRbx }
    else (startNewThread k).ga.regs) = regsLeft k
  rw [hregs]
  rfl

theorem regsLeft_of_not_posted
    {k : KkmKontext} (hposted : k.exceptionPosted = false) :
    regsLeft k = k.ga.regs := by
  refine if_neg ?_
  intro htrue
  cases hposted.symm.trans htrue

/-- A call of `KKM_RUN` that reaches `begin`. -/
theorem running_of_start
    {m : ByteMemory} {k : KkmKontext} (hclean : RegsClean k)
    (hzero : (kkmKontextSwitchKernelStart m k).1 = 0) :
    Running (kkmKontextSwitchKernelStart m k).2 := by
  have hstarted := kkmKontextSwitchKernelStart_started hzero
  refine ⟨hstarted.newThread, hstarted.exceptionPosted, regsClean_of_dirty hclean ?_⟩
  rw [kkmKontextSwitchKernelStart_runPage]

/-- The two ends of `RunState.run`. -/
theorem RunState.run_cases (s : RunState) :
    let r := kkmKontextSwitchKernelStart s.memory.user (kkmSetRegs s.kontext)
    (r.1 ≠ 0 ∧ s.run = s.return r.2) ∨
      (r.1 = 0 ∧ s.run = { s with kontext := r.2, phase := .begin }) := by
  intro r
  by_cases hzero : r.1 = 0
  · exact Or.inr ⟨hzero, if_neg (not_not.mpr hzero)⟩
  · exact Or.inl ⟨hzero, if_pos hzero⟩

/-! ## One step -/

/-- A step that changes neither the record of the last exit nor what is pending. -/
theorem AnsweredInv.of_keeps
    {s : AnsweredRun} (h : AnsweredInv s) {state : RunState}
    (hphase : state.phase = s.state.phase)
    (hkeeps : KeepsPending s.state.kontext state.kontext)
    (hga : state.kontext.ga = s.state.kontext.ga)
    (hresumed : s.call = none →
      regsResumed state.kontext = regsResumed s.state.kontext)
    (hread : s.state.kontext.syscallPending = true →
      readWord state.memory.user state.kontext.retValMva =
        readWord s.state.memory.user s.state.kontext.retValMva) :
    AnsweredInv { s with state := state } := by
  refine ⟨?_, ?_, ?_⟩
  · intro hrunning
    have hold := h.running (by rw [hphase] at hrunning; exact hrunning)
    exact hold.of_keeps hkeeps
  · intro hcall
    have hold := h.noCall hcall
    refine ⟨hkeeps.syscallPending.trans hold.syscallPending, hold.replies, ?_, ?_, ?_⟩
    · rw [hresumed hcall, hphase]
      exact hold.waiting
    · rw [hga, hphase]
      exact hold.begun
    · rw [hga, hphase]
      exact hold.entered
  · intro regs hcall
    rcases h.call regs hcall with hwaits | ⟨v, hcollected⟩
    · refine Or.inl ⟨hphase.trans hwaits.phase,
        hkeeps.syscallPending.trans hwaits.syscallPending, hwaits.replies, ?_, ?_⟩
      · rw [hga]
        exact hwaits.regs
      · intro v hv
        exact (hread hwaits.syscallPending).trans (hwaits.answer v hv)
    · refine Or.inr ⟨v, hkeeps.syscallPending.trans hcollected.syscallPending,
        hcollected.answer, hcollected.replies, ?_, ?_⟩
      · rw [hga, hphase]
        exact hcollected.waiting
      · rw [hga, hphase]
        exact hcollected.entered

theorem AnsweredInv.answer
    {s : AnsweredRun} (h : AnsweredInv s) (v : BitVec 64) :
    AnsweredInv (answeredStep cfg s (.answer v)) := by
  simp only [answeredStep]
  split
  · rename_i hpending
    refine ⟨h.running, ?_, ?_⟩
    · intro hcall
      cases (h.noCall hcall).syscallPending.symm.trans hpending
    intro regs hcall
    rcases h.call regs hcall with hwaits | ⟨_, hcollected⟩
    · refine Or.inl ⟨hwaits.phase, hpending, hwaits.replies, hwaits.regs, ?_⟩
      intro w hw
      simp only at hw ⊢
      split at hw
      · rename_i hok
        cases hw
        exact readWord_writeBytes hok
      · cases hw
    · cases hcollected.syscallPending.symm.trans hpending
  · exact h

theorem collectedReply_of_not_pending
    {s : RunState} (h : s.kontext.syscallPending = false) :
    collectedReply s = none := by
  refine if_neg ?_
  rintro ⟨htrue, _⟩
  cases h.symm.trans htrue

theorem handleSyscallResponse_of_not_pending
    {m : ByteMemory} {k : KkmKontext} (hpending : k.syscallPending = false) :
    kkmKontextHandleSyscallResponse m k = (0, k) := by
  refine if_neg ?_
  intro htrue
  cases hpending.symm.trans htrue

theorem startNewThread_syscallPending (k : KkmKontext) :
    (startNewThread k).syscallPending = k.syscallPending := by
  simp only [startNewThread, KkmKontext.setRegs]

/-- When no reply waits, a call returns before `begin` for `immediate_exit`
only. -/
theorem interrupted_of_not_pending
    {m : ByteMemory} {k : KkmKontext} (hpending : k.syscallPending = false)
    (hret : (kkmKontextSwitchKernelStart m k).1 ≠ 0) :
    kkmKontextSwitchKernelStart m k = (-eintr, k) := by
  by_cases himmediate : k.run.immediateExit = 1#8
  · exact if_pos himmediate
  · have hresponse := handleSyscallResponse_of_not_pending (m := m)
      ((startNewThread_syscallPending k).trans hpending)
    refine absurd ?_ hret
    simp only [kkmKontextSwitchKernelStart]
    rw [if_neg himmediate, hresponse]
    simp

/-- The call returns for `immediate_exit`. -/
theorem AnsweredInv.return_of_not_pending
    {s : AnsweredRun} (h : AnsweredInv s) (hphase : s.state.phase = .monitor)
    (hpending : s.state.kontext.syscallPending = false) :
    AnsweredInv { s with state := s.state.return (kkmSetRegs s.state.kontext) } := by
  by_cases hcall : s.call = none
  · have hold := h.noCall hcall
    refine ⟨?_, fun _ => ⟨hpending, hold.replies, ?_, fun hno => (by cases hno),
      fun hno => (by cases hno)⟩, ?_⟩
    · rintro (hno | hno)
      · exact absurd hcall hno
      · exact absurd rfl hno
    · -- what the run page gives has been taken over
      intro _
      have hclean : RegsClean (kkmGetRegs (kkmSetRegs s.state.kontext)) :=
        kkmSetRegs_clean s.state.kontext
      rw [← hold.waiting hphase]
      show regsLeft (startNewThread (kkmSetRegs
        (kkmGetRegs (kkmSetRegs s.state.kontext)))) = _
      rw [kkmSetRegs_of_clean hclean]
      rfl
    · intro regs hsome
      cases hcall.symm.trans hsome
  · have hrunning := h.running (Or.inl hcall)
    rw [kkmSetRegs_of_clean hrunning.clean]
    exact h.of_keeps hphase.symm ⟨⟨rfl, rfl, rfl⟩, rfl⟩ rfl
      (fun hno => absurd hno hcall) fun _ => rfl

/-- A start without a reply leaves the registers it resumes with. -/
theorem start_regs_of_not_pending
    {m : ByteMemory} {k : KkmKontext} (hpending : k.syscallPending = false)
    (hzero : (kkmKontextSwitchKernelStart m k).1 = 0) :
    (kkmKontextSwitchKernelStart m k).2.ga.regs = regsLeft (startNewThread k) := by
  have hresponse := handleSyscallResponse_of_not_pending (m := m)
    ((startNewThread_syscallPending k).trans hpending)
  simp only [kkmKontextSwitchKernelStart] at hzero ⊢
  split at hzero
  · cases hzero
  · rename_i himmediate
    rw [if_neg himmediate, hresponse]
    rfl

/-- The call reaches `begin`: what has been collected stays so. -/
theorem AnsweredInv.start_of_not_pending
    {s : AnsweredRun} (h : AnsweredInv s) (hphase : s.state.phase = .monitor)
    (hpending : s.state.kontext.syscallPending = false)
    (hzero : (kkmKontextSwitchKernelStart s.state.memory.user
      (kkmSetRegs s.state.kontext)).1 = 0) :
    AnsweredInv { s with
      state := { s.state with
        kontext := (kkmKontextSwitchKernelStart s.state.memory.user
          (kkmSetRegs s.state.kontext)).2
        phase := .begin } } := by
  have hrunning := running_of_start (kkmSetRegs_clean s.state.kontext) hzero
  have hstarted := kkmKontextSwitchKernelStart_started hzero
  refine ⟨fun _ => hrunning, ?_, ?_⟩
  · intro hcall
    have hold := h.noCall hcall
    refine ⟨hstarted.syscallPending, hold.replies, fun hno => (by cases hno), ?_,
      fun hno => (by cases hno)⟩
    intro _
    rw [← hold.waiting hphase]
    exact start_regs_of_not_pending (k := kkmSetRegs s.state.kontext) hpending hzero
  · intro regs hcall
    rcases h.call regs hcall with hwaits | ⟨v, hcollected⟩
    · cases hpending.symm.trans hwaits.syscallPending
    · have hold := h.running (Or.inl (by rw [hcall]; simp))
      have hnothing : NothingPending s.state.kontext s.state.kontext.ga.regs :=
        ⟨hpending, hold.exceptionPosted, rfl⟩
      have hregs := (nothingPending_start (m := s.state.memory.user) hnothing
        (fun _ => by simp [isCloneStart, hold.newThread])).regs
      refine Or.inr ⟨v, hstarted.syscallPending, hcollected.answer,
        hcollected.replies, ?_, ?_⟩
      · intro _
        rw [kkmSetRegs_of_clean hold.clean]
        exact hregs.trans (hcollected.waiting (by rw [hphase]; decide))
      · intro hno
        cases hno

/-- `KKM_RUN` when no reply waits. -/
theorem AnsweredInv.run_of_not_pending
    {s : AnsweredRun} (h : AnsweredInv s) (hphase : s.state.phase = .monitor)
    (hpending : s.state.kontext.syscallPending = false) :
    AnsweredInv { s with
      state := s.state.run
      replies := (collectedReply s.state).toList ++ s.replies } := by
  rw [collectedReply_of_not_pending hpending]
  rcases s.state.run_cases with ⟨hret, hrun⟩ | ⟨hzero, hrun⟩
  · have hpending' : (kkmSetRegs s.state.kontext).syscallPending = false := hpending
    rw [hrun, interrupted_of_not_pending hpending' hret]
    exact h.return_of_not_pending hphase hpending
  · rw [hrun]
    exact h.start_of_not_pending hphase hpending hzero

/-- `KKM_RUN` when a reply waits that the monitor has given. -/
theorem AnsweredInv.run_of_pending
    {s : AnsweredRun} (h : AnsweredInv s) {regs : KkmRegs}
    (hcall : s.call = some regs) (hwaits : ReplyWaits s regs)
    (hanswer : s.state.kontext.run.immediateExit ≠ 1#8 → s.answer ≠ none) :
    AnsweredInv { s with
      state := s.state.run
      replies := (collectedReply s.state).toList ++ s.replies } := by
  have hold := h.running (Or.inl (by rw [hcall]; simp))
  have hk : kkmSetRegs s.state.kontext = s.state.kontext :=
    kkmSetRegs_of_clean hold.clean
  by_cases himmediate : s.state.kontext.run.immediateExit = 1#8
  · have hstart : kkmKontextSwitchKernelStart s.state.memory.user s.state.kontext =
        (-eintr, s.state.kontext) := if_pos himmediate
    have hreply : collectedReply s.state = none := by
      simp only [collectedReply, hk, hstart]
      exact if_neg fun hno => absurd (hno.1.symm.trans hno.2) (by decide)
    have hrun : s.state.run = s.state.return s.state.kontext := by
      simp only [RunState.run, hk, hstart]
      rfl
    rw [hreply, hrun]
    exact h.of_keeps hwaits.phase.symm ⟨⟨rfl, rfl, rfl⟩, rfl⟩ rfl
      (fun hno => (by cases hcall.symm.trans hno)) fun _ => rfl
  · obtain ⟨v, hv⟩ := Option.ne_none_iff_exists'.mp (hanswer himmediate)
    have hread := hwaits.answer v hv
    obtain ⟨hzero, hregs⟩ := start_of_reply hold.newThread hold.exceptionPosted
      hwaits.syscallPending himmediate hread
    have hreply : collectedReply s.state = some v := by
      simp only [collectedReply, hk, hregs]
      exact if_pos ⟨hwaits.syscallPending,
        (kkmKontextSwitchKernelStart_started hzero).syscallPending⟩
    have hrun : s.state.run =
        { s.state with
          kontext := (kkmKontextSwitchKernelStart s.state.memory.user
            s.state.kontext).2
          phase := .begin } := by
      rcases s.state.run_cases with ⟨hret, _⟩ | ⟨_, hrun⟩
      · rw [hk] at hret
        exact absurd hzero hret
      · rw [hk] at hrun
        exact hrun
    rw [hreply, hrun]
    refine ⟨fun _ => running_of_start hold.clean hzero, ?_, ?_⟩
    · intro hnone
      cases hcall.symm.trans hnone
    · intro regs' hcall'
      have heq : regs' = regs := Option.some.inj (hcall'.symm.trans hcall)
      subst heq
      refine Or.inr ⟨v, (kkmKontextSwitchKernelStart_started hzero).syscallPending,
        hv, ?_, ?_, ?_⟩
      · simp [hwaits.replies]
      · intro _
        refine hregs.trans ?_
        rw [hwaits.regs]
        simp only [aboveHcArgs_hcArgsGva]
      · intro hno
        cases hno

theorem keepsPending_signalExit (k : KkmKontext) :
    KeepsPending k (kkmGetRegs (signalExit k)) :=
  ⟨⟨rfl, rfl, rfl⟩, rfl⟩

theorem keepsPending_enterPayload (e : EntryCpu) (k : KkmKontext) :
    KeepsPending k (enterPayload e k) :=
  ⟨⟨rfl, rfl, rfl⟩, rfl⟩

theorem AnsweredInv.begin
    {s : AnsweredRun} (h : AnsweredInv s) (signal : Bool) (e : EntryCpu)
    (hphase : s.state.phase = .begin) :
    AnsweredInv { s with state := s.state.begin signal e } := by
  have hold := h.running (Or.inr (by rw [hphase]; decide))
  have hcollected : ∀ regs, s.call = some regs → ∃ v, ReplyCollected s regs v := by
    intro regs hcall
    rcases h.call regs hcall with hwaits | hcollected
    · cases hwaits.phase.symm.trans hphase
    · exact hcollected
  cases signal with
  | true =>
      have hsignal := hold.of_keeps (keepsPending_signalExit _)
      refine ⟨fun _ => hsignal, ?_, ?_⟩
      · intro hcall
        have hnone := h.noCall hcall
        refine ⟨hnone.syscallPending, hnone.replies, ?_, fun hno => (by cases hno),
          fun hno => (by cases hno)⟩
        intro _
        rw [← hnone.begun hphase]
        exact (regsResumed_of_started hsignal.newThread hsignal.clean).trans
          (regsLeft_of_not_posted hsignal.exceptionPosted)
      intro regs hcall
      obtain ⟨v, hcollected⟩ := hcollected regs hcall
      refine Or.inr ⟨v, hcollected.syscallPending, hcollected.answer,
        hcollected.replies, ?_, ?_⟩
      · intro _
        exact hcollected.waiting (by rw [hphase]; decide)
      · intro hno
        cases hno
  | false =>
      refine ⟨fun _ => hold.of_keeps (keepsPending_enterPayload e _), ?_, ?_⟩
      · intro hcall
        have hnone := h.noCall hcall
        refine ⟨hnone.syscallPending, hnone.replies, fun hno => (by cases hno),
          fun hno => (by cases hno), ?_⟩
        intro _
        refine (enterPayload_regs e s.state.kontext).trans ?_
        rw [hnone.begun hphase]
        rfl
      intro regs hcall
      obtain ⟨v, hcollected⟩ := hcollected regs hcall
      have hregs := hcollected.waiting (by rw [hphase]; decide)
      refine Or.inr ⟨v, hcollected.syscallPending, hcollected.answer,
        hcollected.replies, fun hno => absurd rfl hno, ?_⟩
      intro _
      refine (enterPayload_regs e s.state.kontext).trans ?_
      rw [hregs]
      rfl

/-- The ends of `RunState.exit`, given what the handler returns. -/
theorem RunState.exit_cases
    (kkm : Kkm) (e : PayloadExit) (a : ExitAnswers) (user : ByteMemory) (s : RunState) :
    let r := kkmProcessIntr cfg kkm a (leavePayload e s.kontext)
      { s.memory with user := user }
    let s' := s.exit cfg kkm e a user
    (s'.phase = .monitor ∧ (s'.kontext = kkmGetRegs r.2.1 ∨
        s'.kontext = kkmGetRegs (countTrap r.2.1).2) ∧
        (r.1 ≠ kkmKontextFaultProcessDone → s'.kontext = kkmGetRegs r.2.1)) ∨
      (r.1 = kkmKontextFaultProcessDone ∧ s'.phase = .begin ∧
        s'.kontext = (countTrap r.2.1).2) := by
  intro r s'
  by_cases hdone : r.1 = kkmKontextFaultProcessDone
  · by_cases hcount : (countTrap r.2.1).1 = 0
    · have hs' : s' = { s with
          kontext := (countTrap r.2.1).2, memory := r.2.2, phase := .begin } := by
        simp only [s', RunState.exit]
        rw [if_pos hdone, if_neg (not_not.mpr hcount)]
      rw [hs']
      exact Or.inr ⟨hdone, rfl, rfl⟩
    · refine Or.inl ?_
      have hs' : s' = RunState.return { s with memory := r.2.2 } (countTrap r.2.1).2 := by
        simp only [s', RunState.exit]
        rw [if_pos hdone, if_pos hcount]
      rw [hs']
      exact ⟨rfl, Or.inr rfl, fun hno => absurd hdone hno⟩
  · refine Or.inl ?_
    have hs' : s' = RunState.return { s with memory := r.2.2 } r.2.1 := by
      simp only [s', RunState.exit]
      rw [if_neg hdone]
    rw [hs']
    exact ⟨rfl, Or.inl rfl, fun _ => rfl⟩

theorem keepsPending_leavePayload (e : PayloadExit) (k : KkmKontext) :
    KeepsPending k (leavePayload e k) :=
  ⟨⟨rfl, rfl, rfl⟩, rfl⟩

theorem keepsPending_kkmGetRegs (k : KkmKontext) : KeepsPending k (kkmGetRegs k) :=
  ⟨⟨rfl, rfl, rfl⟩, rfl⟩

theorem regsLeft_countTrap (k : KkmKontext) :
    regsLeft (countTrap k).2 = regsLeft k := by
  unfold countTrap
  split
  · simp only
    split
    · rfl
    · rfl
  · rfl

theorem keepsPending_countTrap (k : KkmKontext) : KeepsPending k (countTrap k).2 := by
  unfold countTrap
  split
  · simp only
    split
    · exact ⟨⟨rfl, rfl, rfl⟩, rfl⟩
    · exact ⟨⟨rfl, rfl, rfl⟩, rfl⟩
  · exact ⟨⟨rfl, rfl, rfl⟩, rfl⟩

/-- An exit that is not a successful system call leaves no reply to collect. -/
theorem answeredInv_of_other_exit
    {kkm : Kkm} {e : PayloadExit} {a : ExitAnswers} {user : ByteMemory} {s : RunState}
    {r : Int × KkmKontext × RunMemory}
    (hr : kkmProcessIntr cfg kkm a (leavePayload e s.kontext)
      { s.memory with user := user } = r)
    (hrunning : Running s.kontext) (hpending : s.kontext.syscallPending = false)
    (hcall : KeepsCall (leavePayload e s.kontext) r.2.1)
    (hdone : r.1 = kkmKontextFaultProcessDone →
      KeepsPending (leavePayload e s.kontext) r.2.1) :
    AnsweredInv ⟨s.exit cfg kkm e a user, none, none, [], regsLeft r.2.1⟩ := by
  subst hr
  rcases RunState.exit_cases cfg kkm e a user s with
    ⟨hphase, hkontext, _⟩ | ⟨hret, hkontext⟩
  · -- back in the monitor
    have hkeeps : KeepsCall s.kontext (s.exit cfg kkm e a user).kontext ∧
        regsLeft (s.exit cfg kkm e a user).kontext =
          regsLeft (kkmProcessIntr cfg kkm a (leavePayload e s.kontext)
            { s.memory with user := user }).2.1 := by
      have hleave := (keepsPending_leavePayload e s.kontext).toKeepsCall.trans hcall
      rcases hkontext with hkontext | hkontext
      · rw [hkontext]
        exact ⟨hleave.trans (keepsPending_kkmGetRegs _).toKeepsCall, rfl⟩
      · rw [hkontext]
        exact ⟨(hleave.trans (keepsPending_countTrap _).toKeepsCall).trans
          (keepsPending_kkmGetRegs _).toKeepsCall, regsLeft_countTrap _⟩
    obtain ⟨hkeeps, hleft⟩ := hkeeps
    have hresumed := regsResumed_of_started (hkeeps.newThread.trans hrunning.newThread)
      (regsClean_of_dirty hrunning.clean hkeeps.dirty)
    refine ⟨?_, fun _ => ⟨hkeeps.syscallPending.trans hpending, rfl,
      fun _ => hresumed.trans hleft, ?_, ?_⟩, fun regs hno => by cases hno⟩
    · rintro (hno | hno)
      · exact absurd rfl hno
      · exact absurd hphase hno
    · intro hno
      cases hphase.symm.trans hno
    · intro hno
      cases hphase.symm.trans hno
  · -- back at `begin`
    obtain ⟨hbegin, hkontext⟩ := hkontext
    have hkeeps := ((keepsPending_leavePayload e s.kontext).trans
      (hdone hret)).trans (keepsPending_countTrap _)
    have hleft := regsLeft_countTrap (kkmProcessIntr cfg kkm a
      (leavePayload e s.kontext) { s.memory with user := user }).2.1
    rw [← hkontext] at hkeeps hleft
    have hnow := hrunning.of_keeps hkeeps
    refine ⟨fun _ => hnow, fun _ => ⟨hkeeps.syscallPending.trans hpending, rfl, ?_, ?_,
      ?_⟩, fun regs hno => by cases hno⟩
    · intro hno
      cases hbegin.symm.trans hno
    · intro _
      exact (regsLeft_of_not_posted hnow.exceptionPosted).symm.trans hleft
    · intro hno
      cases hbegin.symm.trans hno

theorem AnsweredInv.exit
    {s : AnsweredRun} (h : AnsweredInv s) (hphase : s.state.phase = .payload)
    (kkm : Kkm) (e : PayloadExit) (a : ExitAnswers) (user : ByteMemory) :
    AnsweredInv ⟨s.state.exit cfg kkm e a user,
      exitCall cfg kkm e a user s.state, none, [], exitRegs cfg kkm e a user s.state⟩ := by
  have hrunning := h.running (Or.inr (by rw [hphase]; decide))
  have hpending : s.state.kontext.syscallPending = false := by
    cases hcall : s.call with
    | none => exact (h.noCall hcall).syscallPending
    | some regs =>
        rcases h.call regs hcall with hwaits | ⟨v, hcollected⟩
        · cases hwaits.phase.symm.trans hphase
        · exact hcollected.syscallPending
  let memory : RunMemory := { s.state.memory with user := user }
  by_cases hintr : e.intrNo = kkmIntrSyscall
  · have hintr' : (leavePayload e s.state.kontext).ga.intrNo = kkmIntrSyscall := hintr
    rcases kkmProcessIntr_syscall cfg kkm a memory hintr' with
      ⟨hzero, hcall⟩ | ⟨hfault, hkeeps⟩
    · -- the system call exits successfully
      have hexit : exitCall cfg kkm e a user s.state = some e.regs :=
        if_pos ⟨hintr, hzero⟩
      have hne : (kkmProcessIntr cfg kkm a (leavePayload e s.state.kontext)
          memory).1 ≠ kkmKontextFaultProcessDone := by
        rw [hzero]
        decide
      rw [hexit]
      rcases RunState.exit_cases cfg kkm e a user s.state with
        ⟨hmonitor, _, hkontext⟩ | ⟨hret, _⟩
      · have hkontext := hkontext hne
        refine ⟨fun _ => ?_, fun hno => (by cases hno), ?_⟩
        · rw [hkontext]
          exact ⟨hcall.newThread.trans hrunning.newThread,
            hcall.exceptionPosted.trans hrunning.exceptionPosted,
            regsClean_of_dirty hrunning.clean hcall.dirty⟩
        · rintro regs ⟨⟩
          refine Or.inl ⟨hmonitor, ?_, rfl, ?_, fun v hno => by cases hno⟩
          · rw [hkontext]
            exact hcall.syscallPending
          · rw [hkontext]
            exact hcall.regs
      · exact absurd hret hne
    · have hexit : exitCall cfg kkm e a user s.state = none := by
        refine if_neg ?_
        rintro ⟨_, hzero⟩
        cases hfault.symm.trans hzero
      rw [hexit]
      exact answeredInv_of_other_exit cfg rfl hrunning hpending
        hkeeps.toKeepsCall fun _ => hkeeps
  · have hexit : exitCall cfg kkm e a user s.state = none :=
      if_neg fun hno => hintr hno.1
    rw [hexit]
    have hintr' : (leavePayload e s.state.kontext).ga.intrNo ≠ kkmIntrSyscall := hintr
    obtain ⟨hcall, hdone⟩ := kkmProcessIntr_of_ne_syscall cfg kkm a memory hintr'
    exact answeredInv_of_other_exit cfg rfl hrunning hpending hcall hdone

theorem answeredInv_step
    (s : AnsweredRun) (event : AnswerEvent) (h : AnsweredInv s)
    (hguard : MonitorAnswers s event) :
    AnsweredInv (answeredStep cfg s event) := by
  cases event with
  | immediateExit flag =>
      exact h.of_keeps rfl ⟨⟨rfl, rfl, rfl⟩, rfl⟩ rfl (fun _ => rfl) fun _ => rfl
  | answer v => exact h.answer cfg v
  | memory memory =>
      exact h.of_keeps rfl ⟨⟨rfl, rfl, rfl⟩, rfl⟩ rfl (fun _ => rfl) hguard
  | run =>
      simp only [answeredStep]
      split
      · rename_i hphase
        by_cases hpending : s.state.kontext.syscallPending = true
        · cases hcall : s.call with
          | none => cases (h.noCall hcall).syscallPending.symm.trans hpending
          | some regs =>
              rcases h.call regs hcall with hwaits | ⟨v, hcollected⟩
              · have hrun := h.run_of_pending hcall hwaits
                  (hguard hphase hpending)
                rw [hcall] at hrun
                exact hrun
              · cases hcollected.syscallPending.symm.trans hpending
        · exact h.run_of_not_pending hphase (Bool.eq_false_iff.mpr hpending)
      · exact h
  | begin signal e =>
      simp only [answeredStep]
      split
      · rename_i hphase
        exact h.begin signal e hphase
      · exact h
  | exit kkm e a user =>
      simp only [answeredStep]
      split
      · rename_i hphase
        exact h.exit cfg hphase kkm e a user
      · exact h

/-! ## Every run -/

/-- A kontext with which no system call is pending. -/
def notCalled (state : RunState) : AnsweredRun :=
  ⟨state, none, none, [], regsResumed state.kontext⟩

/-- Every system call that exits successfully is answered once before the payload
is entered again, with the registers it had and the reply in RAX; after another
exit no reply is collected, and the payload is entered with the registers that the
exit has left. -/
theorem calls_answered_once
    {state : RunState} {events : List AnswerEvent}
    (hphase : state.phase = .monitor)
    (hpending : state.kontext.syscallPending = false)
    (hmonitor : EveryStep (answeredStep cfg) MonitorAnswers
      (notCalled state) events) :
    EveryState (answeredStep cfg) EntryAnswered (notCalled state) events := by
  have hinit : AnsweredInv (notCalled state) := by
    refine ⟨?_, fun _ => ⟨hpending, rfl, fun _ => rfl, ?_, ?_⟩,
      fun regs hno => by cases hno⟩
    · rintro (hno | hno)
      · exact absurd rfl hno
      · exact absurd hphase hno
    · intro hno
      cases hphase.symm.trans hno
    · intro hno
      cases hphase.symm.trans hno
  have hinv := everyState_of_everyStep (answeredInv_step cfg) hinit hmonitor
  exact hinv.mono fun _ h => h.entryAnswered

/-- `getpid` from the payload of a new kontext, answered with 7 after an
interrupted call. -/
theorem calls_answered_once_getpid :
    let ga := { KkmGuestArea.zeroed with
      sregs := { KkmSregs.zeroed with
        gs := { KkmSegment.zeroed with base := 0x300000#64 } } }
    let state : RunState :=
      ⟨{ KkmKontext.zeroed with newThread := true, ga := ga },
        ⟨fun _ => some 0#8, fun _ => 0#64⟩, .monitor⟩
    let call : PayloadExit := ⟨{ KkmRegs.zeroed with rax := 39, rsp := 0x400000#64 },
      0, userCs, userDs, kkmIntrSyscall, 0, 0, 0, 0, 0, fun _ => 0, fun _ => 0⟩
    let events : List AnswerEvent :=
      [.run, .begin false ⟨0, 0⟩,
        .exit .zeroed call ⟨0, ⟨false, 0, fun _ => 0⟩, ⟨false, fun _ => 0⟩⟩
          fun _ => some 0#8,
        .immediateExit 1, .run, .answer 7, .immediateExit 0, .run,
        .begin false ⟨0, 0⟩]
    EveryState (answeredStep .stock) EntryAnswered (notCalled state) events ∧
      (events.foldl (answeredStep .stock) (notCalled state)).replies = [7] := by
  intro ga state call events
  refine ⟨calls_answered_once .stock rfl rfl ?_, by decide +kernel⟩
  refine ⟨?_, trivial, trivial, trivial, ?_, trivial, trivial, ?_, trivial, trivial⟩
  · intro _ hpending
    cases hpending
  · intro _ _ himmediate
    exact absurd (by decide +kernel) himmediate
  · intro _ _ _
    decide +kernel

end AnsweredRun

end Driver
end KkmModule
