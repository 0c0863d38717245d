import KkmModule.Driver.KontextIoctls
import KkmModule.Foundation.GuardedRun

/-!
# Saving and restoring around a signal handler

The monitor saves what is pending, sets the registers of a handler, runs it, and
restores the record later.  `saved_run` says that the record restores all of it
after any activity, and that the first entry after the save takes place with the
registers the monitor last set, if no call of `KKM_RUN` in between starts a
cloned thread.  Their flags are those every payload is started with.

`handler_of_unstarted_thread` is such a call: `kkm_kontext_get_save_info` clears
every flag that the next run acts on except `new_thread`.
-/

namespace KkmModule
namespace Driver

open Foundation

section SavedRun

variable (cfg : KkmConfig) (crc32 : List (BitVec 8) → BitVec 32)

/-- A run after `KKM_KONTEXT_GET_SAVE_INFO`. -/
structure SavedRun where
  state : RunState
  /-- the registers the monitor last set -/
  lastSet : KkmRegs
  /-- the kontext as its payload is first entered -/
  entered : Option KkmKontext

/-- The registers that an event sets: by `KKM_SET_REGS`, or in the run page. -/
def regsSetBy (s : RunState) : KontextEvent → Option KkmRegs
  | .ioctl (.setRegs copy) =>
      if s.phase = .monitor then some copy.value else none
  | .run =>
      if s.phase = .monitor ∧ s.kontext.run.kkmDirtyRegs &&& kkmSyncX86Regs ≠ 0
      then some s.kontext.run.regs else none
  | _ => none

/-- The kontext of a payload that a step enters. -/
def kontextEntered (s s' : RunState) : Option KkmKontext :=
  if s.phase ≠ .payload ∧ s'.phase = .payload then some s'.kontext else none

/-- After the first entry the two records stay as they are. -/
def savedStep (s : SavedRun) (event : KontextEvent) : SavedRun :=
  let state := runStep cfg crc32 s.state event
  if s.entered = none then
    ⟨state, (regsSetBy s.state event).getD s.lastSet, kontextEntered s.state state⟩
  else { s with state := state }

/-- The state after a successful `KKM_KONTEXT_GET_SAVE_INFO`. -/
def savedAt (s : RunState) : SavedRun :=
  ⟨runStep cfg crc32 s (.ioctl (.getSaveInfo false)), s.kontext.ga.regs, none⟩

/-- The first entry takes place with the registers the monitor last set, and with
their flags too if those are what a payload is started with. -/
def EntersAsSet (s : SavedRun) : Prop :=
  ∀ kontext, s.entered = some kontext →
    kontext.ga.regs = payloadRegs kontext.ga.debug s.lastSet ∧
      (kontext.ga.regs = s.lastSet ↔
        payloadRflags kontext.ga.debug s.lastSet.rflags = s.lastSet.rflags)

/-- Before the first entry nothing is restored, and no call that gets past
`immediate_exit` starts a cloned thread. -/
def NoRestoreNoCloneStart (s : SavedRun) (event : KontextEvent) : Prop :=
  s.entered = none → s.state.phase = .monitor →
    match event with
    | .ioctl (.setSaveInfo copy) => copy.failed = true
    | .run =>
        s.state.kontext.run.immediateExit ≠ 1#8 →
          isCloneStart s.state.kontext = false
    | _ => True

/-! ## Nothing is pending until the payload is entered -/

/-- The next run has nothing to do to the registers. -/
structure NothingPending (kontext : KkmKontext) (regs : KkmRegs) : Prop where
  syscallPending : kontext.syscallPending = false
  exceptionPosted : kontext.exceptionPosted = false
  regs : kontext.ga.regs = regs

theorem nothingPending_kkmSetRegs
    {kontext : KkmKontext} {regs : KkmRegs} (h : NothingPending kontext regs) :
    NothingPending (kkmSetRegs kontext)
      (if kontext.run.kkmDirtyRegs &&& kkmSyncX86Regs ≠ 0 then kontext.run.regs
        else regs) := by
  obtain ⟨hpending, hposted, hregs⟩ := h
  exact ⟨hpending, hposted, by rw [← hregs]; rfl⟩

/-- The registers of a thread that is not started by clone stay as they are. -/
theorem startNewThread_regs_iff (kontext : KkmKontext) :
    (startNewThread kontext).ga.regs = kontext.ga.regs ↔
      isCloneStart kontext = false := by
  cases hclone : isCloneStart kontext with
  | false => simp [startNewThread, KkmKontext.setRegs, hclone]
  | true =>
      have hne : aboveHcArgs kontext.ga.regs.rsp ≠ kontext.ga.regs.rsp := by
        simp only [aboveHcArgs, sizeofKkmHcArgs, kkmAbiRedzone]
        bv_omega
      simp only [startNewThread, KkmKontext.setRegs, hclone, if_true, reduceCtorEq,
        iff_false]
      intro hregs
      exact hne (congrArg KkmRegs.rsp hregs)

/-- With nothing pending only the start of a thread changes registers. -/
theorem start_of_nothingPending
    {m : ByteMemory} {kontext : KkmKontext} {regs : KkmRegs}
    (h : NothingPending kontext regs)
    (himmediate : kontext.run.immediateExit ≠ 1#8) :
    kkmKontextSwitchKernelStart m kontext =
      (0, forgetTrap (restoreException (startNewThread kontext))) ∧
      (restoreException (startNewThread kontext)).ga.regs =
        (startNewThread kontext).ga.regs := by
  have hresponse : kkmKontextHandleSyscallResponse m (startNewThread kontext) =
      (0, startNewThread kontext) := by
    refine if_neg ?_
    intro htrue
    cases h.syscallPending.symm.trans htrue
  constructor
  · simp only [kkmKontextSwitchKernelStart, if_neg himmediate, hresponse]
    simp
  · refine if_neg ?_
    intro htrue
    cases h.exceptionPosted.symm.trans htrue

theorem nothingPending_start
    {m : ByteMemory} {kontext : KkmKontext} {regs : KkmRegs}
    (h : NothingPending kontext regs)
    (hclone : kontext.run.immediateExit ≠ 1#8 → isCloneStart kontext = false) :
    NothingPending (kkmKontextSwitchKernelStart m kontext).2 regs := by
  by_cases himmediate : kontext.run.immediateExit = 1#8
  · simp only [kkmKontextSwitchKernelStart, if_pos himmediate]
    exact h
  · obtain ⟨hstart, hrestore⟩ := start_of_nothingPending (m := m) h himmediate
    have hnew := (startNewThread_regs_iff kontext).mpr (hclone himmediate)
    rw [hstart]
    exact ⟨h.syscallPending, rfl, hrestore.trans (hnew.trans h.regs)⟩

/-- A request other than a restore leaves nothing pending. -/
theorem nothingPending_ioctl
    {request : KontextIoctl} {s : RunState} {regs : KkmRegs}
    (h : NothingPending s.kontext regs) (hphase : s.phase = .monitor)
    (hrestore : ∀ copy, request = .setSaveInfo copy → copy.failed = true) :
    NothingPending (kkmExecutionKontextIoctl cfg crc32 request s.kontext).2.2
      ((regsSetBy s (.ioctl request)).getD regs) := by
  obtain ⟨hpending, hposted, hregs⟩ := h
  cases request with
  | setRegs copy =>
      simp only [regsSetBy, if_pos hphase]
      exact ⟨hpending, hposted, rfl⟩
  | reuse => exact ⟨rfl, rfl, hregs⟩
  | getSaveInfo failed => exact ⟨rfl, rfl, hregs⟩
  | setSaveInfo copy =>
      have hfailed := hrestore copy rfl
      simp only [kkmExecutionKontextIoctl, if_pos hfailed]
      exact ⟨hpending, hposted, hregs⟩
  | setXstate copy =>
      simp only [kkmExecutionKontextIoctl, kkmKontextSetXstate]
      split
      · exact ⟨hpending, hposted, hregs⟩
      · split
        · exact ⟨hpending, hposted, hregs⟩
        · split
          · exact ⟨hpending, hposted, hregs⟩
          · exact ⟨hpending, hposted, hregs⟩
  | _ => exact ⟨hpending, hposted, hregs⟩

/-- What holds between the save and the first entry. -/
structure SavedInv (s : SavedRun) : Prop where
  waiting : s.entered = none →
    NothingPending s.state.kontext s.lastSet ∧ s.state.phase ≠ .payload
  entersAsSet : EntersAsSet s

/-! ## One step -/

/-- The part of `SavedInv` about the state before the first entry. -/
def Waiting (s : RunState) (regs : KkmRegs) : Prop :=
  NothingPending s.kontext regs ∧ s.phase ≠ .payload

theorem waiting_return
    {s : RunState} {kontext : KkmKontext} {regs : KkmRegs}
    (h : NothingPending kontext regs) :
    Waiting (s.return kontext) regs :=
  ⟨⟨h.syscallPending, h.exceptionPosted, h.regs⟩, by simp [RunState.return]⟩

theorem waiting_run
    {s : RunState} {regs : KkmRegs} (h : NothingPending s.kontext regs)
    (hphase : s.phase = .monitor)
    (hclone : s.kontext.run.immediateExit ≠ 1#8 →
      isCloneStart s.kontext = false) :
    Waiting s.run ((regsSetBy s .run).getD regs) := by
  have hset : (regsSetBy s .run).getD regs =
      if s.kontext.run.kkmDirtyRegs &&& kkmSyncX86Regs ≠ 0 then s.kontext.run.regs
      else regs := by
    simp only [regsSetBy, hphase, true_and]
    split
    · rfl
    · rfl
  have hstart := nothingPending_start (m := s.memory.user)
    (nothingPending_kkmSetRegs h) hclone
  rw [hset]
  unfold RunState.run
  split
  rename_i ret kontext heq
  rw [heq] at hstart
  split
  · exact waiting_return hstart
  · exact ⟨hstart, by simp⟩

theorem payloadRegs_eq_iff (debug : KkmDebug) (regs : KkmRegs) :
    payloadRegs debug regs = regs ↔ payloadRflags debug regs.rflags = regs.rflags := by
  constructor
  · intro h
    exact congrArg KkmRegs.rflags h
  · intro h
    rw [payloadRegs, h]

/-- A step to a state that still waits enters nothing. -/
theorem savedInv_of_waiting
    (before : RunState) {state : RunState} {regs : KkmRegs} (h : Waiting state regs) :
    SavedInv ⟨state, regs, kontextEntered before state⟩ := by
  have hnone : kontextEntered before state = none := if_neg fun hno => h.2 hno.2
  rw [hnone]
  exact ⟨fun _ => h, fun kontext hno => by cases hno⟩

theorem waiting_ioctl
    {request : KontextIoctl} {s : RunState} {regs : KkmRegs} (h : Waiting s regs)
    (hrestore : s.phase = .monitor →
      ∀ copy, request = .setSaveInfo copy → copy.failed = true) :
    Waiting (runStep cfg crc32 s (.ioctl request))
      ((regsSetBy s (.ioctl request)).getD regs) := by
  obtain ⟨hpending, hpayload⟩ := h
  by_cases hphase : s.phase = .monitor
  · simp only [runStep, if_pos hphase]
    exact ⟨nothingPending_ioctl cfg crc32 hpending hphase (hrestore hphase), hpayload⟩
  · have hset : regsSetBy s (.ioctl request) = none := by
      cases request with
      | setRegs copy => exact if_neg hphase
      | _ => rfl
    simp only [runStep, if_neg hphase, hset]
    exact ⟨hpending, hpayload⟩

/-- The payload is entered with the registers last set. -/
theorem savedInv_begin
    {state : RunState} {regs : KkmRegs} (h : Waiting state regs) (e : EntryCpu) :
    SavedInv ⟨state.begin false e, regs,
      kontextEntered state (state.begin false e)⟩ := by
  obtain ⟨hpending, hpayload⟩ := h
  have hentry : kontextEntered state (state.begin false e) =
      some (enterPayload e state.kontext) := if_pos ⟨hpayload, rfl⟩
  rw [hentry]
  refine ⟨fun hno => (by cases hno), ?_⟩
  rintro kontext ⟨⟩
  have hregs : (enterPayload e state.kontext).ga.regs =
      payloadRegs state.kontext.ga.debug regs := by
    rw [enterPayload_regs, hpending.regs]
    rfl
  exact ⟨hregs, hregs ▸ payloadRegs_eq_iff _ _⟩

/-- A step before the first entry: either nothing is entered, or the payload is
entered with the registers last set. -/
theorem savedInv_waiting
    {s : SavedRun} {event : KontextEvent}
    (hentered : s.entered = none) (hwaiting : Waiting s.state s.lastSet)
    (hguard : NoRestoreNoCloneStart s event) :
    SavedInv (savedStep cfg crc32 s event) := by
  have hguard := hguard hentered
  have ⟨hpending, hpayload⟩ := hwaiting
  unfold savedStep
  rw [if_pos hentered]
  cases event with
  | ioctl request =>
      refine savedInv_of_waiting _ (waiting_ioctl cfg crc32 hwaiting ?_)
      rintro hphase copy rfl
      exact hguard hphase
  | writeRunPage run =>
      exact savedInv_of_waiting _
        ⟨⟨hpending.1, hpending.2, hpending.3⟩, hpayload⟩
  | writePrivateArea area =>
      exact savedInv_of_waiting _
        ⟨⟨hpending.1, hpending.2, hpending.3⟩, hpayload⟩
  | memory memory => exact savedInv_of_waiting _ ⟨hpending, hpayload⟩
  | run =>
      refine savedInv_of_waiting _ ?_
      by_cases hphase : s.state.phase = .monitor
      · simp only [runStep, if_pos hphase]
        exact waiting_run hpending hphase (hguard hphase)
      · simp only [runStep, regsSetBy, hphase, if_false, false_and]
        exact ⟨hpending, hpayload⟩
  | begin signal e =>
      by_cases hphase : s.state.phase = .begin
      · simp only [runStep, if_pos hphase]
        cases signal with
        | true =>
            exact savedInv_of_waiting _ (waiting_return
              ⟨hpending.1, hpending.2, hpending.3⟩)
        | false => exact savedInv_begin ⟨hpending, hpayload⟩ e
      · simp only [runStep, if_neg hphase]
        exact savedInv_of_waiting _ ⟨hpending, hpayload⟩
  | exit kkm e a user =>
      simp only [runStep, if_neg hpayload]
      exact savedInv_of_waiting _ ⟨hpending, hpayload⟩

theorem savedInv_step
    (s : SavedRun) (event : KontextEvent) (h : SavedInv s)
    (hguard : NoRestoreNoCloneStart s event) :
    SavedInv (savedStep cfg crc32 s event) := by
  by_cases hentered : s.entered = none
  · exact savedInv_waiting cfg crc32 hentered (h.waiting hentered) hguard
  · unfold savedStep
    rw [if_neg hentered]
    exact ⟨fun hnone => absurd hnone hentered, h.entersAsSet⟩

theorem savedInv_savedAt {s : RunState} (hphase : s.phase = .monitor) :
    SavedInv (savedAt cfg crc32 s) := by
  refine ⟨fun _ => ?_, fun regs hregs => by cases hregs⟩
  simp only [savedAt, runStep, if_pos hphase]
  exact ⟨⟨rfl, rfl, rfl⟩, by simp [hphase]⟩

/-! ## Every run -/

/-- The record restores what was pending, whatever has happened since the save;
and while no call starts a cloned thread, the payload is first entered with the
registers the monitor last set, their flags being those of every payload. -/
theorem saved_run (s : RunState) (hphase : s.phase = .monitor) :
    (kkmExecutionKontextIoctl cfg crc32 (.getSaveInfo false) s.kontext).2.1 =
        .saveInfo s.kontext.saveInfo ∧
      (∀ events : List KontextEvent,
        let later := events.foldl (runStep cfg crc32) (savedAt cfg crc32 s).state
        later.phase = .monitor →
          (runStep cfg crc32 later
            (.ioctl (.setSaveInfo ⟨false, s.kontext.saveInfo⟩))).kontext.saveInfo =
              s.kontext.saveInfo) ∧
      ∀ events : List KontextEvent,
        EveryStep (savedStep cfg crc32) NoRestoreNoCloneStart
            (savedAt cfg crc32 s) events →
          EveryState (savedStep cfg crc32) EntersAsSet
            (savedAt cfg crc32 s) events := by
  refine ⟨rfl, ?_, ?_⟩
  · intro events later hlater
    simp only [runStep, if_pos hlater]
    exact saveInfo_kkmKontextSetSaveInfo _ _
  · intro events hguard
    have hinv := everyState_of_everyStep (savedInv_step cfg crc32)
      (savedInv_savedAt cfg crc32 hphase) hguard
    exact hinv.mono fun _ h => h.entersAsSet

/-- A thread with a pending reply is saved, and a handler is run. -/
theorem saved_run_handler :
    let k := { KkmKontext.zeroed with
      syscallPending := true, retValMva := 0x1000#64, exceptionPosted := true }
    let s : RunState := ⟨k, ⟨fun _ => some 0#8, fun _ => 0#64⟩, .monitor⟩
    let events : List KontextEvent :=
      [.ioctl (.setRegs ⟨false,
          { KkmRegs.zeroed with rsp := 0x8000#64, rflags := 0x10202#64 }⟩), .run,
        .begin false ⟨0, 0⟩]
    EveryState (savedStep .stock fun _ => 0) EntersAsSet
      (savedAt .stock (fun _ => 0) s) events := by
  intro k s events
  refine (saved_run .stock (fun _ => 0) s rfl).2.2 events ⟨?_, ?_, ?_, trivial⟩
  · exact fun _ _ => trivial
  · exact fun _ _ _ => rfl
  · exact fun _ _ => trivial

/-- A cloned thread that has not run yet is saved, the monitor sets the registers
of a handler, and the handler is entered with a different stack pointer. -/
theorem handler_of_unstarted_thread :
    let k := { KkmKontext.zeroed with newThread := true }
    let s : RunState := ⟨k, ⟨fun _ => some 0#8, fun _ => 0#64⟩, .monitor⟩
    let cloned := runStep .stock (fun _ => 0) s
      (.writePrivateArea ⟨0, faultSyscall⟩)
    let events : List KontextEvent :=
      [.ioctl (.setRegs ⟨false, { KkmRegs.zeroed with rsp := 0x8000#64 }⟩), .run,
        .begin false ⟨0, 0⟩]
    ¬ EveryState (savedStep .stock fun _ => 0) EntersAsSet
      (savedAt .stock (fun _ => 0) cloned) events := by
  intro k s cloned events h
  have hlast := h.last _ rfl
  exact absurd (congrArg KkmRegs.rsp hlast.1) (by decide +kernel)

end SavedRun

end Driver
end KkmModule
