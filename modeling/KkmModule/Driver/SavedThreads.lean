import KkmModule.Driver.FailedRequests
import KkmModule.Driver.RepeatedFaults

/-!
# A thread that is saved and restored

The monitor reads a thread with four requests, and gives it to a kontext with four
others and the run page.  Apart from the debug state that is all there is of a
thread: in the kontext it is given to it goes on as it would have gone on in its
own, whatever that kontext has been used for (`restored_goes_on`).
-/

namespace KkmModule
namespace Driver

open Foundation

/-! ## A thread in another kontext -/

/-- The thread of `k` in the kontext `o`. -/
def KkmKontext.movedTo (k o : KkmKontext) : KkmKontext :=
  { o with
    firstThread := k.firstThread
    newThread := k.newThread
    debugRegistersSet := k.debugRegistersSet
    validPayloadXsaveArea := k.validPayloadXsaveArea
    syscallPending := k.syscallPending
    retValMva := k.retValMva
    exceptionPosted := k.exceptionPosted
    exceptionSavedRax := k.exceptionSavedRax
    exceptionSavedRbx := k.exceptionSavedRbx
    ga := { o.ga with
      guestPayloadCr3 := k.ga.guestPayloadCr3
      regs := k.ga.regs
      sregs := k.ga.sregs
      debug := k.ga.debug
      fpu := k.ga.fpu }
    payloadXsave := k.payloadXsave
    run := k.run
    privateArea := k.privateArea }

section Moved

variable (k o : KkmKontext)

@[simp] theorem movedTo_syscallPending :
    (k.movedTo o).syscallPending = k.syscallPending := rfl

@[simp] theorem movedTo_retValMva : (k.movedTo o).retValMva = k.retValMva := rfl

@[simp] theorem movedTo_run : (k.movedTo o).run = k.run := rfl

theorem startNewThread_movedTo :
    startNewThread (k.movedTo o) = (startNewThread k).movedTo o := rfl

theorem handleSyscallResponse_movedTo (m : ByteMemory) :
    kkmKontextHandleSyscallResponse m (k.movedTo o) =
      ((kkmKontextHandleSyscallResponse m k).1,
        (kkmKontextHandleSyscallResponse m k).2.movedTo o) := by
  simp only [kkmKontextHandleSyscallResponse, movedTo_syscallPending, movedTo_retValMva]
  by_cases hpending : k.syscallPending = true
  · simp only [hpending, if_true]
    cases readWord m k.retValMva with
    | none => rfl
    | some v => rfl
  · simp only [hpending]
    rfl

/-- A call that reaches `begin` has forgotten the traps of both. -/
theorem kkmKontextSwitchKernelStart_movedTo (m : ByteMemory) :
    kkmKontextSwitchKernelStart m (k.movedTo o) =
      ((kkmKontextSwitchKernelStart m k).1,
        (kkmKontextSwitchKernelStart m k).2.movedTo
          (if (kkmKontextSwitchKernelStart m k).1 = 0 then forgetTrap o else o)) := by
  have heintr : -eintr ≠ 0 := by decide
  simp only [kkmKontextSwitchKernelStart, movedTo_run, startNewThread_movedTo,
    handleSyscallResponse_movedTo]
  by_cases hexit : k.run.immediateExit = 1#8
  · simp only [hexit, if_true, heintr, if_false]
  · simp only [hexit, if_false]
    by_cases hret : (kkmKontextHandleSyscallResponse m (startNewThread k)).1 = 0
    · simp only [hret, ne_eq, not_true_eq_false, if_false, if_true]
      rfl
    · simp only [hret, ne_eq, not_false_eq_true, if_true, if_false]

theorem movedTo_foldl (ws : List HandlerWrite) :
    ws.foldl HandlerWrite.apply (k.movedTo o) =
      (ws.foldl HandlerWrite.apply k).movedTo (ws.foldl HandlerWrite.apply o) := by
  induction ws generalizing k o with
  | nil => rfl
  | cons w ws ih =>
      have hone : w.apply (k.movedTo o) = (w.apply k).movedTo (w.apply o) := by
        cases w <;> rfl
      rw [List.foldl_cons, hone, ih]
      rfl

end Moved

/-- A row of repeated page faults goes on alike. -/
structure SameTrap (k o : KkmKontext) : Prop where
  fault : prevFault o = prevFault k
  counter : o.trapRepeatCounter = k.trapRepeatCounter

section Exit

variable {k o : KkmKontext}

theorem isRepeatedTrap_movedTo
    (htrap : SameTrap k o) (hcurrent : currentFault o = currentFault k) :
    isRepeatedTrap (k.movedTo o) = isRepeatedTrap k := by
  have hfault : prevFault (k.movedTo o) = prevFault k := htrap.fault
  have hnow : currentFault (k.movedTo o) = currentFault k := hcurrent
  rw [Bool.eq_iff_iff, isRepeatedTrap_iff, isRepeatedTrap_iff, hfault, hnow]

/-- The repetitions are counted alike. -/
theorem countTrap_movedTo
    (htrap : SameTrap k o) (hcurrent : currentFault o = currentFault k) :
    ∃ o', countTrap (k.movedTo o) =
        ((countTrap k).1, (countTrap k).2.movedTo o') ∧
      SameTrap (countTrap k).2 o' := by
  have hcounter : (k.movedTo o).trapRepeatCounter = k.trapRepeatCounter := htrap.counter
  simp only [countTrap, isRepeatedTrap_movedTo htrap hcurrent, hcounter]
  cases isRepeatedTrap k with
  | false =>
      exact ⟨{ o with
        prevTrapNo := o.ga.intrNo
        prevTrapAddr := o.trapAddr
        prevErrorCode := o.errorCode
        trapRepeatCounter := 0 }, rfl, hcurrent, rfl⟩
  | true =>
      simp only [if_true]
      refine ⟨{ o with trapRepeatCounter := k.trapRepeatCounter + 1#64 }, ?_⟩
      by_cases hmany : kkmMaxRepeatTrap < k.trapRepeatCounter + 1#64
      · simp only [hmany, if_true]
        exact ⟨rfl, htrap.fault, rfl⟩
      · simp only [hmany, if_false]
        exact ⟨rfl, htrap.fault, rfl⟩

/-- The handling of an exit: what is left of the other kontext remembers the same
fault. -/
theorem kkmProcessIntr_movedTo
    (cfg : KkmConfig) (kkm : Kkm) (a : ExitAnswers) (m : RunMemory)
    (htrap : SameTrap k o) (hinfo : o.ga.trapInfo = k.ga.trapInfo)
    (hno : o.ga.intrNo = k.ga.intrNo) :
    let r := kkmProcessIntr cfg kkm a k m
    ∃ o', kkmProcessIntr cfg kkm a (k.movedTo o) m = (r.1, r.2.1.movedTo o', r.2.2) ∧
      SameTrap r.2.1 o' ∧ currentFault o' = currentFault r.2.1 := by
  intro r
  have hseen : SeenAlike k (k.movedTo o) :=
    ⟨rfl, rfl, hinfo, hno, rfl, fun _ _ => rfl⟩
  obtain ⟨hret, hrest, ws, hws, hws'⟩ := kkmProcessIntr_same cfg kkm hseen a m
  let o' := ws.foldl HandlerWrite.apply o
  have hwrites : Writes (fun _ => true) o o' := ⟨ws, List.all_eq_true.mpr fun _ _ => rfl, rfl⟩
  have hmoved : (kkmProcessIntr cfg kkm a (k.movedTo o) m).2.1 = r.2.1.movedTo o' := by
    rw [hws', movedTo_foldl, ← hws]
  have hfault : prevFault o' = prevFault o := hwrites.keeps fun k w _ => by cases w <;> rfl
  have hcounter : o'.trapRepeatCounter = o.trapRepeatCounter :=
    hwrites.keeps (f := fun k => k.trapRepeatCounter) fun k w _ => by cases w <;> rfl
  refine ⟨o', Prod.ext hret (Prod.ext hmoved hrest), ⟨?_, ?_⟩, ?_⟩
  · rw [hfault, htrap.fault]
    exact (kkmProcessIntr_prevFault cfg kkm a k m).symm
  · rw [hcounter, htrap.counter]
    exact (kkmProcessIntr_trapRepeatCounter cfg kkm a k m).symm
  · have hcurrent : currentFault o' =
        currentFault (kkmProcessIntr cfg kkm a (k.movedTo o) m).2.1 := by
      rw [hmoved]
      rfl
    rw [hcurrent, kkmProcessIntr_currentFault, kkmProcessIntr_currentFault,
      hseen.intrNo, hseen.sregs, hseen.trapInfo]

end Exit

/-! ## The same thread in two kontexts -/

/-- The state with the thread in another kontext, which inside a call remembers the
same page fault. -/
def SameThread (s s' : RunState) : Prop :=
  ∃ o, s' = { s with kontext := s.kontext.movedTo o } ∧
    (s.phase ≠ .monitor → SameTrap s.kontext o)

section Steps

variable (cfg : KkmConfig) (crc32 : List (BitVec 8) → BitVec 32)

/-- A request does not look at the kontext. -/
theorem ioctl_movedTo (request : KontextIoctl) (k o : KkmKontext) :
    kkmExecutionKontextIoctl cfg crc32 request (k.movedTo o) =
      let r := kkmExecutionKontextIoctl cfg crc32 request k
      (r.1, r.2.1, r.2.2.movedTo o) := by
  cases request with
  | setSaveInfo copy =>
      obtain ⟨failed, value⟩ := copy
      cases failed with
      | true => rfl
      | false => rfl
  | setXstate copy =>
      simp only [setXstate_eq, kkmKontextSetXstate]
      split
      · rfl
      · split
        · rfl
        · split
          · rfl
          · rfl
  | _ => rfl

theorem return_movedTo (s s' : RunState) (hmemory : s'.memory = s.memory)
    (k o : KkmKontext) :
    SameThread (s.return k) (s'.return (k.movedTo o)) := by
  refine ⟨o, ?_, fun hphase => absurd rfl hphase⟩
  simp only [RunState.return, hmemory]
  rfl

theorem run_movedTo (s : RunState) (o : KkmKontext) :
    SameThread s.run (RunState.run { s with kontext := s.kontext.movedTo o }) := by
  have hregs : kkmSetRegs (s.kontext.movedTo o) = (kkmSetRegs s.kontext).movedTo o := rfl
  simp only [RunState.run, hregs, kkmKontextSwitchKernelStart_movedTo]
  by_cases hret :
      (kkmKontextSwitchKernelStart s.memory.user (kkmSetRegs s.kontext)).1 = 0
  · simp only [hret, ne_eq, not_true_eq_false, if_false, if_true]
    have hforgot := kkmKontextSwitchKernelStart_trapMemory hret
    exact ⟨forgetTrap o, rfl, fun _ => ⟨hforgot.fault.symm, hforgot.counter.symm⟩⟩
  · simp only [hret, ne_eq, not_false_eq_true, if_true, if_false]
    exact return_movedTo s _ rfl _ o

theorem exit_movedTo
    (kkm : Kkm) (e : PayloadExit) (a : ExitAnswers) (user : ByteMemory)
    (s : RunState) {o : KkmKontext} (htrap : SameTrap s.kontext o) :
    let s' : RunState := { s with kontext := s.kontext.movedTo o }
    SameThread (s.exit cfg kkm e a user) (s'.exit cfg kkm e a user) ∧
      exitRet cfg kkm e a user s' = exitRet cfg kkm e a user s := by
  intro s'
  have hleave : leavePayload e (s.kontext.movedTo o) =
      (leavePayload e s.kontext).movedTo (leavePayload e o) := rfl
  obtain ⟨o', hintr, htrap', hcurrent⟩ := kkmProcessIntr_movedTo cfg kkm a
    { s.memory with user := user } (k := leavePayload e s.kontext)
    (o := leavePayload e o) ⟨htrap.fault, htrap.counter⟩ rfl rfl
  simp only [s', RunState.exit, exitRet, hleave, hintr]
  generalize kkmProcessIntr cfg kkm a (leavePayload e s.kontext)
    { s.memory with user := user } = r at htrap' hcurrent
  obtain ⟨ret, k, m⟩ := r
  simp only at htrap' hcurrent ⊢
  by_cases hdone : ret = kkmKontextFaultProcessDone
  · obtain ⟨o'', hcount, htrap''⟩ := countTrap_movedTo htrap' hcurrent
    simp only [hdone, if_true, hcount]
    by_cases hzero : (countTrap k).1 = 0
    · simp only [hzero, ne_eq, not_true_eq_false, if_false, and_true]
      exact ⟨o'', rfl, fun _ => htrap''⟩
    · simp only [hzero, ne_eq, not_false_eq_true, if_true, and_true]
      exact return_movedTo _ _ rfl _ o''
  · simp only [hdone, if_false, and_true]
    exact return_movedTo _ _ rfl _ o'

/-- In whichever kontext a thread is, it is answered alike and enters the payload
alike. -/
theorem sameThread_isBisimulation :
    IsBisimulation (runStep cfg crc32) (kontextOutput cfg crc32) SameThread := by
  have hboth : ∀ {s s' : RunState}, SameThread s s' → ∀ e,
      kontextAnswer cfg crc32 s e = kontextAnswer cfg crc32 s' e ∧
        SameThread (runStep cfg crc32 s e) (runStep cfg crc32 s' e) := by
    rintro s s' ⟨o, rfl, htrap⟩ e
    cases e with
    | ioctl request =>
        by_cases hphase : s.phase = .monitor
        · simp only [kontextAnswer, runStep, if_pos hphase, ioctl_movedTo, true_and]
          exact ⟨o, rfl, fun hno => absurd hphase hno⟩
        · simp only [kontextAnswer, runStep, if_neg hphase, true_and]
          exact ⟨o, rfl, htrap⟩
    | writeRunPage run => exact ⟨rfl, o, rfl, fun hno => ⟨(htrap hno).1, (htrap hno).2⟩⟩
    | writePrivateArea area =>
        exact ⟨rfl, o, rfl, fun hno => ⟨(htrap hno).1, (htrap hno).2⟩⟩
    | memory memory => exact ⟨rfl, o, rfl, htrap⟩
    | run =>
        by_cases hphase : s.phase = .monitor
        · have hregs : kkmSetRegs (s.kontext.movedTo o) =
              (kkmSetRegs s.kontext).movedTo o := rfl
          simp only [kontextAnswer, runStep, if_pos hphase, hregs,
            kkmKontextSwitchKernelStart_movedTo, true_and]
          exact run_movedTo s o
        · simp only [kontextAnswer, runStep, if_neg hphase, true_and]
          exact ⟨o, rfl, htrap⟩
    | begin signal e =>
        by_cases hphase : s.phase = .begin
        · cases signal with
          | true =>
              simp only [kontextAnswer, runStep, if_pos hphase, if_true, true_and]
              exact return_movedTo s _ rfl (signalExit s.kontext) o
          | false =>
              have htrap := htrap (by rw [hphase]; decide)
              simp only [kontextAnswer, runStep, if_pos hphase, RunState.begin,
                Bool.false_eq_true, if_false]
              exact ⟨rfl, enterPayload e o, rfl, fun _ => ⟨htrap.1, htrap.2⟩⟩
        · simp only [kontextAnswer, runStep, if_neg hphase, true_and]
          exact ⟨o, rfl, htrap⟩
    | exit kkm e a user =>
        by_cases hphase : s.phase = .payload
        · obtain ⟨hnext, hret⟩ := exit_movedTo cfg kkm e a user s
            (htrap (by rw [hphase]; decide))
          simp only [kontextAnswer, runStep, if_pos hphase]
          exact ⟨hret.symm, hnext⟩
        · simp only [kontextAnswer, runStep, if_neg hphase, true_and]
          exact ⟨o, rfl, htrap⟩
  constructor
  · intro s s' hsame e
    obtain ⟨hanswer, o, hnext, -⟩ := hboth hsame e
    simp only [kontextOutput, hanswer, hnext]
    rfl
  · intro s s' hsame e
    exact (hboth hsame e).2

end Steps

/-! ## Saving and restoring -/

/-- What the monitor knows of a thread. -/
structure SavedThread where
  regs : KkmRegs
  sregs : KkmSregs
  image : Nat → BitVec 8
  saveInfo : KkmSaveInfo
  run : KkmRun

/-- The requests with which a thread is read. -/
def saveEvents : List KontextEvent :=
  [.ioctl (.getRegs false), .ioctl (.getSregs false), .ioctl (.getXstate false),
    .ioctl (.getSaveInfo false)]

/-- The run page is written, and the requests give a thread to a kontext. -/
def SavedThread.restoreEvents (th : SavedThread) : List KontextEvent :=
  [.writeRunPage th.run, .ioctl (.setRegs ⟨false, th.regs⟩),
    .ioctl (.setSregs ⟨false, th.sregs⟩), .ioctl (.setXstate ⟨false, th.image⟩),
    .ioctl (.setSaveInfo ⟨false, th.saveInfo⟩)]

section Restore

variable (cfg : KkmConfig) (crc32 : List (BitVec 8) → BitVec 32)

/-- `th` is what is read of the thread in the state `s`. -/
structure SavedThread.ReadFrom (th : SavedThread) (s : RunState) : Prop where
  answers : outputs (runStep cfg crc32) (kontextAnswer cfg crc32) s saveEvents =
    [.reply 0 (.regs th.regs), .reply 0 (.sregs th.sregs), .reply 0 (.xstate th.image),
      .reply 0 (.saveInfo th.saveInfo)]
  run : th.run = s.kontext.run

/-- The debug state of two kontexts is the same, as far as it is loaded or seen, and
their payloads use the same table. -/
structure SameDebug (k k' : KkmKontext) : Prop where
  payloadCr3 : k'.ga.guestPayloadCr3 = k.ga.guestPayloadCr3
  registersSet : k'.debugRegistersSet = k.debugRegistersSet
  singleStep : singleStep k'.ga.debug = singleStep k.ga.debug
  registers : ∀ i, i ≠ 4 → i ≠ 5 → k'.ga.debug.registers i = k.ga.debug.registers i

/-- The page that is handed out. -/
def handedImage (kontext : KkmKontext) : Nat → BitVec 8 := fun i =>
  if i < 4096 then xstateToUser cfg crc32 kontext i else 0

variable {cfg crc32} {th : SavedThread} {s t : RunState}

theorem SavedThread.ReadFrom.eq (h : th.ReadFrom cfg crc32 s) :
    s.phase = .monitor ∧
      th = ⟨s.kontext.ga.regs, s.kontext.ga.sregs, handedImage cfg crc32 s.kontext,
        s.kontext.saveInfo, s.kontext.run⟩ := by
  obtain ⟨kontext, memory, phase⟩ := s
  obtain ⟨hanswers, hrun⟩ := h
  have hphase : phase = .monitor := by
    by_contra hno
    simp [outputs, saveEvents, kontextAnswer, hno] at hanswers
  subst hphase
  obtain ⟨regs, sregs, image, saveInfo, run⟩ := th
  simp only [outputs, saveEvents, kontextAnswer, runStep, if_true, List.cons.injEq,
    KontextAnswer.reply.injEq, and_true] at hanswers
  obtain ⟨⟨-, hregs⟩, ⟨-, hsregs⟩, ⟨-, himage⟩, -, hsave⟩ := hanswers
  cases hregs
  cases hsregs
  cases hrun
  injection himage with himage
  injection hsave with hsave
  rw [← himage, ← hsave]
  exact ⟨rfl, rfl⟩

/-- Nothing that a request looks at is beyond the page. -/
theorem imageBytes_handedImage
    (cfg : KkmConfig) (crc32 : List (BitVec 8) → BitVec 32) (k : KkmKontext)
    {off n : Nat} (h : off + n ≤ 4096) :
    imageBytes (handedImage cfg crc32 k) off n =
      imageBytes (xstateToUser cfg crc32 k) off n :=
  imageBytes_eq_iff.mpr fun j hj => if_pos (by omega)

theorem handedImage_match
    (cfg : KkmConfig) (crc32 : List (BitVec 8) → BitVec 32) (k : KkmKontext) :
    ¬ XstateMismatch cfg crc32 (handedImage cfg crc32 k) := by
  have hfield : ∀ off, off + 4 ≤ 4096 →
      xstateField 32 (handedImage cfg crc32 k) off =
        xstateField 32 (xstateToUser cfg crc32 k) off := by
    intro off hoff
    rw [xstateField, xstateField, imageBytes_handedImage cfg crc32 k hoff]
  have hdata : xstateData (handedImage cfg crc32 k) =
      xstateData (xstateToUser cfg crc32 k) :=
    imageBytes_handedImage cfg crc32 k (by decide)
  rw [XstateMismatch, hfield _ (by decide), hfield _ (by decide), hdata,
    xstateFormat_xstateToUser, xstateCrc32_xstateToUser]
  simp

/-- The kontext `o` when it has been given the thread. -/
def SavedThread.restoredIn (th : SavedThread) (o : KkmKontext) : KkmKontext :=
  kkmKontextSetSaveInfo th.saveInfo
    { o with
      ga := { o.ga with regs := th.regs, sregs := th.sregs }
      run := th.run
      payloadXsave := clearXstateTrailer th.image
      validPayloadXsaveArea := th.image xstateValid != 0#8 }

theorem restored_state
    (ht : t.phase = .monitor) (himage : ¬ XstateMismatch cfg crc32 th.image) :
    th.restoreEvents.foldl (runStep cfg crc32) t =
      { t with kontext := th.restoredIn t.kontext } := by
  obtain ⟨kontext, memory, phase⟩ := t
  obtain rfl : phase = .monitor := ht
  simp only [SavedThread.restoreEvents, List.foldl_cons, List.foldl_nil, runStep, if_true,
    setXstate_eq, kkmKontextSetXstate_of_match cfg crc32 himage]
  rfl

/-- It has the thread of the kontext `k`, but for what is not seen. -/
theorem restoredIn_eq
    {k o : KkmKontext} (hdebug : SameDebug k o) (image : Nat → BitVec 8) :
    SavedThread.restoredIn ⟨k.ga.regs, k.ga.sregs, handedImage cfg crc32 k, k.saveInfo,
        k.run⟩ o =
      (KkmKontext.movedTo { k with payloadXsave := image } o).withHidden
        ⟨o.ga.fpu, o.ga.debug, clearXstateTrailer (handedImage cfg crc32 k)⟩ := by
  have hvalid : (handedImage cfg crc32 k xstateValid != 0#8) = k.validPayloadXsaveArea :=
    xstateValid_xstateToUser cfg crc32 k
  simp only [SavedThread.restoredIn, kkmKontextSetSaveInfo, KkmKontext.saveInfo,
    KkmKontext.movedTo, KkmKontext.withHidden, hvalid, hdebug.payloadCr3,
    hdebug.registersSet]

/-- A thread that has been read and is given to a kontext, whatever has been done
with that, goes on there as it would have gone on in its own. -/
theorem restored_goes_on
    (hread : th.ReadFrom cfg crc32 s) (ht : t.phase = .monitor)
    (hmemory : t.memory = s.memory) (hdebug : SameDebug s.kontext t.kontext) :
    Indistinct (runStep cfg crc32) (kontextOutput cfg crc32)
      (runStep cfg crc32 s (.ioctl (.getXstate false)))
      (th.restoreEvents.foldl (runStep cfg crc32) t) := by
  obtain ⟨kontext, memory, phase⟩ := s
  obtain ⟨o, memory', phase'⟩ := t
  obtain ⟨hs, rfl⟩ := hread.eq
  obtain rfl : phase = .monitor := hs
  obtain rfl : phase' = .monitor := ht
  obtain rfl : memory' = memory := hmemory
  rw [restored_state rfl (handedImage_match cfg crc32 kontext)]
  let image := clearXstateTrailer (xstateToUser cfg crc32 kontext)
  let read : RunState := ⟨{ kontext with payloadXsave := image }, memory', .monitor⟩
  have hread : runStep cfg crc32 ⟨kontext, memory', .monitor⟩ (.ioctl (.getXstate false)) =
      read := rfl
  let moved : RunState := { read with kontext := read.kontext.movedTo o }
  have hmoved : SameThread read moved := ⟨o, rfl, fun hno => absurd rfl hno⟩
  have hlooks : LooksSame moved
      ⟨SavedThread.restoredIn ⟨kontext.ga.regs, kontext.ga.sregs,
        handedImage cfg crc32 kontext, kontext.saveInfo, kontext.run⟩ o, memory',
        .monitor⟩ := by
    rw [restoredIn_eq hdebug image]
    exact ⟨_, ⟨hdebug.singleStep, hdebug.registers,
      fun i hi _ => clearXstateTrailer_congr (if_pos (by omega))⟩, rfl⟩
  rw [hread]
  exact ((sameThread_isBisimulation cfg crc32).indistinct hmoved).trans
    ((looksSame_isBisimulation cfg crc32).indistinct hlooks)

end Restore

/-! ## Two kontexts -/

/-- A thread that waits for the reply to a system call. -/
def waitingState : RunState where
  kontext := { KkmKontext.zeroed with
    syscallPending := true
    retValMva := 0x100000000000#64
    ga := { KkmGuestArea.zeroed with regs := { KkmRegs.zeroed with rsp := 0x7FFF0000#64 } } }
  memory := zeroedRunMemory
  phase := .monitor

/-- A kontext that has had another thread, whose last exit was a page fault. -/
def usedState : RunState where
  kontext := { KkmKontext.zeroed with
    id := 7
    exceptionPosted := true
    validPayloadXsaveArea := true
    trapAddr := 0x400000#64
    prevTrapNo := x86TrapPf
    prevTrapAddr := 0x400000#64
    ga := { KkmGuestArea.zeroed with intrNo := x86TrapPf } }
  memory := zeroedRunMemory
  phase := .monitor

theorem restored_goes_on_used :
    ∃ th : SavedThread, th.saveInfo.syscallPending = true ∧
      Indistinct (runStep .stock fun _ => 0) (kontextOutput .stock fun _ => 0)
        (runStep .stock (fun _ => 0) waitingState (.ioctl (.getXstate false)))
        (th.restoreEvents.foldl (runStep .stock fun _ => 0) usedState) := by
  let k := waitingState.kontext
  let th : SavedThread := ⟨k.ga.regs, k.ga.sregs, handedImage .stock (fun _ => 0) k,
    k.saveInfo, k.run⟩
  have hread : th.ReadFrom .stock (fun _ => 0) waitingState := ⟨rfl, rfl⟩
  exact ⟨th, rfl, restored_goes_on hread rfl rfl ⟨rfl, rfl, rfl, fun _ _ _ => rfl⟩⟩

end Driver
end KkmModule
