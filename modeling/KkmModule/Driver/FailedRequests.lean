import KkmModule.Driver.FpuState
import KkmModule.Driver.HandlerWrites
import KkmModule.Foundation.Observation

/-!
# Requests that fail

The handlers of `kkm_execution_kontext_ioctl` copy straight into the state of the
kontext, and a copy that fails may have overwritten all of its destination.  A
failed request is unnoticed if no later request or run shows a difference; what
can be seen of a kontext are the answers of its requests and runs, the registers
the payload is entered with, and the memory shared with the monitor.

`Hidden` are the parts that can differ without being seen: the buffer of
`KKM_GET_FPU`, the debug state that no entry loads, and the trailer of the xsave
image.
-/

namespace KkmModule
namespace Driver

open Foundation

/-! ## What is seen -/

/-- `kkm_hw_debug_registers_restore`: the registers that are loaded. -/
def loadedDebugRegisters (registers : Fin 8 → BitVec 64) : Fin 8 → BitVec 64 := fun i =>
  if i = 4 ∨ i = 5 then 0 else registers i

/-- What the payload is entered with. -/
structure PayloadEntry where
  regs : KkmRegs
  sregs : KkmSregs
  cs : BitVec 64
  ss : BitVec 64
  cr3 : BitVec 64
  debugRegisters : Option (Fin 8 → BitVec 64)
  xstate : Option (List (BitVec 8))

def shownEntry (kontext : KkmKontext) : PayloadEntry where
  regs := kontext.ga.regs
  sregs := kontext.ga.sregs
  cs := kontext.ga.guestPayloadCs
  ss := kontext.ga.guestPayloadSs
  cr3 := kontext.ga.guestPayloadCr3
  debugRegisters :=
    if kontext.debugRegistersSet then
      some (loadedDebugRegisters kontext.ga.debug.registers)
    else none
  xstate :=
    if kontext.validPayloadXsaveArea then some (xstateData kontext.payloadXsave)
    else none

/-- The answer to an event. -/
inductive KontextAnswer where
  | none
  | reply (ret : Int) (reply : KontextReply)
  | returned (ret : Int)
  | entered (entry : PayloadEntry)

/-- Of an image the page is copied. -/
def copiedReply : KontextReply → KontextReply
  | .xstate image => .xstate fun i => if i < 4096 then image i else 0
  | reply => reply

/-- A result of `kkm_kontext_switch_kernel`; after 0 the call goes on. -/
def returnAnswer (ret : Int) : KontextAnswer :=
  if ret ≠ 0 then .returned ret else .none

/-- The result of the processing of an exit. -/
def exitRet
    (cfg : KkmConfig) (kkm : Kkm) (e : PayloadExit) (a : ExitAnswers)
    (user : ByteMemory) (s : RunState) : KontextAnswer :=
  let r := kkmProcessIntr cfg kkm a (leavePayload e s.kontext)
    { s.memory with user := user }
  if r.1 = kkmKontextFaultProcessDone then returnAnswer (countTrap r.2.1).1
  else .returned r.1

section Answers

variable (cfg : KkmConfig) (crc32 : List (BitVec 8) → BitVec 32)

def kontextAnswer (s : RunState) : KontextEvent → KontextAnswer
  | .ioctl request =>
      if s.phase = .monitor then
        let r := kkmExecutionKontextIoctl cfg crc32 request s.kontext
        .reply r.1 (copiedReply r.2.1)
      else .none
  | .run =>
      if s.phase = .monitor then
        returnAnswer (kkmKontextSwitchKernelStart s.memory.user
          (kkmSetRegs s.kontext)).1
      else .none
  | .begin signal e =>
      if s.phase = .begin then
        if signal then .returned (-eintr)
        else .entered (shownEntry (enterPayload e s.kontext))
      else .none
  | .exit kkm e a user =>
      if s.phase = .payload then exitRet cfg kkm e a user s else .none
  | _ => .none

/-- What an event shows: its answer, and memory afterwards. -/
structure KontextOutput where
  answer : KontextAnswer
  run : KkmRun
  privateArea : KkmPrivateArea
  memory : RunMemory

def kontextOutput (s : RunState) (e : KontextEvent) : KontextOutput where
  answer := kontextAnswer cfg crc32 s e
  run := (runStep cfg crc32 s e).kontext.run
  privateArea := (runStep cfg crc32 s e).kontext.privateArea
  memory := (runStep cfg crc32 s e).memory

end Answers

/-! ## What is not seen -/

structure Hidden where
  fpu : KkmFpu
  debug : KkmDebug
  image : Nat → BitVec 8

/-- They differ only where no entry and no answer looks. -/
structure Hidden.Alike (h h' : Hidden) : Prop where
  singleStep : singleStep h'.debug = singleStep h.debug
  registers : ∀ i, i ≠ 4 → i ≠ 5 → h'.debug.registers i = h.debug.registers i
  image : ∀ i < 4088, i ≠ 4084 → h'.image i = h.image i

theorem Hidden.Alike.refl (h : Hidden) : h.Alike h :=
  ⟨rfl, fun _ _ _ => rfl, fun _ _ _ => rfl⟩

namespace KkmKontext

def hidden (kontext : KkmKontext) : Hidden :=
  ⟨kontext.ga.fpu, kontext.ga.debug, kontext.payloadXsave⟩

def withHidden (kontext : KkmKontext) (h : Hidden) : KkmKontext :=
  { kontext with
    ga := { kontext.ga with fpu := h.fpu, debug := h.debug }
    payloadXsave := h.image }

variable (k : KkmKontext) (h : Hidden)

@[simp] theorem withHidden_syscallPending :
    (k.withHidden h).syscallPending = k.syscallPending := rfl

@[simp] theorem withHidden_retValMva :
    (k.withHidden h).retValMva = k.retValMva := rfl

@[simp] theorem withHidden_run : (k.withHidden h).run = k.run := rfl

end KkmKontext

/-- A result with other hidden parts. -/
def hide {α : Type} (h : Hidden) (r : Int × KkmKontext × α) : Int × KkmKontext × α :=
  (r.1, r.2.1.withHidden h, r.2.2)

section Entry

variable (k : KkmKontext) (h : Hidden)

theorem startNewThread_withHidden :
    startNewThread (k.withHidden h) = (startNewThread k).withHidden h := rfl

theorem handleSyscallResponse_withHidden (m : ByteMemory) :
    kkmKontextHandleSyscallResponse m (k.withHidden h) =
      ((kkmKontextHandleSyscallResponse m k).1,
        (kkmKontextHandleSyscallResponse m k).2.withHidden h) := by
  simp only [kkmKontextHandleSyscallResponse, KkmKontext.withHidden_syscallPending,
    KkmKontext.withHidden_retValMva]
  by_cases hpending : k.syscallPending = true
  · simp only [hpending, if_true]
    cases readWord m k.retValMva with
    | none => rfl
    | some v => rfl
  · simp only [hpending]
    rfl

theorem kkmKontextSwitchKernelStart_withHidden (m : ByteMemory) :
    kkmKontextSwitchKernelStart m (k.withHidden h) =
      ((kkmKontextSwitchKernelStart m k).1,
        (kkmKontextSwitchKernelStart m k).2.withHidden h) := by
  simp only [kkmKontextSwitchKernelStart, KkmKontext.withHidden_run,
    startNewThread_withHidden, handleSyscallResponse_withHidden]
  by_cases hexit : k.run.immediateExit = 1#8
  · simp only [hexit, if_true]
  · simp only [hexit, if_false]
    by_cases hret : (kkmKontextHandleSyscallResponse m (startNewThread k)).1 = 0
    · simp only [hret, ne_eq, not_true_eq_false, if_false]
      rfl
    · simp only [hret, ne_eq, not_false_eq_true, if_true]

theorem payloadRflags_congr
    {debug debug' : KkmDebug} (hstep : singleStep debug' = singleStep debug)
    (rflags : BitVec 64) : payloadRflags debug' rflags = payloadRflags debug rflags := by
  rw [payloadRflags, hstep, payloadRflags]

theorem enterPayload_withHidden
    (e : EntryCpu) (hstep : singleStep h.debug = singleStep k.ga.debug) :
    enterPayload e (k.withHidden h) = (enterPayload e k).withHidden h := by
  have hrflags := payloadRflags_congr hstep k.ga.regs.rflags
  simp only [enterPayload, kkmGuestKernelStartPayload, prepareGuestArea,
    KkmKontext.withHidden, hrflags]

end Entry

section Exit

variable (cfg : KkmConfig) (kkm : Kkm) (k : KkmKontext) (h : Hidden)

/-- No handler looks at the hidden parts, but for DR6 and DR7. -/
theorem withHidden_unseen : Unseen fun k => k.withHidden h where
  regs _ := rfl
  sregs _ := rfl
  trapInfo _ := rfl
  intrNo _ := rfl
  debugArch _ := rfl
  apply _ w := by cases w <;> rfl

/-- The handlers see of the hidden parts only what is alike. -/
theorem kkmProcessIntr_withHidden
    (hregs : ∀ i, i ≠ 4 → i ≠ 5 → h.debug.registers i = k.ga.debug.registers i)
    (a : ExitAnswers) (s : RunMemory) :
    kkmProcessIntr cfg kkm a (k.withHidden h) s =
      hide h (kkmProcessIntr cfg kkm a k s) := by
  refine kkmProcessIntr_unseen cfg kkm (withHidden_unseen h) a k s ?_
  rintro i (rfl | rfl)
  · exact hregs 6 (by decide) (by decide)
  · exact hregs 7 (by decide) (by decide)

theorem countTrap_withHidden :
    countTrap (k.withHidden h) =
      ((countTrap k).1, (countTrap k).2.withHidden h) := by
  have hrepeated : isRepeatedTrap (k.withHidden h) = isRepeatedTrap k := rfl
  have hcounter : (k.withHidden h).trapRepeatCounter = k.trapRepeatCounter := rfl
  simp only [countTrap, hrepeated, hcounter]
  cases isRepeatedTrap k with
  | false => rfl
  | true =>
      simp only [if_true]
      by_cases hmany : kkmMaxRepeatTrap < k.trapRepeatCounter + 1#64
      · simp only [hmany, if_true]
        rfl
      · simp only [hmany, if_false]
        rfl

/-- The hidden parts after an exit. -/
def leaveHidden (e : PayloadExit) (set : Bool) (h : Hidden) : Hidden where
  fpu := h.fpu
  debug :=
    if set then
      { h.debug with
        registers := kkmHwDebugRegistersSave e.debugRegisters h.debug.registers }
    else h.debug
  image := e.xsave

theorem leavePayload_withHidden (e : PayloadExit) :
    leavePayload e (k.withHidden h) =
      (leavePayload e k).withHidden (leaveHidden e k.debugRegistersSet h) := rfl

theorem Hidden.Alike.leave
    {h h' : Hidden} (halike : h.Alike h') (e : PayloadExit) (set : Bool) :
    (leaveHidden e set h).Alike (leaveHidden e set h') := by
  cases set with
  | false => exact ⟨halike.singleStep, halike.registers, fun _ _ _ => rfl⟩
  | true =>
      refine ⟨halike.singleStep, ?_, fun _ _ _ => rfl⟩
      intro i h4 h5
      simp only [leaveHidden, if_true, kkmHwDebugRegistersSave, h4, h5, or_self, if_false]

end Exit

/-! ## States that look the same -/

/-- Equal up to what is not seen. -/
def LooksSame (s s' : RunState) : Prop :=
  ∃ h, s.kontext.hidden.Alike h ∧ s' = { s with kontext := s.kontext.withHidden h }

section Steps

variable (cfg : KkmConfig) (crc32 : List (BitVec 8) → BitVec 32)

theorem overlay_congr
    {image image' : Nat → BitVec 8} {off i : Nat} {bytes : List (BitVec 8)}
    (h : ¬ (off ≤ i ∧ i < off + bytes.length) → image' i = image i) :
    overlay image' off bytes i = overlay image off bytes i := by
  simp only [overlay]
  split
  · rfl
  · exact h ‹_›

theorem setXstateField_congr
    {w off i : Nat} {v : BitVec w} {image image' : Nat → BitVec 8}
    (h : ¬ (off ≤ i ∧ i < off + w / 8) → image' i = image i) :
    setXstateField off v image' i = setXstateField off v image i := by
  apply overlay_congr
  rwa [toBytes_length]

theorem kkmCopyKkmFpuToXstate_congr
    (fpu : KkmFpu) {image image' : Nat → BitVec 8} {i : Nat}
    (h : image' i = image i) :
    kkmCopyKkmFpuToXstate fpu image' i = kkmCopyKkmFpuToXstate fpu image i := by
  refine setXstateField_congr fun _ => overlay_congr fun _ => ?_
  refine setXstateField_congr fun _ => setXstateField_congr fun _ => ?_
  refine setXstateField_congr fun _ => setXstateField_congr fun _ => ?_
  refine setXstateField_congr fun _ => setXstateField_congr fun _ => ?_
  exact overlay_congr fun _ => h

theorem clearXstateTrailer_congr
    {image image' : Nat → BitVec 8} {i : Nat} (h : image' i = image i) :
    clearXstateTrailer image' i = clearXstateTrailer image i :=
  setXstateField_congr fun _ => setXstateField_congr fun _ =>
    setXstateField_congr fun _ => h

theorem xstateData_of_alike
    {k : KkmKontext} {h : Hidden} (halike : k.hidden.Alike h) :
    xstateData h.image = xstateData k.payloadXsave :=
  imageBytes_eq_iff.mpr fun j hj => halike.image (0 + j)
    (by rw [kkmXstateDataSize] at hj; omega) (by rw [kkmXstateDataSize] at hj; omega)

/-- The page that `KKM_KONTEXT_GET_XSTATE` copies does not show the trailer. -/
theorem xstateToUser_congr
    {k : KkmKontext} {h : Hidden} (halike : k.hidden.Alike h) {i : Nat} (hi : i < 4096) :
    xstateToUser cfg crc32 (k.withHidden h) i = xstateToUser cfg crc32 k i := by
  have himage : (k.withHidden h).payloadXsave = h.image := rfl
  rw [xstateToUser_eq, xstateToUser_eq, xstateData_xstateUnsummed,
    xstateData_xstateUnsummed, himage, xstateData_of_alike halike]
  refine setXstateField_congr fun hcrc => ?_
  refine setXstateField_congr fun hformat => ?_
  refine overlay_congr fun hvalid => ?_
  rw [xstateCrc32] at hcrc
  rw [xstateFormat] at hformat
  rw [xstateValid, List.length_singleton] at hvalid
  exact halike.image i (by omega) (by omega)

theorem kkmKontextSetXstate_withHidden
    (copy : UserCopy (Nat → BitVec 8)) (k : KkmKontext) (h : Hidden) :
    kkmKontextSetXstate cfg crc32 copy (k.withHidden h) =
      ((kkmKontextSetXstate cfg crc32 copy k).1,
        (kkmKontextSetXstate cfg crc32 copy k).2.withHidden
          ⟨h.fpu, h.debug, (kkmKontextSetXstate cfg crc32 copy k).2.payloadXsave⟩) := by
  simp only [kkmKontextSetXstate]
  cases copy.failed with
  | true => rfl
  | false =>
      simp only [Bool.false_eq_true, if_false]
      by_cases hformat : xstateField 32 copy.value xstateFormat =
          BitVec.ofNat 32 cfg.xsFormat.code
      · simp only [hformat, ne_eq, not_true_eq_false, if_false]
        by_cases hcrc : xstateField 32 copy.value xstateCrc32 =
            crc32 (imageBytes copy.value 0 kkmXstateDataSize)
        · simp only [hcrc, not_true_eq_false, if_false]
          rfl
        · simp only [hcrc, not_false_eq_true, if_true]
          rfl
      · simp only [hformat, ne_eq, not_false_eq_true, if_true]
        rfl

theorem setXstate_eq (copy : UserCopy (Nat → BitVec 8)) (k : KkmKontext) :
    kkmExecutionKontextIoctl cfg crc32 (.setXstate copy) k =
      ((kkmKontextSetXstate cfg crc32 copy k).1, .none,
        (kkmKontextSetXstate cfg crc32 copy k).2) := rfl

theorem kkmKontextSetXstate_debug
    (copy : UserCopy (Nat → BitVec 8)) (k : KkmKontext) :
    (kkmKontextSetXstate cfg crc32 copy k).2.ga.debug = k.ga.debug :=
  congrArg KkmGuestArea.debug (kkmKontextSetXstate_spec cfg crc32 copy k).1

/-- A request gives the same answer, and what it leaves looks the same. -/
theorem ioctl_withHidden
    (request : KontextIoctl) {k : KkmKontext} {h : Hidden} (halike : k.hidden.Alike h) :
    let r := kkmExecutionKontextIoctl cfg crc32 request k
    let r' := kkmExecutionKontextIoctl cfg crc32 request (k.withHidden h)
    r'.1 = r.1 ∧ copiedReply r'.2.1 = copiedReply r.2.1 ∧
      ∃ h', r.2.2.hidden.Alike h' ∧ r'.2.2 = r.2.2.withHidden h' := by
  cases request with
  | getFpu failed =>
      have hview : kkmCopyXstateToKkmFpu h.image =
          kkmCopyXstateToKkmFpu k.payloadXsave :=
        kkmCopyXstateToKkmFpu_of_xstateData (xstateData_of_alike halike)
      refine ⟨rfl, congrArg KontextReply.fpu hview, ?_⟩
      exact ⟨⟨kkmCopyXstateToKkmFpu h.image, h.debug, h.image⟩,
        ⟨halike.singleStep, halike.registers, halike.image⟩, rfl⟩
  | setFpu copy =>
      refine ⟨rfl, rfl, ⟨copy.value, h.debug, kkmCopyKkmFpuToXstate copy.value h.image⟩,
        ⟨halike.singleStep, halike.registers, ?_⟩, rfl⟩
      intro i hi hne
      exact kkmCopyKkmFpuToXstate_congr copy.value (halike.image i hi hne)
  | setDebug copy =>
      exact ⟨rfl, rfl, ⟨h.fpu, copy.value, h.image⟩,
        ⟨rfl, fun _ _ _ => rfl, halike.image⟩, rfl⟩
  | getXstate failed =>
      refine ⟨rfl, ?_, ⟨h.fpu, h.debug,
        clearXstateTrailer (xstateToUser cfg crc32 (k.withHidden h))⟩,
        ⟨halike.singleStep, halike.registers, ?_⟩, rfl⟩
      · refine congrArg KontextReply.xstate (funext fun i => ?_)
        by_cases hi : i < 4096
        · rw [if_pos hi, if_pos hi]
          exact xstateToUser_congr cfg crc32 halike hi
        · rw [if_neg hi, if_neg hi]
      · intro i hi hne
        exact clearXstateTrailer_congr (xstateToUser_congr cfg crc32 halike (by omega))
  | setXstate copy =>
      have hdebug := kkmKontextSetXstate_debug cfg crc32 copy k
      rw [setXstate_eq, setXstate_eq, kkmKontextSetXstate_withHidden]
      refine ⟨rfl, rfl,
        ⟨h.fpu, h.debug, (kkmKontextSetXstate cfg crc32 copy k).2.payloadXsave⟩,
        ⟨?_, ?_, fun _ _ _ => rfl⟩, rfl⟩
      · exact halike.singleStep.trans (congrArg singleStep hdebug.symm)
      · intro i h4 h5
        exact (halike.registers i h4 h5).trans
          (congrArg (fun debug => debug.registers i) hdebug.symm)
  | setSaveInfo copy =>
      obtain ⟨failed, value⟩ := copy
      cases failed with
      | true => exact ⟨rfl, rfl, h, halike, rfl⟩
      | false => exact ⟨rfl, rfl, h, halike, rfl⟩
  | _ => exact ⟨rfl, rfl, h, halike, rfl⟩

theorem return_withHidden
    {s s' : RunState} (hmemory : s'.memory = s.memory) (k : KkmKontext) (h : Hidden) :
    s'.return (k.withHidden h) =
      { s.return k with kontext := (s.return k).kontext.withHidden h } := by
  simp only [RunState.return, hmemory]
  rfl

theorem run_withHidden (s : RunState) (h : Hidden) :
    RunState.run { s with kontext := s.kontext.withHidden h } =
      { s.run with kontext := s.run.kontext.withHidden h } := by
  have hregs : kkmSetRegs (s.kontext.withHidden h) =
      (kkmSetRegs s.kontext).withHidden h := rfl
  simp only [RunState.run, hregs, kkmKontextSwitchKernelStart_withHidden]
  by_cases hret :
      (kkmKontextSwitchKernelStart s.memory.user (kkmSetRegs s.kontext)).1 = 0
  · simp only [hret, ne_eq, not_true_eq_false, if_false]
  · simp only [hret, ne_eq, not_false_eq_true, if_true]
    exact return_withHidden rfl _ h

theorem run_hidden (s : RunState) : s.run.kontext.hidden = s.kontext.hidden := by
  have hsame := congrArg (fun t : RunState => t.kontext.hidden)
    (run_withHidden s s.kontext.hidden)
  exact hsame

theorem exit_withHidden
    (kkm : Kkm) (e : PayloadExit) (a : ExitAnswers) (user : ByteMemory)
    (s : RunState) (h : Hidden)
    (hregs : ∀ i, i ≠ 4 → i ≠ 5 →
      (leaveHidden e s.kontext.debugRegistersSet h).debug.registers i =
        (leavePayload e s.kontext).ga.debug.registers i) :
    RunState.exit cfg kkm e a user { s with kontext := s.kontext.withHidden h } =
      { s.exit cfg kkm e a user with
        kontext := (s.exit cfg kkm e a user).kontext.withHidden
          (leaveHidden e s.kontext.debugRegistersSet h) } ∧
    exitRet cfg kkm e a user { s with kontext := s.kontext.withHidden h } =
      exitRet cfg kkm e a user s := by
  have hintr := kkmProcessIntr_withHidden cfg kkm (leavePayload e s.kontext)
    (leaveHidden e s.kontext.debugRegistersSet h) hregs a { s.memory with user := user }
  simp only [RunState.exit, exitRet, leavePayload_withHidden, hintr, hide,
    countTrap_withHidden]
  by_cases hdone : (kkmProcessIntr cfg kkm a (leavePayload e s.kontext)
      { s.memory with user := user }).1 = kkmKontextFaultProcessDone
  · simp only [hdone, if_true]
    by_cases hcount : (countTrap (kkmProcessIntr cfg kkm a (leavePayload e s.kontext)
        { s.memory with user := user }).2.1).1 = 0
    · simp only [hcount, ne_eq, not_true_eq_false, if_false, and_self]
    · simp only [hcount, ne_eq, not_false_eq_true, if_true]
      exact ⟨return_withHidden rfl _ _, trivial⟩
  · simp only [hdone, if_false]
    exact ⟨return_withHidden rfl _ _, trivial⟩

theorem exit_hidden
    (kkm : Kkm) (e : PayloadExit) (a : ExitAnswers) (user : ByteMemory)
    (s : RunState) :
    (s.exit cfg kkm e a user).kontext.hidden =
      leaveHidden e s.kontext.debugRegistersSet s.kontext.hidden := by
  have hsame := congrArg (fun t : RunState => t.kontext.hidden)
    (exit_withHidden cfg kkm e a user s s.kontext.hidden (fun _ _ _ => rfl)).1
  exact hsame

/-- Nothing of what is loaded differs. -/
theorem shownEntry_withHidden
    {k : KkmKontext} {h : Hidden} (halike : k.hidden.Alike h) :
    shownEntry (k.withHidden h) = shownEntry k := by
  have hdata : xstateData h.image = xstateData k.payloadXsave :=
    xstateData_of_alike halike
  have hregisters : loadedDebugRegisters h.debug.registers =
      loadedDebugRegisters k.ga.debug.registers := by
    funext i
    rw [loadedDebugRegisters, loadedDebugRegisters]
    split
    · rfl
    · rename_i hi
      exact halike.registers i (fun h4 => hi (.inl h4)) (fun h5 => hi (.inr h5))
  simp only [shownEntry, KkmKontext.withHidden, hdata, hregisters]

/-- What looks the same gives the same answers and goes on looking the same. -/
theorem looksSame_isBisimulation :
    IsBisimulation (runStep cfg crc32) (kontextOutput cfg crc32) LooksSame := by
  have hboth : ∀ {s s' : RunState}, LooksSame s s' → ∀ e,
      kontextAnswer cfg crc32 s e = kontextAnswer cfg crc32 s' e ∧
        LooksSame (runStep cfg crc32 s e) (runStep cfg crc32 s' e) := by
    rintro s s' ⟨h, halike, rfl⟩ e
    cases e with
    | ioctl request =>
        by_cases hphase : s.phase = .monitor
        · obtain ⟨hret, hreply, h', halike', hk⟩ :=
            ioctl_withHidden cfg crc32 request halike
          simp only [kontextAnswer, runStep, if_pos hphase, hret, hreply, hk, true_and]
          exact ⟨h', halike', rfl⟩
        · simp only [kontextAnswer, runStep, if_neg hphase, true_and]
          exact ⟨h, halike, rfl⟩
    | writeRunPage run => exact ⟨rfl, h, halike, rfl⟩
    | writePrivateArea area => exact ⟨rfl, h, halike, rfl⟩
    | memory memory => exact ⟨rfl, h, halike, rfl⟩
    | run =>
        by_cases hphase : s.phase = .monitor
        · have hregs : kkmSetRegs (s.kontext.withHidden h) =
              (kkmSetRegs s.kontext).withHidden h := rfl
          simp only [kontextAnswer, runStep, if_pos hphase, hregs,
            kkmKontextSwitchKernelStart_withHidden, run_withHidden, true_and]
          refine ⟨h, ?_, rfl⟩
          rw [run_hidden]
          exact halike
        · simp only [kontextAnswer, runStep, if_neg hphase, true_and]
          exact ⟨h, halike, rfl⟩
    | begin signal e =>
        by_cases hphase : s.phase = .begin
        · cases signal with
          | true =>
              simp only [kontextAnswer, runStep, if_pos hphase, if_true, true_and]
              exact ⟨h, halike, rfl⟩
          | false =>
              have henter := enterPayload_withHidden s.kontext h e halike.singleStep
              have hentry : shownEntry ((enterPayload e s.kontext).withHidden h) =
                  shownEntry (enterPayload e s.kontext) :=
                shownEntry_withHidden halike
              simp only [kontextAnswer, runStep, if_pos hphase, RunState.begin,
                Bool.false_eq_true, if_false, henter, hentry, true_and]
              exact ⟨h, halike, rfl⟩
        · simp only [kontextAnswer, runStep, if_neg hphase, true_and]
          exact ⟨h, halike, rfl⟩
    | exit kkm e a user =>
        by_cases hphase : s.phase = .payload
        · obtain ⟨hnext, hret⟩ := exit_withHidden cfg kkm e a user s h
            (halike.leave e s.kontext.debugRegistersSet).registers
          simp only [kontextAnswer, runStep, if_pos hphase]
          refine ⟨hret.symm, _, ?_, hnext⟩
          rw [exit_hidden]
          exact halike.leave e s.kontext.debugRegistersSet
        · simp only [kontextAnswer, runStep, if_neg hphase, true_and]
          exact ⟨h, halike, rfl⟩
  constructor
  · intro s s' hsame e
    obtain ⟨hanswer, h, -, hnext⟩ := hboth hsame e
    simp only [kontextOutput, hanswer, hnext]
    rfl
  · intro s s' hsame e
    exact (hboth hsame e).2

end Steps

/-! ## What a difference shows -/

/-- The single-step flag is what the debug state says. -/
theorem payloadRflags_tf (debug : KkmDebug) (rflags : BitVec 64) :
    (payloadRflags debug rflags).getLsbD 8 = singleStep debug := by
  have hset : ∀ r : BitVec 64, (r ||| x86EflagsTf).getLsbD 8 = true := by
    intro r
    simp [x86EflagsTf]
  have hclear : ∀ r : BitVec 64, (r &&& ~~~x86EflagsTf).getLsbD 8 = false := by
    intro r
    simp [x86EflagsTf]
  rw [payloadRflags]
  cases singleStep debug with
  | true => exact hset _
  | false => exact hclear _

section Shown

variable {cfg : KkmConfig} {crc32 : List (BitVec 8) → BitVec 32}
variable {s s' : RunState}

/-- Every request gets the same answer. -/
theorem reply_eq_of_indistinct
    (h : Indistinct (runStep cfg crc32) (kontextOutput cfg crc32) s' s)
    (hphase' : s'.phase = .monitor) (hphase : s.phase = .monitor)
    (request : KontextIoctl) :
    copiedReply (kkmExecutionKontextIoctl cfg crc32 request s'.kontext).2.1 =
      copiedReply (kkmExecutionKontextIoctl cfg crc32 request s.kontext).2.1 := by
  have hanswer := congrArg KontextOutput.answer (h.out_eq (.ioctl request))
  simp only [kontextOutput, kontextAnswer, if_pos hphase, if_pos hphase',
    KontextAnswer.reply.injEq] at hanswer
  exact hanswer.2

/-- Every image handed out is the same where it shows the xsave page. -/
theorem image_eq_of_indistinct
    (h : Indistinct (runStep cfg crc32) (kontextOutput cfg crc32) s' s)
    (hphase' : s'.phase = .monitor) (hphase : s.phase = .monitor) :
    (∀ i < 4088, i ≠ 4084 → s'.kontext.payloadXsave i = s.kontext.payloadXsave i) ∧
      s'.kontext.validPayloadXsaveArea = s.kontext.validPayloadXsaveArea := by
  have hreply := reply_eq_of_indistinct h hphase' hphase (.getXstate false)
  simp only [kkmExecutionKontextIoctl, copiedReply, KontextReply.xstate.injEq] at hreply
  have hbyte : ∀ i < 4096, xstateToUser cfg crc32 s'.kontext i =
      xstateToUser cfg crc32 s.kontext i := by
    intro i hi
    have hi' := congrFun hreply i
    rwa [if_pos hi, if_pos hi] at hi'
  constructor
  · intro i hi hne
    have hpage : ∀ k, xstateToUser cfg crc32 k i = k.payloadXsave i := by
      intro k
      rw [xstateToUser_eq, xstateUnsummed,
        setXstateField_of_outside (.inl (by rw [xstateCrc32]; omega)),
        setXstateField_of_outside (.inl (by rw [xstateFormat]; omega)),
        overlay_of_outside (by rw [xstateValid, List.length_singleton]; omega)]
    rw [← hpage s'.kontext, ← hpage s.kontext]
    exact hbyte i (by omega)
  · rw [← xstateValid_xstateToUser cfg crc32 s'.kontext,
      ← xstateValid_xstateToUser cfg crc32 s.kontext, hbyte xstateValid (by decide)]

/-- The debug state of an entry that nothing delays. -/
theorem clearAndRun_debug (hphase : s.phase = .monitor) :
    let t := (clearAndRun .zeroed).foldl (runStep cfg crc32) s
    t.kontext.ga.debug = s.kontext.ga.debug ∧
      t.kontext.debugRegistersSet = s.kontext.debugRegistersSet := by
  intro t
  have ht : t = (clearedState .zeroed s).run := clearAndRun_eq cfg crc32 hphase .zeroed
  have hstart := kkmKontextSwitchKernelStart_sameLoads s.memory.user
    (kkmSetRegs (clearedState .zeroed s).kontext)
  rw [ht]
  exact ⟨congrArg Hidden.debug (run_hidden (clearedState .zeroed s)),
    hstart.debugRegistersSet⟩

/-- Entries that show the same load the same debug state. -/
theorem debug_eq_of_shownEntry
    {k k' : KkmKontext} {e : EntryCpu}
    (h : shownEntry (enterPayload e k') = shownEntry (enterPayload e k)) :
    k'.debugRegistersSet = k.debugRegistersSet ∧
      singleStep k'.ga.debug = singleStep k.ga.debug ∧
      (k.debugRegistersSet = true → ∀ i, i ≠ 4 → i ≠ 5 →
        k'.ga.debug.registers i = k.ga.debug.registers i) := by
  have hstep : singleStep k'.ga.debug = singleStep k.ga.debug := by
    have hrflags := congrArg (fun entry => entry.regs.rflags.getLsbD 8) h
    simp only [shownEntry, enterPayload_regs, payloadRflags_tf] at hrflags
    exact hrflags
  have hloaded : (if k'.debugRegistersSet then
        some (loadedDebugRegisters k'.ga.debug.registers) else none) =
      if k.debugRegistersSet then
        some (loadedDebugRegisters k.ga.debug.registers) else none :=
    congrArg PayloadEntry.debugRegisters h
  cases huse : k.debugRegistersSet with
  | false =>
      cases huse' : k'.debugRegistersSet with
      | false => exact ⟨rfl, hstep, fun h => absurd h Bool.false_ne_true⟩
      | true => simp [huse, huse'] at hloaded
  | true =>
      cases huse' : k'.debugRegistersSet with
      | false => simp [huse, huse'] at hloaded
      | true =>
          refine ⟨rfl, hstep, fun _ i h4 h5 => ?_⟩
          simp only [huse, huse', if_true, Option.some.injEq] at hloaded
          have hi := congrFun hloaded i
          simpa only [loadedDebugRegisters, h4, h5, or_self, if_false] using hi

/-- Every entry loads the same debug state. -/
theorem debug_eq_of_indistinct
    (h : Indistinct (runStep cfg crc32) (kontextOutput cfg crc32) s' s)
    (hphase' : s'.phase = .monitor) (hphase : s.phase = .monitor) :
    s'.kontext.debugRegistersSet = s.kontext.debugRegistersSet ∧
      singleStep s'.kontext.ga.debug = singleStep s.kontext.ga.debug ∧
      (s.kontext.debugRegistersSet = true → ∀ i, i ≠ 4 → i ≠ 5 →
        s'.kontext.ga.debug.registers i = s.kontext.ga.debug.registers i) := by
  have hbegin := (clearAndRun_quiet cfg crc32 hphase .zeroed).2
  have hbegin' := (clearAndRun_quiet cfg crc32 hphase' .zeroed).2
  obtain ⟨hdebug, hset⟩ : _ ∧ _ := clearAndRun_debug hphase
  obtain ⟨hdebug', hset'⟩ : _ ∧ _ := clearAndRun_debug hphase'
  have hanswer := congrArg KontextOutput.answer
    ((h.run (clearAndRun .zeroed)).out_eq (.begin false ⟨0, 0⟩))
  simp only [kontextOutput, kontextAnswer] at hanswer
  rw [if_pos hbegin, if_pos hbegin'] at hanswer
  have hentry := debug_eq_of_shownEntry (KontextAnswer.entered.inj hanswer)
  rwa [hdebug, hdebug', hset, hset'] at hentry

end Shown

/-! ## Main result -/

/-- The requests that set or save state. -/
def SetsOrSaves : KontextIoctl → Prop
  | .setRegs _ => True
  | .setSregs _ => True
  | .setFpu _ => True
  | .setDebug _ => True
  | .getSaveInfo _ => True
  | .setSaveInfo _ => True
  | .setXstate _ => True
  | _ => False

/-- What a failed request has overwritten is what was there, as far as it is
seen. -/
def OverwritesNothing (k : KkmKontext) : KontextIoctl → Prop
  | .setRegs copy => copy.value = k.ga.regs
  | .setSregs copy => copy.value = k.ga.sregs
  | .setFpu copy =>
      { copy.value with pad1 := 0, pad2 := 0 } = kkmCopyXstateToKkmFpu k.payloadXsave ∧
        k.payloadXsave (xstateTwd + 1) = 0#8
  | .setDebug copy =>
      k.debugRegistersSet = true ∧ singleStep copy.value = singleStep k.ga.debug ∧
        ∀ i, i ≠ 4 → i ≠ 5 → copy.value.registers i = k.ga.debug.registers i
  | .getSaveInfo _ =>
      k.syscallPending = false ∧ k.retValMva = minusOne ∧ k.exceptionPosted = false ∧
        k.exceptionSavedRax = minusOne ∧ k.exceptionSavedRbx = minusOne
  | .setXstate copy =>
      (∀ i < 4088, i ≠ 4084 → copy.value i = k.payloadXsave i) ∧
        (copy.failed = false → k.validPayloadXsaveArea = false)
  | _ => True

section Requests

variable (cfg : KkmConfig) (crc32 : List (BitVec 8) → BitVec 32)

/-- What a failed `KKM_KONTEXT_SET_XSTATE` leaves. -/
theorem kkmKontextSetXstate_of_failed
    {copy : UserCopy (Nat → BitVec 8)} {k : KkmKontext}
    (hfailed : (kkmKontextSetXstate cfg crc32 copy k).1 ≠ 0) :
    (kkmKontextSetXstate cfg crc32 copy k).2 =
      { k with
        payloadXsave := copy.value
        validPayloadXsaveArea := copy.failed && k.validPayloadXsaveArea } := by
  obtain ⟨failed, image⟩ := copy
  cases failed with
  | true => rfl
  | false =>
      by_cases hmatch : XstateMismatch cfg crc32 image
      · rw [kkmKontextSetXstate_of_mismatch cfg crc32 hmatch]
        rfl
      · rw [kkmKontextSetXstate_of_match cfg crc32 hmatch] at hfailed
        exact absurd rfl hfailed

/-- Nothing is left to be cleared. -/
theorem kkmKontextGetSaveInfo_of_cleared
    {k : KkmKontext} (hpending : k.syscallPending = false)
    (hmva : k.retValMva = minusOne) (hposted : k.exceptionPosted = false)
    (hrax : k.exceptionSavedRax = minusOne) (hrbx : k.exceptionSavedRbx = minusOne) :
    (kkmKontextGetSaveInfo k).2 = k := by
  cases k
  dsimp only at hpending hmva hposted hrax hrbx
  subst hpending hmva hposted hrax hrbx
  rfl

/-- A kontext that differs in hidden parts only is not told apart. -/
theorem indistinct_of_hidden
    {s : RunState} {k : KkmKontext} (halike : k.hidden.Alike s.kontext.hidden)
    (hrest : k.withHidden s.kontext.hidden = s.kontext) :
    Indistinct (runStep cfg crc32) (kontextOutput cfg crc32) { s with kontext := k } s := by
  refine (looksSame_isBisimulation cfg crc32).indistinct ⟨s.kontext.hidden, halike, ?_⟩
  simp only [hrest]

/-- A request that changes nothing is not noticed. -/
theorem indistinct_of_eq
    {s : RunState} {k : KkmKontext} (h : k = s.kontext) :
    Indistinct (runStep cfg crc32) (kontextOutput cfg crc32) { s with kontext := k } s := by
  subst h
  exact .refl s

variable {s : RunState} (hphase : s.phase = .monitor)
include hphase

theorem setFpu_unnoticed_iff (fpu : KkmFpu) :
    Indistinct (runStep cfg crc32) (kontextOutput cfg crc32)
        { s with kontext := withFpu cfg crc32 fpu s.kontext } s ↔
      { fpu with pad1 := 0, pad2 := 0 } = kkmCopyXstateToKkmFpu s.kontext.payloadXsave ∧
        s.kontext.payloadXsave (xstateTwd + 1) = 0#8 := by
  constructor
  · intro h
    have himage := (image_eq_of_indistinct h hphase hphase).1
    simp only [withFpu_payloadXsave] at himage
    have hdata : xstateData (kkmCopyKkmFpuToXstate fpu s.kontext.payloadXsave) =
        xstateData s.kontext.payloadXsave :=
      imageBytes_eq_iff.mpr fun j hj => himage (0 + j)
        (by rw [kkmXstateDataSize] at hj; omega) (by rw [kkmXstateDataSize] at hj; omega)
    constructor
    · rw [← kkmCopyXstateToKkmFpu_of_xstateData hdata, kkmCopyXstateToKkmFpu_copied]
    · rw [← himage (xstateTwd + 1) (by decide) (by decide), twd_high_of_copied]
  · rintro ⟨hview, htwd⟩
    have hself : kkmCopyKkmFpuToXstate fpu s.kontext.payloadXsave =
        s.kontext.payloadXsave := by
      have hpads : kkmCopyKkmFpuToXstate fpu s.kontext.payloadXsave =
          kkmCopyKkmFpuToXstate { fpu with pad1 := 0, pad2 := 0 }
            s.kontext.payloadXsave := rfl
      rw [hpads, hview, kkmCopyKkmFpuToXstate_self _ htwd]
    refine indistinct_of_hidden cfg crc32 ⟨rfl, fun _ _ _ => rfl, ?_⟩ rfl
    intro i _ _
    exact (congrFun hself i).symm

theorem setDebug_unnoticed_iff (debug : KkmDebug) :
    Indistinct (runStep cfg crc32) (kontextOutput cfg crc32)
        { s with kontext := { s.kontext with
          ga := { s.kontext.ga with debug := debug }
          debugRegistersSet := true } } s ↔
      s.kontext.debugRegistersSet = true ∧
        singleStep debug = singleStep s.kontext.ga.debug ∧
        ∀ i, i ≠ 4 → i ≠ 5 → debug.registers i = s.kontext.ga.debug.registers i := by
  constructor
  · intro h
    obtain ⟨hset, hsingle, hregisters⟩ := debug_eq_of_indistinct h hphase hphase
    exact ⟨hset.symm, hsingle, hregisters hset.symm⟩
  · rintro ⟨hset, hsingle, hregisters⟩
    refine indistinct_of_hidden cfg crc32 ⟨hsingle.symm, ?_, fun _ _ _ => rfl⟩ ?_
    · intro i h4 h5
      exact (hregisters i h4 h5).symm
    · simp only [KkmKontext.withHidden, KkmKontext.hidden, ← hset]

theorem getSaveInfo_unnoticed_iff :
    Indistinct (runStep cfg crc32) (kontextOutput cfg crc32)
        { s with kontext := (kkmKontextGetSaveInfo s.kontext).2 } s ↔
      s.kontext.syscallPending = false ∧ s.kontext.retValMva = minusOne ∧
        s.kontext.exceptionPosted = false ∧ s.kontext.exceptionSavedRax = minusOne ∧
        s.kontext.exceptionSavedRbx = minusOne := by
  constructor
  · intro h
    have hinfo : (kkmKontextGetSaveInfo s.kontext).2.saveInfo = s.kontext.saveInfo :=
      KontextReply.saveInfo.inj
        (reply_eq_of_indistinct h hphase hphase (.getSaveInfo false))
    exact ⟨congrArg KkmSaveInfo.syscallPending hinfo.symm,
      congrArg KkmSaveInfo.retValMva hinfo.symm,
      congrArg KkmSaveInfo.exceptionPosted hinfo.symm,
      congrArg KkmSaveInfo.exceptionSavedRax hinfo.symm,
      congrArg KkmSaveInfo.exceptionSavedRbx hinfo.symm⟩
  · rintro ⟨hpending, hmva, hposted, hrax, hrbx⟩
    exact indistinct_of_eq cfg crc32
      (kkmKontextGetSaveInfo_of_cleared hpending hmva hposted hrax hrbx)

theorem setXstate_unnoticed_iff (copy : UserCopy (Nat → BitVec 8)) :
    Indistinct (runStep cfg crc32) (kontextOutput cfg crc32)
        { s with kontext := { s.kontext with
          payloadXsave := copy.value
          validPayloadXsaveArea := copy.failed && s.kontext.validPayloadXsaveArea } } s ↔
      (∀ i < 4088, i ≠ 4084 → copy.value i = s.kontext.payloadXsave i) ∧
        (copy.failed = false → s.kontext.validPayloadXsaveArea = false) := by
  constructor
  · intro h
    obtain ⟨himage, hvalid⟩ := image_eq_of_indistinct h hphase hphase
    refine ⟨himage, fun hfailed => ?_⟩
    simpa [hfailed] using hvalid.symm
  · rintro ⟨himage, hvalid⟩
    have hflag : (copy.failed && s.kontext.validPayloadXsaveArea) =
        s.kontext.validPayloadXsaveArea := by
      cases hfailed : copy.failed with
      | true => rfl
      | false => exact (hvalid hfailed).symm
    refine indistinct_of_hidden cfg crc32 ⟨rfl, fun _ _ _ => rfl, ?_⟩ ?_
    · intro i hi hne
      exact (himage i hi hne).symm
    · simp only [KkmKontext.withHidden, KkmKontext.hidden, hflag]

/-- A request that fails is unnoticed exactly if it has overwritten nothing. -/
theorem failure_unnoticed_iff
    {request : KontextIoctl} (hrequest : SetsOrSaves request)
    (hfailed : (kkmExecutionKontextIoctl cfg crc32 request s.kontext).1 ≠ 0) :
    Indistinct (runStep cfg crc32) (kontextOutput cfg crc32)
        (runStep cfg crc32 s (.ioctl request)) s ↔
      OverwritesNothing s.kontext request := by
  have hstep : runStep cfg crc32 s (.ioctl request) = { s with
      kontext := (kkmExecutionKontextIoctl cfg crc32 request s.kontext).2.2 } :=
    if_pos hphase
  rw [hstep]
  cases request with
  | setRegs copy =>
      constructor
      · intro h
        exact KontextReply.regs.inj
          (reply_eq_of_indistinct h hphase hphase (.getRegs false))
      · intro hvalue
        exact indistinct_of_eq cfg crc32 (congrArg s.kontext.setRegs hvalue)
  | setSregs copy =>
      constructor
      · intro h
        exact KontextReply.sregs.inj
          (reply_eq_of_indistinct h hphase hphase (.getSregs false))
      · intro hvalue
        exact indistinct_of_eq cfg crc32 (congrArg (fun sregs =>
          { s.kontext with ga := { s.kontext.ga with sregs := sregs } }) hvalue)
  | setFpu copy => exact setFpu_unnoticed_iff cfg crc32 hphase copy.value
  | setDebug copy => exact setDebug_unnoticed_iff cfg crc32 hphase copy.value
  | getSaveInfo failed => exact getSaveInfo_unnoticed_iff cfg crc32 hphase
  | setSaveInfo copy =>
      have hcopy : copy.failed = true := by
        by_contra hok
        exact hfailed (if_neg hok)
      exact ⟨fun _ => trivial, fun _ => indistinct_of_eq cfg crc32 (if_pos hcopy)⟩
  | setXstate copy =>
      rw [setXstate_eq] at hfailed ⊢
      rw [kkmKontextSetXstate_of_failed cfg crc32 hfailed]
      exact setXstate_unnoticed_iff cfg crc32 hphase copy
  | _ => exact hrequest.elim

end Requests

/-- A copy that fails at its first byte. -/
theorem failure_unnoticed_first_byte :
    let request := KontextIoctl.setRegs ⟨true, newMonitor.kontext.ga.regs⟩
    (kkmExecutionKontextIoctl .stock (fun _ => 0) request newMonitor.kontext).1 = -efault ∧
      Indistinct (runStep .stock fun _ => 0) (kontextOutput .stock fun _ => 0)
        (runStep .stock (fun _ => 0) newMonitor (.ioctl request)) newMonitor := by
  intro request
  have hfailed : (kkmExecutionKontextIoctl .stock (fun _ => 0) request
      newMonitor.kontext).1 = -efault := rfl
  refine ⟨hfailed, ?_⟩
  have hne : (kkmExecutionKontextIoctl .stock (fun _ => 0) request
      newMonitor.kontext).1 ≠ 0 := by
    rw [hfailed]
    decide
  exact (@failure_unnoticed_iff .stock (fun _ => 0) newMonitor rfl request trivial
    hne).mpr rfl

/-- A copy that fails after `rip` has been overwritten. -/
def partialRegs : KontextIoctl :=
  .setRegs ⟨true, { KkmRegs.zeroed with rip := 0x401000#64 }⟩

/-- The next `KKM_GET_REGS` shows it. -/
theorem failed_setRegs_noticed :
    (kkmExecutionKontextIoctl .stock (fun _ => 0) partialRegs newMonitor.kontext).1 =
        -efault ∧
      ¬ Indistinct (runStep .stock fun _ => 0) (kontextOutput .stock fun _ => 0)
        (runStep .stock (fun _ => 0) newMonitor (.ioctl partialRegs)) newMonitor := by
  refine ⟨rfl, ?_⟩
  intro h
  have hphase : (runStep .stock (fun _ => 0) newMonitor (.ioctl partialRegs)).phase =
      .monitor := rfl
  have hregs := KontextReply.regs.inj (reply_eq_of_indistinct h hphase rfl (.getRegs false))
  have hrip := congrArg KkmRegs.rip hregs
  exact absurd hrip (by decide +kernel)

end Driver
end KkmModule
