import KkmModule.Driver.KontextRun

/-!
# Interrupted calls of `KKM_RUN`

A call that returns -EINTR before it has entered the payload may already have
done everything that comes before the label `begin`.  The next call does not do
it again: `restart_enters_the_same` compares any number of interrupted calls and
the one that enters with a single call from the same state.
-/

namespace KkmModule
namespace Driver

open Foundation

/-- The monitor sets `immediate_exit`. -/
def setImmediateExit (flag : BitVec 8) (kontext : KkmKontext) : KkmKontext :=
  { kontext with run := { kontext.run with immediateExit := flag } }

/-- `k'` is left after calls of `KKM_RUN` that returned -EINTR, between which
the monitor has set nothing but `immediate_exit`. -/
inductive InterruptedRuns (m : ByteMemory) : KkmKontext → KkmKontext → Prop where
  | none (k : KkmKontext) : InterruptedRuns m k k
  | again
      {k k' k'' : KkmKontext} (flag : BitVec 8) (signal : Bool) (e : EntryCpu)
      (hrun : kkmRunEntry m signal e (setImmediateExit flag k) =
        .returned (-eintr) k')
      (hruns : InterruptedRuns m k' k'') :
      InterruptedRuns m k k''

/-- What two entries of the payload have in common. -/
structure SameEntry (k k' : KkmKontext) : Prop where
  regs : k'.ga.regs = k.ga.regs
  sregs : k'.ga.sregs = k.ga.sregs
  xsave : k'.payloadXsave = k.payloadXsave
  restore : k'.validPayloadXsaveArea = k.validPayloadXsaveArea
  syscallPending : k'.syscallPending = k.syscallPending
  exceptionPosted : k'.exceptionPosted = k.exceptionPosted
  newThread : k'.newThread = k.newThread

/-! ## The run page does not matter -/

/-- The kontexts differ in the run page only. -/
def SameButRun (k k' : KkmKontext) : Prop := ∃ r, k' = { k with run := r }

theorem SameButRun.refl (k : KkmKontext) : SameButRun k k := ⟨k.run, rfl⟩

theorem SameButRun.symm {k k' : KkmKontext} (h : SameButRun k k') :
    SameButRun k' k := by
  obtain ⟨r, rfl⟩ := h
  exact ⟨k.run, rfl⟩

theorem SameButRun.trans
    {k k' k'' : KkmKontext} (h : SameButRun k k') (h' : SameButRun k' k'') :
    SameButRun k k'' := by
  obtain ⟨r, rfl⟩ := h
  obtain ⟨r', rfl⟩ := h'
  exact ⟨r', rfl⟩

theorem kkmGetRegs_sameButRun (k : KkmKontext) : SameButRun k (kkmGetRegs k) :=
  ⟨runPageRegs k, rfl⟩

/-- No register set of the run page waits to be copied. -/
def RegsClean (k : KkmKontext) : Prop :=
  k.run.kkmDirtyRegs &&& kkmSyncX86Regs = 0 ∧
    k.run.kkmDirtyRegs &&& kkmSyncX86Sregs = 0

theorem and_not_and_self (x y : BitVec 64) : x &&& ~~~y &&& y = 0 := by
  ext i hi
  simp

theorem clearDirty_and_self (sync dirty : BitVec 64) :
    clearDirty sync dirty &&& sync = 0 := by
  unfold clearDirty
  split
  · exact and_not_and_self dirty sync
  · rename_i hclean
    exact not_not.mp hclean

theorem clearDirty_and
    {sync sync' dirty : BitVec 64} (h : dirty &&& sync' = 0) :
    clearDirty sync dirty &&& sync' = 0 := by
  unfold clearDirty
  split
  · rw [BitVec.and_assoc, BitVec.and_comm (~~~sync), ← BitVec.and_assoc, h]
    simp
  · exact h

theorem clearDirty_of_clean {sync dirty : BitVec 64} (h : dirty &&& sync = 0) :
    clearDirty sync dirty = dirty :=
  if_neg (not_not.mpr h)

theorem kkmSetRegs_clean (k : KkmKontext) : RegsClean (kkmSetRegs k) :=
  ⟨clearDirty_and (clearDirty_and_self _ _), clearDirty_and_self _ _⟩

theorem kkmSetRegs_of_clean {k : KkmKontext} (h : RegsClean k) :
    kkmSetRegs k = k := by
  obtain ⟨hregs, hsregs⟩ := h
  simp only [kkmSetRegs, clearDirty_of_clean hregs, clearDirty_of_clean hsregs,
    if_neg (not_not.mpr hregs), if_neg (not_not.mpr hsregs)]

/-! ## Doing the start again -/

/-- Everything before `begin`, whatever `immediate_exit` says. -/
def startKontext (m : ByteMemory) (k : KkmKontext) : Int × KkmKontext :=
  kkmKontextSwitchKernelStart m (setImmediateExit 0 k)

theorem handleSyscallResponse_run (m : ByteMemory) (r : KkmRun) (k : KkmKontext) :
    kkmKontextHandleSyscallResponse m { k with run := r } =
      ((kkmKontextHandleSyscallResponse m k).1,
        { (kkmKontextHandleSyscallResponse m k).2 with run := r }) := by
  by_cases hpending : k.syscallPending = true
  · cases hread : readWord m k.retValMva with
    | none => simp [kkmKontextHandleSyscallResponse, hpending, hread]
    | some v =>
        simp [kkmKontextHandleSyscallResponse, hpending, hread, KkmKontext.setRegs]
  · simp [kkmKontextHandleSyscallResponse, hpending]

/-- Apart from `immediate_exit` the run page plays no part before `begin`. -/
theorem kkmKontextSwitchKernelStart_run
    (m : ByteMemory) (k : KkmKontext) {r : KkmRun}
    (hk : k.run.immediateExit ≠ 1#8) (hr : r.immediateExit ≠ 1#8) :
    (kkmKontextSwitchKernelStart m { k with run := r }).1 =
        (kkmKontextSwitchKernelStart m k).1 ∧
      SameButRun (kkmKontextSwitchKernelStart m k).2
        (kkmKontextSwitchKernelStart m { k with run := r }).2 := by
  have hresponse := handleSyscallResponse_run m r (startNewThread k)
  have hnew : startNewThread { k with run := r } =
      { startNewThread k with run := r } := rfl
  simp only [kkmKontextSwitchKernelStart, if_neg hk, if_neg hr, hnew, hresponse]
  split
  · exact ⟨rfl, r, rfl⟩
  · exact ⟨rfl, r, rfl⟩

/-- The start of `k'` ends like the start of `k`. -/
def Restarts (m : ByteMemory) (k k' : KkmKontext) : Prop :=
  (startKontext m k').1 = (startKontext m k).1 ∧
    SameButRun (startKontext m k).2 (startKontext m k').2

theorem Restarts.of_sameButRun
    (m : ByteMemory) {k k' : KkmKontext} (h : SameButRun k k') :
    Restarts m k k' := by
  obtain ⟨r, rfl⟩ := h
  exact kkmKontextSwitchKernelStart_run m (setImmediateExit 0 k)
    (show (0#8 : BitVec 8) ≠ 1#8 by decide) (show (0#8 : BitVec 8) ≠ 1#8 by decide)

theorem Restarts.trans
    {m : ByteMemory} {k k' k'' : KkmKontext}
    (h : Restarts m k k') (h' : Restarts m k' k'') :
    Restarts m k k'' :=
  ⟨h'.1.trans h.1, h.2.trans h'.2⟩

/-- Nothing is left to do before `begin`. -/
structure Started (k : KkmKontext) : Prop where
  newThread : k.newThread = false
  syscallPending : k.syscallPending = false
  exceptionPosted : k.exceptionPosted = false
  savedRax : k.exceptionSavedRax = minusOne
  savedRbx : k.exceptionSavedRbx = minusOne
  prevTrapNo : k.prevTrapNo = minusOne
  prevTrapAddr : k.prevTrapAddr = minusOne
  prevErrorCode : k.prevErrorCode = minusOne
  trapRepeatCounter : k.trapRepeatCounter = minusOne

theorem handleSyscallResponse_started
    {m : ByteMemory} {k : KkmKontext}
    (hzero : (kkmKontextHandleSyscallResponse m k).1 = 0) :
    (kkmKontextHandleSyscallResponse m k).2.syscallPending = false ∧
      (kkmKontextHandleSyscallResponse m k).2.newThread = k.newThread := by
  simp only [kkmKontextHandleSyscallResponse] at hzero ⊢
  split at hzero
  · split at hzero
    · cases hzero
    · rename_i hpending _ _ hread
      simp [hpending, KkmKontext.setRegs]
  · rename_i hnone
    rw [if_neg hnone]
    exact ⟨Bool.eq_false_iff.mpr hnone, rfl⟩

theorem started_of_flags
    {k : KkmKontext} (hnew : k.newThread = false)
    (hpending : k.syscallPending = false) :
    Started (forgetTrap (restoreException k)) :=
  ⟨hnew, hpending, rfl, rfl, rfl, rfl, rfl, rfl, rfl⟩

theorem kkmKontextSwitchKernelStart_started
    {m : ByteMemory} {k : KkmKontext}
    (hzero : (kkmKontextSwitchKernelStart m k).1 = 0) :
    Started (kkmKontextSwitchKernelStart m k).2 := by
  simp only [kkmKontextSwitchKernelStart] at hzero ⊢
  split at hzero
  · cases hzero
  · rename_i himmediate
    rw [if_neg himmediate]
    split at hzero
    · contradiction
    · rename_i hresponse
      rw [if_neg hresponse]
      have hflags := handleSyscallResponse_started (not_not.mp hresponse)
      exact started_of_flags hflags.2 hflags.1

/-- The start of a kontext that has been started changes nothing. -/
theorem Started.start
    {k : KkmKontext} (h : Started k) (m : ByteMemory) :
    startKontext m k = (0, setImmediateExit 0 k) := by
  obtain ⟨hnew, hpending, hposted, hrax, hrbx, htrap, haddr, hcode, hcount⟩ := h
  have hstart : startNewThread (setImmediateExit 0 k) = setImmediateExit 0 k := by
    simp [startNewThread, isCloneStart, setImmediateExit, KkmKontext.setRegs, hnew]
  have hresponse : kkmKontextHandleSyscallResponse m (setImmediateExit 0 k) =
      (0, setImmediateExit 0 k) := by
    simp [kkmKontextHandleSyscallResponse, setImmediateExit, hpending]
  have hrest : forgetTrap (restoreException (setImmediateExit 0 k)) =
      setImmediateExit 0 k := by
    simp [forgetTrap, restoreException, setImmediateExit, KkmKontext.setRegs,
      hposted, hrax, hrbx, htrap, haddr, hcode, hcount]
  have hflag : ¬ (setImmediateExit 0 k).run.immediateExit = 1#8 := by
    simp [setImmediateExit]
  simp only [startKontext, kkmKontextSwitchKernelStart, if_neg hflag, hstart,
    hresponse, hrest]
  simp

/-! ## Interrupted runs -/

/-- The three ends of `kkmRunEntry`. -/
theorem kkmRunEntry_cases
    (m : ByteMemory) (signal : Bool) (e : EntryCpu) (k : KkmKontext) :
    let r := kkmKontextSwitchKernelStart m (kkmSetRegs k)
    (r.1 ≠ 0 ∧ kkmRunEntry m signal e k = .returned r.1 (kkmGetRegs r.2)) ∨
      (r.1 = 0 ∧ signal = true ∧
        kkmRunEntry m signal e k =
          .returned (-eintr) (kkmGetRegs (signalExit r.2))) ∨
      (r.1 = 0 ∧ signal = false ∧
        kkmRunEntry m signal e k = .entered (enterPayload e r.2)) := by
  intro r
  by_cases hzero : r.1 = 0
  · have hif : ¬ r.1 ≠ 0 := not_not.mpr hzero
    cases signal with
    | true => exact Or.inr (Or.inl ⟨hzero, rfl, if_neg hif⟩)
    | false => exact Or.inr (Or.inr ⟨hzero, rfl, if_neg hif⟩)
  · exact Or.inl ⟨hzero, if_pos hzero⟩

theorem handleSyscallResponse_ret (m : ByteMemory) (k : KkmKontext) :
    (kkmKontextHandleSyscallResponse m k).1 ≠ -eintr := by
  have hfault : -efault ≠ -eintr := by decide
  have hzero : (0 : Int) ≠ -eintr := by decide
  unfold kkmKontextHandleSyscallResponse
  split
  · split
    · exact hfault
    · exact hzero
  · exact hzero

/-- Before `begin` only `immediate_exit` leads to -EINTR. -/
theorem kkmKontextSwitchKernelStart_eintr
    {m : ByteMemory} {k : KkmKontext}
    (hret : (kkmKontextSwitchKernelStart m k).1 = -eintr) :
    (kkmKontextSwitchKernelStart m k).2 = k := by
  simp only [kkmKontextSwitchKernelStart] at hret ⊢
  split at hret
  · rename_i himmediate
    rw [if_pos himmediate]
  · split at hret
    · exact absurd hret (handleSyscallResponse_ret m _)
    · cases hret

/-- Reaching `begin` needs no `immediate_exit`. -/
theorem kkmKontextSwitchKernelStart_zero
    {m : ByteMemory} {k : KkmKontext}
    (hret : (kkmKontextSwitchKernelStart m k).1 = 0) :
    k.run.immediateExit ≠ 1#8 := by
  intro himmediate
  simp only [kkmKontextSwitchKernelStart, if_pos himmediate] at hret
  cases hret

/-- Whatever `immediate_exit` says, unless it is set. -/
theorem startKontext_of_unset
    (m : ByteMemory) {k : KkmKontext} (hk : k.run.immediateExit ≠ 1#8) :
    (kkmKontextSwitchKernelStart m k).1 = (startKontext m k).1 ∧
      SameButRun (startKontext m k).2 (kkmKontextSwitchKernelStart m k).2 :=
  kkmKontextSwitchKernelStart_run m (setImmediateExit 0 k)
    (show (0#8 : BitVec 8) ≠ 1#8 by decide) hk

theorem handleSyscallResponse_runPage (m : ByteMemory) (k : KkmKontext) :
    (kkmKontextHandleSyscallResponse m k).2.run = k.run := by
  unfold kkmKontextHandleSyscallResponse
  split
  · split
    · rfl
    · rfl
  · rfl

theorem restored_runPage (k : KkmKontext) :
    (forgetTrap (restoreException k)).run = k.run := by
  simp only [forgetTrap, restoreException, KkmKontext.setRegs]

theorem startNewThread_runPage (k : KkmKontext) : (startNewThread k).run = k.run := by
  simp only [startNewThread, KkmKontext.setRegs]

theorem kkmKontextSwitchKernelStart_runPage (m : ByteMemory) (k : KkmKontext) :
    (kkmKontextSwitchKernelStart m k).2.run = k.run := by
  have hresponse := handleSyscallResponse_runPage m (startNewThread k)
  rw [startNewThread_runPage] at hresponse
  simp only [kkmKontextSwitchKernelStart]
  split
  · rfl
  · split
    · exact hresponse
    · rw [restored_runPage]
      exact hresponse

theorem Started.of_sameButRun
    {k k' : KkmKontext} (hk : Started k) (h : SameButRun k k') :
    Started k' := by
  obtain ⟨r, rfl⟩ := h
  exact ⟨hk.newThread, hk.syscallPending, hk.exceptionPosted, hk.savedRax,
    hk.savedRbx, hk.prevTrapNo, hk.prevTrapAddr, hk.prevErrorCode,
    hk.trapRepeatCounter⟩

theorem Restarts.of_started
    {m : ByteMemory} {k k' : KkmKontext}
    (hk : k.run.immediateExit ≠ 1#8)
    (hzero : (kkmKontextSwitchKernelStart m k).1 = 0)
    (h : SameButRun (kkmKontextSwitchKernelStart m k).2 k') :
    Restarts m k k' := by
  have hstarted := (kkmKontextSwitchKernelStart_started hzero).of_sameButRun h
  obtain ⟨hret, hsame⟩ := startKontext_of_unset m hk
  have hagain := hstarted.start m
  constructor
  · rw [hagain, ← hret, hzero]
  · rw [hagain]
    exact (hsame.trans h).trans ⟨_, rfl⟩

/-- Nothing but `immediate_exit` and a signal at `begin` make a run return
-EINTR: it has done nothing of the start, or all of it. -/
theorem restarts_of_interrupted
    {m : ByteMemory} {k k' : KkmKontext} {signal : Bool} {e : EntryCpu}
    (hrun : kkmRunEntry m signal e k = .returned (-eintr) k') :
    RegsClean k' ∧ Restarts m (kkmSetRegs k) k' := by
  have hclean := kkmSetRegs_clean k
  rcases kkmRunEntry_cases m signal e k with
    ⟨_, hend⟩ | ⟨hzero, _, hend⟩ | ⟨_, _, hend⟩
  · -- `immediate_exit`
    rw [hend] at hrun
    injection hrun with hret hk'
    rw [kkmKontextSwitchKernelStart_eintr hret] at hk'
    subst hk'
    exact ⟨hclean, .of_sameButRun m (kkmGetRegs_sameButRun _)⟩
  · -- a signal at `begin`
    rw [hend] at hrun
    injection hrun with _ hk'
    subst hk'
    have hpage := kkmKontextSwitchKernelStart_runPage m (kkmSetRegs k)
    constructor
    · unfold RegsClean at hclean ⊢
      rw [← hpage] at hclean
      exact hclean
    · exact .of_started (kkmKontextSwitchKernelStart_zero hzero) hzero
        ⟨_, rfl⟩
  · rw [hend] at hrun
    cases hrun

/-- All interrupted runs together have done nothing of the start, or all of
it. -/
theorem InterruptedRuns.restarts
    {m : ByteMemory} {k k' : KkmKontext} (h : InterruptedRuns m k k') :
    Restarts m (kkmSetRegs k) (kkmSetRegs k') := by
  induction h with
  | none k => exact .of_sameButRun m (.refl _)
  | @again k k' k'' flag signal e hrun _ ih =>
      obtain ⟨hclean, hfirst⟩ := restarts_of_interrupted hrun
      rw [kkmSetRegs_of_clean hclean] at ih
      exact hfirst.trans ih

/-- A run that enters the payload has started the kontext. -/
theorem kkmRunEntry_entered
    {m : ByteMemory} {signal : Bool} {e : EntryCpu} {k p : KkmKontext}
    (hrun : kkmRunEntry m signal e k = .entered p) :
    (kkmKontextSwitchKernelStart m (kkmSetRegs k)).1 = 0 ∧
      p = enterPayload e (kkmKontextSwitchKernelStart m (kkmSetRegs k)).2 := by
  rcases kkmRunEntry_cases m signal e k with
    ⟨_, hend⟩ | ⟨_, _, hend⟩ | ⟨hzero, _, hend⟩
  · rw [hend] at hrun
    cases hrun
  · rw [hend] at hrun
    cases hrun
  · rw [hend] at hrun
    injection hrun with hp
    exact ⟨hzero, hp.symm⟩

theorem kkmRunEntry_of_start
    {m : ByteMemory} {k : KkmKontext} (e : EntryCpu)
    (hzero : (kkmKontextSwitchKernelStart m (kkmSetRegs k)).1 = 0) :
    kkmRunEntry m false e k = .entered
      (enterPayload e (kkmKontextSwitchKernelStart m (kkmSetRegs k)).2) := by
  unfold kkmRunEntry
  simp only [hzero]
  rfl

/-- What the run page and the CPU have no part in. -/
theorem SameButRun.sameEntry
    {k k' : KkmKontext} (h : SameButRun k k') (e e' : EntryCpu) :
    SameEntry (enterPayload e k) (enterPayload e' k') := by
  obtain ⟨r, rfl⟩ := h
  exact ⟨rfl, rfl, rfl, rfl, rfl, rfl, rfl⟩

/-- After any number of interrupted calls the payload is entered as a single
call from the first state enters it. -/
theorem restart_enters_the_same
    {m : ByteMemory} {k k' p' : KkmKontext}
    {flag : BitVec 8} {signal : Bool} {e' : EntryCpu}
    (hruns : InterruptedRuns m k k')
    (hrun : kkmRunEntry m signal e' (setImmediateExit flag k') = .entered p')
    (flag' : BitVec 8) (hflag : flag' ≠ 1#8) (e : EntryCpu) :
    ∃ p,
      kkmRunEntry m false e (setImmediateExit flag' k) = .entered p ∧
        SameEntry p p' := by
  obtain ⟨hzero', rfl⟩ := kkmRunEntry_entered hrun
  have hflag' := kkmKontextSwitchKernelStart_zero hzero'
  obtain ⟨hret', hsame'⟩ := startKontext_of_unset m hflag'
  obtain ⟨hret, hsame⟩ := startKontext_of_unset
    (k := kkmSetRegs (setImmediateExit flag' k)) m hflag
  obtain ⟨hrets, hsames⟩ := hruns.restarts
  have hzero : (kkmKontextSwitchKernelStart m
      (kkmSetRegs (setImmediateExit flag' k))).1 = 0 :=
    hret.trans (hrets.symm.trans (hret'.symm.trans hzero'))
  exact ⟨_, kkmRunEntry_of_start e hzero,
    (hsame.symm.trans (hsames.trans hsame')).sameEntry e e'⟩

/-- A new thread that has a reply to collect, interrupted by a signal. -/
theorem restart_enters_the_same_interrupted_reply :
    let m : ByteMemory := fun _ => some 7#8
    let k := { KkmKontext.zeroed with newThread := true, syscallPending := true }
    let e : EntryCpu := ⟨0, 0⟩
    let k' := kkmGetRegs (signalExit
      (kkmKontextSwitchKernelStart m (kkmSetRegs (setImmediateExit 0 k))).2)
    let p' := enterPayload e (kkmKontextSwitchKernelStart m
      (kkmSetRegs (setImmediateExit 0 k'))).2
    ∃ p,
      kkmRunEntry m false e (setImmediateExit 0 k) = .entered p ∧
        SameEntry p p' := by
  intro m k e k' p'
  have hrun : kkmRunEntry m true e (setImmediateExit 0 k) =
      .returned (-eintr) k' := rfl
  have hentered : kkmRunEntry m false e (setImmediateExit 0 k') =
      .entered p' := rfl
  exact restart_enters_the_same (.again 0 true e hrun (.none k')) hentered
    0 (by decide) e

end Driver
end KkmModule
