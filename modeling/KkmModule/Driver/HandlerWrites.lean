import KkmModule.Driver.KontextRun

/-!
# What the exit handlers write

A handler of `kkm_process_intr` changes its kontext by a few elementary writes.
What no elementary write changes, no handler changes (`Writes.keeps`); a handler
that never posts an exception or never leaves a reply pending is described by
the kinds of writes it keeps to.
-/

namespace KkmModule
namespace Driver

open Foundation

/-! ## Elementary writes -/

inductive HandlerWrite where
  | exitReason (reason : BitVec 32)
  | setRegs (regs : KkmRegs)
  | hypercall (port : BitVec 16) (addr reason : BitVec 32)
  | postException (rax rbx : BitVec 64)
  | pendReply (mva : BitVec 64)
  | trap (addr error : BitVec 64)
  | instruction (opcode : BitVec 8)
  | clearCr2
  | debugExit (arch : KkmDebugExitArch)

namespace HandlerWrite

def apply (k : KkmKontext) : HandlerWrite → KkmKontext
  | .exitReason reason => { k with run := { k.run with exitReason := reason } }
  | .setRegs regs => k.setRegs regs
  | .hypercall port addr reason => kkmSetupHypercall k port addr reason
  | .postException rax rbx =>
      { k with
        exceptionPosted := true
        exceptionSavedRax := rax
        exceptionSavedRbx := rbx }
  | .pendReply mva => { k with syscallPending := true, retValMva := mva }
  | .trap addr error => { k with trapAddr := addr, errorCode := error }
  | .instruction opcode => { k with ga := { k.ga with instructionDecode := opcode } }
  | .clearCr2 =>
      { k with ga := { k.ga with sregs := { k.ga.sregs with cr2 := 0 } } }
  | .debugExit arch =>
      { k with run := { k.run with exitReason := kkmExitDebug, debugArch := arch } }

/-- No reply is left pending. -/
def noReply : HandlerWrite → Bool
  | .pendReply _ => false
  | _ => true

/-- No exception is posted either. -/
def isQuiet : HandlerWrite → Bool
  | .postException _ _ => false
  | w => w.noReply

end HandlerWrite

/-- `k'` comes from `k` by writes of the kind `A`. -/
def Writes (A : HandlerWrite → Bool) (k k' : KkmKontext) : Prop :=
  ∃ ws : List HandlerWrite, ws.all A = true ∧ k' = ws.foldl HandlerWrite.apply k

namespace Writes

variable {A B : HandlerWrite → Bool} {k k' k'' : KkmKontext}

theorem refl (k : KkmKontext) : Writes A k k := ⟨[], rfl, rfl⟩

theorem one {w : HandlerWrite} (hw : A w = true) (k : KkmKontext) :
    Writes A k (w.apply k) :=
  ⟨[w], by simp [hw], rfl⟩

theorem trans (h : Writes A k k') (h' : Writes A k' k'') : Writes A k k'' := by
  obtain ⟨ws, hws, rfl⟩ := h
  obtain ⟨ws', hws', rfl⟩ := h'
  refine ⟨ws ++ ws', ?_, ?_⟩
  · rw [List.all_append, hws, hws']
    rfl
  · rw [List.foldl_append]

theorem mono (hAB : ∀ w, A w = true → B w = true) (h : Writes A k k') :
    Writes B k k' := by
  obtain ⟨ws, hws, hk'⟩ := h
  refine ⟨ws, ?_, hk'⟩
  rw [List.all_eq_true] at hws ⊢
  intro w hw
  exact hAB w (hws w hw)

/-- A function of the kontext that no write of the kind changes. -/
theorem keeps
    {α : Type} {f : KkmKontext → α} (hf : ∀ k w, A w = true → f (w.apply k) = f k)
    (h : Writes A k k') : f k' = f k := by
  obtain ⟨ws, hws, rfl⟩ := h
  induction ws generalizing k with
  | nil => rfl
  | cons w ws ih =>
      rw [List.all_cons, Bool.and_eq_true] at hws
      rw [List.foldl_cons, ih hws.2, hf k w hws.1]

end Writes

/-! ## Copies to the guest -/

section Copies

variable (cfg : KkmConfig) (kkm : Kkm)

/-- Words are copied to a guest address: the monitor address, unless the
translation or the copy fails, and user memory afterwards. -/
def copyToGuest (m : ByteMemory) (gva : BitVec 64) (words : List (BitVec 64)) :
    Option (BitVec 64) × ByteMemory :=
  match kkmGuestVaToMonitorVa cfg kkm gva with
  | none => (none, m)
  | some (mva, _) =>
      match copyWordsToUser m mva words with
      | (false, m) => (none, m)
      | (true, m) => (some mva, m)

/-- The write of `recordException` before its copy to `gva`. -/
def lowerStack (gva : BitVec 64) (k : KkmKontext) : HandlerWrite :=
  .setRegs { k.ga.regs with rsp := gva }

/-- Its writes after the copy. -/
def exceptionWrites (gva : BitVec 64) (k : KkmKontext) : List HandlerWrite :=
  [.hypercall kkmExceptionIoPort (gva.setWidth 32) faultUnknown,
    .postException k.ga.regs.rax k.ga.regs.rbx,
    .setRegs { k.ga.regs with rsp := gva, rax := gva, rbx := k.ga.intrNo }]

theorem recordException_eq
    (args : List (BitVec 64)) (k : KkmKontext) (m : ByteMemory) :
    recordException cfg kkm args k m =
      let gva := k.ga.regs.rsp - BitVec.ofNat 64 (8 * args.length)
      match copyToGuest cfg kkm m gva args with
      | (none, m') => (-efault, [lowerStack gva k].foldl HandlerWrite.apply k, m')
      | (some _, m') =>
          (0, (lowerStack gva k :: exceptionWrites gva k).foldl HandlerWrite.apply k,
            m') := by
  simp only [recordException, copyToGuest]
  cases kkmGuestVaToMonitorVa cfg kkm
      (k.ga.regs.rsp - BitVec.ofNat 64 (8 * args.length)) with
  | none => rfl
  | some found =>
      simp only
      rcases copyWordsToUser m found.1 args with ⟨ok, m'⟩
      cases ok with
      | false => rfl
      | true => rfl

theorem pushHcArgs_eq
    (gva : BitVec 64) (args : List (BitVec 64)) (k : KkmKontext) (m : ByteMemory) :
    pushHcArgs cfg kkm gva args k m =
      match copyToGuest cfg kkm m gva args with
      | (none, m') => (-efault, k, m')
      | (some mva, m') =>
          match copyToGuest cfg kkm m' k.ga.sregs.gs.base [gva] with
          | (none, m'') => (-efault, k, m'')
          | (some _, m'') =>
              (0, [HandlerWrite.pendReply mva,
                .setRegs { k.ga.regs with rax := gva }].foldl HandlerWrite.apply k,
                m'') := by
  simp only [pushHcArgs, copyToGuest]
  cases kkmGuestVaToMonitorVa cfg kkm gva with
  | none => rfl
  | some found =>
      simp only
      rcases copyWordsToUser m found.1 args with ⟨ok, m'⟩
      cases ok with
      | false => rfl
      | true =>
          simp only
          cases kkmGuestVaToMonitorVa cfg kkm k.ga.sregs.gs.base with
          | none => rfl
          | some found' =>
              simp only
              rcases copyWordsToUser m' found'.1 [gva] with ⟨ok', m''⟩
              cases ok' with
              | false => rfl
              | true => rfl

end Copies

/-! ## The handlers -/

section Handlers

variable (cfg : KkmConfig) (kkm : Kkm)

theorem recordException_writes
    (args : List (BitVec 64)) (k : KkmKontext) (m : ByteMemory) :
    Writes HandlerWrite.noReply k
      (recordException cfg kkm args k m).2.1 := by
  simp only [recordException_eq]
  split
  · exact ⟨_, rfl, rfl⟩
  · exact ⟨_, rfl, rfl⟩

theorem recordException_ret
    (args : List (BitVec 64)) (k : KkmKontext) (m : ByteMemory) :
    (recordException cfg kkm args k m).1 ≠ kkmKontextFaultProcessDone := by
  have hfault : -efault ≠ kkmKontextFaultProcessDone := by decide
  have hzero : (0 : Int) ≠ kkmKontextFaultProcessDone := by decide
  simp only [recordException_eq]
  split
  · exact hfault
  · exact hzero

theorem kkmProcessGeneralProtection_writes (k : KkmKontext) (m : ByteMemory) :
    Writes HandlerWrite.isQuiet k (kkmProcessGeneralProtection cfg kkm k m).2 := by
  let regs := k.ga.regs
  unfold kkmProcessGeneralProtection
  split
  · exact .refl k
  · rename_i mva _ _
    have hread : Writes HandlerWrite.isQuiet k
        ((HandlerWrite.instruction ((m mva).getD 0)).apply k) := .one rfl k
    simp only
    split
    · exact hread
    · split
      · exact hread
      · exact hread.trans ⟨[
          .hypercall (regs.rdx.setWidth 16) (regs.rax.setWidth 32) faultHyperCall,
          .setRegs { regs with rip := regs.rip + 1#64 }], rfl, rfl⟩

theorem kkmProcessPageFault_writes
    (nativePgd : Nat) (read : UserRead) (write : UserWrite)
    (k : KkmKontext) (m : Memory) :
    Writes HandlerWrite.isQuiet k
      (kkmProcessPageFault cfg nativePgd kkm read write k m).2.1 := by
  have htrap : Writes HandlerWrite.isQuiet k
      ((HandlerWrite.trap k.ga.sregs.cr2 k.ga.trapInfo.error).apply k) := .one rfl k
  unfold kkmProcessPageFault
  simp only
  split
  · exact htrap
  · split
    · have hread := htrap.trans (.one (w := .instruction read.byte) rfl _)
      split
      · exact hread
      · split
        · exact hread
        · exact hread.trans (.one (w := .clearCr2) rfl _)
    · exact htrap

theorem kkmProcessSyscall_writes (k : KkmKontext) (m : ByteMemory) :
    Writes (fun _ => true) k (kkmProcessSyscall cfg kkm k m).2.1 := by
  let regs := k.ga.regs
  let gva := regs.rsp - kkmAbiRedzone - sizeofKkmHcArgs
  have hcall : Writes (fun _ => true) k
      (kkmSetupHypercall (k.setRegs { regs with rsp := gva }) (regs.rax.setWidth 16)
        (gva.setWidth 32) faultSyscall) :=
    ⟨[.setRegs { regs with rsp := gva },
      .hypercall (regs.rax.setWidth 16) (gva.setWidth 32) faultSyscall], rfl, rfl⟩
  rw [kkmProcessSyscall, pushHcArgs_eq]
  split
  · exact hcall
  · split
    · exact hcall
    · exact hcall.trans ⟨_, rfl, rfl⟩

theorem kkmProcessDebug_writes (k : KkmKontext) :
    Writes HandlerWrite.isQuiet k (kkmProcessDebug k).2 :=
  .one (w := .debugExit _) rfl k

theorem kkmProcessBreakpoint_writes (k : KkmKontext) :
    Writes HandlerWrite.isQuiet k (kkmProcessBreakpoint k).2 := by
  let rip := k.ga.regs.rip - 1#64
  exact ⟨[.setRegs { k.ga.regs with rip := rip },
    .debugExit { k.run.debugArch with exception := x86TrapBp, pc := rip }], rfl, rfl⟩

/-- All that an exit writes before it returns to the monitor or goes on. -/
theorem kkmProcessIntr_writes (a : ExitAnswers) (k : KkmKontext) (s : RunMemory) :
    Writes (fun _ => true) k (kkmProcessIntr cfg kkm a k s).2.1 := by
  have hunknown : Writes (fun _ => true) k
      ((HandlerWrite.exitReason kkmExitUnknown).apply k) := .one rfl k
  simp only [kkmProcessIntr]
  cases intrHandler k.ga.intrNo with
  | generalProtection =>
      exact hunknown.trans ((kkmProcessGeneralProtection_writes cfg kkm _ _).mono
        fun _ _ => rfl)
  | pageFault =>
      exact hunknown.trans ((kkmProcessPageFault_writes cfg kkm _ _ _ _ _).mono
        fun _ _ => rfl)
  | commonWithoutError =>
      exact hunknown.trans ((recordException_writes cfg kkm _ _ _).mono fun _ _ => rfl)
  | commonWithError =>
      exact hunknown.trans ((recordException_writes cfg kkm _ _ _).mono fun _ _ => rfl)
  | debug =>
      exact hunknown.trans ((kkmProcessDebug_writes _).mono fun _ _ => rfl)
  | nmi => exact hunknown
  | breakpoint =>
      exact hunknown.trans ((kkmProcessBreakpoint_writes _).mono fun _ _ => rfl)
  | syscall => exact hunknown.trans (kkmProcessSyscall_writes cfg kkm _ _)
  | forward => exact hunknown

end Handlers

/-! ## What the handlers see -/

/-- The kontexts have in common what the handlers read. -/
structure SeenAlike (k k' : KkmKontext) : Prop where
  regs : k'.ga.regs = k.ga.regs
  sregs : k'.ga.sregs = k.ga.sregs
  trapInfo : k'.ga.trapInfo = k.ga.trapInfo
  intrNo : k'.ga.intrNo = k.ga.intrNo
  debugArch : k'.run.debugArch = k.run.debugArch
  registers : ∀ i, i = 6 ∨ i = 7 →
    k'.ga.debug.registers i = k.ga.debug.registers i

/-- Results for two kontexts that come from the same writes. -/
structure SameWrites
    {α : Type} (k k' : KkmKontext) (r r' : Int × KkmKontext × α) : Prop where
  ret : r'.1 = r.1
  rest : r'.2.2 = r.2.2
  writes : ∃ ws : List HandlerWrite,
    r.2.1 = ws.foldl HandlerWrite.apply k ∧ r'.2.1 = ws.foldl HandlerWrite.apply k'

section SameWrites

variable (cfg : KkmConfig) (kkm : Kkm) {k k' : KkmKontext} (h : SeenAlike k k')

theorem SameWrites.of
    {α : Type} (ret : Int) (ws : List HandlerWrite) (x : α) (k k' : KkmKontext) :
    SameWrites k k' (ret, ws.foldl HandlerWrite.apply k, x)
      (ret, ws.foldl HandlerWrite.apply k', x) :=
  ⟨rfl, rfl, ws, rfl, rfl⟩

/-- The writes that follow some others. -/
theorem SameWrites.after
    {α : Type} {r r' : Int × KkmKontext × α} {w : HandlerWrite}
    (hr : SameWrites (w.apply k) (w.apply k') r r') : SameWrites k k' r r' := by
  obtain ⟨ws, hws, hws'⟩ := hr.writes
  exact ⟨hr.ret, hr.rest, w :: ws, hws, hws'⟩

/-- The rest of the result goes on to something else. -/
theorem SameWrites.map
    {α β : Type} {r r' : Int × KkmKontext × α} (hr : SameWrites k k' r r')
    (f : α → β) : SameWrites k k' (r.1, r.2.1, f r.2.2) (r'.1, r'.2.1, f r'.2.2) :=
  ⟨hr.ret, congrArg f hr.rest, hr.writes⟩

include h

theorem recordException_same (args : List (BitVec 64)) (m : ByteMemory) :
    SameWrites k k' (recordException cfg kkm args k m)
      (recordException cfg kkm args k' m) := by
  simp only [recordException_eq, lowerStack, exceptionWrites, h.regs, h.intrNo]
  split
  · exact .of _ _ _ k k'
  · exact .of _ _ _ k k'

theorem kkmProcessGeneralProtection_same {α : Type} (m : ByteMemory) (x : α) :
    let r := kkmProcessGeneralProtection cfg kkm k m
    let r' := kkmProcessGeneralProtection cfg kkm k' m
    SameWrites k k' (r.1, r.2, x) (r'.1, r'.2, x) := by
  have hrip : k'.ga.trapInfo.rip = k.ga.trapInfo.rip := by rw [h.trapInfo]
  simp only [kkmProcessGeneralProtection, hrip]
  cases kkmGuestVaToMonitorVa cfg kkm k.ga.trapInfo.rip with
  | none => exact .of (-efault) [] x k k'
  | some found =>
      simp only
      let read := HandlerWrite.instruction ((m found.1).getD 0)
      by_cases hmapped : m found.1 = none
      · simp only [if_pos hmapped]
        exact .of (-efault) [read] x k k'
      · simp only [if_neg hmapped]
        by_cases hopcode : (m found.1).getD 0 = kkmOutOpcode
        · simp only [if_neg (not_not.mpr hopcode), h.regs]
          exact .of 0 [read,
            .hypercall (k.ga.regs.rdx.setWidth 16) (k.ga.regs.rax.setWidth 32)
              faultHyperCall,
            .setRegs { k.ga.regs with rip := k.ga.regs.rip + 1#64 }] x k k'
        · simp only [if_pos hopcode]
          exact .of (-efault) [read] x k k'

theorem kkmProcessPageFault_same
    (nativePgd : Nat) (read : UserRead) (write : UserWrite) (m : Memory) :
    SameWrites k k' (kkmProcessPageFault cfg nativePgd kkm read write k m)
      (kkmProcessPageFault cfg nativePgd kkm read write k' m) := by
  let trap := HandlerWrite.trap k.ga.sregs.cr2 k.ga.trapInfo.error
  let byte := HandlerWrite.instruction read.byte
  have herror : k'.ga.trapInfo.error = k.ga.trapInfo.error := by rw [h.trapInfo]
  have hcr2 : k'.ga.sregs.cr2 = k.ga.sregs.cr2 := by rw [h.sregs]
  simp only [kkmProcessPageFault, herror, hcr2]
  cases kkmGuestVaToMonitorVa cfg kkm k.ga.sregs.cr2 with
  | none => exact .of (-efault) [trap] m k k'
  | some found =>
      simp only
      by_cases huser : k.ga.trapInfo.error &&& x86PfUser = x86PfUser
      · simp only [if_pos huser]
        by_cases hread : read.failed = true
        · simp only [if_pos hread]
          exact .of (-efault) [trap, byte] read.mem k k'
        · simp only [if_neg hread]
          by_cases hwrite : k.ga.trapInfo.error &&& x86PfWrite = x86PfWrite ∧
              write.failed = true
          · simp only [if_pos hwrite]
            exact .of (-efault) [trap, byte] _ k k'
          · simp only [if_neg hwrite]
            exact .of kkmKontextFaultProcessDone [trap, byte, .clearCr2] _ k k'
      · simp only [if_neg huser]
        exact .of 0 [trap] m k k'

theorem SeenAlike.apply (w : HandlerWrite) : SeenAlike (w.apply k) (w.apply k') := by
  obtain ⟨hregs, hsregs, htrapInfo, hintrNo, harch, hregisters⟩ := h
  cases w with
  | setRegs regs => exact ⟨rfl, hsregs, htrapInfo, hintrNo, harch, hregisters⟩
  | clearCr2 =>
      exact ⟨hregs, congrArg (fun sregs => { sregs with cr2 := 0 }) hsregs, htrapInfo,
        hintrNo, harch, hregisters⟩
  | debugExit arch => exact ⟨hregs, hsregs, htrapInfo, hintrNo, rfl, hregisters⟩
  | _ => exact ⟨hregs, hsregs, htrapInfo, hintrNo, harch, hregisters⟩

theorem pushHcArgs_same
    (gva : BitVec 64) (args : List (BitVec 64)) (m : ByteMemory) :
    SameWrites k k' (pushHcArgs cfg kkm gva args k m)
      (pushHcArgs cfg kkm gva args k' m) := by
  simp only [pushHcArgs_eq, h.regs, h.sregs]
  split
  · exact .of (-efault) [] _ k k'
  · split
    · exact .of (-efault) [] _ k k'
    · exact .of _ _ _ k k'

theorem kkmProcessSyscall_same (m : ByteMemory) :
    SameWrites k k' (kkmProcessSyscall cfg kkm k m) (kkmProcessSyscall cfg kkm k' m) := by
  simp only [kkmProcessSyscall, h.regs]
  let gva := k.ga.regs.rsp - kkmAbiRedzone - sizeofKkmHcArgs
  let lower := HandlerWrite.setRegs { k.ga.regs with rsp := gva }
  let call := HandlerWrite.hypercall (k.ga.regs.rax.setWidth 16) (gva.setWidth 32)
    faultSyscall
  exact (pushHcArgs_same cfg kkm ((h.apply lower).apply call) gva _ m).after.after

theorem kkmProcessDebug_same {α : Type} (x : α) :
    SameWrites k k' ((kkmProcessDebug k).1, (kkmProcessDebug k).2, x)
      ((kkmProcessDebug k').1, (kkmProcessDebug k').2, x) := by
  simp only [kkmProcessDebug, h.debugArch, h.trapInfo, h.registers 6 (.inl rfl),
    h.registers 7 (.inr rfl)]
  exact .of 0 [.debugExit { k.run.debugArch with
    exception := x86TrapDb
    pc := k.ga.trapInfo.rip
    dr6 := k.ga.debug.registers 6
    dr7 := k.ga.debug.registers 7 }] x k k'

theorem kkmProcessBreakpoint_same {α : Type} (x : α) :
    SameWrites k k' ((kkmProcessBreakpoint k).1, (kkmProcessBreakpoint k).2, x)
      ((kkmProcessBreakpoint k').1, (kkmProcessBreakpoint k').2, x) := by
  have hwrites : ∀ j : KkmKontext, kkmProcessBreakpoint j =
      (0, [HandlerWrite.setRegs { j.ga.regs with rip := j.ga.regs.rip - 1#64 },
        .debugExit { j.run.debugArch with
          exception := x86TrapBp
          pc := j.ga.regs.rip - 1#64 }].foldl HandlerWrite.apply j) := fun _ => rfl
  rw [hwrites k, hwrites k', h.regs, h.debugArch]
  exact .of 0 _ x k k'

/-- The handlers do the same to kontexts in which they see the same. -/
theorem kkmProcessIntr_same (a : ExitAnswers) (s : RunMemory) :
    SameWrites k k' (kkmProcessIntr cfg kkm a k s) (kkmProcessIntr cfg kkm a k' s) := by
  refine SameWrites.after (w := .exitReason kkmExitUnknown) ?_
  have h₀ := h.apply (.exitReason kkmExitUnknown)
  simp only [kkmProcessIntr, h.intrNo]
  generalize hk : HandlerWrite.apply k (.exitReason kkmExitUnknown) = k₀ at h₀ ⊢
  generalize hk' : HandlerWrite.apply k' (.exitReason kkmExitUnknown) = k₀' at h₀ ⊢
  simp only [HandlerWrite.apply] at hk hk'
  simp only [hk, hk']
  cases intrHandler k.ga.intrNo with
  | generalProtection => exact kkmProcessGeneralProtection_same cfg kkm h₀ s.user s
  | pageFault =>
      exact (kkmProcessPageFault_same cfg kkm h₀ a.nativePgd a.read a.write s.tables).map
        fun tables => { s with tables := tables }
  | commonWithoutError =>
      simp only [kkmProcessCommonWithoutError, h₀.regs, h₀.trapInfo]
      exact (recordException_same cfg kkm h₀ _ s.user).map
        fun user => { s with user := user }
  | commonWithError =>
      simp only [kkmProcessCommonWithError, h₀.regs, h₀.trapInfo]
      exact (recordException_same cfg kkm h₀ _ s.user).map
        fun user => { s with user := user }
  | debug => exact kkmProcessDebug_same h₀ s
  | nmi => exact .of 0 [] s k₀ k₀'
  | breakpoint => exact kkmProcessBreakpoint_same h₀ s
  | syscall =>
      exact (kkmProcessSyscall_same cfg kkm h₀ s.user).map
        fun user => { s with user := user }
  | forward => exact .of kkmKontextFaultProcessDone [] s k₀ k₀'

end SameWrites

/-! ## Changes that the handlers do not see -/

/-- A change of kontexts that keeps what the handlers read, and that their
writes go through. -/
structure Unseen (φ : KkmKontext → KkmKontext) : Prop where
  regs : ∀ k, (φ k).ga.regs = k.ga.regs
  sregs : ∀ k, (φ k).ga.sregs = k.ga.sregs
  trapInfo : ∀ k, (φ k).ga.trapInfo = k.ga.trapInfo
  intrNo : ∀ k, (φ k).ga.intrNo = k.ga.intrNo
  debugArch : ∀ k, (φ k).run.debugArch = k.run.debugArch
  apply : ∀ k w, φ (HandlerWrite.apply k w) = HandlerWrite.apply (φ k) w

/-- A result with the kontext changed. -/
def mapKontext {α : Type} (φ : KkmKontext → KkmKontext) (r : Int × KkmKontext × α) :
    Int × KkmKontext × α :=
  (r.1, φ r.2.1, r.2.2)

section Unseen

variable (cfg : KkmConfig) (kkm : Kkm) {φ : KkmKontext → KkmKontext} (h : Unseen φ)

include h

theorem Unseen.foldl (ws : List HandlerWrite) (k : KkmKontext) :
    φ (ws.foldl HandlerWrite.apply k) = ws.foldl HandlerWrite.apply (φ k) := by
  induction ws generalizing k with
  | nil => rfl
  | cons w ws ih => rw [List.foldl_cons, List.foldl_cons, ih, h.apply]

/-- The handlers do to the changed kontext what they do to the kontext itself. -/
theorem kkmProcessIntr_unseen
    (a : ExitAnswers) (k : KkmKontext) (s : RunMemory)
    (hdebug : ∀ i, i = 6 ∨ i = 7 →
      (φ k).ga.debug.registers i = k.ga.debug.registers i) :
    kkmProcessIntr cfg kkm a (φ k) s =
      mapKontext φ (kkmProcessIntr cfg kkm a k s) := by
  have hseen : SeenAlike k (φ k) :=
    ⟨h.regs k, h.sregs k, h.trapInfo k, h.intrNo k, h.debugArch k, hdebug⟩
  obtain ⟨hret, hrest, ws, hws, hws'⟩ := kkmProcessIntr_same cfg kkm hseen a s
  refine Prod.ext hret (Prod.ext ?_ hrest)
  rw [hws', mapKontext, hws, h.foldl]

end Unseen

end Driver
end KkmModule
