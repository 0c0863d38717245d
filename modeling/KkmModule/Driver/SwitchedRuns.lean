import KkmModule.Driver.FailedRequests
import KkmModule.Driver.RunLoop
import KkmModule.Driver.SwitchWords
import KkmModule.Driver.SyscallReply

/-!
# The loop of `kkm_kontext_switch_kernel` over the switch code

`loopTurn` takes an exit of the payload as it is given.  Here a turn calls
`kkm_switch_to_gk_asm`, and `kkm_process_intr` works on what is then in the guest
area.  Where the vector's stub fits the frame both loops do the same
(`switchedRun_refines`), so that what is proved about the one holds of the other;
and the payload of a turn goes on where that of the turn before has stopped
(`payload_goes_on`).
-/

namespace KkmModule
namespace Driver

open Foundation X86

/-! ## Turns on the processor -/

/-- A turn that no signal prevents: the state in which `kkm_switch_to_gk_asm` is
called, and what is arbitrary on the way and in the handling of the exit. -/
structure SwitchedTurn where
  cpu : EntryCpu
  /-- the top of the native stack while the payload runs -/
  nk : BitVec 64
  host : State
  trip : Trip
  debugRegisters : Fin 8 → BitVec 64
  xsave : Nat → BitVec 8
  kkm : Kkm
  answers : ExitAnswers
  user : ByteMemory

/-- `kkm_switch_to_gk_asm` is called for the kontext: its registers are in the
guest area, and the flags the payload gets are computed from them. -/
structure SwitchedTurn.Calls
    (t : SwitchedTurn) (ga : GuestAreaAddr) (kontext : KkmKontext) : Prop where
  ready : HostReady ga t.nk t.trip.cpu t.host
  apart : StacksApart ga t.nk
  regs : gaRegs t.host.mem ga.va = kontext.ga.regs
  payloadCr3 : t.host.mem (addr ga.va offGpCr3) = kontext.ga.guestPayloadCr3
  rflags : t.trip.guest.rflags =
    payloadRflags kontext.ga.debug kontext.ga.regs.rflags

/-- The kontext at the handling of the exit, as the guest area has it. -/
def SwitchedTurn.atExit
    (t : SwitchedTurn) (ga : GuestAreaAddr) (kontext : KkmKontext) : KkmKontext :=
  kontextLeft (t.trip.run t.host).mem ga.va t.debugRegisters t.xsave
    (enterPayload t.cpu kontext)

def SwitchedTurn.processIntr
    (cfg : KkmConfig) (ga : GuestAreaAddr) (t : SwitchedTurn) (kontext : KkmKontext)
    (memory : RunMemory) : Int × KkmKontext × RunMemory :=
  kkmProcessIntr cfg t.kkm t.answers (t.atExit ga kontext)
    { memory with user := t.user }

/-- Turns one after the other, up to the return of the loop. -/
inductive SwitchedRun (cfg : KkmConfig) (ga : GuestAreaAddr) :
    LoopState → List SwitchedTurn → LoopState → Prop where
  | done (s : LoopState) : SwitchedRun cfg ga s [] s
  | turn {kontext : KkmKontext} {memory : RunMemory} {t : SwitchedTurn}
      {ts : List SwitchedTurn} {s : LoopState} (calls : t.Calls ga kontext)
      (rest : SwitchedRun cfg ga (afterIntr (t.processIntr cfg ga kontext memory)) ts s) :
      SwitchedRun cfg ga (.begin kontext memory) (t :: ts) s

/-! ## The two loops -/

/-- The turn with the exit as the processor makes it. -/
def SwitchedTurn.turn (ga : GuestAreaAddr) (t : SwitchedTurn) : PayloadTurn where
  signal := false
  cpu := t.cpu
  kkm := t.kkm
  exit := t.trip.payloadExit ga.va t.host t.debugRegisters t.xsave
  answers := t.answers
  user := t.user

/-- The vector's stub fits the frame of the turn's exit. -/
def SwitchedTurn.StubFits (t : SwitchedTurn) : Prop := t.trip.cause.StubFits

section Turn

variable {cfg : KkmConfig} {ga : GuestAreaAddr} {t : SwitchedTurn}
variable {kontext : KkmKontext} {memory : RunMemory}

theorem SwitchedTurn.Calls.atExit_eq (h : t.Calls ga kontext) (hfits : t.StubFits) :
    t.atExit ga kontext = (t.turn ga).atExit kontext :=
  kontextLeft_run h.ready h.apart hfits t.debugRegisters t.xsave
    (enterPayload t.cpu kontext)

/-- One turn does the same in both loops. -/
theorem SwitchedTurn.Calls.afterIntr_eq (h : t.Calls ga kontext) (hfits : t.StubFits) :
    afterIntr (t.processIntr cfg ga kontext memory) =
      loopTurn cfg (t.turn ga) kontext memory := by
  have hturn : loopTurn cfg (t.turn ga) kontext memory =
      afterIntr ((t.turn ga).processIntr cfg kontext memory) := rfl
  rw [hturn, SwitchedTurn.processIntr, h.atExit_eq hfits]
  rfl

end Turn

section Runs

variable {cfg : KkmConfig} {ga : GuestAreaAddr}

/-- A run after its first turn. -/
theorem SwitchedRun.of_cons
    {kontext : KkmKontext} {memory : RunMemory} {t : SwitchedTurn}
    {ts : List SwitchedTurn} {s : LoopState}
    (h : SwitchedRun cfg ga (.begin kontext memory) (t :: ts) s) :
    t.Calls ga kontext ∧
      SwitchedRun cfg ga (afterIntr (t.processIntr cfg ga kontext memory)) ts s := by
  cases h with
  | turn calls rest => exact ⟨calls, rest⟩

/-- A loop that has returned takes no turn. -/
theorem SwitchedRun.of_returned
    {ret : Int} {kontext : KkmKontext} {memory : RunMemory} {ts : List SwitchedTurn}
    {s : LoopState} (h : SwitchedRun cfg ga (.returned ret kontext memory) ts s) :
    ts = [] := by
  cases h with
  | done => rfl

theorem SwitchedRun.foldl
    {s s' : LoopState} {ts : List SwitchedTurn} (h : SwitchedRun cfg ga s ts s')
    (hfits : ∀ t ∈ ts, t.StubFits) :
    (ts.map (SwitchedTurn.turn ga)).foldl (loopStep cfg) s = s' := by
  induction h with
  | done s => rfl
  | @turn kontext memory t ts s calls rest ih =>
      have hstep : loopStep cfg (.begin kontext memory) (t.turn ga) =
          afterIntr (t.processIntr cfg ga kontext memory) :=
        (calls.afterIntr_eq (hfits t List.mem_cons_self)).symm
      rw [List.map_cons, List.foldl_cons, hstep]
      exact ih fun t' ht' => hfits t' (List.mem_cons_of_mem t ht')

/-- The loop over the switch code is the loop over the exits of the payload. -/
theorem switchedRun_refines
    {kontext : KkmKontext} {memory : RunMemory} {ts : List SwitchedTurn} {s : LoopState}
    (hstart : (kkmKontextSwitchKernelStart memory.user kontext).1 = 0)
    (hrun : SwitchedRun cfg ga
      (.begin (kkmKontextSwitchKernelStart memory.user kontext).2 memory) ts s)
    (hfits : ∀ t ∈ ts, t.StubFits) :
    kkmKontextSwitchKernel cfg (ts.map (SwitchedTurn.turn ga)) kontext memory = s := by
  rw [kkmKontextSwitchKernel]
  simp only [hstart, ne_eq, not_true_eq_false, if_false]
  exact hrun.foldl hfits

/-- A run of several turns: what comes before reaches `begin` again. -/
theorem SwitchedRun.split
    {s s' : LoopState} {past later : List SwitchedTurn} {t : SwitchedTurn}
    (h : SwitchedRun cfg ga s (past ++ t :: later) s') :
    ∃ kontext memory, SwitchedRun cfg ga s past (.begin kontext memory) ∧
      SwitchedRun cfg ga (.begin kontext memory) (t :: later) s' := by
  induction past generalizing s with
  | nil =>
      cases h with
      | turn calls rest => exact ⟨_, _, .done _, .turn calls rest⟩
  | cons t' past ih =>
      cases h with
      | turn calls rest =>
          obtain ⟨kontext, memory, hpast, hlater⟩ := ih rest
          exact ⟨kontext, memory, .turn calls hpast, hlater⟩

end Runs

/-! ## What a turn that goes on leaves -/

/-- What the entry of the next turn reads, besides the general registers. -/
structure SameEntryData (k k' : KkmKontext) : Prop where
  payloadCr3 : k'.ga.guestPayloadCr3 = k.ga.guestPayloadCr3
  singleStep : singleStep k'.ga.debug = singleStep k.ga.debug

theorem SameEntryData.trans
    {k k' k'' : KkmKontext} (h : SameEntryData k k') (h' : SameEntryData k' k'') :
    SameEntryData k k'' :=
  ⟨h'.payloadCr3.trans h.payloadCr3, h'.singleStep.trans h.singleStep⟩

theorem leavePayload_sameEntryData (x : PayloadExit) (k : KkmKontext) :
    SameEntryData k (leavePayload x k) := by
  refine ⟨rfl, ?_⟩
  simp only [leavePayload, singleStep]
  split <;> rfl

/-- The handlers write neither. -/
theorem kkmProcessIntr_sameEntryData
    (cfg : KkmConfig) (kkm : Kkm) (a : ExitAnswers) (k : KkmKontext) (s : RunMemory) :
    SameEntryData k (kkmProcessIntr cfg kkm a k s).2.1 := by
  have hwrites := kkmProcessIntr_writes cfg kkm a k s
  refine ⟨?_, ?_⟩
  · exact hwrites.keeps (f := fun k => k.ga.guestPayloadCr3) fun _ w _ => by
      cases w <;> rfl
  · exact hwrites.keeps (f := fun k => singleStep k.ga.debug) fun _ w _ => by
      cases w <;> rfl

theorem kkmProcessGeneralProtection_ret
    (cfg : KkmConfig) (kkm : Kkm) (k : KkmKontext) (m : ByteMemory) :
    (kkmProcessGeneralProtection cfg kkm k m).1 ≠ kkmKontextFaultProcessDone := by
  have hfault : -efault ≠ kkmKontextFaultProcessDone := by decide
  have hzero : (0 : Int) ≠ kkmKontextFaultProcessDone := by decide
  unfold kkmProcessGeneralProtection
  split
  · exact hfault
  · simp only
    split
    · exact hfault
    · split
      · exact hfault
      · exact hzero

/-- Page faults and interrupts that are forwarded are processed in the kernel;
every other exit goes to the monitor. -/
theorem intrHandler_of_done
    {cfg : KkmConfig} {kkm : Kkm} {a : ExitAnswers} {k : KkmKontext} {s : RunMemory}
    (hdone : (kkmProcessIntr cfg kkm a k s).1 = kkmKontextFaultProcessDone) :
    intrHandler k.ga.intrNo = .pageFault ∨ intrHandler k.ga.intrNo = .forward := by
  have hfault : -efault ≠ kkmKontextFaultProcessDone := by decide
  have hzero : (0 : Int) ≠ kkmKontextFaultProcessDone := by decide
  cases hhandler : intrHandler k.ga.intrNo with
  | pageFault => exact .inl rfl
  | forward => exact .inr rfl
  | syscall =>
      rcases kkmProcessIntr_syscall cfg kkm a s ((intrHandler_syscall_iff _).mp hhandler)
        with ⟨hret, -⟩ | ⟨hret, -⟩
      · exact absurd (hret.symm.trans hdone) hzero
      · exact absurd (hret.symm.trans hdone) hfault
  | generalProtection =>
      simp only [kkmProcessIntr, hhandler] at hdone
      exact absurd hdone (kkmProcessGeneralProtection_ret cfg kkm _ _)
  | commonWithoutError =>
      simp only [kkmProcessIntr, hhandler] at hdone
      exact absurd hdone (recordException_ret cfg kkm _ _ _)
  | commonWithError =>
      simp only [kkmProcessIntr, hhandler] at hdone
      exact absurd hdone (recordException_ret cfg kkm _ _ _)
  | debug =>
      simp only [kkmProcessIntr, hhandler] at hdone
      exact absurd hdone hzero
  | nmi =>
      simp only [kkmProcessIntr, hhandler] at hdone
      exact absurd hdone hzero
  | breakpoint =>
      simp only [kkmProcessIntr, hhandler] at hdone
      exact absurd hdone hzero

theorem kkmProcessPageFault_regs
    (cfg : KkmConfig) (nativePgd : Nat) (kkm : Kkm) (read : UserRead) (write : UserWrite)
    (k : KkmKontext) (m : Memory) :
    (kkmProcessPageFault cfg nativePgd kkm read write k m).2.1.ga.regs = k.ga.regs := by
  unfold kkmProcessPageFault
  simp only
  split
  · rfl
  · split
    · split
      · rfl
      · split <;> rfl
    · rfl

/-- An exit that is processed in the kernel leaves the registers alone. -/
theorem kkmProcessIntr_regs_of_done
    {cfg : KkmConfig} {kkm : Kkm} {a : ExitAnswers} {k : KkmKontext} {s : RunMemory}
    (hdone : (kkmProcessIntr cfg kkm a k s).1 = kkmKontextFaultProcessDone) :
    (kkmProcessIntr cfg kkm a k s).2.1.ga.regs = k.ga.regs := by
  rcases intrHandler_of_done hdone with hhandler | hhandler
  · simp only [kkmProcessIntr, hhandler]
    exact kkmProcessPageFault_regs cfg a.nativePgd kkm a.read a.write _ s.tables
  · simp only [kkmProcessIntr, hhandler]

theorem countTrap_ga (k : KkmKontext) : (countTrap k).2.ga = k.ga := by
  simp only [countTrap]
  split
  · split <;> rfl
  · rfl

/-- `begin` is reached again only after an exit that is processed in the
kernel. -/
theorem afterIntr_begin
    {r : Int × KkmKontext × RunMemory} {k : KkmKontext} {m : RunMemory}
    (h : afterIntr r = .begin k m) :
    r.1 = kkmKontextFaultProcessDone ∧ k.ga = r.2.1.ga := by
  by_cases hdone : r.1 = kkmKontextFaultProcessDone
  · rw [afterIntr, if_pos hdone] at h
    simp only at h
    split at h
    · cases h
    · cases h
      exact ⟨hdone, countTrap_ga r.2.1⟩
  · rw [afterIntr, if_neg hdone] at h
    cases h

section Runs

variable {cfg : KkmConfig} {ga : GuestAreaAddr}
variable {kontext kontext' : KkmKontext} {memory memory' : RunMemory}

/-- A turn that reaches `begin` again has left the registers of the payload in
the guest area. -/
theorem SwitchedTurn.Calls.next
    {t : SwitchedTurn} (h : t.Calls ga kontext) (hfits : t.StubFits)
    (hnext : afterIntr (t.processIntr cfg ga kontext memory) = .begin kontext' memory') :
    kontext'.ga.regs = t.trip.cause.file t.trip.payload ∧
      SameEntryData kontext kontext' := by
  have hexit := h.atExit_eq hfits
  have hleave : SameEntryData kontext (t.atExit ga kontext) := by
    have henter : SameEntryData kontext (enterPayload t.cpu kontext) := ⟨rfl, rfl⟩
    rw [hexit]
    exact henter.trans (leavePayload_sameEntryData _ _)
  have hregs : (t.atExit ga kontext).ga.regs = t.trip.cause.file t.trip.payload := by
    rw [hexit]
    rfl
  rw [SwitchedTurn.processIntr] at hnext
  generalize t.atExit ga kontext = k at hnext hleave hregs
  obtain ⟨hdone, hga⟩ := afterIntr_begin hnext
  have hdata := hleave.trans
    (kkmProcessIntr_sameEntryData cfg t.kkm t.answers k { memory with user := t.user })
  refine ⟨?_, ?_, ?_⟩
  · rw [hga, kkmProcessIntr_regs_of_done hdone, hregs]
  · rw [hga]
    exact hdata.payloadCr3
  · rw [hga]
    exact hdata.singleStep

/-- Through any number of turns the table of the payload and the request for
single steps stay. -/
theorem SwitchedRun.sameEntryData
    {s s' : LoopState} {ts : List SwitchedTurn} (h : SwitchedRun cfg ga s ts s')
    (hfits : ∀ t ∈ ts, t.StubFits) (hs : s = .begin kontext memory)
    (hs' : s' = .begin kontext' memory') :
    SameEntryData kontext kontext' := by
  induction h generalizing kontext memory with
  | done s =>
      rw [hs] at hs'
      cases hs'
      exact ⟨rfl, rfl⟩
  | @turn k m t ts s calls rest ih =>
      cases hs
      cases hafter : afterIntr (t.processIntr cfg ga k m) with
      | begin k' m' =>
          have hnext := (calls.next (hfits t List.mem_cons_self) hafter).2
          exact hnext.trans
            (ih (fun t' ht' => hfits t' (List.mem_cons_of_mem t ht')) hafter hs')
      | returned ret k' m' =>
          rw [hafter] at rest
          cases rest
          cases hs'

end Runs

/-! ## What a payload is started with -/

/-- The flags in one formula. -/
theorem payloadRflags_eq (debug : KkmDebug) (rflags : BitVec 64) :
    let set := ((rflags ||| x86EflagsIf) &&& ~~~x86EflagsIopl) ||| x86EflagsRf
    payloadRflags debug rflags =
      if singleStep debug then set ||| x86EflagsTf else set &&& ~~~x86EflagsTf := by
  have hor : ∀ (i : Nat) (r : BitVec 64),
      (if r &&& BitVec.twoPow 64 i = 0 then r ||| BitVec.twoPow 64 i else r) =
        r ||| BitVec.twoPow 64 i := by
    intro i r
    split
    · rfl
    · rename_i hne
      have hbit : r.getLsbD i = true := by
        rw [BitVec.and_twoPow] at hne
        by_contra hno
        rw [if_neg hno] at hne
        exact hne rfl
      ext j hj
      rw [BitVec.getElem_or, BitVec.getElem_twoPow]
      by_cases hij : j = i
      · subst hij
        have hget : r[j] = true := hbit
        rw [hget, Bool.true_or]
      · rw [decide_eq_false hij, Bool.or_false]
  have hclear : ∀ r m : BitVec 64,
      (if r &&& m ≠ 0 then r &&& ~~~m else r) = r &&& ~~~m := by
    intro r m
    split
    · rfl
    · rename_i hzero
      have hand : r &&& m = 0 := not_not.mp hzero
      ext j hj
      have hbit := congrArg (fun x : BitVec 64 => x[j]) hand
      simp only [BitVec.getElem_and, BitVec.ofNat_eq_ofNat, BitVec.getElem_zero] at hbit
      simp only [BitVec.getElem_and, BitVec.getElem_not]
      cases hr : r[j] with
      | false => rfl
      | true =>
          rw [hr, Bool.true_and] at hbit
          rw [hbit]
          rfl
  have hif : x86EflagsIf = BitVec.twoPow 64 9 := by decide
  have hrf : x86EflagsRf = BitVec.twoPow 64 16 := by decide
  simp only [payloadRflags, hif, hrf, hor, hclear]

/-- The payload runs as a user, on the table of the kontext, with interrupts on and
without I/O privilege, and traps after each instruction exactly if that is
requested. -/
structure EnteredAsUser (kontext : KkmKontext) (s : State) : Prop where
  segments : iretSegments s = ⟨userCs, userDs⟩
  cr3 : s.creg .cr3 = kontext.ga.guestPayloadCr3
  interrupts : interruptsOn (iretRegs s).rflags = true
  iopl : (iretRegs s).rflags.getLsbD 12 = false ∧ (iretRegs s).rflags.getLsbD 13 = false
  resume : (iretRegs s).rflags.getLsbD 16 = true
  trap : (iretRegs s).rflags.getLsbD 8 = singleStep kontext.ga.debug

theorem SwitchedTurn.Calls.enteredAsUser
    {t : SwitchedTurn} {ga : GuestAreaAddr} {kontext : KkmKontext}
    (h : t.Calls ga kontext) : EnteredAsUser kontext (t.trip.enter t.host) := by
  obtain ⟨hregs, hsegments, hcr3⟩ := enter_starts h.ready h.apart
  have hrflags : (iretRegs (t.trip.enter t.host)).rflags =
      payloadRflags kontext.ga.debug kontext.ga.regs.rflags := by
    rw [hregs]
    exact h.rflags
  refine ⟨hsegments, hcr3.trans h.payloadCr3, ?_, ?_, ?_, ?_⟩
  all_goals
    rw [hrflags, payloadRflags_eq]
    cases singleStep kontext.ga.debug <;>
      simp [interruptsOn, x86EflagsIf, x86EflagsIopl, x86EflagsRf, x86EflagsTf]

/-- In every run of the loop each entry is one of a user. -/
theorem every_entry_as_user
    {cfg : KkmConfig} {ga : GuestAreaAddr} {kontext : KkmKontext} {memory : RunMemory}
    {past later : List SwitchedTurn} {t : SwitchedTurn} {s : LoopState}
    (hrun : SwitchedRun cfg ga (.begin kontext memory) (past ++ t :: later) s)
    (hfits : ∀ u ∈ past, u.StubFits) :
    EnteredAsUser kontext (t.trip.enter t.host) := by
  obtain ⟨k, m, hpast, hturns⟩ := hrun.split
  have hdata := hpast.sameEntryData hfits rfl rfl
  have hentered := hturns.of_cons.1.enteredAsUser
  exact ⟨hentered.segments, hentered.cr3.trans hdata.payloadCr3, hentered.interrupts,
    hentered.iopl, hentered.resume, hentered.trap.trans hdata.singleStep⟩

/-- In every run of the loop, the payload of a turn starts with the registers with
which that of the turn before has stopped, whatever the kernel has done in
between; only the flags that `kkm_guest_kernel_start_payload` sets may differ. -/
theorem payload_goes_on
    {cfg : KkmConfig} {ga : GuestAreaAddr} {kontext : KkmKontext} {memory : RunMemory}
    {past later : List SwitchedTurn} {t t' : SwitchedTurn} {s : LoopState}
    (hrun : SwitchedRun cfg ga (.begin kontext memory) (past ++ t :: t' :: later) s)
    (hfits : ∀ u ∈ past ++ [t], u.StubFits) :
    iretRegs (t'.trip.enter t'.host) =
      { t.trip.cause.file t.trip.payload with
        rflags := payloadRflags kontext.ga.debug t.trip.payload.rflags } := by
  obtain ⟨k, m, hpast, hturns⟩ := hrun.split
  obtain ⟨hcalls, hrest⟩ := hturns.of_cons
  have hdata := hpast.sameEntryData
    (fun u hu => hfits u (List.mem_append_left [t] hu)) rfl rfl
  cases hafter : afterIntr (t.processIntr cfg ga k m) with
  | returned ret k' m' =>
      rw [hafter] at hrest
      cases hrest.of_returned
  | begin k' m' =>
      rw [hafter] at hrest
      obtain ⟨hcalls', -⟩ := hrest.of_cons
      obtain ⟨hregs, hnext⟩ := hcalls.next
        (hfits t (List.mem_append_right past List.mem_cons_self)) hafter
      rw [(enter_starts hcalls'.ready hcalls'.apart).1, hcalls'.regs, hcalls'.rflags,
        hregs, payloadRflags_congr (hdata.trans hnext).singleStep]
      rfl

/-! ## A run of two turns -/

/-- A memory in which `ga->regs` has `rip` and `rflags`, and zeros elsewhere. -/
def areaWith (ga rip rflags : BitVec 64) : BitVec 64 → BitVec 64 := fun a =>
  if a = addr ga offRip then rip else if a = addr ga offRflags then rflags else 0

/-- The payload is entered from the given memory, and stopped by an interrupt of
the vector 32. -/
def interruptedTurn (mem : BitVec 64 → BitVec 64) (rflags : BitVec 64) :
    SwitchedTurn where
  cpu := ⟨0, 0⟩
  nk := someNativeStack
  host := { someHost with mem := mem }
  trip := { someTrip 0x246#64 with
    guest := ⟨0, 0, 0, 0, payloadRflags KkmKontext.zeroed.ga.debug rflags⟩
    cause := .trap 32 0x400000#64 ⟨userCs, userFrame_userCs⟩ userDs 0 }
  debugRegisters := fun _ => 0
  xsave := fun _ => 0
  kkm := .zeroed
  answers := zeroedExitAnswers
  user := zeroedRunMemory.user

/-- The first entry is that of a new kontext, the second one goes on from it. -/
def interruptedTurns : List SwitchedTurn :=
  [interruptedTurn (fun _ => 0) 0,
    interruptedTurn (areaWith someGuestArea.va 0x400000#64 0x246#64) 0x246#64]

theorem interruptedTurn_calls
    {mem : BitVec 64 → BitVec 64} {kontext : KkmKontext}
    (hregs : gaRegs mem someGuestArea.va = kontext.ga.regs)
    (hcr3 : mem (addr someGuestArea.va offGpCr3) = kontext.ga.guestPayloadCr3)
    (hstep : singleStep KkmKontext.zeroed.ga.debug = singleStep kontext.ga.debug) :
    (interruptedTurn mem kontext.ga.regs.rflags).Calls someGuestArea kontext where
  ready := ⟨rfl, rfl, rfl, rfl, (someHost_ready 0).sp0⟩
  apart := someStacks_apart
  regs := hregs
  payloadCr3 := hcr3
  rflags := payloadRflags_congr hstep kontext.ga.regs.rflags

/-- A new kontext at `begin`. -/
def startedKontext : KkmKontext :=
  (kkmKontextSwitchKernelStart zeroedRunMemory.user .zeroed).2

theorem exists_interruptedRun :
    ∃ s, SwitchedRun .stock someGuestArea (.begin startedKontext zeroedRunMemory)
      interruptedTurns s := by
  have hcalls : (interruptedTurn (fun _ => 0) 0).Calls someGuestArea startedKontext :=
    @interruptedTurn_calls (fun _ => 0) startedKontext rfl rfl rfl
  have hfits : (interruptedTurn (fun _ => 0) 0).StubFits := rfl
  obtain ⟨k, m, hturn⟩ : ∃ k m, loopTurn .stock
      ((interruptedTurn (fun _ => 0) 0).turn someGuestArea) startedKontext
      zeroedRunMemory = .begin k m := ⟨_, _, rfl⟩
  have hafter : afterIntr ((interruptedTurn (fun _ => 0) 0).processIntr .stock
      someGuestArea startedKontext zeroedRunMemory) = .begin k m := by
    rw [hcalls.afterIntr_eq hfits, hturn]
  obtain ⟨hregs, hdata⟩ := hcalls.next hfits hafter
  have hcalls' : (interruptedTurn (areaWith someGuestArea.va 0x400000#64 0x246#64)
      k.ga.regs.rflags).Calls someGuestArea k := by
    refine interruptedTurn_calls ?_ ?_ hdata.singleStep.symm
    · rw [hregs]
      decide
    · rw [hdata.payloadCr3]
      decide
  rw [hregs] at hcalls'
  refine ⟨afterIntr ((interruptedTurn (areaWith someGuestArea.va 0x400000#64 0x246#64)
    0x246#64).processIntr .stock someGuestArea k m), .turn hcalls ?_⟩
  rw [hafter]
  exact .turn hcalls' (.done _)

theorem interruptedTurns_fit : ∀ t ∈ interruptedTurns, t.StubFits := by
  intro t ht
  simp only [interruptedTurns, List.mem_cons, List.not_mem_nil, or_false] at ht
  rcases ht with rfl | rfl <;> rfl

theorem switchedRun_refines_interrupted :
    ∃ s, SwitchedRun .stock someGuestArea (.begin startedKontext zeroedRunMemory)
        interruptedTurns s ∧
      kkmKontextSwitchKernel .stock
        (interruptedTurns.map (SwitchedTurn.turn someGuestArea)) .zeroed
        zeroedRunMemory = s := by
  obtain ⟨s, hrun⟩ := exists_interruptedRun
  exact ⟨s, hrun, switchedRun_refines rfl hrun interruptedTurns_fit⟩

theorem payload_goes_on_interrupted :
    ∃ t' ∈ interruptedTurns, iretRegs (t'.trip.enter t'.host) =
      { KkmRegs.zeroed with rip := 0x400000#64, rflags := 0x10246#64 } := by
  obtain ⟨s, hrun⟩ := exists_interruptedRun
  have hgoes := @payload_goes_on .stock someGuestArea startedKontext zeroedRunMemory
    [] [] _ _ s hrun fun u hu =>
      interruptedTurns_fit u (List.mem_cons.mpr (.inl (List.mem_singleton.mp hu)))
  exact ⟨_, List.mem_cons_of_mem _ List.mem_cons_self, hgoes.trans (by decide)⟩

theorem every_entry_as_user_interrupted :
    ∃ t t', interruptedTurns = [t, t'] ∧
      EnteredAsUser startedKontext (t.trip.enter t.host) ∧
      EnteredAsUser startedKontext (t'.trip.enter t'.host) := by
  obtain ⟨s, hrun⟩ := exists_interruptedRun
  have hfits : ∀ u ∈ [interruptedTurn (fun _ => 0) 0], u.StubFits := fun u hu =>
    interruptedTurns_fit u (List.mem_cons.mpr (.inl (List.mem_singleton.mp hu)))
  refine ⟨_, _, rfl, ?_, ?_⟩
  · exact @every_entry_as_user .stock someGuestArea startedKontext zeroedRunMemory
      [] _ _ s hrun (by simp)
  · exact @every_entry_as_user .stock someGuestArea startedKontext zeroedRunMemory
      [interruptedTurn (fun _ => 0) 0] _ _ s hrun hfits

end Driver
end KkmModule
