import KkmModule.Driver.HostRestore

/-!
# The words of the guest area on the way through the payload

Between the call of `kkm_switch_to_gk_asm` and its return the words of the guest
area below the guest stack change only where the switch code puts something.
What the `IRETQ` starts, and what is found after the return, is therefore read
off the words that the C code has left before the call and off the exit.
-/

namespace KkmModule
namespace Driver

open Foundation X86

/-! ## The entry -/

/-- The code and stack segments that the `IRETQ` loads. -/
structure IretSegments where
  cs : BitVec 64
  ss : BitVec 64
deriving DecidableEq, Repr

def iretSegments (s : State) : IretSegments :=
  ⟨s.mem (addr (s.reg .rsp) 8), s.mem (addr (s.reg .rsp) 32)⟩

/-- The frame has the segments of the guest area. -/
theorem switchToGpAsm_segments
    (ga : GuestAreaAddr) {k : Nat} {s : State} (hs : AtEntry ga k s) :
    iretSegments (run kkmSwitchToGpAsm s) =
      ⟨s.mem (addr ga.va offGpCs), s.mem (addr ga.va offGpSs)⟩ := by
  obtain ⟨s₂, s₅, hload, hat, -, hrun⟩ := run_switchToGpAsm ga hs
  have hrsp₅ : s₅.reg .rsp = addr ga.va 4032 := hat.rsp
  have hrsp : (execs popScratch s₅).reg .rsp = addr ga.va 4056 := by
    simp [popScratch, execs, exec, hrsp₅, addr_add ga.va 4032 8, addr_add ga.va 4040 8,
      addr_add ga.va 4048 8]
  have hmem : (execs popScratch s₅).mem = s₅.mem := rfl
  have hword : ∀ j off, frameOffs.reverse[j]? = some off →
      s₅.mem (addr ga.va (4032 + 8 * j)) = s.mem (addr ga.va off) := by
    intro j off hj
    have hoff := frameOffs_lt off (List.mem_reverse.mp (List.mem_of_getElem? hj))
    rw [← hload.low off hoff]
    exact hat.word j off hj
  rw [hrun, iretSegments, hrsp, hmem, addr_addr, addr_addr]
  exact congrArg₂ IretSegments.mk (hword 4 offGpCs rfl) (hword 7 offGpSs rfl)

/-- The payload runs on the table of `guest_payload_cr3`. -/
theorem switchToGpAsm_cr3
    (ga : GuestAreaAddr) {k : Nat} {s : State} (hs : AtEntry ga k s) :
    (run kkmSwitchToGpAsm s).creg .cr3 = s.mem (addr ga.va offGpCr3) := by
  obtain ⟨s₂, hrun₂, hload⟩ := entry_onIretStack ga hs
  let ws := frameOffs.map fun off => s₂.mem (addr ga.va off)
  have hpush : execs (pushFrame.take 8) s₂ = s₂.pushWords ws :=
    execs_pushMem (by decide) frameOffs frameOffs_lt hload.rdi hload.rsp
      (by decide) (by decide)
  have hpushed := pushed_pushWords ws hload.rsp (show 64 ≤ 4096 by omega)
    (show 4096 < 2 ^ 63 by omega)
  rw [← hpush] at hpushed
  let s₃ := execs (pushFrame.take 8) s₂
  have hrdi₃ : s₃.reg .rdi = ga.va := (hpushed.reg .rdi (by decide)).trans hload.rdi
  have hword₃ : s₃.mem (addr ga.va offGpCr3) = s.mem (addr ga.va offGpCr3) := by
    rw [hpushed.mem offGpCr3 (by decide) (.inl (show 40 < 4032 by omega)),
      hload.low _ (by decide)]
  let s₄ := execs (pushFrame.drop 8 ++ toPayloadCr3.take 2) s₃
  have hcr₄ : s₄.creg .cr3 = s.mem (addr ga.va offGpCr3) := by
    simp [s₄, pushFrame, toPayloadCr3, execs, exec, hrdi₃, hword₃]
  -- nothing behind writes the register
  have hkeep := creg_of_run (c := .cr3) (toPayloadCr3.drop 2 ++ popScratch)
    (by decide) 0 s₄
  have hsplit : kkmSwitchToGpAsm = (loadContext ++ toIretStack) ++
      (pushFrame.take 8 ++ ((pushFrame.drop 8 ++ toPayloadCr3.take 2) ++
        (toPayloadCr3.drop 2 ++ popScratch))) := rfl
  rw [run, hsplit, List.foldl_append, hrun₂, List.foldl_append,
    foldl_step_plain (by decide) s₂, List.foldl_append,
    foldl_step_plain (by decide) s₃]
  exact hkeep.trans hcr₄

/-! ## Up to the call of `kkm_switch_to_gp_asm` -/

/-- The words that are written on the way to the payload. -/
def entryWords : List Nat :=
  [offNkStack, offGpCs, offGpSs, offRflags, offNativeSaveTss .sp0,
    offNativeSaveTss .sp1, offNativeSaveTss .sp2]

section Entry

variable {ga : GuestAreaAddr} {nk : BitVec 64} {t : Trip} {h : State}

/-- `kkm_switch_to_gk_asm` writes one word below the guest stack. -/
theorem onGuestKernel_mem
    (hh : HostReady ga nk t.cpu h) (hap : StacksApart ga nk) {off : Nat}
    (hoff : off < guestStkTop) (hne : off ≠ offNkStack) :
    (run (kkmSwitchToGkAsm t.restore) (h.pushWord t.back)).mem (addr ga.va off) =
      h.mem (addr ga.va off) := by
  have hoff' : off < 4352 := hoff
  let ws := [t.back, h.reg .rbp, h.reg .rbx, h.reg .r12, h.reg .r13, h.reg .r14,
    h.reg .r15]
  have hplain : ∀ i ∈ kkmSwitchToGkAsm t.restore, i.isPlain = true := by
    simp [kkmSwitchToGkAsm, Instr.isPlain]
  have hrun : run (kkmSwitchToGkAsm t.restore) (h.pushWord t.back) =
      execs [.store .rdi offNkStack .rsp, .mov .rsp .rsi, .pushImm t.restore]
        (h.pushWords ws) := by
    rw [run, foldl_step_plain hplain]
    rfl
  have hpushed : Pushed nk 56 ws h (h.pushWords ws) :=
    pushed_pushWords ws hh.rsp (Nat.le_refl 56) (by decide)
  have hrdi : (h.pushWords ws).reg .rdi = ga.va :=
    (hpushed.reg .rdi (by decide)).trans hh.rdi
  have hrsi : (h.pushWords ws).reg .rsi = addr ga.va offGuestStk :=
    (hpushed.reg .rsi (by decide)).trans hh.rsi
  have hpush : addr ga.va offGuestStk - 8#64 = addr ga.va (offGuestStk - 8) :=
    addr_sub ga.va (by decide)
  have hnk : addr ga.va off ≠ addr ga.va offNkStack := by
    intro heq
    exact hne ((addr_inj (by omega) (by decide)).mp heq)
  have hstk : addr ga.va off ≠ addr ga.va (offGuestStk - 8) := by
    intro heq
    have : off = 7928 := (addr_inj (by omega) (by decide)).mp heq
    omega
  have hstack : (h.pushWords ws).mem (addr ga.va off) = h.mem (addr ga.va off) := by
    refine mem_pushWords_of_ne ws hh.rsp (Nat.le_refl 56) ?_
    intro j hj
    have hj' : j < 7 := hj
    rw [show 56 - 8 * (j + 1) = 8 * (6 - j) by omega]
    exact (hap.apart (6 - j) (by omega) off (by omega)).symm
  rw [hrun]
  simpa [execs, exec, hrdi, hrsi, hpush, hnk, hstk] using hstack

/-- Compiled code writes the guest stack only. -/
theorem leave_mem
    (c : Compiled) (ga : GuestAreaAddr) (s : State) {off : Nat}
    (hoff : off < guestStkTop) :
    (c.leave ga.va s).mem (addr ga.va off) = s.mem (addr ga.va off) := by
  have hoff' : off < 4352 := hoff
  have hsub : (addr ga.va off - ga.va).toNat = off := by
    rw [addr, BitVec.add_comm, BitVec.add_sub_cancel, BitVec.toNat_ofNat,
      Nat.mod_eq_of_lt (by omega)]
  have hno : ¬ (guestStkTop ≤ off ∧ off < offGuestStk) := fun h => by omega
  simp only [Compiled.leave, hsub, if_neg hno]

/-- What `kkm_guest_kernel_start_payload` does to memory; it writes no control
register. -/
theorem startPayload_mem
    {ga : GuestAreaAddr} {cpu : PerCpu} {s : State} (hrdi : s.reg .rdi = ga.va)
    (hgs : s.sys.gsBase = cpu.gsBase) (g : GuestValues) (c : Compiled) :
    (startPayload cpu g c s).mem =
        ((c.leave ga.va s).writeWords ga.va (startWords g s.sys)).mem ∧
      (startPayload cpu g c s).creg = s.creg := by
  have hcreg : ((c.leave ga.va s).writeWords ga.va (startWords g s.sys)).creg =
      s.creg := by
    rw [writeWords_eq]
    rfl
  rw [startPayload_eq hrdi hgs]
  exact ⟨rfl, hcreg⟩

/-- The state in which `kkm_switch_to_gp_asm` is called. -/
def Trip.atSwitch (t : Trip) (h : State) : State :=
  startPayload t.cpu t.guest t.entryCode
    (X86.run (kkmSwitchToGkAsm t.restore) (h.pushWord t.back))

theorem atEntry_atSwitch
    (hh : HostReady ga nk t.cpu h) (hap : StacksApart ga nk) :
    AtEntry ga (offGuestStk - 8 - t.entryCode.depth) (t.atSwitch h) :=
  (payloadReady_of_onGuestKernel (onGuestKernel_of_ready hh hap t.back t.restore) hap
    hh.gsBase t.guest t.entryCode).entry

theorem atSwitch_eq
    (hh : HostReady ga nk t.cpu h) (hap : StacksApart ga nk) :
    let s := run (kkmSwitchToGkAsm t.restore) (h.pushWord t.back)
    (t.atSwitch h).mem =
        ((t.entryCode.leave ga.va s).writeWords ga.va (startWords t.guest s.sys)).mem ∧
      (t.atSwitch h).creg = s.creg := by
  have hs := onGuestKernel_of_ready hh hap t.back t.restore
  exact startPayload_mem hs.rdi (by rw [hs.sys, hh.gsBase]) t.guest t.entryCode

/-- The words in which the C code has left something for the entry are there. -/
theorem atSwitch_kept
    (hh : HostReady ga nk t.cpu h) (hap : StacksApart ga nk) {off : Nat}
    (hoff : off < guestStkTop) (hne : off ∉ entryWords) :
    (t.atSwitch h).mem (addr ga.va off) = h.mem (addr ga.va off) := by
  have hoff' : off < 4352 := hoff
  rw [(atSwitch_eq hh hap).1, mem_writeWords_of_ne, leave_mem t.entryCode ga _ hoff]
  · refine onGuestKernel_mem hh hap hoff ?_
    rintro rfl
    exact hne List.mem_cons_self
  · intro w hw heq
    have hw' : w.1 < 2 ^ 13 := (startWords_lt _ _ w hw).1
    have hsame : off = w.1 := (addr_inj (by omega) (by omega)).mp heq
    have hmem : w.1 ∈ entryWords.tail := List.mem_map_of_mem (f := Prod.fst) hw
    rw [← hsame] at hmem
    exact hne (List.mem_of_mem_tail hmem)

/-- `kkm_guest_kernel_start_payload` has written the segments and the flags. -/
theorem atSwitch_written
    (hh : HostReady ga nk t.cpu h) (hap : StacksApart ga nk) :
    (t.atSwitch h).mem (addr ga.va offGpCs) = userCs ∧
      (t.atSwitch h).mem (addr ga.va offGpSs) = userDs ∧
      (t.atSwitch h).mem (addr ga.va offRflags) = t.guest.rflags := by
  have hlt : ∀ sys, ∀ w ∈ startWords t.guest sys, w.1 < 2 ^ 64 := by
    intro sys w hw
    have := (startWords_lt t.guest sys w hw).1
    omega
  rw [(atSwitch_eq hh hap).1]
  refine ⟨?_, ?_, ?_⟩
  · exact mem_writeWords (w := (offGpCs, userCs)) (startWords_nodup _ _) (hlt _)
      (by simp [startWords])
  · exact mem_writeWords (w := (offGpSs, userDs)) (startWords_nodup _ _) (hlt _)
      (by simp [startWords])
  · exact mem_writeWords (w := (offRflags, t.guest.rflags)) (startWords_nodup _ _)
      (hlt _) (by simp [startWords])

/-- At the call `ga->regs` is what the C code has left, with the flags for the
payload. -/
theorem gaRegs_atSwitch
    (hh : HostReady ga nk t.cpu h) (hap : StacksApart ga nk) :
    gaRegs (t.atSwitch h).mem ga.va =
      { gaRegs h.mem ga.va with rflags := t.guest.rflags } := by
  have hkept : ∀ off, off < guestStkTop → off ∉ entryWords →
      (t.atSwitch h).mem (addr ga.va off) = h.mem (addr ga.va off) :=
    fun off hoff hne => atSwitch_kept hh hap hoff hne
  have hreg : ∀ r, offReg r < guestStkTop ∧ offReg r ∉ entryWords := by
    intro r
    cases r <;> decide
  have hfile : ∀ (f : Reg → BitVec 64) (rip rflags rflags' : BitVec 64),
      { KkmRegs.ofFile f rip rflags with rflags := rflags' } =
        KkmRegs.ofFile f rip rflags' := fun _ _ _ _ => rfl
  rw [gaRegs, gaRegs, hfile, KkmRegs.ofFile_inj]
  refine ⟨?_, hkept _ (by decide) (by decide), (atSwitch_written hh hap).2.2⟩
  funext r
  exact hkept _ (hreg r).1 (hreg r).2

/-- What the `IRETQ` starts is what the C code has left in `ga->regs`, with the
flags for the payload, in the segments of a user and on the table of the
payload. -/
theorem enter_starts
    (hh : HostReady ga nk t.cpu h) (hap : StacksApart ga nk) :
    iretRegs (t.enter h) = { gaRegs h.mem ga.va with rflags := t.guest.rflags } ∧
      iretSegments (t.enter h) = ⟨userCs, userDs⟩ ∧
      (t.enter h).creg .cr3 = h.mem (addr ga.va offGpCr3) := by
  have hentry := atEntry_atSwitch hh hap
  have henter : t.enter h = run kkmSwitchToGpAsm (t.atSwitch h) := rfl
  obtain ⟨hcs, hss, -⟩ := atSwitch_written hh hap
  rw [henter]
  refine ⟨?_, ?_, ?_⟩
  · rw [(switchToGpAsm_regs ga hentry).1, gaRegs_atSwitch hh hap]
  · rw [switchToGpAsm_segments ga hentry, hcs, hss]
  · rw [switchToGpAsm_cr3 ga hentry, atSwitch_kept hh hap (by decide) (by decide)]

end Entry

/-! ## The exit -/

/-- The vector's stub fits the frame. -/
def ExitCause.StubFits : ExitCause → Prop
  | .trap vector _ _ _ _ => pushesErrorCode vector = faultWithErrorCode vector
  | .syscall _ => True

instance : ∀ cause : ExitCause, Decidable cause.StubFits := by
  intro cause
  cases cause <;> simp only [ExitCause.StubFits] <;> infer_instance

/-- The general registers at the exit; `SYSCALL` uses two of them. -/
def ExitCause.reg (p : Payload) : ExitCause → Reg → BitVec 64
  | .trap _ _ _ _ _ => p.reg
  | .syscall next => Function.update (Function.update p.reg .rcx next) .r11 p.rflags

/-- The address at which the payload would go on. -/
def ExitCause.rip : ExitCause → BitVec 64
  | .trap _ rip _ _ _ => rip
  | .syscall next => next

def ExitCause.cs : ExitCause → BitVec 64
  | .trap _ _ cs _ _ => cs.selector
  | .syscall _ => userCs

def ExitCause.ss : ExitCause → BitVec 64
  | .trap _ _ _ ss _ => ss
  | .syscall _ => userDs

/-- The error code, or -1 where there is none. -/
def ExitCause.error : ExitCause → BitVec 64
  | .trap vector _ _ _ error => if pushesErrorCode vector then error else minusOne
  | .syscall _ => minusOne

def ExitCause.intrNo : ExitCause → BitVec 64
  | .trap vector _ _ _ _ => BitVec.ofNat 64 vector
  | .syscall _ => kkmIntrSyscall

/-- The registers of the payload at the exit. -/
def ExitCause.file (p : Payload) (cause : ExitCause) : KkmRegs :=
  .ofFile (cause.reg p) cause.rip p.rflags

/-- The trap stack at the exit, its top first. -/
def ExitCause.words (p : Payload) (cause : ExitCause) : List (BitVec 64) :=
  [cause.intrNo, cause.error, cause.rip, cause.cs, p.rflags, p.reg .rsp, cause.ss]

/-- The state the exit code is entered from. -/
def ExitCause.interrupted (m : SyscallMask) (s : State) : ExitCause → State
  | .trap _ _ _ _ _ => s
  | .syscall next => m.enter next s

theorem trapWords_reverse
    {vector : Nat} (hfits : pushesErrorCode vector = faultWithErrorCode vector)
    (u : State) (rip cs ss error : BitVec 64) :
    trapWords vector u rip cs ss
        (if pushesErrorCode vector then some error else none) =
      [ss, u.reg .rsp, u.rflags, cs, rip,
        if pushesErrorCode vector then error else minusOne,
        BitVec.ofNat 64 vector] := by
  have hminus : BitVec.ofInt 64 (-1) = minusOne := by decide
  unfold trapWords stubWords
  rw [← hfits]
  cases pushesErrorCode vector with
  | true => rfl
  | false =>
      rw [hminus]
      rfl

theorem exitSaved_syscall
    {ga : GuestAreaAddr} {cpu : PerCpu} {s : State}
    (hsp0 : s.sys.sp0 = addr ga.va offGuestStk)
    (hgs : s.sys.kernelGsBase = cpu.gsBase) (m : SyscallMask) (next : BitVec 64) :
    ExitSaved ga (syscallWords (m.enter next s)) (m.enter next s)
      (ExitCause.run cpu m s (.syscall next)) := by
  let u := m.enter next s
  obtain ⟨hpushed, hrsp, hpushes⟩ := syscallEntry_pushed hsp0 hgs m next
  have hrun' : ExitCause.run cpu m s (.syscall next) =
      run kkmIntrEntryAsmCommon (kkmSyscallEntryAsm cpu u) := rfl
  generalize kkmSyscallEntryAsm cpu u = v at hpushed hrsp hpushes hrun'
  obtain ⟨s', hrun, hsaved⟩ := intrEntryCommon_saved ga
    (t := 7864) ⟨by decide, by decide⟩ hrsp
  have hs' : ExitCause.run cpu m s (.syscall next) = s' := by
    rw [hrun', run, hrun]
  have hframe : ∀ j w, (syscallWords u).reverse[j]? = some w →
      v.mem (addr ga.va (7864 + (16 + 8 * j))) = w := by
    intro j w hj
    rw [← Nat.add_assoc]
    exact hpushed.word j w hj
  have hcreg : v.creg = u.creg := hpushed.creg
  rw [hs']
  refine ⟨hsaved.rdi, ?_, ?_, ?_, ?_, ?_, ?_⟩
  · intro r hr
    rw [hsaved.reg r, Function.update_of_ne hr, hpushed.reg r hr]
    simp [hr]
  · intro w hw
    rw [hsaved.reg .rsp, Function.update_self]
    exact hframe 5 w hw
  · intro j c w hj hw
    obtain ⟨hc, hoff⟩ := trapCopies_at hj
    rw [hsaved.trap c hc, hoff]
    exact hframe j w hw
  · intro cr hcr
    rw [hsaved.creg cr hcr, hcreg]
  · rw [hsaved.cr3, hcreg]
  · exact LeavesHost.trans ⟨hpushes.low, hpushes.outside, hpushes.cr4⟩ hsaved.leaves

/-- What the exit code has saved where the stub fits. -/
theorem exitSaved_run
    {ga : GuestAreaAddr} {cpu : PerCpu} {s : State}
    (hsp0 : s.sys.sp0 = addr ga.va offGuestStk)
    (hgs : s.sys.kernelGsBase = cpu.gsBase) (m : SyscallMask) {p : Payload}
    (hreg : s.reg = p.reg) (hrflags : s.rflags = p.rflags) {cause : ExitCause}
    (hfits : cause.StubFits) :
    ExitSaved ga (cause.words p).reverse (cause.interrupted m s)
      (cause.run cpu m s) := by
  cases cause with
  | trap vector rip cs ss error =>
      have hwords := trapWords_reverse hfits s rip cs.selector ss error
      have hlen : (trapWords vector s rip cs.selector ss
          (if pushesErrorCode vector then some error else none)).length = 7 :=
        congrArg List.length hwords
      have hsaved := (intrExit_saved ga vector s true rip cs.selector ss
        (if pushesErrorCode vector then some error else none) hsp0 (by decide)
        hlen (by decide) (by decide)).1
      rw [hwords, hreg, hrflags] at hsaved
      exact hsaved
  | syscall next =>
      have hsaved := exitSaved_syscall hsp0 hgs m next
      have hwords : syscallWords (m.enter next s) =
          ((ExitCause.syscall next).words p).reverse := by
        simp [syscallWords, SyscallMask.enter, ExitCause.words, ExitCause.intrNo,
          ExitCause.error, ExitCause.rip, ExitCause.cs, ExitCause.ss, hreg, hrflags]
      rw [hwords] at hsaved
      exact hsaved

/-! ## After the return -/

/-- `ga->trap_info` -/
def gaTrapInfo (mem : BitVec 64 → BitVec 64) (ga : BitVec 64) : KkmTrapInfo where
  error := mem (addr ga offTiError)
  rip := mem (addr ga offTiRip)
  cs := mem (addr ga offTiCs)
  rflags := mem (addr ga offTiRflags)
  rsp := mem (addr ga offTiRsp)
  ss := mem (addr ga offTiSs)

/-- The exit as the processor and the payload make it. -/
def Trip.payloadExit
    (t : Trip) (ga : BitVec 64) (h : State) (debugRegisters : Fin 8 → BitVec 64)
    (xsave : Nat → BitVec 8) : PayloadExit where
  regs := t.cause.file t.payload
  error := t.cause.error
  cs := t.cause.cs
  ss := t.cause.ss
  intrNo := t.cause.intrNo
  cr0 := h.creg .cr0
  cr2 := t.payload.cr2
  cr3 := h.mem (addr ga offGpCr3) &&& 0xFFFFFFFFFFFFEFFF#64
  cr4 := h.creg .cr4
  cr8 := h.creg .cr8
  debugRegisters := debugRegisters
  xsave := xsave

/-- What the C code finds in the guest area after the return of
`kkm_switch_to_gk_asm`. -/
def kontextLeft
    (mem : BitVec 64 → BitVec 64) (ga : BitVec 64)
    (hardware : Fin 8 → BitVec 64) (xsave : Nat → BitVec 8) (kontext : KkmKontext) :
    KkmKontext :=
  let debug := kontext.ga.debug
  { kontext with
    ga := { kontext.ga with
      regs := gaRegs mem ga
      sregs := { kontext.ga.sregs with
        cr0 := mem (addr ga (offCr .cr0)), cr2 := mem (addr ga (offCr .cr2)),
        cr3 := mem (addr ga (offCr .cr3)), cr4 := mem (addr ga (offCr .cr4)),
        cr8 := mem (addr ga (offCr .cr8)) }
      debug :=
        if kontext.debugRegistersSet then
          { debug with registers := kkmHwDebugRegistersSave hardware debug.registers }
        else debug
      trapInfo := gaTrapInfo mem ga
      intrNo := mem (addr ga offTiIntrNo) }
    payloadXsave := xsave
    validPayloadXsaveArea := true }

section Return

variable {ga : GuestAreaAddr} {nk : BitVec 64} {t : Trip} {h : State}

/-- The way to the payload leaves three control registers as they are. -/
theorem enter_creg
    (hh : HostReady ga nk t.cpu h) (hap : StacksApart ga nk) {cr : CReg}
    (hcr : cr ∈ [CReg.cr0, .cr4, .cr8]) :
    (t.enter h).creg cr = h.creg cr := by
  have hgk : (run (kkmSwitchToGkAsm t.restore) (h.pushWord t.back)).creg cr =
      h.creg cr :=
    creg_of_run (kkmSwitchToGkAsm t.restore)
      (by simp [kkmSwitchToGkAsm, Instr.writesCr]) 0 (h.pushWord t.back)
  have hswitch : (t.atSwitch h).creg cr = h.creg cr := by
    rw [(atSwitch_eq hh hap).2, hgk]
  have henter : t.enter h = run kkmSwitchToGpAsm (t.atSwitch h) := rfl
  have hentry := atEntry_atSwitch hh hap
  rw [henter, ← hswitch]
  generalize t.atSwitch h = s at hentry
  simp only [List.mem_cons, List.not_mem_nil, or_false] at hcr
  rcases hcr with rfl | rfl | rfl
  · rw [run, creg_of_run kkmSwitchToGpAsm (by decide) 0 s]
  · exact (switchToGpAsm_leavesHost ga hentry).1.cr4
  · rw [run, creg_of_run kkmSwitchToGpAsm (by decide) 0 s]

theorem hasHostGs_of_stubFits (hfits : t.cause.StubFits) (h : State) :
    t.HasHostGs h := by
  left
  rw [ExitCause.swaps_iff]
  cases hcause : t.cause with
  | trap vector rip cs ss error =>
      rw [hcause] at hfits
      exact .inl hfits
  | syscall next => trivial

/-- After the exit code only `rip` and `rflags` of `ga->regs` change. -/
theorem run_word
    (hh : HostReady ga nk t.cpu h) (hap : StacksApart ga nk)
    (hfits : t.cause.StubFits) {off : Nat} (hoff : off < guestStkTop) :
    (t.run h).mem (addr ga.va off) = (adjustRegs (t.exit h)).mem (addr ga.va off) := by
  have hexit := exited_exit hh hap
  have hgs := (exit_gsBase hh hap).mpr (hasHostGs_of_stubFits hfits h)
  have hreturn := mem_of_run (kkmSwitchToHkAsm ++ kkmRestoreLabel) (by decide) 0
    (kkmSwitchToHostKernel t.cpu (saveNativeKernel t.nativeIdt h) t.exitCode
      (t.exit h))
  have hhost : (kkmSwitchToHostKernel t.cpu (saveNativeKernel t.nativeIdt h) t.exitCode
      (t.exit h)).mem = (t.exitCode.leave ga.va (adjustRegs (t.exit h))).mem := by
    rw [kkmSwitchToHostKernel_eq hexit.rdi hgs]
    rfl
  rw [Trip.run, run, hreturn, hhost, leave_mem t.exitCode ga _ hoff]

/-- The words other than those two are the ones the exit code has saved. -/
theorem run_saved
    (hh : HostReady ga nk t.cpu h) (hap : StacksApart ga nk)
    (hfits : t.cause.StubFits) {off : Nat} (hoff : off < guestStkTop)
    (hrip : off ≠ offRip) (hrflags : off ≠ offRflags) :
    (t.run h).mem (addr ga.va off) = (t.exit h).mem (addr ga.va off) := by
  have hoff' : off < 4352 := hoff
  have hne : addr ga.va off ≠ addr ga.va offRip := by
    intro heq
    exact hrip ((addr_inj (by omega) (by decide)).mp heq)
  have hne' : addr ga.va off ≠ addr ga.va offRflags := by
    intro heq
    exact hrflags ((addr_inj (by omega) (by decide)).mp heq)
  rw [run_word hh hap hfits hoff]
  simp [adjustRegs, (exited_exit hh hap).rdi, hne, hne']

/-- The state in which the payload stops has its registers. -/
theorem exitSaved_exit
    (hh : HostReady ga nk t.cpu h) (hap : StacksApart ga nk)
    (hfits : t.cause.StubFits) :
    ExitSaved ga (t.cause.words t.payload).reverse
      (t.cause.interrupted t.syscallMask (t.payload.leave (t.enter h))) (t.exit h) := by
  have hstop := payloadStopped_of_ready hh hap
  exact exitSaved_run hstop.sp0 hstop.kernelGsBase t.syscallMask rfl rfl hfits

/-- `ga->regs` after the return has the registers of the payload. -/
theorem gaRegs_run
    (hh : HostReady ga nk t.cpu h) (hap : StacksApart ga nk)
    (hfits : t.cause.StubFits) :
    gaRegs (t.run h).mem ga.va = t.cause.file t.payload := by
  have hsaved := exitSaved_exit hh hap hfits
  have hlt : ∀ r, offReg r < guestStkTop := by
    intro r
    cases r <;> decide
  have hword : gaRegs (t.run h).mem ga.va = gaRegs (adjustRegs (t.exit h)).mem ga.va := by
    rw [gaRegs, gaRegs, KkmRegs.ofFile_inj]
    exact ⟨funext fun r => run_word hh hap hfits (hlt r),
      run_word hh hap hfits (by decide), run_word hh hap hfits (by decide)⟩
  rw [hword, gaRegs_adjustRegs hsaved.rdi, ExitCause.file, KkmRegs.ofFile_inj]
  refine ⟨?_, hsaved.trap 2 (offTsRip, offTiRip) _ rfl rfl,
    hsaved.trap 4 (offTsRflags, offTiRflags) _ rfl rfl⟩
  funext r
  by_cases hr : r = .rsp
  · subst hr
    rw [hsaved.rsp (t.payload.reg .rsp) rfl]
    cases t.cause <;> rfl
  · rw [hsaved.reg r hr]
    cases t.cause <;> rfl

/-- The trap information and the interrupt number are those of the exit. -/
theorem gaTrapInfo_run
    (hh : HostReady ga nk t.cpu h) (hap : StacksApart ga nk)
    (hfits : t.cause.StubFits) (hardware : Fin 8 → BitVec 64)
    (xsave : Nat → BitVec 8) :
    gaTrapInfo (t.run h).mem ga.va = (t.payloadExit ga.va h hardware xsave).trapInfo ∧
      (t.run h).mem (addr ga.va offTiIntrNo) = t.cause.intrNo := by
  have hsaved := exitSaved_exit hh hap hfits
  have htrap : ∀ (j : Nat) (c : Nat × Nat) (w : BitVec 64), trapCopies[j]? = some c →
      (t.cause.words t.payload)[j]? = some w →
      (t.run h).mem (addr ga.va c.2) = w := by
    intro j c w hj hw
    have hc := List.mem_of_getElem? hj
    have hbound : ∀ c ∈ trapCopies,
        c.2 < guestStkTop ∧ c.2 ≠ offRip ∧ c.2 ≠ offRflags := by decide
    obtain ⟨hlt, hrip, hrflags⟩ := hbound c hc
    rw [run_saved hh hap hfits hlt hrip hrflags]
    exact hsaved.trap j c w hj (by rw [List.reverse_reverse]; exact hw)
  generalize (t.run h).mem = mem at htrap ⊢
  have hrsp : t.cause.reg t.payload .rsp = t.payload.reg .rsp := by
    cases t.cause <;> rfl
  refine ⟨?_, htrap 0 (offTsIntrNo, offTiIntrNo) _ rfl rfl⟩
  rw [gaTrapInfo, PayloadExit.trapInfo, KkmTrapInfo.mk.injEq]
  refine ⟨htrap 1 (offTsError, offTiError) _ rfl rfl,
    htrap 2 (offTsRip, offTiRip) _ rfl rfl, htrap 3 (offTsCs, offTiCs) _ rfl rfl,
    htrap 4 (offTsRflags, offTiRflags) _ rfl rfl, ?_,
    htrap 6 (offTsSs, offTiSs) _ rfl rfl⟩
  exact (htrap 5 (offTsRsp, offTiRsp) _ rfl rfl).trans hrsp.symm

/-- The control registers saved at the exit: `CR3` is the payload's, less the bit
that tells its table from the guest kernel's. -/
theorem gaCr_run
    (hh : HostReady ga nk t.cpu h) (hap : StacksApart ga nk)
    (hfits : t.cause.StubFits) :
    let word := fun cr => (t.run h).mem (addr ga.va (offCr cr))
    word .cr0 = h.creg .cr0 ∧ word .cr2 = t.payload.cr2 ∧
      word .cr3 = h.mem (addr ga.va offGpCr3) &&& 0xFFFFFFFFFFFFEFFF#64 ∧
      word .cr4 = h.creg .cr4 ∧ word .cr8 = h.creg .cr8 := by
  intro word
  have hsaved := exitSaved_exit hh hap hfits
  have hoff : ∀ cr, offCr cr < guestStkTop ∧ offCr cr ≠ offRip ∧
      offCr cr ≠ offRflags := by
    intro cr
    cases cr <;> decide
  have hword : ∀ cr, word cr = (t.exit h).mem (addr ga.va (offCr cr)) := by
    intro cr
    obtain ⟨hlt, hrip, hrflags⟩ := hoff cr
    exact run_saved hh hap hfits hlt hrip hrflags
  have hstop : (t.cause.interrupted t.syscallMask
      (t.payload.leave (t.enter h))).creg =
      Function.update (t.enter h).creg .cr2 t.payload.cr2 := by
    cases t.cause <;> rfl
  have hkept : ∀ cr ∈ [CReg.cr0, .cr4, .cr8], word cr = h.creg cr := by
    intro cr hcr
    have hne : cr ≠ .cr2 ∧ cr ≠ .cr3 := by
      simp only [List.mem_cons, List.not_mem_nil, or_false] at hcr
      rcases hcr with rfl | rfl | rfl <;> decide
    rw [hword, hsaved.creg cr hne.2, hstop, Function.update_of_ne hne.1,
      enter_creg hh hap hcr]
  refine ⟨hkept .cr0 (by decide), ?_, ?_, hkept .cr4 (by decide), hkept .cr8 (by decide)⟩
  · rw [hword, hsaved.creg .cr2 (by decide), hstop, Function.update_self]
  · rw [hword, hsaved.cr3, hstop, Function.update_of_ne (by decide),
      (enter_starts hh hap).2.2]

/-- After the return the C code finds the exit of the payload. -/
theorem kontextLeft_run
    (hh : HostReady ga nk t.cpu h) (hap : StacksApart ga nk)
    (hfits : t.cause.StubFits) (hardware : Fin 8 → BitVec 64)
    (xsave : Nat → BitVec 8) (kontext : KkmKontext) :
    kontextLeft (t.run h).mem ga.va hardware xsave kontext =
      leavePayload (t.payloadExit ga.va h hardware xsave) kontext := by
  obtain ⟨hinfo, hintr⟩ := gaTrapInfo_run hh hap hfits hardware xsave
  obtain ⟨hcr0, hcr2, hcr3, hcr4, hcr8⟩ := gaCr_run hh hap hfits
  simp only [kontextLeft, gaRegs_run hh hap hfits, hinfo, hintr, hcr0, hcr2, hcr3, hcr4,
    hcr8]
  rfl

end Return

end Driver
end KkmModule
