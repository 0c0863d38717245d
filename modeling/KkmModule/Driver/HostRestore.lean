import KkmModule.Driver.HostSteps

/-!
# What a run of the payload leaves of the host's state

The saved words are in place at the return, which restores from them all but DF
and AC: the flags the host returns with are those of the exit.
-/

namespace KkmModule
namespace Driver

open Foundation X86

/-! ## The whole way -/

/-- The host's state after the return is what it was before the call, and DF and
AC are clear. -/
structure HostRestored (h s' : State) : Prop where
  calleeSaved : ∀ r ∈ [Reg.rbx, .rbp, .r12, .r13, .r14, .r15], s'.reg r = h.reg r
  rsp : s'.reg .rsp = h.reg .rsp
  cr3 : s'.creg .cr3 = h.creg .cr3
  cr4 : s'.creg .cr4 = h.creg .cr4
  segments : s'.sys.ds = h.sys.ds ∧ s'.sys.es = h.sys.es ∧ s'.sys.fs = h.sys.fs ∧
    s'.sys.gs = h.sys.gs
  bases : s'.sys.fsBase = h.sys.fsBase ∧ s'.sys.gsBase = h.sys.gsBase ∧
    s'.sys.kernelGsBase = h.sys.kernelGsBase
  lstar : s'.sys.lstar = h.sys.lstar
  idt : s'.sys.idt = h.sys.idt
  tss : ∀ f, tssField s'.sys f = tssField h.sys f
  df : s'.rflags.getLsbD flagDf = false
  ac : s'.rflags.getLsbD flagAc = false

/-- The GS base at `kkm_switch_to_host_kernel` is the native kernel's. -/
def Trip.HasHostGs (t : Trip) (h : State) : Prop :=
  t.cause.swaps = true ∨ t.payload.gsBase = h.sys.gsBase

section WholeWay

variable {ga : GuestAreaAddr} {nk : BitVec 64} {t : Trip} {h : State}

theorem exited_exit
    (hh : HostReady ga nk t.cpu h) (hap : StacksApart ga nk) :
    Exited ga t.syscallMask t.cause (t.payload.leave (t.enter h)) (t.exit h) := by
  have hstop := payloadStopped_of_ready hh hap
  exact exited_run hstop.sp0 hstop.kernelGsBase t.syscallMask t.cause

theorem exit_gsBase
    (hh : HostReady ga nk t.cpu h) (hap : StacksApart ga nk) :
    (t.exit h).sys.gsBase = t.cpu.gsBase ↔ t.HasHostGs h := by
  have hstop := payloadStopped_of_ready hh hap
  rw [(exited_exit hh hap).gsBase, hstop.kernelGsBase, hstop.gsBase, Trip.HasHostGs,
    hh.gsBase]
  cases t.cause.swaps with
  | false => simp
  | true => simp

theorem run_sys (t : Trip) (h : State) :
    (t.run h).sys = (kkmSwitchToHostKernel t.cpu (saveNativeKernel t.nativeIdt h)
      t.exitCode (t.exit h)).sys := by
  have hsys := sys_of_run (kkmSwitchToHkAsm ++ kkmRestoreLabel) (by decide) 0
    (kkmSwitchToHostKernel t.cpu (saveNativeKernel t.nativeIdt h) t.exitCode (t.exit h))
  rw [Trip.run, run, hsys]

/-- The flags are those with which the exit has started. -/
theorem run_flags
    (hh : HostReady ga nk t.cpu h) (hap : StacksApart ga nk) :
    controlFlags (t.run h).rflags =
      controlFlags (t.cause.rflags t.syscallMask t.payload.rflags) := by
  have hreturn := controlFlags_run (kkmSwitchToHkAsm ++ kkmRestoreLabel) 0
    (kkmSwitchToHostKernel t.cpu (saveNativeKernel t.nativeIdt h) t.exitCode (t.exit h))
  rw [Trip.run, run, hreturn, kkmSwitchToHostKernel_flags, (exited_exit hh hap).flags,
    (payloadStopped_of_ready hh hap).rflags]

/-- With the host's GS everything else is restored. -/
theorem run_restores
    (hh : HostReady ga nk t.cpu h) (hap : StacksApart ga nk) (hgs : t.HasHostGs h) :
    (∀ r ∈ [Reg.rbx, .rbp, .r12, .r13, .r14, .r15], (t.run h).reg r = h.reg r) ∧
      (t.run h).reg .rsp = h.reg .rsp ∧ (t.run h).creg .cr3 = h.creg .cr3 ∧
      (t.run h).creg .cr4 = h.creg .cr4 ∧
      (t.run h).sys = hostSys (saveNativeKernel t.nativeIdt h) (tssField h.sys) := by
  have hstop := payloadStopped_of_ready hh hap
  have hexit := exited_exit hh hap
  have hgs' := (exit_gsBase hh hap).mpr hgs
  have hleaves := kkmSwitchToHostKernel_leavesHost hexit.rdi hgs'
    (saveNativeKernel t.nativeIdt h) t.exitCode
  have hsaved := (hstop.saved.of_leavesHost hap hexit.leaves).of_leavesHost hap hleaves
  have hsys := run_sys t h
  have heq := kkmSwitchToHostKernel_eq hexit.rdi hgs'
    (saveNativeKernel t.nativeIdt h) t.exitCode
  have hrun : t.run h = run (kkmSwitchToHkAsm ++ kkmRestoreLabel)
    (kkmSwitchToHostKernel t.cpu (saveNativeKernel t.nativeIdt h) t.exitCode
      (t.exit h)) := rfl
  generalize kkmSwitchToHostKernel t.cpu (saveNativeKernel t.nativeIdt h) t.exitCode
    (t.exit h) = s at hsaved hsys heq hrun
  -- what the function has taken from the saved words
  have hmem : s.mem = (t.exitCode.leave ga.va (adjustRegs (t.exit h))).mem := by
    rw [heq]
    rfl
  have hrsi : s.reg .rsi = nk := by
    rw [← hsaved.nkStack, hmem, heq]
    simp
  have hrdi : s.reg .rdi = h.creg .cr3 := by
    rw [heq]
    simp [saveNativeKernel]
  have hsys' : s.sys = hostSys (saveNativeKernel t.nativeIdt h) (tssField h.sys) := by
    have htss : (fun f => s.mem (addr ga.va (offNativeSaveTss f))) =
        tssField h.sys := funext hsaved.tss
    rw [← htss, hmem, heq]
  have hreturned := returned_run hrsi
  rw [← hrun] at hreturned
  have hword : ∀ {j r}, (nativeWords t.back h)[j]? = some (h.reg r) →
      s.mem (addr nk (8 * j)) = h.reg r := fun hj => hsaved.words _ _ hj
  refine ⟨?_, ?_, ?_, ?_, hsys.trans hsys'⟩
  · intro r hr
    simp only [List.mem_cons, List.not_mem_nil, or_false] at hr
    rcases hr with rfl | rfl | rfl | rfl | rfl | rfl
    · exact hreturned.rbx.trans (hword (j := 4) rfl)
    · exact hreturned.rbp.trans (hword (j := 5) rfl)
    · exact hreturned.r12.trans (hword (j := 3) rfl)
    · exact hreturned.r13.trans (hword (j := 2) rfl)
    · exact hreturned.r14.trans (hword (j := 1) rfl)
    · exact hreturned.r15.trans (hword (j := 0) rfl)
  · rw [hreturned.rsp, hh.rsp]
  · rw [hreturned.cr3, hrdi]
  · rw [hreturned.cr4, hsaved.cr4]

/-- Without it the task state keeps the guest's stack. -/
theorem run_sp0_of_not
    (hh : HostReady ga nk t.cpu h) (hap : StacksApart ga nk)
    (hgs : ¬ t.HasHostGs h) :
    (t.run h).sys.sp0 = addr ga.va offGuestStk := by
  have hgs' : (t.exit h).sys.gsBase ≠ t.cpu.gsBase :=
    fun heq => hgs ((exit_gsBase hh hap).mp heq)
  rw [run_sys, kkmSwitchToHostKernel_sp0_of_ne hgs', (exited_exit hh hap).sp0,
    (payloadStopped_of_ready hh hap).sp0]

/-! ## When the host's state is restored -/

/-- The exit starts with DF and AC clear: `SYSCALL` clears them, an interrupt
gate does not. -/
def ExitCause.ClearsFlags (rflags : BitVec 64) : ExitCause → Prop
  | .trap _ _ _ _ _ =>
      rflags.getLsbD flagDf = false ∧ rflags.getLsbD flagAc = false
  | .syscall _ => True

/-- The exit code sees that it comes from the payload: after a `SYSCALL`, where
the vector's stub fits the frame, and where it does not but the instruction
pointer, taken for the code segment, has one of its two low bits set. -/
def ExitCause.SeesUser : ExitCause → Prop
  | .trap vector rip _ _ _ =>
      pushesErrorCode vector = faultWithErrorCode vector ∨ userFrame rip = true
  | .syscall _ => True

theorem ExitCause.swaps_iff (cause : ExitCause) :
    cause.swaps = true ↔ cause.SeesUser := by
  cases cause with
  | trap vector rip cs ss error =>
      by_cases hfits : pushesErrorCode vector = faultWithErrorCode vector
      · simp [ExitCause.swaps, ExitCause.SeesUser, hfits, cs.user]
      · simp [ExitCause.swaps, ExitCause.SeesUser, hfits]
  | syscall next => simp [ExitCause.swaps, ExitCause.SeesUser]

theorem ExitCause.flags_iff (m : SyscallMask) (rflags : BitVec 64) (cause : ExitCause) :
    ((cause.rflags m rflags).getLsbD flagDf = false ∧
        (cause.rflags m rflags).getLsbD flagAc = false) ↔
      cause.ClearsFlags rflags := by
  cases cause with
  | trap vector rip cs ss error =>
      have hdf : gateMask.getLsbD flagDf = false := by decide
      have hac : gateMask.getLsbD flagAc = false := by decide
      simp only [ExitCause.rflags, ExitCause.ClearsFlags, BitVec.getLsbD_and,
        BitVec.getLsbD_not, hdf, hac]
      simp [flagDf, flagAc]
  | syscall next =>
      simp [ExitCause.rflags, ExitCause.ClearsFlags, m.df, m.ac]

/-- The processor still uses the interrupt table that was native when the module
was loaded, and the exit clears DF and AC and finds the host's GS. -/
structure ReturnsClean (t : Trip) (h : State) : Prop where
  idt : h.sys.idt = t.nativeIdt
  flags : t.cause.ClearsFlags t.payload.rflags
  gs : t.cause.SeesUser ∨ t.payload.gsBase = h.sys.gsBase

/-- The host's state is restored exactly when the exit is clean. -/
theorem hostRestored_iff
    (hh : HostReady ga nk t.cpu h) (hap : StacksApart ga nk) :
    HostRestored h (t.run h) ↔ ReturnsClean t h := by
  have hflags := run_flags hh hap
  have hdf : (t.run h).rflags.getLsbD flagDf =
      (t.cause.rflags t.syscallMask t.payload.rflags).getLsbD flagDf :=
    getLsbD_of_controlFlags (by decide) (by decide) hflags
  have hac : (t.run h).rflags.getLsbD flagAc =
      (t.cause.rflags t.syscallMask t.payload.rflags).getLsbD flagAc :=
    getLsbD_of_controlFlags (by decide) (by decide) hflags
  have hgs : t.HasHostGs h ↔
      t.cause.SeesUser ∨ t.payload.gsBase = h.sys.gsBase := by
    rw [Trip.HasHostGs, t.cause.swaps_iff]
  constructor
  · intro hrestored
    have hhost : t.HasHostGs h := by
      by_contra hno
      exact hh.sp0 ((hrestored.tss .sp0).symm.trans (run_sp0_of_not hh hap hno))
    obtain ⟨-, -, -, -, hsys⟩ := run_restores hh hap hhost
    refine ⟨?_, ?_, hgs.mp hhost⟩
    · rw [← hrestored.idt, hsys]
      rfl
    · rw [← t.cause.flags_iff t.syscallMask, ← hdf, ← hac]
      exact ⟨hrestored.df, hrestored.ac⟩
  · intro hclean
    obtain ⟨hreg, hrsp, hcr3, hcr4, hsys⟩ := run_restores hh hap (hgs.mpr hclean.gs)
    have hbits := (t.cause.flags_iff t.syscallMask t.payload.rflags).mpr hclean.flags
    refine ⟨hreg, hrsp, hcr3, hcr4, ?_, ?_, ?_, ?_, ?_, ?_, ?_⟩
    · rw [hsys]
      exact ⟨rfl, rfl, rfl, rfl⟩
    · rw [hsys]
      exact ⟨rfl, rfl, rfl⟩
    · rw [hsys]
      rfl
    · rw [hsys]
      exact hclean.idt.symm
    · intro f
      rw [hsys]
      cases f <;> rfl
    · rw [hdf]
      exact hbits.1
    · rw [hac]
      exact hbits.2

end WholeWay

/-- A native stack in the area of kernel stacks. -/
def someNativeStack : BitVec 64 := 0xFFFFC90000003E00#64

def somePerCpu : PerCpu := ⟨0xFFFF888000000000#64, fun _ => 0x6000#64⟩

/-- The call of `kkm_switch_to_gk_asm`. -/
def someHost : State where
  reg := fun r =>
    match r with
    | .rdi => someGuestArea.va
    | .rsi => addr someGuestArea.va offGuestStk
    | .rsp => addr someNativeStack 56
    | _ => 0
  creg := fun _ => 0
  rflags := 0x46#64
  sys := { someEntry.sys with
    gsBase := somePerCpu.gsBase
    idt := 0xFFFFFE0000000000#64
    sp0 := 0xFFFFFE0000003000#64 }
  mem := fun _ => 0

theorem userFrame_userCs : userFrame userCs = true := by decide

/-- A payload that runs with these flags until a page fault. -/
def someTrip (rflags : BitVec 64) : Trip where
  cpu := somePerCpu
  nativeIdt := 0xFFFFFE0000000000#64
  guest := ⟨0, 0, 0, 0, 0⟩
  back := 0
  restore := 0
  entryCode := ⟨fun _ => 0, 0, fun _ => 0, 0, by decide⟩
  exitCode := ⟨fun _ => 0, 0, fun _ => 0, 0, by decide⟩
  payload := ⟨fun _ => 0, rflags, 0, 0, 0, 0, 0, 0, 0, fun _ => 0⟩
  cause := .trap 14 0x400000#64 ⟨userCs, userFrame_userCs⟩ userDs 0x4#64
  syscallMask := ⟨0x47700#64, by decide, by decide⟩

theorem someHost_ready (rflags : BitVec 64) :
    HostReady someGuestArea someNativeStack (someTrip rflags).cpu someHost :=
  ⟨rfl, rfl, rfl, rfl, by decide⟩

theorem someStacks_apart : StacksApart someGuestArea someNativeStack := by
  have hstack : ∀ j, j < 7 →
      (addr someNativeStack (8 * j)).toNat = 0xFFFFC90000003E00 + 8 * j :=
    fun j hj => addr_toNat (n := 6) (by decide) (by decide) (by omega)
  have harea : ∀ off, off < 2 ^ 13 →
      (addr someGuestArea.va off).toNat = 0xFFFFFE8000004000 + off :=
    fun off hoff => addr_toNat (by decide) someGuestArea.aligned hoff
  refine ⟨?_, ?_, ?_⟩
  · intro j hj off hoff heq
    have hnat := congrArg BitVec.toNat heq
    rw [hstack j hj, harea off hoff] at hnat
    omega
  · intro j hj
    rw [isUser, hstack j hj]
    exact decide_eq_false (by omega)
  · intro off hoff
    rw [isUser, harea off hoff]
    exact decide_eq_false (by omega)

theorem hostRestored_page_fault :
    HostRestored someHost ((someTrip 0x246#64).run someHost) := by
  have hclean : ReturnsClean (someTrip 0x246#64) someHost := by
    constructor
    · rfl
    · show (0x246#64).getLsbD flagDf = false ∧ (0x246#64).getLsbD flagAc = false
      decide
    · left
      left
      decide
  exact (hostRestored_iff (someHost_ready 0x246#64) someStacks_apart).mpr hclean

theorem direction_flag_set_in_host :
    ¬ HostRestored someHost ((someTrip 0x646#64).run someHost) := by
  intro hrestored
  have hflags := run_flags (someHost_ready 0x646#64) someStacks_apart
  have hdf : ((someTrip 0x646#64).run someHost).rflags.getLsbD flagDf =
      ((someTrip 0x646#64).cause.rflags (someTrip 0x646#64).syscallMask
        0x646#64).getLsbD flagDf :=
    getLsbD_of_controlFlags (by decide) (by decide) hflags
  rw [hrestored.df] at hdf
  exact absurd hdf (by decide)

end Driver
end KkmModule
