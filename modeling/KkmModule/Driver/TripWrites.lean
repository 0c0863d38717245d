import KkmModule.Driver.SwitchedRuns
import KkmModule.Foundation.X86Footprint

/-!
# Where the way through the payload writes

Between the call of `kkm_switch_to_gk_asm` and its return kernel memory is written
in three places: seven words of the native stack, some words of the first page of
the guest area, and the guest stack.  What the payload does makes no difference
to that.

`kernelMemory_kept` states it for every word of memory and every turn of a run.
The words that the assembly code may write are computed from its instructions.
-/

namespace KkmModule
namespace Driver

open Foundation X86

/-! ## The places -/

/-- The memory into which the registers of the switch code point. -/
inductive SwitchArea where
  | nativeStack
  | guestArea
  /-- the eight words below the stack pointer with which `kkm_switch_to_gp_asm`
  is called -/
  | entryStack
deriving DecidableEq, Repr

def SwitchArea.bits : SwitchArea → Nat
  | .nativeStack => 0
  | .guestArea => 13
  | .entryStack => 0

def switchAreas (ga : GuestAreaAddr) (nk stack : BitVec 64) : Areas SwitchArea.bits where
  base
    | .nativeStack => nk
    | .guestArea => ga.va
    | .entryStack => stack
  bits_le := by
    intro b
    cases b <;> decide
  aligned := by
    intro b
    cases b with
    | nativeStack => exact Nat.one_dvd _
    | guestArea => exact ga.aligned
    | entryStack => exact Nat.one_dvd _

/-- The words that `kkm_intr_entry_asm` saves in the guest area. -/
def savedWords : List Nat := saveContext.filterMap Instr.storesAt

/-- The words of the frame for `IRETQ`, and of the registers below it. -/
def iretWords : List Nat := (List.range 8).map fun j => offPayEntStk - 64 + 8 * j

/-- The words that `kkm_switch_to_host_kernel` adjusts. -/
def adjustedWords : List Nat := [offRip, offRflags]

def onGuestStack (off : Nat) : Bool := guestStkTop ≤ off && off < offGuestStk

/-- The offsets in the guest area at which the way through the payload writes. -/
def tripWrites (off : Nat) : Bool :=
  off ∈ entryWords || off ∈ savedWords || off ∈ iretWords || off ∈ adjustedWords ||
    onGuestStack off

/-- A word of kernel memory that is at none of the places. -/
structure Untouched (ga : GuestAreaAddr) (nk b : BitVec 64) : Prop where
  kernel : isUser b = false
  area : ∀ off, tripWrites off = true → b ≠ addr ga.va off
  stack : ∀ j, j < 7 → b ≠ addr nk (8 * j)

theorem tripWrites_of_onGuestStack {off : Nat} (h : onGuestStack off = true) :
    tripWrites off = true := by
  simp [tripWrites, h]

theorem onGuestStack_iff {off : Nat} :
    onGuestStack off = true ↔ guestStkTop ≤ off ∧ off < offGuestStk := by
  simp [onGuestStack]

theorem tripWrites_of_entry {off : Nat} (h : off ∈ entryWords) : tripWrites off = true := by
  simp [tripWrites, h]

theorem tripWrites_of_saved {off : Nat} (h : off ∈ savedWords) : tripWrites off = true := by
  simp [tripWrites, h]

/-! ## The assembly code -/

/-- The arguments of `kkm_switch_to_gk_asm`, on the native stack. -/
def callKnown : Known SwitchArea where
  reg
    | .rdi => some ⟨.guestArea, 0⟩
    | .rsi => some ⟨.guestArea, offGuestStk⟩
    | .rsp => some ⟨.nativeStack, 48⟩
    | _ => none

/-- The argument of `kkm_switch_to_gp_asm`. -/
def entryKnown : Known SwitchArea where
  reg
    | .rdi => some ⟨.guestArea, 0⟩
    | .rsp => some ⟨.entryStack, 64⟩
    | _ => none

/-- The stack pointer after the frame of an exit, and nothing else. -/
def exitKnown (off : Nat) : Known SwitchArea where
  reg
    | .rsp => some ⟨.guestArea, off⟩
    | _ => none

/-- Six words of the native stack, and two of the guest area. -/
def callWrites (p : Place SwitchArea) : Bool :=
  match p.area with
  | .nativeStack => p.off ∈ [0, 8, 16, 24, 32, 40]
  | .guestArea => p.off = offNkStack || onGuestStack p.off
  | .entryStack => false

def enterWrites (p : Place SwitchArea) : Bool :=
  match p.area with
  | .nativeStack => false
  | .guestArea => p.off ∈ iretWords
  | .entryStack => p.off % 8 = 0 && p.off < 64

def exitWrites (p : Place SwitchArea) : Bool :=
  match p.area with
  | .nativeStack => false
  | .guestArea => p.off ∈ savedWords || onGuestStack p.off
  | .entryStack => false

theorem switchToGkAsm_within (restore : BitVec 64) :
    writesWithin SwitchArea.bits (kkmSwitchToGkAsm restore) callKnown callWrites = true :=
  rfl

theorem switchToGpAsm_within :
    writesWithin SwitchArea.bits kkmSwitchToGpAsm entryKnown enterWrites = true := by
  decide +kernel

/-- The exit, whichever number of words is on the stack. -/
theorem intrEntryAsm_within {off : Nat} (hoff : off ∈ [7872, 7880]) :
    writesWithin SwitchArea.bits kkmIntrEntryAsm (exitKnown off) exitWrites = true := by
  simp only [List.mem_cons, List.not_mem_nil, or_false] at hoff
  rcases hoff with rfl | rfl <;> decide +kernel

theorem intrEntryAsmCommon_within :
    writesWithin SwitchArea.bits kkmIntrEntryAsmCommon (exitKnown 7880) exitWrites =
      true := by
  decide +kernel

/-! ## The phases -/

section Phases

variable {ga : GuestAreaAddr} {nk b : BitVec 64} {t : Trip} {h : State}

/-- The state at the call of `kkm_guest_kernel_start_payload`. -/
def Trip.atStart (t : Trip) (h : State) : State :=
  X86.run (kkmSwitchToGkAsm t.restore) (h.pushWord t.back)

theorem atStart_untouched
    (hh : HostReady ga nk t.cpu h) (hb : Untouched ga nk b) :
    (t.atStart h).mem b = h.mem b := by
  have hsp : h.reg .rsp - 8#64 = addr nk 48 := by
    rw [hh.rsp]
    exact addr_sub nk (by decide)
  have hknown : callKnown.Holds (switchAreas ga nk 0) (h.pushWord t.back) := by
    intro r p hp
    cases r <;> cases hp
    · simp [hh.rsi, switchAreas, Areas.at]
    · simp [hh.rdi, switchAreas, Areas.at, addr_zero]
    · simp [hsp, switchAreas, Areas.at]
  have hrun := mem_of_writesWithin (switchToGkAsm_within t.restore) hknown (b := b)
    (by
      rintro ⟨area, off⟩ hoff
      cases area with
      | nativeStack =>
          obtain ⟨j, hj, rfl⟩ : ∃ j, j < 7 ∧ off = 8 * j := by
            simp only [callWrites, List.mem_cons, List.not_mem_nil, or_false,
              decide_eq_true_eq] at hoff
            exact ⟨off / 8, by omega, by omega⟩
          exact hb.stack j hj
      | guestArea =>
          refine hb.area off ?_
          simp only [callWrites, Bool.or_eq_true, decide_eq_true_eq] at hoff
          rcases hoff with rfl | hoff
          · decide
          · exact tripWrites_of_onGuestStack hoff
      | entryStack => cases hoff)
  have hne : b ≠ h.reg .rsp - 8#64 := by
    rw [hsp]
    exact hb.stack 6 (by decide)
  rw [Trip.atStart, hrun, pushWord_mem, Function.update_of_ne hne]

/-- Compiled code writes the guest stack. -/
theorem leave_untouched (c : Compiled) (s : State) (hb : Untouched ga nk b) :
    (c.leave ga.va s).mem b = s.mem b := by
  have hno : ¬ (guestStkTop ≤ (b - ga.va).toNat ∧ (b - ga.va).toNat < offGuestStk) := by
    intro hoff
    refine hb.area (b - ga.va).toNat (tripWrites_of_onGuestStack (onGuestStack_iff.mpr hoff)) ?_
    rw [addr, BitVec.ofNat_toNat, BitVec.setWidth_eq, BitVec.add_comm,
      BitVec.sub_add_cancel]
  simp only [Compiled.leave, if_neg hno]

theorem atSwitch_untouched
    (hh : HostReady ga nk t.cpu h) (hap : StacksApart ga nk) (hb : Untouched ga nk b) :
    (t.atSwitch h).mem b = h.mem b := by
  have hwords : ∀ sys, ∀ w ∈ startWords t.guest sys, b ≠ addr ga.va w.1 := by
    intro sys w hw
    have hmem : w.1 ∈ entryWords.tail := List.mem_map_of_mem (f := Prod.fst) hw
    exact hb.area w.1 (tripWrites_of_entry (List.mem_of_mem_tail hmem))
  rw [(atSwitch_eq hh hap).1, mem_writeWords_of_ne (hwords _), leave_untouched _ _ hb]
  exact atStart_untouched hh hb

/-- The C code has left the eight words that the entry pushes. -/
theorem enter_untouched
    (hh : HostReady ga nk t.cpu h) (hap : StacksApart ga nk)
    (hroom : t.entryCode.depth + 64 ≤ 3576) (hb : Untouched ga nk b) :
    (t.enter h).mem b = h.mem b := by
  have hentry := atEntry_atSwitch hh hap
  have henter : t.enter h = run kkmSwitchToGpAsm (t.atSwitch h) := rfl
  rw [henter, ← atSwitch_untouched hh hap hb]
  generalize t.atSwitch h = s at hentry
  -- the stack pointer, seen from the lowest word that is pushed
  let low := 7928 - t.entryCode.depth - 64
  have hlow : offGuestStk - 8 - t.entryCode.depth = low + 64 := by
    show 7928 - t.entryCode.depth = 7928 - t.entryCode.depth - 64 + 64
    omega
  have hknown : entryKnown.Holds (switchAreas ga nk (addr ga.va low)) s := by
    intro r p hp
    cases r <;> cases hp
    · simp [hentry.rdi, switchAreas, Areas.at, addr_zero]
    · simp [hentry.rsp, switchAreas, Areas.at, addr_addr, hlow]
  refine mem_of_writesWithin switchToGpAsm_within hknown ?_
  rintro ⟨area, off⟩ hoff
  cases area with
  | nativeStack => cases hoff
  | guestArea =>
      refine hb.area off ?_
      simp only [enterWrites, decide_eq_true_eq] at hoff
      simp [tripWrites, hoff]
  | entryStack =>
      have hoff' : off < 64 := by
        simp only [enterWrites, Bool.and_eq_true, decide_eq_true_eq] at hoff
        exact hoff.2
      have hstack : onGuestStack (low + off) = true := by
        refine onGuestStack_iff.mpr ⟨?_, ?_⟩
        · show 4352 ≤ 7928 - t.entryCode.depth - 64 + off
          omega
        · show 7928 - t.entryCode.depth - 64 + off < 7936
          omega
      have hne := hb.area (low + off) (tripWrites_of_onGuestStack hstack)
      rwa [← addr_addr] at hne

/-- Words on the guest stack, from its bottom on. -/
theorem pushWords_untouched
    {s : State} (hsp : s.reg .rsp = addr ga.va offGuestStk) (ws : List (BitVec 64))
    (hws : ws.length ≤ 8) (hb : Untouched ga nk b) :
    (s.pushWords ws).mem b = s.mem b := by
  have hlen : 8 * ws.length ≤ 7936 := by omega
  refine mem_pushWords_of_ne ws hsp hlen fun j hj => ?_
  refine hb.area (7936 - 8 * (j + 1)) (tripWrites_of_onGuestStack (onGuestStack_iff.mpr ?_))
  exact ⟨show 4352 ≤ 7936 - 8 * (j + 1) by omega, show 7936 - 8 * (j + 1) < 7936 by omega⟩

/-- The code of an exit, from the words on its stack on. -/
theorem exitCode_untouched
    {is : List Instr} {off : Nat} {s : State}
    (hwithin : writesWithin SwitchArea.bits is (exitKnown off) exitWrites = true)
    (hsp : s.reg .rsp = addr ga.va off) (hb : Untouched ga nk b) :
    (run is s).mem b = s.mem b := by
  have hknown : (exitKnown off).Holds (switchAreas ga nk 0) s := by
    intro r p hp
    cases r <;> cases hp
    exact hsp
  refine mem_of_writesWithin hwithin hknown ?_
  rintro ⟨area, off'⟩ hoff
  cases area with
  | nativeStack => cases hoff
  | guestArea =>
      refine hb.area off' ?_
      simp only [exitWrites, Bool.or_eq_true, decide_eq_true_eq] at hoff
      rcases hoff with hoff | hoff
      · exact tripWrites_of_saved hoff
      · exact tripWrites_of_onGuestStack hoff
  | entryStack => cases hoff

theorem trapWords_length (x : PayloadTrap) :
    7 ≤ x.words.length ∧ x.words.length ≤ 8 := by
  by_cases hfits : x.StubFits
  · exact (takenFrame_of_stubFits hfits).length
  · exact (takenFrame_of_not_stubFits hfits).length

theorem trap_untouched
    (x : PayloadTrap) (hsp0 : x.state.sys.sp0 = addr ga.va offGuestStk)
    (hb : Untouched ga nk b) :
    (run (intrStub x.vector ++ kkmIntrEntryAsm)
      (x.state.deliver true x.rip x.cs x.ss x.hwError)).mem b = x.state.mem b := by
  obtain ⟨hmin, hmax⟩ := trapWords_length x
  have htop : x.state.sys.sp0 &&& ~~~0xF#64 = addr ga.va offGuestStk := by
    rw [hsp0]
    exact addr_align16 (by decide) (by decide) ga.aligned (by decide)
  obtain ⟨rflags, hstub⟩ := stub_state x.vector x.state true x.rip x.cs x.ss x.hwError htop
  let s₀ := x.state.set .rsp (addr ga.va offGuestStk)
  have hsp : s₀.reg .rsp = addr ga.va offGuestStk := by simp [s₀]
  have hpushed : Pushed ga.va offGuestStk x.words s₀ (s₀.pushWords x.words) :=
    pushed_pushWords x.words hsp (show 8 * x.words.length ≤ 7936 by omega)
      (show 7936 < 2 ^ 63 by omega)
  have hmem : (s₀.pushWords x.words).mem b = x.state.mem b :=
    pushWords_untouched hsp x.words hmax hb
  have hoff : offGuestStk - 8 * x.words.length ∈ [7872, 7880] := by
    show 7936 - 8 * x.words.length ∈ [7872, 7880]
    simp only [List.mem_cons, List.not_mem_nil, or_false]
    omega
  let s₁ : State := { s₀.pushWords x.words with rflags := rflags }
  have hrsp₁ : s₁.reg .rsp = addr ga.va (offGuestStk - 8 * x.words.length) := hpushed.rsp
  have hmem₁ : s₁.mem b = x.state.mem b := hmem
  have hrun : run (intrStub x.vector ++ kkmIntrEntryAsm)
      (x.state.deliver true x.rip x.cs x.ss x.hwError) = run kkmIntrEntryAsm s₁ := by
    rw [run, List.foldl_append, hstub]
    rfl
  rw [hrun, exitCode_untouched (intrEntryAsm_within hoff) hrsp₁ hb, hmem₁]

theorem syscall_untouched
    {cpu : PerCpu} {s : State} (hsp0 : s.sys.sp0 = addr ga.va offGuestStk)
    (hgs : s.sys.kernelGsBase = cpu.gsBase) (m : SyscallMask) (next : BitVec 64)
    (hb : Untouched ga nk b) :
    (ExitCause.run cpu m s (.syscall next)).mem b = s.mem b := by
  let u := m.enter next s
  obtain ⟨-, hrsp, -⟩ := syscallEntry_pushed hsp0 hgs m next
  have hentry : (kkmSyscallEntryAsm cpu u).mem b = s.mem b := by
    rw [kkmSyscallEntryAsm_eq (s := u) hgs]
    exact pushWords_untouched (by rw [← hsp0]; simp [u, SyscallMask.enter])
      (syscallWords u) (show 7 ≤ 8 by omega) hb
  have hrun : ExitCause.run cpu m s (.syscall next) =
      run kkmIntrEntryAsmCommon (kkmSyscallEntryAsm cpu u) := rfl
  rw [hrun, exitCode_untouched intrEntryAsmCommon_within hrsp hb, hentry]

theorem exit_untouched
    (hh : HostReady ga nk t.cpu h) (hap : StacksApart ga nk)
    (hroom : t.entryCode.depth + 64 ≤ 3576) (hb : Untouched ga nk b) :
    (t.exit h).mem b = h.mem b := by
  have hstop := payloadStopped_of_ready hh hap
  have hleave : (t.payload.leave (t.enter h)).mem b = h.mem b := by
    have hkeep : (t.payload.leave (t.enter h)).mem b = (t.enter h).mem b := by
      simp [Payload.leave, hb.kernel]
    rw [hkeep, enter_untouched hh hap hroom hb]
  rw [Trip.exit, ← hleave]
  generalize t.payload.leave (t.enter h) = s at hstop
  cases t.cause with
  | trap vector rip cs ss error =>
      exact trap_untouched ⟨vector, s, rip, cs.selector, ss, error⟩ hstop.sp0 hb
  | syscall next => exact syscall_untouched hstop.sp0 hstop.kernelGsBase _ next hb

theorem adjustRegs_untouched
    {s : State} (hrdi : s.reg .rdi = ga.va) (hb : Untouched ga nk b) :
    (adjustRegs s).mem b = s.mem b := by
  have hrip := hb.area offRip (by decide)
  have hrflags := hb.area offRflags (by decide)
  simp [adjustRegs, hrdi, hrip, hrflags]

/-- From the call of `kkm_switch_to_gk_asm` to its return, whatever the payload and
its exit are. -/
theorem switch_untouched
    (hh : HostReady ga nk t.cpu h) (hap : StacksApart ga nk) (hgs : t.HasHostGs h)
    (hroom : t.entryCode.depth + 64 ≤ 3576) (hb : Untouched ga nk b) :
    (t.run h).mem b = h.mem b := by
  have hrdi := (exited_exit hh hap).rdi
  have hgs' := (exit_gsBase hh hap).mpr hgs
  have hexit := exit_untouched hh hap hroom hb
  have hreturn := mem_of_run (kkmSwitchToHkAsm ++ kkmRestoreLabel) (by decide) 0
    (kkmSwitchToHostKernel t.cpu (saveNativeKernel t.nativeIdt h) t.exitCode (t.exit h))
  have hhost : (kkmSwitchToHostKernel t.cpu (saveNativeKernel t.nativeIdt h) t.exitCode
      (t.exit h)).mem = (t.exitCode.leave ga.va (adjustRegs (t.exit h))).mem := by
    rw [kkmSwitchToHostKernel_eq hrdi hgs']
    rfl
  rw [Trip.run, run, hreturn, hhost, leave_untouched _ _ hb, adjustRegs_untouched hrdi hb,
    hexit]

end Phases

/-! ## Every turn of a run -/

theorem SwitchedRun.calls
    {cfg : KkmConfig} {ga : GuestAreaAddr} {s s' : LoopState} {ts : List SwitchedTurn}
    (h : SwitchedRun cfg ga s ts s') : ∀ t ∈ ts, ∃ kontext, t.Calls ga kontext := by
  induction h with
  | done s => exact fun t ht => nomatch ht
  | @turn kontext memory t ts s calls rest ih =>
      intro t' ht'
      rcases List.mem_cons.mp ht' with rfl | ht'
      · exact ⟨kontext, calls⟩
      · exact ih t' ht'

/-- The way through the payload writes the first page and the guest stack. -/
theorem tripWrites_bounds {off : Nat} (h : tripWrites off = true) :
    off < offPayEntStk ∨ guestStkTop ≤ off ∧ off < offGuestStk := by
  have hlow : ∀ off ∈ entryWords ++ savedWords ++ iretWords ++ adjustedWords,
      off < offPayEntStk := by decide +kernel
  simp only [tripWrites, Bool.or_eq_true, decide_eq_true_eq] at h
  rcases h with h | h
  · exact .inl (hlow off (by simpa [or_assoc] using h))
  · exact .inr (onGuestStack_iff.mp h)

end Driver
end KkmModule
