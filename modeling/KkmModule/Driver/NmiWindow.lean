import KkmModule.Driver.ContextSwitch

/-!
# An NMI while the guest interrupt table is loaded

From the load of the guest table in `kkm_guest_kernel_start_payload` to the
`IRETQ`, and from `kkm_intr_entry_asm_common` to the load of the native table in
`kkm_switch_to_host_kernel`, a non-maskable interrupt finds the stub of vector
2.  No gate has a stack of its own, so the frame goes to the current stack,
which lies in the guest area at every one of these points, and the exit code
saves the registers of the interrupted kernel code where the payload's are
kept.

Interrupts are off at all these points and on in every payload, so the saved
`rflags` alone tells the two apart.
-/

namespace KkmModule
namespace Driver

open Foundation X86

/-- `X86_TRAP_NMI` -/
def nmiVector : Nat := 2

/-- `__KERNEL_CS` -/
def kernelCs : BitVec 64 := 0x10#64

/-- The stack pointer is in `ga->stack`, and interrupts are off. -/
structure OnGuestStack (ga : GuestAreaAddr) (w : State) : Prop where
  interrupts : interruptsOn w.rflags = false
  rsp : ∃ q, w.reg .rsp = addr ga.va q ∧ 4352 ≤ q ∧ q ≤ offGuestStk

/-- The points at which the guest table is loaded and kernel code runs. -/
inductive InNmiWindow (ga : GuestAreaAddr) : State → Prop
  /-- C code of `kkm_guest_kernel_start_payload` after the table is loaded -/
  | startPayload {w : State} (h : OnGuestStack ga w) : InNmiWindow ga w
  /-- `kkm_switch_to_gp_asm` before its instruction `n` -/
  | switchToGp {s : State} (h : OnGuestStack ga s) (hrdi : s.reg .rdi = ga.va)
      (n : Nat) : InNmiWindow ga (run (kkmSwitchToGpAsm.take n) s)
  /-- `kkm_intr_entry_asm_common` before its instruction `n` -/
  | intrEntry {s : State} (h : OnGuestStack ga s) (n : Nat) :
      InNmiWindow ga (run (kkmIntrEntryAsmCommon.take n) s)
  /-- C code of `kkm_switch_to_host_kernel` before the native table is loaded -/
  | hostKernel {w : State} (h : OnGuestStack ga w) : InNmiWindow ga w

/-- The registers of a payload: it cannot turn interrupts off. -/
structure PayloadContext where
  regs : KkmRegs
  interrupts : interruptsOn regs.rflags = true

/-- The NMI at a point of the window, up to the adjustment of `ga->regs`. -/
def afterNmi (w : State) (rip ss : BitVec 64) : State :=
  intrExit nmiVector (w.deliver false rip kernelCs ss none)

/-- The NMI leaves the payload's context in `ga->regs`, and the host code runs
with the kernel's GS base. -/
structure NmiKeeps
    (ga : BitVec 64) (w : State) (rip ss : BitVec 64) (payload : PayloadContext)
    (kernelGs : BitVec 64) : Prop where
  context : gaRegs (afterNmi w rip ss).mem ga = payload.regs
  gs : (afterNmi w rip ss).sys.gsBase = kernelGs

/-! ## Points of the window -/

/-- What all points of the window have in common: the stack has room for the
NMI's words above the saved registers, and interrupts are off. -/
structure CanTakeNmi (ga : GuestAreaAddr) (w : State) : Prop where
  interrupts : interruptsOn w.rflags = false
  rsp : ∃ q, w.reg .rsp = addr ga.va q ∧ 1224 ≤ q ∧ q < 8192

theorem OnGuestStack.canTakeNmi
    {ga : GuestAreaAddr} {w : State} (h : OnGuestStack ga w) :
    CanTakeNmi ga w := by
  obtain ⟨q, hsp, hlow, hhigh⟩ := h.rsp
  have hhigh' : q ≤ 7936 := hhigh
  exact ⟨h.interrupts, q, hsp, by omega, by omega⟩

/-- Code that only pushes and pops stays in reach of where it started. -/
theorem canTakeNmi_prefix
    {ga : GuestAreaAddr} {is : List Instr} (his : ∀ i ∈ is, i.onlyStack = true)
    (hpush : is.countP Instr.isPush ≤ 8) (hpop : is.countP Instr.isPop ≤ 3)
    (n : Nat) {s : State} {q : Nat} (hsp : s.reg .rsp = addr ga.va q)
    (hq : 1288 ≤ q) (hq' : q ≤ 7936) (hoff : interruptsOn s.rflags = false) :
    CanTakeNmi ga (run (is.take n) s) := by
  obtain ⟨q', hsp', hlow, hhigh⟩ := (nearStack_of_take his n hsp (by omega)).rsp
  exact ⟨(interruptsOn_run (is.take n) 0 s).trans hoff, q', hsp', by omega, by omega⟩

/-- The entry before and after it moves to the stack for `IRETQ`. -/
theorem canTakeNmi_switchToGp
    {ga : GuestAreaAddr} {s : State} (h : OnGuestStack ga s)
    (hrdi : s.reg .rdi = ga.va) (n : Nat) :
    CanTakeNmi ga (run (kkmSwitchToGpAsm.take n) s) := by
  obtain ⟨q, hsp, hlow, hhigh⟩ := h.rsp
  have hhigh' : q ≤ 7936 := hhigh
  rcases Nat.lt_or_ge n 28 with hn | hn
  · have hfirst : kkmSwitchToGpAsm.take n =
        (kkmSwitchToGpAsm.take 27).take n := by
      rw [List.take_take, Nat.min_eq_left (by omega)]
    rw [hfirst]
    exact canTakeNmi_prefix (by decide) (by decide) (by decide) n hsp (by omega)
      hhigh h.interrupts
  · have hentry : AtEntry ga q s := ⟨hrdi, hsp, by show 4160 ≤ q; omega, hhigh⟩
    obtain ⟨s₂, hrun₂, hiret⟩ := entry_onIretStack ga hentry
    have hsplit : kkmSwitchToGpAsm.take n = (loadContext ++ toIretStack) ++
        (kkmSwitchToGpAsm.drop 28).take (n - 28) := by
      conv_lhs => rw [← List.take_append_drop 28 kkmSwitchToGpAsm]
      rw [List.take_append, List.take_of_length_le hn]
      rfl
    have hrun : run (kkmSwitchToGpAsm.take n) s =
        run ((kkmSwitchToGpAsm.drop 28).take (n - 28)) s₂ := by
      rw [hsplit, run, List.foldl_append, hrun₂, run]
    have hoff : interruptsOn s₂.rflags = false := by
      have hflags := interruptsOn_run (loadContext ++ toIretStack) 0 s
      rw [hrun₂] at hflags
      exact hflags.trans h.interrupts
    rw [hrun]
    exact canTakeNmi_prefix (by decide) (by decide) (by decide) (n - 28)
      hiret.rsp (by decide) (by decide) hoff

theorem InNmiWindow.canTakeNmi
    {ga : GuestAreaAddr} {w : State} (h : InNmiWindow ga w) :
    CanTakeNmi ga w := by
  cases h with
  | startPayload h => exact h.canTakeNmi
  | hostKernel h => exact h.canTakeNmi
  | switchToGp h hrdi n => exact canTakeNmi_switchToGp h hrdi n
  | intrEntry h n =>
      obtain ⟨q, hsp, hlow, hhigh⟩ := h.rsp
      exact canTakeNmi_prefix (by decide) (by decide) (by decide) n hsp (by omega)
        hhigh h.interrupts

/-! ## What the NMI leaves -/

/-- The registers of the interrupted kernel code take the place of the
payload's, and GS stays as it was. -/
theorem CanTakeNmi.afterNmi
    {ga : GuestAreaAddr} {w : State} (h : CanTakeNmi ga w) (rip ss : BitVec 64) :
    gaRegs (afterNmi w rip ss).mem ga.va = .ofFile w.reg rip w.rflags ∧
      (Driver.afterNmi w rip ss).sys = w.sys := by
  obtain ⟨q, hsp, hlow, hhigh⟩ := h.rsp
  have hwords : (trapWords nmiVector w rip kernelCs ss none).reverse =
      [BitVec.ofNat 64 nmiVector, BitVec.ofInt 64 (-1), rip, kernelCs, w.rflags,
        w.reg .rsp, ss] := rfl
  obtain ⟨hat, hsys⟩ := intrExit_regs ga nmiVector w false rip kernelCs ss
    none (n := 7) hsp hhigh rfl (by decide) (by omega)
    (by rw [hwords]; rfl) (by rw [hwords]; rfl) (by rw [hwords]; rfl)
    (by rw [hwords]; rfl)
  have hregs := hat.regs
  rw [Function.update_eq_self] at hregs
  have huser : userFrame kernelCs = false := by decide
  rw [huser] at hsys
  refine ⟨hregs, ?_⟩
  rw [Driver.afterNmi, intrExit, adjustRegs_sys]
  exact hsys

/-- Right before the `IRETQ` the host code that follows an NMI runs with the GS
base the payload has. -/
theorem gs_of_nmi_before_iretq
    (ga : GuestAreaAddr) {s : State} (h : OnGuestStack ga s)
    (hrdi : s.reg .rdi = ga.va) (rip ss : BitVec 64) :
    (afterNmi (run kkmSwitchToGpAsm s) rip ss).sys.gsBase =
      s.sys.kernelGsBase := by
  obtain ⟨q, hsp, hlow, hhigh⟩ := h.rsp
  have hentry : AtEntry ga q s := ⟨hrdi, hsp, by show 4160 ≤ q; omega, hhigh⟩
  have hcan := canTakeNmi_switchToGp h hrdi kkmSwitchToGpAsm.length
  rw [List.take_length] at hcan
  rw [(hcan.afterNmi rip ss).2, (switchToGpAsm_leavesHost ga hentry).2]
  rfl

/-- At no point of the window does an NMI leave a payload's context in
`ga->regs`. -/
theorem nmi_loses_context
    {ga : GuestAreaAddr} {w : State} (hw : InNmiWindow ga w)
    (rip ss : BitVec 64) (payload : PayloadContext) (kernelGs : BitVec 64) :
    ¬ NmiKeeps ga.va w rip ss payload kernelGs := by
  intro hkeeps
  have hcan := hw.canTakeNmi
  obtain ⟨hregs, -⟩ := hcan.afterNmi rip ss
  have hsame : payload.regs.rflags = w.rflags := by
    rw [← hkeeps.context, hregs]
    rfl
  have hon := payload.interrupts
  rw [hsame, hcan.interrupts] at hon
  cases hon

/-- A payload with interrupts on. -/
def somePayload : PayloadContext := ⟨{ KkmRegs.zeroed with rflags := 0x246 }, by decide⟩

theorem someEntry_onGuestStack : OnGuestStack someGuestArea someEntry :=
  ⟨by decide, 7872, rfl, by decide, by decide⟩

theorem nmi_loses_context_in_exit :
    ¬ NmiKeeps someGuestArea.va (run (kkmIntrEntryAsmCommon.take 20) someEntry)
      0xFFFFFE8000001000#64 0x18#64 somePayload 0#64 :=
  nmi_loses_context (.intrEntry someEntry_onGuestStack 20) _ _ somePayload _

theorem context_lost_before_iretq :
    ¬ NmiKeeps someGuestArea.va (run kkmSwitchToGpAsm someEntry)
      0xFFFFFE8000002100#64 0x18#64 somePayload 0#64 := by
  intro hkeeps
  have hcan := canTakeNmi_switchToGp someEntry_onGuestStack rfl
    kkmSwitchToGpAsm.length
  rw [List.take_length] at hcan
  have hrip : somePayload.regs.rip = 0xFFFFFE8000002100#64 := by
    rw [← hkeeps.context, (hcan.afterNmi _ _).1]
    rfl
  exact absurd hrip (by decide)

end Driver
end KkmModule
