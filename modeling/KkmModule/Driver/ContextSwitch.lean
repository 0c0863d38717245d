import KkmModule.Driver.SwitchCode
import KkmModule.Foundation.X86Blocks
import KkmModule.Foundation.X86Frame

/-!
# Entry and exit keep the payload's registers

The exit code is followed from any stack inside the guest area, since an
interrupt of the switch code itself takes the same way.  The entry code starts
on the guest kernel stack.
-/

namespace KkmModule
namespace Driver

open Foundation X86

/-- The address of a guest area. -/
structure GuestAreaAddr where
  va : BitVec 64
  aligned : 2 ^ 13 ∣ va.toNat

/-- The part of the guest area with the registers and the trap information. -/
def savedBytes : Nat := offTiIntrNo + 8

theorem savedBytes_eq : savedBytes = 1128 := rfl

/-- What the switch code leaves alone: the words below `ga->regs`, the memory
outside the guest area, and `CR4`. -/
structure LeavesHost (ga : GuestAreaAddr) (s s' : State) : Prop where
  low : ∀ off, off < regBaseOff →
    s'.mem (addr ga.va off) = s.mem (addr ga.va off)
  outside : ∀ b, (∀ off, off < 2 ^ 13 → b ≠ addr ga.va off) → s'.mem b = s.mem b
  cr4 : s'.creg .cr4 = s.creg .cr4

theorem LeavesHost.trans
    {ga : GuestAreaAddr} {s s' s'' : State} (h : LeavesHost ga s s')
    (h' : LeavesHost ga s' s'') : LeavesHost ga s s'' :=
  ⟨fun off hoff => (h'.low off hoff).trans (h.low off hoff),
    fun b hb => (h'.outside b hb).trans (h.outside b hb), h'.cr4.trans h.cr4⟩

/-! ## The exit -/

/-- What the code between two states leaves alone, but for some registers and
one word below the stack. -/
structure Keeps (regs : List Reg) (s s' : State) : Prop where
  reg : ∀ r, r ∉ regs → s'.reg r = s.reg r
  mem : ∀ a, a ≠ s.reg .rsp - 8#64 → s'.mem a = s.mem a
  cr4 : s'.creg .cr4 = s.creg .cr4

theorem Keeps.refl (regs : List Reg) (s : State) : Keeps regs s s :=
  ⟨fun _ _ => rfl, fun _ _ => rfl, rfl⟩

/-- The exit's full flush, made or skipped. -/
theorem exit_fullFlush (s : State) :
    ∃ s', (toGuestKernelCr3.drop 8).foldl step (0, s) = (0, s') ∧
      Keeps [.rdi] s s' := by
  refine ⟨_, foldl_step_jne (toGuestKernelCr3.drop 9) (by decide) s, ?_⟩
  split
  · refine ⟨?_, ?_, ?_⟩
    · intro r hr
      have hrdi : r ≠ .rdi := by simpa using hr
      by_cases hsp : r = .rsp
      · subst hsp
        refine Eq.trans ?_ (BitVec.sub_add_cancel (s.reg .rsp) 8#64)
        simp [toGuestKernelCr3, execs, exec]
      · simp [toGuestKernelCr3, execs, exec, hrdi, hsp]
    · intro a ha
      simp [toGuestKernelCr3, execs, exec, ha]
    · simp [toGuestKernelCr3, execs, exec]
  · exact .refl _ s

/-- The state when the saving starts.  The trap stack is `t` bytes above the
address of the guest area. -/
structure AtSave (ga : GuestAreaAddr) (t : Nat) (s s' : State) : Prop where
  reg : ∀ r, r ∉ [.rdi, .rsi, .rsp] → s'.reg r = s.reg r
  rdi : s'.reg .rdi = ga.va
  rsi : s'.reg .rsi = addr ga.va t
  rsp : s'.reg .rsp = addr ga.va t
  saved_rsi : s'.mem (addr ga.va t) = s.reg .rsi
  saved_rdi : s'.mem (addr ga.va (t + 8)) = s.reg .rdi
  mem : ∀ a, a ≠ addr ga.va t → a ≠ addr ga.va (t + 8) →
    a ≠ addr ga.va (t - 8) → s'.mem a = s.mem a
  cr4 : s'.creg .cr4 = s.creg .cr4

theorem exit_header
    (ga : GuestAreaAddr) {t : Nat} (ht : 8 ≤ t) (ht' : t < 2 ^ 13) {s : State}
    (hsp : s.reg .rsp = addr ga.va (t + 16)) :
    ∃ s', (toGuestKernelCr3 ++ findGuestArea).foldl step (0, s) = (0, s') ∧
      AtSave ga t s s' := by
  have hpush₁ : s.reg .rsp - 8#64 = addr ga.va (t + 8) := by
    rw [hsp]
    exact addr_sub ga.va (by omega)
  have hpush₂ : addr ga.va (t + 8) - 8#64 = addr ga.va t :=
    addr_sub ga.va (by omega)
  have hpush₃ : addr ga.va t - 8#64 = addr ga.va (t - 8) := addr_sub ga.va ht
  have hne : addr ga.va t ≠ addr ga.va (t + 8) := by
    intro heq
    have := (addr_inj (by omega) (by omega)).mp heq
    omega
  have hne₁ : addr ga.va (t + 8) ≠ addr ga.va (t - 8) := by
    intro heq
    have := (addr_inj (by omega) (by omega)).mp heq
    omega
  have hne₂ : addr ga.va t ≠ addr ga.va (t - 8) := by
    intro heq
    have := (addr_inj (by omega) (by omega)).mp heq
    omega
  -- up to the conditional flush
  let s₁ := execs (toGuestKernelCr3.take 8) s
  have hrun₁ : (toGuestKernelCr3.take 8).foldl step (0, s) = (0, s₁) :=
    foldl_step_plain (by decide) s
  have hsp₁ : s₁.reg .rsp = addr ga.va t := by
    simp [s₁, toGuestKernelCr3, execs, exec, hpush₁, hpush₂]
  obtain ⟨s₂, hrun₂, hkeeps⟩ := exit_fullFlush s₁
  have hsp₂ : s₂.reg .rsp = addr ga.va t := by
    rw [hkeeps.reg .rsp (by decide), hsp₁]
  have hmem₂ : ∀ a, a ≠ addr ga.va (t - 8) → s₂.mem a = s₁.mem a := by
    intro a ha
    exact hkeeps.mem a (by rw [hsp₁, hpush₃]; exact ha)
  refine ⟨execs findGuestArea s₂, ?_, ?_⟩
  · have hsplit : toGuestKernelCr3 ++ findGuestArea =
        toGuestKernelCr3.take 8 ++ (toGuestKernelCr3.drop 8 ++ findGuestArea) := rfl
    rw [hsplit, List.foldl_append, hrun₁, List.foldl_append, hrun₂]
    exact foldl_step_plain (by decide) s₂
  · have hmem₁ : s₁.mem = Function.update
        (Function.update s.mem (addr ga.va (t + 8)) (s.reg .rdi))
        (addr ga.va t) (s.reg .rsi) := by
      simp [s₁, toGuestKernelCr3, execs, exec, hpush₁, hpush₂]
    have hmask : addr ga.va t &&& 0xFFFFFFFFFFFFE000#64 = ga.va :=
      addr_and_areaMask (by decide) ga.aligned ht'
    refine ⟨?_, ?_, ?_, ?_, ?_, ?_, ?_, ?_⟩
    · intro r hr
      simp only [List.mem_cons, List.not_mem_nil, or_false, not_or] at hr
      obtain ⟨hrdi, hrsi, hrsp⟩ := hr
      have hr₂ : s₂.reg r = s₁.reg r := hkeeps.reg r (by simpa using hrdi)
      simp [findGuestArea, execs, exec, hrdi, hr₂, s₁, toGuestKernelCr3, hrsi, hrsp]
    · simp [findGuestArea, execs, exec, hsp₂, hmask]
    · have hrsi₂ : s₂.reg .rsi = s₁.reg .rsi := hkeeps.reg .rsi (by decide)
      simp [findGuestArea, execs, exec, hrsi₂, s₁, toGuestKernelCr3, hpush₁, hpush₂]
    · simp [findGuestArea, execs, exec, hsp₂]
    · change s₂.mem _ = _
      rw [hmem₂ _ hne₂, hmem₁, Function.update_self]
    · change s₂.mem _ = _
      rw [hmem₂ _ hne₁, hmem₁, Function.update_of_ne hne.symm, Function.update_self]
    · intro a h₀ h₁ h₂
      change s₂.mem _ = _
      rw [hmem₂ _ h₂, hmem₁, Function.update_of_ne h₀, Function.update_of_ne h₁]
    · have hcr₁ : s₁.creg .cr4 = s.creg .cr4 := by
        simp [s₁, toGuestKernelCr3, execs, exec]
      exact hkeeps.cr4.trans hcr₁

/-- The area and the trap stack, as the saving uses them. -/
def saveScope : Scope := ⟨.rdi, savedBytes, .rsi, offTsSs + 8⟩

/-- The registers as the saving finds them: three of them are on the trap
stack. -/
def trapRegs (reg : Reg → BitVec 64) (trap : Nat → BitVec 64) :
    Reg → BitVec 64
  | .rsp => trap offTsRsp
  | .rdi => trap offTsRdi
  | .rsi => trap offTsRsi
  | r => reg r

theorem saveContext_allowed :
    ∀ i ∈ saveContext, saveScope.allows i = true := by
  decide +kernel

/-- What the saving writes, register by register. -/
theorem saveContext_low (src : Sources) (v : View) :
    let v' := saveContext.foldl (View.exec saveScope src) v
    (∀ r, v'.low (offReg r) = trapRegs v.reg src.high r) ∧
      v'.low offTiRip = src.high offTsRip ∧
      v'.low offTiRflags = src.high offTsRflags := by
  refine ⟨?_, rfl, rfl⟩
  intro r
  cases r <;> rfl

/-- The words of the trap stack and where in the trap information they go. -/
def trapCopies : List (Nat × Nat) :=
  [(offTsIntrNo, offTiIntrNo), (offTsError, offTiError), (offTsRip, offTiRip),
    (offTsCs, offTiCs), (offTsRflags, offTiRflags), (offTsRsp, offTiRsp),
    (offTsSs, offTiSs)]

theorem trapCopies_bounds :
    ∀ c ∈ trapCopies, 8 < c.1 ∧ c.1 < 72 ∧ c.2 < savedBytes := by
  decide

/-- What it writes besides the registers. -/
theorem saveContext_rest (src : Sources) (v : View) :
    let v' := saveContext.foldl (View.exec saveScope src) v
    (∀ c ∈ trapCopies, v'.low c.2 = src.high c.1) ∧
      ∀ cr, v'.low (offCr cr) = src.creg cr := by
  refine ⟨?_, ?_⟩
  · intro c hc
    simp only [trapCopies, List.mem_cons, List.not_mem_nil, or_false] at hc
    rcases hc with rfl | rfl | rfl | rfl | rfl | rfl | rfl <;> rfl
  · intro cr
    cases cr <;> rfl

/-- Where the trap stack may be: above the saved part, inside the area. -/
structure TrapStackAt (t : Nat) : Prop where
  above : 1136 ≤ t
  inside : t + 72 ≤ 8192

theorem saveScope_apart
    (ga : GuestAreaAddr) {t : Nat} (ht : TrapStackAt t) :
    saveScope.Apart ga.va (addr ga.va t) where
  words i j hi hj heq := by
    have habove := ht.above
    have hinside := ht.inside
    have hi : i < 1128 := hi
    have hj : j < 72 := hj
    rw [addr_addr] at heq
    have := (addr_inj (by omega) (by omega)).mp heq
    omega
  base_ne := by decide
  top_ne := by decide
  low_le := by
    show savedBytes ≤ 2 ^ 63
    rw [savedBytes_eq]
    omega

/-- The registers a frame and the saved registers make up. -/
def trapFile (reg : Reg → BitVec 64) (frame : Nat → BitVec 64) : KkmRegs :=
  .ofFile (Function.update reg .rsp (frame offTsRsp)) (frame offTsRip)
    (frame offTsRflags)

theorem offReg_lt (r : Reg) : offReg r < savedBytes := by
  cases r <;> decide

/-- `kkm_switch_to_host_kernel` takes `rip` and `rflags` from the trap
information. -/
theorem gaRegs_adjustRegs {s : State} {ga : BitVec 64} (h : s.reg .rdi = ga) :
    gaRegs (adjustRegs s).mem ga =
      .ofFile (fun r => s.mem (addr ga (offReg r))) (s.mem (addr ga offTiRip))
        (s.mem (addr ga offTiRflags)) := by
  have hne : ∀ {i j : Nat}, i < 2 ^ 64 → j < 2 ^ 64 → i ≠ j →
      addr ga i ≠ addr ga j := fun hi hj hij heq => hij ((addr_inj hi hj).mp heq)
  have hreg : ∀ r, addr ga (offReg r) ≠ addr ga offRip ∧
      addr ga (offReg r) ≠ addr ga offRflags := by
    intro r
    cases r <;> exact ⟨hne (by decide) (by decide) (by decide),
      hne (by decide) (by decide) (by decide)⟩
  have hrip : addr ga offRip ≠ addr ga offRflags :=
    hne (by decide) (by decide) (by decide)
  have hti : addr ga offTiRflags ≠ addr ga offRip :=
    hne (by decide) (by decide) (by decide)
  rw [gaRegs, KkmRegs.ofFile_inj]
  refine ⟨?_, ?_, ?_⟩
  · funext r
    simp [adjustRegs, h, (hreg r).1, (hreg r).2]
  · simp [adjustRegs, h, hrip]
  · simp [adjustRegs, h, hti]

theorem adjustRegs_sys (s : State) : (adjustRegs s).sys = s.sys := rfl

/-- Words of the trap stack above the two saved registers are the ones the
common part is entered with. -/
theorem AtSave.trapWord
    {ga : GuestAreaAddr} {t : Nat} {s s' : State} (hat : AtSave ga t s s')
    (ht : 1136 ≤ t) (ht' : t + 72 ≤ 8192) {off : Nat} (hoff : 8 < off)
    (hoff' : off < 72) :
    s'.mem (addr (addr ga.va t) off) = s.mem (addr ga.va (t + off)) := by
  have hne : ∀ j, j ≤ t + 8 → addr ga.va (t + off) ≠ addr ga.va j := by
    intro j hj heq
    have := (addr_inj (by omega) (by omega)).mp heq
    omega
  rw [addr_addr]
  exact hat.mem _ (hne t (by omega)) (hne (t + 8) (by omega))
    (hne (t - 8) (by omega))

theorem AtSave.trapRegs
    {ga : GuestAreaAddr} {t : Nat} {s s' : State} (hat : AtSave ga t s s')
    (ht : 1136 ≤ t) (ht' : t + 72 ≤ 8192) (r : Reg) :
    trapRegs s'.reg (fun off => s'.mem (addr (addr ga.va t) off)) r =
      Function.update s.reg .rsp (s.mem (addr ga.va (t + offTsRsp))) r := by
  cases r with
  | rsp => exact hat.trapWord ht ht' (by decide) (by decide)
  | rdi =>
      show s'.mem (addr (addr ga.va t) 8) = s.reg .rdi
      rw [addr_addr]
      exact hat.saved_rdi
  | rsi =>
      show s'.mem (addr (addr ga.va t) 0) = s.reg .rsi
      rw [addr_zero]
      exact hat.saved_rsi
  | _ => exact hat.reg _ (by decide)

/-- What the saving does not write. -/
theorem saveContext_below (src : Sources) (v : View) {off : Nat}
    (hoff : off < regBaseOff) :
    (saveContext.foldl (View.exec saveScope src) v).low off = v.low off := by
  have habove : ∀ i ∈ saveContext, i.storesAt.all (regBaseOff ≤ ·) = true := by
    decide +kernel
  refine View.low_of_not_stored ?_ v
  intro i hi hstores
  have hle := habove i hi
  rw [hstores] at hle
  have hle' : regBaseOff ≤ off := of_decide_eq_true hle
  omega

/-- At the jump to `kkm_switch_to_host_kernel`: in `ga->regs` are the registers
the common part is entered with, with the stack pointer, `rip` and `rflags` of
the frame once those are adjusted. -/
structure AtHostKernel (ga : GuestAreaAddr) (regs : KkmRegs) (s s' : State) :
    Prop where
  rdi : s'.reg .rdi = ga.va
  regs : gaRegs (adjustRegs s').mem ga.va = regs
  leaves : LeavesHost ga s s'

/-- The common part has saved the registers and the trap stack it is entered
with, the trap stack being `t` bytes above the address of the guest area. -/
structure ContextSaved (ga : GuestAreaAddr) (t : Nat) (s s' : State) : Prop where
  rdi : s'.reg .rdi = ga.va
  reg : ∀ r, s'.mem (addr ga.va (offReg r)) =
    Function.update s.reg .rsp (s.mem (addr ga.va (t + offTsRsp))) r
  trap : ∀ c ∈ trapCopies,
    s'.mem (addr ga.va c.2) = s.mem (addr ga.va (t + c.1))
  creg : ∀ cr, cr ≠ .cr3 → s'.mem (addr ga.va (offCr cr)) = s.creg cr
  cr3 : s'.mem (addr ga.va (offCr .cr3)) = s.creg .cr3 &&& 0xFFFFFFFFFFFFEFFF#64
  leaves : LeavesHost ga s s'

/-- The control registers when the saving starts. -/
theorem exit_header_creg {s s' : State}
    (hrun : (toGuestKernelCr3 ++ findGuestArea).foldl step (0, s) = (0, s')) :
    (∀ cr, cr ≠ .cr3 → cr ≠ .cr4 → s'.creg cr = s.creg cr) ∧
      s'.creg .cr3 = s.creg .cr3 &&& 0xFFFFFFFFFFFFEFFF#64 := by
  constructor
  · intro cr h3 h4
    have hkeep := creg_of_run (c := cr) (toGuestKernelCr3 ++ findGuestArea)
      (by cases cr <;> simp_all [toGuestKernelCr3, findGuestArea, Instr.writesCr]) 0 s
    rwa [hrun] at hkeep
  · let s₁ := execs (toGuestKernelCr3.take 6) s
    have hsplit : toGuestKernelCr3 ++ findGuestArea =
        toGuestKernelCr3.take 6 ++ (toGuestKernelCr3.drop 6 ++ findGuestArea) := rfl
    have hkeep := creg_of_run (c := .cr3) (toGuestKernelCr3.drop 6 ++ findGuestArea)
      (by decide) 0 s₁
    rw [hsplit, List.foldl_append, foldl_step_plain (by decide) s] at hrun
    rw [hrun] at hkeep
    rw [hkeep]
    simp [s₁, toGuestKernelCr3, execs, exec]

theorem intrEntryCommon_saved
    (ga : GuestAreaAddr) {t : Nat} (ht : TrapStackAt t) {s : State}
    (hsp : s.reg .rsp = addr ga.va (t + 16)) :
    ∃ s', kkmIntrEntryAsmCommon.foldl step (0, s) = (0, s') ∧
      ContextSaved ga t s s' := by
  have habove := ht.above
  have hinside := ht.inside
  obtain ⟨s₂, hrun₂, hat⟩ := exit_header ga (by omega) (by omega) hsp
  let v : View := ⟨s₂.reg, fun off => s₂.mem (addr ga.va off)⟩
  let src : Sources := ⟨fun off => s₂.mem (addr (addr ga.va t) off), s₂.creg⟩
  have hshows : Shows saveScope ga.va (addr ga.va t) src t s₂ v :=
    ⟨fun _ _ => rfl, hat.rdi, fun _ => hat.rsi, fun _ _ => rfl, fun _ _ => rfl,
      hat.rsp, rfl⟩
  obtain ⟨s₃, hrun₃, hshows₃, hout₃⟩ :=
    Shows.run (saveScope_apart ga ht) saveContext_allowed hshows
      (show 1128 + 0 ≤ t by omega) (by omega)
  obtain ⟨hregs, -, -⟩ := saveContext_low src v
  obtain ⟨htrap, hcregs⟩ := saveContext_rest src v
  obtain ⟨hcr, hcr3⟩ := exit_header_creg hrun₂
  have hsum : (saveContext.map pushBytes).sum = 0 := rfl
  rw [hsum, Nat.sub_zero] at hshows₃
  have hpush : s₃.reg .rsp - 8#64 = addr ga.va (t - 8) := by
    rw [hshows₃.sp]
    exact addr_sub ga.va (by omega)
  have hmem : ∀ b, b ≠ addr ga.va (t - 8) →
      (execs toHostKernel s₃).mem b = s₃.mem b := by
    intro b hb
    simp [toHostKernel, execs, exec, hpush, hb]
  -- the words below `savedBytes` at the end of the code
  have hlow : ∀ off, off < savedBytes →
      (execs toHostKernel s₃).mem (addr ga.va off) =
        (saveContext.foldl (View.exec saveScope src) v).low off := by
    intro off hoff
    rw [savedBytes_eq] at hoff
    rw [← hshows₃.low off hoff]
    refine hmem _ ?_
    intro heq
    have := (addr_inj (by omega) (by omega)).mp heq
    omega
  have hoffCr : ∀ cr, offCr cr < savedBytes := by
    intro cr
    cases cr <;> decide
  have hrdi₃ : s₃.reg .rdi = ga.va := hshows₃.base
  refine ⟨execs toHostKernel s₃, ?_, ?_, ?_, ?_, ?_, ?_, ?_, ?_, ?_⟩
  · have hsplit : kkmIntrEntryAsmCommon =
        (toGuestKernelCr3 ++ findGuestArea) ++ (saveContext ++ toHostKernel) := rfl
    rw [hsplit, List.foldl_append, hrun₂, List.foldl_append, hrun₃]
    exact foldl_step_plain (by decide) s₃
  · simpa [toHostKernel, execs, exec] using hrdi₃
  · intro r
    rw [hlow _ (offReg_lt r), hregs r]
    exact hat.trapRegs habove hinside r
  · intro c hc
    obtain ⟨hpos, hlt, hoff⟩ := trapCopies_bounds c hc
    rw [hlow _ hoff, htrap c hc]
    exact hat.trapWord habove hinside hpos hlt
  · intro cr h3
    rw [hlow _ (hoffCr cr), hcregs cr]
    by_cases h4 : cr = .cr4
    · rw [h4]
      exact hat.cr4
    · exact hcr cr h3 h4
  · rw [hlow _ (hoffCr .cr3), hcregs .cr3]
    exact hcr3
  · intro off hoff
    have hoff' : off < 128 := hoff
    have hne : ∀ j, 128 ≤ j → j < 8192 → addr ga.va off ≠ addr ga.va j := by
      intro j hj hj' heq
      have := (addr_inj (by omega) (by omega)).mp heq
      omega
    rw [hlow off (by rw [savedBytes_eq]; omega), saveContext_below src v hoff]
    exact hat.mem _ (hne t (by omega) (by omega)) (hne (t + 8) (by omega) (by omega))
      (hne (t - 8) (by omega) (by omega))
  · intro b hb
    rw [hmem b (hb (t - 8) (by omega)), hout₃ b fun off hoff => hb off (by omega)]
    exact hat.mem b (hb t (by omega)) (hb (t + 8) (by omega)) (hb (t - 8) (by omega))
  · have hcr : (execs toHostKernel s₃).creg = s₃.creg := rfl
    rw [hcr, hshows₃.creg]
    exact hat.cr4

theorem intrEntryCommon_regs
    (ga : GuestAreaAddr) {t : Nat} (ht : TrapStackAt t) {s : State}
    (hsp : s.reg .rsp = addr ga.va (t + 16)) :
    ∃ s', kkmIntrEntryAsmCommon.foldl step (0, s) = (0, s') ∧
      AtHostKernel ga
        (trapFile s.reg (fun off => s.mem (addr ga.va (t + off)))) s s' := by
  obtain ⟨s', hrun, hsaved⟩ := intrEntryCommon_saved ga ht hsp
  refine ⟨s', hrun, hsaved.rdi, ?_, hsaved.leaves⟩
  rw [gaRegs_adjustRegs hsaved.rdi, trapFile, KkmRegs.ofFile_inj]
  exact ⟨funext hsaved.reg, hsaved.trap (offTsRip, offTiRip) (by decide),
    hsaved.trap (offTsRflags, offTiRflags) (by decide)⟩

/-! ## From the delivery on -/

/-- The words a stub adds to the frame. -/
def stubWords (vector : Nat) : List (BitVec 64) :=
  if faultWithErrorCode vector then [BitVec.ofNat 64 vector]
  else [BitVec.ofInt 64 (-1), BitVec.ofNat 64 vector]

/-- A saved code segment with a privilege level above 0. -/
def userFrame (cs : BitVec 64) : Bool :=
  !decide ((cs.setWidth 8 &&& 0x3#8).signExtend 64 = 0#64)

/-- The test of the saved code segment: nothing changes but GS and the flags. -/
theorem entryTest (s : State) :
    ∃ s', [Instr.testByte .rsp 0x18 0x3#8, .je 1, .swapgs].foldl step (0, s) =
        (0, s') ∧
      s'.reg = s.reg ∧ s'.mem = s.mem ∧ s'.creg = s.creg ∧
      s'.sys = (if userFrame (s.mem (addr (s.reg .rsp) 0x18)) then s.sys.swapGs
        else s.sys) := by
  let s₁ := exec (.testByte .rsp 0x18 0x3#8) s
  have hrun := foldl_step_je [.swapgs] (by decide) s₁
  have hzf : s₁.zf = !userFrame (s.mem (addr (s.reg .rsp) 0x18)) := by
    rw [userFrame, Bool.not_not]
    exact zf_resultFlags s _
  refine ⟨_, hrun, ?_⟩
  rw [hzf]
  cases userFrame (s.mem (addr (s.reg .rsp) 0x18)) with
  | false => exact ⟨rfl, rfl, rfl, rfl⟩
  | true => exact ⟨rfl, rfl, rfl, rfl⟩

/-- Everything on the trap stack at `kkm_intr_entry_asm`, the first word pushed
first. -/
def trapWords
    (vector : Nat) (u : State) (rip cs ss : BitVec 64)
    (error : Option (BitVec 64)) : List (BitVec 64) :=
  [ss, u.reg .rsp, u.rflags, cs, rip] ++ error.toList ++ stubWords vector

theorem intrStub_plain (vector : Nat) :
    ∀ i ∈ intrStub vector, i.isPlain = true := by
  unfold intrStub
  split <;> simp [Instr.isPlain]

/-- A stub pushes its words. -/
theorem execs_intrStub (vector : Nat) (s : State) :
    execs (intrStub vector) s =
      { s.pushWords (stubWords vector) with rflags := s.rflags &&& ~~~0x1#64 } := by
  unfold intrStub stubWords
  split <;> rfl

/-- The state at `kkm_intr_entry_asm`: the words are on the aligned stack. -/
theorem stub_state
    (vector : Nat) (u : State) (fromUser : Bool) (rip cs ss : BitVec 64)
    (error : Option (BitVec 64)) {top : BitVec 64}
    (htop : (if fromUser then u.sys.sp0 else u.reg .rsp) &&& ~~~0xF#64 = top) :
    ∃ rflags,
      (intrStub vector).foldl step (0, u.deliver fromUser rip cs ss error) =
        (0, { (u.set .rsp top).pushWords (trapWords vector u rip cs ss error) with
          rflags := rflags }) := by
  refine ⟨(u.rflags &&& ~~~gateMask) &&& ~~~0x1#64, ?_⟩
  rw [foldl_step_plain (intrStub_plain vector), execs_intrStub vector,
    deliver_eq u fromUser rip cs ss error htop, pushWords_withRflags,
    ← pushWords_append, ← trapWords]

/-- What an exit from the state `u` has saved, the words on the trap stack
being `ws`. -/
structure ExitSaved
    (ga : GuestAreaAddr) (ws : List (BitVec 64)) (u s' : State) : Prop where
  rdi : s'.reg .rdi = ga.va
  reg : ∀ r, r ≠ .rsp → s'.mem (addr ga.va (offReg r)) = u.reg r
  rsp : ∀ w, ws.reverse[5]? = some w → s'.mem (addr ga.va (offReg .rsp)) = w
  trap : ∀ (j : Nat) (c : Nat × Nat) (w : BitVec 64), trapCopies[j]? = some c →
    ws.reverse[j]? = some w → s'.mem (addr ga.va c.2) = w
  creg : ∀ cr, cr ≠ .cr3 → s'.mem (addr ga.va (offCr cr)) = u.creg cr
  cr3 : s'.mem (addr ga.va (offCr .cr3)) = u.creg .cr3 &&& 0xFFFFFFFFFFFFEFFF#64
  leaves : LeavesHost ga u s'

theorem trapCopies_at {j : Nat} {c : Nat × Nat} (hj : trapCopies[j]? = some c) :
    c ∈ trapCopies ∧ c.1 = 16 + 8 * j := by
  have hall : ∀ i, i < 7 → (trapCopies.getD i (0, 0)).1 = 16 + 8 * i := by decide
  have hlt : j < 7 := (List.getElem?_eq_some_iff.mp hj).1
  have hget : trapCopies.getD j (0, 0) = c := by
    rw [List.getD_eq_getElem?_getD, hj, Option.getD_some]
  exact ⟨List.mem_of_getElem? hj, hget ▸ hall j hlt⟩

/-- What an exit leaves in the guest area, read off the words on the trap
stack. -/
theorem intrExit_saved
    (ga : GuestAreaAddr) (vector : Nat) (u : State) (fromUser : Bool)
    (rip cs ss : BitVec 64) (error : Option (BitVec 64)) {q n : Nat}
    (hsp : (if fromUser then u.sys.sp0 else u.reg .rsp) = addr ga.va q)
    (hq : q < 8192)
    (hlen : (trapWords vector u rip cs ss error).length = n)
    (hn : 7 ≤ n) (hroom : 1152 + 8 * n ≤ q / 16 * 16) :
    let s' := run (intrStub vector ++ kkmIntrEntryAsm)
      (u.deliver fromUser rip cs ss error)
    ExitSaved ga (trapWords vector u rip cs ss error) u s' ∧
      ∀ w, (trapWords vector u rip cs ss error).reverse[3]? = some w →
        s'.sys = if userFrame w then u.sys.swapGs else u.sys := by
  have htop : (if fromUser then u.sys.sp0 else u.reg .rsp) &&& ~~~0xF#64 =
      addr ga.va (q / 16 * 16) := by
    rw [hsp]
    exact addr_align16 (by decide) (by decide) ga.aligned hq
  obtain ⟨rflags, hstub⟩ :=
    stub_state vector u fromUser rip cs ss error htop
  let s₀ := u.set .rsp (addr ga.va (q / 16 * 16))
  let s₁ : State := { s₀.pushWords (trapWords vector u rip cs ss error) with
    rflags := rflags }
  have hpushed := pushed_pushWords (trapWords vector u rip cs ss error)
    (s := s₀) (a := ga.va) (k := q / 16 * 16) (by simp [s₀]) (by omega) (by omega)
  have hword : ∀ j w, (trapWords vector u rip cs ss error).reverse[j]? = some w →
      s₁.mem (addr ga.va (q / 16 * 16 - 8 * n + 8 * j)) = w := by
    rw [← hlen]
    exact hpushed.word
  have hrsp₁ : s₁.reg .rsp = addr ga.va (q / 16 * 16 - 8 * n) := by
    rw [← hlen]
    exact hpushed.rsp
  obtain ⟨s₂, htest, hreg₂, hmem₂, hcreg₂, hsys₂⟩ := entryTest s₁
  obtain ⟨t, ht⟩ : ∃ t, q / 16 * 16 - 8 * n = t + 16 :=
    ⟨q / 16 * 16 - 8 * n - 16, by omega⟩
  obtain ⟨s₃, hcommon, hsaved⟩ :=
    intrEntryCommon_saved ga (t := t) ⟨by omega, by omega⟩ (s := s₂)
      (by rw [hreg₂, hrsp₁, ht])
  have hsys₃ : s₃.sys = s₂.sys := by
    have hsys := sys_of_run kkmIntrEntryAsmCommon (by decide) 0 s₂
    rwa [hcommon] at hsys
  have hrun : run (intrStub vector ++ kkmIntrEntryAsm)
      (u.deliver fromUser rip cs ss error) = s₃ := by
    rw [run, List.foldl_append, hstub, kkmIntrEntryAsm, List.foldl_append]
    rw [show List.foldl step (0, s₁) _ = (0, s₂) from htest, hcommon]
  have hframe : ∀ j w, (trapWords vector u rip cs ss error).reverse[j]? = some w →
      s₂.mem (addr ga.va (t + (16 + 8 * j))) = w := by
    intro j w hj
    rw [hmem₂, ← Nat.add_assoc, ← ht]
    exact hword j w hj
  have hpushes : LeavesHost ga u s₂ := by
    refine ⟨?_, ?_, ?_⟩
    · intro off hoff
      have hoff' : off < 128 := hoff
      rw [hmem₂]
      exact hpushed.mem off (by omega) (.inl (by omega))
    · intro b hb
      rw [hmem₂]
      exact hpushed.outside b fun off hoff => hb off (by omega)
    · rw [hcreg₂]
      exact congrFun hpushed.creg .cr4
  have hcregs : s₂.creg = u.creg := hcreg₂.trans hpushed.creg
  simp only [hrun]
  refine ⟨⟨hsaved.rdi, ?_, ?_, ?_, ?_, ?_, hpushes.trans hsaved.leaves⟩, ?_⟩
  · intro r hr
    rw [hsaved.reg r, Function.update_of_ne hr, hreg₂]
    show (s₀.pushWords _).reg r = u.reg r
    rw [hpushed.reg r hr]
    simp [s₀, hr]
  · intro w hw
    rw [hsaved.reg .rsp, Function.update_self]
    exact hframe 5 w hw
  · intro j c w hj hw
    obtain ⟨hc, hoff⟩ := trapCopies_at hj
    rw [hsaved.trap c hc, hoff]
    exact hframe j w hw
  · intro cr hcr
    rw [hsaved.creg cr hcr, hcregs]
  · rw [hsaved.cr3, hcregs]
  · intro w hw
    have hcs₁ : s₁.mem (addr (s₁.reg .rsp) 0x18) = w := by
      rw [hrsp₁, addr_addr]
      exact hword 3 _ hw
    have hsys₁ : s₁.sys = u.sys := hpushed.sys
    rw [hsys₃, hsys₂, hcs₁, hsys₁]

/-- What an exit leaves in `ga->regs`, read off the words on the trap stack. -/
theorem intrExit_regs
    (ga : GuestAreaAddr) (vector : Nat) (u : State) (fromUser : Bool)
    (rip cs ss : BitVec 64) (error : Option (BitVec 64)) {q n : Nat}
    (hsp : (if fromUser then u.sys.sp0 else u.reg .rsp) = addr ga.va q)
    (hq : q < 8192)
    (hlen : (trapWords vector u rip cs ss error).length = n)
    (hn : 7 ≤ n) (hroom : 1152 + 8 * n ≤ q / 16 * 16)
    {rip' rflags' rsp' cs' : BitVec 64}
    (hrip : (trapWords vector u rip cs ss error).reverse[2]? = some rip')
    (hcs : (trapWords vector u rip cs ss error).reverse[3]? = some cs')
    (hrflags : (trapWords vector u rip cs ss error).reverse[4]? = some rflags')
    (hrsp : (trapWords vector u rip cs ss error).reverse[5]? = some rsp') :
    let s' := run (intrStub vector ++ kkmIntrEntryAsm)
      (u.deliver fromUser rip cs ss error)
    AtHostKernel ga (.ofFile (Function.update u.reg .rsp rsp') rip' rflags') u s' ∧
      s'.sys = (if userFrame cs' then u.sys.swapGs else u.sys) := by
  obtain ⟨hsaved, hsys⟩ :=
    intrExit_saved ga vector u fromUser rip cs ss error hsp hq hlen hn hroom
  refine ⟨⟨hsaved.rdi, ?_, hsaved.leaves⟩, hsys cs' hcs⟩
  rw [gaRegs_adjustRegs hsaved.rdi, KkmRegs.ofFile_inj]
  refine ⟨?_, hsaved.trap 2 (offTsRip, offTiRip) _ rfl hrip,
    hsaved.trap 4 (offTsRflags, offTiRflags) _ rfl hrflags⟩
  funext r
  by_cases hr : r = .rsp
  · subst hr
    rw [Function.update_self]
    exact hsaved.rsp rsp' hrsp
  · rw [Function.update_of_ne hr]
    exact hsaved.reg r hr

/-! ## The entry -/

/-- `kkm_switch_to_gp_asm` is called: the guest area in `%rdi`, on the guest
kernel stack, with room for eight words above the saved registers. -/
structure AtEntry (ga : GuestAreaAddr) (k : Nat) (s : State) : Prop where
  rdi : s.reg .rdi = ga.va
  rsp : s.reg .rsp = addr ga.va k
  above : offPayEntStk + 64 ≤ k
  inside : k ≤ offGuestStk

/-- The part of the area the entry reads. -/
def entryScope : Scope := ⟨.rdi, offRflags + 8, .rdi, 0⟩

theorem entryScope_apart (a : BitVec 64) : entryScope.Apart a a where
  words _ _ _ hj := absurd hj (Nat.not_lt_zero _)
  base_ne := by decide
  top_ne := by decide
  low_le := by
    show 272 ≤ 2 ^ 63
    omega

theorem loadContext_allowed :
    ∀ i ∈ loadContext, entryScope.allows i = true := by
  decide +kernel

/-- Every register but two is loaded from its own word. -/
theorem loadContext_reg (src : Sources) (v : View) :
    let v' := loadContext.foldl (View.exec entryScope src) v
    (∀ r, r ≠ .rdi → r ≠ .rsp → v'.reg r = v.low (offReg r)) ∧
      v'.reg .rdi = v.reg .rdi ∧ v'.low = v.low := by
  refine ⟨?_, rfl, rfl⟩
  intro r hrdi hrsp
  cases r with
  | rdi => exact absurd rfl hrdi
  | rsp => exact absurd rfl hrsp
  | _ => rfl

/-- The entry's full flush, made or skipped. -/
theorem entry_fullFlush (s : State) :
    ∃ s', (toPayloadCr3.drop 4).foldl step (0, s) = (0, s') ∧
      (∀ r, r ∉ [.rax, .rbx] → s'.reg r = s.reg r) ∧ s'.mem = s.mem ∧
      s'.creg .cr4 = s.creg .cr4 := by
  refine ⟨_, foldl_step_jne (toPayloadCr3.drop 5) (by decide) s, ?_⟩
  split
  · refine ⟨?_, rfl, ?_⟩
    · intro r hr
      simp only [List.mem_cons, List.not_mem_nil, or_false, not_or] at hr
      simp [toPayloadCr3, execs, exec, hr.1, hr.2]
    · simp [toPayloadCr3, execs, exec]
  · exact ⟨fun _ _ => rfl, rfl, rfl⟩

/-- On the stack for `IRETQ`, with the context loaded but for the registers still
in use. -/
structure OnIretStack (ga : GuestAreaAddr) (s s' : State) : Prop where
  reg : ∀ r, r ∉ [.rdi, .rsp, .rax, .rbx] → s'.reg r = s.mem (addr ga.va (offReg r))
  rdi : s'.reg .rdi = ga.va
  rsp : s'.reg .rsp = addr ga.va offPayEntStk
  low : ∀ off, off < offRflags + 8 → s'.mem (addr ga.va off) = s.mem (addr ga.va off)
  leaves : LeavesHost ga s s'

theorem entry_onIretStack
    (ga : GuestAreaAddr) {k : Nat} {s : State} (hs : AtEntry ga k s) :
    ∃ s', (loadContext ++ toIretStack).foldl step (0, s) = (0, s') ∧
      OnIretStack ga s s' := by
  have habove : 4160 ≤ k := hs.above
  have hinside : k ≤ 7936 := hs.inside
  let v : View := ⟨s.reg, fun off => s.mem (addr ga.va off)⟩
  let src : Sources := ⟨fun _ => 0, s.creg⟩
  have hshows : Shows entryScope ga.va ga.va src k s v :=
    ⟨fun _ _ => rfl, hs.rdi, fun h => absurd h (Nat.not_lt_zero _),
      fun _ _ => rfl, fun _ h => absurd h (Nat.not_lt_zero _), hs.rsp, rfl⟩
  obtain ⟨s₁, hrun₁, hshows₁, hout₁⟩ :=
    Shows.run (entryScope_apart ga.va) loadContext_allowed hshows
      (show 272 + 64 ≤ k by omega) (by omega)
  obtain ⟨hreg, -, hlow⟩ := loadContext_reg src v
  have hrdi₁ : s₁.reg .rdi = ga.va := hshows₁.base
  have hlow₁ : ∀ off, off < offRflags + 8 →
      s₁.mem (addr ga.va off) = s.mem (addr ga.va off) := by
    intro off hoff
    rw [hshows₁.low off hoff, hlow]
  refine ⟨execs toIretStack s₁, ?_, ?_, ?_, ?_, hlow₁, ?_, ?_, ?_⟩
  · rw [List.foldl_append, hrun₁]
    exact foldl_step_plain (by decide) s₁
  · intro r hr
    simp only [List.mem_cons, List.not_mem_nil, or_false, not_or] at hr
    obtain ⟨hrdi, hrsp, hrax, hrbx⟩ := hr
    have hr₁ : s₁.reg r = s.mem (addr ga.va (offReg r)) := by
      rw [hshows₁.reg r hrsp, hreg r hrdi hrsp]
    simp [toIretStack, execs, exec, hrax, hrbx, hrsp, hr₁]
  · simp [toIretStack, execs, exec, hrdi₁]
  · simp [toIretStack, execs, exec, hrdi₁, addr]
  · exact fun off hoff => hlow₁ off (Nat.lt_trans hoff (by decide))
  · exact fun b hb => hout₁ b fun off hoff => hb off (by omega)
  · exact congrFun hshows₁.creg .cr4

/-- The words of the frame and of the scratch registers, in the order in which
they are pushed. -/
def frameOffs : List Nat :=
  [offGpSs, offReg .rsp, offRflags, offGpCs, offRip, offReg .rdi, offReg .rax,
    offReg .rbx]

theorem frameOffs_lt : ∀ off ∈ frameOffs, off < offRflags + 8 := by
  decide

/-- The state before the last pops. -/
structure BeforePops (ga : GuestAreaAddr) (s s' : State) : Prop where
  reg : ∀ r, r ∉ [.rsp, .rax, .rbx] → s'.reg r = s.reg r
  rsp : s'.reg .rsp = addr ga.va (offPayEntStk - 64)
  word : ∀ j off, frameOffs.reverse[j]? = some off →
    s'.mem (addr ga.va (offPayEntStk - 64 + 8 * j)) = s.mem (addr ga.va off)
  low : ∀ off, off < offRflags + 8 → s'.mem (addr ga.va off) = s.mem (addr ga.va off)
  leaves : LeavesHost ga s s'

theorem entry_beforePops
    (ga : GuestAreaAddr) {s : State} (hrdi : s.reg .rdi = ga.va)
    (hrsp : s.reg .rsp = addr ga.va offPayEntStk) :
    ∃ s', (pushFrame ++ toPayloadCr3).foldl step (0, s) = (0, s') ∧
      BeforePops ga s s' := by
  let ws := frameOffs.map fun off => s.mem (addr ga.va off)
  have hpush : execs (pushFrame.take 8) s = s.pushWords ws :=
    execs_pushMem (by decide) frameOffs frameOffs_lt hrdi hrsp
      (by decide) (by decide)
  have hpushed := pushed_pushWords ws hrsp (show 64 ≤ 4096 by omega)
    (show 4096 < 2 ^ 63 by omega)
  have hlen : offPayEntStk - 8 * ws.length = 4032 := rfl
  rw [← hpush] at hpushed
  -- to the payload's address space
  let s₃ := execs (pushFrame.take 8) s
  let s₄ := execs (pushFrame.drop 8 ++ toPayloadCr3.take 4) s₃
  have hreg₄ : ∀ r, r ≠ .rax → s₄.reg r = s₃.reg r := by
    intro r hr
    simp [s₄, pushFrame, toPayloadCr3, execs, exec, hr]
  have hmem₄ : s₄.mem = s₃.mem := by
    simp [s₄, pushFrame, toPayloadCr3, execs, exec]
  have hcr₄ : s₄.creg .cr4 = s₃.creg .cr4 := by
    simp [s₄, pushFrame, toPayloadCr3, execs, exec]
  obtain ⟨s₅, hrun₅, hreg₅, hmem₅, hcr₅⟩ := entry_fullFlush s₄
  have hlow : ∀ off, off < offRflags + 8 →
      s₅.mem (addr ga.va off) = s.mem (addr ga.va off) := by
    intro off hoff
    have hoff' : off < 272 := hoff
    rw [hmem₅, hmem₄]
    exact hpushed.mem off (by omega) (.inl (by rw [hlen]; omega))
  refine ⟨s₅, ?_, ?_, ?_, ?_, hlow, ?_, ?_, ?_⟩
  · have hsplit : pushFrame ++ toPayloadCr3 =
        (pushFrame.take 8 ++ (pushFrame.drop 8 ++ toPayloadCr3.take 4)) ++
          toPayloadCr3.drop 4 := rfl
    have hexecs : execs (pushFrame.take 8 ++ (pushFrame.drop 8 ++
        toPayloadCr3.take 4)) s = s₄ := by
      simp only [execs, List.foldl_append, s₄, s₃]
    rw [hsplit, List.foldl_append, foldl_step_plain (by decide) s, hexecs]
    exact hrun₅
  · intro r hr
    simp only [List.mem_cons, List.not_mem_nil, or_false, not_or] at hr
    obtain ⟨hrsp', hrax, hrbx⟩ := hr
    rw [hreg₅ r (by simp [hrax, hrbx]), hreg₄ r hrax, hpushed.reg r hrsp']
  · rw [hreg₅ .rsp (by decide), hreg₄ .rsp (by decide)]
    exact hpushed.rsp
  · intro j off hj
    rw [hmem₅, hmem₄]
    refine hpushed.word j _ ?_
    rw [← List.map_reverse, List.getElem?_map, hj]
    rfl
  · exact fun off hoff => hlow off (Nat.lt_trans hoff (by decide))
  · intro b hb
    rw [hmem₅, hmem₄]
    have hb' : ∀ off, off < offPayEntStk → b ≠ addr ga.va off :=
      fun off hoff => hb off (Nat.lt_trans hoff (by decide))
    exact hpushed.outside b hb'
  · rw [hcr₅, hcr₄]
    exact congrFun hpushed.creg .cr4

/-- The last pops, after which GS is the payload's. -/
def popScratch : List Instr := [.pop .rbx, .pop .rax, .pop .rdi, .swapgs]

theorem run_switchToGpAsm
    (ga : GuestAreaAddr) {k : Nat} {s : State} (hs : AtEntry ga k s) :
    ∃ s₂ s₅, OnIretStack ga s s₂ ∧ BeforePops ga s₂ s₅ ∧
      s₅.sys = s.sys ∧ run kkmSwitchToGpAsm s = execs popScratch s₅ := by
  obtain ⟨s₂, hrun₂, hload⟩ := entry_onIretStack ga hs
  obtain ⟨s₅, hrun₅, hat⟩ := entry_beforePops ga hload.rdi hload.rsp
  have hrun : ((loadContext ++ toIretStack) ++
      (pushFrame ++ toPayloadCr3)).foldl step (0, s) = (0, s₅) := by
    rw [List.foldl_append, hrun₂, hrun₅]
  refine ⟨s₂, s₅, hload, hat, ?_, ?_⟩
  · have hsys := sys_of_run ((loadContext ++ toIretStack) ++
      (pushFrame ++ toPayloadCr3)) (by decide) 0 s
    rw [hrun] at hsys
    exact hsys
  · have hsplit : kkmSwitchToGpAsm = ((loadContext ++ toIretStack) ++
        (pushFrame ++ toPayloadCr3)) ++ popScratch := rfl
    rw [run, hsplit, List.foldl_append, hrun, foldl_step_plain (by decide) s₅]

theorem switchToGpAsm_leavesHost
    (ga : GuestAreaAddr) {k : Nat} {s : State} (hs : AtEntry ga k s) :
    LeavesHost ga s (run kkmSwitchToGpAsm s) ∧
      (run kkmSwitchToGpAsm s).sys = s.sys.swapGs := by
  obtain ⟨s₂, s₅, hload, hat, hsys, hrun⟩ := run_switchToGpAsm ga hs
  rw [hrun]
  have hpops : LeavesHost ga s₅ (execs popScratch s₅) :=
    ⟨fun _ _ => rfl, fun _ _ => rfl, rfl⟩
  refine ⟨(hload.leaves.trans hat.leaves).trans hpops, ?_⟩
  show s₅.sys.swapGs = s.sys.swapGs
  rw [hsys]

/-- The `IRETQ` starts what is in `ga->regs`, and the way there leaves
`ga->regs` as it is. -/
theorem switchToGpAsm_regs
    (ga : GuestAreaAddr) {k : Nat} {s : State} (hs : AtEntry ga k s) :
    iretRegs (run kkmSwitchToGpAsm s) = gaRegs s.mem ga.va ∧
      gaRegs (run kkmSwitchToGpAsm s).mem ga.va = gaRegs s.mem ga.va := by
  obtain ⟨s₂, s₅, hload, hat, -, hrun⟩ := run_switchToGpAsm ga hs
  let s₆ := execs popScratch s₅
  have hrun₆ : run kkmSwitchToGpAsm s = s₆ := hrun
  have hword : ∀ j off, frameOffs.reverse[j]? = some off →
      s₅.mem (addr ga.va (4032 + 8 * j)) = s.mem (addr ga.va off) := by
    intro j off hj
    have hoff := frameOffs_lt off (List.mem_reverse.mp (List.mem_of_getElem? hj))
    rw [← hload.low off hoff]
    exact hat.word j off hj
  have hrsp₅ : s₅.reg .rsp = addr ga.va 4032 := hat.rsp
  have hpop₁ : addr ga.va 4032 + 8#64 = addr ga.va 4040 := addr_add ga.va 4032 8
  have hpop₂ : addr ga.va 4040 + 8#64 = addr ga.va 4048 := addr_add ga.va 4040 8
  have hpop₃ : addr ga.va 4048 + 8#64 = addr ga.va 4056 := addr_add ga.va 4048 8
  have hrsp₆ : s₆.reg .rsp = addr ga.va 4056 := by
    simp [s₆, popScratch, execs, exec, hrsp₅, hpop₁, hpop₂, hpop₃]
  have hmem₆ : s₆.mem = s₅.mem := rfl
  rw [hrun₆]
  constructor
  · simp only [iretRegs, gaRegs, KkmRegs.ofFile_inj, hrsp₆, hmem₆, addr_addr]
    refine ⟨?_, hword 3 offRip rfl, hword 5 offRflags rfl⟩
    funext r
    by_cases hr : r ∈ [Reg.rdi, .rsp, .rax, .rbx]
    · simp only [List.mem_cons, List.not_mem_nil, or_false] at hr
      rcases hr with rfl | rfl | rfl | rfl
      · simpa [s₆, popScratch, execs, exec, hrsp₅, hpop₁, hpop₂] using hword 2 (offReg .rdi) rfl
      · simpa using hword 6 (offReg .rsp) rfl
      · simpa [s₆, popScratch, execs, exec, hrsp₅, hpop₁] using hword 1 (offReg .rax) rfl
      · simpa [s₆, popScratch, execs, exec, hrsp₅] using hword 0 (offReg .rbx) rfl
    · rw [← hload.reg r hr]
      simp only [List.mem_cons, List.not_mem_nil, or_false, not_or] at hr
      obtain ⟨hrdi, hrsp, hrax, hrbx⟩ := hr
      have hr₅ : s₅.reg r = s₂.reg r := hat.reg r (by simp [hrsp, hrax, hrbx])
      simp [s₆, popScratch, execs, exec, hrdi, hrsp, hrax, hrbx, hr₅]
  · have hreg_lt : ∀ r, offReg r < offRflags + 8 := by
      intro r
      cases r <;> decide
    simp only [gaRegs, KkmRegs.ofFile_inj, hmem₆]
    have hlow : ∀ off, off < offRflags + 8 →
        s₅.mem (addr ga.va off) = s.mem (addr ga.va off) := fun off hoff =>
      (hat.low off hoff).trans (hload.low off hoff)
    refine ⟨?_, hlow _ (by decide), hlow _ (by decide)⟩
    funext r
    exact hlow _ (hreg_lt r)

/-! ## There and back -/

/-- An exception or interrupt of the payload: its registers, the rest of the
frame, and the error code where there is one. -/
structure PayloadTrap where
  vector : Nat
  state : State
  rip : BitVec 64
  cs : BitVec 64
  ss : BitVec 64
  error : BitVec 64

/-- The payload's registers at the exception. -/
def PayloadTrap.file (x : PayloadTrap) : KkmRegs :=
  .ofFile x.state.reg x.rip x.state.rflags

def PayloadTrap.hwError (x : PayloadTrap) : Option (BitVec 64) :=
  if pushesErrorCode x.vector then some x.error else none

/-- `ga->regs` after the exit. -/
def PayloadTrap.exitRegs (x : PayloadTrap) (ga : BitVec 64) : KkmRegs :=
  gaRegs (intrExit x.vector
    (x.state.deliver true x.rip x.cs x.ss x.hwError)).mem ga

/-- The vector's stub expects an error code exactly when there is one. -/
def PayloadTrap.StubFits (x : PayloadTrap) : Prop :=
  pushesErrorCode x.vector = faultWithErrorCode x.vector

/-- The words of the frame next to each other that a stub which does not fit
mistakes for one another are equal. -/
def PayloadTrap.SameWords (x : PayloadTrap) : Prop :=
  x.error = x.rip ∧ x.cs = x.state.rflags ∧ x.state.rflags = x.state.reg .rsp

/-- The words on the trap stack when the entry code starts. -/
def PayloadTrap.words (x : PayloadTrap) : List (BitVec 64) :=
  trapWords x.vector x.state x.rip x.cs x.ss x.hwError

/-- What the entry code takes for the parts of the frame. -/
structure TakenFrame (x : PayloadTrap) (rip cs rflags rsp : BitVec 64) : Prop where
  length : 7 ≤ x.words.length ∧ x.words.length ≤ 8
  rip : x.words.reverse[2]? = some rip
  cs : x.words.reverse[3]? = some cs
  rflags : x.words.reverse[4]? = some rflags
  rsp : x.words.reverse[5]? = some rsp

theorem takenFrame_of_stubFits {x : PayloadTrap} (hfits : x.StubFits) :
    TakenFrame x x.rip x.cs x.state.rflags (x.state.reg .rsp) := by
  have hfits' : pushesErrorCode x.vector = faultWithErrorCode x.vector := hfits
  cases hstub : faultWithErrorCode x.vector with
  | false =>
      have hhw : x.hwError = none := by
        simp [PayloadTrap.hwError, hfits', hstub]
      constructor <;> simp [PayloadTrap.words, trapWords, stubWords, hhw, hstub]
  | true =>
      have hhw : x.hwError = some x.error := by
        simp [PayloadTrap.hwError, hfits', hstub]
      constructor <;> simp [PayloadTrap.words, trapWords, stubWords, hhw, hstub]

/-- Only the processor can push an error code the stub does not expect. -/
theorem hwError_of_not_stubFits
    {x : PayloadTrap} (h : ¬ x.StubFits) :
    x.hwError = some x.error ∧ faultWithErrorCode x.vector = false := by
  have hsub : faultWithErrorCode x.vector = true →
      pushesErrorCode x.vector = true := by
    simp only [faultWithErrorCode, pushesErrorCode, decide_eq_true_eq,
      List.mem_cons, List.not_mem_nil, or_false]
    omega
  unfold PayloadTrap.StubFits at h
  cases hstub : faultWithErrorCode x.vector with
  | true =>
      rw [hsub hstub, hstub] at h
      exact absurd rfl h
  | false =>
      cases hhw : pushesErrorCode x.vector with
      | true => exact ⟨by simp [PayloadTrap.hwError, hhw], rfl⟩
      | false =>
          rw [hhw, hstub] at h
          exact absurd rfl h

/-- A stub that does not fit makes the entry code look one word too high. -/
theorem takenFrame_of_not_stubFits {x : PayloadTrap} (h : ¬ x.StubFits) :
    TakenFrame x x.error x.rip x.cs x.state.rflags := by
  obtain ⟨hhw, hstub⟩ := hwError_of_not_stubFits h
  constructor <;> simp [PayloadTrap.words, trapWords, stubWords, hhw, hstub]

/-- The exit runs on the stack `sp0` names. -/
theorem TakenFrame.exit
    {x : PayloadTrap} {rip cs rflags rsp : BitVec 64}
    (h : TakenFrame x rip cs rflags rsp) (ga : GuestAreaAddr)
    (hsp0 : x.state.sys.sp0 = addr ga.va offGuestStk) :
    let s' := run (intrStub x.vector ++ kkmIntrEntryAsm)
      (x.state.deliver true x.rip x.cs x.ss x.hwError)
    AtHostKernel ga (.ofFile (Function.update x.state.reg .rsp rsp) rip rflags)
        x.state s' ∧
      s'.sys = (if userFrame cs then x.state.sys.swapGs else x.state.sys) := by
  obtain ⟨hn, hn'⟩ := h.length
  have hroom : 1152 + 8 * x.words.length ≤ offGuestStk / 16 * 16 := by
    show 1152 + 8 * x.words.length ≤ 7936
    omega
  exact intrExit_regs ga x.vector x.state true x.rip x.cs x.ss x.hwError hsp0
    (by decide) rfl hn hroom h.rip h.cs h.rflags h.rsp

theorem exitRegs_of_stubFits
    (ga : GuestAreaAddr) (x : PayloadTrap)
    (hsp0 : x.state.sys.sp0 = addr ga.va offGuestStk) (hfits : x.StubFits) :
    x.exitRegs ga.va = x.file := by
  have hfile : x.file = .ofFile
      (Function.update x.state.reg .rsp (x.state.reg .rsp)) x.rip
      x.state.rflags := by
    rw [Function.update_eq_self]
    rfl
  rw [hfile]
  exact ((takenFrame_of_stubFits hfits).exit ga hsp0).1.regs

/-- A stub that does not fit takes the error code for `rip`, the code segment for
`rflags` and `rflags` for the stack pointer. -/
theorem exitRegs_of_not_stubFits
    (ga : GuestAreaAddr) (x : PayloadTrap)
    (hsp0 : x.state.sys.sp0 = addr ga.va offGuestStk) (h : ¬ x.StubFits) :
    x.exitRegs ga.va =
      .ofFile (Function.update x.state.reg .rsp x.state.rflags) x.error x.cs :=
  ((takenFrame_of_not_stubFits h).exit ga hsp0).1.regs

theorem exitRegs_eq_file_iff
    (ga : GuestAreaAddr) (x : PayloadTrap)
    (hsp0 : x.state.sys.sp0 = addr ga.va offGuestStk) :
    x.exitRegs ga.va = x.file ↔ x.StubFits ∨ x.SameWords := by
  by_cases hfits : x.StubFits
  · exact ⟨fun _ => .inl hfits, fun _ => exitRegs_of_stubFits ga x hsp0 hfits⟩
  · rw [exitRegs_of_not_stubFits ga x hsp0 hfits, PayloadTrap.file,
      KkmRegs.ofFile_inj, or_iff_right hfits]
    constructor
    · rintro ⟨hreg, herror, hcs⟩
      refine ⟨herror, hcs, ?_⟩
      have hrsp := congrFun hreg .rsp
      rwa [Function.update_self] at hrsp
    · rintro ⟨herror, hcs, hrsp⟩
      refine ⟨?_, herror, hcs⟩
      rw [hrsp, Function.update_eq_self]

/-- The switch to the payload and back keeps the context: the `IRETQ` starts
`ga->regs`, the pushes before it leave `ga->regs` alone, the exit leaves there
the registers of the payload, and so an exit right after the entry leaves what
the entry has found. -/
structure ContextKept (ga : BitVec 64) (s : State) (x : PayloadTrap) : Prop where
  entry : iretRegs (run kkmSwitchToGpAsm s) = gaRegs s.mem ga
  pushes : gaRegs (run kkmSwitchToGpAsm s).mem ga = gaRegs s.mem ga
  exit : x.exitRegs ga = x.file
  back : x.file = iretRegs (run kkmSwitchToGpAsm s) →
    x.exitRegs ga = gaRegs s.mem ga

theorem contextKept_of_exit
    (ga : GuestAreaAddr) {k : Nat} {s : State} (hs : AtEntry ga k s)
    {x : PayloadTrap} (hexit : x.exitRegs ga.va = x.file) :
    ContextKept ga.va s x := by
  obtain ⟨hentry, hpushes⟩ := switchToGpAsm_regs ga hs
  refine ⟨hentry, hpushes, hexit, ?_⟩
  intro hback
  rw [hexit, hback, hentry]

/-- The context is kept exactly where the vector's stub fits the frame, or where
the words it mistakes happen to be equal. -/
theorem contextKept_iff
    (ga : GuestAreaAddr) {k : Nat} {s : State} (hs : AtEntry ga k s)
    (x : PayloadTrap) (hsp0 : x.state.sys.sp0 = addr ga.va offGuestStk) :
    ContextKept ga.va s x ↔ x.StubFits ∨ x.SameWords := by
  rw [← exitRegs_eq_file_iff ga x hsp0]
  exact ⟨fun h => h.exit, contextKept_of_exit ga hs⟩

/-- A guest area of the kx area. -/
def someGuestArea : GuestAreaAddr := ⟨0xFFFFFE8000004000#64, by decide⟩

/-- The call of `kkm_switch_to_gp_asm`, 64 bytes into the guest stack. -/
def someEntry : State where
  reg := fun r =>
    match r with
    | .rdi => someGuestArea.va
    | .rsp => addr someGuestArea.va 7872
    | _ => 0
  creg := fun _ => 0
  rflags := 0x46#64
  sys := ⟨0, 0, 0, 0, 0, 0, 0, 0, 0, 0, 0, 0, 0⟩
  mem := fun _ => 0

/-- The payload executes `CPUID` in a virtual machine with encrypted state, or
touches a page: the vector is 29 or 14. -/
def someTrap (vector : Nat) : PayloadTrap where
  vector := vector
  state := { someEntry with
    reg := fun r => if r = .rsp then 0x7FFFFFFFE000#64 else 0
    rflags := 0x246#64
    sys := { someEntry.sys with sp0 := addr someGuestArea.va offGuestStk } }
  rip := 0x400000#64
  cs := 0x33#64
  ss := 0x2B#64
  error := 0x72#64

theorem contextKept_page_fault :
    ContextKept someGuestArea.va someEntry (someTrap 14) :=
  (contextKept_iff someGuestArea (k := 7872) ⟨rfl, rfl, by decide, by decide⟩
    (someTrap 14) rfl).mpr (.inl rfl)

theorem context_lost_vmm_communication :
    ¬ ContextKept someGuestArea.va someEntry (someTrap 29) := by
  intro h
  rcases (exitRegs_eq_file_iff someGuestArea (someTrap 29) rfl).mp h.exit with
    hfits | ⟨herror, -⟩
  · exact absurd hfits (by unfold PayloadTrap.StubFits; decide)
  · exact absurd herror (by decide)

end Driver
end KkmModule
