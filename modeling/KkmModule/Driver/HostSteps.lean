import KkmModule.Driver.HostSwitch

/-!
# The parts of the way through the payload

The words the host needs for its return are the ones saved on the native stack
and below `ga->regs`.  Every part of the way leaves them alone, and says what it
does to the system state and the flags.
-/

namespace KkmModule
namespace Driver

open Foundation X86

/-! ## What the return needs -/

/-- The words on the native stack, from the address in `native_kernel_stack`
on. -/
def nativeWords (back : BitVec 64) (h : State) : List (BitVec 64) :=
  [h.reg .r15, h.reg .r14, h.reg .r13, h.reg .r12, h.reg .rbx, h.reg .rbp, back]

/-- The native stack, `nk` being its top while the payload runs, and the guest
area are apart, and neither is user memory. -/
structure StacksApart (ga : GuestAreaAddr) (nk : BitVec 64) : Prop where
  apart : ∀ j, j < 7 → ∀ off, off < 2 ^ 13 → addr nk (8 * j) ≠ addr ga.va off
  kernelStack : ∀ j, j < 7 → isUser (addr nk (8 * j)) = false
  guestArea : ∀ off, off < 2 ^ 13 → isUser (addr ga.va off) = false

/-- What is saved of the host's state `h` is in place. -/
structure HostSaved
    (ga : GuestAreaAddr) (nk back : BitVec 64) (h s : State) : Prop where
  words : ∀ j w, (nativeWords back h)[j]? = some w → s.mem (addr nk (8 * j)) = w
  nkStack : s.mem (addr ga.va offNkStack) = nk
  tss : ∀ f, s.mem (addr ga.va (offNativeSaveTss f)) = tssField h.sys f
  cr4 : s.creg .cr4 = h.creg .cr4

theorem offNativeSaveTss_lt (f : TssField) : offNativeSaveTss f < regBaseOff := by
  cases f <;> decide

theorem lt_of_nativeWords
    {back : BitVec 64} {h : State} {j : Nat} {w : BitVec 64}
    (hj : (nativeWords back h)[j]? = some w) : j < 7 :=
  (List.getElem?_eq_some_iff.mp hj).1

theorem HostSaved.of_leavesHost
    {ga : GuestAreaAddr} {nk back : BitVec 64} {h s s' : State}
    (hsaved : HostSaved ga nk back h s) (hap : StacksApart ga nk)
    (hleaves : LeavesHost ga s s') :
    HostSaved ga nk back h s' := by
  refine ⟨?_, ?_, ?_, ?_⟩
  · intro j w hj
    rw [hleaves.outside _ (hap.apart j (lt_of_nativeWords hj))]
    exact hsaved.words j w hj
  · rw [hleaves.low offNkStack (by decide)]
    exact hsaved.nkStack
  · intro f
    rw [hleaves.low _ (offNativeSaveTss_lt f)]
    exact hsaved.tss f
  · exact hleaves.cr4.trans hsaved.cr4

/-- The payload writes user memory only. -/
theorem HostSaved.of_payload
    {ga : GuestAreaAddr} {nk back : BitVec 64} {h s : State}
    (hsaved : HostSaved ga nk back h s) (hap : StacksApart ga nk) (p : Payload) :
    HostSaved ga nk back h (p.leave s) := by
  have hmem : ∀ a, isUser a = false → (p.leave s).mem a = s.mem a := by
    intro a ha
    simp [Payload.leave, ha]
  refine ⟨?_, ?_, ?_, ?_⟩
  · intro j w hj
    rw [hmem _ (hap.kernelStack j (lt_of_nativeWords hj))]
    exact hsaved.words j w hj
  · rw [hmem _ (hap.guestArea offNkStack (by decide))]
    exact hsaved.nkStack
  · intro f
    rw [hmem _ (hap.guestArea _ (Nat.lt_trans (offNativeSaveTss_lt f) (by decide)))]
    exact hsaved.tss f
  · exact hsaved.cr4

/-- Compiled code writes the guest stack only. -/
theorem Compiled.leavesHost
    (c : Compiled) (ga : GuestAreaAddr) (s : State) :
    LeavesHost ga s (c.leave ga.va s) := by
  have hoff : ∀ off, off < 2 ^ 64 → (addr ga.va off - ga.va).toNat = off := by
    intro off hlt
    rw [addr, BitVec.add_comm, BitVec.add_sub_cancel, BitVec.toNat_ofNat,
      Nat.mod_eq_of_lt hlt]
  refine ⟨?_, ?_, rfl⟩
  · intro off hlt
    have hlt' : off < 128 := hlt
    have hno : ¬ (guestStkTop ≤ off ∧ off < offGuestStk) := by
      rintro ⟨htop, -⟩
      have htop' : 4352 ≤ off := htop
      omega
    simp only [Compiled.leave, hoff off (by omega), if_neg hno]
  · intro b hb
    have hno : ¬ (guestStkTop ≤ (b - ga.va).toNat ∧
        (b - ga.va).toNat < offGuestStk) := by
      rintro ⟨-, hhigh⟩
      have hhigh' : (b - ga.va).toNat < 7936 := hhigh
      refine hb (b - ga.va).toNat (by omega) ?_
      rw [addr, BitVec.ofNat_toNat, BitVec.setWidth_eq, BitVec.add_comm,
        BitVec.sub_add_cancel]
    simp only [Compiled.leave, if_neg hno]

/-! ## To the guest stack -/

/-- `kkm_switch_to_gk_asm` is called in the state `h`: the guest area and the
bottom of the guest stack are its arguments, GS is the native kernel's, and the
stack of the native task state is not the guest's. -/
structure HostReady
    (ga : GuestAreaAddr) (nk : BitVec 64) (cpu : PerCpu) (h : State) : Prop where
  rdi : h.reg .rdi = ga.va
  rsi : h.reg .rsi = addr ga.va offGuestStk
  rsp : h.reg .rsp = addr nk 56
  gsBase : h.sys.gsBase = cpu.gsBase
  sp0 : h.sys.sp0 ≠ addr ga.va offGuestStk

/-- On the guest stack, at the call of `kkm_guest_kernel_start_payload`. -/
structure OnGuestKernel
    (ga : GuestAreaAddr) (nk back : BitVec 64) (h s : State) : Prop where
  rdi : s.reg .rdi = ga.va
  rsp : s.reg .rsp = addr ga.va (offGuestStk - 8)
  words : ∀ j w, (nativeWords back h)[j]? = some w → s.mem (addr nk (8 * j)) = w
  nkStack : s.mem (addr ga.va offNkStack) = nk
  cr4 : s.creg .cr4 = h.creg .cr4
  sys : s.sys = h.sys

theorem onGuestKernel_of_ready
    {ga : GuestAreaAddr} {nk : BitVec 64} {cpu : PerCpu} {h : State}
    (hh : HostReady ga nk cpu h) (hap : StacksApart ga nk) (back restore : BitVec 64) :
    OnGuestKernel ga nk back h (run (kkmSwitchToGkAsm restore) (h.pushWord back)) := by
  let ws := [back, h.reg .rbp, h.reg .rbx, h.reg .r12, h.reg .r13, h.reg .r14,
    h.reg .r15]
  have hpushed : Pushed nk 56 ws h (h.pushWords ws) :=
    pushed_pushWords ws hh.rsp (Nat.le_refl 56) (by decide)
  have hplain : ∀ i ∈ kkmSwitchToGkAsm restore, i.isPlain = true := by
    simp [kkmSwitchToGkAsm, Instr.isPlain]
  have hrun : run (kkmSwitchToGkAsm restore) (h.pushWord back) =
      execs [.store .rdi offNkStack .rsp, .mov .rsp .rsi, .pushImm restore]
        (h.pushWords ws) := by
    rw [run, foldl_step_plain hplain]
    rfl
  have hrdi : (h.pushWords ws).reg .rdi = ga.va :=
    (hpushed.reg .rdi (by decide)).trans hh.rdi
  have hrsi : (h.pushWords ws).reg .rsi = addr ga.va offGuestStk :=
    (hpushed.reg .rsi (by decide)).trans hh.rsi
  have hrsp : (h.pushWords ws).reg .rsp = nk := by
    rw [hpushed.rsp]
    exact addr_zero nk
  have hpush : addr ga.va offGuestStk - 8#64 = addr ga.va (offGuestStk - 8) :=
    addr_sub ga.va (by decide)
  have htail : ∀ s : State,
      (execs [.store .rdi offNkStack .rsp, .mov .rsp .rsi, .pushImm restore] s).creg =
          s.creg ∧
        (execs [.store .rdi offNkStack .rsp, .mov .rsp .rsi, .pushImm restore] s).sys =
          s.sys := fun _ => ⟨rfl, rfl⟩
  rw [hrun]
  refine ⟨?_, ?_, ?_, ?_, ?_, ?_⟩
  · simp [execs, exec, hrdi]
  · simp [execs, exec, hrsi, hpush]
  · intro j w hj
    have hlt := lt_of_nativeWords hj
    have hword : (h.pushWords ws).mem (addr nk (8 * j)) = w := by
      have hw := hpushed.word j w hj
      rwa [show 56 - 8 * ws.length + 8 * j = 8 * j from Nat.zero_add _] at hw
    have hne₁ := hap.apart j hlt offNkStack (by decide)
    have hne₂ := hap.apart j hlt (offGuestStk - 8) (by decide)
    simp [execs, exec, hrdi, hrsi, hpush, hne₁, hne₂, hword]
  · have hne : addr ga.va offNkStack ≠ addr ga.va (offGuestStk - 8) := by
      intro heq
      exact absurd ((addr_inj (by decide) (by decide)).mp heq) (by decide)
    simp [execs, exec, hrdi, hrsi, hpush, hne, hrsp]
  · exact (congrFun (htail (h.pushWords ws)).1 .cr4).trans
      (congrFun hpushed.creg .cr4)
  · exact (htail (h.pushWords ws)).2.trans hpushed.sys

/-! ## Into the payload -/

theorem writeTss_of_gs
    {cpu : PerCpu} {s : State} (hgs : s.sys.gsBase = cpu.gsBase) (f : TssField)
    (v : BitVec 64) :
    writeTss cpu f v s = { s with sys := setTssField s.sys v f } :=
  if_pos hgs

/-- The words `kkm_guest_kernel_start_payload` writes in the guest area. -/
def startWords (g : GuestValues) (sys : SysState) : List (Nat × BitVec 64) :=
  [(offGpCs, userCs), (offGpSs, userDs), (offRflags, g.rflags),
    (offNativeSaveTss .sp0, sys.sp0), (offNativeSaveTss .sp1, sys.sp1),
    (offNativeSaveTss .sp2, sys.sp2)]

theorem startWords_nodup (g : GuestValues) (sys : SysState) :
    ((startWords g sys).map Prod.fst).Nodup := by
  show [offGpCs, offGpSs, offRflags, offNativeSaveTss .sp0, offNativeSaveTss .sp1,
    offNativeSaveTss .sp2].Nodup
  decide

theorem startWords_lt (g : GuestValues) (sys : SysState) :
    ∀ w ∈ startWords g sys, w.1 < 2 ^ 13 ∧ w.1 ≠ offNkStack := by
  intro w hw
  have hoff : w.1 ∈ [offGpCs, offGpSs, offRflags, offNativeSaveTss .sp0,
      offNativeSaveTss .sp1, offNativeSaveTss .sp2] :=
    List.mem_map_of_mem (f := Prod.fst) hw
  revert hoff
  generalize w.1 = off
  intro hoff
  have hall : ∀ off ∈ [offGpCs, offGpSs, offRflags, offNativeSaveTss .sp0,
      offNativeSaveTss .sp1, offNativeSaveTss .sp2],
      off < 2 ^ 13 ∧ off ≠ offNkStack := by
    decide
  exact hall off hoff

/-- The state in which `kkm_switch_to_gp_asm` is called. -/
structure PayloadReady
    (ga : GuestAreaAddr) (nk back : BitVec 64) (cpu : PerCpu) (c : Compiled)
    (h s : State) : Prop where
  entry : AtEntry ga (offGuestStk - 8 - c.depth) s
  saved : HostSaved ga nk back h s
  sp0 : s.sys.sp0 = addr ga.va offGuestStk
  gsBase : s.sys.gsBase = cpu.gsBase

theorem startPayload_eq
    {ga : GuestAreaAddr} {cpu : PerCpu} {s : State} (hrdi : s.reg .rdi = ga.va)
    (hgs : s.sys.gsBase = cpu.gsBase) (g : GuestValues) (c : Compiled) :
    startPayload cpu g c s =
      { ((c.leave ga.va s).writeWords ga.va (startWords g s.sys)).set .rdi ga.va with
        sys := { s.sys with
          ds := 0, es := 0, fs := 0, fsBase := g.fsBase, kernelGsBase := g.gsBase,
          lstar := g.syscallEntryAddr, sp0 := addr ga.va offGuestStk,
          idt := g.guestIdt } } := by
  let s₁ : State :=
    { c.leave ga.va s with
      sys := { s.sys with
        ds := 0, es := 0, fs := 0, fsBase := g.fsBase, kernelGsBase := g.gsBase,
        lstar := g.syscallEntryAddr } }
  let s₂ := s₁.writeWords ga.va (startWords g s.sys)
  have hsys₂ : s₂.sys = s₁.sys := rfl
  have hunfold : startPayload cpu g c s =
      ({ writeTss cpu .sp0 (addr ga.va offGuestStk) s₂ with
        sys := { (writeTss cpu .sp0 (addr ga.va offGuestStk) s₂).sys with
          idt := g.guestIdt } } : State).set .rdi ga.va := by
    rw [startPayload, hrdi]
    rfl
  rw [hunfold, writeTss_of_gs (show s₂.sys.gsBase = cpu.gsBase from hgs)]
  rfl

theorem payloadReady_of_onGuestKernel
    {ga : GuestAreaAddr} {nk back : BitVec 64} {cpu : PerCpu} {h s : State}
    (hs : OnGuestKernel ga nk back h s) (hap : StacksApart ga nk)
    (hgs : h.sys.gsBase = cpu.gsBase) (g : GuestValues) (c : Compiled) :
    PayloadReady ga nk back cpu c h (startPayload cpu g c s) := by
  have hgs' : s.sys.gsBase = cpu.gsBase := by rw [hs.sys, hgs]
  have hdepth := c.depth_le
  have hcode := c.leavesHost ga s
  have hsp : s.reg .rsp - BitVec.ofNat 64 c.depth =
      addr ga.va (offGuestStk - 8 - c.depth) := by
    rw [hs.rsp]
    exact addr_sub ga.va (by show c.depth ≤ 7928; omega)
  let s₁ := (c.leave ga.va s).writeWords ga.va (startWords g s.sys)
  have hs₁ : s₁ = { c.leave ga.va s with mem := s₁.mem } := writeWords_eq _ _ _
  have hmem : (startPayload cpu g c s).mem = s₁.mem := by
    rw [startPayload_eq hs.rdi hgs']
    rfl
  -- the words that are not written
  have hkeep : ∀ b, (∀ w ∈ startWords g s.sys, b ≠ addr ga.va w.1) →
      (startPayload cpu g c s).mem b = (c.leave ga.va s).mem b := by
    intro b hb
    rw [hmem]
    exact mem_writeWords_of_ne hb
  refine ⟨⟨?_, ?_, ?_, ?_⟩, ⟨?_, ?_, ?_, ?_⟩, ?_, ?_⟩
  · rw [startPayload_eq hs.rdi hgs']
    simp
  · rw [startPayload_eq hs.rdi hgs', ← hsp]
    show (s₁.set .rdi ga.va).reg .rsp = _
    rw [hs₁]
    simp [Compiled.leave]
  · show 4160 ≤ 7928 - c.depth
    omega
  · show 7928 - c.depth ≤ 7936
    omega
  · intro j w hj
    have hne := hap.apart j (lt_of_nativeWords hj)
    rw [hkeep _ fun w hw => hne w.1 (startWords_lt g s.sys w hw).1,
      hcode.outside _ hne]
    exact hs.words j w hj
  · have hne : ∀ w ∈ startWords g s.sys,
        addr ga.va offNkStack ≠ addr ga.va w.1 := by
      intro w hw heq
      obtain ⟨hlt, hne⟩ := startWords_lt g s.sys w hw
      exact hne ((addr_inj (by decide) (by omega)).mp heq).symm
    rw [hkeep _ hne, hcode.low offNkStack (by decide)]
    exact hs.nkStack
  · intro f
    have hlt : ∀ w ∈ startWords g s.sys, w.1 < 2 ^ 64 := by
      intro w hw
      have := (startWords_lt g s.sys w hw).1
      omega
    have hword : (offNativeSaveTss f, tssField h.sys f) ∈ startWords g s.sys := by
      rw [hs.sys]
      cases f <;> simp [startWords, tssField]
    rw [hmem]
    exact mem_writeWords (startWords_nodup g s.sys) hlt hword
  · rw [startPayload_eq hs.rdi hgs']
    show s₁.creg .cr4 = h.creg .cr4
    rw [hs₁]
    exact hs.cr4
  · rw [startPayload_eq hs.rdi hgs']
  · rw [startPayload_eq hs.rdi hgs']
    exact hgs'

/-- The payload when it exits. -/
structure PayloadStopped
    (ga : GuestAreaAddr) (nk back : BitVec 64) (cpu : PerCpu) (p : Payload)
    (h s : State) : Prop where
  saved : HostSaved ga nk back h s
  sp0 : s.sys.sp0 = addr ga.va offGuestStk
  gsBase : s.sys.gsBase = p.gsBase
  kernelGsBase : s.sys.kernelGsBase = cpu.gsBase
  rflags : s.rflags = p.rflags

theorem payloadStopped_leave
    {ga : GuestAreaAddr} {nk back : BitVec 64} {cpu : PerCpu} {c : Compiled}
    {h s : State} (hs : PayloadReady ga nk back cpu c h s) (hap : StacksApart ga nk)
    (p : Payload) :
    PayloadStopped ga nk back cpu p h (p.leave (run kkmSwitchToGpAsm s)) := by
  obtain ⟨hleaves, hsys⟩ := switchToGpAsm_leavesHost ga hs.entry
  generalize run kkmSwitchToGpAsm s = s' at hleaves hsys
  refine ⟨(hs.saved.of_leavesHost hap hleaves).of_payload hap p, ?_, rfl, ?_, rfl⟩
  · exact (congrArg SysState.sp0 hsys).trans hs.sp0
  · exact (congrArg SysState.kernelGsBase hsys).trans hs.gsBase

theorem payloadStopped_of_ready
    {ga : GuestAreaAddr} {nk : BitVec 64} {t : Trip} {h : State}
    (hh : HostReady ga nk t.cpu h) (hap : StacksApart ga nk) :
    PayloadStopped ga nk t.back t.cpu t.payload h (t.payload.leave (t.enter h)) :=
  payloadStopped_leave (payloadReady_of_onGuestKernel
    (onGuestKernel_of_ready hh hap t.back t.restore) hap hh.gsBase t.guest
    t.entryCode) hap t.payload

/-! ## The exit -/

/-- GS is swapped on the way: always after a `SYSCALL`, else where the word that
the entry takes for the saved code segment is one of a user. -/
def ExitCause.swaps : ExitCause → Bool
  | .trap vector rip cs _ _ =>
      userFrame (if pushesErrorCode vector = faultWithErrorCode vector then cs.selector
        else rip)
  | .syscall _ => true

/-- The flags with which the exit code starts. -/
def ExitCause.rflags (m : SyscallMask) (rflags : BitVec 64) : ExitCause → BitVec 64
  | .trap _ _ _ _ _ => rflags &&& ~~~gateMask
  | .syscall _ => rflags &&& ~~~m.mask

/-- At the jump to `kkm_switch_to_host_kernel`. -/
structure Exited
    (ga : GuestAreaAddr) (m : SyscallMask) (cause : ExitCause) (s s' : State) :
    Prop where
  rdi : s'.reg .rdi = ga.va
  leaves : LeavesHost ga s s'
  sp0 : s'.sys.sp0 = s.sys.sp0
  gsBase : s'.sys.gsBase =
    if cause.swaps then s.sys.kernelGsBase else s.sys.gsBase
  flags : controlFlags s'.rflags = controlFlags (cause.rflags m s.rflags)

/-- An exception or interrupt: the entry looks at the saved code segment, or,
where the stub does not fit the frame, at the instruction pointer. -/
theorem trap_sys
    (ga : GuestAreaAddr) (x : PayloadTrap)
    (hsp0 : x.state.sys.sp0 = addr ga.va offGuestStk) :
    ∃ regs, AtHostKernel ga regs x.state
        (run (intrStub x.vector ++ kkmIntrEntryAsm)
          (x.state.deliver true x.rip x.cs x.ss x.hwError)) ∧
      (run (intrStub x.vector ++ kkmIntrEntryAsm)
          (x.state.deliver true x.rip x.cs x.ss x.hwError)).sys =
        if userFrame (if pushesErrorCode x.vector = faultWithErrorCode x.vector then
          x.cs else x.rip) then x.state.sys.swapGs else x.state.sys := by
  by_cases hfits : x.StubFits
  · have hfits' : pushesErrorCode x.vector = faultWithErrorCode x.vector := hfits
    rw [if_pos hfits']
    exact ⟨_, (takenFrame_of_stubFits hfits).exit ga hsp0⟩
  · have hfits' : pushesErrorCode x.vector ≠ faultWithErrorCode x.vector := hfits
    rw [if_neg hfits']
    exact ⟨_, (takenFrame_of_not_stubFits hfits).exit ga hsp0⟩

/-- The words `kkm_syscall_entry_asm` pushes. -/
def syscallWords (s : State) : List (BitVec 64) :=
  [userDs, s.reg .rsp, s.reg .r11, userCs, s.reg .rcx, minusOne, kkmIntrSyscall]

theorem kkmSyscallEntryAsm_eq
    {cpu : PerCpu} {s : State} (hgs : s.sys.kernelGsBase = cpu.gsBase) :
    kkmSyscallEntryAsm cpu s =
      (({ s with sys := { s.sys.swapGs with sp2 := s.reg .rsp } } : State).set .rsp
        s.sys.sp0).pushWords (syscallWords s) := by
  have hswap : (exec .swapgs s).sys.gsBase = cpu.gsBase := hgs
  rw [kkmSyscallEntryAsm, writeTss_of_gs hswap]
  have hread : ∀ (f : TssField) (s' : State), s'.sys.gsBase = cpu.gsBase →
      readTss cpu f s' = tssField s'.sys f := fun _ _ h => if_pos h
  simp only []
  rw [hread .sp0 _ hgs, hread .sp2 _ hgs]
  rfl

theorem exited_trap
    {ga : GuestAreaAddr} {s : State} (hsp0 : s.sys.sp0 = addr ga.va offGuestStk)
    (cpu : PerCpu) (m : SyscallMask) (vector : Nat) (rip : BitVec 64)
    (cs : UserSegment) (ss error : BitVec 64) :
    Exited ga m (.trap vector rip cs ss error) s
      (ExitCause.run cpu m s (.trap vector rip cs ss error)) := by
  let x : PayloadTrap := ⟨vector, s, rip, cs.selector, ss, error⟩
  obtain ⟨regs, hat, hsys⟩ := trap_sys ga x hsp0
  have hflags := controlFlags_run (intrStub vector ++ kkmIntrEntryAsm) 0
    (s.deliver true rip cs.selector ss x.hwError)
  refine ⟨hat.rdi, hat.leaves, ?_, ?_, hflags⟩
  · refine (congrArg SysState.sp0 hsys).trans ?_
    rw [apply_ite SysState.sp0, swapGs_sp0, ite_self]
  · refine (congrArg SysState.gsBase hsys).trans ?_
    rw [apply_ite SysState.gsBase]
    rfl

/-- `SYSCALL` and the entry code push the words on the guest stack. -/
theorem syscallEntry_pushed
    {ga : GuestAreaAddr} {cpu : PerCpu} {s : State}
    (hsp0 : s.sys.sp0 = addr ga.va offGuestStk)
    (hgs : s.sys.kernelGsBase = cpu.gsBase) (m : SyscallMask) (next : BitVec 64) :
    let u := m.enter next s
    let u₀ : State := ({ u with sys := { u.sys.swapGs with sp2 := u.reg .rsp } } :
      State).set .rsp u.sys.sp0
    let v := kkmSyscallEntryAsm cpu u
    Pushed ga.va offGuestStk (syscallWords u) u₀ v ∧
      v.reg .rsp = addr ga.va (7864 + 16) ∧ LeavesHost ga s v := by
  intro u u₀ v
  have hsp : u₀.reg .rsp = addr ga.va offGuestStk := by
    rw [← hsp0]
    simp [u₀, u, SyscallMask.enter]
  have hpushed : Pushed ga.va offGuestStk (syscallWords u) u₀
      (u₀.pushWords (syscallWords u)) :=
    pushed_pushWords (syscallWords u) hsp (by show 56 ≤ 7936; omega)
      (by show 7936 < 2 ^ 63; omega)
  have hentry : v = u₀.pushWords (syscallWords u) := kkmSyscallEntryAsm_eq hgs
  rw [← hentry] at hpushed
  refine ⟨hpushed, hpushed.rsp, ?_, ?_, ?_⟩
  · intro off hoff
    have hoff' : off < 128 := hoff
    exact hpushed.mem off (by omega) (.inl (by show off < 7936 - 56; omega))
  · intro b hb
    exact hpushed.outside b fun off hoff => hb off (Nat.lt_trans hoff (by decide))
  · exact congrFun hpushed.creg .cr4

theorem exited_syscall
    {ga : GuestAreaAddr} {cpu : PerCpu} {s : State}
    (hsp0 : s.sys.sp0 = addr ga.va offGuestStk)
    (hgs : s.sys.kernelGsBase = cpu.gsBase) (m : SyscallMask) (next : BitVec 64) :
    Exited ga m (.syscall next) s (ExitCause.run cpu m s (.syscall next)) := by
  let u := m.enter next s
  obtain ⟨hpushed, hrsp, hpushes⟩ := syscallEntry_pushed hsp0 hgs m next
  have hrun' : ExitCause.run cpu m s (.syscall next) =
      run kkmIntrEntryAsmCommon (kkmSyscallEntryAsm cpu u) := rfl
  generalize kkmSyscallEntryAsm cpu u = v at hpushed hrsp hpushes hrun'
  obtain ⟨s', hrun, hat⟩ := intrEntryCommon_regs ga
    (t := 7864) ⟨by decide, by decide⟩ hrsp
  have hs' : ExitCause.run cpu m s (.syscall next) = s' := by
    rw [hrun', run, hrun]
  have hsys : s'.sys = v.sys := by
    have hkeep := sys_of_run kkmIntrEntryAsmCommon (by decide) 0 v
    rwa [hrun] at hkeep
  have hflags : controlFlags s'.rflags = controlFlags v.rflags := by
    have hkeep := controlFlags_run kkmIntrEntryAsmCommon 0 v
    rwa [hrun] at hkeep
  rw [hs']
  refine ⟨hat.rdi, hpushes.trans hat.leaves, ?_, ?_, ?_⟩
  · rw [hsys, hpushed.sys]
    rfl
  · rw [hsys, hpushed.sys]
    rfl
  · rw [hflags, hpushed.rflags]
    rfl

theorem exited_run
    {ga : GuestAreaAddr} {cpu : PerCpu} {s : State}
    (hsp0 : s.sys.sp0 = addr ga.va offGuestStk)
    (hgs : s.sys.kernelGsBase = cpu.gsBase) (m : SyscallMask) (cause : ExitCause) :
    Exited ga m cause s (cause.run cpu m s) := by
  cases cause with
  | trap vector rip cs ss error => exact exited_trap hsp0 cpu m vector rip cs ss error
  | syscall next => exact exited_syscall hsp0 hgs m next

/-! ## The return -/

/-- `kkm_switch_to_hk_asm` and `kkm_restore_label`: the native address space, and
the registers and the stack pointer from the native stack. -/
structure Returned (nk : BitVec 64) (s s' : State) : Prop where
  r15 : s'.reg .r15 = s.mem (addr nk 0)
  r14 : s'.reg .r14 = s.mem (addr nk 8)
  r13 : s'.reg .r13 = s.mem (addr nk 16)
  r12 : s'.reg .r12 = s.mem (addr nk 24)
  rbx : s'.reg .rbx = s.mem (addr nk 32)
  rbp : s'.reg .rbp = s.mem (addr nk 40)
  rsp : s'.reg .rsp = addr nk 56
  cr3 : s'.creg .cr3 = s.reg .rdi
  cr4 : s'.creg .cr4 = s.creg .cr4

/-- The return's full flush, made or skipped. -/
theorem return_fullFlush (s : State) :
    ∃ s', ([.jne 5, .readCr .rax .cr4, .mov .rbx .rax, .xor .rax 0x80#64,
        .writeCr .cr4 .rax, .writeCr .cr4 .rbx] : List Instr).foldl step (0, s) =
        (0, s') ∧
      s'.reg .rsi = s.reg .rsi ∧ s'.mem = s.mem ∧
      s'.creg .cr3 = s.creg .cr3 ∧ s'.creg .cr4 = s.creg .cr4 := by
  refine ⟨_, foldl_step_jne [.readCr .rax .cr4, .mov .rbx .rax, .xor .rax 0x80#64,
    .writeCr .cr4 .rax, .writeCr .cr4 .rbx] (by decide) s, ?_⟩
  split
  · refine ⟨?_, rfl, ?_, ?_⟩ <;> simp [execs, exec]
  · exact ⟨rfl, rfl, rfl, rfl⟩

/-- The pops, from the top of the native stack. -/
theorem returned_pops {nk : BitVec 64} {s : State} (hrsi : s.reg .rsi = nk) :
    let s' := execs (.mov .rsp .rsi :: kkmRestoreLabel) s
    s'.reg .r15 = s.mem (addr nk 0) ∧ s'.reg .r14 = s.mem (addr nk 8) ∧
      s'.reg .r13 = s.mem (addr nk 16) ∧ s'.reg .r12 = s.mem (addr nk 24) ∧
      s'.reg .rbx = s.mem (addr nk 32) ∧ s'.reg .rbp = s.mem (addr nk 40) ∧
      s'.reg .rsp = addr nk 56 := by
  have hadd : ∀ i, addr nk i + 8#64 = addr nk (i + 8) := fun i => addr_add nk i 8
  have hrsi₀ : s.reg .rsi = addr nk 0 := by rw [hrsi, addr_zero]
  simp [kkmRestoreLabel, execs, exec, hrsi₀, hadd]

theorem returned_run {nk : BitVec 64} {s : State} (hrsi : s.reg .rsi = nk) :
    Returned nk s (run (kkmSwitchToHkAsm ++ kkmRestoreLabel) s) := by
  let s₁ := execs [.writeCr .cr3 .rdi, .and .rdi 0xFF#64, .cmp .rdi 0#64] s
  have hrsi₁ : s₁.reg .rsi = nk := by simp [s₁, execs, exec, hrsi]
  have hmem₁ : s₁.mem = s.mem := by simp [s₁, execs, exec]
  have hcr₁ : s₁.creg .cr3 = s.reg .rdi ∧ s₁.creg .cr4 = s.creg .cr4 := by
    simp [s₁, execs, exec]
  obtain ⟨s₂, hrun₂, hrsi₂, hmem₂, hcr3, hcr4⟩ := return_fullFlush s₁
  have hrun : run (kkmSwitchToHkAsm ++ kkmRestoreLabel) s =
      execs (.mov .rsp .rsi :: kkmRestoreLabel) s₂ := by
    have hsplit : kkmSwitchToHkAsm ++ kkmRestoreLabel =
        [.writeCr .cr3 .rdi, .and .rdi 0xFF#64, .cmp .rdi 0#64] ++
          ([.jne 5, .readCr .rax .cr4, .mov .rbx .rax, .xor .rax 0x80#64,
            .writeCr .cr4 .rax, .writeCr .cr4 .rbx] ++
            (.mov .rsp .rsi :: kkmRestoreLabel)) := rfl
    rw [run, hsplit, List.foldl_append, foldl_step_plain (by decide) s,
      List.foldl_append, show List.foldl step (0, s₁) _ = (0, s₂) from hrun₂,
      foldl_step_plain (by decide) s₂]
  obtain ⟨hr15, hr14, hr13, hr12, hrbx, hrbp, hrsp⟩ :=
    returned_pops (hrsi₂.trans hrsi₁)
  rw [hmem₂, hmem₁] at hr15 hr14 hr13 hr12 hrbx hrbp
  have hcreg : (execs (.mov .rsp .rsi :: kkmRestoreLabel) s₂).creg = s₂.creg := rfl
  rw [hrun]
  refine ⟨hr15, hr14, hr13, hr12, hrbx, hrbp, hrsp, ?_, ?_⟩
  · rw [hcreg, hcr3, hcr₁.1]
  · rw [hcreg, hcr4, hcr₁.2]

/-! ## `kkm_switch_to_host_kernel` -/

theorem adjustRegs_leavesHost
    {ga : GuestAreaAddr} {s : State} (hrdi : s.reg .rdi = ga.va) :
    LeavesHost ga s (adjustRegs s) := by
  refine ⟨?_, ?_, rfl⟩
  · intro off hoff
    have hoff' : off < 128 := hoff
    have hne : ∀ j, 128 ≤ j → j < 8192 → addr ga.va off ≠ addr ga.va j := by
      intro j hj hj' heq
      have := (addr_inj (by omega) (by omega)).mp heq
      omega
    simp [adjustRegs, hrdi, hne offRip (by decide) (by decide),
      hne offRflags (by decide) (by decide)]
  · intro b hb
    simp [adjustRegs, hrdi, hb offRip (by decide), hb offRflags (by decide)]

/-- The restored task state. -/
def tssFrom (mem : BitVec 64 → BitVec 64) (ga : BitVec 64) (sys : SysState)
    (fs : List TssField) : SysState :=
  fs.foldl (fun sys f => setTssField sys (mem (addr ga (offNativeSaveTss f))) f) sys

theorem restoreTss_of_gs
    {cpu : PerCpu} {s : State} (hgs : s.sys.gsBase = cpu.gsBase) (ga : BitVec 64) :
    restoreTss cpu ga s =
      { s with sys := tssFrom s.mem ga s.sys [.sp0, .sp1, .sp2] } := by
  have hfold : ∀ (fs : List TssField) (s : State), s.sys.gsBase = cpu.gsBase →
      fs.foldl (fun s f => writeTss cpu f (s.mem (addr ga (offNativeSaveTss f))) s) s =
        { s with sys := tssFrom s.mem ga s.sys fs } := by
    intro fs
    induction fs with
    | nil => exact fun _ _ => rfl
    | cons f fs ih =>
        intro s hgs
        have hkeep : (setTssField s.sys (s.mem (addr ga (offNativeSaveTss f)))
            f).gsBase = cpu.gsBase := by
          cases f <;> exact hgs
        rw [List.foldl_cons, writeTss_of_gs hgs, ih _ hkeep]
        rfl
  exact hfold _ s hgs

/-- With a wrong GS base the task state is not reached. -/
theorem restoreTss_sys_of_ne
    {cpu : PerCpu} {s : State} (hgs : s.sys.gsBase ≠ cpu.gsBase) (ga : BitVec 64) :
    (restoreTss cpu ga s).sys = s.sys := by
  have hfold : ∀ (fs : List TssField) (s : State), s.sys.gsBase ≠ cpu.gsBase →
      (fs.foldl (fun s f => writeTss cpu f
        (s.mem (addr ga (offNativeSaveTss f))) s) s).sys = s.sys := by
    intro fs
    induction fs with
    | nil => exact fun _ _ => rfl
    | cons f fs ih =>
        intro s hgs
        rw [List.foldl_cons, writeTss, if_neg hgs]
        exact ih _ hgs
  exact hfold _ s hgs

/-- The system registers of the native kernel. -/
def hostSys (n : NativeKernel) (tss : TssField → BitVec 64) : SysState where
  ds := n.ds
  es := n.es
  fs := n.fs
  gs := n.gs
  ss := kernelDs
  fsBase := n.fsBase
  gsBase := n.gsBase
  kernelGsBase := n.gsKernBase
  lstar := n.entrySyscall64
  idt := n.idt
  sp0 := tss .sp0
  sp1 := tss .sp1
  sp2 := tss .sp2

theorem kkmSwitchToHostKernel_eq
    {ga : GuestAreaAddr} {cpu : PerCpu} {s : State} (hrdi : s.reg .rdi = ga.va)
    (hgs : s.sys.gsBase = cpu.gsBase) (n : NativeKernel) (c : Compiled) :
    kkmSwitchToHostKernel cpu n c s =
      let s₁ := c.leave ga.va (adjustRegs s)
      { (s₁.set .rdi n.cr3).set .rsi (s₁.mem (addr ga.va offNkStack)) with
        sys := hostSys n fun f => s₁.mem (addr ga.va (offNativeSaveTss f)) } := by
  have hgs₁ : (c.leave ga.va (adjustRegs s)).sys.gsBase = cpu.gsBase := hgs
  rw [kkmSwitchToHostKernel, hrdi]
  simp only [restoreTss_of_gs hgs₁]
  rfl

/-- With a wrong GS base the task state stays the guest's. -/
theorem kkmSwitchToHostKernel_sp0_of_ne
    {cpu : PerCpu} {s : State} (hgs : s.sys.gsBase ≠ cpu.gsBase) (n : NativeKernel)
    (c : Compiled) :
    (kkmSwitchToHostKernel cpu n c s).sys.sp0 = s.sys.sp0 := by
  have hgs₁ : (c.leave (s.reg .rdi) (adjustRegs s)).sys.gsBase ≠ cpu.gsBase := hgs
  have hrestore := restoreTss_sys_of_ne hgs₁ (s.reg .rdi)
  have hsp0 : (kkmSwitchToHostKernel cpu n c s).sys.sp0 =
      (restoreTss cpu (s.reg .rdi) (c.leave (s.reg .rdi) (adjustRegs s))).sys.sp0 := rfl
  rw [hsp0, hrestore]
  rfl

theorem kkmSwitchToHostKernel_leavesHost
    {ga : GuestAreaAddr} {cpu : PerCpu} {s : State} (hrdi : s.reg .rdi = ga.va)
    (hgs : s.sys.gsBase = cpu.gsBase) (n : NativeKernel) (c : Compiled) :
    LeavesHost ga s (kkmSwitchToHostKernel cpu n c s) := by
  have hleaves := (adjustRegs_leavesHost hrdi).trans
    (c.leavesHost ga (adjustRegs s))
  rw [kkmSwitchToHostKernel_eq hrdi hgs]
  exact ⟨hleaves.low, hleaves.outside, hleaves.cr4⟩

/-- The function changes arithmetic flags only. -/
theorem kkmSwitchToHostKernel_flags
    (cpu : PerCpu) (n : NativeKernel) (c : Compiled) (s : State) :
    controlFlags (kkmSwitchToHostKernel cpu n c s).rflags =
      controlFlags s.rflags := by
  have hrestore : ∀ (fs : List TssField) (ga : BitVec 64) (s : State),
      (fs.foldl (fun s f => writeTss cpu f
        (s.mem (addr ga (offNativeSaveTss f))) s) s).rflags = s.rflags := by
    intro fs ga
    induction fs with
    | nil => exact fun _ => rfl
    | cons f fs ih =>
        intro s
        rw [List.foldl_cons, ih, writeTss]
        split <;> rfl
  have hcode : (kkmSwitchToHostKernel cpu n c s).rflags = setArith s.rflags c.flags :=
    hrestore _ _ _
  rw [hcode, controlFlags_setArith]

end Driver
end KkmModule
