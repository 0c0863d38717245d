import KkmModule.Driver.ContextSwitch
import KkmModule.Driver.KontextReuse
import KkmModule.Driver.XstateImage

/-!
# Values of the monitor in privileged loads

The entry of a payload loads values that come from the monitor with
instructions that fault in kernel mode when the processor does not accept the
value: the `RIP` of the `IRETQ` frame, `DR6` and `DR7`, and the `MXCSR` of the
xsave image.  Nothing on the way looks at them, so what is loaded is what has
been given last.
-/

namespace KkmModule
namespace Driver

open Foundation X86

/-! ## What the processor accepts -/

/-- The bits of a linear address.  Five-level tables are in use with `LA57`. -/
def linearAddressBits (cfg : KkmConfig) : Nat := if cfg.l5 then 57 else 48

/-- The bits from the top one of a linear address upwards are equal. -/
def isCanonical (cfg : KkmConfig) (a : BitVec 64) : Prop :=
  (a.setWidth (linearAddressBits cfg)).signExtend 64 = a

def isHighClear (v : BitVec 64) : Prop := v &&& 0xFFFFFFFF00000000#64 = 0#64

/-- The bits of `MXCSR` that the processor has. -/
structure MxcsrMask where
  mask : BitVec 32

def MxcsrMask.accepts (p : MxcsrMask) (v : BitVec 32) : Prop :=
  v &&& ~~~p.mask = 0#32

instance (cfg : KkmConfig) (a : BitVec 64) : Decidable (isCanonical cfg a) :=
  inferInstanceAs (Decidable (_ = _))

example :
    isCanonical { KkmConfig.stock with l5 := true } 0x0000800000000000#64 ∧
      ¬ isCanonical .stock 0x0000800000000000#64 := by
  decide

/-- The values the entry path hands to loads that can fault. -/
structure EntryLoads where
  /-- in the frame for `IRETQ` -/
  rip : BitVec 64
  /-- the argument of `kkm_hw_debug_registers_restore` -/
  debugRegisters : Option (Fin 8 → BitVec 64)
  /-- in the image for `kkm_fpu_restore_xstate` -/
  mxcsr : Option (BitVec 32)

/-- The loads when the payload of `k` is entered and `kkm_switch_to_gp_asm` is
called in the state `w`. -/
def entryLoads (k : KkmKontext) (w : State) : EntryLoads where
  rip := (iretRegs (run kkmSwitchToGpAsm w)).rip
  debugRegisters :=
    if k.debugRegistersSet then some k.ga.debug.registers else none
  mxcsr :=
    if k.validPayloadXsaveArea then
      some (xstateField 32 k.payloadXsave xstateMxcsr)
    else none

structure EntryLoads.Accepted
    (cfg : KkmConfig) (p : MxcsrMask) (l : EntryLoads) : Prop where
  rip : isCanonical cfg l.rip
  debugRegisters : ∀ registers, l.debugRegisters = some registers →
    isHighClear (registers 6) ∧ isHighClear (registers 7)
  mxcsr : ∀ v, l.mxcsr = some v → p.accepts v

theorem entryLoads_rip (k : KkmKontext) (w : State) :
    (entryLoads k w).rip = (iretRegs (run kkmSwitchToGpAsm w)).rip := by
  simp only [entryLoads]

/-- Debug registers and `MXCSR` count only where they are loaded. -/
theorem accepted_entryLoads
    (cfg : KkmConfig) (p : MxcsrMask) (k : KkmKontext) (w : State) :
    (entryLoads k w).Accepted cfg p ↔
      isCanonical cfg (iretRegs (run kkmSwitchToGpAsm w)).rip ∧
        (k.debugRegistersSet = true → isHighClear (k.ga.debug.registers 6) ∧
          isHighClear (k.ga.debug.registers 7)) ∧
        (k.validPayloadXsaveArea = true →
          p.accepts (xstateField 32 k.payloadXsave xstateMxcsr)) := by
  constructor
  · intro h
    have hrip := h.rip
    rw [entryLoads_rip] at hrip
    exact ⟨hrip, fun hset => h.debugRegisters _ (if_pos hset),
      fun hvalid => h.mxcsr _ (if_pos hvalid)⟩
  · rintro ⟨hrip, hdebug, hmxcsr⟩
    rw [← entryLoads_rip k w] at hrip
    refine ⟨hrip, ?_, ?_⟩
    · intro registers hload
      obtain ⟨hset, hregisters⟩ := Option.ite_none_right_eq_some.mp hload
      cases hregisters
      exact hdebug hset
    · intro v hload
      obtain ⟨hvalid, hv⟩ := Option.ite_none_right_eq_some.mp hload
      cases hv
      exact hmxcsr hvalid

/-! ## What the monitor gives -/

/-- A write of guest state by the monitor. -/
inductive UserUpdate where
  | setRegs (copy : UserCopy KkmRegs)
  | setSregs (copy : UserCopy KkmSregs)
  | setDebug (copy : UserCopy KkmDebug)
  | setFpu (copy : UserCopy KkmFpu)
  | setXstate (copy : UserCopy (Nat → BitVec 8))
  | runPage (run : KkmRun)

def UserUpdate.event : UserUpdate → KontextEvent
  | .setRegs copy => .ioctl (.setRegs copy)
  | .setSregs copy => .ioctl (.setSregs copy)
  | .setDebug copy => .ioctl (.setDebug copy)
  | .setFpu copy => .ioctl (.setFpu copy)
  | .setXstate copy => .ioctl (.setXstate copy)
  | .runPage run => .writeRunPage run

def regsGiven : UserUpdate → Option KkmRegs
  | .setRegs copy => some copy.value
  | _ => none

def runPageGiven : UserUpdate → Option KkmRun
  | .runPage run => some run
  | _ => none

def debugGiven : UserUpdate → Option KkmDebug
  | .setDebug copy => some copy.value
  | _ => none

/-- `KKM_SET_DEBUG` puts the debug registers into use. -/
def debugUseGiven (u : UserUpdate) : Option Bool := (debugGiven u).map fun _ => true

def mxcsrGiven : UserUpdate → Option (BitVec 32)
  | .setFpu copy => some copy.value.mxcsr
  | .setXstate copy => some (xstateField 32 copy.value xstateMxcsr)
  | _ => none

section Updates

variable (cfg : KkmConfig) (crc32 : List (BitVec 8) → BitVec 32)

/-- An image that is copied in decides whether an image is restored. -/
def restoreGiven : UserUpdate → Option Bool
  | .setXstate copy =>
      let image := copy.value
      if copy.failed then none
      else some (decide (xstateField 32 image xstateFormat =
          BitVec.ofNat 32 cfg.xsFormat.code) &&
        decide (xstateField 32 image xstateCrc32 =
          crc32 (imageBytes image 0 kkmXstateDataSize)) &&
        image xstateValid != 0#8)
  | _ => none

/-- The values that reach the entry are accepted: the ones given last, or those
of the kontext where none is given. -/
structure GivenAccepted
    (p : MxcsrMask) (k : KkmKontext) (us : List UserUpdate) : Prop where
  rip : isCanonical cfg (givenRegs (lastGiven regsGiven k.ga.regs us)
    (lastGiven runPageGiven k.run us)).rip
  debugRegisters : lastGiven debugUseGiven k.debugRegistersSet us = true →
    isHighClear ((lastGiven debugGiven k.ga.debug us).registers 6) ∧
      isHighClear ((lastGiven debugGiven k.ga.debug us).registers 7)
  mxcsr : lastGiven (restoreGiven cfg crc32) k.validPayloadXsaveArea us = true →
    p.accepts (lastGiven mxcsrGiven (xstateField 32 k.payloadXsave xstateMxcsr) us)

/-! ## Updates -/

/-- An update between two calls of `KKM_RUN`. -/
def updateKontext (k : KkmKontext) : UserUpdate → KkmKontext
  | .setRegs copy => (kkmExecutionKontextIoctl cfg crc32 (.setRegs copy) k).2.2
  | .setSregs copy => (kkmExecutionKontextIoctl cfg crc32 (.setSregs copy) k).2.2
  | .setDebug copy => (kkmExecutionKontextIoctl cfg crc32 (.setDebug copy) k).2.2
  | .setFpu copy => (kkmExecutionKontextIoctl cfg crc32 (.setFpu copy) k).2.2
  | .setXstate copy => (kkmExecutionKontextIoctl cfg crc32 (.setXstate copy) k).2.2
  | .runPage run => { k with run := run }

/-- Neither the memory nor the phase is touched. -/
theorem runStep_updates
    {s : RunState} (hphase : s.phase = .monitor) (us : List UserUpdate) :
    (us.map UserUpdate.event).foldl (runStep cfg crc32) s =
      { s with kontext := us.foldl (updateKontext cfg crc32) s.kontext } := by
  induction us generalizing s with
  | nil => rfl
  | cons u us ih =>
      have hstep : runStep cfg crc32 s u.event =
          { s with kontext := updateKontext cfg crc32 s.kontext u } := by
        cases u with
        | runPage run => rfl
        | _ => exact if_pos hphase
      rw [List.map_cons, List.foldl_cons, hstep]
      exact ih hphase

/-- Clearing what follows the data keeps `MXCSR`. -/
theorem mxcsr_clearXstateTrailer (image : Nat → BitVec 8) :
    xstateField 32 (clearXstateTrailer image) xstateMxcsr =
      xstateField 32 image xstateMxcsr := by
  rw [clearXstateTrailer,
    xstateField_setXstateField_of_disjoint (.inl (by decide)),
    xstateField_setXstateField_of_disjoint (.inl (by decide)),
    xstateField_setXstateField_of_disjoint (.inl (by decide))]

/-- `KKM_KONTEXT_SET_XSTATE` changes the image and the decision to restore it. -/
theorem kkmKontextSetXstate_spec
    (copy : UserCopy (Nat → BitVec 8)) (k : KkmKontext) :
    let k' := (kkmKontextSetXstate cfg crc32 copy k).2
    k'.ga = k.ga ∧ k'.run = k.run ∧ k'.debugRegistersSet = k.debugRegistersSet ∧
      xstateField 32 k'.payloadXsave xstateMxcsr =
        xstateField 32 copy.value xstateMxcsr ∧
      k'.validPayloadXsaveArea =
        (restoreGiven cfg crc32 (.setXstate copy)).getD k.validPayloadXsaveArea := by
  by_cases hfailed : copy.failed = true
  · simp [kkmKontextSetXstate, restoreGiven, hfailed]
  · by_cases hformat : xstateField 32 copy.value xstateFormat =
        BitVec.ofNat 32 cfg.xsFormat.code
    · by_cases hcrc : xstateField 32 copy.value xstateCrc32 =
          crc32 (imageBytes copy.value 0 kkmXstateDataSize)
      · simp [kkmKontextSetXstate, restoreGiven, hfailed, hformat, hcrc,
          mxcsr_clearXstateTrailer]
      · simp [kkmKontextSetXstate, restoreGiven, hfailed, hformat, hcrc]
    · simp [kkmKontextSetXstate, restoreGiven, hfailed, hformat]

theorem updateKontext_regs (k : KkmKontext) (u : UserUpdate) :
    (updateKontext cfg crc32 k u).ga.regs = (regsGiven u).getD k.ga.regs := by
  cases u with
  | setXstate copy =>
      exact congrArg KkmGuestArea.regs (kkmKontextSetXstate_spec cfg crc32 copy k).1
  | _ => rfl

theorem updateKontext_run (k : KkmKontext) (u : UserUpdate) :
    (updateKontext cfg crc32 k u).run = (runPageGiven u).getD k.run := by
  cases u with
  | setXstate copy => exact (kkmKontextSetXstate_spec cfg crc32 copy k).2.1
  | _ => rfl

theorem updateKontext_debug (k : KkmKontext) (u : UserUpdate) :
    (updateKontext cfg crc32 k u).ga.debug = (debugGiven u).getD k.ga.debug := by
  cases u with
  | setXstate copy =>
      exact congrArg KkmGuestArea.debug (kkmKontextSetXstate_spec cfg crc32 copy k).1
  | _ => rfl

theorem updateKontext_debugRegistersSet (k : KkmKontext) (u : UserUpdate) :
    (updateKontext cfg crc32 k u).debugRegistersSet =
      (debugUseGiven u).getD k.debugRegistersSet := by
  cases u with
  | setXstate copy => exact (kkmKontextSetXstate_spec cfg crc32 copy k).2.2.1
  | _ => rfl

theorem updateKontext_mxcsr (k : KkmKontext) (u : UserUpdate) :
    xstateField 32 (updateKontext cfg crc32 k u).payloadXsave xstateMxcsr =
      (mxcsrGiven u).getD (xstateField 32 k.payloadXsave xstateMxcsr) := by
  cases u with
  | setXstate copy => exact (kkmKontextSetXstate_spec cfg crc32 copy k).2.2.2.1
  | setFpu copy => exact xstateField_setXstateField (by decide) _ copy.value.mxcsr _
  | _ => rfl

theorem updateKontext_valid (k : KkmKontext) (u : UserUpdate) :
    (updateKontext cfg crc32 k u).validPayloadXsaveArea =
      (restoreGiven cfg crc32 u).getD k.validPayloadXsaveArea := by
  cases u with
  | setXstate copy => exact (kkmKontextSetXstate_spec cfg crc32 copy k).2.2.2.2
  | _ => rfl

/-! ## The entry -/

/-- What the loads depend on is the same. -/
structure SameLoads (k k' : KkmKontext) : Prop where
  rip : k'.ga.regs.rip = k.ga.regs.rip
  debug : k'.ga.debug = k.ga.debug
  debugRegistersSet : k'.debugRegistersSet = k.debugRegistersSet
  payloadXsave : k'.payloadXsave = k.payloadXsave
  validPayloadXsaveArea : k'.validPayloadXsaveArea = k.validPayloadXsaveArea

theorem SameLoads.trans
    {k k' k'' : KkmKontext} (h : SameLoads k k') (h' : SameLoads k' k'') :
    SameLoads k k'' :=
  ⟨h'.rip.trans h.rip, h'.debug.trans h.debug,
    h'.debugRegistersSet.trans h.debugRegistersSet,
    h'.payloadXsave.trans h.payloadXsave,
    h'.validPayloadXsaveArea.trans h.validPayloadXsaveArea⟩

theorem startNewThread_sameLoads (k : KkmKontext) :
    SameLoads k (startNewThread k) := by
  refine ⟨?_, rfl, rfl, rfl, rfl⟩
  unfold startNewThread
  cases isCloneStart k with
  | false => rfl
  | true => rfl

theorem handleSyscallResponse_sameLoads (m : ByteMemory) (k : KkmKontext) :
    SameLoads k (kkmKontextHandleSyscallResponse m k).2 := by
  unfold kkmKontextHandleSyscallResponse
  split
  · split
    · exact ⟨rfl, rfl, rfl, rfl, rfl⟩
    · exact ⟨rfl, rfl, rfl, rfl, rfl⟩
  · exact ⟨rfl, rfl, rfl, rfl, rfl⟩

theorem restoreException_sameLoads (k : KkmKontext) :
    SameLoads k (restoreException k) := by
  refine ⟨?_, rfl, rfl, rfl, rfl⟩
  simp only [restoreException, KkmKontext.setRegs]
  split <;> rfl

theorem forgetTrap_sameLoads (k : KkmKontext) : SameLoads k (forgetTrap k) :=
  ⟨rfl, rfl, rfl, rfl, rfl⟩

/-- Up to `begin` only `rax`, `rbx` and `rsp` change. -/
theorem kkmKontextSwitchKernelStart_sameLoads (m : ByteMemory) (k : KkmKontext) :
    SameLoads k (kkmKontextSwitchKernelStart m k).2 := by
  have hresponse := (startNewThread_sameLoads k).trans
    (handleSyscallResponse_sameLoads m (startNewThread k))
  unfold kkmKontextSwitchKernelStart
  split
  · exact ⟨rfl, rfl, rfl, rfl, rfl⟩
  · simp only
    split
    · exact hresponse
    · exact hresponse.trans
        ((restoreException_sameLoads _).trans (forgetTrap_sameLoads _))

theorem enterPayload_sameLoads (e : EntryCpu) (k : KkmKontext) :
    SameLoads k (enterPayload e k) :=
  ⟨rfl, rfl, rfl, rfl, rfl⟩

/-- The monitor writes guest state and calls `KKM_RUN`. -/
def updateAndRun (us : List UserUpdate) (signal : Bool) (e : EntryCpu) :
    List KontextEvent :=
  us.map UserUpdate.event ++ [.run, .begin signal e]

/-- What the payload is entered with after `KKM_RUN`. -/
theorem run_begin_sameLoads
    {s : RunState} (hphase : s.phase = .monitor) {signal : Bool} {e : EntryCpu}
    (hentered : (List.foldl (runStep cfg crc32) s [.run, .begin signal e]).phase =
      .payload) :
    SameLoads (kkmSetRegs s.kontext)
      (List.foldl (runStep cfg crc32) s [.run, .begin signal e]).kontext := by
  have hstart := kkmKontextSwitchKernelStart_sameLoads s.memory.user
    (kkmSetRegs s.kontext)
  have hrun : runStep cfg crc32 s .run = s.run := if_pos hphase
  rw [List.foldl_cons, List.foldl_cons, List.foldl_nil, hrun] at hentered ⊢
  by_cases hret : (kkmKontextSwitchKernelStart s.memory.user
      (kkmSetRegs s.kontext)).1 = 0
  · have hbegin : s.run = ⟨(kkmKontextSwitchKernelStart s.memory.user
        (kkmSetRegs s.kontext)).2, s.memory, .begin⟩ := by
      simp only [RunState.run, hret, ne_eq, not_true_eq_false, if_false]
    rw [hbegin] at hentered ⊢
    cases signal with
    | true => cases hentered
    | false => exact hstart.trans (enterPayload_sameLoads e _)
  · -- the call has returned, and `begin` does nothing
    have hreturn : s.run.phase = .monitor := by
      simp only [RunState.run, ne_eq, hret, not_false_eq_true, if_true,
        RunState.return]
    simp [runStep, hreturn] at hentered

/-- The loads of the entry are accepted exactly when the values given last
are. -/
theorem entryLoads_accepted_iff
    (p : MxcsrMask) {s : RunState} (hphase : s.phase = .monitor)
    (us : List UserUpdate) (signal : Bool) (e : EntryCpu)
    (ga : GuestAreaAddr) {stack : Nat} {w : State} (hw : AtEntry ga stack w) :
    let s' := (updateAndRun us signal e).foldl (runStep cfg crc32) s
    s'.phase = .payload → gaRegs w.mem ga.va = s'.kontext.ga.regs →
      ((entryLoads s'.kontext w).Accepted cfg p ↔
        GivenAccepted cfg crc32 p s.kontext us) := by
  intro s' hentered hregs
  simp only [s', updateAndRun, List.foldl_append,
    runStep_updates cfg crc32 hphase] at hentered hregs ⊢
  let k := us.foldl (updateKontext cfg crc32) s.kontext
  let t : RunState := { s with kontext := k }
  have ht : t.phase = .monitor := hphase
  let k' := (List.foldl (runStep cfg crc32) t [.run, .begin signal e]).kontext
  have hsame : SameLoads (kkmSetRegs k) k' :=
    run_begin_sameLoads cfg crc32 ht hentered
  have hrip : k'.ga.regs.rip = (givenRegs k.ga.regs k.run).rip := hsame.rip
  have hdebug : k'.ga.debug = k.ga.debug := hsame.debug
  have hset : k'.debugRegistersSet = k.debugRegistersSet := hsame.debugRegistersSet
  have hxsave : k'.payloadXsave = k.payloadXsave := hsame.payloadXsave
  have hvalid : k'.validPayloadXsaveArea = k.validPayloadXsaveArea :=
    hsame.validPayloadXsaveArea
  -- what the updates have left
  have hregs' : k.ga.regs = lastGiven regsGiven s.kontext.ga.regs us :=
    field_foldl (fun k : KkmKontext => k.ga.regs)
      (updateKontext_regs cfg crc32) s.kontext us
  have hrun' : k.run = lastGiven runPageGiven s.kontext.run us :=
    field_foldl KkmKontext.run
      (updateKontext_run cfg crc32) s.kontext us
  have hdebug' : k.ga.debug = lastGiven debugGiven s.kontext.ga.debug us :=
    field_foldl (fun k : KkmKontext => k.ga.debug)
      (updateKontext_debug cfg crc32) s.kontext us
  have hset' : k.debugRegistersSet =
      lastGiven debugUseGiven s.kontext.debugRegistersSet us :=
    field_foldl KkmKontext.debugRegistersSet
      (updateKontext_debugRegistersSet cfg crc32) s.kontext us
  have hmxcsr' : xstateField 32 k.payloadXsave xstateMxcsr =
      lastGiven mxcsrGiven (xstateField 32 s.kontext.payloadXsave xstateMxcsr) us :=
    field_foldl (fun k : KkmKontext => xstateField 32 k.payloadXsave xstateMxcsr)
      (updateKontext_mxcsr cfg crc32) s.kontext us
  have hvalid' : k.validPayloadXsaveArea =
      lastGiven (restoreGiven cfg crc32) s.kontext.validPayloadXsaveArea us :=
    field_foldl KkmKontext.validPayloadXsaveArea
      (updateKontext_valid cfg crc32) s.kontext us
  have hframe : (iretRegs (run kkmSwitchToGpAsm w)).rip =
      (givenRegs k.ga.regs k.run).rip := by
    rw [(switchToGpAsm_regs ga hw).1, hregs, ← hrip]
  change (entryLoads k' w).Accepted cfg p ↔ _
  rw [accepted_entryLoads, hframe, hset, hdebug, hvalid, hxsave, hset', hdebug',
    hvalid', hmxcsr', hregs', hrun']
  exact ⟨fun h => ⟨h.1, h.2.1, h.2.2⟩,
    fun h => ⟨h.rip, h.debugRegisters, h.mxcsr⟩⟩

end Updates

/-- A new kontext, before its first run. -/
def newMonitor : RunState :=
  ⟨secondKontext, ⟨fun _ => none, fun _ => 0#64⟩, .monitor⟩

def ripUpdate (rip : BitVec 64) : List UserUpdate :=
  [.setRegs ⟨false, { KkmRegs.zeroed with rip := rip }⟩]

/-- `kkm_switch_to_gp_asm` is called with these registers in `ga->regs`, the
others being zero. -/
def entryWith (rip rflags : BitVec 64) : State :=
  { someEntry with
    mem := Function.update
      (Function.update (fun _ => 0#64) (addr someGuestArea.va offRip) rip)
      (addr someGuestArea.va offRflags) rflags }

theorem entryWith_atEntry (rip rflags : BitVec 64) :
    AtEntry someGuestArea 7872 (entryWith rip rflags) :=
  ⟨rfl, rfl, by decide, by decide⟩

theorem entryLoads_accepted_low_rip :
    let s' := (updateAndRun (ripUpdate 0x401000#64) false ⟨0, 0⟩).foldl
      (runStep .stock fun _ => 0) newMonitor
    (entryLoads s'.kontext (entryWith 0x401000#64 0x10200#64)).Accepted .stock
      ⟨0xFFFF#32⟩ := by
  refine (entryLoads_accepted_iff .stock (fun _ => 0) ⟨0xFFFF#32⟩ rfl
    (ripUpdate 0x401000#64) false ⟨0, 0⟩ someGuestArea
    (entryWith_atEntry 0x401000#64 0x10200#64) (by decide +kernel)
    (by decide +kernel)).mpr ⟨by decide +kernel, ?_, ?_⟩
  · intro hset
    exact absurd hset (by decide +kernel)
  · intro hvalid
    exact absurd hvalid (by decide +kernel)

theorem noncanonical_rip_at_iretq :
    let s' := (updateAndRun (ripUpdate 0x8000000000000000#64) false ⟨0, 0⟩).foldl
      (runStep .stock fun _ => 0) newMonitor
    s'.phase = .payload ∧
      gaRegs (entryWith 0x8000000000000000#64 0x10200#64).mem someGuestArea.va =
        s'.kontext.ga.regs ∧
      ¬ (entryLoads s'.kontext
        (entryWith 0x8000000000000000#64 0x10200#64)).Accepted .stock
          ⟨0xFFFF#32⟩ := by
  refine ⟨by decide +kernel, by decide +kernel, ?_⟩
  intro h
  have hrip := h.rip
  rw [entryLoads, (switchToGpAsm_regs someGuestArea
    (entryWith_atEntry 0x8000000000000000#64 0x10200#64)).1] at hrip
  exact absurd hrip (by decide +kernel)

end Driver
end KkmModule
