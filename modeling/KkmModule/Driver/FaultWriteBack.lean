import KkmModule.Driver.PageFault
import KkmModule.Foundation.GuardedRun

/-!
# Stores of the payload during a fault

`kkm_process_page_fault` reads the byte at the fault address and, for a write
fault, writes it back, so that the native kernel maps the page.  `pf_lock` keeps
other faults of the kontainer out, but not the stores of other threads.

Memory is compared with what the stores alone would have left:
`stores_kept_iff` says that it stays the same exactly in the runs in which every
byte that is written back still has the value that was read.
`store_lost` is a run in which a store is undone.
-/

namespace KkmModule
namespace Driver

open Foundation

/-- Where the fault that holds `pf_lock` is. -/
inductive FaultPc where
  | copyFromUser (monitorVa : BitVec 64)
  | copyToUser (monitorVa : BitVec 64) (byte : BitVec 8)
  | unlock (ret : Int)
deriving DecidableEq, Repr

/-- A kontainer whose payload stores bytes while faults are serviced. -/
structure FaultRun where
  /-- bytes by monitor address -/
  memory : BitVec 64 → BitVec 8
  /-- what the stores of the payload alone have left -/
  stored : BitVec 64 → BitVec 8
  /-- the fault that is serviced: its error code and its place -/
  fault : Option (BitVec 64 × FaultPc)

inductive FaultEvent where
  /-- a thread of the payload stores a byte -/
  | store (monitorVa : BitVec 64) (byte : BitVec 8)
  /-- a faulting kontext gets `pf_lock` -/
  | lock (kkm : Kkm) (kontext : KkmKontext)
  /-- the next step of the fault; a copy may fail -/
  | advance (failed : Bool)

section FaultRun

variable (cfg : KkmConfig)

/-- `kkm_process_page_fault` up to its first copy. -/
def faultBegin (kkm : Kkm) (kontext : KkmKontext) : FaultPc :=
  match kkmGuestVaToMonitorVa cfg kkm kontext.ga.sregs.cr2 with
  | none => .unlock (-efault)
  | some (monitorVa, _) =>
      if kontext.ga.trapInfo.error &&& x86PfUser = x86PfUser then
        .copyFromUser monitorVa
      else .unlock 0

/-- One copy. -/
def faultCopy
    (errorCode : BitVec 64) (failed : Bool) (memory : BitVec 64 → BitVec 8) :
    FaultPc → FaultPc × (BitVec 64 → BitVec 8)
  | .copyFromUser monitorVa =>
      if failed then (.unlock (-efault), memory)
      else if errorCode &&& x86PfWrite = x86PfWrite then
        (.copyToUser monitorVa (memory monitorVa), memory)
      else (.unlock kkmKontextFaultProcessDone, memory)
  | .copyToUser monitorVa byte =>
      if failed then (.unlock (-efault), memory)
      else
        (.unlock kkmKontextFaultProcessDone,
          Function.update memory monitorVa byte)
  | .unlock ret => (.unlock ret, memory)

/-- The fault makes a step; the last one releases `pf_lock`. -/
def faultAdvance (s : FaultRun) (failed : Bool) : FaultRun :=
  match s.fault with
  | none => s
  | some (_, .unlock _) => { s with fault := none }
  | some (errorCode, pc) =>
      let (pc, memory) := faultCopy errorCode failed s.memory pc
      { s with memory := memory, fault := some (errorCode, pc) }

def faultStep (s : FaultRun) : FaultEvent → FaultRun
  | .store monitorVa byte =>
      { s with
        memory := Function.update s.memory monitorVa byte
        stored := Function.update s.stored monitorVa byte }
  | .lock kkm kontext =>
      if s.fault = none then
        { s with
          fault := some (kontext.ga.trapInfo.error, faultBegin cfg kkm kontext) }
      else s
  | .advance failed => faultAdvance s failed

/-- No store has been undone. -/
def StoresKept (s : FaultRun) : Prop := s.memory = s.stored

/-- A byte that is written back still has the value that was read. -/
def WritesBackSame (s : FaultRun) : FaultEvent → Prop
  | .advance false =>
      ∀ errorCode monitorVa byte,
        s.fault = some (errorCode, .copyToUser monitorVa byte) →
          s.memory monitorVa = byte
  | _ => True

/-! ## The steps and the function -/

/-- The result of `kkm_process_page_fault`. -/
theorem kkmProcessPageFault_ret
    (nativePgd : Nat) (kkm : Kkm) (read : UserRead) (write : UserWrite)
    (kontext : KkmKontext) (m : Memory) :
    (kkmProcessPageFault cfg nativePgd kkm read write kontext m).1 =
      match kkmGuestVaToMonitorVa cfg kkm kontext.ga.sregs.cr2 with
      | none => -efault
      | some _ =>
          if kontext.ga.trapInfo.error &&& x86PfUser = x86PfUser then
            if read.failed then -efault
            else if kontext.ga.trapInfo.error &&& x86PfWrite = x86PfWrite ∧
                write.failed then -efault
            else kkmKontextFaultProcessDone
          else 0 := by
  simp only [kkmProcessPageFault]
  cases kkmGuestVaToMonitorVa cfg kkm kontext.ga.sregs.cr2 with
  | none => rfl
  | some target =>
      simp only
      split
      · split
        · rfl
        · split
          · rfl
          · rfl
      · rfl

/-- Without a store in between the two copies leave memory as it was, and the
fault ends like `kkm_process_page_fault`. -/
theorem faultCopy_twice
    (nativePgd : Nat) (kkm : Kkm) (read : UserRead) (write : UserWrite)
    (kontext : KkmKontext) (m : Memory) (memory : BitVec 64 → BitVec 8) :
    let errorCode := kontext.ga.trapInfo.error
    let first := faultCopy errorCode read.failed memory (faultBegin cfg kkm kontext)
    faultCopy errorCode write.failed first.2 first.1 =
      (.unlock (kkmProcessPageFault cfg nativePgd kkm read write kontext m).1,
        memory) := by
  intro errorCode first
  rw [kkmProcessPageFault_ret]
  simp only [first, errorCode, faultBegin]
  cases kkmGuestVaToMonitorVa cfg kkm kontext.ga.sregs.cr2 with
  | none => rfl
  | some target =>
      by_cases huser : kontext.ga.trapInfo.error &&& x86PfUser = x86PfUser
      · simp only [if_pos huser]
        cases read.failed with
        | true => rfl
        | false =>
            by_cases hwrite : kontext.ga.trapInfo.error &&& x86PfWrite = x86PfWrite
            · cases write.failed with
              | true => simp [faultCopy, hwrite]
              | false => simp [faultCopy, hwrite]
            · simp [faultCopy, hwrite]
      · simp only [if_neg huser]
        rfl

/-! ## Every run -/

theorem storesKept_step
    (s : FaultRun) (event : FaultEvent) (h : StoresKept s) :
    StoresKept (faultStep cfg s event) ↔ WritesBackSame s event := by
  unfold StoresKept at h ⊢
  obtain ⟨memory, stored, fault⟩ := s
  simp only at h
  subst h
  cases event with
  | store monitorVa byte => simp [faultStep, WritesBackSame]
  | lock kkm kontext =>
      simp only [faultStep, WritesBackSame, iff_true]
      split
      · rfl
      · rfl
  | advance failed =>
      cases fault with
      | none =>
          cases failed with
          | true => simp [faultStep, faultAdvance, WritesBackSame]
          | false => simp [faultStep, faultAdvance, WritesBackSame]
      | some held =>
          obtain ⟨errorCode, pc⟩ := held
          cases pc with
          | unlock ret => cases failed <;>
              simp [faultStep, faultAdvance, WritesBackSame]
          | copyFromUser monitorVa =>
              cases failed with
              | true => simp [faultStep, faultAdvance, faultCopy, WritesBackSame]
              | false =>
                  by_cases hwrite : errorCode &&& x86PfWrite = x86PfWrite
                  · simp [faultStep, faultAdvance, faultCopy, WritesBackSame, hwrite]
                  · simp [faultStep, faultAdvance, faultCopy, WritesBackSame, hwrite]
          | copyToUser monitorVa byte =>
              cases failed with
              | true => simp [faultStep, faultAdvance, faultCopy, WritesBackSame]
              | false =>
                  simp only [faultStep, faultAdvance, faultCopy, WritesBackSame,
                    Bool.false_eq_true, if_false, Function.update_eq_self_iff]
                  constructor
                  · rintro hsame _ _ _ ⟨⟩
                    exact hsame.symm
                  · intro hsame
                    exact (hsame errorCode monitorVa byte rfl).symm

/-- No store is ever undone exactly in the runs in which every byte written back
still has the value that was read. -/
theorem stores_kept_iff
    {s : FaultRun} (h : StoresKept s) (events : List FaultEvent) :
    EveryState (faultStep cfg) StoresKept s events ↔
      EveryStep (faultStep cfg) WritesBackSame s events :=
  everyState_iff_everyStep (storesKept_step cfg) h

/-- A write fault of the payload at 0x400000. -/
def writeFault : KkmKontext :=
  { KkmKontext.zeroed with
    ga := { KkmGuestArea.zeroed with
      sregs := { KkmSregs.zeroed with cr2 := 0x400000#64 }
      trapInfo := { KkmTrapInfo.zeroed with error := x86PfUser ||| x86PfWrite } } }

/-- Two stores around a fault, none in between. -/
theorem stores_kept_around_fault :
    let monitorVa := kkmKmUserMemBase .stock + 0x400000#64
    let s : FaultRun := ⟨fun _ => 0, fun _ => 0, none⟩
    EveryState (faultStep .stock) StoresKept s
      [.store monitorVa 1, .lock .zeroed writeFault, .advance false,
        .advance false, .advance false, .store monitorVa 2] := by
  intro monitorVa s
  refine (stores_kept_iff .stock (s := s) rfl _).mpr
    ⟨trivial, trivial, ?_, ?_, ?_, trivial, trivial⟩
  · -- the byte is read
    rintro _ _ _ ⟨⟩
  · -- the byte is written back
    rintro _ _ _ ⟨⟩
    rfl
  · rintro _ _ _ ⟨⟩

/-- Another thread stores 1 after the byte has been read: the fault puts the 0
back. -/
theorem store_lost :
    let monitorVa := kkmKmUserMemBase .stock + 0x400000#64
    ¬ EveryState (faultStep .stock) StoresKept ⟨fun _ => 0, fun _ => 0, none⟩
      [.lock .zeroed writeFault, .advance false, .store monitorVa 1,
        .advance false] := by
  intro monitorVa h
  have hbyte := congrFun h.last monitorVa
  exact absurd hbyte (by decide +kernel)

end FaultRun

end Driver
end KkmModule
