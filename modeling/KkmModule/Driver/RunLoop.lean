import KkmModule.Driver.HandlerWrites
import KkmModule.Driver.StackFrames

/-!
# The loop of `kkm_kontext_switch_kernel`

From `begin` to the next `begin` is one turn.  A turn ends the call when a signal
is pending, when the handler of the exit returns to the monitor, and when the
payload has repeated a resolved page fault too often.
-/

namespace KkmModule
namespace Driver

open Foundation

/-! ## Turns -/

/-- What happens from `begin` to the end of the handling of the next exit. -/
structure PayloadTurn where
  /-- the answer of `signal_pending` -/
  signal : Bool
  cpu : EntryCpu
  /-- other threads may change the memory slots while the payload runs -/
  kkm : Kkm
  exit : PayloadExit
  answers : ExitAnswers
  /-- user memory as the payload leaves it -/
  user : ByteMemory

inductive LoopState where
  /-- at the label `begin` -/
  | begin (kontext : KkmKontext) (memory : RunMemory)
  | returned (ret : Int) (kontext : KkmKontext) (memory : RunMemory)

/-- The kontext with which the handling of the exit starts. -/
def PayloadTurn.atExit (t : PayloadTurn) (kontext : KkmKontext) : KkmKontext :=
  leavePayload t.exit (enterPayload t.cpu kontext)

/-- `kkm_process_intr` in a turn. -/
def PayloadTurn.processIntr
    (cfg : KkmConfig) (t : PayloadTurn) (kontext : KkmKontext) (memory : RunMemory) :
    Int × KkmKontext × RunMemory :=
  kkmProcessIntr cfg t.kkm t.answers (t.atExit kontext)
    { memory with user := t.user }

/-- What follows `kkm_process_intr`. -/
def afterIntr (r : Int × KkmKontext × RunMemory) : LoopState :=
  if r.1 = kkmKontextFaultProcessDone then
    let (ret, kontext) := countTrap r.2.1
    if ret ≠ 0 then .returned ret kontext r.2.2 else .begin kontext r.2.2
  else .returned r.1 r.2.1 r.2.2

def loopTurn
    (cfg : KkmConfig) (t : PayloadTurn) (kontext : KkmKontext) (memory : RunMemory) :
    LoopState :=
  if t.signal then .returned (-eintr) (signalExit kontext) memory
  else afterIntr (t.processIntr cfg kontext memory)

/-- A call that has returned takes no further turn. -/
def loopStep (cfg : KkmConfig) (s : LoopState) (t : PayloadTurn) : LoopState :=
  match s with
  | .begin kontext memory => loopTurn cfg t kontext memory
  | .returned ret kontext memory => .returned ret kontext memory

/-- `kkm_kontext_switch_kernel` through the given turns. -/
def kkmKontextSwitchKernel
    (cfg : KkmConfig) (turns : List PayloadTurn)
    (kontext : KkmKontext) (memory : RunMemory) : LoopState :=
  let (ret, kontext) := kkmKontextSwitchKernelStart memory.user kontext
  if ret ≠ 0 then .returned ret kontext memory
  else turns.foldl (loopStep cfg) (.begin kontext memory)

/-- `kkm_run` -/
def kkmRun
    (cfg : KkmConfig) (turns : List PayloadTurn)
    (kontext : KkmKontext) (memory : RunMemory) : LoopState :=
  match kkmKontextSwitchKernel cfg turns (kkmSetRegs kontext) memory with
  | .begin kontext memory => .begin kontext memory
  | .returned ret kontext memory => .returned ret (kkmGetRegs kontext) memory

/-! ## The loop and the steps of `KKM_RUN` -/

def LoopState.toRunState : LoopState → RunState
  | .begin kontext memory => ⟨kontext, memory, .begin⟩
  | .returned _ kontext memory => ⟨kkmGetRegs kontext, memory, .monitor⟩

/-- A turn is the step at `begin` and, if the payload is entered, an exit. -/
theorem loopTurn_toRunState
    (cfg : KkmConfig) (t : PayloadTurn) (k : KkmKontext) (m : RunMemory) :
    (loopTurn cfg t k m).toRunState =
      if t.signal then RunState.begin ⟨k, m, .begin⟩ t.signal t.cpu
      else (RunState.begin ⟨k, m, .begin⟩ t.signal t.cpu).exit cfg t.kkm t.exit
        t.answers t.user := by
  cases hsignal : t.signal with
  | true =>
      simp only [loopTurn, hsignal, if_true]
      rfl
  | false =>
      simp only [loopTurn, hsignal, Bool.false_eq_true, if_false]
      simp only [RunState.begin, Bool.false_eq_true, if_false, RunState.exit]
      by_cases hdone : (t.processIntr cfg k m).1 = kkmKontextFaultProcessDone
      · rw [afterIntr, if_pos hdone]
        refine Eq.trans ?_ (if_pos hdone).symm
        by_cases hret : (countTrap (t.processIntr cfg k m).2.1).1 ≠ 0
        · simp only [if_pos hret]
          exact (if_pos hret).symm
        · simp only [if_neg hret]
          exact (if_neg hret).symm
      · rw [afterIntr, if_neg hdone]
        exact (if_neg hdone).symm

section Loop

variable {cfg : KkmConfig} {k : KkmKontext} {m : RunMemory}

theorem kkmKontextSwitchKernel_nil :
    kkmKontextSwitchKernel cfg [] k m =
      if (kkmKontextSwitchKernelStart m.user k).1 ≠ 0 then
        .returned (kkmKontextSwitchKernelStart m.user k).1
          (kkmKontextSwitchKernelStart m.user k).2 m
      else .begin (kkmKontextSwitchKernelStart m.user k).2 m := rfl

theorem kkmKontextSwitchKernel_concat (turns : List PayloadTurn) (t : PayloadTurn) :
    kkmKontextSwitchKernel cfg (turns ++ [t]) k m =
      loopStep cfg (kkmKontextSwitchKernel cfg turns k m) t := by
  simp only [kkmKontextSwitchKernel]
  split
  · rfl
  · rw [List.foldl_append]
    rfl

/-- What holds when `begin` is reached and is kept by each turn, holds whenever
the loop is at `begin`; the turns are given latest first. -/
theorem loop_invariant
    {P : List PayloadTurn → KkmKontext → RunMemory → Prop}
    (hstart : (kkmKontextSwitchKernelStart m.user k).1 = 0 →
      P [] (kkmKontextSwitchKernelStart m.user k).2 m)
    (hturn : ∀ past t k' m' k'' m'', P past k' m' →
      loopTurn cfg t k' m' = .begin k'' m'' → P (t :: past) k'' m'')
    {turns : List PayloadTurn} {k' : KkmKontext} {m' : RunMemory}
    (hbegin : kkmKontextSwitchKernel cfg turns k m = .begin k' m') :
    P turns.reverse k' m' := by
  induction turns using List.reverseRecOn generalizing k' m' with
  | nil =>
      rw [kkmKontextSwitchKernel_nil] at hbegin
      split at hbegin
      · cases hbegin
      · rename_i hzero
        cases hbegin
        exact hstart (not_not.mp hzero)
  | append_singleton turns t ih =>
      rw [kkmKontextSwitchKernel_concat] at hbegin
      rw [List.reverse_append, List.reverse_singleton, List.singleton_append]
      cases hs : kkmKontextSwitchKernel cfg turns k m with
      | returned ret k₁ m₁ =>
          rw [hs] at hbegin
          cases hbegin
      | begin k₁ m₁ =>
          rw [hs] at hbegin
          exact hturn _ _ _ _ _ _ (ih hs) hbegin

end Loop

/-- A turn that ends with the given vector, error code and CR2; no copy fails. -/
def exitTurn (intrNo error cr2 : BitVec 64) : PayloadTurn where
  signal := false
  cpu := ⟨0, 0⟩
  kkm := .zeroed
  exit :=
    { regs := .zeroed, error := error, cs := userCs, ss := userDs,
      intrNo := intrNo, cr0 := 0, cr2 := cr2, cr3 := 0, cr4 := 0, cr8 := 0,
      debugRegisters := fun _ => 0, xsave := fun _ => 0 }
  answers := zeroedExitAnswers
  user := zeroedRunMemory.user

end Driver
end KkmModule
