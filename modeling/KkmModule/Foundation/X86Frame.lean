import KkmModule.Foundation.X86Machine

/-!
# What a run leaves alone

Facts about every run of a list of instructions, whatever its jumps skip: the
flags other than those of arithmetic, control and system registers that no
instruction of the list writes, and, for code that only pushes and pops, the
stack pointer within bounds and memory outside the area of the stack.
-/

namespace KkmModule
namespace Foundation
namespace X86

/-- What every instruction of a list keeps, a run keeps. -/
theorem run_keeps
    {α : Type} (f : State → α) {is : List Instr}
    (his : ∀ i ∈ is, ∀ s, f (exec i s) = f s) :
    ∀ (m : Nat) (s : State), f (is.foldl step (m, s)).2 = f s := by
  induction is with
  | nil => exact fun _ _ => rfl
  | cons i is ih =>
      intro m s
      have hrest := ih fun j hj => his j (List.mem_cons_of_mem _ hj)
      have hone := his i List.mem_cons_self s
      rw [List.foldl_cons]
      cases m with
      | succ m => exact hrest m s
      | zero =>
          cases i with
          | jne n => exact hrest _ s
          | je n => exact hrest _ s
          | _ => exact (hrest 0 _).trans hone

/-! ## Flags -/

/-- The flags that arithmetic does not set. -/
def controlFlags (rflags : BitVec 64) : BitVec 64 := rflags &&& ~~~arithMask

theorem controlFlags_setArith (rflags f : BitVec 64) :
    controlFlags (setArith rflags f) = controlFlags rflags := by
  ext i hi
  simp only [controlFlags, setArith, BitVec.getElem_and, BitVec.getElem_or,
    BitVec.getElem_not]
  cases arithMask[i] <;> simp

theorem exec_controlFlags (i : Instr) (s : State) :
    controlFlags (exec i s).rflags = controlFlags s.rflags := by
  cases i with
  | add | and | xor | cmp | testByte => exact controlFlags_setArith _ _
  | clc =>
      have hmask : ~~~0x1#64 &&& ~~~arithMask = ~~~arithMask := by decide
      show (s.rflags &&& ~~~0x1#64) &&& ~~~arithMask = s.rflags &&& ~~~arithMask
      rw [BitVec.and_assoc, hmask]
  | _ => rfl

/-- Code changes arithmetic flags only. -/
theorem controlFlags_run (is : List Instr) (m : Nat) (s : State) :
    controlFlags (is.foldl step (m, s)).2.rflags = controlFlags s.rflags :=
  run_keeps (fun s => controlFlags s.rflags) (fun i _ => exec_controlFlags i) m s

/-- A flag outside the mask of arithmetic is one of the control flags. -/
theorem getLsbD_controlFlags
    {n : Nat} (hn : arithMask.getLsbD n = false) (hn' : n < 64) (rflags : BitVec 64) :
    (controlFlags rflags).getLsbD n = rflags.getLsbD n := by
  rw [controlFlags, BitVec.getLsbD_and, BitVec.getLsbD_not, hn]
  simp [hn']

theorem getLsbD_of_controlFlags
    {n : Nat} (hn : arithMask.getLsbD n = false) (hn' : n < 64)
    {rflags rflags' : BitVec 64} (h : controlFlags rflags' = controlFlags rflags) :
    rflags'.getLsbD n = rflags.getLsbD n := by
  rw [← getLsbD_controlFlags hn hn' rflags', h, getLsbD_controlFlags hn hn']

theorem interruptsOn_of_controlFlags
    {rflags rflags' : BitVec 64} (h : controlFlags rflags' = controlFlags rflags) :
    interruptsOn rflags' = interruptsOn rflags :=
  getLsbD_of_controlFlags (by decide) (by decide) h

/-- No code turns interrupts on or off. -/
theorem interruptsOn_run (is : List Instr) (m : Nat) (s : State) :
    interruptsOn (is.foldl step (m, s)).2.rflags = interruptsOn s.rflags :=
  interruptsOn_of_controlFlags (controlFlags_run is m s)

/-! ## System and control registers -/

theorem exec_sys {i : Instr} (hi : i ≠ .swapgs) (s : State) :
    (exec i s).sys = s.sys := by
  cases i with
  | swapgs => exact absurd rfl hi
  | _ => rfl

/-- Without `SWAPGS` the system registers stay. -/
theorem sys_of_run
    (is : List Instr) (his : ∀ i ∈ is, i ≠ .swapgs) (m : Nat) (s : State) :
    (is.foldl step (m, s)).2.sys = s.sys :=
  run_keeps State.sys (fun i hi => exec_sys (his i hi)) m s

def Instr.writesCr (c : CReg) : Instr → Bool
  | .writeCr dst _ => dst == c
  | _ => false

theorem exec_creg
    {c : CReg} {i : Instr} (hi : i.writesCr c = false) (s : State) :
    (exec i s).creg c = s.creg c := by
  cases i with
  | writeCr dst src =>
      have hne : c ≠ dst := (beq_eq_false_iff_ne.mp hi).symm
      simp [exec, hne]
  | _ => rfl

theorem creg_of_run
    {c : CReg} (is : List Instr) (his : ∀ i ∈ is, i.writesCr c = false)
    (m : Nat) (s : State) :
    (is.foldl step (m, s)).2.creg c = s.creg c :=
  run_keeps (fun s => s.creg c) (fun i hi => exec_creg (his i hi)) m s

/-! ## The stack -/

def Instr.isPush : Instr → Bool
  | .push _ => true
  | .pushMem _ _ => true
  | .pushImm _ => true
  | _ => false

def Instr.isPop : Instr → Bool
  | .pop _ => true
  | .ret => true
  | _ => false

def Instr.isStore : Instr → Bool
  | .store _ _ _ => true
  | _ => false

/-- The instruction moves the stack pointer by pushing and popping only. -/
def Instr.onlyStack : Instr → Bool
  | .mov dst _ => dst != .rsp
  | .movImm dst _ => dst != .rsp
  | .load dst _ _ => dst != .rsp
  | .pop dst => dst != .rsp
  | .add dst _ => dst != .rsp
  | .and dst _ => dst != .rsp
  | .xor dst _ => dst != .rsp
  | .readCr dst _ => dst != .rsp
  | _ => true

theorem exec_rsp {i : Instr} (hi : i.onlyStack = true) (s : State) :
    (exec i s).reg .rsp =
      if i.isPush then s.reg .rsp - 8#64
      else if i.isPop then s.reg .rsp + 8#64
      else s.reg .rsp := by
  cases i with
  | mov | movImm | load | pop | add | and | xor | readCr =>
      have hdst := (bne_iff_ne.mp hi).symm
      simp [exec, Instr.isPush, Instr.isPop, hdst]
  | _ => simp [exec, Instr.isPush, Instr.isPop]

/-- Without a store only pushes write memory. -/
theorem exec_mem
    {i : Instr} (hi : i.isStore = false) {s : State} {b : BitVec 64}
    (hb : i.isPush = true → b ≠ s.reg .rsp - 8#64) :
    (exec i s).mem b = s.mem b := by
  cases i with
  | push | pushMem | pushImm =>
      have hne := hb rfl
      simp [exec, hne]
  | store => cases hi
  | _ => rfl

/-- Code that neither stores nor pushes leaves memory alone. -/
theorem mem_of_run
    (is : List Instr) (his : ∀ i ∈ is, i.isStore = false ∧ i.isPush = false)
    (m : Nat) (s : State) :
    (is.foldl step (m, s)).2.mem = s.mem := by
  refine run_keeps State.mem (fun i hi s => ?_) m s
  obtain ⟨hstore, hpush⟩ := his i hi
  funext b
  exact exec_mem hstore fun h => absurd h (by simp [hpush])

/-- Where a run of code with few pushes and pops may get its stack pointer, and
what it leaves of the memory. -/
structure NearStack
    (a : BitVec 64) (q pushes pops : Nat) (stores : Bool) (s s' : State) :
    Prop where
  rsp : ∃ q', s'.reg .rsp = addr a q' ∧ q ≤ q' + 8 * pushes ∧ q' ≤ q + 8 * pops
  outside : stores = false → ∀ b, (∀ off, off < q + 8 * pops → b ≠ addr a off) →
    s'.mem b = s.mem b

theorem NearStack.mono
    {a : BitVec 64} {q pushes pops pushes' pops' : Nat} {stores stores' : Bool}
    {s s' : State} (h : NearStack a q pushes pops stores s s')
    (hpush : pushes ≤ pushes') (hpop : pops ≤ pops')
    (hstores : stores' = false → stores = false) :
    NearStack a q pushes' pops' stores' s s' := by
  obtain ⟨q', hsp, hlow, hhigh⟩ := h.rsp
  refine ⟨⟨q', hsp, by omega, by omega⟩, ?_⟩
  intro hno b hb
  exact h.outside (hstores hno) b fun off hoff => hb off (by omega)

/-- One instruction before the rest. -/
theorem NearStack.cons
    {a : BitVec 64} {i : Instr} (hi : i.onlyStack = true) {q pushes pops : Nat}
    {stores : Bool} {s s' : State} (hsp : s.reg .rsp = addr a q)
    (hq : 8 * (pushes + if i.isPush then 1 else 0) ≤ q)
    (h : ∀ q', (exec i s).reg .rsp = addr a q' → 8 * pushes ≤ q' →
      NearStack a q' pushes pops stores (exec i s) s') :
    NearStack a q (pushes + if i.isPush then 1 else 0)
      (pops + if i.isPop then 1 else 0) (i.isStore || stores) s s' := by
  have hrsp := exec_rsp hi s
  by_cases hpush : i.isPush = true
  · have hpop : i.isPop = false := by
      cases i <;> simp_all [Instr.isPush, Instr.isPop]
    simp only [hpush, hpop, if_true] at hq hrsp ⊢
    rw [hsp, addr_sub a (by omega)] at hrsp
    have hrest := h _ hrsp (by omega)
    obtain ⟨q', h₁, h₂, h₃⟩ := hrest.rsp
    refine ⟨⟨q', h₁, by omega, by simp only [Bool.false_eq_true, if_false]; omega⟩, ?_⟩
    intro hno b hb
    simp only [Bool.or_eq_false_iff, Bool.false_eq_true, if_false] at hno hb
    rw [hrest.outside hno.2 b fun off hoff => hb off (by omega)]
    refine exec_mem hno.1 fun _ => ?_
    rw [hsp, addr_sub a (by omega)]
    exact hb (q - 8) (by omega)
  · have hkeep : i.isStore = false → ∀ b, (exec i s).mem b = s.mem b :=
      fun hstore b => exec_mem hstore fun hp => absurd hp hpush
    simp only [hpush, if_false, Nat.add_zero, Bool.false_eq_true] at hq hrsp ⊢
    by_cases hpop : i.isPop = true
    · simp only [hpop, if_true] at hrsp ⊢
      rw [hsp, addr_add] at hrsp
      have hrest := h _ hrsp (by omega)
      obtain ⟨q', h₁, h₂, h₃⟩ := hrest.rsp
      refine ⟨⟨q', h₁, by omega, by omega⟩, ?_⟩
      intro hno b hb
      rw [Bool.or_eq_false_iff] at hno
      rw [hrest.outside hno.2 b fun off hoff => hb off (by omega)]
      exact hkeep hno.1 b
    · simp only [hpop, if_false, Nat.add_zero, Bool.false_eq_true] at hrsp ⊢
      have hrest := h q (hrsp.trans hsp) hq
      refine ⟨hrest.rsp, ?_⟩
      intro hno b hb
      rw [Bool.or_eq_false_iff] at hno
      rw [hrest.outside hno.2 b hb]
      exact hkeep hno.1 b

/-- A stretch of code with few pushes and pops stays near where its stack was,
whatever is skipped. -/
theorem nearStack_of_run
    {a : BitVec 64} {is : List Instr} (his : ∀ i ∈ is, i.onlyStack = true) :
    ∀ {m q : Nat} {s : State}, s.reg .rsp = addr a q →
      8 * is.countP Instr.isPush ≤ q →
      NearStack a q (is.countP Instr.isPush) (is.countP Instr.isPop)
        (is.any Instr.isStore) s (is.foldl step (m, s)).2 := by
  induction is with
  | nil =>
      intro m q s hsp _
      exact ⟨⟨q, hsp, Nat.le_refl q, Nat.le_refl q⟩, fun _ _ _ => rfl⟩
  | cons i is ih =>
      intro m q s hsp hq
      have his' := fun j hj => his j (List.mem_cons_of_mem _ hj)
      rw [List.countP_cons] at hq
      simp only [List.foldl_cons, List.countP_cons, List.any_cons]
      have hskip : ∀ m', NearStack a q
          (is.countP Instr.isPush + if i.isPush = true then 1 else 0)
          (is.countP Instr.isPop + if i.isPop = true then 1 else 0)
          (i.isStore || is.any Instr.isStore) s (is.foldl step (m', s)).2 := by
        intro m'
        refine (ih his' hsp (by omega)).mono (by omega) (by omega) ?_
        intro hno
        exact (Bool.or_eq_false_iff.mp hno).2
      have hexec := NearStack.cons (his i List.mem_cons_self) hsp hq
        fun q' hsp' hq' => ih (m := 0) his' hsp' hq'
      cases m with
      | succ m => exact hskip m
      | zero =>
          cases i with
          | jne n => exact hskip _
          | je n => exact hskip _
          | _ => exact hexec

/-- The same for every point on the way. -/
theorem nearStack_of_take
    {a : BitVec 64} {is : List Instr} (his : ∀ i ∈ is, i.onlyStack = true)
    (n : Nat) {q : Nat} {s : State} (hsp : s.reg .rsp = addr a q)
    (hq : 8 * is.countP Instr.isPush ≤ q) :
    NearStack a q (is.countP Instr.isPush) (is.countP Instr.isPop)
      (is.any Instr.isStore) s (run (is.take n) s) := by
  have hpush : (is.take n).countP Instr.isPush ≤ is.countP Instr.isPush :=
    (List.take_sublist n is).countP_le
  have hpop : (is.take n).countP Instr.isPop ≤ is.countP Instr.isPop :=
    (List.take_sublist n is).countP_le
  have htaken : ∀ i ∈ is.take n, i.onlyStack = true :=
    fun i hi => his i (List.mem_of_mem_take hi)
  refine (nearStack_of_run htaken hsp (by omega)).mono hpush hpop ?_
  intro hno
  rw [List.any_eq_false] at hno ⊢
  exact fun i hi => hno i (List.mem_of_mem_take hi)

end X86
end Foundation
end KkmModule
