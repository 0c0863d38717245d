import KkmModule.Foundation.X86Machine
import Mathlib.Logic.Function.Iterate

/-!
# Blocks of code at addresses

A block runs to its `ret`, which goes on at the address it pops: in the block
that starts there, or in the caller where none does.  An `int` runs a handler
that returns with everything as it was; what is recorded of it is the vector.
-/

namespace KkmModule
namespace Foundation
namespace X86

inductive Op where
  | plain (i : Instr)
  | int (vector : Nat)
  | ret
deriving DecidableEq, Repr

/-- The block at each address where one starts. -/
def Code := BitVec 64 → Option (List Op)

/-- How far code has got; `taken` are the vectors of its `int`, oldest first. -/
inductive Progress where
  /-- `ops` are what is left of the block -/
  | running (s : State) (ops : List Op) (taken : List Nat)
  | returned (a : BitVec 64) (s : State) (taken : List Nat)
  /-- behind the end of a block -/
  | stuck

def Code.step (code : Code) : Progress → Progress
  | .running s (.plain i :: ops) taken => .running (exec i s) ops taken
  | .running s (.int vector :: ops) taken => .running s ops (taken ++ [vector])
  | .running s (.ret :: _) taken =>
      let a := s.mem (s.reg .rsp)
      let s := exec .ret s
      match code a with
      | some ops => .running s ops taken
      | none => .returned a s taken
  | .running _ [] _ => .stuck
  | .returned a s taken => .returned a s taken
  | .stuck => .stuck

def Code.Reaches (code : Code) (p p' : Progress) : Prop :=
  ∃ n, code.step^[n] p = p'

namespace Code

variable {code : Code} {p p' p'' : Progress}

theorem Reaches.refl (code : Code) (p : Progress) : code.Reaches p p := ⟨0, rfl⟩

theorem Reaches.one (code : Code) (p : Progress) : code.Reaches p (code.step p) :=
  ⟨1, rfl⟩

theorem Reaches.trans (h : code.Reaches p p') (h' : code.Reaches p' p'') :
    code.Reaches p p'' := by
  obtain ⟨n, rfl⟩ := h
  obtain ⟨n', rfl⟩ := h'
  exact ⟨n' + n, Function.iterate_add_apply code.step n' n p⟩

/-- A stretch without jumps. -/
theorem Reaches.plain
    (code : Code) (is : List Instr) (s : State) (ops : List Op) (taken : List Nat) :
    code.Reaches (.running s (is.map .plain ++ ops) taken)
      (.running (execs is s) ops taken) := by
  induction is generalizing s with
  | nil => exact .refl code _
  | cons i is ih => exact (Reaches.one code _).trans (ih (exec i s))

/-- A `ret` to the caller. -/
theorem Reaches.back
    {s : State} {a : BitVec 64} (ha : s.mem (s.reg .rsp) = a)
    (hnone : code a = none) (ops : List Op) (taken : List Nat) :
    code.Reaches (.running s (.ret :: ops) taken)
      (.returned a (exec .ret s) taken) := by
  subst ha
  have hstep : code.step (.running s (.ret :: ops) taken) =
      .returned (s.mem (s.reg .rsp)) (exec .ret s) taken := by
    simp only [step, hnone]
  exact hstep ▸ .one code _

end Code

/-! ## Registers popped -/

end X86
end Foundation
end KkmModule
