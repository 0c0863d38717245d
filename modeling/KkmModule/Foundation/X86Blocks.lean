import KkmModule.Foundation.X86Machine

/-!
# Blocks that save and restore an area

A block of straight-line code works on the first `low` bytes of an area through
a base register, reads `high` bytes elsewhere through a second register, and
pushes onto a stack above the low part.  What it does is described without
addresses: `View` holds the registers and the low words by offset, and a view
of a concrete block can be evaluated.

`Shows.run` says that the machine follows the view.
-/

namespace KkmModule
namespace Foundation
namespace X86

structure Scope where
  base : Reg
  low : Nat
  top : Reg
  high : Nat

/-- Registers a block leaves alone. -/
def Scope.isScratch (c : Scope) (r : Reg) : Bool :=
  r != c.base && r != c.top && r != .rsp

/-- Instructions a block may contain. -/
def Scope.allows (c : Scope) : Instr → Bool
  | .store base off src => base == c.base && decide (off < c.low) && src != .rsp
  | .load dst base off =>
      c.isScratch dst &&
        (base == c.base && decide (off < c.low) ||
          base != c.base && base == c.top && decide (off < c.high))
  | .push src => c.high == 0 && src != .rsp
  | .readCr dst _ => c.isScratch dst
  | _ => false

/-- The registers, and the low words by their offsets. -/
structure View where
  reg : Reg → BitVec 64
  low : Nat → BitVec 64

/-- The words read through the second register, and the control registers. -/
structure Sources where
  high : Nat → BitVec 64
  creg : CReg → BitVec 64

def View.set (v : View) (r : Reg) (w : BitVec 64) : View :=
  ⟨Function.update v.reg r w, v.low⟩

def View.exec (c : Scope) (src : Sources) (v : View) : Instr → View
  | .store _ off r => ⟨v.reg, Function.update v.low off (v.reg r)⟩
  | .load dst base off =>
      v.set dst (if base = c.base then v.low off else src.high off)
  | .readCr dst cr => v.set dst (src.creg cr)
  | _ => v

/-- The offset an instruction stores to. -/
def Instr.storesAt : Instr → Option Nat
  | .store _ off _ => some off
  | _ => none

/-- A low word that no instruction stores to stays. -/
theorem View.low_of_not_stored
    {c : Scope} {src : Sources} {is : List Instr} {off : Nat}
    (his : ∀ i ∈ is, i.storesAt ≠ some off) (v : View) :
    (is.foldl (View.exec c src) v).low off = v.low off := by
  induction is generalizing v with
  | nil => rfl
  | cons i is ih =>
      rw [List.foldl_cons, ih (fun j hj => his j (List.mem_cons_of_mem _ hj))]
      cases i with
      | store base off' r =>
          have hne : off ≠ off' := by
            rintro rfl
            exact his _ List.mem_cons_self rfl
          exact Function.update_of_ne hne _ _
      | _ => rfl

/-- Bytes an instruction pushes. -/
def pushBytes : Instr → Nat
  | .push _ => 8
  | _ => 0

/-- The state of the machine is what the view shows; the stack pointer is `k`
bytes above the area's address. -/
structure Shows
    (c : Scope) (area top : BitVec 64) (src : Sources) (k : Nat)
    (s : State) (v : View) : Prop where
  reg : ∀ r, r ≠ .rsp → s.reg r = v.reg r
  base : s.reg c.base = area
  second : 0 < c.high → s.reg c.top = top
  low : ∀ off, off < c.low → s.mem (addr area off) = v.low off
  high : ∀ off, off < c.high → s.mem (addr top off) = src.high off
  sp : s.reg .rsp = addr area k
  creg : s.creg = src.creg

/-- The two parts of memory a block uses are apart, and neither pointer is the
stack pointer. -/
structure Scope.Apart (c : Scope) (area top : BitVec 64) : Prop where
  words : ∀ i j, i < c.low → j < c.high → addr area i ≠ addr top j
  base_ne : c.base ≠ .rsp
  top_ne : c.top ≠ .rsp
  low_le : c.low ≤ 2 ^ 63

section Steps

variable {c : Scope} {area top : BitVec 64} {src : Sources} {k : Nat}
variable {s : State} {v : View}

/-- A scratch register gets a value. -/
theorem Shows.setReg
    (h : Shows c area top src k s v) {r : Reg} (hr : c.isScratch r = true)
    (w : BitVec 64) :
    Shows c area top src k (s.set r w) (v.set r w) := by
  simp only [Scope.isScratch, Bool.and_eq_true, bne_iff_ne, ne_eq] at hr
  obtain ⟨⟨hbase, htop⟩, hsp⟩ := hr
  refine ⟨?_, ?_, ?_, h.low, h.high, ?_, h.creg⟩
  · intro q hq
    by_cases hqr : q = r
    · simp [View.set, hqr]
    · simp [View.set, hqr, h.reg q hq]
  · simp [Ne.symm hbase, h.base]
  · intro hpos
    simp [Ne.symm htop, h.second hpos]
  · simp [Ne.symm hsp, h.sp]

theorem Shows.store
    (h : Shows c area top src k s v) (ha : c.Apart area top)
    {off : Nat} (hoff : off < c.low) {r : Reg} (hr : r ≠ .rsp) :
    Shows c area top src k (s.write (addr (s.reg c.base) off) (s.reg r))
      ⟨v.reg, Function.update v.low off (v.reg r)⟩ := by
  have hlow := ha.low_le
  refine ⟨h.reg, h.base, h.second, ?_, ?_, h.sp, h.creg⟩
  · intro i hi
    simp only [State.write, h.base]
    by_cases hio : i = off
    · subst hio
      simp [h.reg r hr]
    · have hne : addr area i ≠ addr area off := by
        intro heq
        exact hio ((addr_inj (by omega) (by omega)).mp heq)
      simp [hne, hio, h.low i hi]
  · intro j hj
    simp only [State.write, h.base]
    have hne : addr top j ≠ addr area off := (ha.words off j hoff hj).symm
    simp [hne, h.high j hj]

theorem Shows.push
    (h : Shows c area top src k s v) (ha : c.Apart area top)
    (hhigh : c.high = 0) (hk : c.low + 8 ≤ k) (hk' : k ≤ 2 ^ 63) (w : BitVec 64) :
    Shows c area top src (k - 8) (s.pushWord w) v := by
  have hsp : s.reg .rsp - 8#64 = addr area (k - 8) := by
    rw [h.sp]
    exact addr_sub area (by omega)
  refine ⟨?_, ?_, ?_, ?_, ?_, ?_, h.creg⟩
  · intro r hr
    simp [hr, h.reg r hr]
  · simp [ha.base_ne, h.base]
  · intro hpos
    omega
  · intro i hi
    have hne : addr area i ≠ addr area (k - 8) := by
      intro heq
      have hik := (addr_inj (by omega) (by omega)).mp heq
      omega
    simp [hsp, hne, h.low i hi]
  · intro j hj
    omega
  · simp [hsp]

/-- One instruction of a block: the machine follows the view. -/
theorem Shows.step
    (h : Shows c area top src k s v) (ha : c.Apart area top) {i : Instr}
    (hi : c.allows i = true) (hk : c.low + pushBytes i ≤ k) (hk' : k ≤ 2 ^ 63) :
    Shows c area top src (k - pushBytes i) (exec i s) (v.exec c src i) := by
  cases i with
  | store base off r =>
      simp only [Scope.allows, Bool.and_eq_true, beq_iff_eq, decide_eq_true_eq,
        bne_iff_ne, ne_eq] at hi
      obtain ⟨⟨rfl, hoff⟩, hr⟩ := hi
      exact h.store ha hoff hr
  | load dst base off =>
      simp only [Scope.allows, Bool.and_eq_true, Bool.or_eq_true, beq_iff_eq,
        decide_eq_true_eq] at hi
      obtain ⟨hdst, ⟨rfl, hoff⟩ | ⟨⟨hne, rfl⟩, hoff⟩⟩ := hi
      · have hword : s.mem (addr (s.reg c.base) off) = v.low off := by
          rw [h.base]
          exact h.low off hoff
        have hview : v.exec c src (.load dst c.base off) = v.set dst (v.low off) := by
          simp [View.exec]
        rw [hview, ← hword]
        exact h.setReg hdst _
      · have hword : s.mem (addr (s.reg c.top) off) = src.high off := by
          rw [h.second (Nat.zero_lt_of_lt hoff)]
          exact h.high off hoff
        have hview : v.exec c src (.load dst c.top off) =
            v.set dst (src.high off) := by
          simp [View.exec, bne_iff_ne.mp hne]
        rw [hview, ← hword]
        exact h.setReg hdst _
  | push r =>
      simp only [Scope.allows, Bool.and_eq_true, beq_iff_eq, bne_iff_ne,
        ne_eq] at hi
      exact h.push ha hi.1 hk hk' (s.reg r)
  | readCr dst cr =>
      have hview : v.exec c src (.readCr dst cr) = v.set dst (s.creg cr) := by
        simp [View.exec, h.creg]
      rw [hview]
      exact h.setReg hi _
  | _ => cases hi

/-- Instructions of a block are no jumps. -/
theorem step_of_allows
    {i : Instr} (hi : c.allows i = true) (s : State) :
    step (0, s) i = (0, exec i s) := by
  cases i with
  | store | load | push | readCr => rfl
  | _ => cases hi

/-- Only words of the area below the stack pointer are written. -/
theorem Shows.step_outside
    (h : Shows c area top src k s v) {i : Instr} (hi : c.allows i = true)
    (hk : c.low + pushBytes i ≤ k) {b : BitVec 64}
    (hb : ∀ off, off < k → b ≠ addr area off) :
    (exec i s).mem b = s.mem b := by
  cases i with
  | store base off r =>
      simp only [Scope.allows, Bool.and_eq_true, beq_iff_eq,
        decide_eq_true_eq] at hi
      obtain ⟨⟨rfl, hoff⟩, -⟩ := hi
      have hne : b ≠ addr (s.reg c.base) off := by
        rw [h.base]
        exact hb off (by omega)
      simp [exec, hne]
  | push r =>
      have hk : c.low + 8 ≤ k := hk
      have hsp : s.reg .rsp - 8#64 = addr area (k - 8) := by
        rw [h.sp]
        exact addr_sub area (by omega)
      have hne : b ≠ s.reg .rsp - 8#64 := by
        rw [hsp]
        exact hb (k - 8) (by omega)
      simp [exec, hne]
  | load | readCr => rfl
  | _ => cases hi

/-- A run of a block: the machine follows the view, instruction by
instruction. -/
theorem Shows.run
    (ha : c.Apart area top) {is : List Instr}
    (his : ∀ i ∈ is, c.allows i = true) :
    ∀ {k : Nat} {s : State} {v : View}, Shows c area top src k s v →
      c.low + (is.map pushBytes).sum ≤ k → k ≤ 2 ^ 63 →
      ∃ s', is.foldl X86.step (0, s) = (0, s') ∧
        Shows c area top src (k - (is.map pushBytes).sum) s'
          (is.foldl (View.exec c src) v) ∧
        ∀ b, (∀ off, off < k → b ≠ addr area off) → s'.mem b = s.mem b := by
  induction is with
  | nil => exact fun h _ _ => ⟨_, rfl, h, fun _ _ => rfl⟩
  | cons i is ih =>
      intro k s v h hk hk'
      simp only [List.map_cons, List.sum_cons] at hk
      have hi := his i List.mem_cons_self
      have hone := h.step ha hi (by omega) hk'
      obtain ⟨s', hrun, hshows, hout⟩ :=
        ih (fun j hj => his j (List.mem_cons_of_mem _ hj)) hone (by omega) (by omega)
      refine ⟨s', ?_, ?_, ?_⟩
      · rw [List.foldl_cons, step_of_allows hi s, hrun]
      · simp only [List.map_cons, List.sum_cons, List.foldl_cons]
        rw [show k - (pushBytes i + (is.map pushBytes).sum) =
          k - pushBytes i - (is.map pushBytes).sum by omega]
        exact hshows
      · intro b hb
        rw [hout b fun off hoff => hb off (by omega)]
        exact h.step_outside hi (by omega) hb

end Steps

/-! ## Pushing -/

/-- Words pushed one after the other. -/
def State.pushWords (s : State) (ws : List (BitVec 64)) : State :=
  ws.foldl State.pushWord s

theorem pushWords_append (s : State) (ws ws' : List (BitVec 64)) :
    s.pushWords (ws ++ ws') = (s.pushWords ws).pushWords ws' :=
  List.foldl_append

/-- Pushing does not look at the flags. -/
theorem pushWords_withRflags
    (ws : List (BitVec 64)) (s : State) (f : BitVec 64) :
    State.pushWords { s with rflags := f } ws =
      { s.pushWords ws with rflags := f } := by
  induction ws generalizing s with
  | nil => rfl
  | cons w ws ih => exact ih (s.pushWord w)

/-- What a delivery through an interrupt gate leaves. -/
theorem deliver_eq
    (s : State) (fromUser : Bool) (rip cs ss : BitVec 64)
    (error : Option (BitVec 64)) {top : BitVec 64}
    (htop : (if fromUser then s.sys.sp0 else s.reg .rsp) &&& ~~~0xF#64 = top) :
    s.deliver fromUser rip cs ss error =
      { (s.set .rsp top).pushWords
          ([ss, s.reg .rsp, s.rflags, cs, rip] ++ error.toList) with
        rflags := s.rflags &&& ~~~gateMask } := by
  subst htop
  rfl

/-- The stack after some words have been pushed; the last one is on top. -/
structure Pushed
    (a : BitVec 64) (k : Nat) (ws : List (BitVec 64)) (s s' : State) : Prop where
  rsp : s'.reg .rsp = addr a (k - 8 * ws.length)
  reg : ∀ r, r ≠ .rsp → s'.reg r = s.reg r
  word : ∀ j w, ws.reverse[j]? = some w →
    s'.mem (addr a (k - 8 * ws.length + 8 * j)) = w
  mem : ∀ i, i < 2 ^ 63 → i < k - 8 * ws.length ∨ k ≤ i →
    s'.mem (addr a i) = s.mem (addr a i)
  outside : ∀ b, (∀ i, i < k → b ≠ addr a i) → s'.mem b = s.mem b
  creg : s'.creg = s.creg
  sys : s'.sys = s.sys
  rflags : s'.rflags = s.rflags

theorem pushed_pushWords
    {a : BitVec 64} (ws : List (BitVec 64)) {k : Nat} {s : State}
    (hsp : s.reg .rsp = addr a k) (hk : 8 * ws.length ≤ k) (hk' : k < 2 ^ 63) :
    Pushed a k ws s (s.pushWords ws) := by
  induction ws generalizing s k with
  | nil =>
      refine ⟨hsp, fun _ _ => rfl, ?_, fun _ _ _ => rfl, fun _ _ => rfl, rfl, rfl,
        rfl⟩
      intro j w hj
      simp at hj
  | cons w ws ih =>
      simp only [List.length_cons] at hk ⊢
      have hpush : s.reg .rsp - 8#64 = addr a (k - 8) := by
        rw [hsp]
        exact addr_sub a (by omega)
      have hsp₁ : (s.pushWord w).reg .rsp = addr a (k - 8) := by simp [hpush]
      have hrest := ih hsp₁ (by omega) (by omega)
      have hlen : k - 8 - 8 * ws.length = k - 8 * (ws.length + 1) := by omega
      refine ⟨?_, ?_, ?_, ?_, ?_, hrest.creg, hrest.sys, hrest.rflags⟩
      · rw [List.length_cons, ← hlen]
        exact hrest.rsp
      · intro r hr
        rw [State.pushWords, List.foldl_cons]
        rw [show (List.foldl State.pushWord (s.pushWord w) ws).reg r =
          (s.pushWord w).reg r from hrest.reg r hr]
        simp [hr]
      · intro j w' hj
        rw [List.length_cons, ← hlen]
        rw [List.reverse_cons] at hj
        rcases Nat.lt_or_ge j ws.length with hlt | hge
        · rw [List.getElem?_append_left (by simpa using hlt)] at hj
          exact hrest.word j w' hj
        · rw [List.getElem?_append_right (by simpa using hge)] at hj
          obtain ⟨hidx, rfl⟩ := List.getElem?_eq_some_iff.mp hj
          simp only [List.length_singleton, List.length_reverse] at hidx
          have hj₀ : j = ws.length := by omega
          subst hj₀
          -- the first word pushed lies above all others
          have haddr : k - 8 - 8 * ws.length + 8 * ws.length = k - 8 := by omega
          rw [haddr]
          have hkeep := hrest.mem (k - 8) (by omega) (.inr (Nat.le_refl _))
          simp only [State.pushWords, List.foldl_cons] at hkeep ⊢
          rw [hkeep]
          simp [hpush]
      · intro i hi hcase
        have hne : addr a i ≠ addr a (k - 8) := by
          intro heq
          have := (addr_inj (by omega) (by omega)).mp heq
          rw [List.length_cons] at hcase
          omega
        have hkeep := hrest.mem i hi (by rw [List.length_cons] at hcase; omega)
        simp only [State.pushWords, List.foldl_cons] at hkeep ⊢
        rw [hkeep]
        simp [hpush, hne]
      · intro b hb
        have hkeep := hrest.outside b fun i hi => hb i (by omega)
        have hne : b ≠ addr a (k - 8) := hb (k - 8) (by omega)
        simp only [State.pushWords, List.foldl_cons] at hkeep ⊢
        rw [hkeep]
        simp [hpush, hne]

/-- Pushed words are written below the stack pointer, each at its own address. -/
theorem mem_pushWords_of_ne
    {a b : BitVec 64} (ws : List (BitVec 64)) {k : Nat} {s : State}
    (hsp : s.reg .rsp = addr a k) (hk : 8 * ws.length ≤ k)
    (hb : ∀ j, j < ws.length → b ≠ addr a (k - 8 * (j + 1))) :
    (s.pushWords ws).mem b = s.mem b := by
  induction ws generalizing s k with
  | nil => rfl
  | cons w ws ih =>
      rw [List.length_cons] at hk hb
      have hpush : s.reg .rsp - 8#64 = addr a (k - 8) := by
        rw [hsp]
        exact addr_sub a (by omega)
      have hne : b ≠ addr a (k - 8) := hb 0 (Nat.succ_pos _)
      have hrest := ih (s := s.pushWord w) (k := k - 8) (by simp [hpush]) (by omega) (by
        intro j hj
        rw [show k - 8 - 8 * (j + 1) = k - 8 * (j + 1 + 1) by omega]
        exact hb (j + 1) (by omega))
      rw [State.pushWords, List.foldl_cons]
      refine hrest.trans ?_
      simp [hpush, hne]

/-- Words of the area are pushed on a stack above them. -/
theorem execs_pushMem
    {base : Reg} (hbase : base ≠ .rsp) {a : BitVec 64} {low : Nat}
    (offs : List Nat) (hoffs : ∀ off ∈ offs, off < low) {k : Nat} {s : State}
    (hb : s.reg base = a) (hsp : s.reg .rsp = addr a k)
    (hk : low + 8 * offs.length ≤ k) (hk' : k < 2 ^ 63) :
    execs (offs.map (.pushMem base)) s =
      s.pushWords (offs.map fun off => s.mem (addr a off)) := by
  induction offs generalizing s k with
  | nil => rfl
  | cons off offs ih =>
      simp only [List.length_cons] at hk
      have hpush : s.reg .rsp - 8#64 = addr a (k - 8) := by
        rw [hsp]
        exact addr_sub a (by omega)
      have hone : exec (.pushMem base off) s = s.pushWord (s.mem (addr a off)) := by
        simp [exec, hb]
      have hb₁ : (s.pushWord (s.mem (addr a off))).reg base = a := by
        simp [hbase, hb]
      have hsp₁ : (s.pushWord (s.mem (addr a off))).reg .rsp = addr a (k - 8) := by
        simp [hpush]
      have hsame : offs.map (fun o =>
            (s.pushWord (s.mem (addr a off))).mem (addr a o)) =
          offs.map fun o => s.mem (addr a o) := by
        apply List.map_congr_left
        intro o ho
        have hlt := hoffs o (List.mem_cons_of_mem _ ho)
        have hne : addr a o ≠ addr a (k - 8) := by
          intro heq
          have := (addr_inj (by omega) (by omega)).mp heq
          omega
        simp [hpush, hne]
      have hrest := ih (fun o ho => hoffs o (List.mem_cons_of_mem _ ho)) hb₁ hsp₁
        (by omega) (by omega)
      rw [hsame] at hrest
      simp only [execs, List.map_cons, List.foldl_cons, hone, State.pushWords] at hrest ⊢
      exact hrest

/-! ## Words of an area -/

/-- Words written at offsets in an area. -/
def State.writeWords (s : State) (a : BitVec 64) (ws : List (Nat × BitVec 64)) : State :=
  ws.foldl (fun s w => s.write (addr a w.1) w.2) s

/-- Only memory changes. -/
theorem writeWords_eq (s : State) (a : BitVec 64) (ws : List (Nat × BitVec 64)) :
    s.writeWords a ws = { s with mem := (s.writeWords a ws).mem } := by
  induction ws generalizing s with
  | nil => rfl
  | cons w ws ih => exact ih (s.write (addr a w.1) w.2)

theorem mem_writeWords_of_ne
    {s : State} {a b : BitVec 64} {ws : List (Nat × BitVec 64)}
    (hb : ∀ w ∈ ws, b ≠ addr a w.1) :
    (s.writeWords a ws).mem b = s.mem b := by
  induction ws generalizing s with
  | nil => rfl
  | cons w ws ih =>
      have hne := hb w List.mem_cons_self
      have hrest := ih (s := s.write (addr a w.1) w.2)
        fun w' hw' => hb w' (List.mem_cons_of_mem _ hw')
      rw [write_mem, Function.update_of_ne hne] at hrest
      exact hrest

/-- Each word is read back where no offset is written twice. -/
theorem mem_writeWords
    {s : State} {a : BitVec 64} {ws : List (Nat × BitVec 64)}
    (hws : (ws.map Prod.fst).Nodup) (hlt : ∀ w ∈ ws, w.1 < 2 ^ 64)
    {w : Nat × BitVec 64} (hw : w ∈ ws) :
    (s.writeWords a ws).mem (addr a w.1) = w.2 := by
  induction ws generalizing s with
  | nil => cases hw
  | cons w' ws ih =>
      rw [List.map_cons, List.nodup_cons] at hws
      rcases List.mem_cons.mp hw with rfl | hw
      · have hkeep : ((s.write (addr a w.1) w.2).writeWords a ws).mem (addr a w.1) =
            (s.write (addr a w.1) w.2).mem (addr a w.1) := by
          refine mem_writeWords_of_ne ?_
          intro w' hw' heq
          have hsame := (addr_inj (hlt w List.mem_cons_self)
            (hlt w' (List.mem_cons_of_mem _ hw'))).mp heq
          exact hws.1 (hsame ▸ List.mem_map_of_mem hw')
        rw [write_mem, Function.update_self] at hkeep
        exact hkeep
      · exact ih hws.2 (fun v hv => hlt v (List.mem_cons_of_mem _ hv)) hw

end X86
end Foundation
end KkmModule
