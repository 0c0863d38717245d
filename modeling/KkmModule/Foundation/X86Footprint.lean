import KkmModule.Foundation.X86Machine
import Mathlib.Data.Option.NAry

/-!
# Where code writes

An analysis of code that does not run it.  Of each register it is known, or not
known, into which of several areas it points and how far; from that follow the
words that the code may write, on every way that its jumps leave open.

`mem_of_footprint` says that a run writes no other word.
-/

namespace KkmModule
namespace Foundation
namespace X86

/-! ## Areas -/

/-- Areas of memory by their names, each aligned to a number of bits. -/
structure Areas {β : Type} (bits : β → Nat) where
  base : β → BitVec 64
  bits_le : ∀ b, bits b ≤ 64
  aligned : ∀ b, 2 ^ bits b ∣ (base b).toNat

/-- An area and an offset from its address. -/
structure Place (β : Type) where
  area : β
  off : Nat
deriving DecidableEq, Repr

/-- The address of a place. -/
def Areas.at {β : Type} {bits : β → Nat} (A : Areas bits) (p : Place β) : BitVec 64 :=
  addr (A.base p.area) p.off

def Place.up {β : Type} (n : Nat) (p : Place β) : Place β :=
  { p with off := p.off + n }

/-- The place eight bytes below, where that is still in the area. -/
def Place.pushed {β : Type} (p : Place β) : Option (Place β) :=
  if 8 ≤ p.off then some { p with off := p.off - 8 } else none

/-- The beginning of the area, where the mask clears the bits of the offset. -/
def Place.masked {β : Type} (bits : β → Nat) (mask : BitVec 64) (p : Place β) :
    Option (Place β) :=
  if mask = ~~~BitVec.ofNat 64 (2 ^ bits p.area - 1) ∧ p.off < 2 ^ bits p.area then
    some { p with off := 0 }
  else none

section Places

variable {β : Type} {bits : β → Nat} (A : Areas bits)

theorem at_up (n : Nat) (p : Place β) :
    A.at (p.up n) = A.at p + BitVec.ofNat 64 n :=
  (addr_add (A.base p.area) p.off n).symm

theorem at_pushed {p q : Place β} (h : p.pushed = some q) :
    A.at q = A.at p - 8#64 := by
  unfold Place.pushed at h
  split at h
  · rename_i hle
    obtain rfl := Option.some.inj h
    exact (addr_sub (A.base p.area) hle).symm
  · cases h

theorem at_masked
    {mask : BitVec 64} {p q : Place β} (h : p.masked bits mask = some q) :
    A.at q = A.at p &&& mask := by
  unfold Place.masked at h
  split at h
  · rename_i hmask
    obtain rfl := Option.some.inj h
    obtain ⟨rfl, hoff⟩ := hmask
    have hbase := addr_and_areaMask (A.bits_le p.area) (A.aligned p.area) hoff
    exact (addr_zero (A.base p.area)).trans hbase.symm
  · cases h

end Places

/-! ## The analysis -/

/-- What is known of the registers. -/
structure Known (β : Type) where
  reg : Reg → Option (Place β)

def Known.set {β : Type} (k : Known β) (r : Reg) (p : Option (Place β)) : Known β :=
  ⟨Function.update k.reg r p⟩

@[simp] theorem Known.set_reg {β : Type} (k : Known β) (r : Reg) (p : Option (Place β)) :
    (k.set r p).reg = Function.update k.reg r p := rfl

/-- The word that the next push writes. -/
def Known.top {β : Type} (k : Known β) : Option (Place β) :=
  (k.reg .rsp).bind Place.pushed

/-- What is known after an instruction. -/
def Known.exec {β : Type} (bits : β → Nat) (k : Known β) : Instr → Known β
  | .mov dst src => k.set dst (k.reg src)
  | .movImm dst _ => k.set dst none
  | .load dst _ _ => k.set dst none
  | .push _ => k.set .rsp k.top
  | .pushMem _ _ => k.set .rsp k.top
  | .pushImm _ => k.set .rsp k.top
  | .pop dst => (k.set .rsp ((k.reg .rsp).map (Place.up 8))).set dst none
  | .add dst imm => k.set dst ((k.reg dst).map (Place.up imm.toNat))
  | .and dst imm => k.set dst ((k.reg dst).bind (Place.masked bits imm))
  | .xor dst _ => k.set dst none
  | .readCr dst _ => k.set dst none
  | .ret => k.set .rsp ((k.reg .rsp).map (Place.up 8))
  | _ => k

/-- The words an instruction writes, where that is known. -/
def Known.writes {β : Type} (k : Known β) : Instr → Option (List (Place β))
  | .store base off _ => (k.reg base).map fun p => [p.up off]
  | .push _ => k.top.map fun p => [p]
  | .pushMem _ _ => k.top.map fun p => [p]
  | .pushImm _ => k.top.map fun p => [p]
  | _ => some []

/-- The instructions a jump may skip. -/
def Instr.skips : Instr → Option Nat
  | .jne n => some n
  | .je n => some n
  | _ => none

/-- The words that code may write, the first `m` instructions being skipped. -/
def footprint {β : Type} (bits : β → Nat) :
    List Instr → Nat → Known β → Option (List (Place β))
  | [], _, _ => some []
  | _ :: is, m + 1, k => footprint bits is m k
  | i :: is, 0, k =>
      match i.skips with
      | some n => Option.map₂ (· ++ ·) (footprint bits is 0 k) (footprint bits is n k)
      | none => Option.map₂ (· ++ ·) (k.writes i) (footprint bits is 0 (k.exec bits i))

/-! ## Soundness -/

/-- What is known of the registers is true. -/
def Known.Holds {β : Type} {bits : β → Nat} (A : Areas bits) (k : Known β) (s : State) :
    Prop :=
  ∀ r p, k.reg r = some p → s.reg r = A.at p

section Soundness

variable {β : Type} {bits : β → Nat} {A : Areas bits} {k : Known β} {s : State}

theorem Known.Holds.top (h : k.Holds A s) {p : Place β} (hp : k.top = some p) :
    s.reg .rsp - 8#64 = A.at p := by
  obtain ⟨q, hq, hpushed⟩ := Option.bind_eq_some_iff.mp hp
  rw [at_pushed A hpushed, h .rsp q hq]

/-- A register gets a value of which something is known. -/
theorem Known.Holds.set
    (h : k.Holds A s) {r : Reg} {v : BitVec 64} {known : Option (Place β)}
    (hv : ∀ p, known = some p → v = A.at p) :
    (k.set r known).Holds A (s.set r v) := by
  intro q p hq
  by_cases hqr : q = r
  · subst hqr
    rw [Known.set_reg, Function.update_self] at hq
    rw [X86.set_reg, Function.update_self]
    exact hv p hq
  · rw [Known.set_reg, Function.update_of_ne hqr] at hq
    rw [X86.set_reg, Function.update_of_ne hqr]
    exact h q p hq

/-- A register gets a value of which nothing is known. -/
theorem Known.Holds.forget (h : k.Holds A s) (r : Reg) (v : BitVec 64) :
    (k.set r none).Holds A (s.set r v) := by
  refine h.set ?_
  rintro p ⟨⟩

/-- The registers are all that is known. -/
theorem Known.Holds.congr (h : k.Holds A s) {s' : State} (hreg : s'.reg = s.reg) :
    k.Holds A s' := by
  intro r p hp
  rw [hreg]
  exact h r p hp

theorem Known.Holds.push (h : k.Holds A s) (v : BitVec 64) :
    (k.set .rsp k.top).Holds A (s.pushWord v) := by
  have hwrite : k.Holds A (s.write (s.reg .rsp - 8#64) v) := h.congr rfl
  exact hwrite.set fun _ hp => h.top hp

theorem Known.Holds.pop (h : k.Holds A s) :
    (k.set .rsp ((k.reg .rsp).map (Place.up 8))).Holds A
      (s.set .rsp (s.reg .rsp + 8#64)) := by
  refine h.set fun p hp => ?_
  obtain ⟨q, hq, rfl⟩ := Option.map_eq_some_iff.mp hp
  rw [at_up, h .rsp q hq]

/-- One instruction: what is known after it is true. -/
theorem Known.Holds.exec (h : k.Holds A s) (i : Instr) :
    (k.exec bits i).Holds A (X86.exec i s) := by
  cases i with
  | mov dst src => exact h.set (h src)
  | movImm dst imm => exact h.forget dst imm
  | load dst base off => exact h.forget dst _
  | push src => exact h.push _
  | pushMem base off => exact h.push _
  | pushImm imm => exact h.push _
  | pop dst => exact h.pop.forget dst _
  | ret => exact h.pop
  | add dst imm =>
      have hsum : ∀ p, (k.reg dst).map (Place.up imm.toNat) = some p →
          s.reg dst + imm = A.at p := by
        intro p hp
        obtain ⟨q, hq, rfl⟩ := Option.map_eq_some_iff.mp hp
        rw [at_up, h dst q hq, BitVec.ofNat_toNat, BitVec.setWidth_eq]
      exact (h.set hsum).congr rfl
  | and dst imm =>
      have hbase : ∀ p, (k.reg dst).bind (Place.masked bits imm) = some p →
          s.reg dst &&& imm = A.at p := by
        intro p hp
        obtain ⟨q, hq, hmasked⟩ := Option.bind_eq_some_iff.mp hp
        rw [at_masked A hmasked, h dst q hq]
      exact (h.set hbase).congr rfl
  | xor dst imm =>
      exact (h.forget dst (s.reg dst ^^^ imm)).congr rfl
  | readCr dst src => exact h.forget dst _
  | store | cmp | testByte | writeCr | jne | je | clc | swapgs => exact h.congr rfl

/-- One instruction writes its words only. -/
theorem Known.Holds.exec_mem
    (h : k.Holds A s) {i : Instr} {ws : List (Place β)} (hws : k.writes i = some ws)
    {b : BitVec 64} (hb : ∀ p ∈ ws, b ≠ A.at p) :
    (X86.exec i s).mem b = s.mem b := by
  have hpush : ∀ v, k.top.map (fun p => [p]) = some ws →
      (s.pushWord v).mem b = s.mem b := by
    intro v hv
    obtain ⟨p, hp, rfl⟩ := Option.map_eq_some_iff.mp hv
    have hne : b ≠ s.reg .rsp - 8#64 := by
      rw [h.top hp]
      exact hb p List.mem_cons_self
    rw [pushWord_mem, Function.update_of_ne hne]
  cases i with
  | store base off src =>
      obtain ⟨p, hp, rfl⟩ := Option.map_eq_some_iff.mp hws
      have hne : b ≠ addr (s.reg base) off := by
        rw [h base p hp, addr, ← at_up]
        exact hb (p.up off) List.mem_cons_self
      exact Function.update_of_ne hne _ _
  | push src => exact hpush _ hws
  | pushMem base off => exact hpush _ hws
  | pushImm imm => exact hpush _ hws
  | _ => rfl

theorem step_of_skips_none {i : Instr} (hi : i.skips = none) (s : State) :
    step (0, s) i = (0, X86.exec i s) := by
  cases i with
  | jne n => cases hi
  | je n => cases hi
  | _ => rfl

theorem step_of_skips {i : Instr} {n : Nat} (hi : i.skips = some n) (s : State) :
    step (0, s) i = (0, s) ∨ step (0, s) i = (n, s) := by
  cases i with
  | jne m =>
      obtain rfl := Option.some.inj hi
      simp only [step]
      split
      · exact .inl rfl
      · exact .inr rfl
  | je m =>
      obtain rfl := Option.some.inj hi
      simp only [step]
      split
      · exact .inr rfl
      · exact .inl rfl
  | _ => cases hi

/-- A run writes the words of the footprint only, whichever way it takes. -/
theorem mem_of_footprint
    {is : List Instr} {m : Nat} {ws : List (Place β)}
    (hws : footprint bits is m k = some ws) (h : k.Holds A s)
    {b : BitVec 64} (hb : ∀ p ∈ ws, b ≠ A.at p) :
    (is.foldl step (m, s)).2.mem b = s.mem b := by
  induction is generalizing m k s ws with
  | nil => rfl
  | cons i is ih =>
      rw [List.foldl_cons]
      cases m with
      | succ m => exact ih hws h hb
      | zero =>
          rw [footprint] at hws
          cases hskips : i.skips with
          | some n =>
              rw [hskips] at hws
              obtain ⟨here, there, hhere, hthere, rfl⟩ := Option.mem_map₂_iff.mp hws
              rcases step_of_skips hskips s with hstep | hstep
              · rw [hstep]
                exact ih hhere h fun p hp => hb p (List.mem_append_left there hp)
              · rw [hstep]
                exact ih hthere h fun p hp => hb p (List.mem_append_right here hp)
          | none =>
              rw [hskips] at hws
              obtain ⟨one, rest, hone, hrest, rfl⟩ := Option.mem_map₂_iff.mp hws
              rw [step_of_skips_none hskips s]
              rw [ih hrest (h.exec i) fun p hp => hb p (List.mem_append_right one hp)]
              exact h.exec_mem hone fun p hp => hb p (List.mem_append_left rest hp)

/-- The words that code may write are known, and they are among some. -/
def writesWithin {β : Type} (bits : β → Nat) (is : List Instr) (k : Known β)
    (among : Place β → Bool) : Bool :=
  match footprint bits is 0 k with
  | some ws => ws.all among
  | none => false

theorem mem_of_writesWithin
    {is : List Instr} {among : Place β → Bool}
    (hwithin : writesWithin bits is k among = true) (h : k.Holds A s)
    {b : BitVec 64} (hb : ∀ p, among p = true → b ≠ A.at p) :
    (run is s).mem b = s.mem b := by
  unfold writesWithin at hwithin
  split at hwithin
  · rename_i ws hws
    exact mem_of_footprint hws h fun p hp => hb p (List.all_eq_true.mp hwithin p hp)
  · cases hwithin

end Soundness

end X86
end Foundation
end KkmModule
