import KkmModule.Foundation.BlockPool
import KkmModule.Foundation.PageWalk

/-!
# Frames and the tables in them

A block of the pool is a range of page frames, a table is the page at a frame.
While no frame belongs to two live blocks, whoever writes only into frames of
its own blocks leaves the tables in all other blocks as they are.  Allocation
and release keep the blocks apart.
-/

namespace KkmModule
namespace Foundation

def Block.Has (b : Block) (frame : Nat) : Prop := b.head ≤ frame ∧ frame < b.stop

instance (b : Block) (frame : Nat) : Decidable (b.Has frame) :=
  inferInstanceAs (Decidable (_ ∧ _))

namespace BlockPool

variable {p p' : BlockPool} {frame : Nat}

/-- The frame belongs to a live block. -/
def Allocated (p : BlockPool) (frame : Nat) : Prop := ∃ b ∈ p.live, b.Has frame

instance (p : BlockPool) (frame : Nat) : Decidable (p.Allocated frame) :=
  inferInstanceAs (Decidable (∃ b ∈ p.live, b.Has frame))

/-- No frame belongs to two live blocks. -/
def Apart (p : BlockPool) : Prop :=
  ∀ b ∈ p.live, ∀ c ∈ p.live, ∀ frame, b.Has frame → c.Has frame → b = c

theorem Allocated.lt_next (h : p.Allocated frame) : frame < p.next := by
  obtain ⟨b, hb, -, hstop⟩ := h
  exact Nat.lt_of_lt_of_le hstop (p.bounded b hb)

theorem Allocated.mono (hlive : p.live ⊆ p'.live) (h : p.Allocated frame) :
    p'.Allocated frame := by
  obtain ⟨b, hb, hframe⟩ := h
  exact ⟨b, hlive hb, hframe⟩

theorem allocated_take (skip order : Nat) :
    (p.take skip order).Allocated frame ↔
      (p.offer skip order).Has frame ∨ p.Allocated frame := by
  simp [Allocated]

/-- What is handed out lies above all live blocks. -/
theorem Apart.take (h : p.Apart) (skip order : Nat) : (p.take skip order).Apart := by
  have habove : ∀ b ∈ p.live, ∀ frame, b.Has frame →
      ¬ (p.offer skip order).Has frame := by
    intro b hb frame hframe hnew
    have hlt := Allocated.lt_next ⟨b, hb, hframe⟩
    have hge : p.next + skip ≤ frame := hnew.1
    omega
  intro b hb c hc frame hbf hcf
  rw [take_live, Finset.mem_insert] at hb hc
  rcases hb with rfl | hb
  · rcases hc with rfl | hc
    · rfl
    · exact absurd hbf (habove c hc frame hcf)
  · rcases hc with rfl | hc
    · exact absurd hcf (habove b hb frame hbf)
    · exact h b hb c hc frame hbf hcf

theorem Apart.mono (h : p.Apart) (hlive : p'.live ⊆ p.live) : p'.Apart :=
  fun b hb c hc => h b (hlive hb) c (hlive hc)

theorem apart_empty (reserved : Nat) : (empty reserved).Apart := by
  intro b hb
  simp [empty] at hb

end BlockPool

/-! ## Tables in frames -/

/-- The tables in the given frames have the same entries in both memories. -/
def SameOn (frames : Set Nat) (m m' : Memory) : Prop :=
  ∀ frame ∈ frames, ∀ idx < 512,
    m'.entry (frame * pageSize) idx = m.entry (frame * pageSize) idx

section SameOn

variable {frames frames' : Set Nat} {m m' m'' : Memory}

theorem SameOn.refl (frames : Set Nat) (m : Memory) : SameOn frames m m :=
  fun _ _ _ _ => rfl

theorem SameOn.trans (h : SameOn frames m m') (h' : SameOn frames m' m'') :
    SameOn frames m m'' := by
  intro frame hframe idx hidx
  rw [h' frame hframe idx hidx, h frame hframe idx hidx]

theorem SameOn.mono (h : SameOn frames m m') (hsub : frames' ⊆ frames) :
    SameOn frames' m m' :=
  fun frame hframe => h frame (hsub hframe)

/-- A store into one table leaves the others. -/
theorem sameOn_setEntry
    {frame idx : Nat} (hframe : frame ∉ frames) (hidx : idx < 512) (e : BitVec 64) :
    SameOn frames m (m.setEntry (frame * pageSize) idx e) := by
  intro other hother i hi
  have hne : other * pageSize ≠ frame * pageSize := by
    intro heq
    obtain rfl := Nat.eq_of_mul_eq_mul_right (by decide) heq
    exact hframe hother
  exact m.entry_setEntry_of_table_ne e (Nat.dvd_mul_left _ _)
    (Nat.dvd_mul_left _ _) hne hi hidx

end SameOn

end Foundation
end KkmModule
