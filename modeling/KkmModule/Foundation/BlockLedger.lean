import KkmModule.Foundation.BlockOwnership

/-!
# A ledger of blocks

Two states of a pool, an earlier and a later one, tell which blocks have been
handed out and which have been given back in between.  A component that puts
every block it gets into a place of its own keeps a `BlockLedger`: what has been
handed out is what its places hold.  Once it gives back the contents of its
places, every block handed out since has been given back once.
-/

namespace KkmModule
namespace Foundation

namespace BlockPool

variable {p₀ p : BlockPool}

/-- The blocks given back since the pool was `p₀`, last first. -/
def freedSince (p₀ p : BlockPool) : List Block :=
  p.freed.take (p.freed.length - p₀.freed.length)

/-- The block has been handed out since the pool was `p₀`; it is live or has
been given back. -/
def HandedOut (p₀ p : BlockPool) (b : Block) : Prop :=
  p₀.next ≤ b.head ∧ (b ∈ p.live ∨ b ∈ freedSince p₀ p)

/-- What has been handed out since the pool was `p₀` has been given back,
once. -/
def GivenBackOnce (p₀ p : BlockPool) : Prop :=
  ∀ b, HandedOut p₀ p b → b ∉ p.live ∧ (freedSince p₀ p).count b = 1

theorem freedSince_of_append {log : List Block} (h : p.freed = log ++ p₀.freed) :
    freedSince p₀ p = log := by
  rw [freedSince, h, List.length_append, Nat.add_sub_cancel, List.take_left']
  rfl

@[simp] theorem giveAll_append (p : BlockPool) (bs cs : List Block) :
    p.giveAll (bs ++ cs) = (p.giveAll bs).giveAll cs :=
  List.foldl_append

@[simp] theorem giveAll_freed (p : BlockPool) (bs : List Block) :
    (p.giveAll bs).freed = bs.reverse ++ p.freed := by
  induction bs generalizing p with
  | nil => rfl
  | cons b bs ih => rw [giveAll_cons, ih, give_freed]; simp

theorem giveAll_next (p : BlockPool) (bs : List Block) :
    (p.giveAll bs).next = p.next := by
  induction bs generalizing p with
  | nil => rfl
  | cons b bs ih => rw [giveAll_cons, ih, give_next]

@[simp] theorem freedSince_giveAll (p : BlockPool) (bs : List Block) :
    freedSince p (p.giveAll bs) = bs.reverse :=
  freedSince_of_append (giveAll_freed p bs)

theorem doubleFreed_length_le_give (p : BlockPool) (b : Block) :
    p.doubleFreed.length ≤ (p.give b).doubleFreed.length := by
  unfold give
  split
  · exact le_refl _
  · exact Nat.le_succ _

theorem doubleFreed_length_le_giveAll (p : BlockPool) (bs : List Block) :
    p.doubleFreed.length ≤ (p.giveAll bs).doubleFreed.length := by
  induction bs generalizing p with
  | nil => exact le_refl _
  | cons b bs ih =>
      rw [giveAll_cons]
      exact le_trans (p.doubleFreed_length_le_give b) (ih _)

/-- Giving back a block that is not live leaves a trace, whatever follows. -/
theorem giveAll_cons_of_notMem
    {b : Block} (hb : b ∉ p.live) (bs : List Block) :
    (p.giveAll (b :: bs)).doubleFreed ≠ p.doubleFreed := by
  intro h
  have hlen := (p.give b).doubleFreed_length_le_giveAll bs
  rw [← giveAll_cons, h] at hlen
  have hgive : (p.give b).doubleFreed.length = p.doubleFreed.length + 1 := by
    simp [give, hb]
  omega

/-- The frames of a live block have been handed out. -/
theorem head_lt_next {b : Block} (hb : b ∈ p.live) : b.head < p.next := by
  have hstop := p.bounded b hb
  have hpos : 0 < 2 ^ b.order := Nat.two_pow_pos b.order
  rw [Block.stop] at hstop
  omega

end BlockPool

open BlockPool

universe u

variable {ι : Type u} {p₀ p : BlockPool} {mine : ι → Option Block}

/-- The blocks in the given places, in order. -/
def blocksIn (mine : ι → Option Block) (places : List ι) : List Block :=
  places.flatMap fun i => (mine i).toList

theorem mem_blocksIn {places : List ι} {b : Block} :
    b ∈ blocksIn mine places ↔ ∃ i ∈ places, mine i = some b := by
  simp [blocksIn]

theorem blocksIn_nodup
    {places : List ι} (hplaces : places.Nodup)
    (hinj : ∀ i j b, mine i = some b → mine j = some b → i = j) :
    (blocksIn mine places).Nodup := by
  induction places with
  | nil => exact List.nodup_nil
  | cons i places ih =>
      obtain ⟨hi, hplaces⟩ := List.nodup_cons.mp hplaces
      rw [blocksIn, List.flatMap_cons]
      refine List.Nodup.append ?_ (ih hplaces) ?_
      · cases mine i with
        | none => exact List.nodup_nil
        | some b => exact List.nodup_singleton b
      · intro b hb hrest
        obtain ⟨j, hj, hmine⟩ := mem_blocksIn.mp hrest
        have hsame := hinj i j b (by simpa using hb) hmine
        exact hi (hsame ▸ hj)

/-- Everything handed out since the pool was `p₀` lies in the places; what has
been given back since is older. -/
structure BlockLedger (p₀ p : BlockPool) (mine : ι → Option Block) : Prop where
  next_le : p₀.next ≤ p.next
  live_iff : ∀ b, p₀.next ≤ b.head → (b ∈ p.live ↔ ∃ i, mine i = some b)
  fresh : ∀ i b, mine i = some b → p₀.next ≤ b.head
  inj : ∀ i j b, mine i = some b → mine j = some b → i = j
  log : ∃ log, p.freed = log ++ p₀.freed ∧ ∀ b ∈ log, b.head < p₀.next

theorem BlockLedger.start (p : BlockPool) : BlockLedger p p fun _ : ι => none := by
  constructor
  · exact le_refl _
  · intro b hb
    constructor
    · intro hlive
      exact absurd (head_lt_next hlive) (not_lt.mpr hb)
    · rintro ⟨i, hi⟩
      cases hi
  · intro i b hi
    cases hi
  · intro i j b hi
    cases hi
  · exact ⟨[], rfl, by simp⟩

/-- What is live and in a place. -/
theorem BlockLedger.live (h : BlockLedger p₀ p mine) {i : ι} {b : Block} (hi : mine i = some b) :
    b ∈ p.live :=
  (h.live_iff b (h.fresh i b hi)).mpr ⟨i, hi⟩

/-- A fresh block goes into an empty place. -/
theorem BlockLedger.take [DecidableEq ι]
    (h : BlockLedger p₀ p mine) {i : ι} (hi : mine i = none) (skip order : Nat) :
    BlockLedger p₀ (p.take skip order)
      (Function.update mine i (some (p.offer skip order))) := by
  have hnot : ∀ j, mine j ≠ some (p.offer skip order) :=
    fun j hj => p.offer_notMem_live skip order (h.live hj)
  have hold : ∀ j b, Function.update mine i (some (p.offer skip order)) j = some b ↔
      (j = i ∧ b = p.offer skip order) ∨ mine j = some b := by
    intro j b
    by_cases hji : j = i
    · subst hji
      simp [hi, eq_comm]
    · simp [hji]
  have hhead : p₀.next ≤ (p.offer skip order).head :=
    le_trans h.next_le (Nat.le_add_right _ _)
  constructor
  · have hstop : (p.offer skip order).head ≤ (p.take skip order).next :=
      Nat.le_add_right _ _
    exact le_trans hhead hstop
  · intro b hb
    rw [take_live, Finset.mem_insert, h.live_iff b hb]
    constructor
    · rintro (rfl | ⟨j, hj⟩)
      · exact ⟨i, by simp⟩
      · exact ⟨j, (hold j b).mpr (Or.inr hj)⟩
    · rintro ⟨j, hj⟩
      rcases (hold j b).mp hj with ⟨-, rfl⟩ | hj
      · left
        rfl
      · right
        exact ⟨j, hj⟩
  · intro j b hj
    rcases (hold j b).mp hj with ⟨-, rfl⟩ | hj
    · exact hhead
    · exact h.fresh j b hj
  · intro j k b hj hk
    rcases (hold j b).mp hj with ⟨rfl, rfl⟩ | hj
    · rcases (hold k _).mp hk with ⟨rfl, -⟩ | hk
      · rfl
      · exact absurd hk (hnot k)
    · rcases (hold k b).mp hk with ⟨-, rfl⟩ | hk
      · exact absurd hj (hnot j)
      · exact h.inj j k b hj hk
  · exact h.log

/-- Blocks from before may be given back. -/
theorem BlockLedger.giveOld
    (h : BlockLedger p₀ p mine) {bs : List Block} (hbs : ∀ b ∈ bs, b.head < p₀.next) :
    BlockLedger p₀ (p.giveAll bs) mine := by
  obtain ⟨log, hlog, hbefore⟩ := h.log
  constructor
  · rw [giveAll_next]
    exact h.next_le
  · intro b hb
    have hnot : b ∉ bs := fun hmem => absurd (hbs b hmem) (not_lt.mpr hb)
    rw [mem_giveAll, h.live_iff b hb]
    simp [hnot]
  · exact h.fresh
  · exact h.inj
  · refine ⟨bs.reverse ++ log, ?_, ?_⟩
    · rw [giveAll_freed, hlog, List.append_assoc]
    · intro b hb
      rcases List.mem_append.mp hb with hb | hb
      · exact hbs b (List.mem_reverse.mp hb)
      · exact hbefore b hb

/-- The ledger tells what has been handed out. -/
theorem BlockLedger.handedOut_iff (h : BlockLedger p₀ p mine) {b : Block} :
    HandedOut p₀ p b ↔ ∃ i, mine i = some b := by
  obtain ⟨log, hlog, hbefore⟩ := h.log
  rw [HandedOut, freedSince_of_append hlog]
  constructor
  · rintro ⟨hhead, hb | hb⟩
    · exact (h.live_iff b hhead).mp hb
    · exact absurd (hbefore b hb) (not_lt.mpr hhead)
  · rintro ⟨i, hi⟩
    exact ⟨h.fresh i b hi, Or.inl (h.live hi)⟩

section GiveBack

variable {places : List ι}

/-- A component that gives back all its places has given back, once, all it
got. -/
theorem BlockLedger.givenBackOnce
    (h : BlockLedger p₀ p mine) (hplaces : places.Nodup) (hall : ∀ i, i ∈ places) :
    GivenBackOnce p₀ (p.giveAll (blocksIn mine places)) := by
  obtain ⟨log, hlog, hbefore⟩ := h.log
  have hfreed : freedSince p₀ (p.giveAll (blocksIn mine places)) =
      (blocksIn mine places).reverse ++ log := by
    apply freedSince_of_append
    rw [giveAll_freed, hlog, List.append_assoc]
  rintro b ⟨hhead, hb⟩
  have hmem : b ∈ blocksIn mine places := by
    rw [mem_giveAll, hfreed, List.mem_append, List.mem_reverse] at hb
    rcases hb with ⟨hlive, -⟩ | hb | hb
    · obtain ⟨i, hi⟩ := (h.live_iff b hhead).mp hlive
      exact mem_blocksIn.mpr ⟨i, hall i, hi⟩
    · exact hb
    · exact absurd (hbefore b hb) (not_lt.mpr hhead)
  refine ⟨fun hlive => (mem_giveAll.mp hlive).2 hmem, ?_⟩
  have hlog0 : log.count b = 0 := by
    rw [List.count_eq_zero]
    exact fun hb => absurd (hbefore b hb) (not_lt.mpr hhead)
  rw [hfreed, List.count_append, List.count_reverse, hlog0,
    List.count_eq_one_of_mem (blocksIn_nodup hplaces h.inj) hmem]

/-- None of it had been given back before. -/
theorem BlockLedger.giveBack_clean
    (h : BlockLedger p₀ p mine) (hplaces : places.Nodup) :
    (p.giveAll (blocksIn mine places)).doubleFreed = p.doubleFreed := by
  refine giveAll_doubleFreed ?_ (blocksIn_nodup hplaces h.inj)
  intro b hb
  obtain ⟨i, -, hi⟩ := mem_blocksIn.mp hb
  exact h.live hi

end GiveBack

end Foundation
end KkmModule
