import KkmModule.Driver.KernelHalf
import KkmModule.Driver.TableChain
import KkmModule.Foundation.FrameOwnership

/-!
# What the guest tables of a kontainer hold

Guest kernel and guest payload have a top-level table each.  Both are filled by
`kkm_mmu_copy_kernel_pgd` when the kontainer is created and by `kkm_mmu_sync`
afterwards, so their entries are a function of three things: the native entries
of the kernel half at creation, the native entry of the last synchronisation,
and the two private hierarchies.  `GuestContents` records the first two.

`HoldsContents` ties the record to the entries in memory, for both paging modes;
what a table maps then follows without looking at entries again.
-/

namespace KkmModule
namespace Driver

open Foundation

/-- The native entries that have gone into both guest tables. -/
structure GuestContents where
  /-- native top-level entries at creation -/
  native : Nat → BitVec 64
  /-- entries of the native P4D page below the last of them -/
  nativeP4d : Nat → BitVec 64
  /-- the entry both windows show, once there is one -/
  window : Option (BitVec 64)

/-! ## Entries -/

/-- Entry `idx` of the user half. -/
def userEntry (guest : KkmMmuPml4e) (window : Option (BitVec 64)) (idx : Nat) :
    BitVec 64 :=
  match window with
  | none => 0#64
  | some e =>
      if idx = kkmPgdGuestPayloadBottomEntry ∨ idx = kkmPgdGuestPayloadTopEntry then e
      else if idx = 1 then guest.pgdEntry
      else 0#64

/-- Entries of a table or P4D page with the kx hierarchy in its slot. -/
def withSlot (kx : KkmMmuPml4e) (native : Nat → BitVec 64) (idx : Nat) : BitVec 64 :=
  if idx = kkmKxPgdIndex then kx.pgdEntry else native idx

/-- The top-level entry that links the low P4D table in. -/
def linkEntry (window : Option (BitVec 64)) (lowP4d : Nat) : BitVec 64 :=
  if window = none then 0#64 else kkmMmuMakeEntry lowP4d tableFlags

/-- Entry `idx` of a top-level table with the given P4D pages. -/
def GuestContents.topEntry
    (cfg : KkmConfig) (kx guest : KkmMmuPml4e) (c : GuestContents)
    (p4d lowP4d idx : Nat) : BitVec 64 :=
  if cfg.l5 then
    if idx = kkmPgdLowP4dEntry then linkEntry c.window lowP4d
    else if idx < kernelStartIndex then 0#64
    else if idx < kkmKxPgdP4dIndex then c.native idx
    else kkmMmuMakeEntry p4d tableFlags
  else if idx < kernelStartIndex then userEntry guest c.window idx
  else withSlot kx c.native idx

/-- The table at `table`, with its P4D pages where the mode has them, holds the
contents. -/
structure HoldsContents
    (cfg : KkmConfig) (kx guest : KkmMmuPml4e) (c : GuestContents)
    (table p4d lowP4d : Nat) (m : Memory) : Prop where
  top : ∀ idx < 512, m.entry table idx = c.topEntry cfg kx guest p4d lowP4d idx
  p4d : cfg.l5 = true → ∀ idx < 512, m.entry p4d idx = withSlot kx c.nativeP4d idx
  lowP4d : cfg.l5 = true → ∀ idx < 512, m.entry lowP4d idx = userEntry guest c.window idx

theorem HoldsContents.congr
    {cfg : KkmConfig} {kx guest : KkmMmuPml4e} {c : GuestContents}
    {table p4d lowP4d : Nat} {m m' : Memory}
    (h : HoldsContents cfg kx guest c table p4d lowP4d m)
    (htop : ∀ idx < 512, m'.entry table idx = m.entry table idx)
    (hp4d : cfg.l5 = true → ∀ idx < 512, m'.entry p4d idx = m.entry p4d idx)
    (hlow : cfg.l5 = true → ∀ idx < 512, m'.entry lowP4d idx = m.entry lowP4d idx) :
    HoldsContents cfg kx guest c table p4d lowP4d m' where
  top := by
    intro idx hidx
    rw [htop idx hidx]
    exact h.top idx hidx
  p4d := by
    intro hl5 idx hidx
    rw [hp4d hl5 idx hidx]
    exact h.p4d hl5 idx hidx
  lowP4d := by
    intro hl5 idx hidx
    rw [hlow hl5 idx hidx]
    exact h.lowP4d hl5 idx hidx

/-! ## The map -/

/-- The 512 GiB at the bottom and the 512 GiB below 128 TiB. -/
def InPayloadWindow (va : Nat) : Prop :=
  va < span 3 ∨ kkmPgdGuestPayloadTopEntry * span 3 ≤ va ∧
    va < (kkmPgdGuestPayloadTopEntry + 1) * span 3

/-- The 512 GiB of the private hierarchy. -/
def InPrivateSlot (va : Nat) : Prop :=
  kkmKmGuestPrivateMemStartVa ≤ va ∧ va < kkmKmGuestPrivateMemStartVa + span 3

instance (va : Nat) : Decidable (InPayloadWindow va) :=
  inferInstanceAs (Decidable (_ ∨ _ ∧ _))

instance (va : Nat) : Decidable (InPrivateSlot va) :=
  inferInstanceAs (Decidable (_ ∧ _))

instance (va : Nat) : Decidable (InKxSlot va) :=
  inferInstanceAs (Decidable (_ ∧ _))

/-- The user half as the guest sees it. -/
def userMap
    (guest : KkmMmuPml4e) (window : Option (BitVec 64)) (m : Memory) (va : Nat) :
    Option Mapping :=
  match window with
  | none => none
  | some e =>
      if InPayloadWindow va then mapEntry m 3 e va
      else if InPrivateSlot va then mapEntry m 3 guest.pgdEntry va
      else none

/-- The kernel half as the guest sees it. -/
def kernelMap
    (cfg : KkmConfig) (kx : KkmMmuPml4e) (c : GuestContents) (m : Memory) (va : Nat) :
    Option Mapping :=
  if InKxSlot va then mapEntry m 3 kx.pgdEntry va
  else if cfg.l5 then
    if tableIndex 4 va = kkmKxPgdP4dIndex then
      mapEntry m 3 (c.nativeP4d (tableIndex 3 va)) va
    else mapEntry m 4 (c.native (tableIndex 4 va)) va
  else mapEntry m 3 (c.native (tableIndex 3 va)) va

section Map

variable {cfg : KkmConfig} {kx guest : KkmMmuPml4e} {c : GuestContents}
variable {table p4d lowP4d va : Nat} {m : Memory}

theorem mapEntry_zero {l : Nat} : mapEntry m l 0#64 va = none :=
  mapEntry_of_not_present present_zero

/-- The windows and the private slot by the index of their entries. -/
theorem window_iff_tableIndex (hva : va < span 4) :
    (InPayloadWindow va ↔ tableIndex 3 va = kkmPgdGuestPayloadBottomEntry ∨
      tableIndex 3 va = kkmPgdGuestPayloadTopEntry) ∧
    (InPrivateSlot va ↔ tableIndex 3 va = 1) := by
  have h3 : span 3 = 0x8000000000 := by decide
  have h4 : span 4 = 0x1000000000000 := by decide
  simp only [InPayloadWindow, InPrivateSlot, tableIndex, kkmPgdGuestPayloadTopEntry,
    kkmPgdGuestPayloadBottomEntry, kkmKmGuestPrivateMemStartVa, h3, h4] at hva ⊢
  omega

/-- Above the part a P4D page covers there is neither. -/
theorem userMap_of_le (hva : span 4 ≤ va) (window : Option (BitVec 64)) :
    userMap guest window m va = none := by
  have h3 : span 3 = 0x8000000000 := by decide
  have h4 : span 4 = 0x1000000000000 := by decide
  have hwindow : ¬ InPayloadWindow va := by
    simp only [InPayloadWindow, kkmPgdGuestPayloadTopEntry, h3, h4] at hva ⊢
    omega
  have hprivate : ¬ InPrivateSlot va := by
    simp only [InPrivateSlot, kkmKmGuestPrivateMemStartVa, h3, h4] at hva ⊢
    omega
  cases window with
  | none => rfl
  | some e => simp only [userMap, if_neg hwindow, if_neg hprivate]

/-- The map below the entry of the user half. -/
theorem mapEntry_userEntry (hva : va < span 4) (window : Option (BitVec 64)) :
    mapEntry m 3 (userEntry guest window (tableIndex 3 va)) va =
      userMap guest window m va := by
  obtain ⟨hwindow, hprivate⟩ := window_iff_tableIndex hva
  cases window with
  | none => exact mapEntry_zero
  | some e =>
      by_cases hw : InPayloadWindow va
      · simp only [userEntry, userMap, if_pos hw, if_pos (hwindow.mp hw)]
      · simp only [userEntry, userMap, if_neg hw, if_neg (fun h => hw (hwindow.mpr h))]
        by_cases hp : InPrivateSlot va
        · simp only [if_pos hp, if_pos (hprivate.mp hp)]
        · simp only [if_neg hp, if_neg (fun h => hp (hprivate.mpr h))]
          exact mapEntry_zero

theorem HoldsContents.mapping_user
    (h : HoldsContents cfg kx guest c table p4d lowP4d m)
    (hlow : cfg.l5 = true → pageSize ∣ lowP4d ∧ lowP4d < 2 ^ 48)
    (hva : UserHalfVa cfg va) :
    mapping m (topLevel cfg) table va = userMap guest c.window m va := by
  have h3 : span 3 = 0x8000000000 := by decide
  have h4 : span 4 = 0x1000000000000 := by decide
  cases hl5 : cfg.l5 with
  | false =>
      have hidx := (tableIndex_l4 hl5).2.2 hva
      have hva' : va < span 4 := by
        simp only [UserHalfVa, halfSize, topLevel, hl5, kernelStartIndex,
          Bool.false_eq_true, ↓reduceIte, h3] at hva
        omega
      have htop : topLevel cfg = 3 := by simp [topLevel, hl5]
      rw [htop, mapping, h.top _ (tableIndex_lt 3 va), GuestContents.topEntry, hl5,
        if_neg Bool.false_ne_true, if_pos hidx]
      exact mapEntry_userEntry hva' c.window
  | true =>
      have hidx := (tableIndex_l5 hl5).2.2 hva
      have htop : topLevel cfg = 3 + 1 := by simp [topLevel, hl5]
      rw [htop, mapping, h.top _ (tableIndex_lt 4 va), GuestContents.topEntry,
        if_pos hl5]
      by_cases hzero : tableIndex 4 va = kkmPgdLowP4dEntry
      · have hva' : va < span 4 := by
          simp only [UserHalfVa, halfSize, topLevel, hl5, kernelStartIndex, h4,
            ↓reduceIte] at hva
          simp only [tableIndex, kkmPgdLowP4dEntry, h4] at hzero ⊢
          omega
        rw [if_pos hzero]
        cases hwindow : c.window with
        | none => exact mapEntry_zero
        | some e =>
            obtain ⟨hp, ha⟩ := makeEntry_table (hlow hl5).1 (hlow hl5).2
            rw [linkEntry, if_neg (Option.some_ne_none e),
              mapEntry_of_all hp (makeEntry_not_large 4 _) (entryRights_table _), ha,
              mapping, h.lowP4d hl5 _ (tableIndex_lt 3 va), ← hwindow]
            exact mapEntry_userEntry hva' c.window
      · have hva' : span 4 ≤ va := by
          simp only [tableIndex, kkmPgdLowP4dEntry, h4] at hzero ⊢
          omega
        rw [if_neg hzero, if_pos hidx, userMap_of_le hva']
        exact mapEntry_zero

theorem HoldsContents.mapping_kernel
    (h : HoldsContents cfg kx guest c table p4d lowP4d m)
    (hp4d : cfg.l5 = true → pageSize ∣ p4d ∧ p4d < 2 ^ 48)
    (hva : KernelHalfVa cfg va) :
    mapping m (topLevel cfg) table va = kernelMap cfg kx c m va := by
  cases hl5 : cfg.l5 with
  | false =>
      obtain ⟨hidx, hslot⟩ := (tableIndex_l4 hl5).1 hva
      have hin := (@tableIndex_l4 cfg va hl5).2.1
      have htop : topLevel cfg = 3 := by simp [topLevel, hl5]
      rw [htop, mapping, h.top _ (tableIndex_lt 3 va), GuestContents.topEntry, hl5,
        if_neg Bool.false_ne_true, if_neg (Nat.not_lt.mpr hidx), kernelMap, withSlot,
        hl5, if_neg Bool.false_ne_true]
      by_cases hkx : InKxSlot va
      · rw [if_pos hkx, if_pos (hin hkx)]
      · rw [if_neg hkx, if_neg fun heq => hkx (hslot heq)]
  | true =>
      obtain ⟨hidx, hslot⟩ := (tableIndex_l5 hl5).1 hva
      have hin := (@tableIndex_l5 cfg va hl5).2.1
      obtain ⟨hdvd, hlt⟩ := hp4d hl5
      obtain ⟨hp, ha⟩ := makeEntry_table hdvd hlt
      have htop : topLevel cfg = 3 + 1 := by simp [topLevel, hl5]
      have hzero : tableIndex 4 va ≠ kkmPgdLowP4dEntry := by
        simp only [kernelStartIndex, kkmPgdLowP4dEntry] at hidx ⊢
        omega
      rw [htop, mapping, h.top _ (tableIndex_lt 4 va), GuestContents.topEntry,
        if_pos hl5, if_neg hzero, if_neg (Nat.not_lt.mpr hidx), kernelMap, if_pos hl5]
      by_cases hlast : tableIndex 4 va = kkmKxPgdP4dIndex
      · rw [if_neg (by omega), mapEntry_of_all hp (makeEntry_not_large 4 _)
          (entryRights_table _), ha, mapping, h.p4d hl5 _ (tableIndex_lt 3 va), withSlot]
        by_cases hkx : InKxSlot va
        · rw [if_pos hkx, if_pos (hin hkx).2]
        · rw [if_neg hkx, if_neg fun heq => hkx (hslot hlast heq), if_pos hlast]
      · have hlt4 := tableIndex_lt 4 va
        have hkx : ¬ InKxSlot va := fun hkx => hlast (hin hkx).1
        rw [if_pos (by simp only [kkmKxPgdP4dIndex] at hlast ⊢; omega), if_neg hkx,
          if_neg hlast]

end Map

end Driver
end KkmModule
