import KkmModule.Driver.GuestAddress

/-!
# The private page tables of a kontainer

`kkm_create_pml4` builds one pud page, one pmd page and one page table, linked
through the entries of the first private address.  The module states what a
walk through them finds, that creation establishes them, and that
`kkm_mmu_update_priv_area`, which looks up the native page-table entry of a
monitor address, finds what the architectural walk finds.
-/

namespace KkmModule
namespace Driver

open Foundation

/-! ## The private hierarchy of a kontainer -/

/-- One chain of tables from entry 0 of the pud page to the page table. -/
structure PrivateHierarchy (guest : KkmMmuPml4e) (m : Memory) : Prop where
  pud_dvd : pageSize ∣ guest.pud.va
  pmd_dvd : pageSize ∣ guest.pmd.va
  pt_dvd : pageSize ∣ guest.pt.va
  pud_ne_pt : guest.pud.va ≠ guest.pt.va
  pmd_ne_pt : guest.pmd.va ≠ guest.pt.va
  pud_first : present (m.entry guest.pud.va 0) = true ∧
    isLarge 2 (m.entry guest.pud.va 0) = false ∧
    entryPa (m.entry guest.pud.va 0) = guest.pmd.va
  pud_rest : ∀ idx, idx < 512 → idx ≠ 0 → m.entry guest.pud.va idx = 0#64
  pmd_first : present (m.entry guest.pmd.va 0) = true ∧
    isLarge 1 (m.entry guest.pmd.va 0) = false ∧
    entryPa (m.entry guest.pmd.va 0) = guest.pt.va
  pmd_rest : ∀ idx, idx < 512 → idx ≠ 0 → m.entry guest.pmd.va idx = 0#64

/-- The walk of a guest address through top-level entry 1, which holds
`pgd_entry` of the private hierarchy. -/
def privateWalk (guest : KkmMmuPml4e) (m : Memory) (guestVa : Nat) :
    Option Leaf :=
  if guestVa / span 3 = 1 then walk m 2 guest.pud.va guestVa else none

/-- The 2 MiB of guest addresses for which the hierarchy has a page table. -/
def InPrivateWindow (guestVa : Nat) : Prop :=
  kkmKmGuestPrivateMemStartVa ≤ guestVa ∧
    guestVa < kkmKmGuestPrivateMemStartVa + span 1

theorem inPrivateWindow_iff (guestVa : Nat) :
    InPrivateWindow guestVa ↔
      guestVa / span 3 = 1 ∧ tableIndex 2 guestVa = 0 ∧
        tableIndex 1 guestVa = 0 := by
  have h1 : span 1 = 0x200000 := by decide
  have h2 : span 2 = 0x40000000 := by decide
  have h3 : span 3 = 0x8000000000 := by decide
  simp only [InPrivateWindow, kkmKmGuestPrivateMemStartVa, tableIndex, h1, h2, h3]
  omega

section Hierarchy

variable {guest : KkmMmuPml4e} {m : Memory}

/-- With index 0 in both upper pages a walk ends at the entry of the page
table. -/
theorem PrivateHierarchy.walk_of_index
    (h : PrivateHierarchy guest m) {va : Nat}
    (hpud : tableIndex 2 va = 0) (hpmd : tableIndex 1 va = 0) :
    walk m 2 guest.pud.va va = walk m 0 guest.pt.va va := by
  obtain ⟨hp2, hl2, ha2⟩ := h.pud_first
  obtain ⟨hp1, hl1, ha1⟩ := h.pmd_first
  simp [walk, walkEntry, hpud, hpmd, hp2, hl2, ha2, hp1, hl1, ha1]

/-- In the window a walk ends at the entry of the page table. -/
theorem PrivateHierarchy.walk_of_window
    (h : PrivateHierarchy guest m) {guestVa : Nat}
    (hwin : InPrivateWindow guestVa) :
    privateWalk guest m guestVa = walk m 0 guest.pt.va guestVa := by
  obtain ⟨htop, hpud, hpmd⟩ := (inPrivateWindow_iff guestVa).mp hwin
  rw [privateWalk, if_pos htop]
  exact h.walk_of_index hpud hpmd

/-- Outside the window nothing is mapped. -/
theorem PrivateHierarchy.walk_of_not_window
    (h : PrivateHierarchy guest m) {guestVa : Nat}
    (hwin : ¬ InPrivateWindow guestVa) :
    privateWalk guest m guestVa = none := by
  rw [inPrivateWindow_iff] at hwin
  unfold privateWalk
  split
  · rename_i htop
    by_cases hpud : tableIndex 2 guestVa = 0
    · have hpmd : tableIndex 1 guestVa ≠ 0 := fun hp => hwin ⟨htop, hpud, hp⟩
      obtain ⟨hp2, hl2, ha2⟩ := h.pud_first
      have hzero : m.entry guest.pmd.va (tableIndex 1 guestVa) = 0#64 :=
        h.pmd_rest _ (tableIndex_lt 1 guestVa) hpmd
      simp [walk, walkEntry, hpud, hp2, hl2, ha2, hzero, present_zero]
    · have hzero : m.entry guest.pud.va (tableIndex 2 guestVa) = 0#64 :=
        h.pud_rest _ (tableIndex_lt 2 guestVa) hpud
      simp [walk, walkEntry, hzero, present_zero]
  · rfl

/-- The hierarchy is kept by everything that keeps its two upper pages. -/
theorem PrivateHierarchy.congr
    {m' : Memory} (h : PrivateHierarchy guest m)
    (hpud : ∀ idx, idx < 512 → m'.entry guest.pud.va idx = m.entry guest.pud.va idx)
    (hpmd : ∀ idx, idx < 512 → m'.entry guest.pmd.va idx = m.entry guest.pmd.va idx) :
    PrivateHierarchy guest m' where
  pud_dvd := h.pud_dvd
  pmd_dvd := h.pmd_dvd
  pt_dvd := h.pt_dvd
  pud_ne_pt := h.pud_ne_pt
  pmd_ne_pt := h.pmd_ne_pt
  pud_first := by
    rw [hpud 0 (by decide)]
    exact h.pud_first
  pud_rest := by
    intro idx hidx hne
    rw [hpud idx hidx]
    exact h.pud_rest idx hidx hne
  pmd_first := by
    rw [hpmd 0 (by decide)]
    exact h.pmd_first
  pmd_rest := by
    intro idx hidx hne
    rw [hpmd idx hidx]
    exact h.pmd_rest idx hidx hne

/-- In particular by everything that keeps memory below some address past them. -/
theorem PrivateHierarchy.congr_below
    {m' : Memory} (h : PrivateHierarchy guest m) {base : Nat}
    (hpud : guest.pud.va + pageSize ≤ base) (hpmd : guest.pmd.va + pageSize ≤ base)
    (hm : ∀ a < base, m' a = m a) : PrivateHierarchy guest m' := by
  simp only [pageSize] at hpud hpmd
  apply h.congr
  · intro idx hidx
    exact hm _ (by omega)
  · intro idx hidx
    exact hm _ (by omega)

/-- An entry of the page table is no part of the upper pages. -/
theorem PrivateHierarchy.setPte
    (h : PrivateHierarchy guest m) {idx : Nat} (hidx : idx < 512)
    (e : BitVec 64) :
    PrivateHierarchy guest (m.setEntry guest.pt.va idx e) := by
  apply h.congr
  · intro i hi
    exact m.entry_setEntry_of_table_ne e h.pud_dvd h.pt_dvd h.pud_ne_pt hi hidx
  · intro i hi
    exact m.entry_setEntry_of_table_ne e h.pmd_dvd h.pt_dvd h.pmd_ne_pt hi hidx

end Hierarchy

/-! ## Creation of the hierarchy -/

theorem zeroBlock_of_mem
    {b : Block} {m : Memory} {a : Nat}
    (h : b.head * pageSize ≤ a ∧ a < b.stop * pageSize) :
    zeroBlock b m a = 0 := if_pos h

/-- Clearing a block makes no word non-zero. -/
theorem zeroBlock_of_zero
    {b : Block} {m : Memory} {a : Nat} (h : m a = 0#64) :
    zeroBlock b m a = 0#64 := by
  unfold zeroBlock
  split
  · rfl
  · exact h

theorem zeroBlock_page_entry
    {frame idx : Nat} (m : Memory) (hidx : idx < 512) :
    Memory.entry (zeroBlock ⟨frame, 0⟩ m) (frame * pageSize) idx = 0#64 := by
  apply zeroBlock_of_mem
  simp only [Block.stop, pageSize]
  omega

/-- A successful `kkm_create_pml4` for an address with index 0 in its pud and its
pmd page leaves the hierarchy above, provided the machine's memory ends below
2^48. -/
theorem kkmCreatePml4_hierarchy_of_index
    {ref : Pml4Ref} {kx guest : KkmMmuPml4e} {address : Nat} {a : Pml4Answers}
    {s s' : PageState}
    (hidx2 : pudIndex address = 0) (hidx1 : pmdIndex address = 0)
    (hok : kkmCreatePml4 ref kx address a s = (0, guest, s'))
    (hlow : s'.pool.next * pageSize ≤ 2 ^ 48) :
    PrivateHierarchy guest s'.mem := by
  obtain ⟨pud, pmd, pt, rfl⟩ := kkmCreatePml4_answers hok
  rw [kkmCreatePml4_some] at hok
  simp only [Prod.mk.injEq, true_and] at hok
  obtain ⟨rfl, rfl⟩ := hok
  -- three frames in increasing order, all below the end of memory
  generalize hf : s.pool.next + pud = f at *
  generalize hg : (s.pool.take pud 0).next + pmd = g at *
  generalize hh : ((s.pool.take pud 0).take pmd 0).next + pt = h at *
  have hfg : f < g := by
    have hnext : (s.pool.take pud 0).next = f + 1 := by
      rw [← hf]
      rfl
    omega
  have hgh : g < h := by
    have hnext : ((s.pool.take pud 0).take pmd 0).next = g + 1 := by
      rw [← hg]
      rfl
    omega
  have hend : (h + 1) * pageSize ≤ 2 ^ 48 := by
    rw [← hh]
    exact hlow
  simp only [hidx2, hidx1, kkmMmuInsertPage, pml4OfFrames]
  have hdvd : ∀ x, pageSize ∣ x * pageSize := fun x => Nat.dvd_mul_left _ _
  have hinj : ∀ x y, x < y → x * pageSize ≠ y * pageSize :=
    fun x y hlt heq =>
      absurd (Nat.eq_of_mul_eq_mul_right (by decide) heq) (Nat.ne_of_lt hlt)
  have hbelow : ∀ x, x < h + 1 → x * pageSize < 2 ^ 48 :=
    fun x hx => lt_of_lt_of_le (Nat.mul_lt_mul_of_pos_right hx (by decide)) hend
  have hzeroF : ∀ idx, idx < 512 → Memory.entry (zeroBlock ⟨h, 0⟩
      (zeroBlock ⟨g, 0⟩ (zeroBlock ⟨f, 0⟩ s.mem))) (f * pageSize) idx = 0#64 :=
    fun idx hidx => zeroBlock_of_zero
      (zeroBlock_of_zero (zeroBlock_page_entry s.mem hidx))
  have hzeroG : ∀ idx, idx < 512 → Memory.entry (zeroBlock ⟨h, 0⟩
      (zeroBlock ⟨g, 0⟩ (zeroBlock ⟨f, 0⟩ s.mem))) (g * pageSize) idx = 0#64 :=
    fun idx hidx => zeroBlock_of_zero (zeroBlock_page_entry _ hidx)
  -- the store into the pmd page is no store into the pud page
  have hstore : ∀ (m : Memory) (e : BitVec 64) (idx : Nat), idx < 512 →
      (m.setEntry (g * pageSize) 0 e).entry (f * pageSize) idx =
        m.entry (f * pageSize) idx :=
    fun m e idx hidx => m.entry_setEntry_of_table_ne e (hdvd f) (hdvd g)
      (hinj f g hfg) hidx (by decide)
  have hstore' : ∀ (m : Memory) (e : BitVec 64) (idx : Nat), idx < 512 →
      (m.setEntry (f * pageSize) 0 e).entry (g * pageSize) idx =
        m.entry (g * pageSize) idx :=
    fun m e idx hidx => m.entry_setEntry_of_table_ne e (hdvd g) (hdvd f)
      (hinj f g hfg).symm hidx (by decide)
  constructor
  · exact hdvd f
  · exact hdvd g
  · exact hdvd h
  · exact hinj f h (lt_trans hfg hgh)
  · exact hinj g h hgh
  · rw [hstore _ _ 0 (by decide), Memory.entry_setEntry_self]
    obtain ⟨hp, ha⟩ := makeEntry_table (hdvd g)
      (hbelow g (Nat.lt_succ_of_lt hgh))
    exact ⟨hp, makeEntry_not_large 2 _, ha⟩
  · intro idx hidx hne0
    rw [hstore _ _ idx hidx, Memory.entry_setEntry_of_idx_ne _ _ hne0]
    exact hzeroF idx hidx
  · rw [Memory.entry_setEntry_self]
    obtain ⟨hp, ha⟩ := makeEntry_table (hdvd h)
      (hbelow h (Nat.lt_succ_self h))
    exact ⟨hp, makeEntry_not_large 1 _, ha⟩
  · intro idx hidx hne0
    rw [Memory.entry_setEntry_of_idx_ne _ _ hne0, hstore' _ _ idx hidx]
    exact hzeroG idx hidx

/-- The hierarchy of a private area. -/
theorem kkmCreatePml4_hierarchy
    {ref : Pml4Ref} {kx guest : KkmMmuPml4e} {a : Pml4Answers}
    {s s' : PageState}
    (hok : kkmCreatePml4 ref kx kkmKmGuestPrivateMemStartVa a s =
      (0, guest, s'))
    (hlow : s'.pool.next * pageSize ≤ 2 ^ 48) :
    PrivateHierarchy guest s'.mem :=
  kkmCreatePml4_hierarchy_of_index (by decide) (by decide) hok hlow

/-- The tables of a created hierarchy lie below what is allocated next. -/
theorem kkmCreatePml4_below
    {ref : Pml4Ref} {kx guest : KkmMmuPml4e} {address : Nat} {a : Pml4Answers}
    {s s' : PageState}
    (hok : kkmCreatePml4 ref kx address a s = (0, guest, s')) :
    guest.pud.va + pageSize ≤ s'.pool.next * pageSize ∧
      guest.pmd.va + pageSize ≤ s'.pool.next * pageSize ∧
      guest.pt.va + pageSize ≤ s'.pool.next * pageSize := by
  obtain ⟨pud, pmd, pt, rfl⟩ := kkmCreatePml4_answers hok
  rw [kkmCreatePml4_some] at hok
  simp only [Prod.mk.injEq, true_and] at hok
  obtain ⟨rfl, rfl⟩ := hok
  have h1 : (s.pool.take pud 0).next = s.pool.next + pud + 1 := rfl
  have h2 : ((s.pool.take pud 0).take pmd 0).next =
      (s.pool.take pud 0).next + pmd + 1 := rfl
  have h3 : (((s.pool.take pud 0).take pmd 0).take pt 0).next =
      ((s.pool.take pud 0).take pmd 0).next + pt + 1 := rfl
  simp only [pml4OfFrames, pageSize]
  omega

/-- The top-level entry of a created hierarchy leads to its pud page. -/
theorem kkmCreatePml4_pgdEntry
    {ref : Pml4Ref} {kx guest : KkmMmuPml4e} {address : Nat} {a : Pml4Answers}
    {s s' : PageState}
    (hok : kkmCreatePml4 ref kx address a s = (0, guest, s'))
    (hlow : s'.pool.next * pageSize ≤ 2 ^ 48) :
    present guest.pgdEntry = true ∧ entryPa guest.pgdEntry = guest.pud.va := by
  have hbelow := (kkmCreatePml4_below hok).1
  obtain ⟨pud, pmd, pt, rfl⟩ := kkmCreatePml4_answers hok
  rw [kkmCreatePml4_some] at hok
  simp only [Prod.mk.injEq, true_and] at hok
  obtain ⟨rfl, rfl⟩ := hok
  have hentry : (pml4OfFrames (s.pool.next + pud)
      ((s.pool.take pud 0).next + pmd)
      (((s.pool.take pud 0).take pmd 0).next + pt)).pgdEntry =
      kkmMmuMakeEntry ((s.pool.next + pud) * pageSize) tableFlags := by
    have hflags : tableFlags &&& kkmPageFlagsMask = tableFlags := by decide
    rw [kkmMmuMakeEntry, hflags]
    simp only [pml4OfFrames, tableFlags, BitVec.or_assoc]
  rw [hentry]
  refine makeEntry_table (Nat.dvd_mul_left _ _) ?_
  exact lt_of_lt_of_le (Nat.lt_add_of_pos_right (by decide)) (le_trans hbelow hlow)

/-! ## The native entry of a monitor address -/

theorem kkmMmuGetTableVa_of_present
    {tableVa index : Nat} {m : Memory}
    (h : present (m.entry tableVa index) = true) :
    kkmMmuGetTableVa tableVa index m = some (entryPa (m.entry tableVa index)) := by
  have hbit : m.entry tableVa index &&& pagePresent ≠ 0 := by
    intro hzero
    have hlow : (m.entry tableVa index &&& pagePresent).getLsbD 0 = false := by
      rw [hzero]
      rfl
    rw [BitVec.getLsbD_and] at hlow
    simp only [present] at h
    rw [h] at hlow
    exact absurd hlow (by decide)
  simp only [kkmMmuGetTableVa]
  rw [if_pos hbit]
  rfl

theorem kkmMmuGetTableVa_some
    {tableVa index next : Nat} {m : Memory}
    (h : kkmMmuGetTableVa tableVa index m = some next) :
    present (m.entry tableVa index) = true ∧
      next = entryPa (m.entry tableVa index) := by
  cases hp : present (m.entry tableVa index) with
  | true =>
      rw [kkmMmuGetTableVa_of_present hp] at h
      exact ⟨rfl, (Option.some.inj h).symm⟩
  | false =>
      have hbit : m.entry tableVa index &&& pagePresent = 0 := by
        ext i hi
        by_cases h0 : i = 0
        · subst h0
          simpa [pagePresent, present] using hp
        · simp [pagePresent, BitVec.getElem_one, h0]
      simp only [kkmMmuGetTableVa, hbit] at h
      cases h

theorem kkmMmuGetTableVa_eq (tableVa index : Nat) (m : Memory) :
    kkmMmuGetTableVa tableVa index m =
      if present (m.entry tableVa index) = true then
        some (entryPa (m.entry tableVa index))
      else none := by
  split
  · rename_i hpresent
    exact kkmMmuGetTableVa_of_present hpresent
  · rename_i habsent
    rw [Option.eq_none_iff_forall_ne_some]
    intro next hnext
    exact habsent (kkmMmuGetTableVa_some hnext).1

/-- The loop over the native levels is the way by present bits. -/
theorem kkmMmuNativePageTable_eq
    (cfg : KkmConfig) (va pgd : Nat) (m : Memory) :
    kkmMmuNativePageTable cfg va pgd m = tableWalk m (topLevel cfg) pgd va := by
  have hstep : ∀ l table (rest : Nat → Option Nat),
      (kkmMmuGetTableVa table (tableIndex (l + 1) va) m).bind rest =
        if present (m.entry table (tableIndex (l + 1) va)) = true then
          rest (entryPa (m.entry table (tableIndex (l + 1) va)))
        else none := by
    intro l table rest
    rw [kkmMmuGetTableVa_eq]
    split <;> rfl
  have hlast : ∀ table, kkmMmuGetTableVa table (pmdIndex va) m =
      tableWalk m 1 table va := by
    intro table
    rw [pmdIndex, kkmMmuGetTableVa_eq]
    rfl
  have hbelow : ∀ table,
      (kkmMmuGetTableVa table (tableIndex 3 va) m).bind (fun pud =>
        (kkmMmuGetTableVa pud (pudIndex va) m).bind fun pmd =>
          kkmMmuGetTableVa pmd (pmdIndex va) m) =
        tableWalk m 3 table va := by
    intro table
    simp only [hlast, pudIndex]
    simp only [hstep 1, hstep 2]
    rfl
  cases hl5 : cfg.l5 with
  | false =>
      simp only [kkmMmuNativePageTable, pgdIndex, topLevel, hl5,
        Option.bind_eq_bind, Option.bind_some, Bool.false_eq_true, ↓reduceIte]
      exact hbelow pgd
  | true =>
      simp only [kkmMmuNativePageTable, pgdIndex, p4dIndex, topLevel, hl5,
        Option.bind_eq_bind, ↓reduceIte, hbelow]
      rw [hstep 3]
      rfl

/-- For an address mapped by a 4K page, the loop over the native levels ends at
the table in which the architectural walk finds the leaf. -/
theorem kkmMmuNativePageTable_of_leaf
    {cfg : KkmConfig} {pgd va : Nat} {m : Memory} {e : BitVec 64}
    (h : walk m (topLevel cfg) pgd va = some ⟨e, 0⟩) :
    ∃ table, kkmMmuNativePageTable cfg va pgd m = some table ∧
      m.entry table (pteIndex va) = e ∧ present e = true := by
  rw [walk_eq_stop] at h
  split at h
  · rename_i hpresent
    have hstop := Option.some.inj h
    obtain ⟨table, htable, hentry⟩ :=
      tableWalk_of_stop_zero (congrArg Leaf.level hstop)
    rw [hstop] at hentry hpresent
    rw [kkmMmuNativePageTable_eq]
    exact ⟨table, htable, hentry, hpresent⟩
  · cases h

/-- Where that loop finds a table, the architectural walk ends at its entry,
unless it ends at a large page before. -/
theorem walk_of_kkmMmuNativePageTable
    {cfg : KkmConfig} {pgd va table : Nat} {m : Memory}
    (h : kkmMmuNativePageTable cfg va pgd m = some table) :
    (∃ leaf, walk m (topLevel cfg) pgd va = some leaf ∧ leaf.level ≠ 0) ∨
      walk m (topLevel cfg) pgd va =
        if present (m.entry table (pteIndex va)) = true then
          some ⟨m.entry table (pteIndex va), 0⟩
        else none := by
  rw [kkmMmuNativePageTable_eq] at h
  rw [walk_eq_stop]
  by_cases hlevel : (walkStop m (topLevel cfg) pgd va).level = 0
  · right
    obtain ⟨t, htable, hentry⟩ := tableWalk_of_stop_zero hlevel
    obtain rfl : t = table := Option.some.inj (htable.symm.trans h)
    have hstop : walkStop m (topLevel cfg) pgd va =
        ⟨m.entry t (pteIndex va), 0⟩ := by
      rw [pteIndex, hentry, ← hlevel]
    rw [hstop]
  · left
    cases hpresent : present (walkStop m (topLevel cfg) pgd va).entry with
    | true => exact ⟨_, if_pos rfl, hlevel⟩
    | false =>
        rw [tableWalk_of_stop_absent hpresent hlevel] at h
        cases h

end Driver
end KkmModule
