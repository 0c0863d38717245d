import KkmModule.Driver.KxTable
import KkmModule.Foundation.FrameOwnership
import KkmModule.Foundation.PageRights

/-!
# Rights along a private hierarchy

`kkm_create_pml4` links its three pages with entries that grant everything, so
what may be done with a page of the hierarchy is what its page-table entry says.
The memory map in `kkm_mmu.h` names these rights for the pages of the kx area;
`kkm_mmu_set_kx_global_info` and `kkm_mmu_set_guest_area` are the two functions
that write entries for them.
-/

namespace KkmModule
namespace Driver

open Foundation

/-! ## Rights of the entries the source builds -/

/-- The flags decide: the address mask covers none of the three bits. -/
theorem entryRights_makeEntry (pa : Nat) (flags : BitVec 64) :
    entryRights (kkmMmuMakeEntry pa flags) = entryRights flags := by
  ext right
  have hbit : ∀ i, kkmPagePaMask.getLsbD i = false →
      kkmPageFlagsMask.getLsbD i = true →
      (kkmMmuMakeEntry pa flags).getLsbD i = flags.getLsbD i := by
    intro i hpa hflags
    rw [kkmMmuMakeEntry, BitVec.getLsbD_or, BitVec.getLsbD_and, BitVec.getLsbD_and,
      hpa, hflags]
    simp
  rw [mem_entryRights, mem_entryRights]
  cases right with
  | user => simp only [PageRight.grantedBy, hbit 2 (by decide) (by decide)]
  | write => simp only [PageRight.grantedBy, hbit 1 (by decide) (by decide)]
  | exec => simp only [PageRight.grantedBy, hbit 63 (by decide) (by decide)]

/-- Entries for tables grant everything. -/
theorem entryRights_table (pa : Nat) :
    entryRights (kkmMmuMakeEntry pa tableFlags) = Finset.univ := by
  rw [entryRights_makeEntry]
  decide

/-! ## The chain -/

/-- A private hierarchy with the entries `kkm_create_pml4` links it with. -/
structure TableChain (kmu : KkmMmuPml4e) (m : Memory) : Prop
    extends PrivateHierarchy kmu m where
  pud_lt : kmu.pud.va < 2 ^ 48
  pgd_entry : kmu.pgdEntry = kkmMmuMakeEntry kmu.pud.va tableFlags
  pud_entry : m.entry kmu.pud.va 0 = kkmMmuMakeEntry kmu.pmd.va tableFlags
  pmd_entry : m.entry kmu.pmd.va 0 = kkmMmuMakeEntry kmu.pt.va tableFlags

section Chain

variable {kmu : KkmMmuPml4e} {m m' : Memory} {va : Nat}

/-- The chain is kept by everything that keeps its two upper pages. -/
theorem TableChain.congr
    (h : TableChain kmu m)
    (hpud : ∀ idx, idx < 512 → m'.entry kmu.pud.va idx = m.entry kmu.pud.va idx)
    (hpmd : ∀ idx, idx < 512 → m'.entry kmu.pmd.va idx = m.entry kmu.pmd.va idx) :
    TableChain kmu m' where
  toPrivateHierarchy := h.toPrivateHierarchy.congr hpud hpmd
  pud_lt := h.pud_lt
  pgd_entry := h.pgd_entry
  pud_entry := by
    rw [hpud 0 (by decide)]
    exact h.pud_entry
  pmd_entry := by
    rw [hpmd 0 (by decide)]
    exact h.pmd_entry

theorem TableChain.setPte
    (h : TableChain kmu m) {idx : Nat} (hidx : idx < 512) (e : BitVec 64) :
    TableChain kmu (m.setEntry kmu.pt.va idx e) := by
  apply h.congr
  · intro i hi
    exact m.entry_setEntry_of_table_ne e h.pud_dvd h.pt_dvd h.pud_ne_pt hi hidx
  · intro i hi
    exact m.entry_setEntry_of_table_ne e h.pmd_dvd h.pt_dvd h.pmd_ne_pt hi hidx

/-- Where the chain leads to the page table, its entry alone says what an
address is mapped to and what may be done there. -/
theorem TableChain.map_of_index
    (h : TableChain kmu m) (hpud : tableIndex 2 va = 0) (hpmd : tableIndex 1 va = 0) :
    mapEntry m 3 kmu.pgdEntry va =
      mapEntry m 0 (m.entry kmu.pt.va (tableIndex 0 va)) va := by
  obtain ⟨hp3, ha3⟩ := makeEntry_table h.pud_dvd h.pud_lt
  obtain ⟨hp2, hl2, ha2⟩ := h.pud_first
  obtain ⟨hp1, hl1, ha1⟩ := h.pmd_first
  have hall2 : entryRights (m.entry kmu.pud.va 0) = Finset.univ := by
    rw [h.pud_entry]
    exact entryRights_table _
  have hall1 : entryRights (m.entry kmu.pmd.va 0) = Finset.univ := by
    rw [h.pmd_entry]
    exact entryRights_table _
  rw [h.pgd_entry, mapEntry_of_all hp3 (makeEntry_not_large 3 _)
    (entryRights_table _), ha3, mapping, hpud, mapEntry_of_all hp2 hl2 hall2, ha2,
    mapping, hpmd, mapEntry_of_all hp1 hl1 hall1, ha1, mapping]

/-- Elsewhere nothing is mapped. -/
theorem TableChain.map_of_not_index
    (h : TableChain kmu m) (hva : ¬ (tableIndex 2 va = 0 ∧ tableIndex 1 va = 0)) :
    mapEntry m 3 kmu.pgdEntry va = none := by
  obtain ⟨hp3, ha3⟩ := makeEntry_table h.pud_dvd h.pud_lt
  rw [h.pgd_entry, mapEntry_of_all hp3 (makeEntry_not_large 3 _)
    (entryRights_table _), ha3]
  by_cases hpud : tableIndex 2 va = 0
  · have hpmd : tableIndex 1 va ≠ 0 := fun hzero => hva ⟨hpud, hzero⟩
    obtain ⟨hp2, hl2, ha2⟩ := h.pud_first
    rw [mapping, hpud, mapEntry_succ hp2 hl2, ha2, mapping_of_not_present,
      Option.map_none]
    rw [h.pmd_rest _ (tableIndex_lt 1 va) hpmd]
    exact present_zero
  · apply mapping_of_not_present
    rw [h.pud_rest _ (tableIndex_lt 2 va) hpud]
    exact present_zero

end Chain

/-! ## Creation -/

/-- Memory after the stores of a successful `kkm_create_pml4` into the frames `f`,
`g` and `h`. -/
def pml4Memory (f g h address : Nat) (m : Memory) : Memory :=
  kkmMmuInsertPage (g * pageSize) (pmdIndex address) (h * pageSize) tableFlags
    (kkmMmuInsertPage (f * pageSize) (pudIndex address) (g * pageSize) tableFlags
      (zeroBlock ⟨h, 0⟩ (zeroBlock ⟨g, 0⟩ (zeroBlock ⟨f, 0⟩ m))))

/-- Three new frames, one above the other, hold a created hierarchy. -/
theorem kkmCreatePml4_frames
    {ref : Pml4Ref} {kx guest : KkmMmuPml4e} {address : Nat} {a : Pml4Answers}
    {s s' : PageState} (hok : kkmCreatePml4 ref kx address a s = (0, guest, s')) :
    ∃ pud pmd pt,
      let f := s.pool.next + pud
      let g := (s.pool.take pud 0).next + pmd
      let h := ((s.pool.take pud 0).take pmd 0).next + pt
      f < g ∧ g < h ∧ guest = pml4OfFrames f g h ∧
        s' = ⟨((s.pool.take pud 0).take pmd 0).take pt 0,
          pml4Memory f g h address s.mem⟩ := by
  obtain ⟨pud, pmd, pt, rfl⟩ := kkmCreatePml4_answers hok
  rw [kkmCreatePml4_some] at hok
  simp only [Prod.mk.injEq, true_and] at hok
  obtain ⟨rfl, rfl⟩ := hok
  refine ⟨pud, pmd, pt, ?_, ?_, rfl, rfl⟩
  · exact Nat.lt_of_lt_of_le (Nat.lt_succ_self _) (Nat.le_add_right _ pmd)
  · exact Nat.lt_of_lt_of_le (Nat.lt_succ_self _) (Nat.le_add_right _ pt)

/-- Clearing a block changes no table outside it. -/
theorem sameOn_zeroBlock
    {frames : Set Nat} {b : Block} (h : ∀ frame ∈ frames, ¬ b.Has frame) (m : Memory) :
    SameOn frames m (zeroBlock b m) := by
  intro frame hframe idx hidx
  have hnot := h frame hframe
  simp only [Block.Has] at hnot
  rw [Memory.entry, Memory.entry, zeroBlock, if_neg]
  rintro ⟨hlow, hhigh⟩
  simp only [pageSize] at hlow hhigh
  omega

theorem zeroBlock_entry
    {b : Block} {frame : Nat} (h : b.Has frame) (m : Memory) {idx : Nat}
    (hidx : idx < 512) :
    Memory.entry (zeroBlock b m) (frame * pageSize) idx = 0#64 := by
  obtain ⟨hlow, hhigh⟩ := h
  have hin : b.head * pageSize ≤ frame * pageSize + 8 * idx ∧
      frame * pageSize + 8 * idx < b.stop * pageSize := by
    simp only [pageSize]
    omega
  exact if_pos hin

section Create

variable {f g h address : Nat} (m : Memory)

/-- The page table starts out empty. -/
theorem pml4Memory_pt
    (hfg : f < g) (hgh : g < h) {idx : Nat} (hidx : idx < 512) :
    (pml4Memory f g h address m).entry (h * pageSize) idx = 0#64 := by
  have hpud : pudIndex address < 512 := tableIndex_lt 2 address
  have hpmd : pmdIndex address < 512 := tableIndex_lt 1 address
  have hg : g ∉ ({h} : Set Nat) := by
    rintro rfl
    exact Nat.lt_irrefl _ hgh
  have hf : f ∉ ({h} : Set Nat) := by
    rintro rfl
    exact Nat.lt_asymm hfg hgh
  have hstores := (sameOn_setEntry (m := zeroBlock ⟨h, 0⟩ (zeroBlock ⟨g, 0⟩
    (zeroBlock ⟨f, 0⟩ m))) hf hpud (kkmMmuMakeEntry (g * pageSize) tableFlags)).trans
      (sameOn_setEntry hg hpmd (kkmMmuMakeEntry (h * pageSize) tableFlags))
  exact (hstores h rfl idx hidx).trans (zeroBlock_page_entry _ hidx)

theorem pml4Memory_links
    (hfg : f < g) (hpud : pudIndex address = 0) (hpmd : pmdIndex address = 0) :
    (pml4Memory f g h address m).entry (f * pageSize) 0 =
        kkmMmuMakeEntry (g * pageSize) tableFlags ∧
      (pml4Memory f g h address m).entry (g * pageSize) 0 =
        kkmMmuMakeEntry (h * pageSize) tableFlags := by
  have hne : f * pageSize ≠ g * pageSize := by
    intro heq
    exact absurd (Nat.eq_of_mul_eq_mul_right (by decide) heq) (Nat.ne_of_lt hfg)
  simp only [pml4Memory, kkmMmuInsertPage, hpud, hpmd]
  constructor
  · rw [Memory.entry_setEntry_of_table_ne _ _ (Nat.dvd_mul_left _ _)
      (Nat.dvd_mul_left _ _) hne (by decide) (by decide)]
    exact Memory.entry_setEntry_self ..
  · exact Memory.entry_setEntry_self ..

end Create

/-- A successful `kkm_create_pml4` for an address with index 0 in its pud and its
pmd page leaves a chain. -/
theorem kkmCreatePml4_chain
    {ref : Pml4Ref} {kx guest : KkmMmuPml4e} {address : Nat} {a : Pml4Answers}
    {s s' : PageState} (hpud : pudIndex address = 0) (hpmd : pmdIndex address = 0)
    (hok : kkmCreatePml4 ref kx address a s = (0, guest, s'))
    (hlow : s'.pool.next * pageSize ≤ 2 ^ 48) :
    TableChain guest s'.mem := by
  have hhier := kkmCreatePml4_hierarchy_of_index hpud hpmd hok hlow
  have hlt := (kkmCreatePml4_below hok).1
  obtain ⟨pud, pmd, pt, hfg, -, rfl, rfl⟩ := kkmCreatePml4_frames hok
  obtain ⟨hp, hm⟩ := pml4Memory_links s.mem hfg hpud hpmd
  have hflags : tableFlags &&& kkmPageFlagsMask = tableFlags := by decide
  refine ⟨hhier, ?_, ?_, ?_, ?_⟩
  · simp only [pageSize] at hlt hlow
    omega
  · rw [kkmMmuMakeEntry, hflags]
    simp only [pml4OfFrames, tableFlags, BitVec.or_assoc]
  · exact hp
  · exact hm

/-! ## The memory map of the kx area -/

/-- Rights in the memory map of `kkm_mmu.h`; index by index, `R`, `RWX` and `RW`. -/
def kxMapRights (idx : Nat) : Finset PageRight :=
  if idx = kkmPteIndexIdt then ∅
  else if idx = kkmPteIndexText0 ∨ idx = kkmPteIndexText1 then {.write, .exec}
  else {.write}

/-- Every entry of the kx page table is absent or has the rights of the map. -/
def FollowsKxMap (kx : KkmMmuPml4e) (m : Memory) : Prop :=
  ∀ idx < 512, present (m.entry kx.pt.va idx) = true →
    entryRights (m.entry kx.pt.va idx) = kxMapRights idx

theorem kxGlobalFlags_rights (k : Fin 4) :
    entryRights (kxGlobalFlags k) = kxMapRights k := by
  revert k
  decide

theorem guestAreaFlags_rights :
    entryRights guestAreaFlags = {.write} := by
  decide

/-- The entries of a guest area come after the global ones. -/
theorem kxMapRights_guestArea
    (cpu : Nat) (j : Fin kkmPerCpuGaPageCount) :
    kxMapRights (guestAreaIndex cpu j) = {.write} := by
  have hge : 256 ≤ guestAreaIndex cpu j := by
    simp only [guestAreaIndex, kkmMmuGetPerCpuStartIndex, kkmCpuGaIndexStart]
    omega
  rw [kxMapRights, if_neg, if_neg]
  · simp only [kkmPteIndexText0, kkmPteIndexText1]
    omega
  · simp only [kkmPteIndexIdt]
    omega

theorem FollowsKxMap.areaStep
    {kx : KkmMmuPml4e} {m : Memory} (h : FollowsKxMap kx m) (call : GuestAreaCall) :
    FollowsKxMap kx (areaStep kx m call) := by
  intro idx hidx hpresent
  by_cases hmine : ∃ j, idx = guestAreaIndex call.cpu j
  · obtain ⟨j, rfl⟩ := hmine
    rw [areaStep_self, entryRights_makeEntry, guestAreaFlags_rights,
      kxMapRights_guestArea]
  · have hne : ∀ j, idx ≠ guestAreaIndex call.cpu j := fun j heq => hmine ⟨j, heq⟩
    rw [areaStep_of_ne _ _ _ hne] at hpresent ⊢
    exact h idx hidx hpresent

/-- After `kkm_mmu_set_kx_global_info` on an empty page table. -/
theorem followsKxMap_setKxGlobalInfo
    {kx : KkmMmuPml4e} {m : Memory}
    (hzero : ∀ idx < 512, m.entry kx.pt.va idx = 0#64) (page : Fin 4 → PhysPage) :
    FollowsKxMap kx
      (kkmMmuSetKxGlobalInfo kx (page 0) (page 1) (page 2) (page 3) m) := by
  intro idx hidx hpresent
  by_cases hlow : idx < 4
  · have hentry := kkmMmuSetKxGlobalInfo_entry kx page m ⟨idx, hlow⟩
    rw [hentry, entryRights_makeEntry, kxGlobalFlags_rights]
  · have hrest : (kkmMmuSetKxGlobalInfo kx (page 0) (page 1) (page 2) (page 3)
        m).entry kx.pt.va idx = m.entry kx.pt.va idx := by
      simp only [kkmMmuSetKxGlobalInfo, kkmMmuInsertPage, kkmPteIndexIdt,
        kkmPteIndexText0, kkmPteIndexText1, kkmPteIndexKx]
      rw [Memory.entry_setEntry_of_idx_ne _ _ (by omega),
        Memory.entry_setEntry_of_idx_ne _ _ (by omega),
        Memory.entry_setEntry_of_idx_ne _ _ (by omega),
        Memory.entry_setEntry_of_idx_ne _ _ (by omega)]
    rw [hrest, hzero idx hidx, present_zero] at hpresent
    cases hpresent

/-- The kx area as the processor sees it below its top-level entry: two
megabytes, each page with the rights of the map and none of them for user
code. -/
theorem TableChain.kx_rights
    {kx : KkmMmuPml4e} {m : Memory} (h : TableChain kx m) (hmap : FollowsKxMap kx m)
    {va : Nat} {g : Mapping} (hg : mapEntry m 3 kx.pgdEntry va = some g) :
    tableIndex 2 va = 0 ∧ tableIndex 1 va = 0 ∧ g.leaf.level = 0 ∧
      g.rights = kxMapRights (tableIndex 0 va) := by
  by_cases hva : tableIndex 2 va = 0 ∧ tableIndex 1 va = 0
  · rw [h.map_of_index hva.1 hva.2, mapEntry] at hg
    split at hg
    · rename_i hpresent
      cases hg
      exact ⟨hva.1, hva.2, rfl, hmap _ (tableIndex_lt 0 va) hpresent⟩
    · cases hg
  · rw [h.map_of_not_index hva] at hg
    cases hg

theorem user_notMem_kxMapRights (idx : Nat) : PageRight.user ∉ kxMapRights idx := by
  unfold kxMapRights
  split
  · decide
  · split
    · decide
    · decide

end Driver
end KkmModule
