import KkmModule.Driver.PrivateHierarchy
import KkmModule.Foundation.GuardedRun

/-!
# The page table of the kx area

One page table holds the entries of the kx area: four global entries, and from
index 256 on four entries for each cpu, for the guest area that runs there.
The memory map of the source ends at cpu 63, and so does the table: the entries
of cpu 64 lie in the next page.  Along every sequence of calls for cpus below 64
the areas stay apart and a walk finds the pages set last.
-/

namespace KkmModule
namespace Driver

open Foundation

/-! ## The code -/

def kkmPteIndexIdt : Nat := 0
def kkmPteIndexText0 : Nat := 1
def kkmPteIndexText1 : Nat := 2
def kkmPteIndexKx : Nat := 3
def kkmCpuGaIndexStart : Nat := 256
abbrev kkmPerCpuGaPageCount : Nat := 4

/-- The number of a cpu is far from the end of an `int`. -/
def kkmMmuGetPerCpuStartIndex (cpuIndex : Nat) : Nat :=
  kkmCpuGaIndexStart + cpuIndex * kkmPerCpuGaPageCount

/-- A page below 2^48. -/
structure PhysPage where
  pa : Nat
  dvd : pageSize ∣ pa
  lt : pa < 2 ^ 48

def PhysPage.null : PhysPage := ⟨0, by decide, by decide⟩

/-- Flags of the entries of a guest area. -/
def guestAreaFlags : BitVec 64 := pageNx ||| pageRw ||| pagePresent

def kkmMmuSetGuestArea
    (kx : KkmMmuPml4e) (cpuIndex : Nat) (pa0 pa1 pa2 pa3 : PhysPage) (m : Memory) :
    Memory :=
  let pageIndex := kkmMmuGetPerCpuStartIndex cpuIndex
  let flags := guestAreaFlags
  let m := kkmMmuInsertPage kx.pt.va pageIndex pa0.pa flags m
  let m := kkmMmuInsertPage kx.pt.va (pageIndex + 1) pa1.pa flags m
  let m := kkmMmuInsertPage kx.pt.va (pageIndex + 2) pa2.pa flags m
  kkmMmuInsertPage kx.pt.va (pageIndex + 3) pa3.pa flags m

def kkmMmuGetCurCpuGuestVa (cpuIndex : Nat) : Nat :=
  let pageIndex := kkmMmuGetPerCpuStartIndex cpuIndex
  (kkmPrivateStartVa + pageIndex * pageSize) % 2 ^ 64

def kkmMmuSetKxGlobalInfo
    (kx : KkmMmuPml4e) (idtPa textPage0Pa textPage1Pa kxGlobalPa : PhysPage)
    (m : Memory) : Memory :=
  let m := kkmMmuInsertPage kx.pt.va kkmPteIndexIdt idtPa.pa
    (pageNx ||| pagePresent) m
  let m := kkmMmuInsertPage kx.pt.va kkmPteIndexText0 textPage0Pa.pa
    (pageRw ||| pagePresent) m
  let m := kkmMmuInsertPage kx.pt.va kkmPteIndexText1 textPage1Pa.pa
    (pageRw ||| pagePresent) m
  kkmMmuInsertPage kx.pt.va kkmPteIndexKx kxGlobalPa.pa
    (pageNx ||| pageRw ||| pagePresent) m

/-! ## The kx hierarchy -/

/-- The walk through an entry that holds `pgd_entry` of the kx hierarchy. -/
def kxWalk (kx : KkmMmuPml4e) (m : Memory) (va : Nat) : Option Leaf :=
  walkEntry m 3 kx.pgdEntry va

def kxWalkPa (kx : KkmMmuPml4e) (m : Memory) (va : Nat) : Option Nat :=
  (kxWalk kx m va).map fun leaf => leaf.base + va % span leaf.level

/-- The kx hierarchy with its memory. -/
structure KxTables where
  kx : KkmMmuPml4e
  mem : Memory
  hierarchy : PrivateHierarchy kx mem
  entry_present : present kx.pgdEntry = true
  entry_pa : entryPa kx.pgdEntry = kx.pud.va

/-- `kkm_mmu_init` sets it up. -/
def KxTables.ofInit
    {a : Pml4Answers} {s s' : PageState} {kx : KkmMmuPml4e}
    (hok : kkmMmuInit a s = (0, kx, s'))
    (hlow : s'.pool.next * pageSize ≤ 2 ^ 48) : KxTables where
  kx := kx
  mem := s'.mem
  hierarchy := kkmCreatePml4_hierarchy_of_index (by decide) (by decide) hok hlow
  entry_present := (kkmCreatePml4_pgdEntry hok hlow).1
  entry_pa := (kkmCreatePml4_pgdEntry hok hlow).2

/-- From the top-level entry a walk goes on in the pud page. -/
theorem kxWalk_eq
    {kx : KkmMmuPml4e} (hpresent : present kx.pgdEntry = true)
    (hpa : entryPa kx.pgdEntry = kx.pud.va) (m : Memory) (va : Nat) :
    kxWalk kx m va = walk m 2 kx.pud.va va := by
  have hlarge : isLarge 3 kx.pgdEntry = false := rfl
  rw [kxWalk, walkEntry, if_pos hpresent, hlarge, hpa]
  rfl

/-! ## The entries of a call -/

/-- One call of `kkm_mmu_set_guest_area`. -/
structure GuestAreaCall where
  cpu : Nat
  pa0 : PhysPage
  pa1 : PhysPage
  pa2 : PhysPage
  pa3 : PhysPage

def GuestAreaCall.page (call : GuestAreaCall) : Fin kkmPerCpuGaPageCount → PhysPage
  | 0 => call.pa0
  | 1 => call.pa1
  | 2 => call.pa2
  | 3 => call.pa3

/-- Index of an entry of a cpu. -/
def guestAreaIndex (cpu : Nat) (j : Fin kkmPerCpuGaPageCount) : Nat :=
  kkmMmuGetPerCpuStartIndex cpu + j

def areaStep (kx : KkmMmuPml4e) (m : Memory) (call : GuestAreaCall) : Memory :=
  kkmMmuSetGuestArea kx call.cpu call.pa0 call.pa1 call.pa2 call.pa3 m

section Entries

variable (kx : KkmMmuPml4e) (m : Memory) (call : GuestAreaCall)

/-- A call is four stores. -/
theorem areaStep_eq :
    areaStep kx m call =
      (((m.setEntry kx.pt.va (guestAreaIndex call.cpu 0)
          (kkmMmuMakeEntry (call.page 0).pa guestAreaFlags)).setEntry
        kx.pt.va (guestAreaIndex call.cpu 1)
          (kkmMmuMakeEntry (call.page 1).pa guestAreaFlags)).setEntry
        kx.pt.va (guestAreaIndex call.cpu 2)
          (kkmMmuMakeEntry (call.page 2).pa guestAreaFlags)).setEntry
        kx.pt.va (guestAreaIndex call.cpu 3)
          (kkmMmuMakeEntry (call.page 3).pa guestAreaFlags) := rfl

theorem guestAreaIndex_inj
    {cpu cpu' : Nat} {j j' : Fin kkmPerCpuGaPageCount}
    (h : guestAreaIndex cpu j = guestAreaIndex cpu' j') :
    cpu = cpu' ∧ j = j' := by
  have hj : j.val < 4 := j.isLt
  have hj' : j'.val < 4 := j'.isLt
  simp only [guestAreaIndex, kkmMmuGetPerCpuStartIndex, kkmPerCpuGaPageCount] at h
  refine ⟨by omega, Fin.ext (by omega)⟩

/-- An entry that is none of the cpu stays. -/
theorem areaStep_of_ne
    {idx : Nat} (hidx : ∀ j, idx ≠ guestAreaIndex call.cpu j) :
    (areaStep kx m call).entry kx.pt.va idx = m.entry kx.pt.va idx := by
  rw [areaStep_eq, Memory.entry_setEntry_of_idx_ne _ _ (hidx 3),
    Memory.entry_setEntry_of_idx_ne _ _ (hidx 2),
    Memory.entry_setEntry_of_idx_ne _ _ (hidx 1),
    Memory.entry_setEntry_of_idx_ne _ _ (hidx 0)]

/-- The entries of the cpu hold the pages of the call. -/
theorem areaStep_self (j : Fin kkmPerCpuGaPageCount) :
    (areaStep kx m call).entry kx.pt.va (guestAreaIndex call.cpu j) =
      kkmMmuMakeEntry (call.page j).pa guestAreaFlags := by
  have hne : ∀ j', j ≠ j' →
      guestAreaIndex call.cpu j ≠ guestAreaIndex call.cpu j' :=
    fun j' hj heq => hj (guestAreaIndex_inj heq).2
  rw [areaStep_eq]
  match j with
  | 3 => exact Memory.entry_setEntry_self ..
  | 2 =>
      rw [Memory.entry_setEntry_of_idx_ne _ _ (hne 3 (by decide))]
      exact Memory.entry_setEntry_self ..
  | 1 =>
      rw [Memory.entry_setEntry_of_idx_ne _ _ (hne 3 (by decide)),
        Memory.entry_setEntry_of_idx_ne _ _ (hne 2 (by decide))]
      exact Memory.entry_setEntry_self ..
  | 0 =>
      rw [Memory.entry_setEntry_of_idx_ne _ _ (hne 3 (by decide)),
        Memory.entry_setEntry_of_idx_ne _ _ (hne 2 (by decide)),
        Memory.entry_setEntry_of_idx_ne _ _ (hne 1 (by decide))]
      exact Memory.entry_setEntry_self ..

end Entries

/-! ## A sequence of calls -/

/-- Memory after a sequence of calls. -/
def areaRun (kx : KkmMmuPml4e) (m : Memory) (calls : List GuestAreaCall) : Memory :=
  calls.foldl (areaStep kx) m

/-- The last call for a cpu. -/
def lastCall (cpu : Nat) (calls : List GuestAreaCall) : Option GuestAreaCall :=
  lastGiven (fun call => if call.cpu = cpu then some (some call) else none) none calls

/-- A cpu without a call so far has its entries as they were. -/
def areaEntry (old : BitVec 64) (j : Fin kkmPerCpuGaPageCount) :
    Option GuestAreaCall → BitVec 64
  | some call => kkmMmuMakeEntry (call.page j).pa guestAreaFlags
  | none => old

section Run

variable (kx : KkmMmuPml4e) (m : Memory) (calls : List GuestAreaCall)

/-- The entries of a cpu show the last call for it. -/
theorem areaRun_entry (cpu : Nat) (j : Fin kkmPerCpuGaPageCount) :
    (areaRun kx m calls).entry kx.pt.va (guestAreaIndex cpu j) =
      areaEntry (m.entry kx.pt.va (guestAreaIndex cpu j)) j (lastCall cpu calls) := by
  induction calls using List.reverseRecOn with
  | nil => rfl
  | append_singleton calls call ih =>
      simp only [areaRun, lastCall, lastGiven, List.foldl_append, List.foldl_cons,
        List.foldl_nil] at ih ⊢
      by_cases hcpu : call.cpu = cpu
      · subst hcpu
        rw [areaStep_self, if_pos rfl]
        rfl
      · rw [areaStep_of_ne _ _ _ fun j' heq => hcpu (guestAreaIndex_inj heq).1.symm,
          ih, if_neg hcpu]
        rfl

end Run

/-! ## Cpus of the memory map -/

/-- One past the last cpu of the memory map in the source. -/
def kxMapCpus : Nat := 64

/-- Exactly the cpus of the map have their entries in the page table. -/
theorem guestAreaIndex_lt_iff (cpu : Nat) :
    (∀ j, guestAreaIndex cpu j < 512) ↔ cpu < kxMapCpus := by
  constructor
  · intro h
    have h3 : 256 + cpu * 4 + 3 < 512 := h 3
    change cpu < 64
    omega
  · intro hcpu j
    have hj : j.val < 4 := j.isLt
    change cpu < 64 at hcpu
    change 256 + cpu * 4 + j < 512
    omega

/-- Addresses of the kx area go through the first entries of the upper pages. -/
theorem tableIndex_kx {idx : Nat} (hidx : idx < 512) :
    let va := kkmPrivateStartVa + idx * pageSize
    tableIndex 2 va = 0 ∧ tableIndex 1 va = 0 ∧ tableIndex 0 va = idx ∧
      va % span 0 = 0 := by
  have h0 : span 0 = 0x1000 := by decide
  have h1 : span 1 = 0x200000 := by decide
  have h2 : span 2 = 0x40000000 := by decide
  simp only [tableIndex, kkmPrivateStartVa, pageSize, h0, h1, h2]
  omega

/-- The address of a page of a guest area, by the index of its entry. -/
theorem guestAreaVa_eq
    {cpu : Nat} (hcpu : cpu < kxMapCpus) (j : Fin kkmPerCpuGaPageCount) :
    kkmMmuGetCurCpuGuestVa cpu + j * pageSize =
      kkmPrivateStartVa + guestAreaIndex cpu j * pageSize := by
  have hj : j.val < 4 := j.isLt
  change cpu < 64 at hcpu
  change (0xFFFFFE8000000000 + (256 + cpu * 4) * 0x1000) % 2 ^ 64 + j * 0x1000 =
    0xFFFFFE8000000000 + (256 + cpu * 4 + j) * 0x1000
  omega

/-! ## The hierarchy along the calls -/

theorem PrivateHierarchy.setKxGlobalInfo
    {kx : KkmMmuPml4e} {m : Memory} (h : PrivateHierarchy kx m)
    (idt text0 text1 global : PhysPage) :
    PrivateHierarchy kx (kkmMmuSetKxGlobalInfo kx idt text0 text1 global m) :=
  (((h.setPte (by decide) _).setPte (by decide) _).setPte (by decide) _).setPte
    (by decide) _

/-- Flags of the global entries. -/
def kxGlobalFlags : Fin 4 → BitVec 64
  | 0 => pageNx ||| pagePresent
  | 1 => pageRw ||| pagePresent
  | 2 => pageRw ||| pagePresent
  | 3 => pageNx ||| pageRw ||| pagePresent

theorem kxGlobalFlags_present (k : Fin 4) : present (kxGlobalFlags k) = true := by
  revert k
  decide

/-- The global entries hold the pages of the call. -/
theorem kkmMmuSetKxGlobalInfo_entry
    (kx : KkmMmuPml4e) (page : Fin 4 → PhysPage) (m : Memory) (k : Fin 4) :
    (kkmMmuSetKxGlobalInfo kx (page 0) (page 1) (page 2) (page 3) m).entry
        kx.pt.va k =
      kkmMmuMakeEntry (page k).pa (kxGlobalFlags k) := by
  have hcases : ∀ k : Fin 4, k = 3 ∨ k = 2 ∨ k = 1 ∨ k = 0 := by decide
  simp only [kkmMmuSetKxGlobalInfo, kkmMmuInsertPage, kkmPteIndexIdt,
    kkmPteIndexText0, kkmPteIndexText1, kkmPteIndexKx]
  rcases hcases k with rfl | rfl | rfl | rfl
  · exact Memory.entry_setEntry_self ..
  · rw [Memory.entry_setEntry_of_idx_ne _ _ (by decide)]
    exact Memory.entry_setEntry_self ..
  · rw [Memory.entry_setEntry_of_idx_ne _ _ (by decide),
      Memory.entry_setEntry_of_idx_ne _ _ (by decide)]
    exact Memory.entry_setEntry_self ..
  · rw [Memory.entry_setEntry_of_idx_ne _ _ (by decide),
      Memory.entry_setEntry_of_idx_ne _ _ (by decide),
      Memory.entry_setEntry_of_idx_ne _ _ (by decide)]
    exact Memory.entry_setEntry_self ..

/-- A call for a cpu of the map writes into the page table only. -/
theorem PrivateHierarchy.areaStep
    {kx : KkmMmuPml4e} {m : Memory} (h : PrivateHierarchy kx m)
    {call : GuestAreaCall} (hcpu : call.cpu < kxMapCpus) :
    PrivateHierarchy kx (areaStep kx m call) := by
  have hidx := (guestAreaIndex_lt_iff call.cpu).2 hcpu
  rw [areaStep_eq]
  exact (((h.setPte (hidx 0) _).setPte (hidx 1) _).setPte (hidx 2) _).setPte
    (hidx 3) _

theorem PrivateHierarchy.areaRun
    {kx : KkmMmuPml4e} {m : Memory} (h : PrivateHierarchy kx m)
    {calls : List GuestAreaCall} (hcpus : ∀ call ∈ calls, call.cpu < kxMapCpus) :
    PrivateHierarchy kx (areaRun kx m calls) := by
  induction calls generalizing m with
  | nil => exact h
  | cons call calls ih =>
      exact ih (h.areaStep (hcpus call List.mem_cons_self)) fun call' hcall' =>
        hcpus call' (List.mem_cons_of_mem _ hcall')

/-- The walk of an address of the kx area finds the page in its entry. -/
theorem kxWalkPa_of_entry
    {kx : KkmMmuPml4e} {m : Memory} (h : PrivateHierarchy kx m)
    (hpresent : present kx.pgdEntry = true) (hpa : entryPa kx.pgdEntry = kx.pud.va)
    {idx : Nat} (hidx : idx < 512) {page : PhysPage} {flags : BitVec 64}
    (hflags : present flags = true)
    (hentry : m.entry kx.pt.va idx = kkmMmuMakeEntry page.pa flags) :
    kxWalkPa kx m (kkmPrivateStartVa + idx * pageSize) = some page.pa := by
  obtain ⟨hpud, hpmd, hpte, hoffset⟩ := tableIndex_kx hidx
  obtain ⟨hp, ha⟩ := makeEntry_of_present page.dvd page.lt hflags
  have hleaf : kxWalk kx m (kkmPrivateStartVa + idx * pageSize) =
      some ⟨kkmMmuMakeEntry page.pa flags, 0⟩ := by
    rw [kxWalk_eq hpresent hpa, h.walk_of_index hpud hpmd, walk, hpte, hentry,
      walkEntry, if_pos hp]
  have hbase : Leaf.base ⟨kkmMmuMakeEntry page.pa flags, 0⟩ = page.pa := by
    rw [Leaf.base, ha]
    exact Nat.div_mul_cancel page.dvd
  rw [kxWalkPa, hleaf, Option.map_some, hbase, hoffset, Nat.add_zero]

/-- The walk of an address in the area of a cpu of the map finds its entry. -/
theorem kxWalkPa_guestArea
    {kx : KkmMmuPml4e} {m : Memory} (h : PrivateHierarchy kx m)
    (hpresent : present kx.pgdEntry = true) (hpa : entryPa kx.pgdEntry = kx.pud.va)
    {cpu : Nat} (hcpu : cpu < kxMapCpus) (j : Fin kkmPerCpuGaPageCount)
    {page : PhysPage}
    (hentry : m.entry kx.pt.va (guestAreaIndex cpu j) =
      kkmMmuMakeEntry page.pa guestAreaFlags) :
    kxWalkPa kx m (kkmMmuGetCurCpuGuestVa cpu + j * pageSize) = some page.pa := by
  rw [guestAreaVa_eq hcpu j]
  exact kxWalkPa_of_entry h hpresent hpa ((guestAreaIndex_lt_iff cpu).2 hcpu j)
    (by decide) hentry

/-! ## Main result -/

/-- The last call for a cpu is one of the calls for it. -/
theorem mem_of_lastCall
    {cpu : Nat} {calls : List GuestAreaCall} {call : GuestAreaCall}
    (h : lastCall cpu calls = some call) :
    call ∈ calls ∧ call.cpu = cpu := by
  induction calls using List.reverseRecOn with
  | nil => cases h
  | append_singleton calls last ih =>
      simp only [lastCall, lastGiven, List.foldl_append, List.foldl_cons,
        List.foldl_nil] at h ih
      by_cases hcpu : last.cpu = cpu
      · rw [if_pos hcpu] at h
        obtain rfl : last = call := Option.some.inj h
        exact ⟨List.mem_append_right _ List.mem_cons_self, hcpu⟩
      · rw [if_neg hcpu] at h
        obtain ⟨hmem, heq⟩ := ih h
        exact ⟨List.mem_append_left _ hmem, heq⟩

/-- What a sequence of calls is meant to do. -/
structure GuestAreasKept
    (kx : KkmMmuPml4e) (m : Memory) (calls : List GuestAreaCall) : Prop where
  /-- Every write falls inside the table. -/
  inside : ∀ call ∈ calls, ∀ j, guestAreaIndex call.cpu j < 512
  reached : ∀ cpu call, lastCall cpu calls = some call →
    kxWalkPa kx (areaRun kx m calls) (kkmMmuGetCurCpuGuestVa cpu) =
        some call.pa0.pa ∧
      kxWalkPa kx (areaRun kx m calls) (kkmMmuGetCurCpuGuestVa cpu + pageSize) =
        some call.pa1.pa
  /-- Each call leaves the entries of the other cpus and the global entries. -/
  others : ∀ before call after, calls = before ++ call :: after →
    ∀ cpu j, cpu ≠ call.cpu →
      (areaRun kx m (before ++ [call])).entry kx.pt.va (guestAreaIndex cpu j) =
        (areaRun kx m before).entry kx.pt.va (guestAreaIndex cpu j)
  globals : ∀ before call after, calls = before ++ call :: after →
    ∀ idx ≤ kkmPteIndexKx,
      (areaRun kx m (before ++ [call])).entry kx.pt.va idx =
        (areaRun kx m before).entry kx.pt.va idx

theorem areaRun_append
    (kx : KkmMmuPml4e) (m : Memory) (before : List GuestAreaCall)
    (call : GuestAreaCall) :
    areaRun kx m (before ++ [call]) = areaStep kx (areaRun kx m before) call := by
  rw [areaRun, List.foldl_append]
  rfl

/-- A sequence of calls after `kkm_mmu_set_kx_global_info` does what it is meant
to do exactly if all its cpus are in the memory map of the source. -/
theorem guestAreasKept_iff
    (t : KxTables) (idt text0 text1 global : PhysPage)
    (calls : List GuestAreaCall) :
    GuestAreasKept t.kx (kkmMmuSetKxGlobalInfo t.kx idt text0 text1 global t.mem)
        calls ↔
      ∀ call ∈ calls, call.cpu < kxMapCpus := by
  constructor
  · intro hkept call hcall
    exact (guestAreaIndex_lt_iff call.cpu).1 (hkept.inside call hcall)
  · intro hcpus
    have hrun := (t.hierarchy.setKxGlobalInfo idt text0 text1 global).areaRun hcpus
    constructor
    · intro call hcall
      exact (guestAreaIndex_lt_iff call.cpu).2 (hcpus call hcall)
    · intro cpu call hlast
      obtain ⟨hmem, rfl⟩ := mem_of_lastCall hlast
      have hentry : ∀ j, (areaRun t.kx
          (kkmMmuSetKxGlobalInfo t.kx idt text0 text1 global t.mem) calls).entry
            t.kx.pt.va (guestAreaIndex call.cpu j) =
          kkmMmuMakeEntry (call.page j).pa guestAreaFlags := by
        intro j
        rw [areaRun_entry, hlast]
        rfl
      have hreach := fun j => kxWalkPa_guestArea hrun t.entry_present t.entry_pa
        (hcpus call hmem) j (hentry j)
      exact ⟨hreach 0, hreach 1⟩
    · intro before call after _ cpu j hne
      rw [areaRun_append]
      exact areaStep_of_ne _ _ _ fun j' heq => hne (guestAreaIndex_inj heq).1
    · intro before call after _ idx hidx
      rw [areaRun_append]
      refine areaStep_of_ne _ _ _ fun j' => ?_
      simp only [kkmPteIndexKx, guestAreaIndex, kkmMmuGetPerCpuStartIndex,
        kkmCpuGaIndexStart] at hidx ⊢
      omega

/-- The hierarchy after the first allocations of the module. -/
def bootedKx : KxTables :=
  KxTables.ofInit (a := ⟨some 0, some 0, some 0⟩)
    (s := ⟨BlockPool.empty 1, fun _ => 0#64⟩) (kkmCreatePml4_some ..) (by decide)

def nullCall (cpu : Nat) : GuestAreaCall := ⟨cpu, .null, .null, .null, .null⟩

/-- The first entry of cpu 64 is one past the end of the table. -/
theorem not_guestAreasKept_cpu64 :
    guestAreaIndex 64 0 = 512 ∧
      ¬ GuestAreasKept bootedKx.kx
        (kkmMmuSetKxGlobalInfo bootedKx.kx .null .null .null .null bootedKx.mem)
        [nullCall 64] := by
  refine ⟨rfl, fun hkept => ?_⟩
  have hlt := hkept.inside (nullCall 64) List.mem_cons_self 0
  exact absurd hlt (by decide)

end Driver
end KkmModule
