import KkmModule.Driver.PrivateHierarchy

/-!
# The copied entry of the private area

`kkm_mmu_update_priv_area` follows the native tables of a monitor address down
to a page table and copies one entry of it into the private page table of the
guest.  Its loop looks at present bits only.  The processor also stops at a
large page, and finds nothing at a page-table entry that is not present.  So
the copy maps what the monitor address maps exactly where no large page is on
the way and the entry at its end, if there is one, is present.
-/

namespace KkmModule
namespace Driver

open Foundation

/-! ## The translation of the monitor address -/

/-- A monitor address in native page tables. -/
structure NativeAddress (cfg : KkmConfig) where
  mem : Memory
  pgd : Nat
  va : Nat
  /-- A large page that maps the address holds none of the tables on the way. -/
  apart : ∀ k, (walkStop mem (topLevel cfg) pgd va).level = k + 1 →
    present (walkStop mem (topLevel cfg) pgd va).entry = true →
    ∀ a ∈ walkPath mem (topLevel cfg) pgd va,
      ∀ d < span (k + 1),
        a ≠ (walkStop mem (topLevel cfg) pgd va).base + d

namespace NativeAddress

variable {cfg : KkmConfig}

/-- The entry at which the translation ends, present or not. -/
def stop (t : NativeAddress cfg) : Leaf :=
  walkStop t.mem (topLevel cfg) t.pgd t.va

/-- A memory with these tables, whatever the pages hold. -/
def Tables (t : NativeAddress cfg) (m : Memory) : Prop :=
  ∀ a ∈ walkPath t.mem (topLevel cfg) t.pgd t.va, m a = t.mem a

theorem stop_eq_of_tables
    (t : NativeAddress cfg) {m : Memory} (hm : t.Tables m) :
    walkStop m (topLevel cfg) t.pgd t.va = t.stop :=
  walkStop_congr_path hm

end NativeAddress

/-- What the copy for one fault is meant to do. -/
def CopiesTranslation
    (cfg : KkmConfig) (guestVa va pgd : Nat) (guest : KkmMmuPml4e) (m : Memory) :
    Prop :=
  let r := kkmMmuUpdatePrivArea cfg guestVa va pgd guest m
  let written := r.2.entry guest.pt.va (pteIndex guestVa)
  (r.1 = true →
    present written = true ∧
      ∃ pa, walkPa m (topLevel cfg) pgd va = some pa ∧
        entryPa written = pa / pageSize * pageSize) ∧
  (walkPa m (topLevel cfg) pgd va = none → r = (false, m))

section Copy

variable {cfg : KkmConfig} {guestVa va pgd table : Nat}
variable {guest : KkmMmuPml4e} {m : Memory}

theorem kkmMmuUpdatePrivArea_none
    (h : tableWalk m (topLevel cfg) pgd va = none) :
    kkmMmuUpdatePrivArea cfg guestVa va pgd guest m = (false, m) := by
  rw [← kkmMmuNativePageTable_eq] at h
  simp only [kkmMmuUpdatePrivArea, h]

theorem kkmMmuUpdatePrivArea_some
    (h : tableWalk m (topLevel cfg) pgd va = some table) :
    kkmMmuUpdatePrivArea cfg guestVa va pgd guest m =
      (true, m.setEntry guest.pt.va (pteIndex guestVa)
        (m.entry table (pteIndex va))) := by
  rw [← kkmMmuNativePageTable_eq] at h
  simp only [kkmMmuUpdatePrivArea, h]

/-- A copied entry that is not present is none of a translation. -/
theorem not_copiesTranslation_of_absent
    (h : tableWalk m (topLevel cfg) pgd va = some table)
    (habsent : present (m.entry table (pteIndex va)) = false) :
    ¬ CopiesTranslation cfg guestVa va pgd guest m := by
  rintro ⟨hwritten, _⟩
  rw [kkmMmuUpdatePrivArea_some h] at hwritten
  have hpresent := (hwritten rfl).1
  rw [Memory.entry_setEntry_self, habsent] at hpresent
  cases hpresent

/-- At a present page-table entry the copy is the translation. -/
theorem copiesTranslation_of_leaf
    (hlevel : (walkStop m (topLevel cfg) pgd va).level = 0)
    (hpresent : present (walkStop m (topLevel cfg) pgd va).entry = true) :
    CopiesTranslation cfg guestVa va pgd guest m := by
  obtain ⟨t, htable, hentry⟩ := tableWalk_of_stop_zero hlevel
  have hbase : (walkStop m (topLevel cfg) pgd va).base =
      entryPa (walkStop m (topLevel cfg) pgd va).entry := by
    rw [Leaf.base, hlevel]
    exact Nat.div_mul_cancel (pageSize_dvd_entryPa _)
  have hpa : walkPa m (topLevel cfg) pgd va =
      some (entryPa (walkStop m (topLevel cfg) pgd va).entry + va % pageSize) := by
    rw [walkPa, walk_eq_stop, if_pos hpresent, Option.map_some, hbase, hlevel]
    rfl
  constructor
  · intro _
    rw [kkmMmuUpdatePrivArea_some htable, Memory.entry_setEntry_self]
    change m.entry t (pteIndex va) = _ at hentry
    rw [hentry]
    refine ⟨hpresent, _, hpa, ?_⟩
    obtain ⟨q, hq⟩ := pageSize_dvd_entryPa
      (walkStop m (topLevel cfg) pgd va).entry
    have hlow : va % pageSize < pageSize := Nat.mod_lt _ (by decide)
    rw [hq, Nat.mul_add_div (by decide), Nat.div_eq_of_lt hlow, Nat.add_zero,
      Nat.mul_comm]
  · intro hnone
    rw [hpa] at hnone
    cases hnone

/-- At an absent entry above the page table nothing is copied. -/
theorem copiesTranslation_of_absent
    (hlevel : (walkStop m (topLevel cfg) pgd va).level ≠ 0)
    (habsent : present (walkStop m (topLevel cfg) pgd va).entry = false) :
    CopiesTranslation cfg guestVa va pgd guest m := by
  have hnone : kkmMmuUpdatePrivArea cfg guestVa va pgd guest m = (false, m) :=
    kkmMmuUpdatePrivArea_none (tableWalk_of_stop_absent habsent hlevel)
  refine ⟨fun htrue => ?_, fun _ => hnone⟩
  rw [hnone] at htrue
  cases htrue

end Copy

/-! ## A large page -/

section Large

variable {cfg : KkmConfig} (t : NativeAddress cfg)

/-- A write inside the large page leaves the tables on the way. -/
theorem NativeAddress.tables_setEntry
    {k : Nat} (hlevel : t.stop.level = k + 1)
    (hpresent : present t.stop.entry = true)
    {m : Memory} (hm : t.Tables m) {table idx : Nat} {e : BitVec 64}
    (hlow : t.stop.base ≤ table)
    (hhigh : table + pageSize ≤ t.stop.base + span (k + 1))
    (hidx : idx < 512) :
    t.Tables (m.setEntry table idx e) := by
  intro a ha
  have hapart := t.apart k hlevel hpresent a ha
    (table + 8 * idx - t.stop.base) (by simp only [pageSize] at hhigh; omega)
  rw [Memory.setEntry, Function.update_of_ne]
  · exact hm a ha
  · intro heq
    apply hapart
    change a = t.stop.base + (table + 8 * idx - t.stop.base)
    omega

/-- The address bits of the entry name a page of the large page. -/
theorem entryPa_within_base
    {leaf : Leaf} {k : Nat} (hlevel : leaf.level = k + 1) :
    leaf.base ≤ entryPa leaf.entry ∧
      entryPa leaf.entry + pageSize ≤ leaf.base + span (k + 1) := by
  have hpages : pageSize ∣ span (k + 1) :=
    span_dvd_span (l := 0) (Nat.zero_le _)
  have hdiv := Nat.div_add_mod (entryPa leaf.entry) (span (k + 1))
  have hmod := Nat.mod_lt (entryPa leaf.entry)
    (show 0 < span (k + 1) from Nat.two_pow_pos _)
  -- what is left of the large page is a whole number of pages
  have hrest : pageSize ∣ span (k + 1) - entryPa leaf.entry % span (k + 1) :=
    Nat.dvd_sub hpages ((Nat.dvd_mod_iff hpages).2 (pageSize_dvd_entryPa _))
  have hle := Nat.le_of_dvd (by omega) hrest
  rw [Leaf.base, hlevel, Nat.mul_comm]
  omega

/-- Contents of a large page with which the loop reads an absent entry out of
it. -/
theorem NativeAddress.exists_absent_of_large
    {k : Nat} (hlevel : t.stop.level = k + 1)
    (hpresent : present t.stop.entry = true) :
    ∃ m, t.Tables m ∧ ∃ table,
      tableWalk m (topLevel cfg) t.pgd t.va = some table ∧
        present (m.entry table (pteIndex t.va)) = false := by
  have hway : ∀ m, t.Tables m →
      tableWalk m (topLevel cfg) t.pgd t.va =
        tableWalk m k (entryPa t.stop.entry) t.va := by
    intro m hm
    rw [← t.stop_eq_of_tables hm] at hpresent hlevel ⊢
    exact tableWalk_of_stop_large hpresent hlevel
  have hlarge : isLarge t.stop.level t.stop.entry = true :=
    isLarge_of_walkStop hpresent fun hzero => by
      rw [stop, hzero] at hlevel
      cases hlevel
  have hk : k = 0 ∨ k = 1 := by
    rw [hlevel] at hlarge
    simp only [isLarge, Bool.and_eq_true, Bool.or_eq_true, beq_iff_eq] at hlarge
    omega
  obtain ⟨hlow, hhigh⟩ := entryPa_within_base hlevel
  have hstart : t.Tables t.mem := fun _ _ => rfl
  rcases hk with rfl | rfl
  · -- the page is taken for the page table
    refine ⟨_, t.tables_setEntry hlevel hpresent hstart hlow hhigh
      (tableIndex_lt 0 t.va) (e := 0#64), entryPa t.stop.entry, ?_, ?_⟩
    · rw [hway _ (t.tables_setEntry hlevel hpresent hstart hlow hhigh
        (tableIndex_lt 0 t.va))]
      rfl
    · rw [pteIndex, Memory.entry_setEntry_self]
      rfl
  · -- its first table points to another page of it
    have hspan : span (1 + 1) = 2 ^ 30 := rfl
    have hpage : pageSize = 2 ^ 12 := rfl
    obtain ⟨other, hother, hotherLow, hotherHigh, hne⟩ :
        ∃ other, pageSize ∣ other ∧ t.stop.base ≤ other ∧
          other + pageSize ≤ t.stop.base + span (1 + 1) ∧
          entryPa t.stop.entry ≠ other := by
      by_cases heq : entryPa t.stop.entry = t.stop.base
      · refine ⟨t.stop.base + pageSize, ?_, by omega, by omega, by omega⟩
        rw [← heq]
        exact Nat.dvd_add (pageSize_dvd_entryPa _) (dvd_refl _)
      · refine ⟨t.stop.base, ?_, le_refl _, by omega, heq⟩
        rw [Leaf.base, hlevel]
        exact Dvd.dvd.mul_left (span_dvd_span (l := 0) (Nat.zero_le _)) _
    have hotherLt : other < 2 ^ 52 := by
      have hbase : t.stop.base = entryPa t.stop.entry / 2 ^ 30 * 2 ^ 30 := by
        rw [Leaf.base, hlevel, hspan]
      have hlt := entryPa_lt t.stop.entry
      omega
    have hotherPa : entryPa (BitVec.ofNat 64 other ||| 1#64) = other := by
      rw [entryPa_or_of_disjoint _ _ (by decide)]
      exact entryPa_ofNat hother hotherLt
    have hfirst := t.tables_setEntry hlevel hpresent hstart hlow hhigh
      (tableIndex_lt 1 t.va) (e := BitVec.ofNat 64 other ||| 1#64)
    have hboth := t.tables_setEntry hlevel hpresent hfirst hotherLow hotherHigh
      (tableIndex_lt 0 t.va) (e := 0#64)
    refine ⟨_, hboth, other, ?_, ?_⟩
    · rw [hway _ hboth]
      simp only [tableWalk]
      rw [Memory.entry_setEntry_of_table_ne _ _ (pageSize_dvd_entryPa _) hother hne
        (tableIndex_lt 1 t.va) (tableIndex_lt 0 t.va), Memory.entry_setEntry_self,
        if_pos (by simp [present]), hotherPa]
    · rw [pteIndex, Memory.entry_setEntry_self]
      rfl

/-- The copy fails for some contents of the page. -/
theorem NativeAddress.exists_not_copies_of_large
    {k : Nat} (hlevel : t.stop.level = k + 1)
    (hpresent : present t.stop.entry = true)
    (guestVa : Nat) (guest : KkmMmuPml4e) :
    ∃ m, t.Tables m ∧ ¬ CopiesTranslation cfg guestVa t.va t.pgd guest m := by
  obtain ⟨m, hm, table, htable, habsent⟩ :=
    t.exists_absent_of_large hlevel hpresent
  exact ⟨m, hm, not_copiesTranslation_of_absent htable habsent⟩

end Large

/-! ## Main result -/

/-- Whatever the mapped pages hold, the copy is the translation of the monitor
address exactly where that ends at a present page-table entry or at an absent
entry above the page table. -/
theorem copiesTranslation_iff_present_leaf
    {cfg : KkmConfig} (t : NativeAddress cfg) (guestVa : Nat) (guest : KkmMmuPml4e) :
    (∀ m, t.Tables m → CopiesTranslation cfg guestVa t.va t.pgd guest m) ↔
      (present t.stop.entry = true ↔ t.stop.level = 0) := by
  constructor
  · intro hcopies
    constructor
    · intro hpresent
      cases hlevel : t.stop.level with
      | zero => rfl
      | succ k =>
          obtain ⟨m, hm, hnot⟩ :=
            t.exists_not_copies_of_large hlevel hpresent guestVa guest
          exact absurd (hcopies m hm) hnot
    · intro hlevel
      by_contra habsent
      rw [Bool.not_eq_true] at habsent
      obtain ⟨table, htable, hentry⟩ := tableWalk_of_stop_zero hlevel
      refine not_copiesTranslation_of_absent (m := t.mem) htable ?_
        (hcopies t.mem fun _ _ => rfl)
      rw [pteIndex, hentry]
      exact habsent
  · intro hiff m hm
    by_cases hpresent : present t.stop.entry = true
    · have hlevel := hiff.1 hpresent
      rw [← t.stop_eq_of_tables hm] at hpresent hlevel
      exact copiesTranslation_of_leaf hlevel hpresent
    · have hlevel : t.stop.level ≠ 0 := fun hzero => hpresent (hiff.2 hzero)
      rw [Bool.not_eq_true] at hpresent
      rw [← t.stop_eq_of_tables hm] at hpresent hlevel
      exact copiesTranslation_of_absent hlevel hpresent

/-- Four levels, in which `0x7F0000000000` is the first address of a 2 MiB page
at `0x200000` that holds zeros. -/
def hugePageMemory : Memory
  | 0x17F0 => 0x2067#64
  | 0x2000 => 0x3067#64
  | 0x3000 => 0x2000E7#64
  | _ => 0#64

theorem hugePageMemory_apart (k : Nat) :
    (walkStop hugePageMemory (topLevel .stock) 0x1000 0x7F0000000000).level = k + 1 →
      present (walkStop hugePageMemory (topLevel .stock) 0x1000
        0x7F0000000000).entry = true →
      ∀ a ∈ walkPath hugePageMemory (topLevel .stock) 0x1000 0x7F0000000000,
        ∀ d < span (k + 1),
          a ≠ (walkStop hugePageMemory (topLevel .stock) 0x1000
            0x7F0000000000).base + d := by
  have hstop : walkStop hugePageMemory (topLevel .stock) 0x1000 0x7F0000000000 =
      ⟨0x2000E7#64, 1⟩ := by decide
  have hpath : walkPath hugePageMemory (topLevel .stock) 0x1000 0x7F0000000000 =
      [0x17F0, 0x2000, 0x3000] := by decide
  have hbase : Leaf.base ⟨0x2000E7#64, 1⟩ = 0x200000 := by decide
  intro _ _ a ha d _
  rw [hpath] at ha
  rw [hstop, hbase]
  have hlow : a ≤ 0x3000 := by
    simp only [List.mem_cons, List.not_mem_nil, or_false] at ha
    omega
  omega

def hugePageAddress : NativeAddress .stock where
  mem := hugePageMemory
  pgd := 0x1000
  va := 0x7F0000000000
  apart := hugePageMemory_apart

def hugePagePml4e : KkmMmuPml4e :=
  ⟨0#64, ⟨some 16, 0x10000, 0x10000⟩, ⟨some 17, 0x11000, 0x11000⟩,
    ⟨some 18, 0x12000, 0x12000⟩⟩

/-- The copy succeeds, with an absent entry for a mapped address. -/
theorem not_copiesTranslation_hugePage :
    (kkmMmuUpdatePrivArea .stock kkmKmGuestPrivateMemStartVa hugePageAddress.va
        hugePageAddress.pgd hugePagePml4e hugePageAddress.mem).1 = true ∧
      walkPa hugePageAddress.mem (topLevel .stock) hugePageAddress.pgd
        hugePageAddress.va = some 0x200000 ∧
      ¬ CopiesTranslation .stock kkmKmGuestPrivateMemStartVa hugePageAddress.va
        hugePageAddress.pgd hugePagePml4e hugePageAddress.mem := by
  have htable : tableWalk hugePageAddress.mem (topLevel .stock) hugePageAddress.pgd
      hugePageAddress.va = some 0x200000 := by decide
  refine ⟨?_, by decide, not_copiesTranslation_of_absent htable (by decide)⟩
  rw [kkmMmuUpdatePrivArea_some htable]

end Driver
end KkmModule
