import Mathlib.Data.Nat.Bitwise
import Mathlib.Logic.Function.Basic

/-!
# Page tables and the architectural walk

Physical memory is a map from byte addresses of aligned 64-bit words to their
values.  A table is the byte address of a page of 512 entries.  Levels are
numbered from the page table (0) over the page directory (1), the directory
pointer table (2) and the level-4 table (3) to the level-5 table (4).

`walk m l t va` is the translation the processor performs: it starts at the
table `t` of level `l`, stops at an entry that is not present, at a large page
marked at level 1 or 2, or at a page-table entry, and returns that entry with
its level.

The lemmas say what a walk depends on: the low bits of the address, and, of a
top-level entry, its present bit and its physical address only.
-/

namespace KkmModule
namespace Foundation

/-- Physical memory, one 64-bit word for each aligned byte address. -/
abbrev Memory := Nat → BitVec 64

/-- Bytes in a page. -/
abbrev pageSize : Nat := 4096

/-- Entry `idx` of the table at byte address `table`. -/
def Memory.entry (m : Memory) (table idx : Nat) : BitVec 64 :=
  m (table + 8 * idx)

/-- Memory with entry `idx` of the table at `table` set to `e`. -/
def Memory.setEntry (m : Memory) (table idx : Nat) (e : BitVec 64) : Memory :=
  Function.update m (table + 8 * idx) e

theorem Memory.entry_setEntry_self
    (m : Memory) (table idx : Nat) (e : BitVec 64) :
    (m.setEntry table idx e).entry table idx = e := by
  simp [entry, setEntry]

theorem Memory.entry_setEntry_of_ne
    (m : Memory) {table table' idx idx' : Nat} (e : BitVec 64)
    (h : table + 8 * idx ≠ table' + 8 * idx') :
    (m.setEntry table' idx' e).entry table idx = m.entry table idx := by
  simp [entry, setEntry, Function.update_of_ne h]

/-- Entries of different pages have different addresses. -/
theorem entry_addr_ne
    {table table' idx idx' : Nat}
    (ht : pageSize ∣ table) (ht' : pageSize ∣ table')
    (hne : table ≠ table') (hi : idx < 512) (hi' : idx' < 512) :
    table + 8 * idx ≠ table' + 8 * idx' := by
  obtain ⟨a, rfl⟩ := ht
  obtain ⟨b, rfl⟩ := ht'
  simp only [pageSize] at *
  omega

theorem Memory.entry_setEntry_of_table_ne
    (m : Memory) {table table' idx idx' : Nat} (e : BitVec 64)
    (ht : pageSize ∣ table) (ht' : pageSize ∣ table')
    (hne : table ≠ table') (hi : idx < 512) (hi' : idx' < 512) :
    (m.setEntry table' idx' e).entry table idx = m.entry table idx :=
  m.entry_setEntry_of_ne e (entry_addr_ne ht ht' hne hi hi')

theorem Memory.entry_setEntry_of_idx_ne
    (m : Memory) {table idx idx' : Nat} (e : BitVec 64) (h : idx ≠ idx') :
    (m.setEntry table idx' e).entry table idx = m.entry table idx :=
  m.entry_setEntry_of_ne e (by omega)

/-- Bit 0: the entry is present. -/
def present (e : BitVec 64) : Bool := e.getLsbD 0

/-- Bits 12 to 51 of an entry. -/
def paMask : BitVec 64 := 0x000FFFFFFFFFF000#64

/-- Physical address in an entry. -/
def entryPa (e : BitVec 64) : Nat := (e &&& paMask).toNat

/-- Bit 7 at level 1 or 2: the entry maps a large page. -/
def isLarge (level : Nat) (e : BitVec 64) : Bool :=
  (level == 1 || level == 2) && e.getLsbD 7

/-- Bytes one entry of the level covers. -/
def span (level : Nat) : Nat := 2 ^ (12 + 9 * level)

/-- Index of the entry for `va` in a table of the level. -/
def tableIndex (level va : Nat) : Nat := va / span level % 512

theorem tableIndex_lt (level va : Nat) : tableIndex level va < 512 :=
  Nat.mod_lt _ (by decide)

/-- The entry at which a walk ends. -/
structure Leaf where
  entry : BitVec 64
  level : Nat
deriving DecidableEq, Repr

/-- Physical address of the page a leaf maps. -/
def Leaf.base (leaf : Leaf) : Nat :=
  entryPa leaf.entry / span leaf.level * span leaf.level

/-- The walk below an entry `e` of the given level. -/
def walkEntry (m : Memory) : Nat → BitVec 64 → Nat → Option Leaf
  | 0, e, _ => if present e then some ⟨e, 0⟩ else none
  | l + 1, e, va =>
      if present e then
        if isLarge (l + 1) e then some ⟨e, l + 1⟩
        else walkEntry m l (m.entry (entryPa e) (tableIndex l va)) va
      else none

/-- The walk from a table of the given level. -/
def walk (m : Memory) (level table va : Nat) : Option Leaf :=
  walkEntry m level (m.entry table (tableIndex level va)) va

/-- Physical address `va` is translated to. -/
def walkPa (m : Memory) (level table va : Nat) : Option Nat :=
  (walk m level table va).map fun leaf => leaf.base + va % span leaf.level

/-- An absent entry ends the walk. -/
theorem walkEntry_of_not_present
    (m : Memory) (l : Nat) {e : BitVec 64} (va : Nat)
    (h : present e = false) :
    walkEntry m l e va = none := by
  cases l <;> simp [walkEntry, h]

theorem walkEntry_level_le
    (m : Memory) (l : Nat) (e : BitVec 64) (va : Nat) {leaf : Leaf}
    (h : walkEntry m l e va = some leaf) :
    leaf.level ≤ l := by
  induction l generalizing e with
  | zero =>
      simp only [walkEntry] at h
      split at h
      · cases h
        exact le_refl 0
      · cases h
  | succ l ih =>
      simp only [walkEntry] at h
      split at h
      · split at h
        · cases h
          exact le_refl _
        · exact Nat.le_succ_of_le (ih _ h)
      · cases h

/-- Above the large-page levels an entry matters only through its present bit
and its physical address. -/
theorem walkEntry_congr_entry
    (m : Memory) {l : Nat} {e e' : BitVec 64} (va : Nat)
    (hl : 3 ≤ l)
    (hp : present e = present e')
    (hpa : entryPa e = entryPa e') :
    walkEntry m l e va = walkEntry m l e' va := by
  obtain ⟨k, rfl⟩ : ∃ k, l = k + 1 := ⟨l - 1, by omega⟩
  have hlarge : ∀ x : BitVec 64, isLarge (k + 1) x = false := by
    intro x
    have h1 : (k + 1 == 1) = false := by simp; omega
    have h2 : (k + 1 == 2) = false := by simp; omega
    simp [isLarge, h1, h2]
  simp [walkEntry, hp, hpa, hlarge]

theorem span_dvd_span {l k : Nat} (h : l ≤ k) : span l ∣ span k :=
  Nat.pow_dvd_pow 2 (by omega)

theorem span_succ (l : Nat) : span (l + 1) = 512 * span l := by
  unfold span
  rw [show 12 + 9 * (l + 1) = 9 + (12 + 9 * l) by omega, Nat.pow_add]

/-- Addresses that agree below the next level's span have the same index. -/
theorem tableIndex_congr
    {l va va' : Nat}
    (h : va % span (l + 1) = va' % span (l + 1)) :
    tableIndex l va = tableIndex l va' := by
  have hindex : ∀ x, tableIndex l x = x % span (l + 1) / span l := by
    intro x
    rw [span_succ, Nat.mul_comm, Nat.mod_mul_right_div_self]
    rfl
  rw [hindex, hindex, h]

theorem mod_span_congr
    {l k va va' : Nat} (hlk : l ≤ k)
    (h : va % span k = va' % span k) :
    va % span l = va' % span l := by
  have hd := span_dvd_span hlk
  rw [← Nat.mod_mod_of_dvd va hd, ← Nat.mod_mod_of_dvd va' hd, h]

/-- Below an entry of level `l` the walk depends on the address modulo the span
of `l` only. -/
theorem walkEntry_congr_va
    (m : Memory) (l : Nat) (e : BitVec 64) {va va' : Nat}
    (h : va % span l = va' % span l) :
    walkEntry m l e va = walkEntry m l e va' := by
  induction l generalizing e with
  | zero => rfl
  | succ l ih =>
      have hidx : tableIndex l va = tableIndex l va' := tableIndex_congr h
      have hlow : va % span l = va' % span l := mod_span_congr (by omega) h
      simp only [walkEntry, hidx, ih _ hlow]

/-- Two translations agree when the top-level entries agree on present bit and
physical address and the addresses agree below that level. -/
theorem walkPa_congr
    (m : Memory) {l table table' va va' : Nat}
    (hl : 3 ≤ l)
    (hva : va % span l = va' % span l)
    (hp : present (m.entry table (tableIndex l va)) =
      present (m.entry table' (tableIndex l va')))
    (hpa : entryPa (m.entry table (tableIndex l va)) =
      entryPa (m.entry table' (tableIndex l va'))) :
    walkPa m l table va = walkPa m l table' va' := by
  have hwalk : walk m l table va = walk m l table' va' := by
    unfold walk
    rw [walkEntry_congr_entry m va hl hp hpa]
    exact walkEntry_congr_va m l _ hva
  unfold walkPa
  rw [hwalk]
  cases hw : walk m l table' va' with
  | none => rfl
  | some leaf =>
      have hle : leaf.level ≤ l := walkEntry_level_le m l _ va' hw
      simp only [Option.map_some, mod_span_congr hle hva]

/-- One level of a walk through a present entry above the large-page levels. -/
theorem walk_succ_of_present
    (m : Memory) {l table va : Nat} (hl : 2 ≤ l)
    (hp : present (m.entry table (tableIndex (l + 1) va)) = true) :
    walk m (l + 1) table va =
      walk m l (entryPa (m.entry table (tableIndex (l + 1) va))) va := by
  have hlarge : isLarge (l + 1) (m.entry table (tableIndex (l + 1) va)) = false := by
    have h1 : (l + 1 == 1) = false := by simp; omega
    have h2 : (l + 1 == 2) = false := by simp; omega
    simp [isLarge, h1, h2]
  simp [walk, walkEntry, hp, hlarge]

theorem walkPa_succ_of_present
    (m : Memory) {l table va : Nat} (hl : 2 ≤ l)
    (hp : present (m.entry table (tableIndex (l + 1) va)) = true) :
    walkPa m (l + 1) table va =
      walkPa m l (entryPa (m.entry table (tableIndex (l + 1) va))) va := by
  rw [walkPa, walkPa, walk_succ_of_present m hl hp]

theorem walkPa_of_not_present
    (m : Memory) {l table va : Nat}
    (h : present (m.entry table (tableIndex l va)) = false) :
    walkPa m l table va = none := by
  rw [walkPa, walk, walkEntry_of_not_present m l va h, Option.map_none]

section Path

/-- Addresses of the entries read below an entry `e` of the given level. -/
def walkEntryPath (m : Memory) : Nat → BitVec 64 → Nat → List Nat
  | 0, _, _ => []
  | l + 1, e, va =>
      if present e then
        if isLarge (l + 1) e then []
        else (entryPa e + 8 * tableIndex l va) ::
          walkEntryPath m l (m.entry (entryPa e) (tableIndex l va)) va
      else []

/-- Addresses of the entries a walk reads. -/
def walkPath (m : Memory) (level table va : Nat) : List Nat :=
  (table + 8 * tableIndex level va) ::
    walkEntryPath m level (m.entry table (tableIndex level va)) va

theorem walkEntry_congr_path
    {m m' : Memory} {l : Nat} {e : BitVec 64} {va : Nat}
    (h : ∀ a ∈ walkEntryPath m l e va, m' a = m a) :
    walkEntry m' l e va = walkEntry m l e va := by
  induction l generalizing e with
  | zero => rfl
  | succ l ih =>
      simp only [walkEntry]
      simp only [walkEntryPath] at h
      split
      · rename_i hp
        rw [if_pos hp] at h
        split
        · rfl
        · rename_i hlarge
          rw [if_neg hlarge] at h
          have hread : m'.entry (entryPa e) (tableIndex l va) =
              m.entry (entryPa e) (tableIndex l va) :=
            h _ List.mem_cons_self
          rw [hread]
          exact ih fun a ha => h a (List.mem_cons_of_mem _ ha)
      · rfl

/-- A walk depends on the entries on its path only. -/
theorem walk_congr_path
    {m m' : Memory} {l table va : Nat}
    (h : ∀ a ∈ walkPath m l table va, m' a = m a) :
    walk m' l table va = walk m l table va := by
  have hread : m'.entry table (tableIndex l va) = m.entry table (tableIndex l va) :=
    h _ List.mem_cons_self
  unfold walk
  rw [hread]
  exact walkEntry_congr_path fun a ha => h a (List.mem_cons_of_mem _ ha)

end Path

section Stop

/-- The entry at which a walk below `e` ends, present or not. -/
def walkEntryStop (m : Memory) : Nat → BitVec 64 → Nat → Leaf
  | 0, e, _ => ⟨e, 0⟩
  | l + 1, e, va =>
      if present e = true ∧ isLarge (l + 1) e = false then
        walkEntryStop m l (m.entry (entryPa e) (tableIndex l va)) va
      else ⟨e, l + 1⟩

/-- The entry at which a walk ends, present or not. -/
def walkStop (m : Memory) (level table va : Nat) : Leaf :=
  walkEntryStop m level (m.entry table (tableIndex level va)) va

variable {m m' : Memory} {l table va : Nat}

theorem walkStop_succ :
    walkStop m (l + 1) table va =
      let e := m.entry table (tableIndex (l + 1) va)
      if present e = true ∧ isLarge (l + 1) e = false then walkStop m l (entryPa e) va
      else ⟨e, l + 1⟩ := rfl

theorem walkEntry_eq_stop (e : BitVec 64) :
    walkEntry m l e va =
      if present (walkEntryStop m l e va).entry = true then
        some (walkEntryStop m l e va)
      else none := by
  induction l generalizing e with
  | zero => rfl
  | succ l ih =>
      by_cases hp : present e = true
      · by_cases hlarge : isLarge (l + 1) e = true
        · simp [walkEntry, walkEntryStop, hp, hlarge]
        · simp [walkEntry, walkEntryStop, hp, hlarge, ih]
      · simp [walkEntry, walkEntryStop, hp]

/-- A walk finds the entry it ends at if that is present. -/
theorem walk_eq_stop :
    walk m l table va =
      if present (walkStop m l table va).entry = true then
        some (walkStop m l table va)
      else none :=
  walkEntry_eq_stop _

/-- Above the last level a walk ends at a present entry only if that maps a
large page. -/
theorem isLarge_of_walkStop
    (hpresent : present (walkStop m l table va).entry = true)
    (hlevel : (walkStop m l table va).level ≠ 0) :
    isLarge (walkStop m l table va).level (walkStop m l table va).entry = true := by
  induction l generalizing table with
  | zero => exact absurd rfl hlevel
  | succ l ih =>
      rw [walkStop_succ] at hpresent hlevel ⊢
      dsimp only at hpresent hlevel ⊢
      split
      · rename_i hnext
        rw [if_pos hnext] at hpresent hlevel
        exact ih hpresent hlevel
      · rename_i hstop
        rw [if_neg hstop] at hpresent
        simpa [hpresent] using hstop

theorem walkEntryStop_congr_path
    {e : BitVec 64} (h : ∀ a ∈ walkEntryPath m l e va, m' a = m a) :
    walkEntryStop m' l e va = walkEntryStop m l e va := by
  induction l generalizing e with
  | zero => rfl
  | succ l ih =>
      simp only [walkEntryStop]
      simp only [walkEntryPath] at h
      split
      · rename_i hnext
        rw [if_pos hnext.1, if_neg (by simp [hnext.2])] at h
        have hread : m'.entry (entryPa e) (tableIndex l va) =
            m.entry (entryPa e) (tableIndex l va) :=
          h _ List.mem_cons_self
        rw [hread]
        exact ih fun a ha => h a (List.mem_cons_of_mem _ ha)
      · rfl

theorem walkStop_congr_path
    (h : ∀ a ∈ walkPath m l table va, m' a = m a) :
    walkStop m' l table va = walkStop m l table va := by
  have hread : m'.entry table (tableIndex l va) = m.entry table (tableIndex l va) :=
    h _ List.mem_cons_self
  unfold walkStop
  rw [hread]
  exact walkEntryStop_congr_path fun a ha => h a (List.mem_cons_of_mem _ ha)

/-- The last table on a way that looks at present bits only. -/
def tableWalk (m : Memory) : Nat → Nat → Nat → Option Nat
  | 0, table, _ => some table
  | l + 1, table, va =>
      let e := m.entry table (tableIndex (l + 1) va)
      if present e = true then tableWalk m l (entryPa e) va else none

/-- Where a walk gets to the last level, so does the way. -/
theorem tableWalk_of_stop_zero
    (hlevel : (walkStop m l table va).level = 0) :
    ∃ t, tableWalk m l table va = some t ∧
      m.entry t (tableIndex 0 va) = (walkStop m l table va).entry := by
  induction l generalizing table with
  | zero => exact ⟨table, rfl, rfl⟩
  | succ l ih =>
      rw [walkStop_succ] at hlevel ⊢
      dsimp only at hlevel ⊢
      split
      · rename_i hnext
        rw [if_pos hnext] at hlevel
        simp only [tableWalk, if_pos hnext.1]
        exact ih hlevel
      · rename_i hstop
        rw [if_neg hstop] at hlevel
        cases hlevel

/-- Where a walk ends at an absent entry above, so does the way. -/
theorem tableWalk_of_stop_absent
    (habsent : present (walkStop m l table va).entry = false)
    (hlevel : (walkStop m l table va).level ≠ 0) :
    tableWalk m l table va = none := by
  induction l generalizing table with
  | zero => exact absurd rfl hlevel
  | succ l ih =>
      rw [walkStop_succ] at habsent hlevel
      dsimp only at habsent hlevel
      simp only [tableWalk]
      split
      · rename_i hpresent
        split at habsent
        · rename_i hnext
          rw [if_pos hnext] at hlevel
          exact ih habsent hlevel
        · rw [hpresent] at habsent
          cases habsent
      · rfl

/-- Where a walk ends at a large page, the way goes on into the page. -/
theorem tableWalk_of_stop_large
    {k : Nat} (hpresent : present (walkStop m l table va).entry = true)
    (hlevel : (walkStop m l table va).level = k + 1) :
    tableWalk m l table va =
      tableWalk m k (entryPa (walkStop m l table va).entry) va := by
  induction l generalizing table with
  | zero => cases hlevel
  | succ l ih =>
      rw [walkStop_succ] at hpresent hlevel ⊢
      dsimp only at hpresent hlevel ⊢
      split
      · rename_i hnext
        rw [if_pos hnext] at hpresent hlevel
        simp only [tableWalk, if_pos hnext.1]
        exact ih hpresent hlevel
      · rename_i hstop
        rw [if_neg hstop] at hpresent hlevel
        obtain rfl : l = k := Nat.succ.inj hlevel
        simp only [tableWalk, if_pos hpresent]

end Stop

section EntryBits

/-- The address bits of an entry survive a change of other bits. -/
theorem entryPa_and_of_mask
    (e mask : BitVec 64) (h : mask &&& paMask = paMask) :
    entryPa (e &&& mask) = entryPa e := by
  rw [entryPa, entryPa, BitVec.and_assoc, h]

theorem present_and_of_mask
    (e mask : BitVec 64) (h : mask.getLsbD 0 = true) :
    present (e &&& mask) = present e := by
  simp [present, h]

theorem entryPa_or_of_disjoint
    (e flags : BitVec 64) (h : flags &&& paMask = 0#64) :
    entryPa (e ||| flags) = entryPa e := by
  have hdist : (e ||| flags) &&& paMask =
      (e &&& paMask) ||| (flags &&& paMask) := by
    ext i
    simp [Bool.and_or_distrib_right]
  rw [entryPa, entryPa, hdist, h]
  simp

/-- A page-aligned address below `2 ^ n` is unchanged by a mask of the bits 12
to `n - 1`. -/
theorem ofNat_and_addressBits
    {n pa : Nat} (hn : 12 ≤ n)
    (hpa : pageSize ∣ pa) (hlt : pa < 2 ^ n) :
    BitVec.ofNat 64 pa &&& BitVec.ofNat 64 (2 ^ n - 2 ^ 12) =
      BitVec.ofNat 64 pa := by
  obtain ⟨k, rfl⟩ := hpa
  have hmask : 2 ^ n - 2 ^ 12 = (2 ^ (n - 12) - 1) <<< 12 := by
    rw [Nat.shiftLeft_eq, Nat.sub_mul, ← Nat.pow_add, Nat.one_mul,
      Nat.sub_add_cancel hn]
  have hk : pageSize * k = k <<< 12 := by
    rw [Nat.shiftLeft_eq, Nat.mul_comm]
  have hklt : k < 2 ^ (n - 12) := by
    have hsplit : 2 ^ n = 2 ^ (n - 12) * 2 ^ 12 := by
      rw [← Nat.pow_add, Nat.sub_add_cancel hn]
    rw [hsplit] at hlt
    simp only [pageSize] at hlt
    omega
  rw [← BitVec.ofNat_and, hmask, hk, ← Nat.shiftLeft_and_distrib,
    Nat.and_two_pow_sub_one_eq_mod, Nat.mod_eq_of_lt hklt]

theorem entryPa_ofNat
    {pa : Nat} (hpa : pageSize ∣ pa) (hlt : pa < 2 ^ 52) :
    entryPa (BitVec.ofNat 64 pa) = pa := by
  have h := ofNat_and_addressBits (n := 52) (by decide) hpa hlt
  have hmask : BitVec.ofNat 64 (2 ^ 52 - 2 ^ 12) = paMask := by decide
  rw [hmask] at h
  rw [entryPa, h, BitVec.toNat_ofNat, Nat.mod_eq_of_lt]
  exact lt_trans hlt (by decide)

theorem entryPa_lt (e : BitVec 64) : entryPa e < 2 ^ 52 := by
  rw [entryPa, BitVec.toNat_and]
  exact lt_of_le_of_lt Nat.and_le_right (by decide)

/-- The physical address of an entry is page aligned. -/
theorem pageSize_dvd_entryPa (e : BitVec 64) : pageSize ∣ entryPa e := by
  have hmask : paMask.toNat = (2 ^ 40 - 1) <<< 12 := by decide
  have hand : entryPa e =
      (e.toNat >>> 12 &&& (2 ^ 40 - 1)) <<< 12 := by
    rw [entryPa, BitVec.toNat_and, hmask]
    apply Nat.eq_of_testBit_eq
    intro i
    simp only [Nat.testBit_and, Nat.testBit_shiftLeft, Nat.testBit_shiftRight]
    by_cases hi : 12 ≤ i
    · simp [hi, Nat.add_sub_cancel' hi]
    · simp [hi]
  rw [hand, Nat.shiftLeft_eq]
  exact Dvd.intro_left _ rfl

theorem entryPa_zero : entryPa 0#64 = 0 := by decide

theorem present_zero : present 0#64 = false := by decide

end EntryBits

end Foundation
end KkmModule
