import KkmModule.Driver.GuestAddress

/-!
# The guest map follows the native tables

`kkm_mmu_sync` copies one native top-level entry into the guest tables, unless
both hold the same physical address.  This module connects the copy to the
address arithmetic of `kkm_guest_va_to_monitor_va`: after every call the walk
of a guest address reaches what the native walk of its monitor address reaches.

Between two calls all memory outside the guest tables may change.
-/

namespace KkmModule
namespace Driver

open Foundation

/-- The pages `kkm_mmu_sync` reads and writes.  `low_p4d` is used with 5-level
paging only. -/
structure SyncTables (cfg : KkmConfig) where
  native : Nat
  gkPgd : Nat
  gpPgd : Nat
  lowP4d : Nat
  guest : KkmMmuPml4e
  native_dvd : pageSize ∣ native
  gkPgd_dvd : pageSize ∣ gkPgd
  gpPgd_dvd : pageSize ∣ gpPgd
  native_ne_gkPgd : native ≠ gkPgd
  native_ne_gpPgd : native ≠ gpPgd
  gkPgd_ne_gpPgd : gkPgd ≠ gpPgd
  lowP4d_dvd : cfg.l5 = true → pageSize ∣ lowP4d
  lowP4d_lt : cfg.l5 = true → lowP4d < 2 ^ 48
  native_ne_lowP4d : cfg.l5 = true → native ≠ lowP4d
  gkPgd_ne_lowP4d : cfg.l5 = true → gkPgd ≠ lowP4d
  gpPgd_ne_lowP4d : cfg.l5 = true → gpPgd ≠ lowP4d

section Sync

variable {cfg : KkmConfig} (t : SyncTables cfg)

/-- The byte at `a` belongs to a guest table. -/
def SyncTables.InGuest (a : Nat) : Prop :=
  (t.gkPgd ≤ a ∧ a < t.gkPgd + pageSize) ∨
    (t.gpPgd ≤ a ∧ a < t.gpPgd + pageSize) ∨
    (cfg.l5 = true ∧ t.lowP4d ≤ a ∧ a < t.lowP4d + pageSize)

instance (a : Nat) : Decidable (t.InGuest a) :=
  inferInstanceAs (Decidable (_ ∨ _ ∨ _))

/-- The native table that holds the entry of the monitor's range. -/
def SyncTables.monitorTable (m : Memory) : Nat :=
  if cfg.l5 then entryPa (m.entry t.native 0) else t.native

/-- The native entry of the monitor's range. -/
def SyncTables.monitorEntry (m : Memory) : BitVec 64 :=
  m.entry (t.monitorTable m) (kkmPgdMonitorPayloadEntry cfg)

/-- An entry as Linux writes them: zero if absent, and never a mapping of the
frame at address zero. -/
def WellFormedEntry (e : BitVec 64) : Prop :=
  (present e = false → e = 0#64) ∧ (present e = true → entryPa e ≠ 0)

/-- Well-formed entries with one address agree on presence as well. -/
theorem WellFormedEntry.present_eq
    {e e' : BitVec 64}
    (he : WellFormedEntry e) (he' : WellFormedEntry e')
    (hpa : entryPa e = entryPa e') :
    present e = present e' := by
  have key : ∀ x, WellFormedEntry x → (present x = true ↔ entryPa x ≠ 0) := by
    intro x hx
    constructor
    · exact hx.2
    · intro hne
      cases hp : present x with
      | true => rfl
      | false =>
          rw [hx.1 hp] at hne
          exact absurd entryPa_zero hne
  have hiff : present e = true ↔ present e' = true := by
    rw [key e he, key e' he', hpa]
  exact Bool.eq_iff_iff.mpr hiff

/-- What holds of the native top-level entries in a memory. -/
structure SyncTables.NativeEntries (m : Memory) : Prop where
  wellFormed : WellFormedEntry (t.monitorEntry m)
  l5_present : cfg.l5 = true → present (m.entry t.native 0) = true
  l5_lt : cfg.l5 = true → entryPa (m.entry t.native 0) < 2 ^ 48
  l5_notGuest : cfg.l5 = true → ¬ t.InGuest (entryPa (m.entry t.native 0))

/-- Memory as a call finds it outside the guest tables. -/
structure NativeMemory where
  mem : Memory
  entries : t.NativeEntries mem

/-- Guest tables whose user half has not been written yet. -/
structure ZeroedTables where
  mem : Memory
  gkPgd_zero : ∀ idx, idx < 256 → mem.entry t.gkPgd idx = 0#64
  gpPgd_zero : ∀ idx, idx < 256 → mem.entry t.gpPgd idx = 0#64
  lowP4d_zero : cfg.l5 = true → ∀ idx, idx < 512 → mem.entry t.lowP4d idx = 0#64

/-- The guest tables of `m` within the memory `native`. -/
def SyncTables.overlay (m native : Memory) : Memory := fun a =>
  if t.InGuest a then m a else native a

/-- One call, on the guest tables the previous calls left. -/
def syncStep (m : Memory) (n : NativeMemory t) : Memory :=
  (kkmMmuSync cfg t.native t.gkPgd t.gpPgd t.guest t.lowP4d t.lowP4d
    (t.overlay m n.mem)).2

/-- Every guest address with a monitor address outside the private area is
translated by both guest tables as the native tables translate the monitor
address. -/
def GuestMapAgrees (m : Memory) : Prop :=
  ∀ (kkm : Kkm) (guestVa monitorVa : BitVec 64),
    kkmGuestVaToMonitorVa cfg kkm guestVa = some (monitorVa, false) →
    walkPa m (topLevel cfg) t.gkPgd guestVa.toNat =
        walkPa m (topLevel cfg) t.native monitorVa.toNat ∧
      walkPa m (topLevel cfg) t.gpPgd guestVa.toNat =
        walkPa m (topLevel cfg) t.native monitorVa.toNat

/-! ## The entry both windows show -/

/-- The windows of both guest tables show the entry `g`.  With 5-level paging
the tables may still lack the low p4d table; then nothing is mapped. -/
structure SyncTables.Shows (m : Memory) (g : BitVec 64) : Prop where
  wellFormed : WellFormedEntry g
  l4 : cfg.l5 = false → ∀ idx,
    idx = kkmPgdGuestPayloadBottomEntry ∨ idx = kkmPgdGuestPayloadTopEntry →
    m.entry t.gkPgd idx = g ∧ m.entry t.gpPgd idx = g
  l5_low : cfg.l5 = true → ∀ idx,
    idx = kkmPgdGuestPayloadBottomEntry ∨ idx = kkmPgdGuestPayloadTopEntry →
    m.entry t.lowP4d idx = g
  l5_top : cfg.l5 = true →
    (∀ top, top = t.gkPgd ∨ top = t.gpPgd →
      present (m.entry top 0) = true ∧ entryPa (m.entry top 0) = t.lowP4d) ∨
    (m.entry t.gkPgd 0 = 0#64 ∧ m.entry t.gpPgd 0 = 0#64 ∧ g = 0#64)

variable {t}

/-- The walk depends on the entry shown only: if that is as good as the native
one, the guest map agrees with the native map. -/
theorem guestMapAgrees_of_shows
    {m : Memory} {g : BitVec 64}
    (hshow : t.Shows m g)
    (hnative : t.NativeEntries m)
    (hp : present g = present (t.monitorEntry m))
    (hpa : entryPa g = entryPa (t.monitorEntry m)) :
    GuestMapAgrees t m := by
  intro kkm guestVa monitorVa hva
  obtain ⟨hg3, hg4, hm3, hm4, hlow⟩ := kkmGuestVaToMonitorVa_window hva
  -- from the table that holds the window's entry down
  have hbelow : ∀ table,
      (∀ idx, idx = kkmPgdGuestPayloadBottomEntry ∨
        idx = kkmPgdGuestPayloadTopEntry → m.entry table idx = g) →
      walkPa m 3 table guestVa.toNat =
        walkPa m 3 (t.monitorTable m) monitorVa.toNat := by
    intro table htable
    have hentry : m.entry table (tableIndex 3 guestVa.toNat) = g := htable _ hg3
    have hmon : m.entry (t.monitorTable m) (tableIndex 3 monitorVa.toNat) =
        t.monitorEntry m := by
      rw [hm3]
      rfl
    apply walkPa_congr m (by decide) hlow
    · rw [hentry, hmon, hp]
    · rw [hentry, hmon, hpa]
  cases hl5 : cfg.l5 with
  | false =>
      have htop : topLevel cfg = 3 := by simp [topLevel, hl5]
      have hmonTable : t.monitorTable m = t.native := by
        simp [SyncTables.monitorTable, hl5]
      rw [htop, ← hmonTable]
      constructor
      · exact hbelow t.gkPgd fun idx hidx => (hshow.l4 hl5 idx hidx).1
      · exact hbelow t.gpPgd fun idx hidx => (hshow.l4 hl5 idx hidx).2
  | true =>
      have htop : topLevel cfg = 3 + 1 := by simp [topLevel, hl5]
      have hmonTable : t.monitorTable m = entryPa (m.entry t.native 0) := by
        simp [SyncTables.monitorTable, hl5]
      -- a present entry of the top level leads to the walk one level below
      have hdown : ∀ (table : Nat) (va : Nat), tableIndex (3 + 1) va = 0 →
          present (m.entry table 0) = true →
          walkPa m (3 + 1) table va =
            walkPa m 3 (entryPa (m.entry table 0)) va := by
        intro table va hidx hpres
        rw [← hidx] at hpres ⊢
        exact walkPa_succ_of_present m (by decide) hpres
      have hnat : walkPa m (3 + 1) t.native monitorVa.toNat =
          walkPa m 3 (t.monitorTable m) monitorVa.toNat := by
        rw [hdown t.native monitorVa.toNat hm4 (hnative.l5_present hl5),
          hmonTable]
      rw [htop, hnat]
      have hlowWalk := hbelow t.lowP4d (hshow.l5_low hl5)
      rcases hshow.l5_top hl5 with hthere | ⟨hgk, hgp, hzero⟩
      · have hone : ∀ top, top = t.gkPgd ∨ top = t.gpPgd →
            walkPa m (3 + 1) top guestVa.toNat =
              walkPa m 3 (t.monitorTable m) monitorVa.toNat := by
          intro top hcase
          obtain ⟨hpres, haddr⟩ := hthere top hcase
          rw [hdown top guestVa.toNat hg4 hpres, haddr, hlowWalk]
        exact ⟨hone t.gkPgd (Or.inl rfl), hone t.gpPgd (Or.inr rfl)⟩
      · -- nothing synchronised yet: absence on both sides
        have hmonAbs : walkPa m 3 (t.monitorTable m) monitorVa.toNat = none := by
          apply walkPa_of_not_present
          rw [hm3]
          change present (t.monitorEntry m) = false
          rw [← hp, hzero]
          exact present_zero
        rw [hmonAbs]
        constructor
        · apply walkPa_of_not_present
          rw [show tableIndex (3 + 1) guestVa.toNat = 0 from hg4, hgk]
          exact present_zero
        · apply walkPa_of_not_present
          rw [show tableIndex (3 + 1) guestVa.toNat = 0 from hg4, hgp]
          exact present_zero

/-! ## What one call writes -/

/-- The copied entry: the native one, executable. -/
theorem wellFormedEntry_exec
    {e : BitVec 64} (h : WellFormedEntry e) :
    WellFormedEntry (e &&& ~~~pageNx) ∧
      present (e &&& ~~~pageNx) = present e ∧
      entryPa (e &&& ~~~pageNx) = entryPa e := by
  have hp : present (e &&& ~~~pageNx) = present e :=
    present_and_of_mask e _ (by decide)
  have hpa : entryPa (e &&& ~~~pageNx) = entryPa e :=
    entryPa_and_of_mask e _ (by decide)
  refine ⟨⟨?_, ?_⟩, hp, hpa⟩
  · intro habs
    rw [hp] at habs
    rw [h.1 habs]
    decide
  · intro hpres
    rw [hp] at hpres
    rw [hpa]
    exact h.2 hpres

/-- A page that is not a guest table keeps clear of all three. -/
theorem SyncTables.ne_of_notGuest
    {table : Nat} (h : ¬ t.InGuest table) :
    table ≠ t.gkPgd ∧ table ≠ t.gpPgd ∧ (cfg.l5 = true → table ≠ t.lowP4d) := by
  refine ⟨?_, ?_, ?_⟩
  · rintro rfl
    exact h (Or.inl ⟨le_refl _, by simp⟩)
  · rintro rfl
    exact h (Or.inr (Or.inl ⟨le_refl _, by simp⟩))
  · rintro hl5 rfl
    exact h (Or.inr (Or.inr ⟨hl5, le_refl _, by simp⟩))

theorem SyncTables.native_notGuest (t : SyncTables cfg) :
    ¬ t.InGuest t.native := by
  obtain ⟨n, hn⟩ := t.native_dvd
  obtain ⟨a, ha⟩ := t.gkPgd_dvd
  obtain ⟨b, hb⟩ := t.gpPgd_dvd
  have h1 := t.native_ne_gkPgd
  have h2 := t.native_ne_gpPgd
  simp only [pageSize] at hn ha hb
  rintro (h | h | ⟨hl5, h⟩)
  · simp only [pageSize] at h
    omega
  · simp only [pageSize] at h
    omega
  · obtain ⟨c, hc⟩ := t.lowP4d_dvd hl5
    have h3 := t.native_ne_lowP4d hl5
    simp only [pageSize] at h hc
    omega

/-- What a call leaves alone: every table that is not a guest table. -/
theorem kkmMmuSync_entry_notGuest
    {m : Memory} {table idx : Nat}
    (hdvd : pageSize ∣ table) (hnot : ¬ t.InGuest table) (hidx : idx < 512) :
    (kkmMmuSync cfg t.native t.gkPgd t.gpPgd t.guest t.lowP4d t.lowP4d
      m).2.entry table idx = m.entry table idx := by
  obtain ⟨hgk, hgp, hlow⟩ := t.ne_of_notGuest hnot
  exact kkmMmuSync_entry_of_ne cfg t.native t.guest t.lowP4d m hidx hdvd
    t.gkPgd_dvd hgk t.gpPgd_dvd hgp (fun hl5 => ⟨t.lowP4d_dvd hl5, hlow hl5⟩)

/-- The native entries survive a call. -/
theorem kkmMmuSync_nativeEntries
    {m : Memory} (h : t.NativeEntries m) :
    let m' := (kkmMmuSync cfg t.native t.gkPgd t.gpPgd t.guest t.lowP4d
      t.lowP4d m).2
    t.NativeEntries m' ∧ t.monitorEntry m' = t.monitorEntry m := by
  intro m'
  have hidx : kkmPgdMonitorPayloadEntry cfg < 512 := by
    unfold kkmPgdMonitorPayloadEntry
    split <;> decide
  have hnative : ∀ idx, idx < 512 → m'.entry t.native idx = m.entry t.native idx :=
    fun idx h => kkmMmuSync_entry_notGuest t.native_dvd t.native_notGuest h
  have hentry : t.monitorEntry m' = t.monitorEntry m := by
    unfold SyncTables.monitorEntry SyncTables.monitorTable
    cases hl5 : cfg.l5 with
    | false => simp [hnative _ hidx]
    | true =>
        have htop : m'.entry t.native 0 = m.entry t.native 0 :=
          hnative 0 (by decide)
        simp only [↓reduceIte, htop]
        exact kkmMmuSync_entry_notGuest (pageSize_dvd_entryPa _)
          (h.l5_notGuest hl5) hidx
  refine ⟨?_, hentry⟩
  have h0 : m'.entry t.native 0 = m.entry t.native 0 := hnative 0 (by decide)
  constructor
  · rw [hentry]
    exact h.wellFormed
  · rw [h0]
    exact h.l5_present
  · rw [h0]
    exact h.l5_lt
  · rw [h0]
    exact h.l5_notGuest

theorem nativeKernelEntry_eq
    {m : Memory} (h : t.NativeEntries m) :
    nativeKernelEntry cfg t.native m = t.monitorEntry m := by
  unfold nativeKernelEntry SyncTables.monitorEntry SyncTables.monitorTable
  cases hl5 : cfg.l5 with
  | false => simp
  | true => simp [kkmPgdLowP4dEntry, entryPa_and_pagePaMask (h.l5_lt hl5)]

/-- The entry the call compares with is the one the windows show. -/
theorem SyncTables.Shows.guestPayloadEntry_eq
    {m : Memory} {g : BitVec 64} (h : t.Shows m g) :
    guestPayloadEntry cfg t.gpPgd t.lowP4d m = g := by
  unfold guestPayloadEntry
  cases hl5 : cfg.l5 with
  | false => simpa using (h.l4 hl5 _ (Or.inl rfl)).2
  | true => simpa using h.l5_low hl5 _ (Or.inl rfl)

theorem shows_syncStoresL4
    (hl5 : cfg.l5 = false) {e : BitVec 64} (he : WellFormedEntry e) (m : Memory) :
    t.Shows (syncStoresL4 t.gkPgd t.gpPgd t.guest e m) e := by
  refine ⟨he, ?_, by simp [hl5], by simp [hl5]⟩
  intro _ idx hidx
  have hne := t.gkPgd_ne_gpPgd
  have fgk : ∀ (m : Memory) (i j : Nat) (e : BitVec 64), i < 512 → j < 512 →
      (m.setEntry t.gkPgd i e).entry t.gpPgd j = m.entry t.gpPgd j :=
    fun m _ _ e hi hj =>
      m.entry_setEntry_of_table_ne e t.gpPgd_dvd t.gkPgd_dvd hne.symm hj hi
  have fgp : ∀ (m : Memory) (i j : Nat) (e : BitVec 64), i < 512 → j < 512 →
      (m.setEntry t.gpPgd i e).entry t.gkPgd j = m.entry t.gkPgd j :=
    fun m _ _ e hi hj =>
      m.entry_setEntry_of_table_ne e t.gkPgd_dvd t.gpPgd_dvd hne hj hi
  rcases hidx with rfl | rfl <;>
    simp [syncStoresL4, fgk, fgp, Memory.entry_setEntry_self,
      Memory.entry_setEntry_of_idx_ne, kkmPgdGuestPayloadBottomEntry,
      kkmPgdGuestPayloadTopEntry]

theorem shows_syncStoresL5
    (hl5 : cfg.l5 = true) {e : BitVec 64} (he : WellFormedEntry e) (m : Memory) :
    t.Shows (syncStoresL5 t.gkPgd t.gpPgd t.guest t.lowP4d t.lowP4d e m) e := by
  have hlow := t.lowP4d_dvd hl5
  have hflow : ∀ (m : Memory) (top i : Nat) (e : BitVec 64),
      top = t.gkPgd ∨ top = t.gpPgd → i < 512 →
      (m.setEntry t.lowP4d i e).entry top 0 = m.entry top 0 := by
    rintro m top i e (rfl | rfl) hi
    · exact m.entry_setEntry_of_table_ne e t.gkPgd_dvd hlow
        (t.gkPgd_ne_lowP4d hl5) (by decide) hi
    · exact m.entry_setEntry_of_table_ne e t.gpPgd_dvd hlow
        (t.gpPgd_ne_lowP4d hl5) (by decide) hi
  have fgp : ∀ (m : Memory) (e : BitVec 64),
      (m.setEntry t.gpPgd 0 e).entry t.gkPgd 0 = m.entry t.gkPgd 0 :=
    fun m e => m.entry_setEntry_of_table_ne e t.gkPgd_dvd t.gpPgd_dvd
      t.gkPgd_ne_gpPgd (by decide) (by decide)
  refine ⟨he, by simp [hl5], ?_, ?_⟩
  · rintro _ idx (rfl | rfl) <;>
      simp [syncStoresL5, Memory.entry_setEntry_self,
        Memory.entry_setEntry_of_idx_ne, kkmPgdGuestPayloadBottomEntry,
        kkmPgdGuestPayloadTopEntry]
  · intro _
    left
    intro top htop
    have hentry : (syncStoresL5 t.gkPgd t.gpPgd t.guest t.lowP4d t.lowP4d e
        m).entry top 0 = kkmMmuMakeEntry t.lowP4d tableFlags := by
      simp only [syncStoresL5, kkmMmuInsertPage, kkmPgdLowP4dEntry]
      rw [hflow _ top _ _ htop (by decide), hflow _ top _ _ htop (by decide),
        hflow _ top _ _ htop (by decide)]
      rcases htop with rfl | rfl
      · rw [fgp, Memory.entry_setEntry_self]
      · rw [Memory.entry_setEntry_self]
    rw [hentry]
    exact makeEntry_table hlow (t.lowP4d_lt hl5)

/-- One call: whatever the windows showed before, afterwards they show an entry
as good as the native one. -/
theorem kkmMmuSync_shows
    {m : Memory} {g : BitVec 64}
    (hshow : t.Shows m g) (hnative : t.NativeEntries m) :
    ∃ g', t.Shows (kkmMmuSync cfg t.native t.gkPgd t.gpPgd t.guest t.lowP4d
        t.lowP4d m).2 g' ∧
      present g' = present (t.monitorEntry m) ∧
      entryPa g' = entryPa (t.monitorEntry m) := by
  unfold kkmMmuSync
  simp only [nativeKernelEntry_eq hnative, hshow.guestPayloadEntry_eq]
  split
  · -- equal addresses: the entry shown is up to date
    rename_i heq
    have hpa : entryPa g = entryPa (t.monitorEntry m) := by
      unfold entryPa
      exact congrArg BitVec.toNat heq.symm
    exact ⟨g, hshow, hshow.wellFormed.present_eq hnative.wellFormed hpa, hpa⟩
  · obtain ⟨hwf, hp, hpa⟩ := wellFormedEntry_exec hnative.wellFormed
    refine ⟨t.monitorEntry m &&& ~~~pageNx, ?_, hp, hpa⟩
    split
    · rename_i hl5
      exact shows_syncStoresL5 hl5 hwf m
    · rename_i hl5
      exact shows_syncStoresL4 (by simpa using hl5) hwf m

/-! ## Runs of calls -/

/-- Only the guest tables of the earlier memory count. -/
theorem SyncTables.Shows.overlay
    {m : Memory} {g : BitVec 64} (native : Memory) (h : t.Shows m g) :
    t.Shows (t.overlay m native) g := by
  have hgk : ∀ idx, idx < 512 →
      (t.overlay m native).entry t.gkPgd idx = m.entry t.gkPgd idx := by
    intro idx hidx
    have hin : t.InGuest (t.gkPgd + 8 * idx) := by
      left
      simp only [pageSize]
      omega
    simp [SyncTables.overlay, Memory.entry, hin]
  have hgp : ∀ idx, idx < 512 →
      (t.overlay m native).entry t.gpPgd idx = m.entry t.gpPgd idx := by
    intro idx hidx
    have hin : t.InGuest (t.gpPgd + 8 * idx) := by
      right
      left
      simp only [pageSize]
      omega
    simp [SyncTables.overlay, Memory.entry, hin]
  have hlow : cfg.l5 = true → ∀ idx, idx < 512 →
      (t.overlay m native).entry t.lowP4d idx = m.entry t.lowP4d idx := by
    intro hl5 idx hidx
    have hin : t.InGuest (t.lowP4d + 8 * idx) := by
      right
      right
      refine ⟨hl5, ?_⟩
      simp only [pageSize]
      omega
    simp [SyncTables.overlay, Memory.entry, hin]
  have hwindow : ∀ idx, idx = kkmPgdGuestPayloadBottomEntry ∨
      idx = kkmPgdGuestPayloadTopEntry → idx < 512 := by
    rintro idx (rfl | rfl) <;> decide
  refine ⟨h.wellFormed, ?_, ?_, ?_⟩
  · intro hl5 idx hidx
    rw [hgk idx (hwindow idx hidx), hgp idx (hwindow idx hidx)]
    exact h.l4 hl5 idx hidx
  · intro hl5 idx hidx
    rw [hlow hl5 idx (hwindow idx hidx)]
    exact h.l5_low hl5 idx hidx
  · intro hl5
    rw [hgk 0 (by decide), hgp 0 (by decide)]
    rcases h.l5_top hl5 with hthere | hzero
    · left
      rintro top (rfl | rfl)
      · rw [hgk 0 (by decide)]
        exact hthere _ (Or.inl rfl)
      · rw [hgp 0 (by decide)]
        exact hthere _ (Or.inr rfl)
    · exact Or.inr hzero

/-- The native entries are those of the current memory. -/
theorem NativeMemory.overlay (n : NativeMemory t) (m : Memory) :
    t.NativeEntries (t.overlay m n.mem) := by
  have hother : ∀ table idx, pageSize ∣ table → ¬ t.InGuest table → idx < 512 →
      (t.overlay m n.mem).entry table idx = n.mem.entry table idx := by
    intro table idx hdvd hnot hidx
    have hclear : ¬ t.InGuest (table + 8 * idx) := by
      obtain ⟨c, hc⟩ := hdvd
      obtain ⟨a, ha⟩ := t.gkPgd_dvd
      obtain ⟨b, hb⟩ := t.gpPgd_dvd
      simp only [SyncTables.InGuest, pageSize] at hnot hc ha hb ⊢
      rintro (h | h | ⟨hl5, h⟩)
      · apply hnot
        left
        omega
      · apply hnot
        right
        left
        omega
      · obtain ⟨d, hd⟩ := t.lowP4d_dvd hl5
        simp only [pageSize] at hd
        apply hnot
        right
        right
        refine ⟨hl5, ?_⟩
        omega
    simp [SyncTables.overlay, Memory.entry, hclear]
  have hnative : (t.overlay m n.mem).entry t.native 0 = n.mem.entry t.native 0 :=
    hother t.native 0 t.native_dvd t.native_notGuest (by decide)
  have hidx : kkmPgdMonitorPayloadEntry cfg < 512 := by
    unfold kkmPgdMonitorPayloadEntry
    split <;> decide
  have hentry : t.monitorEntry (t.overlay m n.mem) = t.monitorEntry n.mem := by
    unfold SyncTables.monitorEntry SyncTables.monitorTable
    rw [hnative]
    cases hl5 : cfg.l5 with
    | false =>
        simpa using hother t.native _ t.native_dvd t.native_notGuest hidx
    | true =>
        simpa using hother _ _ (pageSize_dvd_entryPa _)
          (n.entries.l5_notGuest hl5) hidx
  constructor
  · rw [hentry]
    exact n.entries.wellFormed
  · rw [hnative]
    exact n.entries.l5_present
  · rw [hnative]
    exact n.entries.l5_lt
  · rw [hnative]
    exact n.entries.l5_notGuest

/-- New tables show nothing. -/
theorem ZeroedTables.shows (z : ZeroedTables t) : t.Shows z.mem 0#64 := by
  have hwindow : ∀ idx, idx = kkmPgdGuestPayloadBottomEntry ∨
      idx = kkmPgdGuestPayloadTopEntry → idx < 256 := by
    rintro idx (rfl | rfl) <;> decide
  refine ⟨⟨fun _ => rfl, fun h => absurd h (by decide)⟩, ?_, ?_, ?_⟩
  · intro _ idx hidx
    exact ⟨z.gkPgd_zero idx (hwindow idx hidx), z.gpPgd_zero idx (hwindow idx hidx)⟩
  · intro hl5 idx hidx
    exact z.lowP4d_zero hl5 idx (by have := hwindow idx hidx; omega)
  · intro _
    right
    exact ⟨z.gkPgd_zero 0 (by decide), z.gpPgd_zero 0 (by decide), rfl⟩

theorem syncStep_shows
    {m : Memory} (n : NativeMemory t) (h : ∃ g, t.Shows m g) :
    (∃ g, t.Shows (syncStep t m n) g) ∧ GuestMapAgrees t (syncStep t m n) := by
  obtain ⟨g, hg⟩ := h
  have hnative := n.overlay m
  obtain ⟨g', hshow, hp, hpa⟩ := kkmMmuSync_shows (hg.overlay n.mem) hnative
  obtain ⟨hnative', hentry⟩ := kkmMmuSync_nativeEntries hnative
  refine ⟨⟨g', hshow⟩, ?_⟩
  apply guestMapAgrees_of_shows hshow hnative'
  · rw [hp, hentry]
  · rw [hpa, hentry]

theorem syncRun_shows (z : ZeroedTables t) (calls : List (NativeMemory t)) :
    ∃ g, t.Shows (calls.foldl (syncStep t) z.mem) g := by
  have hrun : ∀ m, (∃ g, t.Shows m g) →
      ∃ g, t.Shows (calls.foldl (syncStep t) m) g := by
    induction calls with
    | nil => exact fun m h => h
    | cons n calls ih => exact fun m h => ih _ (syncStep_shows n h).1
  exact hrun z.mem ⟨0#64, z.shows⟩

/-- Right after every call, whatever the native tables did before, the guest
map agrees with the native one. -/
theorem guestMapAgrees_after_every_sync
    (cfg : KkmConfig) (t : SyncTables cfg) (z : ZeroedTables t)
    (earlier : List (NativeMemory t)) (now : NativeMemory t) :
    GuestMapAgrees t ((earlier ++ [now]).foldl (syncStep t) z.mem) := by
  rw [List.foldl_append]
  exact (syncStep_shows now (syncRun_shows z earlier)).2

end Sync

/-- Three guest pages and a native table. -/
def testTables : SyncTables .stock where
  native := 0x4000
  gkPgd := 0x1000
  gpPgd := 0x2000
  lowP4d := 0x3000
  guest := .zeroed
  native_dvd := by decide
  gkPgd_dvd := by decide
  gpPgd_dvd := by decide
  native_ne_gkPgd := by decide
  native_ne_gpPgd := by decide
  gkPgd_ne_gpPgd := by decide
  lowP4d_dvd := by decide
  lowP4d_lt := by decide
  native_ne_lowP4d := by decide
  gkPgd_ne_lowP4d := by decide
  gpPgd_ne_lowP4d := by decide

def testZeroed : ZeroedTables testTables where
  mem := fun _ => 0#64
  gkPgd_zero := fun _ _ => rfl
  gpPgd_zero := fun _ _ => rfl
  lowP4d_zero := fun _ _ _ => rfl

/-- Native tables that map the monitor's first gigabyte to one large page. -/
def testMapped : NativeMemory testTables where
  mem := Memory.setEntry (Memory.setEntry (fun _ => 0#64) 0x4000 0 0x5007#64)
    0x5000 0 0x40000087#64
  entries :=
    { wellFormed := by constructor <;> decide
      l5_present := by decide
      l5_lt := by decide
      l5_notGuest := by decide }

/-- Native tables without the monitor's range. -/
def testUnmapped : NativeMemory testTables where
  mem := fun _ => 0#64
  entries :=
    { wellFormed := by constructor <;> decide
      l5_present := by decide
      l5_lt := by decide
      l5_notGuest := by decide }

/-- A page that comes back after it was gone is seen at its guest address. -/
theorem guestMap_after_remap :
    walkPa ([testMapped, testUnmapped, testMapped].foldl
        (syncStep testTables) testZeroed.mem) 3 0x1000 0x201000 =
      some 0x40201000 := by
  have h := (guestMapAgrees_after_every_sync .stock testTables testZeroed
    [testMapped, testUnmapped] testMapped .zeroed 0x201000#64 0x201000#64
    (by decide)).1
  have hnative : walkPa ([testMapped, testUnmapped, testMapped].foldl
      (syncStep testTables) testZeroed.mem) 3 0x4000 0x201000 =
        some 0x40201000 := by decide
  exact h.trans hnative

end Driver
end KkmModule
