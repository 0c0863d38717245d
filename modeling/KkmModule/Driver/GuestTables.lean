import KkmModule.Driver.GuestContents
import KkmModule.Driver.Kontainer
import KkmModule.Driver.PageFault
import Mathlib.Data.List.Pairwise

/-!
# The tables of a kontainer

A kontainer gets its table pages from the allocator one after the other, so
their frames increase: the two top-level tables, with 5-level paging their P4D
pages and the low P4D table, and the three pages of the private hierarchy.

`GuestTables` says that these pages hold some contents.  The functions that run
after the creation keep it: `kkm_mmu_sync` can only replace the entry shown in
the windows, and does so in both tables, `kkm_mmu_update_priv_area` writes into
the private page table.
-/

namespace KkmModule
namespace Driver

open Foundation

/-- What `kkm_mm_allocate_pages` stores for a block that starts at the frame. -/
def KkmMmuPageInfo.ofFrame (frame : Nat) : KkmMmuPageInfo :=
  ⟨some frame, frame * pageSize, frame * pageSize⟩

/-! ## Frames -/

/-- First frames of the blocks of a kontainer. -/
structure TableFrames where
  pgd : Nat
  p4d : Nat
  lowP4d : Nat
  pud : Nat
  pmd : Nat
  pt : Nat
deriving DecidableEq, Repr

/-- The frames of the tables, in the order of their allocation. -/
def TableFrames.frames (cfg : KkmConfig) (fr : TableFrames) : List Nat :=
  if cfg.l5 then
    [fr.pgd, fr.pgd + 1, fr.p4d, fr.p4d + 1, fr.lowP4d, fr.pud, fr.pmd, fr.pt]
  else [fr.pgd, fr.pgd + 1, fr.pud, fr.pmd, fr.pt]

/-- The page pointers of the kontainer lead to these frames. -/
structure Kkm.InFrames (cfg : KkmConfig) (kkm : Kkm) (fr : TableFrames) : Prop where
  gkPgd : kkm.gkPgd = .ofFrame fr.pgd
  gpPgd : kkm.gpPgd.va = (fr.pgd + 1) * pageSize
  gkP4d : cfg.l5 = true → kkm.gkP4d = .ofFrame fr.p4d
  gpP4d : cfg.l5 = true → kkm.gpP4d.va = (fr.p4d + 1) * pageSize
  lowP4d : cfg.l5 = true → kkm.lowP4d = .ofFrame fr.lowP4d
  guest : kkm.kkmGuestPml4e = pml4OfFrames fr.pud fr.pmd fr.pt
  increasing : (fr.frames cfg).Pairwise (· < ·)
  below : fr.pt * pageSize < 2 ^ 48

section Frames

variable {cfg : KkmConfig} {kkm : Kkm} {fr : TableFrames}

/-- Every frame of the tables belongs to a block of the kontainer. -/
theorem Kkm.InFrames.block
    (h : kkm.InFrames cfg fr) {frame : Nat} (hframe : frame ∈ fr.frames cfg) :
    ∃ page b, kkm.block page = some b ∧ b.Has frame := by
  have hof : ∀ (f order : Nat), (KkmMmuPageInfo.ofFrame f).block order = some ⟨f, order⟩ := by
    intro f order
    simp [KkmMmuPageInfo.block, KkmMmuPageInfo.ofFrame]
  have hpgd : kkm.block .pgd = some ⟨fr.pgd, 1⟩ := by rw [Kkm.block, h.gkPgd, hof]
  have hpud : kkm.block .pud = some ⟨fr.pud, 0⟩ := by rw [Kkm.block, h.guest]; exact hof _ _
  have hpmd : kkm.block .pmd = some ⟨fr.pmd, 0⟩ := by rw [Kkm.block, h.guest]; exact hof _ _
  have hpt : kkm.block .pt = some ⟨fr.pt, 0⟩ := by rw [Kkm.block, h.guest]; exact hof _ _
  have hguest : frame = fr.pgd ∨ frame = fr.pgd + 1 ∨ frame = fr.pud ∨
      frame = fr.pmd ∨ frame = fr.pt → ∃ page b, kkm.block page = some b ∧ b.Has frame := by
    rintro (rfl | rfl | rfl | rfl | rfl)
    · exact ⟨.pgd, _, hpgd, by simp [Block.Has, Block.stop]⟩
    · exact ⟨.pgd, _, hpgd, by simp [Block.Has, Block.stop]⟩
    · exact ⟨.pud, _, hpud, by simp [Block.Has, Block.stop]⟩
    · exact ⟨.pmd, _, hpmd, by simp [Block.Has, Block.stop]⟩
    · exact ⟨.pt, _, hpt, by simp [Block.Has, Block.stop]⟩
  cases hl5 : cfg.l5 with
  | false =>
      simp only [TableFrames.frames, hl5, Bool.false_eq_true, ↓reduceIte, List.mem_cons,
        List.not_mem_nil, or_false] at hframe
      exact hguest hframe
  | true =>
      have hp4d : kkm.block .p4d = some ⟨fr.p4d, 1⟩ := by rw [Kkm.block, h.gkP4d hl5, hof]
      have hlow : kkm.block .low = some ⟨fr.lowP4d, 0⟩ := by
        rw [Kkm.block, h.lowP4d hl5, hof]
      simp only [TableFrames.frames, hl5, ↓reduceIte, List.mem_cons, List.not_mem_nil,
        or_false] at hframe
      rcases hframe with hf | hf | rfl | rfl | rfl | hf
      · exact hguest (Or.inl hf)
      · exact hguest (Or.inr (Or.inl hf))
      · exact ⟨.p4d, _, hp4d, by simp [Block.Has, Block.stop]⟩
      · exact ⟨.p4d, _, hp4d, by simp [Block.Has, Block.stop]⟩
      · exact ⟨.low, _, hlow, by simp [Block.Has, Block.stop]⟩
      · exact hguest (Or.inr (Or.inr hf))

end Frames

/-! ## Contents -/

/-- The table pages of the kontainer hold the contents. -/
structure GuestTables
    (cfg : KkmConfig) (kx : KkmMmuPml4e) (kkm : Kkm) (c : GuestContents) (m : Memory) :
    Prop where
  chain : TableChain kkm.kkmGuestPml4e m
  gk : HoldsContents cfg kx kkm.kkmGuestPml4e c kkm.gkPgd.va kkm.gkP4d.va
    kkm.lowP4d.va m
  gp : HoldsContents cfg kx kkm.kkmGuestPml4e c kkm.gpPgd.va kkm.gpP4d.va
    kkm.lowP4d.va m

section Tables

variable {cfg : KkmConfig} {kx : KkmMmuPml4e} {kkm : Kkm} {fr : TableFrames}
variable {c : GuestContents} {m m' : Memory}

/-- The order of the allocations. -/
theorem TableFrames.order
    (h : (fr.frames cfg).Pairwise (· < ·)) :
    fr.pgd + 1 < fr.pud ∧ fr.pud < fr.pmd ∧ fr.pmd < fr.pt ∧
      (cfg.l5 = true → fr.pgd + 1 < fr.p4d ∧ fr.p4d + 1 < fr.lowP4d ∧
        fr.lowP4d < fr.pud) := by
  unfold TableFrames.frames at h
  cases hl5 : cfg.l5 with
  | false =>
      simp [hl5] at h
      simp
      omega
  | true =>
      simp [hl5] at h
      simp
      omega

/-- All frames but that of the private page table. -/
def TableFrames.upper (cfg : KkmConfig) (fr : TableFrames) : Set Nat :=
  {f | f ∈ fr.frames cfg ∧ f ≠ fr.pt}

theorem TableFrames.mem_upper
    (h : (fr.frames cfg).Pairwise (· < ·)) :
    fr.pgd ∈ fr.upper cfg ∧ fr.pgd + 1 ∈ fr.upper cfg ∧ fr.pud ∈ fr.upper cfg ∧
      fr.pmd ∈ fr.upper cfg ∧
      (cfg.l5 = true → fr.p4d ∈ fr.upper cfg ∧ fr.p4d + 1 ∈ fr.upper cfg ∧
        fr.lowP4d ∈ fr.upper cfg) := by
  obtain ⟨hpud, hpmd, hpt, hl5⟩ := TableFrames.order h
  unfold TableFrames.upper TableFrames.frames
  cases hcfg : cfg.l5 with
  | false =>
      simp
      omega
  | true =>
      have h5 := hl5 hcfg
      simp
      omega

/-- Only the entries in these frames matter. -/
theorem GuestTables.congr
    (hfr : kkm.InFrames cfg fr) (h : GuestTables cfg kx kkm c m)
    (hsame : SameOn (fr.upper cfg) m m') :
    GuestTables cfg kx kkm c m' := by
  obtain ⟨hpgd, hpgd', hpud, hpmd, hl5⟩ := TableFrames.mem_upper hfr.increasing
  have hlow : cfg.l5 = true → ∀ idx < 512,
      m'.entry kkm.lowP4d.va idx = m.entry kkm.lowP4d.va idx := by
    intro h5 idx hidx
    rw [hfr.lowP4d h5]
    exact hsame _ (hl5 h5).2.2 idx hidx
  refine ⟨h.chain.congr ?_ ?_, h.gk.congr ?_ ?_ hlow, h.gp.congr ?_ ?_ hlow⟩
  · intro idx hidx
    rw [hfr.guest]
    exact hsame _ hpud idx hidx
  · intro idx hidx
    rw [hfr.guest]
    exact hsame _ hpmd idx hidx
  · intro idx hidx
    rw [hfr.gkPgd]
    exact hsame _ hpgd idx hidx
  · intro h5 idx hidx
    rw [hfr.gkP4d h5]
    exact hsame _ (hl5 h5).1 idx hidx
  · intro idx hidx
    rw [hfr.gpPgd]
    exact hsame _ hpgd' idx hidx
  · intro h5 idx hidx
    rw [hfr.gpP4d h5]
    exact hsame _ (hl5 h5).2.1 idx hidx

/-- Nothing outside the page fields matters. -/
theorem Kkm.InFrames.congr_kkm
    {kkm' : Kkm} (h : kkm.InFrames cfg fr)
    (hgk : kkm'.gkPgd = kkm.gkPgd) (hgp : kkm'.gpPgd = kkm.gpPgd)
    (hgk4 : kkm'.gkP4d = kkm.gkP4d) (hgp4 : kkm'.gpP4d = kkm.gpP4d)
    (hlow : kkm'.lowP4d = kkm.lowP4d) (hguest : kkm'.kkmGuestPml4e = kkm.kkmGuestPml4e) :
    kkm'.InFrames cfg fr := by
  obtain ⟨h1, h2, h3, h4, h5, h6, h7, h8⟩ := h
  rw [← hgk] at h1
  rw [← hgp] at h2
  rw [← hgk4] at h3
  rw [← hgp4] at h4
  rw [← hlow] at h5
  rw [← hguest] at h6
  exact ⟨h1, h2, h3, h4, h5, h6, h7, h8⟩

/-! ## Synchronisation -/

theorem entry_setEntry_table (m : Memory) (table i j : Nat) (e : BitVec 64) :
    (m.setEntry table i e).entry table j = if j = i then e else m.entry table j := by
  split
  · rename_i heq
    rw [heq]
    exact m.entry_setEntry_self table i e
  · rename_i hne
    exact m.entry_setEntry_of_idx_ne e hne

/-- Entries of both tables after the stores with 4-level paging. -/
theorem syncStoresL4_entry
    {gk gp table idx : Nat} (guest : KkmMmuPml4e) (e : BitVec 64)
    (hgk : pageSize ∣ gk) (hgp : pageSize ∣ gp) (hne : gk ≠ gp)
    (htable : table = gk ∨ table = gp) (hidx : idx < 512) :
    (syncStoresL4 gk gp guest e m).entry table idx =
      if idx = kkmPgdGuestPayloadBottomEntry ∨ idx = kkmPgdGuestPayloadTopEntry then e
      else if idx = 1 then guest.pgdEntry
      else m.entry table idx := by
  have fgk : ∀ (m : Memory) (i : Nat) (x : BitVec 64), i < 512 →
      (m.setEntry gp i x).entry gk idx = m.entry gk idx :=
    fun m _ x hi => m.entry_setEntry_of_table_ne x hgk hgp hne hidx hi
  have fgp : ∀ (m : Memory) (i : Nat) (x : BitVec 64), i < 512 →
      (m.setEntry gk i x).entry gp idx = m.entry gp idx :=
    fun m _ x hi => m.entry_setEntry_of_table_ne x hgp hgk hne.symm hidx hi
  simp only [kkmPgdGuestPayloadBottomEntry, kkmPgdGuestPayloadTopEntry]
  rcases htable with rfl | rfl
  · simp only [syncStoresL4, kkmPgdGuestPayloadBottomEntry, kkmPgdGuestPayloadTopEntry,
      fgk _ 0 _ (by decide), fgk _ 1 _ (by decide), fgk _ 255 _ (by decide),
      entry_setEntry_table]
    grind
  · simp only [syncStoresL4, kkmPgdGuestPayloadBottomEntry, kkmPgdGuestPayloadTopEntry,
      fgp _ 0 _ (by decide), fgp _ 1 _ (by decide), fgp _ 255 _ (by decide),
      entry_setEntry_table]
    grind

/-- Entries of the low P4D table after the stores with 5-level paging. -/
theorem syncStoresL5_low
    {gk gp low idx : Nat} (guest : KkmMmuPml4e) (e : BitVec 64)
    (hgk : pageSize ∣ gk) (hgp : pageSize ∣ gp) (hlow : pageSize ∣ low)
    (hgkNe : low ≠ gk) (hgpNe : low ≠ gp) (hidx : idx < 512) :
    (syncStoresL5 gk gp guest low low e m).entry low idx =
      if idx = kkmPgdGuestPayloadBottomEntry ∨ idx = kkmPgdGuestPayloadTopEntry then e
      else if idx = 1 then guest.pgdEntry
      else m.entry low idx := by
  simp only [syncStoresL5, kkmMmuInsertPage, kkmPgdGuestPayloadBottomEntry,
    kkmPgdGuestPayloadTopEntry, entry_setEntry_table]
  rw [Memory.entry_setEntry_of_table_ne _ _ hlow hgp hgpNe hidx (by decide),
    Memory.entry_setEntry_of_table_ne _ _ hlow hgk hgkNe hidx (by decide)]
  grind

/-- In the top-level tables only the link is written. -/
theorem syncStoresL5_top
    {gk gp low table idx : Nat} (guest : KkmMmuPml4e) (e : BitVec 64)
    (hgk : pageSize ∣ gk) (hgp : pageSize ∣ gp) (hlow : pageSize ∣ low)
    (hgkNe : low ≠ gk) (hgpNe : low ≠ gp) (hne : gk ≠ gp)
    (htable : table = gk ∨ table = gp) (hidx : idx < 512) :
    (syncStoresL5 gk gp guest low low e m).entry table idx =
      if idx = kkmPgdLowP4dEntry then kkmMmuMakeEntry low tableFlags
      else m.entry table idx := by
  have hdvd : pageSize ∣ table := by
    rcases htable with rfl | rfl
    · exact hgk
    · exact hgp
  have htableNe : table ≠ low := by
    rcases htable with rfl | rfl
    · exact hgkNe.symm
    · exact hgpNe.symm
  have flow : ∀ (m : Memory) (i : Nat) (x : BitVec 64), i < 512 →
      (m.setEntry low i x).entry table idx = m.entry table idx :=
    fun m _ x hi => m.entry_setEntry_of_table_ne x hdvd hlow htableNe hidx hi
  simp only [syncStoresL5, kkmMmuInsertPage, kkmPgdGuestPayloadBottomEntry,
    kkmPgdGuestPayloadTopEntry, flow _ 0 _ (by decide), flow _ 1 _ (by decide),
    flow _ 255 _ (by decide)]
  rcases htable with rfl | rfl
  · rw [Memory.entry_setEntry_of_table_ne _ _ hgk hgp hne hidx (by decide),
      entry_setEntry_table]
  · rw [entry_setEntry_table]
    split
    · rfl
    · rw [Memory.entry_setEntry_of_table_ne _ _ hgp hgk hne.symm hidx (by decide)]

/-- Once written, an entry of the windows or of the private slot is all that
differs. -/
theorem userEntry_after_sync
    (guest : KkmMmuPml4e) (window : Option (BitVec 64)) (e : BitVec 64) (idx : Nat) :
    (if idx = kkmPgdGuestPayloadBottomEntry ∨ idx = kkmPgdGuestPayloadTopEntry then e
      else if idx = 1 then guest.pgdEntry
      else userEntry guest window idx) = userEntry guest (some e) idx := by
  unfold userEntry
  cases window <;> grind

theorem page_ne {f g : Nat} (h : f ≠ g) : f * pageSize ≠ g * pageSize :=
  fun heq => h (Nat.eq_of_mul_eq_mul_right (by decide) heq)

/-- A synchronisation writes into the top-level tables and the low P4D table. -/
theorem syncGuestTables_sameOn
    (hfr : kkm.InFrames cfg fr) (nativePgd : Nat) (m : Memory) {frames : Set Nat}
    (hpgd : fr.pgd ∉ frames) (hpgd' : fr.pgd + 1 ∉ frames)
    (hlow : cfg.l5 = true → fr.lowP4d ∉ frames) :
    SameOn frames m (syncGuestTables cfg nativePgd kkm m) := by
  intro frame hframe idx hidx
  have hne : ∀ f, f ∉ frames → frame ≠ f := by
    rintro f hf rfl
    exact hf hframe
  refine kkmMmuSync_entry_of_ne cfg nativePgd kkm.kkmGuestPml4e kkm.lowP4d.pa m hidx
    (Nat.dvd_mul_left _ _) ?_ ?_ ?_ ?_ ?_
  · rw [hfr.gkPgd]
    exact Nat.dvd_mul_left _ _
  · rw [hfr.gkPgd]
    exact page_ne (hne _ hpgd)
  · rw [hfr.gpPgd]
    exact Nat.dvd_mul_left _ _
  · rw [hfr.gpPgd]
    exact page_ne (hne _ hpgd')
  · intro h5
    rw [hfr.lowP4d h5]
    exact ⟨Nat.dvd_mul_left _ _, page_ne (hne _ (hlow h5))⟩

section Window

variable {guest : KkmMmuPml4e} {table p4d lowP4d : Nat} {e : BitVec 64}

theorem HoldsContents.setWindow_l4
    (hl5 : cfg.l5 = false) (h : HoldsContents cfg kx guest c table p4d lowP4d m)
    (htop : ∀ idx < 512, m'.entry table idx =
      if idx = kkmPgdGuestPayloadBottomEntry ∨ idx = kkmPgdGuestPayloadTopEntry then e
      else if idx = 1 then guest.pgdEntry
      else m.entry table idx) :
    HoldsContents cfg kx guest { c with window := some e } table p4d lowP4d m' where
  top := by
    intro idx hidx
    rw [htop idx hidx, h.top idx hidx]
    simp only [GuestContents.topEntry, hl5, Bool.false_eq_true, ↓reduceIte]
    by_cases huser : idx < kernelStartIndex
    · simp only [if_pos huser]
      exact userEntry_after_sync guest c.window e idx
    · simp only [if_neg huser]
      simp only [kernelStartIndex] at huser
      rw [if_neg (by
          simp only [kkmPgdGuestPayloadBottomEntry, kkmPgdGuestPayloadTopEntry]
          omega), if_neg (by omega)]
  p4d := by
    intro h5
    rw [hl5] at h5
    cases h5
  lowP4d := by
    intro h5
    rw [hl5] at h5
    cases h5

theorem HoldsContents.setWindow_l5
    (hl5 : cfg.l5 = true) (h : HoldsContents cfg kx guest c table p4d lowP4d m)
    (htop : ∀ idx < 512, m'.entry table idx =
      if idx = kkmPgdLowP4dEntry then kkmMmuMakeEntry lowP4d tableFlags
      else m.entry table idx)
    (hp4d : ∀ idx < 512, m'.entry p4d idx = m.entry p4d idx)
    (hlow : ∀ idx < 512, m'.entry lowP4d idx =
      if idx = kkmPgdGuestPayloadBottomEntry ∨ idx = kkmPgdGuestPayloadTopEntry then e
      else if idx = 1 then guest.pgdEntry
      else m.entry lowP4d idx) :
    HoldsContents cfg kx guest { c with window := some e } table p4d lowP4d m' where
  top := by
    intro idx hidx
    rw [htop idx hidx, h.top idx hidx]
    simp only [GuestContents.topEntry, hl5, ↓reduceIte]
    split
    · rfl
    · rfl
  p4d := by
    intro _ idx hidx
    rw [hp4d idx hidx]
    exact h.p4d hl5 idx hidx
  lowP4d := by
    intro _ idx hidx
    rw [hlow idx hidx, h.lowP4d hl5 idx hidx]
    exact userEntry_after_sync guest c.window e idx

end Window

/-- `kkm_mmu_sync` leaves both tables as they are, or shows the native entry,
made executable, in the windows of both. -/
theorem GuestTables.sync
    (hfr : kkm.InFrames cfg fr) (h : GuestTables cfg kx kkm c m) (nativePgd : Nat) :
    ∃ window, (window = c.window ∨
        window = some (nativeKernelEntry cfg nativePgd m &&& ~~~pageNx)) ∧
      GuestTables cfg kx kkm { c with window := window }
        (syncGuestTables cfg nativePgd kkm m) := by
  obtain ⟨hpud, hpmd, hpt, hl5Order⟩ := TableFrames.order hfr.increasing
  -- the hierarchy and the P4D pages are none of the pages written
  have hsame : SameOn {f | f = fr.pud ∨ f = fr.pmd ∨
      cfg.l5 = true ∧ (f = fr.p4d ∨ f = fr.p4d + 1)} m
      (syncGuestTables cfg nativePgd kkm m) := by
    apply syncGuestTables_sameOn hfr
    · rintro (hf | hf | ⟨h5, hf⟩)
      · omega
      · omega
      · have horder := hl5Order h5
        omega
    · rintro (hf | hf | ⟨h5, hf⟩)
      · omega
      · omega
      · have horder := hl5Order h5
        omega
    · intro h5
      have horder := hl5Order h5
      rintro (hf | hf | ⟨-, hf⟩) <;> omega
  have hchain : TableChain kkm.kkmGuestPml4e (syncGuestTables cfg nativePgd kkm m) := by
    apply h.chain.congr
    · intro idx hidx
      rw [hfr.guest]
      exact hsame _ (Or.inl rfl) idx hidx
    · intro idx hidx
      rw [hfr.guest]
      exact hsame _ (Or.inr (Or.inl rfl)) idx hidx
  have hgk : pageSize ∣ kkm.gkPgd.va := by
    rw [hfr.gkPgd]
    exact Nat.dvd_mul_left _ _
  have hgp : pageSize ∣ kkm.gpPgd.va := by
    rw [hfr.gpPgd]
    exact Nat.dvd_mul_left _ _
  have hne : kkm.gkPgd.va ≠ kkm.gpPgd.va := by
    rw [hfr.gkPgd, hfr.gpPgd]
    exact page_ne (Nat.ne_of_lt (Nat.lt_succ_self _))
  by_cases hpa : kkmMmuEntryPa (nativeKernelEntry cfg nativePgd m) =
      kkmMmuEntryPa (guestPayloadEntry cfg kkm.gpPgd.va kkm.lowP4d.va m)
  · have hskip : syncGuestTables cfg nativePgd kkm m = m := by
      rw [syncGuestTables, kkmMmuSync]
      simp only [if_pos hpa]
    rw [hskip]
    exact ⟨c.window, Or.inl rfl, h⟩
  · -- both tables, each with its P4D page
    have hboth : ∀ table p4d, table = kkm.gkPgd.va ∨ table = kkm.gpPgd.va →
        (cfg.l5 = true → p4d = fr.p4d * pageSize ∨ p4d = (fr.p4d + 1) * pageSize) →
        HoldsContents cfg kx kkm.kkmGuestPml4e c table p4d kkm.lowP4d.va m →
        HoldsContents cfg kx kkm.kkmGuestPml4e
          { c with window := some (nativeKernelEntry cfg nativePgd m &&& ~~~pageNx) }
          table p4d kkm.lowP4d.va (syncGuestTables cfg nativePgd kkm m) := by
      intro table p4d htable hp4d hold
      cases hl5 : cfg.l5 with
      | false =>
          have hstores : syncGuestTables cfg nativePgd kkm m = syncStoresL4 kkm.gkPgd.va
              kkm.gpPgd.va kkm.kkmGuestPml4e
              (nativeKernelEntry cfg nativePgd m &&& ~~~pageNx) m := by
            rw [syncGuestTables, kkmMmuSync]
            simp only [if_neg hpa, hl5, Bool.false_eq_true, ↓reduceIte]
          rw [hstores]
          exact hold.setWindow_l4 hl5 fun idx hidx =>
            syncStoresL4_entry _ _ hgk hgp hne htable hidx
      | true =>
          obtain ⟨hp4dOrder, hlowOrder, -⟩ := hl5Order hl5
          have hlow : pageSize ∣ kkm.lowP4d.va := by
            rw [hfr.lowP4d hl5]
            exact Nat.dvd_mul_left _ _
          have hlowPa : kkm.lowP4d.pa = kkm.lowP4d.va := by
            rw [hfr.lowP4d hl5]
            rfl
          have hlowGk : kkm.lowP4d.va ≠ kkm.gkPgd.va := by
            rw [hfr.lowP4d hl5, hfr.gkPgd]
            exact page_ne (by omega)
          have hlowGp : kkm.lowP4d.va ≠ kkm.gpPgd.va := by
            rw [hfr.lowP4d hl5, hfr.gpPgd]
            exact page_ne (by omega)
          have hkeep : ∀ idx < 512, (syncGuestTables cfg nativePgd kkm m).entry p4d idx =
              m.entry p4d idx := by
            intro idx hidx
            rcases hp4d hl5 with rfl | rfl
            · exact hsame _ (by simp [hl5]) idx hidx
            · exact hsame _ (by simp [hl5]) idx hidx
          have hstores : syncGuestTables cfg nativePgd kkm m = syncStoresL5 kkm.gkPgd.va
              kkm.gpPgd.va kkm.kkmGuestPml4e kkm.lowP4d.va kkm.lowP4d.va
              (nativeKernelEntry cfg nativePgd m &&& ~~~pageNx) m := by
            rw [syncGuestTables, kkmMmuSync]
            simp only [if_neg hpa, hl5, ↓reduceIte, hlowPa]
          refine hold.setWindow_l5 hl5 ?_ hkeep ?_
          · intro idx hidx
            rw [hstores]
            exact syncStoresL5_top _ _ hgk hgp hlow hlowGk hlowGp hne htable hidx
          · intro idx hidx
            rw [hstores]
            exact syncStoresL5_low _ _ hgk hgp hlow hlowGk hlowGp hidx
    refine ⟨_, Or.inr rfl, hchain, hboth _ _ (Or.inl rfl) ?_ h.gk,
      hboth _ _ (Or.inr rfl) ?_ h.gp⟩
    · intro h5
      rw [hfr.gkP4d h5]
      exact Or.inl rfl
    · intro h5
      exact Or.inr (hfr.gpP4d h5)

/-! ## The private page table -/

theorem kkmMmuUpdatePrivArea_cases
    (guestVa monitorVa nativePgd : Nat) (guest : KkmMmuPml4e) (m : Memory) :
    (kkmMmuUpdatePrivArea cfg guestVa monitorVa nativePgd guest m).2 = m ∨
      ∃ e, (kkmMmuUpdatePrivArea cfg guestVa monitorVa nativePgd guest m).2 =
        m.setEntry guest.pt.va (pteIndex guestVa) e := by
  unfold kkmMmuUpdatePrivArea
  split
  · exact Or.inl rfl
  · exact Or.inr ⟨_, rfl⟩

/-- `kkm_mmu_update_priv_area` writes into the private page table only. -/
theorem kkmMmuUpdatePrivArea_sameOn
    (hfr : kkm.InFrames cfg fr) (guestVa monitorVa nativePgd : Nat) (m : Memory)
    {frames : Set Nat} (hpt : fr.pt ∉ frames) :
    SameOn frames m (kkmMmuUpdatePrivArea cfg guestVa monitorVa nativePgd
      kkm.kkmGuestPml4e m).2 := by
  rcases kkmMmuUpdatePrivArea_cases guestVa monitorVa nativePgd kkm.kkmGuestPml4e m with
    hskip | ⟨e, hset⟩
  · rw [hskip]
    exact SameOn.refl frames m
  · rw [hset, hfr.guest]
    exact sameOn_setEntry hpt (tableIndex_lt 0 guestVa) e

theorem GuestTables.updatePrivArea
    (hfr : kkm.InFrames cfg fr) (h : GuestTables cfg kx kkm c m)
    (guestVa monitorVa nativePgd : Nat) :
    GuestTables cfg kx kkm c (kkmMmuUpdatePrivArea cfg guestVa monitorVa nativePgd
      kkm.kkmGuestPml4e m).2 :=
  GuestTables.congr hfr h (kkmMmuUpdatePrivArea_sameOn hfr guestVa monitorVa nativePgd m
    fun hpt => hpt.2 rfl)

end Tables

end Driver
end KkmModule
