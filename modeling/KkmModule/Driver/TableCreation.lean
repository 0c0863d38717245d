import KkmModule.Driver.GuestTables
import KkmModule.Driver.Lifecycle
import Mathlib.Data.List.Range

/-!
# The tables of a new kontainer

`PagesTaken` follows the allocations of one call: the frames they take are fresh
and increase, and every other page keeps its entries.  With it the pages that
`kkm_kontainer_init` leaves to a kontainer are fresh guest tables in the sense of
`kkm_mmu_copy_kernel_pgd`, so a creation that completes ends with the tables of
its kontainer filled.
-/

namespace KkmModule
namespace Driver

open Foundation

/-! ## Allocations -/

/-- From `s` to `s'` exactly these frames have been taken, and no other page has
been written. -/
structure PagesTaken (s s' : PageState) (frames : List Nat) : Prop where
  apart : s.pool.Apart → s'.pool.Apart
  allocated : ∀ f, s'.pool.Allocated f ↔ s.pool.Allocated f ∨ f ∈ frames
  next : s.pool.next ≤ s'.pool.next
  fresh : ∀ f ∈ frames, s.pool.next ≤ f ∧ f < s'.pool.next
  increasing : frames.Pairwise (· < ·)
  rest : SameOn {f | f ∉ frames} s.mem s'.mem

section PagesTaken

variable {s s' s'' : PageState} {frames frames' : List Nat}

theorem PagesTaken.trans
    (h : PagesTaken s s' frames) (h' : PagesTaken s' s'' frames') :
    PagesTaken s s'' (frames ++ frames') where
  apart := fun hs => h'.apart (h.apart hs)
  allocated := by
    intro f
    rw [h'.allocated, h.allocated, List.mem_append, or_assoc]
  next := le_trans h.next h'.next
  fresh := by
    intro f hf
    rcases List.mem_append.mp hf with hf | hf
    · obtain ⟨hlow, hhigh⟩ := h.fresh f hf
      exact ⟨hlow, Nat.lt_of_lt_of_le hhigh h'.next⟩
    · obtain ⟨hlow, hhigh⟩ := h'.fresh f hf
      exact ⟨le_trans h.next hlow, hhigh⟩
  increasing := by
    rw [List.pairwise_append]
    refine ⟨h.increasing, h'.increasing, ?_⟩
    intro f hf f' hf'
    exact Nat.lt_of_lt_of_le (h.fresh f hf).2 (h'.fresh f' hf').1
  rest := by
    refine (h.rest.mono ?_).trans (h'.rest.mono ?_)
    · exact fun f hf hmem => hf (List.mem_append_left _ hmem)
    · exact fun f hf hmem => hf (List.mem_append_right _ hmem)

/-- What has been there before is not among the frames. -/
theorem PagesTaken.notMem_of_lt
    (h : PagesTaken s s' frames) {f : Nat} (hf : f < s.pool.next) : f ∉ frames :=
  fun hmem => Nat.not_lt.mpr (h.fresh f hmem).1 hf

/-- Stores into the pages taken. -/
theorem PagesTaken.write
    (h : PagesTaken s s' frames) {m : Memory} (hm : SameOn {f | f ∉ frames} s'.mem m) :
    PagesTaken s { s' with mem := m } frames :=
  ⟨h.apart, h.allocated, h.next, h.fresh, h.increasing, h.rest.trans hm⟩

/-- One allocation. -/
theorem pagesTaken_alloc (s : PageState) (skip order : Nat) :
    PagesTaken s ⟨s.pool.take skip order, zeroBlock (s.pool.offer skip order) s.mem⟩
      (List.range' (s.pool.next + skip) (2 ^ order)) := by
  have hmem : ∀ f, f ∈ List.range' (s.pool.next + skip) (2 ^ order) ↔
      (s.pool.offer skip order).Has f := by
    intro f
    simp [List.mem_range'_1, Block.Has, Block.stop, BlockPool.offer]
  refine ⟨fun hs => hs.take skip order, ?_, ?_, ?_, List.pairwise_lt_range', ?_⟩
  · intro f
    rw [BlockPool.allocated_take, hmem, or_comm]
  · have hpos : 0 < 2 ^ order := Nat.two_pow_pos order
    simp only [BlockPool.take, BlockPool.offer, Block.stop]
    omega
  · intro f hf
    obtain ⟨hlow, hhigh⟩ := (hmem f).mp hf
    exact ⟨le_trans (Nat.le_add_right _ skip) hlow, hhigh⟩
  · apply sameOn_zeroBlock
    intro f hf hhas
    exact hf ((hmem f).mpr hhas)

end PagesTaken

/-! ## The pages of `kkm_kontainer_init` -/

section Init

variable {cfg : KkmConfig} {kkm : Kkm} {s : PageState}

/-- Two pages from an even frame on. -/
theorem kkmKontainerAllocateLvlPages_some
    (kPage pPage : KkmMmuPageInfo) {skip : Nat} (heven : Even (s.pool.next + skip)) :
    kkmKontainerAllocateLvlPages kPage pPage (some skip) s =
      (0, .ofFrame (s.pool.next + skip),
        { pPage with
          va := (s.pool.next + skip) * pageSize + pageSize
          pa := (s.pool.next + skip) * pageSize + pageSize },
        ⟨s.pool.take skip 1, zeroBlock (s.pool.offer skip 1) s.mem⟩) := by
  have hcount : kkmKontainerLvlPageCount ≠ 0 := by decide
  have horder : orderBase2 kkmKontainerLvlPageCount = 1 := by decide
  have hmask : ¬ ((s.pool.next + skip) * pageSize &&& kkmUserPgtableMask =
      kkmUserPgtableMask) := by
    rw [odd_page_iff]
    exact not_not.mpr heven
  simp only [kkmKontainerAllocateLvlPages, kkmMmAllocatePages_some kPage hcount skip s,
    horder, hmask, ne_eq, not_true_eq_false, if_false]
  rfl

theorem kkmKontainerAllocateLowPage_some (kkm : Kkm) (skip : Nat) :
    kkmKontainerAllocateLowPage (some skip) kkm s =
      (0, { kkm with lowP4d := .ofFrame (s.pool.next + skip) },
        ⟨s.pool.take skip 0, zeroBlock (s.pool.offer skip 0) s.mem⟩) := by
  have hcount : kkmKontainerLowPageCount ≠ 0 := by decide
  have horder : orderBase2 kkmKontainerLowPageCount = 0 := by decide
  simp only [kkmKontainerAllocateLowPage,
    kkmMmAllocatePages_some kkm.lowP4d hcount skip s, horder]
  rfl

/-- A hierarchy takes three pages, the last of them an empty page table. -/
theorem kkmCreatePml4_taken
    {ref : Pml4Ref} {kx guest : KkmMmuPml4e} {address : Nat} {a : Pml4Answers}
    {s' : PageState} (hok : kkmCreatePml4 ref kx address a s = (0, guest, s')) :
    ∃ f g h, guest = pml4OfFrames f g h ∧ PagesTaken s s' [f, g, h] ∧
      s'.pool.next = h + 1 ∧ ∀ idx < 512, s'.mem.entry (h * pageSize) idx = 0#64 := by
  obtain ⟨pud, pmd, pt, hfg, hgh, rfl, rfl⟩ := kkmCreatePml4_frames hok
  have htaken := ((pagesTaken_alloc s pud 0).trans (pagesTaken_alloc _ pmd 0)).trans
    (pagesTaken_alloc _ pt 0)
  refine ⟨_, _, _, rfl, htaken.write ?_, rfl, fun idx hidx => ?_⟩
  · refine (sameOn_setEntry ?_ (tableIndex_lt 2 address) _).trans
      (sameOn_setEntry ?_ (tableIndex_lt 1 address) _)
    · simp
    · simp
  · exact pml4Memory_pt s.mem hfg hgh hidx

/-- The private hierarchy: three pages that form a chain. -/
theorem kkmKontainerInitGuest_frames
    (kx : KkmMmuPml4e) {a : Pml4Answers} (ha : a.AllSome) (kkm : Kkm)
    (hlow : (kkmKontainerInitGuest kx a kkm s).2.2.pool.next * pageSize ≤ 2 ^ 48) :
    ∃ f g h s', kkmKontainerInitGuest kx a kkm s =
        (0, kkmKontainerInitMutexes { kkm with kkmGuestPml4e := pml4OfFrames f g h }, s') ∧
      PagesTaken s s' [f, g, h] ∧ TableChain (pml4OfFrames f g h) s'.mem ∧
      h * pageSize < 2 ^ 48 := by
  have hzero : (kkmCreatePml4 .kontainer kx kkmKmGuestPrivateMemStartVa a s).1 = 0 :=
    (kkmKontainerCreatePml4_zero_iff kx a kkm s).mpr ha
  obtain ⟨ret, guest, s', hok⟩ : ∃ ret guest s',
      kkmCreatePml4 .kontainer kx kkmKmGuestPrivateMemStartVa a s = (ret, guest, s') :=
    ⟨_, _, _, rfl⟩
  rw [hok] at hzero
  obtain rfl : ret = 0 := hzero
  have hinit : kkmKontainerInitGuest kx a kkm s =
      (0, kkmKontainerInitMutexes { kkm with kkmGuestPml4e := guest }, s') := by
    simp only [kkmKontainerInitGuest, kkmKontainerCreatePml4, hok, ne_eq, not_true_eq_false,
      if_false]
  rw [hinit] at hlow ⊢
  have hchain := kkmCreatePml4_chain (by decide) (by decide) hok hlow
  obtain ⟨f, g, h, rfl, htaken, hnext, -⟩ := kkmCreatePml4_taken hok
  refine ⟨f, g, h, s', rfl, htaken, hchain, ?_⟩
  simp only [hnext, pageSize] at hlow ⊢
  omega

/-- Pages of a new kontainer: its tables lie in fresh frames, the private
hierarchy is a chain, the top-level tables and the low P4D table are empty. -/
structure NewTables
    (cfg : KkmConfig) (s : PageState) (kkm : Kkm) (fr : TableFrames) (s' : PageState) :
    Prop where
  inFrames : kkm.InFrames cfg fr
  taken : PagesTaken s s' (fr.frames cfg)
  chain : TableChain kkm.kkmGuestPml4e s'.mem
  zeroed : ∀ f, f = fr.pgd ∨ f = fr.pgd + 1 ∨ cfg.l5 = true ∧ f = fr.lowP4d →
    ∀ idx < 512, s'.mem.entry (f * pageSize) idx = 0#64

theorem kkmKontainerInitRest_l4
    (kx : KkmMmuPml4e) (hl5 : cfg.l5 = false) {a : KontainerInitAnswers}
    (ha : a.pml4.AllSome) (kkm : Kkm)
    (hlow : (kkmKontainerInitRest cfg kx a kkm s).2.2.pool.next * pageSize ≤ 2 ^ 48) :
    ∃ f g h kkm' s', kkmKontainerInitRest cfg kx a kkm s = (0, kkm', s') ∧
      kkm'.gkPgd = kkm.gkPgd ∧ kkm'.gpPgd = kkm.gpPgd ∧
      kkm'.kkmGuestPml4e = pml4OfFrames f g h ∧ PagesTaken s s' [f, g, h] ∧
      TableChain (pml4OfFrames f g h) s'.mem ∧ h * pageSize < 2 ^ 48 := by
  simp only [kkmKontainerInitRest, hl5, Bool.false_eq_true, ↓reduceIte] at hlow ⊢
  obtain ⟨f, g, h, s', heq, htaken, hchain, hlt⟩ :=
    kkmKontainerInitGuest_frames kx ha kkm hlow
  exact ⟨f, g, h, _, s', heq, rfl, rfl, rfl, htaken, hchain, hlt⟩

theorem kkmKontainerInitRest_l5
    (kx : KkmMmuPml4e) (hl5 : cfg.l5 = true) {a : KontainerInitAnswers}
    (ha : a.pml4.AllSome) (hcompletes : L5Completes a s) (kkm : Kkm)
    (hlow : (kkmKontainerInitRest cfg kx a kkm s).2.2.pool.next * pageSize ≤ 2 ^ 48) :
    ∃ p low f g h kkm' s', kkmKontainerInitRest cfg kx a kkm s = (0, kkm', s') ∧
      kkm'.gkPgd = kkm.gkPgd ∧ kkm'.gpPgd = kkm.gpPgd ∧
      kkm'.gkP4d = .ofFrame p ∧ kkm'.gpP4d.va = (p + 1) * pageSize ∧
      kkm'.lowP4d = .ofFrame low ∧
      kkm'.kkmGuestPml4e = pml4OfFrames f g h ∧
      PagesTaken s s' [p, p + 1, low, f, g, h] ∧
      TableChain (pml4OfFrames f g h) s'.mem ∧ h * pageSize < 2 ^ 48 ∧
      ∀ idx < 512, s'.mem.entry (low * pageSize) idx = 0#64 := by
  obtain ⟨hlowSome, p4d, hp4d, heven⟩ := hcompletes
  obtain ⟨lowSkip, hlowSome⟩ := Option.ne_none_iff_exists'.mp hlowSome
  simp only [kkmKontainerInitRest, hl5, ↓reduceIte, kkmKontainerAllocateP4dPages, hp4d,
    hlowSome, kkmKontainerAllocateLvlPages_some _ _ heven,
    kkmKontainerAllocateLowPage_some, ne_eq, not_true_eq_false] at hlow ⊢
  obtain ⟨f, g, h, s', heq, htaken, hchain, hlt⟩ :=
    kkmKontainerInitGuest_frames kx ha _ hlow
  have hall := ((pagesTaken_alloc s p4d 1).trans (pagesTaken_alloc _ lowSkip 0)).trans htaken
  refine ⟨_, _, f, g, h, _, s', heq, rfl, rfl, rfl, ?_, rfl, rfl, hall, hchain, hlt, ?_⟩
  · exact (Nat.succ_mul _ _).symm
  · intro idx hidx
    exact (htaken.rest _ (htaken.notMem_of_lt (Nat.lt_succ_self _)) idx hidx).trans
      (zeroBlock_entry ⟨le_rfl, Nat.lt_succ_self _⟩ _ hidx)

/-- `kkm_kontainer_init`, when it gets all its pages. -/
theorem kkmKontainerInit_newTables
    (kx : KkmMmuPml4e) {a : KontainerInitAnswers} (ha : InitCompletes cfg a s) (kkm : Kkm)
    (hlow : (kkmKontainerInit cfg kx a kkm s).2.2.pool.next * pageSize ≤ 2 ^ 48) :
    ∃ fr kkm' s', kkmKontainerInit cfg kx a kkm s = (0, kkm', s') ∧
      NewTables cfg s kkm' fr s' := by
  obtain ⟨hpml4, pgd, hpgd, heven, hl5⟩ := ha
  have hfirst := pagesTaken_alloc s pgd 1
  -- the top-level tables are the first two pages
  have hempty : ∀ f, f = s.pool.next + pgd ∨ f = s.pool.next + pgd + 1 →
      f < (s.pool.take pgd 1).next ∧ ∀ idx < 512,
        Memory.entry (zeroBlock (s.pool.offer pgd 1) s.mem) (f * pageSize) idx = 0#64 := by
    intro f hf
    have hhas : (s.pool.offer pgd 1).Has f := by
      simp only [Block.Has, Block.stop, BlockPool.offer]
      omega
    exact ⟨hhas.2, fun idx hidx => zeroBlock_entry hhas _ hidx⟩
  simp only [kkmKontainerInit, kkmKontainerAllocatePgdPages, hpgd,
    kkmKontainerAllocateLvlPages_some _ _ heven, ne_eq, not_true_eq_false, if_false]
    at hlow ⊢
  cases hcfg : cfg.l5 with
  | false =>
      obtain ⟨f, g, h, kkm', s', heq, hgk, hgp, hguest, htaken, hchain, hlt⟩ :=
        kkmKontainerInitRest_l4 kx hcfg hpml4 _ hlow
      have hframes : TableFrames.frames cfg ⟨s.pool.next + pgd, 0, 0, f, g, h⟩ =
          List.range' (s.pool.next + pgd) (2 ^ 1) ++ [f, g, h] := by
        simp [TableFrames.frames, hcfg, List.range'_succ]
      have hall := hfirst.trans htaken
      rw [← hframes] at hall
      refine ⟨⟨s.pool.next + pgd, 0, 0, f, g, h⟩, kkm', s', heq,
        ⟨hgk, ?_, ?_, ?_, ?_, hguest, hall.increasing, hlt⟩, hall, ?_, ?_⟩
      · rw [hgp]
        exact (Nat.succ_mul _ _).symm
      · intro h5
        rw [hcfg] at h5
        cases h5
      · intro h5
        rw [hcfg] at h5
        cases h5
      · intro h5
        rw [hcfg] at h5
        cases h5
      · rw [hguest]
        exact hchain
      · rintro f' hf' idx hidx
        have hf' : f' = s.pool.next + pgd ∨ f' = s.pool.next + pgd + 1 := by
          rcases hf' with hf' | hf' | ⟨h5, -⟩
          · exact Or.inl hf'
          · exact Or.inr hf'
          · rw [hcfg] at h5
            cases h5
        obtain ⟨hlt', hzero⟩ := hempty f' hf'
        exact (htaken.rest _ (htaken.notMem_of_lt hlt') idx hidx).trans (hzero idx hidx)
  | true =>
      have hl5' : L5Completes a
          ⟨s.pool.take pgd 1, zeroBlock (s.pool.offer pgd 1) s.mem⟩ := hl5 hcfg
      obtain ⟨p, low, f, g, h, kkm', s', heq, hgk, hgp, hgk4, hgp4, hlow4, hguest, htaken,
        hchain, hlt, hzeroLow⟩ :=
        kkmKontainerInitRest_l5 kx hcfg hpml4 hl5' _ hlow
      have hframes : TableFrames.frames cfg ⟨s.pool.next + pgd, p, low, f, g, h⟩ =
          List.range' (s.pool.next + pgd) (2 ^ 1) ++ [p, p + 1, low, f, g, h] := by
        simp [TableFrames.frames, hcfg, List.range'_succ]
      have hall := hfirst.trans htaken
      rw [← hframes] at hall
      refine ⟨⟨s.pool.next + pgd, p, low, f, g, h⟩, kkm', s', heq,
        ⟨hgk, ?_, fun _ => hgk4, fun _ => hgp4, fun _ => hlow4, hguest, hall.increasing,
          hlt⟩, hall, ?_, ?_⟩
      · rw [hgp]
        exact (Nat.succ_mul _ _).symm
      · rw [hguest]
        exact hchain
      · rintro f' (hf' | hf' | ⟨-, rfl⟩) idx hidx
        · obtain ⟨hlt', hzero⟩ := hempty f' (Or.inl hf')
          exact (htaken.rest _ (htaken.notMem_of_lt hlt') idx hidx).trans (hzero idx hidx)
        · obtain ⟨hlt', hzero⟩ := hempty f' (Or.inr hf')
          exact (htaken.rest _ (htaken.notMem_of_lt hlt') idx hidx).trans (hzero idx hidx)
        · exact hzeroLow idx hidx

end Init

/-! ## Filling them -/

/-- The native tables a creation copies are none of the module's own pages. -/
structure NativeTables
    (cfg : KkmConfig) (pool : BlockPool) (m : Memory) (pgd : Nat) : Prop where
  top : NativeTop cfg m pgd
  pgd_free : ∀ f, pgd = f * pageSize → ¬ pool.Allocated f
  p4d_free : cfg.l5 = true → ∀ f,
    entryPa (m.entry pgd kkmKxPgdP4dIndex) = f * pageSize → ¬ pool.Allocated f

section Fill

variable {cfg : KkmConfig} {kkm : Kkm} {fr : TableFrames} {s s' : PageState} {pgd : Nat}

/-- A page that is not allocated afterwards is none of the new ones. -/
theorem NewTables.ne_of_free
    (h : NewTables cfg s kkm fr s') {page : Nat}
    (hfree : ∀ f, page = f * pageSize → ¬ s'.pool.Allocated f) {f : Nat}
    (hf : f ∈ fr.frames cfg) : f * pageSize ≠ page :=
  fun heq => hfree f heq.symm ((h.taken.allocated f).mpr (Or.inr hf))

/-- Nor has it been written. -/
theorem NewTables.entry_of_free
    (h : NewTables cfg s kkm fr s') {page : Nat} (hdvd : pageSize ∣ page)
    (hfree : ∀ f, page = f * pageSize → ¬ s'.pool.Allocated f) {idx : Nat}
    (hidx : idx < 512) : s'.mem.entry page idx = s.mem.entry page idx := by
  obtain ⟨f, rfl⟩ := hdvd
  rw [Nat.mul_comm]
  refine h.taken.rest f (fun hf => ?_) idx hidx
  exact h.ne_of_free hfree hf (Nat.mul_comm _ _)

theorem NewTables.frames_lt
    (h : NewTables cfg s kkm fr s') {f : Nat} (hf : f ∈ fr.frames cfg) :
    0 < f ∧ f * pageSize < 2 ^ 48 := by
  have hpos := Nat.lt_of_lt_of_le s.pool.next_pos (h.taken.fresh f hf).1
  obtain ⟨hpud, hpmd, hpt, hl5⟩ := TableFrames.order h.inFrames.increasing
  have hle : f ≤ fr.pt := by
    unfold TableFrames.frames at hf
    cases hcfg : cfg.l5 with
    | false =>
        simp [hcfg] at hf
        omega
    | true =>
        have h5 := hl5 hcfg
        simp [hcfg] at hf
        omega
  refine ⟨hpos, Nat.lt_of_le_of_lt ?_ h.inFrames.below⟩
  exact Nat.mul_le_mul_right pageSize hle

/-- A new top-level table with its P4D page, as the copy of the native tables
expects it. -/
theorem NewTables.guestPages
    (h : NewTables cfg s kkm fr s') (hnative : NativeTables cfg s'.pool s.mem pgd)
    {table p4d : Nat} (htable : table = fr.pgd ∨ table = fr.pgd + 1)
    (hp4d : p4d = fr.p4d ∨ p4d = fr.p4d + 1) {p4dVa : Nat}
    (hp4dVa : cfg.l5 = true → p4dVa = p4d * pageSize) :
    GuestPages cfg s'.mem pgd (table * pageSize) p4dVa := by
  obtain ⟨hpgd, hpgd', -, -, hl5⟩ := TableFrames.mem_upper h.inFrames.increasing
  have htableMem : table ∈ fr.frames cfg := by
    rcases htable with rfl | rfl
    · exact hpgd.1
    · exact hpgd'.1
  have hlast : s'.mem.entry pgd kkmKxPgdP4dIndex = s.mem.entry pgd kkmKxPgdP4dIndex :=
    h.entry_of_free hnative.top.dvd hnative.pgd_free (by decide)
  refine ⟨Nat.dvd_mul_left _ _, h.ne_of_free hnative.pgd_free htableMem, ?_, ?_, ?_⟩
  · refine h.zeroed table ?_
    rcases htable with rfl | rfl
    · exact Or.inl rfl
    · exact Or.inr (Or.inl rfl)
  · intro h5
    rw [hlast]
    exact h.ne_of_free (hnative.p4d_free h5) htableMem
  · intro h5
    have hp4dMem : p4d ∈ fr.frames cfg := by
      rcases hp4d with rfl | rfl
      · exact (hl5 h5).1.1
      · exact (hl5 h5).2.1.1
    obtain ⟨hpos, hlt⟩ := h.frames_lt hp4dMem
    have hne : p4d ≠ table := by
      have horder := (TableFrames.order h.inFrames.increasing).2.2.2 h5
      omega
    rw [hp4dVa h5]
    refine ⟨Nat.dvd_mul_left _ _, hlt, ?_, page_ne hne,
      h.ne_of_free hnative.pgd_free hp4dMem, ?_⟩
    · exact Nat.ne_of_gt (Nat.mul_pos hpos (by decide))
    · rw [hlast]
      exact h.ne_of_free (hnative.p4d_free h5) hp4dMem

/-- The call of `kkm_mmu_copy_kernel_pgd` that follows. -/
def NewTables.copyCall
    (h : NewTables cfg s kkm fr s') (hnative : NativeTables cfg s'.pool s.mem pgd)
    (kx : KkmMmuPml4e) : CopyKernelPgdCall cfg where
  mem := s'.mem
  kx := kx
  currentPgdBase := pgd
  guestKernelVa := kkm.gkPgd.va
  guestPayloadVa := kkm.gpPgd.va
  kernelP4dVa := kkm.gkP4d.va
  payloadP4dVa := kkm.gpP4d.va
  native := hnative.top.congr
    (h.entry_of_free hnative.top.dvd hnative.pgd_free (by decide))
  kernel := by
    rw [h.inFrames.gkPgd]
    refine h.guestPages hnative (Or.inl rfl) (Or.inl rfl) fun h5 => ?_
    rw [h.inFrames.gkP4d h5]
    rfl
  payload := by
    rw [h.inFrames.gpPgd]
    exact h.guestPages hnative (Or.inr rfl) (Or.inr rfl) h.inFrames.gpP4d
  tables_ne := by
    rw [h.inFrames.gkPgd, h.inFrames.gpPgd]
    exact page_ne (Nat.succ_ne_self _)
  p4ds_ne := by
    intro h5
    have horder := (TableFrames.order h.inFrames.increasing).2.2.2 h5
    rw [h.inFrames.gkP4d h5, h.inFrames.gpP4d h5, h.inFrames.gkPgd, h.inFrames.gpPgd]
    exact ⟨page_ne (Nat.succ_ne_self _), page_ne (by omega), page_ne (by omega)⟩

end Fill

section Copy

variable {cfg : KkmConfig} {kx guest : KkmMmuPml4e} {m : Memory}
variable {native nativeP4d : Nat → BitVec 64} {table p4d lowP4d : Nat}

theorem GuestTopL4.holds
    (hl5 : cfg.l5 = false) (h : GuestTopL4 kx native table m) :
    HoldsContents cfg kx guest ⟨native, nativeP4d, none⟩ table p4d lowP4d m where
  top := by
    intro idx hidx
    simp only [GuestContents.topEntry, hl5, Bool.false_eq_true, ↓reduceIte]
    by_cases huser : idx < kernelStartIndex
    · rw [if_pos huser]
      exact h.user idx huser
    · rw [if_neg huser, withSlot]
      by_cases hslot : idx = kkmKxPgdIndex
      · rw [if_pos hslot, hslot]
        exact h.slot
      · rw [if_neg hslot]
        exact h.kernel idx (Nat.not_lt.mp huser) hidx hslot
  p4d := by
    intro h5
    rw [hl5] at h5
    cases h5
  lowP4d := by
    intro h5
    rw [hl5] at h5
    cases h5

theorem GuestTopL5.holds
    (hl5 : cfg.l5 = true) (h : GuestTopL5 kx native nativeP4d table p4d m)
    (hlow : ∀ idx < 512, m.entry lowP4d idx = 0#64) :
    HoldsContents cfg kx guest ⟨native, nativeP4d, none⟩ table p4d lowP4d m where
  top := by
    intro idx hidx
    simp only [GuestContents.topEntry, hl5, ↓reduceIte]
    by_cases hzero : idx = kkmPgdLowP4dEntry
    · rw [if_pos hzero, hzero]
      exact h.user _ (by decide)
    · rw [if_neg hzero]
      by_cases huser : idx < kernelStartIndex
      · rw [if_pos huser]
        exact h.user idx huser
      · rw [if_neg huser]
        by_cases hlast : idx < kkmKxPgdP4dIndex
        · rw [if_pos hlast]
          exact h.kernel idx (Nat.not_lt.mp huser) hlast
        · rw [if_neg hlast]
          obtain rfl : idx = kkmKxPgdP4dIndex := by
            simp only [kkmKxPgdP4dIndex] at hlast ⊢
            omega
          exact h.last
  p4d := by
    intro _ idx hidx
    rw [withSlot]
    by_cases hslot : idx = kkmKxPgdIndex
    · rw [if_pos hslot, hslot]
      exact h.slot
    · rw [if_neg hslot]
      exact h.p4dCopied idx hidx hslot
  lowP4d := fun _ => hlow

/-- After the call both tables hold the native entries and nothing else. -/
theorem CopyKernelPgdCall.holds
    (c : CopyKernelPgdCall cfg)
    (hlow : cfg.l5 = true → ∀ idx < 512, c.last.entry lowP4d idx = 0#64) :
    let contents : GuestContents :=
      ⟨c.mem.entry c.currentPgdBase, c.mem.entry c.nativeP4d, none⟩
    HoldsContents cfg c.kx guest contents c.guestKernelVa c.kernelP4dVa lowP4d c.last ∧
      HoldsContents cfg c.kx guest contents c.guestPayloadVa c.payloadP4dVa lowP4d
        c.last := by
  cases hl5 : cfg.l5 with
  | false =>
      have hno : cfg.l5 = true → False := by
        rw [hl5]
        exact Bool.false_ne_true
      constructor
      · refine GuestTopL4.holds hl5 ((setupOnePgd_l4 c.kx hl5 c.kernel).congr
          (fun _ _ => rfl) fun idx hidx => ?_)
        exact c.last_entry c.kernel.dvd c.tables_ne.symm (fun h5 => (hno h5).elim) hidx
      · refine GuestTopL4.holds hl5 ((setupOnePgd_l4 c.kx hl5 c.payload_first).congr
          (fun idx hidx => ?_) fun _ _ => rfl)
        exact (c.first_pgd hidx).symm
  | true =>
      have hkernel := c.kernel.p4dPage hl5
      obtain ⟨hp4ds, _, hpt⟩ := c.p4ds_ne hl5
      constructor
      · refine GuestTopL5.holds hl5 ((setupOnePgd_l5 c.kx hl5 c.native c.kernel).congr
          (fun _ _ => rfl) (fun _ _ => rfl) (fun idx hidx => ?_) fun idx hidx => ?_)
          (hlow hl5)
        · exact c.last_entry c.kernel.dvd c.tables_ne.symm (fun _ => hpt.symm) hidx
        · exact c.last_entry hkernel.dvd (c.p4ds_ne hl5).2.1.symm (fun _ => hp4ds.symm) hidx
      · have hp4d : entryPa (c.first.entry c.currentPgdBase kkmKxPgdP4dIndex) =
            c.nativeP4d := by
          rw [c.first_pgd (by decide)]
          rfl
        have htop := setupOnePgd_l5 c.kx hl5 c.native_first c.payload_first
        rw [hp4d] at htop
        refine GuestTopL5.holds hl5 (htop.congr (fun idx hidx => ?_) (fun idx hidx => ?_)
          (fun _ _ => rfl) fun _ _ => rfl) (hlow hl5)
        · exact (c.first_pgd hidx).symm
        · exact (c.first_nativeP4d hl5 hidx).symm

end Copy

/-- The native entries are those of the table at `pgd` in the memory `m`. -/
structure GuestContents.CopiedFrom
    (c : GuestContents) (cfg : KkmConfig) (m : Memory) (pgd : Nat) : Prop where
  native : ∀ idx < 512, c.native idx = m.entry pgd idx
  nativeP4d : cfg.l5 = true → ∀ idx < 512,
    c.nativeP4d idx = m.entry (entryPa (m.entry pgd kkmKxPgdP4dIndex)) idx

theorem NewTables.copiedFrom
    {cfg : KkmConfig} {kkm : Kkm} {fr : TableFrames} {s s' : PageState} {pgd : Nat}
    (h : NewTables cfg s kkm fr s') (hnative : NativeTables cfg s'.pool s.mem pgd)
    (kx : KkmMmuPml4e) :
    let call := h.copyCall hnative kx
    GuestContents.CopiedFrom
      ⟨call.mem.entry call.currentPgdBase, call.mem.entry call.nativeP4d, none⟩ cfg s.mem
      pgd := by
  have htop : ∀ idx < 512, s'.mem.entry pgd idx = s.mem.entry pgd idx :=
    fun idx hidx => h.entry_of_free hnative.top.dvd hnative.pgd_free hidx
  have hlast : (h.copyCall hnative kx).nativeP4d =
      entryPa (s.mem.entry pgd kkmKxPgdP4dIndex) :=
    congrArg entryPa (htop kkmKxPgdP4dIndex (by decide))
  refine ⟨htop, fun h5 idx hidx => ?_⟩
  rw [hlast]
  exact h.entry_of_free (pageSize_dvd_entryPa _) (hnative.p4d_free h5) hidx

/-- A creation that completes leaves the tables of the kontainer filled, and no
page but its own written. -/
theorem NewTables.filled
    {cfg : KkmConfig} {kkm : Kkm} {fr : TableFrames} {s s' : PageState} {pgd : Nat}
    (h : NewTables cfg s kkm fr s') (hnative : NativeTables cfg s'.pool s.mem pgd)
    (kx : KkmMmuPml4e) :
    PagesTaken s { s' with mem := (h.copyCall hnative kx).last } (fr.frames cfg) ∧
      ∃ c, c.window = none ∧ c.CopiedFrom cfg s.mem pgd ∧
        GuestTables cfg kx kkm c (h.copyCall hnative kx).last := by
  obtain ⟨hpgd, hpgd', -, -, hl5⟩ := TableFrames.mem_upper h.inFrames.increasing
  obtain ⟨hpudOrder, hpmdOrder, -, hl5Order⟩ := TableFrames.order h.inFrames.increasing
  -- every page but the four tables stays as it was
  have hkeep : ∀ f, f ≠ fr.pgd → f ≠ fr.pgd + 1 →
      (cfg.l5 = true → f ≠ fr.p4d ∧ f ≠ fr.p4d + 1) → ∀ idx < 512,
        (h.copyCall hnative kx).last.entry (f * pageSize) idx =
          s'.mem.entry (f * pageSize) idx := by
    intro f hgk hgp hp4ds idx hidx
    have hgk' : f * pageSize ≠ (h.copyCall hnative kx).guestKernelVa := by
      change f * pageSize ≠ kkm.gkPgd.va
      rw [h.inFrames.gkPgd]
      exact page_ne hgk
    have hgp' : f * pageSize ≠ (h.copyCall hnative kx).guestPayloadVa := by
      change f * pageSize ≠ kkm.gpPgd.va
      rw [h.inFrames.gpPgd]
      exact page_ne hgp
    have hgk4 : cfg.l5 = true → f * pageSize ≠ (h.copyCall hnative kx).kernelP4dVa := by
      intro h5
      change f * pageSize ≠ kkm.gkP4d.va
      rw [h.inFrames.gkP4d h5]
      exact page_ne (hp4ds h5).1
    have hgp4 : cfg.l5 = true → f * pageSize ≠ (h.copyCall hnative kx).payloadP4dVa := by
      intro h5
      change f * pageSize ≠ kkm.gpP4d.va
      rw [h.inFrames.gpP4d h5]
      exact page_ne (hp4ds h5).2
    rw [(h.copyCall hnative kx).last_entry (Nat.dvd_mul_left _ _) hgp' hgp4 hidx]
    exact (h.copyCall hnative kx).first_entry (Nat.dvd_mul_left _ _) hgk' hgk4 hidx
  refine ⟨h.taken.write ?_, ?_⟩
  · intro f hf idx hidx
    have hne : ∀ f', f' ∈ fr.frames cfg → f ≠ f' := by
      rintro f' hf' rfl
      exact hf hf'
    exact hkeep f (hne _ hpgd.1) (hne _ hpgd'.1)
      (fun h5 => ⟨hne _ (hl5 h5).1.1, hne _ (hl5 h5).2.1.1⟩) idx hidx
  · have hlow : cfg.l5 = true → ∀ idx < 512,
        (h.copyCall hnative kx).last.entry kkm.lowP4d.va idx = 0#64 := by
      intro h5 idx hidx
      have horder := hl5Order h5
      have hzero := h.zeroed fr.lowP4d (Or.inr (Or.inr ⟨h5, rfl⟩)) idx hidx
      rw [h.inFrames.lowP4d h5]
      exact (hkeep fr.lowP4d (by omega) (by omega) (fun _ => by omega) idx hidx).trans hzero
    obtain ⟨hgk, hgp⟩ := @CopyKernelPgdCall.holds cfg kkm.kkmGuestPml4e _ (h.copyCall hnative kx) hlow
    refine ⟨_, rfl, h.copiedFrom hnative kx, h.chain.congr ?_ ?_, hgk, hgp⟩
    · intro idx hidx
      rw [h.inFrames.guest]
      refine hkeep fr.pud (by omega) (by omega) (fun h5 => ?_) idx hidx
      have horder := hl5Order h5
      omega
    · intro idx hidx
      rw [h.inFrames.guest]
      refine hkeep fr.pmd (by omega) (by omega) (fun h5 => ?_) idx hidx
      have horder := hl5Order h5
      omega

/-- What a creation needs to leave filled tables behind: its pages below 256 TiB,
and native tables that are none of them. -/
structure CreatesTables
    (cfg : KkmConfig) (kx : KkmMmuPml4e) (a : CreateAnswers) (g : KernelState) :
    Prop where
  completes : CreateCompletes cfg a g.pages
  low : (kkmCreateKontainer cfg kx a g).2.2.pages.pool.next * pageSize ≤ 2 ^ 48
  native : NativeTables cfg (kkmCreateKontainer cfg kx a g).2.2.pages.pool g.pages.mem
    a.currentPgd

theorem kkmCreateKontainer_tables
    {cfg : KkmConfig} {kx : KkmMmuPml4e} {a : CreateAnswers} {g : KernelState}
    (hzalloc : a.kzalloc = true) (hfd : a.getfd = true)
    (h : CreatesTables cfg kx a g) :
    ∃ fr kkm c, (kkmCreateKontainer cfg kx a g).2.1.kkm = some kkm ∧
      kkm.InFrames cfg fr ∧
      PagesTaken g.pages (kkmCreateKontainer cfg kx a g).2.2.pages (fr.frames cfg) ∧
      c.window = none ∧ c.CopiedFrom cfg g.pages.mem a.currentPgd ∧
      GuestTables cfg kx kkm c (kkmCreateKontainer cfg kx a g).2.2.pages.mem := by
  obtain ⟨⟨hinit, hpgd⟩, hlow, hnative⟩ := h
  have hpool : (kkmCreateKontainer cfg kx a g).2.2.pages.pool =
      (kkmKontainerInit cfg kx a.init { Kkm.zeroed with
        kontainerFd := g.nextFd, id := g.kkmObjectId + 1#64, mm := a.currentMm }
        g.pages).2.2.pool := by
    simp only [kkmCreateKontainer, hzalloc, hfd, Bool.true_eq_false, if_false,
      kkmCreateKontainerBody]
    split
    · rfl
    · split
      · rfl
      · rfl
  rw [hpool] at hlow hnative
  obtain ⟨fr, kkm, s', heq, hnew⟩ := kkmKontainerInit_newTables kx hinit
    { Kkm.zeroed with
      kontainerFd := g.nextFd, id := g.kkmObjectId + 1#64, mm := a.currentMm } hlow
  rw [heq] at hnative
  obtain ⟨htaken, c, hwindow, hcopied, htables⟩ := hnew.filled hnative kx
  have hcall := (hnew.copyCall hnative kx).call_eq
  simp only [NewTables.copyCall] at hcall
  have hcreate : kkmCreateKontainer cfg kx a g =
      (kkm.kontainerFd,
        ⟨some (kkmReferenceCountInit kkm), [⟨g.nextFd, .kontainer⟩], true, false⟩,
        ⟨{ s' with mem := (hnew.copyCall hnative kx).last }, g.nextFd + 1,
          g.kkmObjectId + 1#64⟩) := by
    simp only [kkmCreateKontainer, hzalloc, hfd, Bool.true_eq_false, if_false,
      kkmCreateKontainerBody, heq, hcall, ne_eq, not_true_eq_false]
    rfl
  rw [hcreate]
  exact ⟨fr, kkmReferenceCountInit kkm, c, rfl,
    hnew.inFrames.congr_kkm rfl rfl rfl rfl rfl rfl, htaken, hwindow, hcopied,
    htables.chain, htables.gk, htables.gp⟩

end Driver
end KkmModule
