import KkmModule.Driver.ModuleLife
import KkmModule.Foundation.BlockLedger

/-!
# Pages over a failing `kkm_kontainer_init`

`kkm_kontainer_init` takes pages in up to six allocations and leaves through one
of several exits.  A ledger follows the pages from its call on, for all answers
of the allocator, to the exit taken; what a cleanup gives back from there is the
list of blocks in the places of the kkm.
-/

namespace KkmModule
namespace Driver

open Foundation BlockPool

/-! ## What a cleanup gives back -/

/-- The places of a kkm as `kkm_kontainer_cleanup` goes through them. -/
def cleanupOrder : List KontainerPage := [.low, .pud, .pmd, .pt, .pgd, .p4d]

theorem mem_cleanupOrder (page : KontainerPage) : page ∈ cleanupOrder := by
  cases page <;> decide

theorem freePages_if_pool
    (info : KkmMmuPageInfo) {count : Nat} (hcount : count ≠ 0) (s : PageState) :
    (if info.page ≠ none then kkmMmFreePages info.va count s else s).pool =
      s.pool.giveAll (info.block (orderBase2 count)).toList := by
  cases hpage : info.page with
  | none => simp [KkmMmuPageInfo.block, hpage]
  | some frame => simp [KkmMmuPageInfo.block, hpage, kkmMmFreePages, hcount]

theorem kkmCleanupPml4_pool (kmu : KkmMmuPml4e) (s : PageState) :
    (kkmCleanupPml4 kmu s).pool =
      s.pool.giveAll (blocksIn kmu.block [.pud, .pmd, .pt]) := by
  have hone : 1 ≠ 0 := by decide
  simp only [kkmCleanupPml4, kkmMmFreePage, freePages_if_pool _ hone,
    orderBase2_one, blocksIn, List.flatMap_cons, List.flatMap_nil,
    giveAll_append, giveAll_nil, KkmMmuPml4e.block]

theorem kkmKontainerCleanupLvlPages_pool
    (kPage pPage : KkmMmuPageInfo) (s : PageState) :
    (kkmKontainerCleanupLvlPages kPage pPage s).2.2.pool =
      s.pool.giveAll (kPage.block 1).toList := by
  have hcount : kkmKontainerLvlPageCount ≠ 0 := by decide
  have horder : orderBase2 kkmKontainerLvlPageCount = 1 := by decide
  rw [(kkmKontainerCleanupLvlPages_eq kPage pPage s).2, freePages_if_pool _ hcount,
    horder]

/-- `kkm_kontainer_cleanup` gives back what is in the places, in its order. -/
theorem kkmKontainerCleanup_pool (kkm : Kkm) (s : PageState) :
    (kkmKontainerCleanup kkm s).2.pool =
      s.pool.giveAll (blocksIn kkm.block cleanupOrder) := by
  have hcount : kkmKontainerLowPageCount ≠ 0 := by decide
  have horder : orderBase2 kkmKontainerLowPageCount = 0 := by decide
  obtain ⟨low, -, heq⟩ := kkmKontainerCleanupLowPage_eq kkm s
  simp only [kkmKontainerCleanup, heq, kkmKontainerCleanupPgdPages,
    kkmKontainerCleanupP4dPages, kkmKontainerCleanupLvlPages_pool,
    kkmCleanupPml4_pool, freePages_if_pool _ hcount, horder]
  simp only [cleanupOrder, blocksIn, List.flatMap_cons, List.flatMap_nil,
    giveAll_append, giveAll_nil, Kkm.block, KkmMmuPml4e.block]

/-- Afterwards only the pointers of the private hierarchy are still there. -/
theorem kkmKontainerCleanup_block (kkm : Kkm) (s : PageState) :
    (kkmKontainerCleanup kkm s).1.block =
      Function.update (Function.update (Function.update kkm.block
        .low none) .pgd none) .p4d none := by
  obtain ⟨low, hlow, heq⟩ := kkmKontainerCleanupLowPage_eq kkm s
  have hlvl : ∀ k p t, (kkmKontainerCleanupLvlPages k p t).1.block 1 = none :=
    fun k p t => (kkmKontainerCleanupLvlPages_eq k p t).1
  simp only [kkmKontainerCleanup, heq, kkmKontainerCleanupPgdPages,
    kkmKontainerCleanupP4dPages]
  funext page
  cases page with
  | pgd => simp [Kkm.block, hlvl]
  | p4d => simp [Kkm.block, hlvl]
  | low => simp [Kkm.block, hlow]
  | pud => simp [Kkm.block]
  | pmd => simp [Kkm.block]
  | pt => simp [Kkm.block]

/-- A second cleanup gives back the private hierarchy again. -/
theorem blocksIn_after_cleanup (kkm : Kkm) (s : PageState) :
    blocksIn (kkmKontainerCleanup kkm s).1.block cleanupOrder =
      blocksIn kkm.block [.pud, .pmd, .pt] := by
  simp [kkmKontainerCleanup_block, cleanupOrder, blocksIn]

/-! ## The ledger of an initialisation -/

section Init

variable {p₀ : BlockPool} {kkm : Kkm} {kx : KkmMmuPml4e} {s : PageState}

/-- Whatever the allocator answers, an empty place holds what the page pointer
now says. -/
theorem ledger_allocatePages
    {ι : Type*} [DecidableEq ι] {mine : ι → Option Block}
    (h : BlockLedger p₀ s.pool mine) {i : ι} (hi : mine i = none)
    (info : KkmMmuPageInfo) {count : Nat} (hcount : count ≠ 0)
    (answer : Option Nat) :
    let r := kkmMmAllocatePages info count answer s
    BlockLedger p₀ r.2.2.pool
      (Function.update mine i (r.2.1.block (orderBase2 count))) := by
  cases answer with
  | none =>
      rw [kkmMmAllocatePages_none info hcount s]
      have hsame : Function.update mine i none = mine := by
        rw [← hi, Function.update_eq_self]
      simpa [KkmMmuPageInfo.block, hsame] using h
  | some skip =>
      rw [kkmMmAllocatePages_some info hcount skip s]
      have hdiv : (s.pool.next + skip) * pageSize / pageSize =
          s.pool.next + skip := Nat.mul_div_cancel _ (by decide)
      simpa [KkmMmuPageInfo.block, hdiv, BlockPool.offer] using
        h.take hi skip (orderBase2 count)

theorem kkmKontainerAllocatePgdPages_ledger
    (answer : Option Nat) (h : BlockLedger p₀ s.pool kkm.block)
    (hnone : kkm.block .pgd = none) :
    let r := kkmKontainerAllocatePgdPages answer kkm s
    BlockLedger p₀ r.2.2.pool r.2.1.block := by
  have hledger := ledger_allocatePages h hnone kkm.gkPgd
    (show kkmKontainerLvlPageCount ≠ 0 by decide) answer
  obtain ⟨hk, hs⟩ := kkmKontainerAllocateLvlPages_eq kkm.gkPgd kkm.gpPgd answer s
  simp only [kkmKontainerAllocatePgdPages, block_setPgd, hk, hs]
  exact hledger

theorem kkmKontainerAllocateP4dPages_ledger
    (answer : Option Nat) (h : BlockLedger p₀ s.pool kkm.block)
    (hnone : kkm.block .p4d = none) :
    let r := kkmKontainerAllocateP4dPages answer kkm s
    BlockLedger p₀ r.2.2.pool r.2.1.block := by
  have hledger := ledger_allocatePages h hnone kkm.gkP4d
    (show kkmKontainerLvlPageCount ≠ 0 by decide) answer
  obtain ⟨hk, hs⟩ := kkmKontainerAllocateLvlPages_eq kkm.gkP4d kkm.gpP4d answer s
  simp only [kkmKontainerAllocateP4dPages, block_setP4d, hk, hs]
  exact hledger

theorem kkmKontainerAllocateLowPage_ledger
    (answer : Option Nat) (h : BlockLedger p₀ s.pool kkm.block)
    (hnone : kkm.block .low = none) :
    let r := kkmKontainerAllocateLowPage answer kkm s
    BlockLedger p₀ r.2.2.pool r.2.1.block := by
  have hledger := ledger_allocatePages h hnone kkm.lowP4d
    (show kkmKontainerLowPageCount ≠ 0 by decide) answer
  simp only [kkmKontainerAllocateLowPage, block_setLow]
  exact hledger

/-! An allocation fills its own place only. -/

theorem kkmKontainerAllocatePgdPages_other
    (answer : Option Nat) {page : KontainerPage} (hpage : page ≠ .pgd) :
    (kkmKontainerAllocatePgdPages answer kkm s).2.1.block page = kkm.block page := by
  simp only [kkmKontainerAllocatePgdPages, block_setPgd, Function.update_of_ne hpage]

theorem kkmKontainerAllocateP4dPages_other
    (answer : Option Nat) {page : KontainerPage} (hpage : page ≠ .p4d) :
    (kkmKontainerAllocateP4dPages answer kkm s).2.1.block page = kkm.block page := by
  simp only [kkmKontainerAllocateP4dPages, block_setP4d, Function.update_of_ne hpage]

theorem kkmKontainerAllocateLowPage_other
    (answer : Option Nat) {page : KontainerPage} (hpage : page ≠ .low) :
    (kkmKontainerAllocateLowPage answer kkm s).2.1.block page = kkm.block page := by
  simp only [kkmKontainerAllocateLowPage, block_setLow, Function.update_of_ne hpage]

/-- The three places of a private hierarchy. -/
def withPml4
    (mine : KontainerPage → Option Block) (kmu : KkmMmuPml4e) :
    KontainerPage → Option Block :=
  Function.update (Function.update (Function.update mine
    .pud (kmu.pud.block 0)) .pmd (kmu.pmd.block 0)) .pt (kmu.pt.block 0)

theorem block_setPml4 (kkm : Kkm) (kmu : KkmMmuPml4e) :
    Kkm.block { kkm with kkmGuestPml4e := kmu } = withPml4 kkm.block kmu := by
  funext page
  cases page <;> rfl

/-- No page of the private hierarchy is there yet. -/
def NoPml4 (mine : KontainerPage → Option Block) : Prop :=
  mine .pud = none ∧ mine .pmd = none ∧ mine .pt = none

theorem NoPml4.of_other
    {mine : KontainerPage → Option Block}
    (h : ∀ page, page ≠ .pgd → page ≠ .p4d → page ≠ .low → mine page = none) :
    NoPml4 mine :=
  ⟨h _ (by decide) (by decide) (by decide), h _ (by decide) (by decide) (by decide),
    h _ (by decide) (by decide) (by decide)⟩

/-- `kkm_create_pml4` takes its pages one by one and keeps what it has got. -/
theorem kkmBuildPml4_ledger
    {mine : KontainerPage → Option Block} (h : BlockLedger p₀ s.pool mine)
    (hnone : NoPml4 mine) (address : Nat) (a : Pml4Answers) :
    let r := kkmBuildPml4 address a s
    BlockLedger p₀ r.2.2.pool (withPml4 mine r.2.1) := by
  obtain ⟨hpud, hpmd, hpt⟩ := hnone
  obtain ⟨pud, pmd, pt⟩ := a
  have hdiv : ∀ x, x * pageSize / pageSize = x :=
    fun x => Nat.mul_div_cancel x (by decide)
  have hzero : KkmMmuPageInfo.zeroed.page = none := rfl
  intro r
  cases pud with
  | none =>
      have hpool : r.2.2.pool = s.pool := by
        simp [r, kkmBuildPml4, kkmMmAllocatePage, enomem]
      have hmine : withPml4 mine r.2.1 = mine := by
        funext page
        cases page <;>
          simp [r, withPml4, kkmBuildPml4, kkmMmAllocatePage, enomem,
            KkmMmuPml4e.zeroed, KkmMmuPageInfo.block, hzero, hpud, hpmd, hpt]
      rw [hpool, hmine]
      exact h
  | some f =>
      have h1 := h.take hpud f 0
      cases pmd with
      | none =>
          have hpool : r.2.2.pool = s.pool.take f 0 := by
            simp [r, kkmBuildPml4, kkmMmAllocatePage, enomem]
          have hmine : withPml4 mine r.2.1 =
              Function.update mine .pud (some (s.pool.offer f 0)) := by
            funext page
            cases page <;>
              simp [r, withPml4, kkmBuildPml4, kkmMmAllocatePage, enomem,
                KkmMmuPml4e.zeroed, KkmMmuPageInfo.block, hzero, hdiv, offer,
                hpmd, hpt]
          rw [hpool, hmine]
          exact h1
      | some g =>
          have h2 := h1.take (i := .pmd) (by simpa using hpmd) g 0
          cases pt with
          | none =>
              have hpool : r.2.2.pool = (s.pool.take f 0).take g 0 := by
                simp [r, kkmBuildPml4, kkmMmAllocatePage, enomem]
              have hmine : withPml4 mine r.2.1 =
                  Function.update (Function.update mine
                    .pud (some (s.pool.offer f 0)))
                    .pmd (some ((s.pool.take f 0).offer g 0)) := by
                funext page
                cases page <;>
                  simp [r, withPml4, kkmBuildPml4, kkmMmAllocatePage, enomem,
                    KkmMmuPml4e.zeroed, KkmMmuPageInfo.block, hdiv, offer, hpt]
              rw [hpool, hmine]
              exact h2
          | some k =>
              have h3 := h2.take (i := .pt) (by simpa using hpt) k 0
              simpa [r, withPml4, kkmBuildPml4, kkmMmAllocatePage,
                KkmMmuPageInfo.block, hdiv, offer] using h3

/-- The hierarchy keeps a pointer exactly if there was a page for the pud. -/
theorem kkmBuildPml4_pud_iff (address : Nat) (a : Pml4Answers) :
    let kmu := (kkmBuildPml4 address a s).2.1
    (a.pud = none → kmu.pud.block 0 = none ∧ kmu.pmd.block 0 = none ∧
        kmu.pt.block 0 = none) ∧
      (a.pud ≠ none → kmu.pud.block 0 ≠ none) := by
  obtain ⟨pud, pmd, pt⟩ := a
  have hzero : KkmMmuPageInfo.zeroed.page = none := rfl
  cases pud with
  | none =>
      simp [kkmBuildPml4, kkmMmAllocatePage, enomem, KkmMmuPml4e.zeroed,
        KkmMmuPageInfo.block, hzero]
  | some f =>
      refine ⟨fun h => by simp at h, fun _ => ?_⟩
      cases pmd with
      | none =>
          simp [kkmBuildPml4, kkmMmAllocatePage, enomem, KkmMmuPageInfo.block]
      | some g =>
          cases pt with
          | none =>
              simp [kkmBuildPml4, kkmMmAllocatePage, enomem, KkmMmuPageInfo.block]
          | some k =>
              simp [kkmBuildPml4, kkmMmAllocatePage, KkmMmuPageInfo.block]

theorem kkmKontainerCreatePml4_ledger
    (hkx : ∀ page b, kx.block page = some b → b.head < p₀.next)
    (h : BlockLedger p₀ s.pool kkm.block) (hnone : NoPml4 kkm.block) (a : Pml4Answers) :
    let r := kkmKontainerCreatePml4 kx a kkm s
    BlockLedger p₀ r.2.2.pool r.2.1.block ∧
      r.2.1.block = withPml4 kkm.block
        (kkmBuildPml4 kkmKmGuestPrivateMemStartVa a s).2.1 := by
  have hbuild := kkmBuildPml4_ledger h hnone kkmKmGuestPrivateMemStartVa a
  simp only [kkmKontainerCreatePml4, kkmCreatePml4, block_setPml4]
  split
  · -- the error path cleans up the global hierarchy
    refine ⟨?_, rfl⟩
    rw [kkmMmuCleanup, kkmCleanupPml4_pool]
    refine hbuild.giveOld ?_
    intro b hb
    obtain ⟨page, -, hpage⟩ := mem_blocksIn.mp hb
    exact hkx page b hpage
  · exact ⟨hbuild, rfl⟩

/-! ## The exits -/

/-- With 5-level paging the top-level pages are there and the low page is not. -/
def LowPageMissing
    (cfg : KkmConfig) (a : KontainerInitAnswers) (s : PageState) : Prop :=
  cfg.l5 = true ∧ a.low = none ∧
    ∃ pgd, a.pgd = some pgd ∧ Even (s.pool.next + pgd) ∧
      ∃ p4d, a.p4d = some p4d ∧ Even ((s.pool.take pgd 1).next + p4d)

/-- The private hierarchy gets its first page and not all of them. -/
def Pml4Partial
    (cfg : KkmConfig) (a : KontainerInitAnswers) (s : PageState) : Prop :=
  ReachesPml4 cfg a s ∧ a.pml4.pud ≠ none ∧ ¬ a.pml4.AllSome

/-- The exit through the cleanup, and whether the private hierarchy had got a
page by then. -/
def LeavesByCleanup
    (p₀ : BlockPool) (gotPud : Prop) (r : Kkm × PageState) : Prop :=
  ∃ kkm s, r = kkmKontainerCleanup kkm s ∧ BlockLedger p₀ s.pool kkm.block ∧
    (gotPud → kkm.block .pud ≠ none) ∧ (¬ gotPud → NoPml4 kkm.block)

theorem kkmKontainerInitGuest_exit
    (hkx : ∀ page b, kx.block page = some b → b.head < p₀.next)
    (h : BlockLedger p₀ s.pool kkm.block) (hnone : NoPml4 kkm.block) (a : Pml4Answers) :
    let r := kkmKontainerInitGuest kx a kkm s
    (a.AllSome → BlockLedger p₀ r.2.2.pool r.2.1.block) ∧
      (¬ a.AllSome → LeavesByCleanup p₀ (a.pud ≠ none) r.2) := by
  have hret := kkmKontainerCreatePml4_zero_iff kx a kkm s
  obtain ⟨hledger, hblock⟩ := kkmKontainerCreatePml4_ledger hkx h hnone a
  obtain ⟨hpudNone, hpudSome⟩ :=
    kkmBuildPml4_pud_iff (s := s) kkmKmGuestPrivateMemStartVa a
  simp only [kkmKontainerInitGuest]
  split
  · rename_i hne
    refine ⟨fun hall => absurd (hret.mpr hall) hne, fun _ => ?_⟩
    refine ⟨_, _, rfl, hledger, ?_, ?_⟩
    · intro hpud
      rw [hblock]
      simpa [withPml4] using hpudSome hpud
    · intro hpud
      obtain ⟨h1, h2, h3⟩ := hpudNone (not_not.mp hpud)
      rw [hblock]
      exact ⟨by simpa [withPml4] using h1, by simpa [withPml4] using h2,
        by simpa [withPml4] using h3⟩
  · rename_i hzero
    have hall := hret.mp (not_not.mp hzero)
    refine ⟨fun _ => ?_, fun hno => absurd hall hno⟩
    have hsame : ∀ k : Kkm, (kkmKontainerInitMutexes k).block = k.block := by
      intro k
      funext page
      cases page <;> rfl
    rw [hsame]
    exact hledger

/-- The exits after the pages of the pgd are there. -/
theorem kkmKontainerInitRest_exit
    (cfg : KkmConfig) (a : KontainerInitAnswers)
    (hkx : ∀ page b, kx.block page = some b → b.head < p₀.next)
    (h : BlockLedger p₀ s.pool kkm.block)
    (hother : ∀ page, page ≠ .pgd → kkm.block page = none) :
    let r := kkmKontainerInitRest cfg kx a kkm s
    let hasP4d := ∃ p4d, a.p4d = some p4d ∧ Even (s.pool.next + p4d)
    let reaches := cfg.l5 = true → a.low ≠ none ∧ hasP4d
    let missing := cfg.l5 = true ∧ a.low = none ∧ hasP4d
    (a.pml4.AllSome → reaches → BlockLedger p₀ r.2.2.pool r.2.1.block) ∧
      (missing → BlockLedger p₀ r.2.2.pool r.2.1.block ∧
        r.2.1.block .pgd = kkm.block .pgd) ∧
      (¬ (a.pml4.AllSome ∧ reaches) → ¬ missing →
        LeavesByCleanup p₀ (reaches ∧ a.pml4.pud ≠ none) r.2) := by
  intro r hasP4d reaches missing
  simp only [r, kkmKontainerInitRest]
  split
  · rename_i hl5
    have hp4d := kkmKontainerAllocateP4dPages_zero_iff a.p4d kkm s
    have hp4dLedger := kkmKontainerAllocateP4dPages_ledger a.p4d h
      (hother .p4d (by decide))
    have hp4dOther : ∀ page, page ≠ .pgd → page ≠ .p4d →
        (kkmKontainerAllocateP4dPages a.p4d kkm s).2.1.block page = none :=
      fun page hpgd hpage =>
        (kkmKontainerAllocateP4dPages_other a.p4d hpage).trans (hother page hpgd)
    split
    · -- no p4d pages
      rename_i hret
      have hno : ¬ hasP4d := fun hyes => hret (hp4d.mpr hyes)
      have hnot : ¬ reaches := fun hreach => hno (hreach hl5).2
      refine ⟨fun _ hreach => absurd hreach hnot,
        fun hmiss => absurd hmiss.2.2 hno, fun _ _ => ?_⟩
      exact ⟨_, _, rfl, hp4dLedger, fun hreach => absurd hreach.1 hnot,
        fun _ => .of_other fun page hpgd hp4d _ => hp4dOther page hpgd hp4d⟩
    · rename_i hret
      have hyes : hasP4d := hp4d.mp (not_not.mp hret)
      have hlow := kkmKontainerAllocateLowPage_zero_iff a.low
        (kkmKontainerAllocateP4dPages a.p4d kkm s).2.1
        (kkmKontainerAllocateP4dPages a.p4d kkm s).2.2
      have hlowLedger := kkmKontainerAllocateLowPage_ledger a.low hp4dLedger
        (hp4dOther .low (by decide) (by decide))
      split
      · -- the exit without a cleanup
        rename_i hret'
        have hnone : a.low = none := not_not.mp fun hne => hret' (hlow.mpr hne)
        have hnot : ¬ reaches := fun hreach => (hreach hl5).1 hnone
        refine ⟨fun _ hreach => absurd hreach hnot, fun _ => ⟨hlowLedger, ?_⟩,
          fun _ hmiss => absurd ⟨hl5, hnone, hyes⟩ hmiss⟩
        rw [kkmKontainerAllocateLowPage_other a.low (by decide),
          kkmKontainerAllocateP4dPages_other a.p4d (by decide)]
      · rename_i hret'
        have hsome : a.low ≠ none := hlow.mp (not_not.mp hret')
        have hreach : reaches := fun _ => ⟨hsome, hyes⟩
        have hpml4 : NoPml4 (kkmKontainerAllocateLowPage a.low
            (kkmKontainerAllocateP4dPages a.p4d kkm s).2.1
            (kkmKontainerAllocateP4dPages a.p4d kkm s).2.2).2.1.block :=
          .of_other fun page hpgd hp4d hpage =>
            (kkmKontainerAllocateLowPage_other a.low hpage).trans
              (hp4dOther page hpgd hp4d)
        obtain ⟨hyes', hno'⟩ := kkmKontainerInitGuest_exit hkx hlowLedger hpml4 a.pml4
        refine ⟨fun hall _ => hyes' hall, fun hmiss => absurd hmiss.2.1 hsome,
          fun hfail _ => ?_⟩
        have hguest := hno' fun hall => hfail ⟨hall, hreach⟩
        simpa [LeavesByCleanup, hreach] using hguest
  · rename_i hl5
    have hreach : reaches := fun hyes => absurd hyes hl5
    have hpml4 : NoPml4 kkm.block := .of_other fun page hpgd _ _ => hother page hpgd
    obtain ⟨hyes, hno⟩ := kkmKontainerInitGuest_exit hkx h hpml4 a.pml4
    refine ⟨fun hall _ => hyes hall, fun hmiss => absurd hmiss.1 hl5,
      fun hfail _ => ?_⟩
    have hguest := hno fun hall => hfail ⟨hall, hreach⟩
    simpa [LeavesByCleanup, hreach] using hguest

/-- The ledger at each exit of `kkm_kontainer_init`, for a kkm without pages. -/
theorem kkmKontainerInit_exit
    (cfg : KkmConfig) (a : KontainerInitAnswers)
    (hkx : ∀ page b, kx.block page = some b → b.head < s.pool.next)
    (hnew : ∀ page, kkm.block page = none) :
    let r := kkmKontainerInit cfg kx a kkm s
    (InitCompletes cfg a s → BlockLedger s.pool r.2.2.pool r.2.1.block) ∧
      (LowPageMissing cfg a s →
        BlockLedger s.pool r.2.2.pool r.2.1.block ∧ r.2.1.block .pgd ≠ none) ∧
      (¬ InitCompletes cfg a s → ¬ LowPageMissing cfg a s →
        LeavesByCleanup s.pool (ReachesPml4 cfg a s ∧ a.pml4.pud ≠ none) r.2) := by
  have hstart : BlockLedger s.pool s.pool kkm.block := by
    rw [show kkm.block = fun _ => none from funext hnew]
    exact BlockLedger.start s.pool
  have hpgdLedger := kkmKontainerAllocatePgdPages_ledger a.pgd hstart (hnew .pgd)
  have hpgd := kkmKontainerAllocatePgdPages_zero_iff a.pgd kkm s
  have hpgdOther : ∀ page, page ≠ .pgd →
      (kkmKontainerAllocatePgdPages a.pgd kkm s).2.1.block page = none := by
    intro page hpage
    rw [kkmKontainerAllocatePgdPages_other a.pgd hpage, hnew]
  simp only [kkmKontainerInit]
  split
  · rename_i hret
    have hno : ∀ pgd, a.pgd = some pgd → ¬ Even (s.pool.next + pgd) :=
      fun pgd hsome heven => hret (hpgd.mpr ⟨pgd, hsome, heven⟩)
    refine ⟨?_, ?_, fun _ _ => ?_⟩
    · rintro ⟨-, pgd, hsome, heven, -⟩
      exact absurd heven (hno pgd hsome)
    · rintro ⟨-, -, pgd, hsome, heven, -⟩
      exact absurd heven (hno pgd hsome)
    · refine ⟨_, _, rfl, hpgdLedger, ?_,
        fun _ => .of_other fun page hpage _ _ => hpgdOther page hpage⟩
      rintro ⟨⟨pgd, hsome, heven, -⟩, -⟩
      exact absurd heven (hno pgd hsome)
  · rename_i hret
    obtain ⟨pgd, hsome, heven⟩ := hpgd.mp (not_not.mp hret)
    have hpool : (kkmKontainerAllocatePgdPages a.pgd kkm s).2.2.pool =
        s.pool.take pgd 1 := by
      rw [hsome]
      exact kkmKontainerAllocateLvlPages_pool kkm.gkPgd kkm.gpPgd pgd s
    have hpgdBlock :
        (kkmKontainerAllocatePgdPages a.pgd kkm s).2.1.block .pgd ≠ none := by
      have hcount : kkmKontainerLvlPageCount ≠ 0 := by decide
      obtain ⟨hk, -⟩ :=
        kkmKontainerAllocateLvlPages_eq kkm.gkPgd kkm.gpPgd (some pgd) s
      simp only [kkmKontainerAllocatePgdPages, block_setPgd, hsome, hk,
        kkmMmAllocatePages_some _ hcount, Function.update_self]
      simp [KkmMmuPageInfo.block]
    have hreaches : ReachesPml4 cfg a s ↔ (cfg.l5 = true → a.low ≠ none ∧
        ∃ p4d, a.p4d = some p4d ∧ Even ((s.pool.take pgd 1).next + p4d)) := by
      simp only [ReachesPml4, hsome, Option.some.injEq, exists_eq_left', heven,
        true_and]
    have hmissing : LowPageMissing cfg a s ↔ cfg.l5 = true ∧ a.low = none ∧
        ∃ p4d, a.p4d = some p4d ∧ Even ((s.pool.take pgd 1).next + p4d) := by
      simp only [LowPageMissing, hsome, Option.some.injEq, exists_eq_left', heven,
        true_and]
    obtain ⟨hdone, hmiss, hfail⟩ :=
      kkmKontainerInitRest_exit cfg a hkx hpgdLedger hpgdOther
    simp only [hpool, ← hreaches, ← hmissing] at hdone hmiss hfail
    refine ⟨fun hall => hdone hall.1 hall.2, fun hlow => ?_, hfail⟩
    obtain ⟨hledger, hsame⟩ := hmiss hlow
    exact ⟨hledger, hsame ▸ hpgdBlock⟩

/-! ## Pages of a call and of the cleanup after it -/

/-- What a call of `kkm_kontainer_init` owes for the pages it gets: if it fails,
each has been freed once and no later cleanup frees one again; if it succeeds, a
cleanup frees these blocks. -/
def InitPagesBalanced
    (cfg : KkmConfig) (kx : KkmMmuPml4e) (a : KontainerInitAnswers)
    (kkm : Kkm) (s : PageState) : Prop :=
  let r := kkmKontainerInit cfg kx a kkm s
  let c := kkmKontainerCleanup r.2.1 r.2.2
  (r.1 ≠ 0 → GivenBackOnce s.pool r.2.2.pool ∧
      c.2.pool.doubleFreed = r.2.2.pool.doubleFreed) ∧
    (r.1 = 0 → c.2.pool.doubleFreed = r.2.2.pool.doubleFreed ∧
      (freedSince r.2.2.pool c.2.pool).Nodup ∧
      ∀ b, b ∈ freedSince r.2.2.pool c.2.pool ↔ HandedOut s.pool r.2.2.pool b)

/-- A cleanup gives back exactly what the ledger shows. -/
theorem kkmKontainerCleanup_of_ledger (h : BlockLedger p₀ s.pool kkm.block) :
    let c := kkmKontainerCleanup kkm s
    c.2.pool.doubleFreed = s.pool.doubleFreed ∧
      (freedSince s.pool c.2.pool).Nodup ∧
      (∀ b, b ∈ freedSince s.pool c.2.pool ↔ HandedOut p₀ s.pool b) ∧
      GivenBackOnce p₀ c.2.pool := by
  have horder : cleanupOrder.Nodup := by decide
  simp only [kkmKontainerCleanup_pool, freedSince_giveAll, List.nodup_reverse]
  refine ⟨h.giveBack_clean horder, blocksIn_nodup horder h.inj, ?_,
    h.givenBackOnce horder mem_cleanupOrder⟩
  intro b
  rw [List.mem_reverse, mem_blocksIn, h.handedOut_iff]
  simp [mem_cleanupOrder]

/-- After the exit through the cleanup a second one frees a page again exactly
if the private hierarchy had got one. -/
theorem LeavesByCleanup.balanced_iff
    {gotPud : Prop} {r : Kkm × PageState} (h : LeavesByCleanup p₀ gotPud r) :
    (GivenBackOnce p₀ r.2.pool ∧
        (kkmKontainerCleanup r.1 r.2).2.pool.doubleFreed = r.2.pool.doubleFreed) ↔
      ¬ gotPud := by
  obtain ⟨kkm, s, rfl, hledger, hgot, hnot⟩ := h
  obtain ⟨-, -, -, honce⟩ := kkmKontainerCleanup_of_ledger hledger
  have hagain := kkmKontainerCleanup_pool (kkmKontainerCleanup kkm s).1
    (kkmKontainerCleanup kkm s).2
  rw [hagain, blocksIn_after_cleanup]
  constructor
  · rintro ⟨-, hclean⟩ hpud
    obtain ⟨b, hb⟩ := Option.ne_none_iff_exists'.mp (hgot hpud)
    have hgone : b ∉ (kkmKontainerCleanup kkm s).2.pool.live := by
      rw [kkmKontainerCleanup_pool, mem_giveAll]
      exact fun hlive => hlive.2 (mem_blocksIn.mpr ⟨.pud, by decide, hb⟩)
    have hcons : blocksIn kkm.block [.pud, .pmd, .pt] =
        b :: blocksIn kkm.block [.pmd, .pt] := by
      simp [blocksIn, hb]
    rw [hcons] at hclean
    exact giveAll_cons_of_notMem hgone _ hclean
  · intro hpud
    obtain ⟨h1, h2, h3⟩ := hnot hpud
    refine ⟨honce, ?_⟩
    simp [blocksIn, h1, h2, h3]

/-- The exit without a cleanup leaves the pages of the pgd allocated. -/
theorem not_balanced_of_lowPageMissing
    (cfg : KkmConfig) (a : KontainerInitAnswers)
    (hkx : ∀ page b, kx.block page = some b → b.head < s.pool.next)
    (hnew : ∀ page, kkm.block page = none) (hlow : LowPageMissing cfg a s) :
    ¬ InitPagesBalanced cfg kx a kkm s := by
  obtain ⟨-, hmiss, -⟩ := kkmKontainerInit_exit cfg a hkx hnew
  obtain ⟨hledger, hpgd⟩ := hmiss hlow
  obtain ⟨b, hb⟩ := Option.ne_none_iff_exists'.mp hpgd
  have hne : (kkmKontainerInit cfg kx a kkm s).1 ≠ 0 := by
    intro hzero
    obtain ⟨-, pgd, -, -, hrest⟩ :=
      (kkmKontainerInit_spec cfg kx a kkm s).1.mp hzero
    exact (hrest hlow.1).1 hlow.2.1
  intro h
  have hout := hledger.handedOut_iff.mpr ⟨.pgd, hb⟩
  exact absurd (hledger.live hb) ((h.1 hne).1 b hout).1

/-- The pages of `kkm_kontainer_init` are accounted for exactly when the low page
is not the one that is missing and the private hierarchy does not stop half-way. -/
theorem initPagesBalanced_iff
    (cfg : KkmConfig) (a : KontainerInitAnswers)
    (hkx : ∀ page b, kx.block page = some b → b.head < s.pool.next)
    (hnew : ∀ page, kkm.block page = none) :
    InitPagesBalanced cfg kx a kkm s ↔
      ¬ LowPageMissing cfg a s ∧ ¬ Pml4Partial cfg a s := by
  obtain ⟨hdone, -, hfail⟩ := kkmKontainerInit_exit cfg a hkx hnew
  have hret := (kkmKontainerInit_spec cfg kx a kkm s).1
  by_cases hcompletes : InitCompletes cfg a s
  · -- success
    obtain ⟨hclean, hnodup, hfreed, -⟩ :=
      kkmKontainerCleanup_of_ledger (hdone hcompletes)
    have hlow : ¬ LowPageMissing cfg a s := by
      rintro ⟨hl5, hnone, -⟩
      obtain ⟨-, pgd, -, -, hrest⟩ := hcompletes
      exact (hrest hl5).1 hnone
    have hpartial : ¬ Pml4Partial cfg a s := fun h => h.2.2 hcompletes.1
    refine ⟨fun _ => ⟨hlow, hpartial⟩, fun _ => ⟨fun hne => ?_, fun _ => ?_⟩⟩
    · exact absurd (hret.mpr hcompletes) hne
    · exact ⟨hclean, hnodup, hfreed⟩
  · have hne : (kkmKontainerInit cfg kx a kkm s).1 ≠ 0 :=
      fun h => hcompletes (hret.mp h)
    have hprop : InitPagesBalanced cfg kx a kkm s ↔
        (GivenBackOnce s.pool (kkmKontainerInit cfg kx a kkm s).2.2.pool ∧
          (kkmKontainerCleanup (kkmKontainerInit cfg kx a kkm s).2.1
            (kkmKontainerInit cfg kx a kkm s).2.2).2.pool.doubleFreed =
          (kkmKontainerInit cfg kx a kkm s).2.2.pool.doubleFreed) := by
      simp [InitPagesBalanced, hne]
    rw [hprop]
    by_cases hlow : LowPageMissing cfg a s
    · have hno := not_balanced_of_lowPageMissing cfg a hkx hnew hlow
      rw [hprop] at hno
      exact ⟨fun h => absurd h hno, fun h => absurd hlow h.1⟩
    · rw [(hfail hcompletes hlow).balanced_iff]
      have hpml4 : Pml4Partial cfg a s ↔
          ReachesPml4 cfg a s ∧ a.pml4.pud ≠ none := by
        constructor
        · exact fun h => ⟨h.1, h.2.1⟩
        · exact fun h => ⟨h.1, h.2, fun hall => hcompletes ⟨hall, h.1⟩⟩
      rw [hpml4]
      exact ⟨fun h => ⟨hlow, h⟩, fun h => h.2⟩

end Init

theorem Kkm.block_zeroed (page : KontainerPage) : Kkm.block .zeroed page = none := by
  cases page <;> rfl

/-- The pages of the global hierarchy after a load of the module. -/
theorem loadedModule_kx_head (page : Pml4Page) (b : Block)
    (hb : loadedModule.kx.block page = some b) :
    b.head < loadedModule.world.kernel.pages.pool.next := by
  cases page <;> (cases hb; decide)

theorem initPagesBalanced_granted :
    InitPagesBalanced .stock loadedModule.kx .granted .zeroed
      loadedModule.world.kernel.pages := by
  refine (initPagesBalanced_iff .stock .granted loadedModule_kx_head
    Kkm.block_zeroed).mpr ⟨?_, ?_⟩
  · rintro ⟨hl5, -⟩
    cases hl5
  · rintro ⟨-, -, hpartial⟩
    exact hpartial (by decide)

/-- With 5-level paging all pages but the low one are there: the four pages of
the tables stay allocated. -/
theorem lowPageMissing_leaks :
    ¬ InitPagesBalanced { KkmConfig.stock with l5 := true } loadedModule.kx
      { KontainerInitAnswers.granted with low := none } .zeroed
      loadedModule.world.kernel.pages := by
  apply not_balanced_of_lowPageMissing _ _ loadedModule_kx_head Kkm.block_zeroed
  exact ⟨rfl, rfl, 0, rfl, by decide, 0, rfl, by decide⟩

end Driver
end KkmModule
