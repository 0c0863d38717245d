import KkmModule.Driver.Mmu

/-!
# Pages of a kontainer (`kkm_kontainer.c`)

A kontainer owns two pages for the top-level tables of guest kernel and
payload, with 5-level paging two pages for the p4d tables and one for the low
p4d table, and its private hierarchy.
-/

namespace KkmModule
namespace Driver

open Foundation

def kkmKontainerLvlPageCount : Nat := 2
def kkmKontainerLowPageCount : Nat := 1

/-- `KKM_USER_PGTABLE_MASK`: the bit that tells odd pages from even ones. -/
def kkmUserPgtableMask : Nat := pageSize

/-- Answers of the page allocator in one `kkm_kontainer_init`. -/
structure KontainerInitAnswers where
  pgd : Option Nat
  p4d : Option Nat
  low : Option Nat
  pml4 : Pml4Answers
deriving DecidableEq, Repr

def kkmKontainerAllocateLvlPages
    (kPage pPage : KkmMmuPageInfo) (answer : Option Nat) (s : PageState) :
    Int × KkmMmuPageInfo × KkmMmuPageInfo × PageState :=
  let (ret, kPage, s) :=
    kkmMmAllocatePages kPage kkmKontainerLvlPageCount answer s
  if ret ≠ 0 then (ret, kPage, pPage, s)
  else if kPage.va &&& kkmUserPgtableMask = kkmUserPgtableMask then
    (-einval, kPage, pPage, s)
  else
    (0, kPage,
      { pPage with va := kPage.va + pageSize, pa := kPage.pa + pageSize }, s)

def kkmKontainerAllocatePgdPages
    (answer : Option Nat) (kkm : Kkm) (s : PageState) : Int × Kkm × PageState :=
  let (ret, gkPgd, gpPgd, s) :=
    kkmKontainerAllocateLvlPages kkm.gkPgd kkm.gpPgd answer s
  (ret, { kkm with gkPgd := gkPgd, gpPgd := gpPgd }, s)

def kkmKontainerAllocateP4dPages
    (answer : Option Nat) (kkm : Kkm) (s : PageState) : Int × Kkm × PageState :=
  let (ret, gkP4d, gpP4d, s) :=
    kkmKontainerAllocateLvlPages kkm.gkP4d kkm.gpP4d answer s
  (ret, { kkm with gkP4d := gkP4d, gpP4d := gpP4d }, s)

/-- The allocation of `low_p4d`. -/
def kkmKontainerAllocateLowPage
    (answer : Option Nat) (kkm : Kkm) (s : PageState) : Int × Kkm × PageState :=
  let (ret, lowP4d, s) :=
    kkmMmAllocatePages kkm.lowP4d kkmKontainerLowPageCount answer s
  (ret, { kkm with lowP4d := lowP4d }, s)

/-- The call of `kkm_create_pml4` for the private area of the guest. -/
def kkmKontainerCreatePml4
    (kx : KkmMmuPml4e) (a : Pml4Answers) (kkm : Kkm) (s : PageState) :
    Int × Kkm × PageState :=
  let (ret, guest, s) :=
    kkmCreatePml4 .kontainer kx kkmKmGuestPrivateMemStartVa a s
  (ret, { kkm with kkmGuestPml4e := guest }, s)

def kkmKontainerInitMutexes (kkm : Kkm) : Kkm :=
  { kkm with pfLock := .init, memLock := .init, kontextLock := .init }

def kkmKontainerCleanupLvlPages
    (kPage pPage : KkmMmuPageInfo) (s : PageState) :
    KkmMmuPageInfo × KkmMmuPageInfo × PageState :=
  if kPage.page ≠ none then
    (.zeroed, { pPage with va := 0, pa := 0 },
      kkmMmFreePages kPage.va kkmKontainerLvlPageCount s)
  else (kPage, pPage, s)

/-- The release of `low_p4d` in `kkm_kontainer_cleanup`. -/
def kkmKontainerCleanupLowPage (kkm : Kkm) (s : PageState) : Kkm × PageState :=
  if kkm.lowP4d.page ≠ none then
    ({ kkm with lowP4d := .zeroed },
      kkmMmFreePages kkm.lowP4d.va kkmKontainerLowPageCount s)
  else (kkm, s)

def kkmKontainerCleanupPgdPages (kkm : Kkm) (s : PageState) : Kkm × PageState :=
  let (gkPgd, gpPgd, s) := kkmKontainerCleanupLvlPages kkm.gkPgd kkm.gpPgd s
  ({ kkm with gkPgd := gkPgd, gpPgd := gpPgd }, s)

def kkmKontainerCleanupP4dPages (kkm : Kkm) (s : PageState) : Kkm × PageState :=
  let (gkP4d, gpP4d, s) := kkmKontainerCleanupLvlPages kkm.gkP4d kkm.gpP4d s
  ({ kkm with gkP4d := gkP4d, gpP4d := gpP4d }, s)

/-- `kkm_kontainer_cleanup`.  The pointers of the private hierarchy stay. -/
def kkmKontainerCleanup (kkm : Kkm) (s : PageState) : Kkm × PageState :=
  let (kkm, s) := kkmKontainerCleanupLowPage kkm s
  let s := kkmCleanupPml4 kkm.kkmGuestPml4e s
  let (kkm, s) := kkmKontainerCleanupPgdPages kkm s
  kkmKontainerCleanupP4dPages kkm s

/-- The end of `kkm_kontainer_init`: the private hierarchy and the mutexes, or
the cleanup. -/
def kkmKontainerInitGuest
    (kx : KkmMmuPml4e) (a : Pml4Answers) (kkm : Kkm) (s : PageState) :
    Int × Kkm × PageState :=
  let (ret, kkm, s) := kkmKontainerCreatePml4 kx a kkm s
  if ret ≠ 0 then (ret, kkmKontainerCleanup kkm s)
  else (0, kkmKontainerInitMutexes kkm, s)

/-- `kkm_kontainer_init` after the pages of the pgd.  A failure to get the low
page returns at once. -/
def kkmKontainerInitRest
    (cfg : KkmConfig) (kx : KkmMmuPml4e) (a : KontainerInitAnswers)
    (kkm : Kkm) (s : PageState) :
    Int × Kkm × PageState :=
  if cfg.l5 then
    let (ret, kkm, s) := kkmKontainerAllocateP4dPages a.p4d kkm s
    if ret ≠ 0 then (ret, kkmKontainerCleanup kkm s)
    else
      let (ret, kkm, s) := kkmKontainerAllocateLowPage a.low kkm s
      if ret ≠ 0 then (ret, kkm, s)
      else kkmKontainerInitGuest kx a.pml4 kkm s
  else kkmKontainerInitGuest kx a.pml4 kkm s

/-- `kkm_kontainer_init` -/
def kkmKontainerInit
    (cfg : KkmConfig) (kx : KkmMmuPml4e) (a : KontainerInitAnswers)
    (kkm : Kkm) (s : PageState) :
    Int × Kkm × PageState :=
  let (ret, kkm, s) := kkmKontainerAllocatePgdPages a.pgd kkm s
  if ret ≠ 0 then (ret, kkmKontainerCleanup kkm s)
  else kkmKontainerInitRest cfg kx a kkm s

/-! ## When the initialisation succeeds, and what it leaves alone -/

/-- The answers with which the private hierarchy of a kontainer gets built. -/
def Pml4Answers.AllSome (a : Pml4Answers) : Prop :=
  a.pud ≠ none ∧ a.pmd ≠ none ∧ a.pt ≠ none

instance (a : Pml4Answers) : Decidable a.AllSome :=
  inferInstanceAs (Decidable (_ ∧ _ ∧ _))

/-- `kkm_kontainer_init` gets as far as `kkm_create_pml4`: it gets its other
pages, and the two-page blocks start at even pages. -/
def ReachesPml4
    (cfg : KkmConfig) (a : KontainerInitAnswers) (s : PageState) : Prop :=
  ∃ pgd, a.pgd = some pgd ∧ Even (s.pool.next + pgd) ∧
    (cfg.l5 = true → a.low ≠ none ∧
      ∃ p4d, a.p4d = some p4d ∧ Even ((s.pool.take pgd 1).next + p4d))

/-- `kkm_kontainer_init` gets all its pages. -/
def InitCompletes
    (cfg : KkmConfig) (a : KontainerInitAnswers) (s : PageState) : Prop :=
  a.pml4.AllSome ∧ ReachesPml4 cfg a s

/-- What none of the page functions of a kontainer changes. -/
structure SameCounts (kkm kkm' : Kkm) : Prop where
  kontainerFd : kkm'.kontainerFd = kkm.kontainerFd
  referenceCount : kkm'.referenceCount = kkm.referenceCount
  kontextCount : kkm'.kontextCount = kkm.kontextCount
  kontext : kkm'.kontext = kkm.kontext
  mm : kkm'.mm = kkm.mm

theorem SameCounts.trans
    {kkm kkm' kkm'' : Kkm}
    (h : SameCounts kkm kkm') (h' : SameCounts kkm' kkm'') :
    SameCounts kkm kkm'' :=
  ⟨h'.kontainerFd.trans h.kontainerFd, h'.referenceCount.trans h.referenceCount,
    h'.kontextCount.trans h.kontextCount, h'.kontext.trans h.kontext,
    h'.mm.trans h.mm⟩

theorem kkmKontainerAllocatePgdPages_sameCounts
    (answer : Option Nat) (kkm : Kkm) (s : PageState) :
    SameCounts kkm (kkmKontainerAllocatePgdPages answer kkm s).2.1 :=
  ⟨rfl, rfl, rfl, rfl, rfl⟩

theorem kkmKontainerAllocateP4dPages_sameCounts
    (answer : Option Nat) (kkm : Kkm) (s : PageState) :
    SameCounts kkm (kkmKontainerAllocateP4dPages answer kkm s).2.1 :=
  ⟨rfl, rfl, rfl, rfl, rfl⟩

theorem kkmKontainerAllocateLowPage_sameCounts
    (answer : Option Nat) (kkm : Kkm) (s : PageState) :
    SameCounts kkm (kkmKontainerAllocateLowPage answer kkm s).2.1 :=
  ⟨rfl, rfl, rfl, rfl, rfl⟩

/-- The page at an odd frame has the bit set. -/
theorem odd_page_iff (frame : Nat) :
    frame * pageSize &&& kkmUserPgtableMask = kkmUserPgtableMask ↔
      ¬ Even frame := by
  have hbit : (frame * 2 ^ 12).testBit 12 = decide (frame % 2 = 1) := by
    rw [← Nat.shiftLeft_eq, Nat.testBit_shiftLeft]
    simp [Nat.testBit_zero]
  have hmask : kkmUserPgtableMask = 2 ^ 12 := by decide
  have hsize : pageSize = 2 ^ 12 := by decide
  rw [hmask, hsize, Nat.and_two_pow, hbit, Nat.not_even_iff]
  by_cases hodd : frame % 2 = 1
  · simp [hodd]
  · simp [hodd]

/-- Two pages are there, and the first is an even one. -/
theorem kkmKontainerAllocateLvlPages_zero_iff
    (kPage pPage : KkmMmuPageInfo) (answer : Option Nat) (s : PageState) :
    (kkmKontainerAllocateLvlPages kPage pPage answer s).1 = 0 ↔
      ∃ frame, answer = some frame ∧ Even (s.pool.next + frame) := by
  have hcount : kkmKontainerLvlPageCount ≠ 0 := by decide
  cases answer with
  | none =>
      simp [kkmKontainerAllocateLvlPages,
        kkmMmAllocatePages_none kPage hcount s, enomem]
  | some frame =>
      simp only [kkmKontainerAllocateLvlPages,
        kkmMmAllocatePages_some kPage hcount frame s, odd_page_iff]
      by_cases heven : Even (s.pool.next + frame)
      · simp [heven]
      · simp [heven, einval]

theorem kkmKontainerAllocateLvlPages_pool
    (kPage pPage : KkmMmuPageInfo) (frame : Nat) (s : PageState) :
    (kkmKontainerAllocateLvlPages kPage pPage (some frame) s).2.2.2.pool =
      s.pool.take frame 1 := by
  have hcount : kkmKontainerLvlPageCount ≠ 0 := by decide
  have horder : orderBase2 kkmKontainerLvlPageCount = 1 := by decide
  simp only [kkmKontainerAllocateLvlPages,
    kkmMmAllocatePages_some kPage hcount frame s, horder]
  split
  · rfl
  · split
    · rfl
    · rfl

theorem kkmKontainerCleanup_sameCounts (kkm : Kkm) (s : PageState) :
    SameCounts kkm (kkmKontainerCleanup kkm s).1 := by
  simp only [kkmKontainerCleanup, kkmKontainerCleanupLowPage,
    kkmKontainerCleanupPgdPages, kkmKontainerCleanupP4dPages]
  split <;> exact ⟨rfl, rfl, rfl, rfl, rfl⟩

/-- `kkm_create_pml4` succeeds exactly when there are three pages. -/
theorem kkmKontainerCreatePml4_zero_iff
    (kx : KkmMmuPml4e) (a : Pml4Answers) (kkm : Kkm) (s : PageState) :
    (kkmKontainerCreatePml4 kx a kkm s).1 = 0 ↔ a.AllSome := by
  obtain ⟨pud, pmd, pt⟩ := a
  constructor
  · intro hzero
    have hret : (kkmCreatePml4 .kontainer kx kkmKmGuestPrivateMemStartVa
        ⟨pud, pmd, pt⟩ s).1 = 0 := hzero
    obtain ⟨f, g, h, heq⟩ := kkmCreatePml4_answers (Prod.ext hret rfl)
    cases heq
    simp [Pml4Answers.AllSome]
  · rintro ⟨hpud, hpmd, hpt⟩
    obtain ⟨f, rfl⟩ := Option.ne_none_iff_exists'.mp hpud
    obtain ⟨g, rfl⟩ := Option.ne_none_iff_exists'.mp hpmd
    obtain ⟨h, rfl⟩ := Option.ne_none_iff_exists'.mp hpt
    simp only [kkmKontainerCreatePml4, kkmCreatePml4_some]

theorem kkmKontainerInitGuest_spec
    (kx : KkmMmuPml4e) (a : Pml4Answers) (kkm : Kkm) (s : PageState) :
    let r := kkmKontainerInitGuest kx a kkm s
    (r.1 = 0 ↔ a.AllSome) ∧ SameCounts kkm r.2.1 := by
  have hiff := kkmKontainerCreatePml4_zero_iff kx a kkm s
  have hsame : SameCounts kkm (kkmKontainerCreatePml4 kx a kkm s).2.1 :=
    ⟨rfl, rfl, rfl, rfl, rfl⟩
  simp only [kkmKontainerInitGuest]
  split
  · exact ⟨hiff, hsame.trans (kkmKontainerCleanup_sameCounts _ _)⟩
  · rename_i hzero
    have hall := hiff.mp (by simpa using hzero)
    exact ⟨by simp [hall], hsame.trans ⟨rfl, rfl, rfl, rfl, rfl⟩⟩

theorem kkmKontainerAllocatePgdPages_zero_iff
    (answer : Option Nat) (kkm : Kkm) (s : PageState) :
    (kkmKontainerAllocatePgdPages answer kkm s).1 = 0 ↔
      ∃ frame, answer = some frame ∧ Even (s.pool.next + frame) :=
  kkmKontainerAllocateLvlPages_zero_iff kkm.gkPgd kkm.gpPgd answer s

theorem kkmKontainerAllocateP4dPages_zero_iff
    (answer : Option Nat) (kkm : Kkm) (s : PageState) :
    (kkmKontainerAllocateP4dPages answer kkm s).1 = 0 ↔
      ∃ frame, answer = some frame ∧ Even (s.pool.next + frame) :=
  kkmKontainerAllocateLvlPages_zero_iff kkm.gkP4d kkm.gpP4d answer s

theorem kkmKontainerAllocateLowPage_zero_iff
    (answer : Option Nat) (kkm : Kkm) (s : PageState) :
    (kkmKontainerAllocateLowPage answer kkm s).1 = 0 ↔ answer ≠ none :=
  kkmMmAllocatePages_zero_iff kkm.lowP4d
    (show kkmKontainerLowPageCount ≠ 0 by decide) answer s

/-- The pages that only 5-level paging needs are there. -/
def L5Completes (a : KontainerInitAnswers) (s : PageState) : Prop :=
  a.low ≠ none ∧ ∃ p4d, a.p4d = some p4d ∧ Even (s.pool.next + p4d)

theorem kkmKontainerInitRest_spec
    (cfg : KkmConfig) (kx : KkmMmuPml4e) (a : KontainerInitAnswers)
    (kkm : Kkm) (s : PageState) :
    let r := kkmKontainerInitRest cfg kx a kkm s
    (r.1 = 0 ↔ a.pml4.AllSome ∧ (cfg.l5 = true → L5Completes a s)) ∧
      SameCounts kkm r.2.1 := by
  simp only [kkmKontainerInitRest]
  split
  · rename_i hl5
    have hp4d := kkmKontainerAllocateP4dPages_zero_iff a.p4d kkm s
    split
    · rename_i hret
      have hno : ¬ L5Completes a s := fun h => hret (hp4d.mpr h.2)
      refine ⟨by simp [hret, hl5, hno], ?_⟩
      exact (kkmKontainerAllocateP4dPages_sameCounts a.p4d kkm s).trans
        (kkmKontainerCleanup_sameCounts _ _)
    · rename_i hret
      have hp4d := hp4d.mp (by simpa using hret)
      have hlow := kkmKontainerAllocateLowPage_zero_iff a.low
        (kkmKontainerAllocateP4dPages a.p4d kkm s).2.1
        (kkmKontainerAllocateP4dPages a.p4d kkm s).2.2
      split
      · rename_i hret'
        have hno : ¬ L5Completes a s := fun h => hret' (hlow.mpr h.1)
        exact ⟨by simp [hret', hl5, hno], rfl, rfl, rfl, rfl, rfl⟩
      · rename_i hret'
        have hyes : L5Completes a s := ⟨hlow.mp (by simpa using hret'), hp4d⟩
        obtain ⟨hguest, hsame⟩ := kkmKontainerInitGuest_spec kx a.pml4
          (kkmKontainerAllocateLowPage a.low
            (kkmKontainerAllocateP4dPages a.p4d kkm s).2.1
            (kkmKontainerAllocateP4dPages a.p4d kkm s).2.2).2.1
          (kkmKontainerAllocateLowPage a.low
            (kkmKontainerAllocateP4dPages a.p4d kkm s).2.1
            (kkmKontainerAllocateP4dPages a.p4d kkm s).2.2).2.2
        refine ⟨by simpa [hyes] using hguest, ?_⟩
        exact ((kkmKontainerAllocateP4dPages_sameCounts a.p4d kkm s).trans
          (kkmKontainerAllocateLowPage_sameCounts a.low _ _)).trans hsame
  · rename_i hl5
    obtain ⟨hguest, hsame⟩ := kkmKontainerInitGuest_spec kx a.pml4 kkm s
    exact ⟨by simpa [hl5] using hguest, hsame⟩

/-- `kkm_kontainer_init` succeeds exactly when all its pages are there. -/
theorem kkmKontainerInit_spec
    (cfg : KkmConfig) (kx : KkmMmuPml4e) (a : KontainerInitAnswers)
    (kkm : Kkm) (s : PageState) :
    let r := kkmKontainerInit cfg kx a kkm s
    (r.1 = 0 ↔ InitCompletes cfg a s) ∧ SameCounts kkm r.2.1 := by
  have hpgd := kkmKontainerAllocatePgdPages_zero_iff a.pgd kkm s
  simp only [kkmKontainerInit]
  split
  · rename_i hret
    have hno : ¬ InitCompletes cfg a s := by
      rintro ⟨_, pgd, hsome, heven, _⟩
      exact hret (hpgd.mpr ⟨pgd, hsome, heven⟩)
    refine ⟨by simp [hret, hno], ?_⟩
    exact (kkmKontainerAllocatePgdPages_sameCounts a.pgd kkm s).trans
      (kkmKontainerCleanup_sameCounts _ _)
  · rename_i hret
    obtain ⟨pgd, hsome, heven⟩ := hpgd.mp (by simpa using hret)
    have hpool : (kkmKontainerAllocatePgdPages a.pgd kkm s).2.2.pool =
        s.pool.take pgd 1 := by
      rw [hsome]
      exact kkmKontainerAllocateLvlPages_pool kkm.gkPgd kkm.gpPgd pgd s
    obtain ⟨hiff, hsame⟩ := kkmKontainerInitRest_spec cfg kx a
      (kkmKontainerAllocatePgdPages a.pgd kkm s).2.1
      (kkmKontainerAllocatePgdPages a.pgd kkm s).2.2
    refine ⟨hiff.trans ?_,
      (kkmKontainerAllocatePgdPages_sameCounts a.pgd kkm s).trans hsame⟩
    simp only [InitCompletes, ReachesPml4, L5Completes, hpool]
    simp only [hsome, Option.some.injEq, exists_eq_left', heven, true_and]

theorem kkmKontainerInit_of_reaches
    {cfg : KkmConfig} (kx : KkmMmuPml4e) {a : KontainerInitAnswers}
    (kkm : Kkm) {s : PageState} (hreaches : ReachesPml4 cfg a s) :
    ∃ kkm' s', kkmKontainerInit cfg kx a kkm s =
      kkmKontainerInitGuest kx a.pml4 kkm' s' := by
  obtain ⟨pgd, hsome, heven, hl5⟩ := hreaches
  have hret := (kkmKontainerAllocatePgdPages_zero_iff a.pgd kkm s).mpr
    ⟨pgd, hsome, heven⟩
  have hpool : (kkmKontainerAllocatePgdPages a.pgd kkm s).2.2.pool =
      s.pool.take pgd 1 := by
    rw [hsome]
    exact kkmKontainerAllocateLvlPages_pool kkm.gkPgd kkm.gpPgd pgd s
  simp only [kkmKontainerInit, kkmKontainerInitRest]
  rw [if_neg (not_not.mpr hret)]
  cases hcfg : cfg.l5 with
  | false => exact ⟨_, _, rfl⟩
  | true =>
      obtain ⟨hlow, hp4d⟩ := hl5 hcfg
      rw [← hpool] at hp4d
      have hret' := (kkmKontainerAllocateP4dPages_zero_iff a.p4d
        (kkmKontainerAllocatePgdPages a.pgd kkm s).2.1 _).mpr hp4d
      have hret'' := (kkmKontainerAllocateLowPage_zero_iff a.low
        (kkmKontainerAllocateP4dPages a.p4d
          (kkmKontainerAllocatePgdPages a.pgd kkm s).2.1
          (kkmKontainerAllocatePgdPages a.pgd kkm s).2.2).2.1
        (kkmKontainerAllocateP4dPages a.p4d
          (kkmKontainerAllocatePgdPages a.pgd kkm s).2.1
          (kkmKontainerAllocatePgdPages a.pgd kkm s).2.2).2.2).mpr hlow
      rw [if_pos rfl, if_neg (not_not.mpr hret'), if_neg (not_not.mpr hret'')]
      exact ⟨_, _, rfl⟩

/-! ### Signs of the results -/

theorem kkmKontainerAllocateLvlPages_nonpos
    (kPage pPage : KkmMmuPageInfo) (answer : Option Nat) (s : PageState) :
    (kkmKontainerAllocateLvlPages kPage pPage answer s).1 ≤ 0 := by
  simp only [kkmKontainerAllocateLvlPages]
  split
  · exact kkmMmAllocatePages_nonpos ..
  · split
    · simp [einval]
    · exact le_refl 0

theorem kkmKontainerInitGuest_nonpos
    (kx : KkmMmuPml4e) (a : Pml4Answers) (kkm : Kkm) (s : PageState) :
    (kkmKontainerInitGuest kx a kkm s).1 ≤ 0 := by
  simp only [kkmKontainerInitGuest]
  split
  · exact kkmCreatePml4_nonpos .kontainer kx kkmKmGuestPrivateMemStartVa a s
  · exact le_refl 0

/-- A failing `kkm_kontainer_init` returns a negative number. -/
theorem kkmKontainerInit_nonpos
    (cfg : KkmConfig) (kx : KkmMmuPml4e) (a : KontainerInitAnswers)
    (kkm : Kkm) (s : PageState) :
    (kkmKontainerInit cfg kx a kkm s).1 ≤ 0 := by
  simp only [kkmKontainerInit]
  split
  · exact kkmKontainerAllocateLvlPages_nonpos ..
  · simp only [kkmKontainerInitRest]
    split
    · split
      · exact kkmKontainerAllocateLvlPages_nonpos ..
      · split
        · exact kkmMmAllocatePages_nonpos _ kkmKontainerLowPageCount a.low _
        · exact kkmKontainerInitGuest_nonpos ..
    · exact kkmKontainerInitGuest_nonpos ..

/-! ## What a kontainer owns -/

/-- The places in which a kkm keeps pages. -/
inductive KontainerPage where
  | pgd
  | p4d
  | low
  | pud
  | pmd
  | pt
deriving DecidableEq

/-- The block that a cleanup gives back for a place. -/
def Kkm.block (kkm : Kkm) : KontainerPage → Option Block
  | .pgd => kkm.gkPgd.block 1
  | .p4d => kkm.gkP4d.block 1
  | .low => kkm.lowP4d.block 0
  | .pud => kkm.kkmGuestPml4e.pud.block 0
  | .pmd => kkm.kkmGuestPml4e.pmd.block 0
  | .pt => kkm.kkmGuestPml4e.pt.block 0

section Ownership

variable {others : Set Block} {kkm : Kkm} {s : PageState}

theorem block_setPgd (kkm : Kkm) (k p : KkmMmuPageInfo) :
    Kkm.block { kkm with gkPgd := k, gpPgd := p } =
      Function.update kkm.block KontainerPage.pgd (k.block 1) := by
  funext q
  cases q <;> rfl

theorem block_setP4d (kkm : Kkm) (k p : KkmMmuPageInfo) :
    Kkm.block { kkm with gkP4d := k, gpP4d := p } =
      Function.update kkm.block KontainerPage.p4d (k.block 1) := by
  funext q
  cases q <;> rfl

theorem block_setLow (kkm : Kkm) (k : KkmMmuPageInfo) :
    Kkm.block { kkm with lowP4d := k } =
      Function.update kkm.block KontainerPage.low (k.block 0) := by
  funext q
  cases q <;> rfl

theorem kkmKontainerAllocateLvlPages_eq
    (kPage pPage : KkmMmuPageInfo) (answer : Option Nat) (s : PageState) :
    let r := kkmKontainerAllocateLvlPages kPage pPage answer s
    let a := kkmMmAllocatePages kPage kkmKontainerLvlPageCount answer s
    r.2.1 = a.2.1 ∧ r.2.2.2 = a.2.2 := by
  simp only [kkmKontainerAllocateLvlPages]
  split
  · exact ⟨rfl, rfl⟩
  · split
    · exact ⟨rfl, rfl⟩
    · exact ⟨rfl, rfl⟩

theorem kkmKontainerAllocatePgdPages_held
    (answer : Option Nat) (h : Held s.pool kkm.block others) :
    let r := kkmKontainerAllocatePgdPages answer kkm s
    Held r.2.2.pool r.2.1.block others := by
  have hheld := held_allocatePages h KontainerPage.pgd kkm.gkPgd
    (show kkmKontainerLvlPageCount ≠ 0 by decide) answer
  obtain ⟨hk, hs⟩ := kkmKontainerAllocateLvlPages_eq kkm.gkPgd kkm.gpPgd answer s
  simp only [kkmKontainerAllocatePgdPages, block_setPgd, hk, hs]
  exact hheld

theorem kkmKontainerAllocateP4dPages_held
    (answer : Option Nat) (h : Held s.pool kkm.block others) :
    let r := kkmKontainerAllocateP4dPages answer kkm s
    Held r.2.2.pool r.2.1.block others := by
  have hheld := held_allocatePages h KontainerPage.p4d kkm.gkP4d
    (show kkmKontainerLvlPageCount ≠ 0 by decide) answer
  obtain ⟨hk, hs⟩ := kkmKontainerAllocateLvlPages_eq kkm.gkP4d kkm.gpP4d answer s
  simp only [kkmKontainerAllocateP4dPages, block_setP4d, hk, hs]
  exact hheld

theorem kkmKontainerAllocateLowPage_held
    (answer : Option Nat) (h : Held s.pool kkm.block others) :
    let r := kkmKontainerAllocateLowPage answer kkm s
    Held r.2.2.pool r.2.1.block others := by
  have hheld := held_allocatePages h KontainerPage.low kkm.lowP4d
    (show kkmKontainerLowPageCount ≠ 0 by decide) answer
  simp only [kkmKontainerAllocateLowPage, block_setLow]
  exact hheld

/-- Freeing a page if its pointer is set empties the place. -/
theorem held_freePages_if
    {ι : Type*} [DecidableEq ι] {mine : ι → Option Block}
    (h : Held s.pool mine others) {i : ι}
    (info : KkmMmuPageInfo) {count : Nat} (hcount : count ≠ 0)
    (hi : mine i = info.block (orderBase2 count)) :
    Held (if info.page ≠ none then kkmMmFreePages info.va count s else s).pool
      (Function.update mine i none) others := by
  split
  · rename_i hpage
    exact held_freePages h hcount hpage hi
  · exact h.forget i

theorem kkmCleanupPml4_held
    {ι : Type*} [DecidableEq ι] {mine : ι → Option Block}
    (h : Held s.pool mine others) (kmu : KkmMmuPml4e) {i j k : ι}
    (hji : j ≠ i) (hki : k ≠ i) (hkj : k ≠ j)
    (hpud : mine i = kmu.pud.block 0)
    (hpmd : mine j = kmu.pmd.block 0)
    (hpt : mine k = kmu.pt.block 0) :
    Held (kkmCleanupPml4 kmu s).pool
      (Function.update (Function.update (Function.update mine
        i none) j none) k none) others := by
  have hone : 1 ≠ 0 := by decide
  have h1 := held_freePages_if h kmu.pud hone hpud
  have hpmd1 : Function.update mine i none j = kmu.pmd.block 0 := by
    rw [Function.update_of_ne hji, hpmd]
  have h2 := held_freePages_if h1 kmu.pmd hone hpmd1
  have hpt2 : Function.update (Function.update mine i none) j none k =
      kmu.pt.block 0 := by
    rw [Function.update_of_ne hkj, Function.update_of_ne hki, hpt]
  exact held_freePages_if h2 kmu.pt hone hpt2

theorem kkmKontainerCleanupLvlPages_eq
    (kPage pPage : KkmMmuPageInfo) (s : PageState) :
    let r := kkmKontainerCleanupLvlPages kPage pPage s
    r.1.block 1 = none ∧
      r.2.2 = if kPage.page ≠ none then
        kkmMmFreePages kPage.va kkmKontainerLvlPageCount s else s := by
  unfold kkmKontainerCleanupLvlPages
  split
  · exact ⟨rfl, rfl⟩
  · rename_i hpage
    have hnone : kPage.page = none := by simpa using hpage
    exact ⟨by simp [KkmMmuPageInfo.block, hnone], rfl⟩

theorem kkmKontainerCleanupLowPage_eq (kkm : Kkm) (s : PageState) :
    ∃ low, low.block 0 = none ∧
      kkmKontainerCleanupLowPage kkm s =
        ({ kkm with lowP4d := low },
          if kkm.lowP4d.page ≠ none then
            kkmMmFreePages kkm.lowP4d.va kkmKontainerLowPageCount s else s) := by
  unfold kkmKontainerCleanupLowPage
  split
  · exact ⟨.zeroed, rfl, rfl⟩
  · rename_i hpage
    have hnone : kkm.lowP4d.page = none := by simpa using hpage
    exact ⟨kkm.lowP4d, by simp [KkmMmuPageInfo.block, hnone], rfl⟩

/-- A cleanup gives back everything; in the kkm only the pointers of the private
hierarchy stay. -/
theorem kkmKontainerCleanup_held
    (h : Held s.pool kkm.block others) :
    let r := kkmKontainerCleanup kkm s
    Held r.2.pool (fun _ : KontainerPage => none) others ∧
      r.1.kkmGuestPml4e = kkm.kkmGuestPml4e ∧
      r.1.block .pgd = none ∧ r.1.block .p4d = none ∧ r.1.block .low = none := by
  obtain ⟨low, hlow, heq⟩ := kkmKontainerCleanupLowPage_eq kkm s
  intro r
  -- in the order of the source: low page, hierarchy, pgd pages, p4d pages
  have hlowCount : kkmKontainerLowPageCount ≠ 0 := by decide
  have hlvlCount : kkmKontainerLvlPageCount ≠ 0 := by decide
  have h1 := held_freePages_if h (i := .low) kkm.lowP4d hlowCount rfl
  have h2 := kkmCleanupPml4_held h1 kkm.kkmGuestPml4e
    (i := .pud) (j := .pmd) (k := .pt)
    (by decide) (by decide) (by decide) rfl rfl rfl
  have h3 := held_freePages_if h2 (i := .pgd) kkm.gkPgd hlvlCount rfl
  have h4 := held_freePages_if h3 (i := .p4d) kkm.gkP4d hlvlCount rfl
  obtain ⟨hpgd, hpgdState⟩ := kkmKontainerCleanupLvlPages_eq kkm.gkPgd kkm.gpPgd
    (kkmCleanupPml4 kkm.kkmGuestPml4e (if kkm.lowP4d.page ≠ none then
      kkmMmFreePages kkm.lowP4d.va kkmKontainerLowPageCount s else s))
  obtain ⟨hp4d, hp4dState⟩ := kkmKontainerCleanupLvlPages_eq kkm.gkP4d kkm.gpP4d
    (kkmKontainerCleanupLvlPages kkm.gkPgd kkm.gpPgd
      (kkmCleanupPml4 kkm.kkmGuestPml4e (if kkm.lowP4d.page ≠ none then
        kkmMmFreePages kkm.lowP4d.va kkmKontainerLowPageCount s else s))).2.2
  have hempty : Function.update (Function.update (Function.update (Function.update
      (Function.update (Function.update kkm.block .low none) .pud none) .pmd none)
      .pt none) .pgd none) .p4d none = fun _ : KontainerPage => none := by
    funext q
    cases q <;> rfl
  rw [hempty, ← hpgdState, ← hp4dState] at h4
  simp only [r, kkmKontainerCleanup, heq, kkmKontainerCleanupPgdPages,
    kkmKontainerCleanupP4dPages]
  exact ⟨h4, trivial, hpgd, hp4d, hlow⟩

/-- A successful `kkm_create_pml4` puts three blocks into the places. -/
theorem kkmKontainerCreatePml4_held
    (kx : KkmMmuPml4e) (pud pmd pt : Nat)
    (h : Held s.pool kkm.block others) :
    let r := kkmKontainerCreatePml4 kx ⟨some pud, some pmd, some pt⟩ kkm s
    r.1 = 0 ∧ Held r.2.2.pool r.2.1.block others := by
  have h1 := h.take .pud pud 0
  have h2 := h1.take .pmd pmd 0
  have h3 := h2.take .pt pt 0
  simp only [kkmKontainerCreatePml4, kkmCreatePml4_some]
  refine ⟨trivial, ?_⟩
  have hblock : ∀ f g k : Nat,
      Kkm.block { kkm with kkmGuestPml4e := pml4OfFrames f g k } =
        Function.update (Function.update (Function.update kkm.block
          .pud (some ⟨f, 0⟩)) .pmd (some ⟨g, 0⟩)) .pt (some ⟨k, 0⟩) := by
    intro f g k
    have hdiv : ∀ x, x * pageSize / pageSize = x :=
      fun x => Nat.mul_div_cancel x (by decide)
    funext q
    cases q <;> simp [Kkm.block, pml4OfFrames, KkmMmuPageInfo.block, hdiv]
  rw [hblock]
  exact h3

theorem kkmKontainerInitGuest_held
    (kx : KkmMmuPml4e) {a : Pml4Answers} (ha : a.AllSome)
    (h : Held s.pool kkm.block others) :
    let r := kkmKontainerInitGuest kx a kkm s
    r.1 = 0 ∧ Held r.2.2.pool r.2.1.block others := by
  obtain ⟨pud, pmd, pt⟩ := a
  obtain ⟨hpud, hpmd, hpt⟩ := ha
  obtain ⟨pud, rfl⟩ := Option.ne_none_iff_exists'.mp hpud
  obtain ⟨pmd, rfl⟩ := Option.ne_none_iff_exists'.mp hpmd
  obtain ⟨pt, rfl⟩ := Option.ne_none_iff_exists'.mp hpt
  obtain ⟨hzero, hheld⟩ := kkmKontainerCreatePml4_held kx pud pmd pt h
  simp only [kkmKontainerInitGuest]
  rw [if_neg (by simpa using hzero)]
  refine ⟨rfl, ?_⟩
  have hblock : ∀ k : Kkm, (kkmKontainerInitMutexes k).block = k.block := by
    intro k
    funext q
    cases q <;> rfl
  rw [hblock]
  exact hheld

/-- A cleanup of a kkm whose private hierarchy is still zeroed leaves it without
pages. -/
theorem kkmKontainerCleanup_empty
    (h : Held s.pool kkm.block others) (hguest : kkm.kkmGuestPml4e = .zeroed) :
    let r := kkmKontainerCleanup kkm s
    Held r.2.pool r.1.block others := by
  obtain ⟨hheld, hkept, hpgd, hp4d, hlow⟩ := kkmKontainerCleanup_held h
  have hblock : (kkmKontainerCleanup kkm s).1.block = fun _ => none := by
    funext q
    cases q with
    | pgd => exact hpgd
    | p4d => exact hp4d
    | low => exact hlow
    | pud => simp [Kkm.block, hkept, hguest, KkmMmuPml4e.zeroed]
    | pmd => simp [Kkm.block, hkept, hguest, KkmMmuPml4e.zeroed]
    | pt => simp [Kkm.block, hkept, hguest, KkmMmuPml4e.zeroed]
  intro r
  rw [hblock]
  exact hheld

/-- Whatever fails before `kkm_create_pml4`, the kkm owns what it still points
to. -/
theorem kkmKontainerInit_held
    (cfg : KkmConfig) (kx : KkmMmuPml4e) {a : KontainerInitAnswers}
    (h : Held s.pool kkm.block others) (hguest : kkm.kkmGuestPml4e = .zeroed)
    (ha : ReachesPml4 cfg a s → a.pml4.AllSome) :
    let r := kkmKontainerInit cfg kx a kkm s
    Held r.2.2.pool r.2.1.block others := by
  have hpgdHeld := kkmKontainerAllocatePgdPages_held a.pgd h
  have hpgd := kkmKontainerAllocatePgdPages_zero_iff a.pgd kkm s
  simp only [kkmKontainerInit]
  split
  · exact kkmKontainerCleanup_empty hpgdHeld hguest
  · rename_i hret
    obtain ⟨pgd, hsome, heven⟩ := hpgd.mp (by simpa using hret)
    have hpool : (kkmKontainerAllocatePgdPages a.pgd kkm s).2.2.pool =
        s.pool.take pgd 1 := by
      rw [hsome]
      exact kkmKontainerAllocateLvlPages_pool kkm.gkPgd kkm.gpPgd pgd s
    simp only [kkmKontainerInitRest]
    split
    · rename_i hl5
      have hp4dHeld := kkmKontainerAllocateP4dPages_held a.p4d hpgdHeld
      have hp4d := kkmKontainerAllocateP4dPages_zero_iff a.p4d
        (kkmKontainerAllocatePgdPages a.pgd kkm s).2.1
        (kkmKontainerAllocatePgdPages a.pgd kkm s).2.2
      split
      · exact kkmKontainerCleanup_empty hp4dHeld hguest
      · rename_i hret'
        have hp4d := hp4d.mp (by simpa using hret')
        rw [hpool] at hp4d
        have hlowHeld := kkmKontainerAllocateLowPage_held a.low hp4dHeld
        have hlow := kkmKontainerAllocateLowPage_zero_iff a.low
          (kkmKontainerAllocateP4dPages a.p4d
            (kkmKontainerAllocatePgdPages a.pgd kkm s).2.1
            (kkmKontainerAllocatePgdPages a.pgd kkm s).2.2).2.1
          (kkmKontainerAllocateP4dPages a.p4d
            (kkmKontainerAllocatePgdPages a.pgd kkm s).2.1
            (kkmKontainerAllocatePgdPages a.pgd kkm s).2.2).2.2
        split
        · exact hlowHeld
        · rename_i hret''
          have hlow := hlow.mp (by simpa using hret'')
          have hreaches : ReachesPml4 cfg a s :=
            ⟨pgd, hsome, heven, fun _ => ⟨hlow, hp4d⟩⟩
          exact (kkmKontainerInitGuest_held kx (ha hreaches) hlowHeld).2
    · rename_i hl5
      have hreaches : ReachesPml4 cfg a s :=
        ⟨pgd, hsome, heven, fun h => absurd h hl5⟩
      exact (kkmKontainerInitGuest_held kx (ha hreaches) hpgdHeld).2

end Ownership

/-! ## The global hierarchy -/

theorem kkmMmFreePages_live_subset (va count : Nat) (s : PageState) :
    (kkmMmFreePages va count s).pool.live ⊆ s.pool.live := by
  unfold kkmMmFreePages
  split
  · exact Finset.Subset.refl _
  · exact Finset.erase_subset _ _

theorem kkmMmFreePages_if_live_subset
    (page : Option Nat) (va count : Nat) (s : PageState) :
    (if page ≠ none then kkmMmFreePages va count s else s).pool.live ⊆
      s.pool.live := by
  split
  · exact kkmMmFreePages_live_subset va count s
  · exact Finset.Subset.refl _

/-- After a cleanup of a hierarchy its first page is not allocated. -/
theorem kkmCleanupPml4_pud
    {kmu : KkmMmuPml4e} {b : Block} (hb : kmu.pud.block 0 = some b)
    (s : PageState) :
    b ∉ (kkmCleanupPml4 kmu s).pool.live := by
  obtain ⟨frame, hframe, hva⟩ := Option.map_eq_some_iff.mp hb
  have hpage : kmu.pud.page ≠ none := by simp [hframe]
  have hgone : b ∉ (kkmMmFreePages kmu.pud.va 1 s).pool.live := by
    simp [kkmMmFreePages, ← hva]
  intro hmem
  have hpmd := kkmMmFreePages_if_live_subset kmu.pt.page kmu.pt.va 1 _ hmem
  have hpud := kkmMmFreePages_if_live_subset kmu.pmd.page kmu.pmd.va 1 _ hpmd
  simp only [if_pos hpage] at hpud
  exact hgone hpud

theorem kkmKontainerCleanup_live_subset (kkm : Kkm) (s : PageState) :
    (kkmKontainerCleanup kkm s).2.pool.live ⊆ s.pool.live := by
  obtain ⟨low, _, heq⟩ := kkmKontainerCleanupLowPage_eq kkm s
  have hlvl : ∀ k p s', (kkmKontainerCleanupLvlPages k p s').2.2.pool.live ⊆
      s'.pool.live := by
    intro k p s'
    rw [(kkmKontainerCleanupLvlPages_eq k p s').2]
    exact kkmMmFreePages_if_live_subset _ _ _ _
  have hpml4 : ∀ kmu s', (kkmCleanupPml4 kmu s').pool.live ⊆ s'.pool.live := by
    intro kmu s'
    exact ((kkmMmFreePages_if_live_subset _ _ _ _).trans
      (kkmMmFreePages_if_live_subset _ _ _ _)).trans
        (kkmMmFreePages_if_live_subset _ _ _ _)
  have hlow := kkmMmFreePages_if_live_subset kkm.lowP4d.page kkm.lowP4d.va
    kkmKontainerLowPageCount s
  simp only [kkmKontainerCleanup, heq, kkmKontainerCleanupPgdPages,
    kkmKontainerCleanupP4dPages]
  exact (((hlvl _ _ _).trans (hlvl _ _ _)).trans (hpml4 _ _)).trans hlow

/-- If its private hierarchy cannot be built, a kontainer gives back the pages
of the global one. -/
theorem kkmKontainerInitGuest_frees
    {kx : KkmMmuPml4e} {b : Block} (hb : kx.pud.block 0 = some b)
    {a : Pml4Answers} (ha : ¬ a.AllSome) (kkm : Kkm) (s : PageState) :
    b ∉ (kkmKontainerInitGuest kx a kkm s).2.2.pool.live := by
  have hret : (kkmKontainerCreatePml4 kx a kkm s).1 ≠ 0 :=
    fun h => ha ((kkmKontainerCreatePml4_zero_iff kx a kkm s).mp h)
  have hcreate : b ∉ (kkmKontainerCreatePml4 kx a kkm s).2.2.pool.live := by
    have hbuild : (kkmBuildPml4 kkmKmGuestPrivateMemStartVa a s).1 ≠ 0 := by
      intro hzero
      apply hret
      simp [kkmKontainerCreatePml4, kkmCreatePml4, hzero]
    simp only [kkmKontainerCreatePml4, kkmCreatePml4, if_pos hbuild, kkmMmuCleanup]
    exact kkmCleanupPml4_pud hb _
  simp only [kkmKontainerInitGuest, if_pos hret]
  exact fun hmem => hcreate (kkmKontainerCleanup_live_subset _ _ hmem)

end Driver
end KkmModule
