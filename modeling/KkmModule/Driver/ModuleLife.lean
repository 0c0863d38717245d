import KkmModule.Driver.ReferenceCount

/-!
# The pages of the loaded module

The module from `kkm_init` to `kkm_exit`, with creations and destructions of
kontainers in between.  The global hierarchy `kkm_mmu_kx` is meant to stay
allocated all the time, and no block is meant to be given back twice.

The error path of `kkm_create_pml4` cleans up the global hierarchy whichever
hierarchy it was building.  `pagesKept_iff_pml4sBuilt` says that a run keeps
the pages exactly when no kontainer ends up on that path.

Of the interrupt descriptor table only the pages are modelled.
-/

namespace KkmModule
namespace Driver

open Foundation

/-- `KKM_IDT_ALLOCATION_PAGES` -/
def kkmIdtAllocationPages : Nat := 4

/-- Answers of the page allocator in one `kkm_init`. -/
structure InitAnswers where
  kx : Pml4Answers
  idt : Option Nat

/-- What the module keeps in static variables, and the kontainers. -/
structure ModuleState where
  /-- `kkm_mmu_kx` -/
  kx : KkmMmuPml4e
  /-- `kkm_idt.idt_entry.idt` -/
  idt : KkmMmuPageInfo
  loaded : Bool
  world : World

/-- `kkm_idt_init` -/
def kkmIdtInit (answer : Option Nat) (s : PageState) :
    Int × KkmMmuPageInfo × PageState :=
  kkmMmAllocatePages .zeroed kkmIdtAllocationPages answer s

/-- `kkm_idt_cleanup` -/
def kkmIdtCleanup (idt : KkmMmuPageInfo) (s : PageState) :
    KkmMmuPageInfo × PageState :=
  ({ idt with page := none, va := 0 },
    kkmMmFreePages idt.va kkmIdtAllocationPages s)

/-- `kkm_init` -/
def kkmInit (a : InitAnswers) (g : KernelState) : Int × ModuleState :=
  let (ret, kx, s) := kkmMmuInit a.kx g.pages
  if ret ≠ 0 then (ret, ⟨kx, .zeroed, false, .start { g with pages := s }⟩)
  else
    let (ret, idt, s) := kkmIdtInit a.idt s
    if ret ≠ 0 then (ret, ⟨kx, idt, false, .start { g with pages := s }⟩)
    else (0, ⟨kx, idt, true, .start { g with pages := s, kkmObjectId := 1#64 }⟩)

/-- `kkm_exit` -/
def kkmExit (m : ModuleState) : ModuleState :=
  let (idt, s) := kkmIdtCleanup m.idt m.world.kernel.pages
  let s := kkmMmuCleanup m.kx s
  { m with
    idt := idt
    loaded := false
    world := { m.world with kernel := { m.world.kernel with pages := s } } }

inductive ModuleEvent where
  | create (answers : CreateAnswers)
  | close (q fd : Nat)
  | exit

/-- Installed files pin the module. -/
def ModuleState.inUse (m : ModuleState) : Bool :=
  (List.range m.world.created).any fun q => !(m.world.kontainers q).files.isEmpty

def ModuleState.setWorld (m : ModuleState) (w : World) : ModuleState :=
  { m with world := w }

def moduleStep (cfg : KkmConfig) (m : ModuleState) (e : ModuleEvent) :
    Except KernelFault ModuleState :=
  if m.loaded = false then .ok m
  else
    match e with
    | .create a => (lifecycleStep cfg m.kx m.world (.create a)).map m.setWorld
    | .close q fd => (lifecycleStep cfg m.kx m.world (.close q fd)).map m.setWorld
    | .exit => if m.inUse then .ok m else .ok (kkmExit m)

/-- The pages of a hierarchy. -/
inductive Pml4Page where
  | pud
  | pmd
  | pt
deriving DecidableEq

def KkmMmuPml4e.block (kmu : KkmMmuPml4e) : Pml4Page → Option Block
  | .pud => kmu.pud.block 0
  | .pmd => kmu.pmd.block 0
  | .pt => kmu.pt.block 0

/-- The page allocator as the module left it. -/
def ModuleState.pool (m : ModuleState) : BlockPool := m.world.kernel.pages.pool

/-- While the module is loaded its global hierarchy is allocated, and nothing has
been given back twice. -/
structure ModuleState.PagesKept (m : ModuleState) : Prop where
  kx : m.loaded = true →
    ∀ page, ∃ b, m.kx.block page = some b ∧ b ∈ m.pool.live
  clean : m.pool.doubleFreed = []

/-- A kontainer that gets as far as building its private hierarchy gets the
pages for it. -/
def Pml4sBuilt (cfg : KkmConfig) (m : ModuleState) : ModuleEvent → Prop
  | .create a => m.loaded = true → a.kzalloc = true → a.getfd = true →
      ReachesPml4 cfg a.init m.world.kernel.pages → a.init.pml4.AllSome
  | .close _ _ => True
  | .exit => True

/-! ## Blocks of a kontainer -/

def KontainerState.block (k : KontainerState) (p : KontainerPage) : Option Block :=
  k.kkm.bind fun kkm => kkm.block p

section Kontainer

variable {others : Set Block} {cfg : KkmConfig}
variable {a : CreateAnswers} {g : KernelState} {k : KontainerState} {kkm : Kkm}

/-- The page places depend on no other field. -/
theorem block_congr_kkm
    {kkm kkm' : Kkm}
    (hpgd : kkm'.gkPgd = kkm.gkPgd) (hp4d : kkm'.gkP4d = kkm.gkP4d)
    (hlow : kkm'.lowP4d = kkm.lowP4d)
    (hguest : kkm'.kkmGuestPml4e = kkm.kkmGuestPml4e) :
    kkm'.block = kkm.block := by
  funext q
  cases q with
  | pgd => simp [Kkm.block, hpgd]
  | p4d => simp [Kkm.block, hp4d]
  | low => simp [Kkm.block, hlow]
  | pud => simp [Kkm.block, hguest]
  | pmd => simp [Kkm.block, hguest]
  | pt => simp [Kkm.block, hguest]

theorem kkmCreateKontainerBody_held
    (kx : KkmMmuPml4e) {objectId : BitVec 64} {s : PageState}
    (h : Held s.pool kkm.block others) (hguest : kkm.kkmGuestPml4e = .zeroed)
    (ha : ReachesPml4 cfg a.init s → a.init.pml4.AllSome) :
    let r := kkmCreateKontainerBody cfg kx a objectId kkm s
    Held r.2.2.pool r.2.1.block others := by
  have hsame : Kkm.block { kkm with id := objectId, mm := a.currentMm } =
      kkm.block := block_congr_kkm rfl rfl rfl rfl
  rw [← hsame] at h
  have hinit := kkmKontainerInit_held cfg kx h hguest ha
  simp only [kkmCreateKontainerBody]
  split
  · exact hinit
  · split
    · exact hinit
    · exact hinit

/-- A creation fills the places of its kontainer. -/
theorem kkmCreateKontainer_held
    (kx : KkmMmuPml4e) (h : Held g.pages.pool (fun _ : KontainerPage => none) others)
    (ha : a.kzalloc = true → a.getfd = true →
      ReachesPml4 cfg a.init g.pages → a.init.pml4.AllSome) :
    let r := kkmCreateKontainer cfg kx a g
    Held r.2.2.pages.pool r.2.1.block others := by
  cases hzalloc : a.kzalloc with
  | false =>
      simp only [kkmCreateKontainer, hzalloc, if_true]
      exact h
  | true =>
      cases hfd : a.getfd with
      | false =>
          simp only [kkmCreateKontainer, hzalloc, hfd, if_true, if_false,
            Bool.true_eq_false]
          have hblock : (fun p => Kkm.block
              { Kkm.zeroed with kontainerFd := -emfile } p) = fun _ => none := by
            funext p
            cases p <;> rfl
          rw [← hblock] at h
          exact h
      | true =>
          have hblock : Kkm.block { Kkm.zeroed with kontainerFd := g.nextFd } =
              fun _ => none := by
            funext p
            cases p <;> rfl
          simp only [kkmCreateKontainer, hzalloc, hfd, if_false,
            Bool.true_eq_false]
          exact kkmCreateKontainerBody_held kx (hblock ▸ h) rfl (ha hzalloc hfd)

/-- Dropping a reference empties the places or leaves them as they are. -/
theorem kkmReferenceCountDown_held
    (h : Held g.pages.pool kkm.block others) :
    let r := kkmReferenceCountDown kkm k g
    Held r.2.pages.pool r.1.block others := by
  have hsame : Kkm.block { kkm with
      referenceCount := (refcountDecAndTest kkm.referenceCount).2 } =
      kkm.block := block_congr_kkm rfl rfl rfl rfl
  rw [← hsame] at h
  simp only [kkmReferenceCountDown]
  split
  · exact (kkmKontainerCleanup_held h).1
  · exact h

theorem kkmReferenceCountDown_files
    (kkm : Kkm) (k : KontainerState) (g : KernelState) :
    (kkmReferenceCountDown kkm k g).1.files = k.files := by
  simp only [kkmReferenceCountDown]
  split
  · rfl
  · rfl

/-- The pages of the global hierarchy go when a kontainer cannot build its own. -/
theorem kkmCreateKontainer_frees
    {kx : KkmMmuPml4e} {b : Block} (hb : kx.pud.block 0 = some b)
    (hzalloc : a.kzalloc = true) (hfd : a.getfd = true)
    (hreaches : ReachesPml4 cfg a.init g.pages) (ha : ¬ a.init.pml4.AllSome) :
    b ∉ (kkmCreateKontainer cfg kx a g).2.2.pages.pool.live := by
  obtain ⟨kkm', s', hinit⟩ := kkmKontainerInit_of_reaches kx
    { Kkm.zeroed with
      kontainerFd := g.nextFd, id := g.kkmObjectId + 1#64, mm := a.currentMm }
    hreaches
  have hfrees := kkmKontainerInitGuest_frees hb ha kkm' s'
  have hret : (kkmKontainerInitGuest kx a.init.pml4 kkm' s').1 ≠ 0 :=
    fun hzero => ha ((kkmKontainerInitGuest_spec kx a.init.pml4 kkm' s').1.mp hzero)
  simp only [kkmCreateKontainer, hzalloc, hfd, if_false, Bool.true_eq_false,
    kkmCreateKontainerBody, hinit, if_pos hret]
  exact hfrees

end Kontainer

/-! ## The places of the whole module -/

inductive ModulePlace where
  | kx (page : Pml4Page)
  | idt
  | kontainer (q : Nat) (page : KontainerPage)
deriving DecidableEq

/-- The block in each place; after `kkm_exit` the global ones are empty. -/
def ModuleState.own (m : ModuleState) : ModulePlace → Option Block
  | .kx page => if m.loaded then m.kx.block page else none
  | .idt => if m.loaded then m.idt.block 2 else none
  | .kontainer q page => (m.world.kontainers q).block page

/-- Only the file of the kontainer itself is ever installed. -/
structure OnlyKontainerFile (k : KontainerState) : Prop where
  one : k.files.length ≤ 1
  target : ∀ f ∈ k.files, f.target = .kontainer
  alive : k.files ≠ [] → k.kkm ≠ none

structure ModuleState.Tracked (m : ModuleState) : Prop where
  owns : Owns m.pool m.own
  kx : m.loaded = true → ∀ page, m.kx.block page ≠ none
  idt : m.loaded = true → m.idt.page ≠ none
  files : ∀ q, OnlyKontainerFile (m.world.kontainers q)
  absent : ∀ q, m.world.created ≤ q → m.world.kontainers q = .absent

theorem ModuleState.Tracked.kept {m : ModuleState} (h : m.Tracked) :
    m.PagesKept := by
  refine ⟨?_, h.owns.clean⟩
  intro hloaded page
  obtain ⟨b, hb⟩ := Option.ne_none_iff_exists'.mp (h.kx hloaded page)
  have hown : m.own (.kx page) = some b := by
    simp only [ModuleState.own, if_pos hloaded]
    exact hb
  exact ⟨b, hb, h.owns.live _ b hown⟩

def kontainerPlace (q : Nat) (page : KontainerPage) : ModulePlace :=
  .kontainer q page

theorem kontainerPlace_injective (q : Nat) :
    Function.Injective (kontainerPlace q) := by
  intro p p' h
  cases h
  rfl

/-- A step that concerns one kontainer: its places are what changes. -/
theorem ModuleState.Tracked.setKontainer
    {m : ModuleState} (h : m.Tracked) {q created : Nat} {k : KontainerState}
    {g : KernelState} (hcreated : m.world.created ≤ created) (hq : q < created)
    (hheld : Held g.pages.pool k.block (othersOf m.own (kontainerPlace q)))
    (hfiles : OnlyKontainerFile k) :
    (m.setWorld { m.world.set q k g with created := created }).Tracked := by
  refine ⟨?_, h.kx, h.idt, ?_, ?_⟩
  · refine hheld.owns h.owns ?_ ?_
    · intro page
      simp [ModuleState.own, ModuleState.setWorld, World.set, kontainerPlace]
    · intro place hplace
      cases place with
      | kx page => rfl
      | idt => rfl
      | kontainer r page =>
          have hr : r ≠ q := by
            rintro rfl
            exact hplace ⟨page, rfl⟩
          simp [ModuleState.own, ModuleState.setWorld, World.set,
            Function.update_of_ne hr]
  · intro r
    by_cases hr : r = q
    · subst hr
      simpa [ModuleState.setWorld, World.set] using hfiles
    · simpa [ModuleState.setWorld, World.set, Function.update_of_ne hr] using
        h.files r
  · intro r hr
    have hne : r ≠ q := by
      intro heq
      have hle : created ≤ r := hr
      omega
    simpa [ModuleState.setWorld, World.set, Function.update_of_ne hne] using
      h.absent r (le_trans hcreated hr)

/-! ## Steps -/

theorem kkmCreateKontainer_onlyFile
    (cfg : KkmConfig) (kx : KkmMmuPml4e) (a : CreateAnswers) (g : KernelState) :
    OnlyKontainerFile (kkmCreateKontainer cfg kx a g).2.1 := by
  rcases kkmCreateKontainer_cases cfg kx a g with
    ⟨_, hk⟩ | ⟨_, kkm, _, hk⟩ | ⟨_, _, kkm, hk, _⟩
  · rw [hk]
    exact ⟨by simp [KontainerState.absent], by simp [KontainerState.absent],
      fun h => absurd rfl h⟩
  · rw [hk]
    exact ⟨by simp, by simp, fun h => absurd rfl h⟩
  · rw [hk]
    exact ⟨by simp, by simp, fun _ => by simp⟩

theorem moduleStep_create_tracked
    (cfg : KkmConfig) {m : ModuleState} (h : m.Tracked)
    (hloaded : m.loaded = true) {a : CreateAnswers}
    (hguard : Pml4sBuilt cfg m (.create a)) :
    Holds ModuleState.Tracked (moduleStep cfg m (.create a)) := by
  have hheld := h.owns.held (kontainerPlace_injective m.world.created)
  have hempty : m.own ∘ kontainerPlace m.world.created =
      fun _ : KontainerPage => none := by
    funext page
    simp [ModuleState.own, kontainerPlace, h.absent m.world.created le_rfl,
      KontainerState.block, KontainerState.absent]
  rw [hempty] at hheld
  have hcreate := kkmCreateKontainer_held m.kx hheld (hguard hloaded)
  simp only [moduleStep, hloaded, Bool.true_eq_false, if_false]
  exact h.setKontainer (Nat.le_succ _) (Nat.lt_succ_self _) hcreate
    (kkmCreateKontainer_onlyFile cfg m.kx a m.world.kernel)

/-- Closing the file of a kontainer drops its only reference. -/
theorem closeFile_kontainer
    {k : KontainerState} {f : OpenFile} {kkm : Kkm}
    (htarget : f.target = .kontainer) (hkkm : k.kkm = some kkm)
    (g : KernelState) :
    closeFile f k g = .ok (kkmReferenceCountDown kkm
      { k with files := k.files.erase f } g) := by
  simp [closeFile, htarget, kkmKontainerRelease, hkkm]

theorem moduleStep_close_tracked
    (cfg : KkmConfig) {m : ModuleState} (h : m.Tracked)
    (hloaded : m.loaded = true) (q fd : Nat) :
    Holds ModuleState.Tracked (moduleStep cfg m (.close q fd)) := by
  simp only [moduleStep, hloaded, Bool.true_eq_false, if_false, lifecycleStep]
  cases hfile : (m.world.kontainers q).files.find? fun f => decide (f.fd = fd) with
  | none => exact h
  | some f =>
      have hf := List.mem_of_find?_eq_some hfile
      have hne := List.ne_nil_of_mem hf
      have hq : q < m.world.created := by
        by_contra hle
        have habsent := h.absent q (Nat.le_of_not_lt hle)
        rw [habsent] at hne
        exact hne rfl
      obtain ⟨kkm, hkkm⟩ := Option.ne_none_iff_exists'.mp ((h.files q).alive hne)
      have hheld := h.owns.held (kontainerPlace_injective q)
      have hown : m.own ∘ kontainerPlace q = kkm.block := by
        funext page
        simp [ModuleState.own, kontainerPlace, KontainerState.block, hkkm]
      rw [hown] at hheld
      have hdown := kkmReferenceCountDown_held (g := m.world.kernel)
        (k := { m.world.kontainers q with
          files := (m.world.kontainers q).files.erase f }) hheld
      have hnil : (m.world.kontainers q).files.erase f = [] := by
        apply List.eq_nil_of_length_eq_zero
        have hone := (h.files q).one
        rw [List.length_erase_of_mem hf]
        omega
      simp only [closeFile_kontainer ((h.files q).target f hf) hkkm, Except.map]
      refine h.setKontainer le_rfl hq hdown ?_
      have hfiles := kkmReferenceCountDown_files kkm
        { m.world.kontainers q with
          files := (m.world.kontainers q).files.erase f } m.world.kernel
      rw [hnil] at hfiles
      exact ⟨by simp [hnil, hfiles], by simp [hnil, hfiles],
        fun h => absurd (by simpa [hnil] using hfiles) h⟩

/-- Places of the static variables. -/
def globalPlace : Option Pml4Page → ModulePlace
  | none => .idt
  | some page => .kx page

theorem globalPlace_injective : Function.Injective globalPlace := by
  intro p p' h
  cases p with
  | none =>
      cases p' with
      | none => rfl
      | some page => cases h
  | some page =>
      cases p' with
      | none => cases h
      | some page' =>
          cases h
          rfl

theorem kkmExit_tracked
    {m : ModuleState} (h : m.Tracked) (hloaded : m.loaded = true) :
    (kkmExit m).Tracked := by
  have hheld := h.owns.held globalPlace_injective
  have hkx : ∀ page, (m.own ∘ globalPlace) (some page) = m.kx.block page := by
    intro page
    simp [ModuleState.own, globalPlace, hloaded]
  have hidt : (m.own ∘ globalPlace) none = m.idt.block 2 := by
    simp [ModuleState.own, globalPlace, hloaded]
  have hcount : kkmIdtAllocationPages ≠ 0 := by decide
  have h1 := held_freePages hheld hcount (h.idt hloaded) hidt
  have h2 := kkmCleanupPml4_held h1 m.kx
    (i := some Pml4Page.pud) (j := some Pml4Page.pmd) (k := some Pml4Page.pt)
    (by decide) (by decide) (by decide) (hkx .pud) (hkx .pmd) (hkx .pt)
  have hgone : (kkmExit m).loaded ≠ true := by simp [kkmExit]
  refine ⟨?_, fun hno => absurd hno hgone, fun hno => absurd hno hgone, h.files,
    h.absent⟩
  refine h2.owns h.owns ?_ ?_
  · intro p
    cases p with
    | none => rfl
    | some page => cases page <;> rfl
  · intro place hplace
    cases place with
    | kx page => exact absurd ⟨some page, rfl⟩ hplace
    | idt => exact absurd ⟨none, rfl⟩ hplace
    | kontainer q page => rfl

theorem moduleStep_tracked
    (cfg : KkmConfig) (m : ModuleState) (e : ModuleEvent)
    (h : m.Tracked) (hguard : Pml4sBuilt cfg m e) :
    Holds ModuleState.Tracked (moduleStep cfg m e) := by
  cases hloaded : m.loaded with
  | false =>
      simp only [moduleStep, hloaded, if_true]
      exact h
  | true =>
      cases e with
      | create a => exact moduleStep_create_tracked cfg h hloaded hguard
      | close q fd => exact moduleStep_close_tracked cfg h hloaded q fd
      | exit =>
          simp only [moduleStep, hloaded, Bool.true_eq_false, if_false]
          split
          · exact h
          · exact kkmExit_tracked h hloaded

/-- A kontainer that gets no pages for its hierarchy takes those of the global
one with it. -/
theorem moduleStep_not_kept
    (cfg : KkmConfig) (m : ModuleState) (e : ModuleEvent)
    (hguard : ¬ Pml4sBuilt cfg m e) :
    ¬ Holds ModuleState.PagesKept (moduleStep cfg m e) := by
  cases e with
  | close q fd => exact absurd trivial hguard
  | exit => exact absurd trivial hguard
  | create a =>
      simp only [Pml4sBuilt] at hguard
      push Not at hguard
      obtain ⟨hloaded, hzalloc, hfd, hreaches, ha⟩ := hguard
      simp only [moduleStep, hloaded, Bool.true_eq_false, if_false]
      intro hkept
      obtain ⟨b, hb, hlive⟩ := ModuleState.PagesKept.kx hkept hloaded .pud
      exact kkmCreateKontainer_frees hb hzalloc hfd hreaches ha hlive

/-! ## From init to exit -/

/-- `kkm_init` gets all its pages if it succeeds. -/
theorem kkmInit_answers
    {a : InitAnswers} {g : KernelState} (hinit : (kkmInit a g).1 = 0) :
    ∃ pud pmd pt idt, a = ⟨⟨some pud, some pmd, some pt⟩, some idt⟩ := by
  obtain ⟨kx, idt⟩ := a
  simp only [kkmInit] at hinit
  split at hinit
  · rename_i hret
    exact absurd hinit hret
  · rename_i hret
    have hzero : (kkmMmuInit kx g.pages).1 = 0 := by simpa using hret
    obtain ⟨pud, pmd, pt, rfl⟩ := kkmCreatePml4_answers (Prod.ext hzero rfl)
    split at hinit
    · rename_i hret'
      exact absurd hinit hret'
    · rename_i hret'
      have hcount : kkmIdtAllocationPages ≠ 0 := by decide
      have hzero' : (kkmIdtInit idt (kkmMmuInit ⟨some pud, some pmd, some pt⟩
          g.pages).2.2).1 = 0 := by simpa using hret'
      have hidt := (kkmMmAllocatePages_zero_iff _ hcount idt _).mp hzero'
      obtain ⟨idt, rfl⟩ := Option.ne_none_iff_exists'.mp hidt
      exact ⟨pud, pmd, pt, idt, rfl⟩

theorem owns_empty (reserved : Nat) :
    Owns (BlockPool.empty reserved) fun _ : ModulePlace => none := by
  refine ⟨?_, ?_, rfl⟩
  · intro place b h
    cases h
  · intro place place' b h
    cases h

theorem kkmInit_tracked
    {a : InitAnswers} {reserved nextFd : Nat} {objectId : BitVec 64} {mem : Memory}
    (hinit : (kkmInit a ⟨⟨.empty reserved, mem⟩, nextFd, objectId⟩).1 = 0) :
    (kkmInit a ⟨⟨.empty reserved, mem⟩, nextFd, objectId⟩).2.Tracked := by
  obtain ⟨pud, pmd, pt, idt, rfl⟩ := kkmInit_answers hinit
  have hempty := owns_empty reserved
  have h0 := hempty.held globalPlace_injective
  have h1 := h0.take (some .pud) pud 0
  have h2 := h1.take (some .pmd) pmd 0
  have h3 := h2.take (some .pt) pt 0
  have h4 := h3.take none idt 2
  have hcount : kkmIdtAllocationPages ≠ 0 := by decide
  have horder : orderBase2 kkmIdtAllocationPages = 2 := by decide
  have hdiv : ∀ frame, frame * pageSize / pageSize = frame :=
    fun frame => Nat.mul_div_cancel frame (by decide)
  simp only [kkmInit, kkmMmuInit, kkmCreatePml4_some, kkmIdtInit,
    kkmMmAllocatePages_some _ hcount, horder, ne_eq, not_true_eq_false, if_false]
  refine ⟨?_, ?_, ?_, ?_, ?_⟩
  · refine h4.owns hempty ?_ ?_
    · intro p
      cases p with
      | none =>
          simp [globalPlace, ModuleState.own, KkmMmuPageInfo.block, hdiv,
            BlockPool.offer]
      | some page =>
          cases page with
          | pud =>
              simp [globalPlace, ModuleState.own, KkmMmuPml4e.block, pml4OfFrames,
                KkmMmuPageInfo.block, hdiv, BlockPool.offer]
          | pmd =>
              simp [globalPlace, ModuleState.own, KkmMmuPml4e.block, pml4OfFrames,
                KkmMmuPageInfo.block, hdiv, BlockPool.offer]
          | pt =>
              simp [globalPlace, ModuleState.own, KkmMmuPml4e.block, pml4OfFrames,
                KkmMmuPageInfo.block, hdiv, BlockPool.offer]
    · intro place hplace
      cases place with
      | kx page => exact absurd ⟨some page, rfl⟩ hplace
      | idt => exact absurd ⟨none, rfl⟩ hplace
      | kontainer q page => rfl
  · intro _ page
    cases page <;> simp [KkmMmuPml4e.block, pml4OfFrames, KkmMmuPageInfo.block]
  · simp
  · intro q
    exact ⟨by simp [World.start, KontainerState.absent],
      by simp [World.start, KontainerState.absent],
      fun h => absurd rfl h⟩
  · intro q _
    rfl

/-- From a successful `kkm_init` on, the pages are kept in every state of a run
exactly when each kontainer that gets as far as building its private hierarchy
gets the pages for it. -/
theorem pagesKept_iff_pml4sBuilt
    (cfg : KkmConfig) (a : InitAnswers) (reserved nextFd : Nat)
    (objectId : BitVec 64) (mem : Memory)
    (hinit : (kkmInit a ⟨⟨.empty reserved, mem⟩, nextFd, objectId⟩).1 = 0)
    (es : List ModuleEvent) :
    let start := (kkmInit a ⟨⟨.empty reserved, mem⟩, nextFd, objectId⟩).2
    EveryState (liftStep (moduleStep cfg)) (Holds ModuleState.PagesKept)
        (.ok start) es ↔
      EveryStep (liftStep (moduleStep cfg)) (LiftGuard (Pml4sBuilt cfg))
        (.ok start) es := by
  refine holds_iff_of_invariant ?_ ?_ ?_ (kkmInit_tracked hinit)
  · exact fun m hm => hm.kept
  · exact moduleStep_tracked cfg
  · exact fun m e _ => moduleStep_not_kept cfg m e

/-- `kkm_init` with all its pages on a machine that has just booted. -/
def loadedModule : ModuleState :=
  (kkmInit ⟨⟨some 0, some 0, some 0⟩, some 3⟩
    ⟨⟨.empty 1, fun _ => 0⟩, 3, 0#64⟩).2

/-- A kontainer is created and closed, and the module unloaded. -/
theorem pagesKept_create_close_exit :
    EveryState (liftStep (moduleStep .stock)) (Holds ModuleState.PagesKept)
      (.ok loadedModule) [.create .granted, .close 0 3, .exit] := by
  refine (pagesKept_iff_pml4sBuilt .stock ⟨⟨some 0, some 0, some 0⟩, some 3⟩ 1 3
    0#64 (fun _ => 0) (by decide) _).mpr ⟨?_, ?_, ?_, trivial⟩
  · intro _ _ _ _
    decide
  · exact LiftGuard.of_forall (fun _ => trivial) _
  · exact LiftGuard.of_forall (fun _ => trivial) _

/-- A kontainer that gets no page table for its hierarchy frees the global
one. -/
theorem create_without_pt_frees_kx :
    ¬ EveryState (liftStep (moduleStep .stock)) (Holds ModuleState.PagesKept)
      (.ok loadedModule)
      [.create { CreateAnswers.granted with
        init := ⟨some 0, some 0, some 0, ⟨some 0, some 0, none⟩⟩ }] := by
  intro h
  refine moduleStep_not_kept .stock loadedModule
    (.create { CreateAnswers.granted with
      init := ⟨some 0, some 0, some 0, ⟨some 0, some 0, none⟩⟩ }) ?_ h.2
  intro hguard
  have hreaches : ReachesPml4 .stock
      ⟨some 0, some 0, some 0, ⟨some 0, some 0, none⟩⟩
      loadedModule.world.kernel.pages :=
    ⟨0, rfl, by decide, fun h => by cases h⟩
  exact absurd (hguard rfl rfl rfl hreaches) (by decide)

end Driver
end KkmModule
