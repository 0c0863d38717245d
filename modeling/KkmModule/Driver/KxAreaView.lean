import KkmModule.Driver.GuestReach
import KkmModule.Driver.LoadedTables
import KkmModule.Driver.RelocatedCode

/-!
# The kx area as guests see it

A load of the module fills four pages and enters them in the kx page table; a cpu
that is about to run a kontext enters the pages of its guest area.  In every state of
the life of the module both tables of every guest show at these addresses what has
been entered there:

* the gates of the interrupt descriptor table, the relocated code they lead to and
  the address of `kkm_switch_to_host_kernel`;
* for each cpu the guest area entered last, whatever the other cpus do.
-/

namespace KkmModule
namespace Driver

open Foundation

/-! ## Addresses of the slot -/

theorem tableIndex_kx_offset {idx off : Nat} (hidx : idx < 512) (hoff : off < pageSize) :
    let va := kkmPrivateStartVa + idx * pageSize + off
    tableIndex 2 va = 0 ∧ tableIndex 1 va = 0 ∧ tableIndex 0 va = idx ∧
      va % span 0 = off := by
  have h0 : span 0 = 0x1000 := by decide
  have h1 : span 1 = 0x200000 := by decide
  have h2 : span 2 = 0x40000000 := by decide
  simp only [tableIndex, kkmPrivateStartVa, pageSize, h0, h1, h2] at hoff ⊢
  omega

theorem inKxSlot_of_index {idx off : Nat} (hidx : idx < 512) (hoff : off < pageSize) :
    InKxSlot (kkmPrivateStartVa + idx * pageSize + off) := by
  have h3 : span 3 = 0x8000000000 := by decide
  simp only [InKxSlot, kkmPrivateStartVa, pageSize, h3] at hoff ⊢
  omega

/-- An address of a table is mapped to a physical address with these rights. -/
def ModuleState.Shows
    (cfg : KkmConfig) (s : ModuleState) (table va pa : Nat) (rights : Finset PageRight) :
    Prop :=
  ∃ g, mapping s.mem (topLevel cfg) table va = some g ∧ g.pa va = pa ∧ g.rights = rights

section Shows

variable {cfg : KkmConfig} {s : ModuleState} {kkm : Kkm} {table idx off : Nat}
variable {page : PhysPage} {flags : BitVec 64}

/-- What an entry of the kx page table shows. -/
theorem TableChain.mapEntry_kx
    {kx : KkmMmuPml4e} {m : Memory} (h : TableChain kx m)
    (hidx : idx < 512) (hoff : off < pageSize) (hflags : present flags = true)
    (hentry : m.entry kx.pt.va idx = kkmMmuMakeEntry page.pa flags) :
    ∃ g, mapEntry m 3 kx.pgdEntry (kkmPrivateStartVa + idx * pageSize + off) = some g ∧
      g.pa (kkmPrivateStartVa + idx * pageSize + off) = page.pa + off ∧
      g.rights = entryRights flags := by
  obtain ⟨hpud, hpmd, hpte, hoffset⟩ := tableIndex_kx_offset hidx hoff
  obtain ⟨hp, ha⟩ := makeEntry_of_present page.dvd page.lt hflags
  refine ⟨⟨⟨kkmMmuMakeEntry page.pa flags, 0⟩,
    entryRights (kkmMmuMakeEntry page.pa flags)⟩, ?_, ?_, entryRights_makeEntry _ _⟩
  · rw [h.map_of_index hpud hpmd, hpte, hentry, mapEntry, if_pos hp]
  · rw [Mapping.pa, Leaf.base, hoffset, ha]
    exact congrArg (· + off) (Nat.div_mul_cancel page.dvd)

theorem ModuleState.TablesKept.shows
    (h : s.TablesKept cfg) (hloaded : s.loaded = true) (htables : s.HasTables cfg kkm)
    (htable : kkm.IsTopTable table) (hidx : idx < 512) (hoff : off < pageSize)
    (hflags : present flags = true)
    (hentry : s.mem.entry s.kx.pt.va idx = kkmMmuMakeEntry page.pa flags) :
    s.Shows cfg table (kkmPrivateStartVa + idx * pageSize + off) (page.pa + off)
      (entryRights flags) := by
  obtain ⟨g, hg, hpa, hrights⟩ :=
    (h.kxChain hloaded).mapEntry_kx hidx hoff hflags hentry
  exact ⟨g, (htables.mapping_slot htable (inKxSlot_of_index hidx hoff)).trans hg, hpa,
    hrights⟩

end Shows

/-! ## The four pages -/

/-- The four pages of the load are in place and hold what they were filled with. -/
structure ModuleState.KxPagesKept (text : ModuleText) (s : ModuleState) : Prop where
  entered : ∃ page : Fin 4 → PhysPage, ∀ k : Fin 4, (page k).pa = s.idt.va + k * pageSize ∧
    s.mem.entry s.kx.pt.va k = kkmMmuMakeEntry (page k).pa (kxGlobalFlags k)
  filled : ∃ image, ∀ i < kkmIdtAllocationPages * pageSize,
    s.mem.byte (s.idt.va + i) = kxPages text image i

/-- Where `kkm_switch_to_host_kernel` is looked up. -/
def kxGlobalVa : Nat := kkmPrivateStartVa + kkmPteIndexKx * pageSize

/-- What it takes to handle an interrupt in an address space: the gates, the code behind
them and the way to the host kernel. -/
structure InterruptsServed
    {text : ModuleText} (asm : SyscallEntry text) (cfg : KkmConfig) (s : ModuleState)
    (table : Nat) : Prop where
  gates : ∀ vector < nrVectors, ∀ k < 16, ∃ pa,
    s.Shows cfg table (kkmMmuGetIdtVa + (16 * vector + k)) pa ∅ ∧
      s.mem.byte pa = (idtGate text vector).bytes.getD k 0
  code : ∃ copy, CodeRelocated asm copy ∧ ∀ i < kkmIdtCodeSize, ∃ pa,
    s.Shows cfg table (kkmIdtCodeStartVa + i) pa {.write, .exec} ∧ s.mem.byte pa = copy i
  hostKernel : ∀ k < 8, ∃ pa, s.Shows cfg table (kxGlobalVa + k) pa {.write} ∧
    s.mem.byte pa = (wordBytes text.kkmSwitchToHostKernel).getD k 0

section Served

variable {cfg : KkmConfig} {text : ModuleText} {s : ModuleState} {kkm : Kkm} {table : Nat}

/-- The pages in one piece. -/
theorem ModuleState.KxPagesKept.shows
    (h : s.KxPagesKept text) (hkept : s.TablesKept cfg) (hloaded : s.loaded = true)
    (htables : s.HasTables cfg kkm) (htable : kkm.IsTopTable table) {i : Nat}
    (hi : i < kkmIdtAllocationPages * pageSize) :
    s.Shows cfg table (kkmPrivateStartVa + i) (s.idt.va + i) (kxMapRights (i / pageSize)) := by
  obtain ⟨page, hpage⟩ := h.entered
  have hk : i / pageSize < 4 := Nat.div_lt_of_lt_mul (by rw [Nat.mul_comm]; exact hi)
  have hoff : i % pageSize < pageSize := Nat.mod_lt i (by decide)
  obtain ⟨hpa, hentry⟩ := hpage ⟨i / pageSize, hk⟩
  have hshows := hkept.shows hloaded htables htable (lt_trans hk (by decide)) hoff
    (kxGlobalFlags_present _) hentry
  have hsplit : i / pageSize * pageSize + i % pageSize = i := Nat.div_add_mod' i pageSize
  rw [hpa, kxGlobalFlags_rights, Nat.add_assoc, Nat.add_assoc, hsplit] at hshows
  exact hshows

theorem kxPages_global
    (asm : SyscallEntry text) (hfits : text.Fits) (image : Nat → BitVec 8) {k : Nat}
    (hk : k < 8) :
    kxPages text image (kkmIdtSize + kkmIdtCodeSize + k) =
      (wordBytes text.kkmSwitchToHostKernel).getD k 0 := by
  have h2 := asm.label2
  have h3 := asm.label3
  have hfill := asm.fill
  have hin := hfits.1
  simp only [kkmKxIntrCodeSize] at hin
  have habove : ∀ label opcode replacement image, label ≤ text.kkmSyscallLabel3 →
      replacement.length ≤ 5 →
      replaceRipRelative text label opcode replacement image
          (kkmIdtSize + kkmIdtCodeSize + k) =
        image (kkmIdtSize + kkmIdtCodeSize + k) := by
    intro label opcode replacement image hlabel hlen
    refine replaceRipRelative_of_not_mem text label opcode replacement image (Or.inr ?_)
    simp only [kkmIdtSize, kkmIdtCodeSize]
    omega
  rw [kxPages, replaceLabel3, habove _ _ _ _ (Nat.le_refl _) (by decide), replaceLabel2,
    habove _ _ _ _ (by omega) (by decide), replaceLabel1,
    habove _ _ _ _ (by omega) (by decide)]
  exact fillKxPages_global text image hk

theorem ModuleState.KxPagesKept.served
    (h : s.KxPagesKept text) (asm : SyscallEntry text) (hfits : text.Fits)
    (hkept : s.TablesKept cfg) (hloaded : s.loaded = true)
    (htables : s.HasTables cfg kkm) (htable : kkm.IsTopTable table) :
    InterruptsServed asm cfg s table := by
  obtain ⟨image, hfilled⟩ := h.filled
  have hshows := fun i (hi : i < kkmIdtAllocationPages * pageSize) =>
    h.shows hkept hloaded htables htable hi
  have hrange : kkmIdtAllocationPages * pageSize = 16384 := by decide
  rw [hrange] at hfilled hshows
  refine ⟨?_, ⟨fun i => kxPages text image (kkmIdtSize + i), ?_, ?_⟩, ?_⟩
  · intro vector hvector k hk
    simp only [nrVectors] at hvector
    have hi : 16 * vector + k < 4096 := by omega
    have hzero : (16 * vector + k) / pageSize = 0 := Nat.div_eq_of_lt hi
    have hgate := hshows (16 * vector + k) (by omega)
    rw [hzero] at hgate
    exact ⟨_, hgate, (hfilled _ (by omega)).trans (kxPages_gate text image hvector hk)⟩
  · exact codeRelocated_of_kxPages asm image hfits fun _ _ => rfl
  · intro i hi
    simp only [kkmIdtCodeSize] at hi
    have hpage : (kkmIdtSize + i) / pageSize = kkmPteIndexText0 ∨
        (kkmIdtSize + i) / pageSize = kkmPteIndexText1 := by
      simp only [kkmIdtSize, pageSize, kkmPteIndexText0, kkmPteIndexText1]
      omega
    have hcode := hshows (kkmIdtSize + i) (by simp only [kkmIdtSize]; omega)
    have hrights : kxMapRights ((kkmIdtSize + i) / pageSize) = {.write, .exec} := by
      rcases hpage with hpage | hpage
      · rw [hpage]
        decide
      · rw [hpage]
        decide
    rw [hrights, ← Nat.add_assoc] at hcode
    exact ⟨_, hcode, hfilled _ (by simp only [kkmIdtSize]; omega)⟩
  · intro k hk
    have hpage : (kkmIdtSize + kkmIdtCodeSize + k) / pageSize = kkmPteIndexKx := by
      simp only [kkmIdtSize, kkmIdtCodeSize, pageSize, kkmPteIndexKx]
      omega
    have hglobal := hshows (kkmIdtSize + kkmIdtCodeSize + k)
      (by simp only [kkmIdtSize, kkmIdtCodeSize]; omega)
    rw [hpage, ← Nat.add_assoc] at hglobal
    exact ⟨_, hglobal, (hfilled _ (by simp only [kkmIdtSize, kkmIdtCodeSize]; omega)).trans
      (kxPages_global asm hfits image hk)⟩

end Served

/-! ## Steps -/

section Steps

variable {cfg : KkmConfig} {text : ModuleText} {s s' : ModuleState} {e : TableEvent}

theorem exists_of_map_ok
    {σ τ φ : Type} {x : Except φ σ} {f : σ → τ} {t : τ} (h : x.map f = .ok t) :
    ∃ u, x = .ok u ∧ f u = t := by
  cases x with
  | error e => cases h
  | ok u => exact ⟨u, rfl, Except.ok.inj h⟩

/-- No step but the exit changes what `kkm_init` has set up. -/
theorem tableStep_globals
    (hstep : tableStep cfg s e = .ok s') (hloaded : s'.loaded = true) :
    s.loaded = true ∧ s'.kx = s.kx ∧ s'.idt = s.idt := by
  cases e with
  | life e =>
      simp only [tableStep, moduleStep] at hstep
      split at hstep
      · cases hstep
        exact ⟨hloaded, rfl, rfl⟩
      · rename_i hwas
        have hwas := Bool.eq_true_of_not_eq_false hwas
        cases e with
        | create a =>
            obtain ⟨w, -, rfl⟩ := exists_of_map_ok hstep
            exact ⟨hwas, rfl, rfl⟩
        | close q fd =>
            obtain ⟨w, -, rfl⟩ := exists_of_map_ok hstep
            exact ⟨hwas, rfl, rfl⟩
        | exit =>
            simp only at hstep
            split at hstep
            · cases hstep
              exact ⟨hwas, rfl, rfl⟩
            · cases hstep
              cases hloaded
  | memory q nativePgd arg =>
      simp only [tableStep] at hstep
      split at hstep
      · split at hstep
        · cases hstep
        · obtain ⟨r, -, rfl⟩ := exists_of_map_ok hstep
          exact ⟨hloaded, rfl, rfl⟩
      · cases hstep
        exact ⟨hloaded, rfl, rfl⟩
  | fault q nativePgd kontext read write =>
      simp only [tableStep] at hstep
      split at hstep
      · split at hstep
        · cases hstep
        · cases hstep
          exact ⟨hloaded, rfl, rfl⟩
      · cases hstep
        exact ⟨hloaded, rfl, rfl⟩
  | area q call =>
      simp only [tableStep] at hstep
      split at hstep
      · cases hstep
        exact ⟨hloaded, rfl, rfl⟩
      · cases hstep
        exact ⟨hloaded, rfl, rfl⟩
  | outside m =>
      cases hstep
      exact ⟨hloaded, rfl, rfl⟩

/-- Of the entries of the kx page table a step writes those of one cpu at most. -/
theorem tableStep_kxEntry
    (h : s.TablesKept cfg) (hguard : TableGuard cfg s e)
    (hstep : tableStep cfg s e = .ok s') (hloaded : s'.loaded = true) {idx : Nat}
    (hidx : idx < 512)
    (hother : ∀ q call, e = .area q call → ∀ j, idx ≠ guestAreaIndex call.cpu j) :
    s'.mem.entry s'.kx.pt.va idx = s.mem.entry s.kx.pt.va idx := by
  obtain ⟨hwas, hkx, -⟩ := tableStep_globals hstep hloaded
  obtain ⟨f, g, k, hframes⟩ := h.kxFrames hwas
  obtain ⟨-, -, hk⟩ := framesOf_kx hwas hframes
  have hkeeps := h.keepsForeignPages hguard hstep
  have hva : s.kx.pt.va = k * pageSize := by
    rw [hframes]
    rfl
  have hquiet : e.isArea = false →
      s'.mem.entry s'.kx.pt.va idx = s.mem.entry s.kx.pt.va idx := by
    intro harea
    rw [hkx, hva]
    exact hkeeps.kxTables .pt (Or.inr harea) k hk idx hidx
  cases e with
  | life e => exact hquiet rfl
  | memory q nativePgd arg => exact hquiet rfl
  | fault q nativePgd kontext read write => exact hquiet rfl
  | outside m => exact hquiet rfl
  | area q call =>
      simp only [tableStep] at hstep
      split at hstep
      · cases hstep
        exact areaStep_of_ne _ _ _ (hother q call rfl)
      · cases hstep
        rfl

/-- Bytes of a page that stays. -/
theorem SameOn.byte
    {frames : Set Nat} {m m' : Memory} (h : SameOn frames m m') {f i : Nat}
    (hi : f + i / pageSize ∈ frames) :
    m'.byte (f * pageSize + i) = m.byte (f * pageSize + i) := by
  have hsame := h _ hi (i % pageSize / 8) (by simp only [pageSize]; omega)
  have hword : (f * pageSize + i) / 8 * 8 =
      (f + i / pageSize) * pageSize + 8 * (i % pageSize / 8) := by
    simp only [pageSize]
    omega
  rw [Memory.byte, Memory.byte, hword]
  exact congrArg (fun w => (wordBytes w).getD _ 0) hsame

theorem ModuleState.KxPagesKept.step
    (h : s.KxPagesKept text) (hkept : s.TablesKept cfg) (hguard : TableGuard cfg s e)
    (hstep : tableStep cfg s e = .ok s') (hloaded : s'.loaded = true) :
    s'.KxPagesKept text := by
  obtain ⟨hwas, hkx, hidt⟩ := tableStep_globals hstep hloaded
  obtain ⟨page, hpage⟩ := h.entered
  obtain ⟨image, hfilled⟩ := h.filled
  refine ⟨⟨page, fun k => ?_⟩, image, fun i hi => ?_⟩
  · have hk := k.isLt
    refine ⟨by rw [hidt]; exact (hpage k).1, ?_⟩
    rw [tableStep_kxEntry hkept hguard hstep hloaded (by omega), (hpage k).2]
    intro q call _ j heq
    have hge : 256 ≤ guestAreaIndex call.cpu j := by
      simp only [guestAreaIndex, kkmMmuGetPerCpuStartIndex, kkmCpuGaIndexStart]
      omega
    omega
  · obtain ⟨frame, hframe⟩ : pageSize ∣ s.idt.va := by
      have hdvd := (page 0).dvd
      rw [(hpage 0).1] at hdvd
      simpa using hdvd
    have hva : s.idt.va = frame * pageSize := by rw [hframe, Nat.mul_comm]
    obtain ⟨p, hp⟩ := Option.ne_none_iff_exists'.mp (hkept.tracked.idt hwas)
    rw [hidt, ← hfilled i hi, hva]
    refine SameOn.byte (hkept.keepsForeignPages hguard hstep).idt ⟨⟨frame, 2⟩, ?_, ?_⟩
    · simp [ModuleState.own, hwas, KkmMmuPageInfo.block, hp, hva, pageSize]
    · simp only [kkmIdtAllocationPages, pageSize] at hi ⊢
      simp only [Block.Has, Block.stop]
      omega

end Steps

/-! ## From a load on -/

/-- An image stored into a block of pages. -/
theorem sameOn_storeImage (m : Memory) (b : Block) (image : Nat → BitVec 8) :
    SameOn {f | ¬ b.Has f} m
      (m.storeImage (b.head * pageSize) (2 ^ b.order * pageSize) image) := by
  intro f hf idx hidx
  refine Memory.storeImage_of_not_mem _ _ ?_
  have hoff : 8 * idx < pageSize := by
    simp only [pageSize]
    omega
  rcases Nat.lt_or_ge f b.head with hlow | hhigh
  · left
    calc f * pageSize + 8 * idx < f * pageSize + pageSize := Nat.add_lt_add_left hoff _
      _ = (f + 1) * pageSize := (Nat.succ_mul _ _).symm
      _ ≤ b.head * pageSize := Nat.mul_le_mul_right _ hlow
  · right
    rw [← Nat.add_mul]
    exact le_trans (Nat.mul_le_mul_right _ (Nat.le_of_not_lt fun hlt => hf ⟨hhigh, hlt⟩))
      (Nat.le_add_right _ _)

/-- Pages and memory after a `kkm_idt_init` that succeeds. -/
structure IdtPlaced
    (kx : KkmMmuPml4e) (entry : KkmIdtEntry) (skip : Nat) (s s' : PageState)
    (pages : Fin 4 → PhysPage) : Prop where
  idt : entry.idt = .ofFrame (s.pool.next + skip)
  pool : s'.pool = s.pool.take skip 2
  page : ∀ k, (pages k).pa = entry.idt.va + k * pageSize
  rest : SameOn {f | ¬ (s.pool.offer skip 2).Has f}
    (kkmMmuSetKxGlobalInfo kx (pages 0) (pages 1) (pages 2) (pages 3)
      (zeroBlock (s.pool.offer skip 2) s.mem)) s'.mem

theorem kkmIdtDescrInit_placed
    {text : ModuleText} {desc : DescPtr} {kx : KkmMmuPml4e} {answer : Option Nat}
    {entry : KkmIdtEntry} {s s' : PageState}
    (hok : kkmIdtDescrInit text desc kx .zeroed answer s = (0, entry, s'))
    (hlow : s'.pool.next * pageSize ≤ 2 ^ 48) :
    ∃ skip page, answer = some skip ∧ IdtPlaced kx entry skip s s' page := by
  obtain ⟨hfits, skip, rfl⟩ := kkmIdtDescrInit_granted hok
  rw [kkmIdtDescrInit_some text desc kx .zeroed s hfits] at hok
  simp only [Prod.mk.injEq, true_and] at hok
  obtain ⟨rfl, rfl⟩ := hok
  have hend : (s.pool.next + skip) * pageSize + 4 * pageSize ≤ 2 ^ 48 := by
    rw [← Nat.add_mul]
    exact hlow
  let page : Fin 4 → PhysPage := fun k =>
    ⟨(s.pool.next + skip) * pageSize + k * pageSize,
      Nat.dvd_add (Nat.dvd_mul_left _ _) (Nat.dvd_mul_left _ _), by
        have hk := k.isLt
        simp only [pageSize] at hend ⊢
        omega⟩
  have hset : ∀ m, kkmMmuSetKxGlobalInfoAt kx ((s.pool.next + skip) * pageSize)
      ((s.pool.next + skip) * pageSize + kkmIdtSize)
      ((s.pool.next + skip) * pageSize + kkmIdtSize + pageSize)
      ((s.pool.next + skip) * pageSize + kkmIdtSize + pageSize + pageSize) m =
      kkmMmuSetKxGlobalInfo kx (page 0) (page 1) (page 2) (page 3) m := by
    intro m
    rw [kkmMmuSetKxGlobalInfo_eq]
    simp [page, kkmIdtSize, pageSize, Nat.add_assoc]
  refine ⟨skip, page, rfl, rfl, rfl, fun k => rfl, ?_⟩
  rw [← hset]
  exact sameOn_storeImage _ (s.pool.offer skip 2) _

section Load

variable {text : ModuleText} {cfg : KkmConfig} {a : LoadAnswers} {reserved nextFd : Nat}
variable {objectId : BitVec 64} {mem : Memory}

/-- The life of the module starts with what the load has left. -/
def ModuleLoad.toModule (s : ModuleLoad) : ModuleState :=
  ⟨s.kx, s.idtEntry.idt, decide (s.point = .returned 0), s.world⟩

/-- Tables and pages after both calls of a `kkm_init` that succeeds. -/
theorem kkmInitTables_kept
    (text : ModuleText) {g : KernelState} (hg : g = ⟨⟨.empty reserved, mem⟩, nextFd, objectId⟩)
    (hret : (kkmInitTables text a (.registeredStart a g)).point = .returned 0)
    (hlow : (kkmInitTables text a (.registeredStart a g)).pages.pool.next * pageSize ≤ 2 ^ 48) :
    let s := (kkmInitTables text a (.registeredStart a g)).toModule
    s.TablesKept cfg ∧ s.KxPagesKept text := by
  obtain ⟨hkx, hidt, heq⟩ := kkmInitTables_zero hret
  rcases hmmu : kkmMmuInit a.kx (ModuleLoad.registeredStart a g).pages with ⟨ret, kx, s1⟩
  rw [hmmu] at hkx hidt heq
  obtain rfl : ret = 0 := hkx
  rcases hdescr : kkmIdtDescrInit text a.nativeIdtDesc kx .zeroed a.idt s1 with
    ⟨ret, entry, s2⟩
  rw [hdescr] at hidt heq
  obtain rfl : ret = 0 := hidt
  rw [heq] at hlow ⊢
  obtain ⟨skip, page, hskip, hplaced⟩ := kkmIdtDescrInit_placed hdescr hlow
  obtain ⟨-, image, hfilled⟩ := kkmIdtDescrInit_bytes hdescr
  have hinit : kkmInit ⟨a.kx, a.idt⟩ g = (0, ⟨kx, .ofFrame (s1.pool.next + skip), true,
      .start ⟨⟨s1.pool.take skip 2, zeroBlock (s1.pool.offer skip 2) s1.mem⟩, g.nextFd,
        1#64⟩⟩) := by
    have hmmu' : kkmMmuInit a.kx g.pages = (0, kx, s1) := hmmu
    have hcount : kkmIdtAllocationPages ≠ 0 := by decide
    have horder : orderBase2 kkmIdtAllocationPages = 2 := by decide
    simp only [kkmInit, hmmu', hskip, kkmIdtInit, kkmMmAllocatePages_some _ hcount, horder,
      ne_eq, not_true_eq_false, if_false]
    rfl
  subst hg
  have hpool : s2.pool.next = (s1.pool.take skip 2).next := by rw [hplaced.pool]
  have hlow' : (kkmInit ⟨a.kx, a.idt⟩ ⟨⟨.empty reserved, mem⟩, nextFd, objectId⟩).2.pool.next *
      pageSize ≤ 2 ^ 48 := by
    refine le_trans (le_of_eq ?_) hlow
    rw [hinit]
    exact congrArg (· * pageSize) hpool.symm
  have hkept := (congrArg (fun r => (r.2.withGlobals page).TablesKept cfg) hinit).mp
    (kkmInit_tablesKept cfg page (congrArg Prod.fst hinit) hlow')
  set start := ModuleState.withGlobals ⟨kx, .ofFrame (s1.pool.next + skip), true,
    .start ⟨⟨s1.pool.take skip 2, zeroBlock (s1.pool.offer skip 2) s1.mem⟩, nextFd, 1#64⟩⟩
    page with hstart
  have hmodule : (((ModuleLoad.registeredStart a
      ⟨⟨.empty reserved, mem⟩, nextFd, objectId⟩).afterMmuInit (0, kx, s1)).afterIdtInit
        (0, entry, s2)).afterObjectId.toModule = start.setMem s2.mem := by
    obtain ⟨pool, mem'⟩ := s2
    obtain rfl : pool = s1.pool.take skip 2 := hplaced.pool
    simp only [ModuleLoad.toModule, ModuleLoad.afterObjectId, ModuleLoad.afterIdtInit, hplaced.idt]
    rfl
  rw [hmodule]
  have hown : ∀ f ∈ start.allocated \ start.framesOf .idt,
      ¬ (s1.pool.offer skip 2).Has f := by
    rintro f ⟨-, hf⟩ hhas
    refine hf ⟨_, ?_, hhas⟩
    simp [ModuleState.own, hstart, ModuleState.withGlobals, ModuleState.setMem,
      KkmMmuPageInfo.block, KkmMmuPageInfo.ofFrame, BlockPool.offer, pageSize]
  have hsame : SameOn (start.allocated \ start.framesOf .idt) start.mem s2.mem :=
    hplaced.rest.mono hown
  have hkx := hkept.kx_of_sameOn hsame rfl fun page' f hf hf' =>
    ModulePlace.noConfusion (hkept.place_unique hf hf')
  refine ⟨hkept.setMem (fun _ => hkx) fun q kkm hno => absurd rfl hno, ⟨page, fun k => ⟨?_, ?_⟩⟩,
    image, ?_⟩
  · rw [hplaced.page, hplaced.idt]
    rfl
  · obtain ⟨f, g, h, hframes⟩ := hkept.kxFrames rfl
    obtain ⟨-, -, hpt⟩ := framesOf_kx rfl hframes
    have hva : kx.pt.va = h * pageSize := congrArg (fun kmu => kmu.pt.va) hframes
    have hmem : h ∈ start.allocated \ start.framesOf .idt :=
      ⟨hkept.tracked.framesOf_allocated hpt, fun hf =>
        ModulePlace.noConfusion (hkept.place_unique hpt hf)⟩
    have hk := k.isLt
    have hsame' := hsame h hmem k (by omega)
    rw [← hva] at hsame'
    exact hsame'.trans (kkmMmuSetKxGlobalInfo_entry kx page _ k)
  · rw [hplaced.idt] at hfilled
    exact hfilled

/-! ### Every run -/

variable {es : List LoadEvent} {life : List TableEvent}

/-- After a load before whose end no request gets to the tables, they and the four
pages stay as they were left, as long as the module is loaded. -/
theorem kxPages_always
    {g : KernelState} (hg : g = ⟨⟨.empty reserved, mem⟩, nextFd, objectId⟩)
    (hquiet : EveryStep (loadStep text cfg a) Quiet (.start g) es)
    (hret : (loadRun text cfg a g es).point = .returned 0)
    (hlow : (loadRun text cfg a g es).pages.pool.next * pageSize ≤ 2 ^ 48)
    (hguard : GuardedFrom cfg (loadRun text cfg a g es).toModule life) :
    text.Fits ∧ AlwaysFrom cfg (loadRun text cfg a g es).toModule
      (fun s => s.TablesKept cfg ∧ (s.loaded = true → s.KxPagesKept text)) life := by
  have hreached := (loadInv_run text cfg a g es).reached
  rw [hret] at hreached
  have hrun := loadRun_tables hquiet (hreached.mp rfl).1 hret
  rw [hrun] at hret hlow hguard ⊢
  obtain ⟨hkept, hpages⟩ := kkmInitTables_kept text hg hret hlow
  refine ⟨(hreached.mp rfl).2.2.1, holds_of_everyStep ?_ ⟨hkept, fun _ => hpages⟩ hguard⟩
  intro s e hs hC
  obtain ⟨s', hstep, -, hkept'⟩ := tableStep_kept hs.1 hC
  rw [hstep]
  refine ⟨hkept', fun hloaded => ?_⟩
  exact (hs.2 (tableStep_globals hstep hloaded).1).step hs.1 hC hstep hloaded

/-- In every state interrupts can be handled in both address spaces of every guest. -/
theorem interrupts_served_always
    (asm : SyscallEntry text) {g : KernelState}
    (hg : g = ⟨⟨.empty reserved, mem⟩, nextFd, objectId⟩)
    (hquiet : EveryStep (loadStep text cfg a) Quiet (.start g) es)
    (hret : (loadRun text cfg a g es).point = .returned 0)
    (hlow : (loadRun text cfg a g es).pages.pool.next * pageSize ≤ 2 ^ 48)
    (hguard : GuardedFrom cfg (loadRun text cfg a g es).toModule life) :
    AlwaysFrom cfg (loadRun text cfg a g es).toModule
      (fun s => s.EveryGuest fun kkm => ∀ table, kkm.IsTopTable table →
        InterruptsServed asm cfg s table) life := by
  obtain ⟨hfits, hkept⟩ := kxPages_always hg hquiet hret hlow hguard
  refine hkept.mono ?_
  rintro s ⟨htables, hpages⟩ q kkm hfiles hkkm table htable
  have hloaded := htables.loaded q hfiles
  exact (hpages hloaded).served asm hfits htables hloaded
    (htables.guests q kkm hfiles hkkm) htable

/-- The load of `smallText` with all its pages. -/
def smallLoad : ModuleLoad :=
  loadRun smallText .stock { noIdtPages with idt := some 3 }
    ⟨⟨.empty 1, fun _ => 0#64⟩, 3, 0#64⟩ (List.replicate 12 .init)

/-- A guest of `smallText`. -/
theorem interrupts_served_smallText :
    AlwaysFrom .stock smallLoad.toModule
      (fun s => s.EveryGuest fun kkm => ∀ table, kkm.IsTopTable table →
        InterruptsServed smallEntry .stock s table) oneGuest :=
  interrupts_served_always smallEntry rfl (by simp [EveryStep, Quiet]) (by decide)
    (by decide) (guardedFrom_oneGuest (by decide) (by decide) (by decide))

end Load

/-! ## Guest areas -/

/-- At the addresses of a cpu a table shows the pages of a call. -/
def AreaShown
    (cfg : KkmConfig) (s : ModuleState) (call : GuestAreaCall) (table : Nat) : Prop :=
  ∀ j : Fin kkmPerCpuGaPageCount, ∀ off < pageSize,
    s.Shows cfg table (kkmMmuGetCurCpuGuestVa call.cpu + j * pageSize + off)
      ((call.page j).pa + off) {.write}

/-- The call has been the last one for its cpu. -/
def ModuleState.AreaKept (s : ModuleState) (call : GuestAreaCall) : Prop :=
  ∀ j : Fin kkmPerCpuGaPageCount, s.mem.entry s.kx.pt.va (guestAreaIndex call.cpu j) =
    kkmMmuMakeEntry (call.page j).pa guestAreaFlags

/-- The event is no guest area for this cpu. -/
def TableEvent.SparesCpu (cpu : Nat) (e : TableEvent) : Prop :=
  ∀ q call, e = .area q call → call.cpu ≠ cpu

section Area

variable {cfg : KkmConfig} {s s' : ModuleState} {kkm : Kkm} {call : GuestAreaCall}

theorem ModuleState.AreaKept.shown
    (h : s.AreaKept call) (hcpu : call.cpu < kxMapCpus) (hkept : s.TablesKept cfg)
    (hloaded : s.loaded = true) (htables : s.HasTables cfg kkm) {table : Nat}
    (htable : kkm.IsTopTable table) : AreaShown cfg s call table := by
  intro j off hoff
  have hpresent : present guestAreaFlags = true := by decide
  rw [guestAreaVa_eq hcpu, ← guestAreaFlags_rights]
  exact hkept.shows hloaded htables htable ((guestAreaIndex_lt_iff call.cpu).2 hcpu j) hoff
    hpresent (h j)

theorem ModuleState.AreaKept.step
    (h : s.AreaKept call) (hcpu : call.cpu < kxMapCpus) (hkept : s.TablesKept cfg)
    {e : TableEvent} (hguard : TableGuard cfg s e) (hspares : e.SparesCpu call.cpu)
    (hstep : tableStep cfg s e = .ok s') (hloaded : s'.loaded = true) :
    s'.AreaKept call := by
  intro j
  rw [tableStep_kxEntry hkept hguard hstep hloaded
    ((guestAreaIndex_lt_iff call.cpu).2 hcpu j)]
  · exact h j
  · rintro q call' rfl j' heq
    exact hspares q call' rfl (guestAreaIndex_inj heq).1.symm

theorem areaKept_areaStep (s : ModuleState) (call : GuestAreaCall) :
    (s.setMem (areaStep s.kx s.mem call)).AreaKept call :=
  fun j => areaStep_self s.kx s.mem call j

end Area

section AreaRun

variable {cfg : KkmConfig} {a : InitAnswers} {reserved nextFd : Nat}
variable {objectId : BitVec 64} {mem : Memory} {page : Fin 4 → PhysPage}

/-- A guest area that has been entered for a cpu is what both tables of every guest
show there until the next one for that cpu. -/
theorem guestArea_shown_until_next
    (hload : LoadSucceeds a reserved nextFd objectId mem)
    {past later : List TableEvent} {q : Nat} {call : GuestAreaCall}
    (hguard : GuardedFrom cfg (loadedAt a reserved nextFd objectId mem page)
      (past ++ .area q call :: later))
    {s : ModuleState}
    (hpast : past.foldl (liftStep (tableStep cfg))
      (.ok (loadedAt a reserved nextFd objectId mem page)) = .ok s)
    (hreach : (s.world.kontainers q).reachable = true)
    (hspares : ∀ e ∈ later, e.SparesCpu call.cpu) :
    EveryState (liftStep (tableStep cfg))
      (Holds fun s => s.EveryGuest fun kkm => ∀ table, kkm.IsTopTable table →
        AreaShown cfg s call table)
      (tableStep cfg s (.area q call)) later := by
  obtain ⟨hpastGuard, hcall, hlater⟩ := everyStep_append.mp hguard
  rw [hpast] at hcall hlater
  have hcpu : call.cpu < kxMapCpus := hcall
  have hkept : s.TablesKept cfg := by
    have hlast := (always_tablesKept hload hpastGuard).last
    rw [hpast] at hlast
    exact hlast
  obtain ⟨s', hstep, -, hkept'⟩ := tableStep_kept hkept (e := .area q call) hcpu
  have hs' : s' = s.setMem (areaStep s.kx s.mem call) := by
    rw [tableStep, if_pos hreach] at hstep
    exact (Except.ok.inj hstep).symm
  have hlater : EveryStep (liftStep (tableStep cfg))
      (LiftGuard fun t e => TableGuard cfg t e ∧ e.SparesCpu call.cpu) (.ok s') later := by
    rw [liftStep_ok, hstep] at hlater
    refine EveryStep.mono ?_ (hlater.and_forall hspares)
    rintro (t | t) e ⟨hC, hD⟩
    · trivial
    · exact ⟨hC, hD⟩
  rw [hstep]
  refine EveryState.mono ?_ (holds_of_everyStep (I := fun t => t.TablesKept cfg ∧
    (t.loaded = true → t.AreaKept call)) ?_ ⟨hkept', fun _ => ?_⟩ hlater)
  · rintro (t | t) ht
    · exact ht
    · intro q' kkm hfiles hkkm table htable
      have hloaded := ht.1.loaded q' hfiles
      exact (ht.2 hloaded).shown hcpu ht.1 hloaded (ht.1.guests q' kkm hfiles hkkm) htable
  · intro t e ht hC
    obtain ⟨t', hstep', -, hkept''⟩ := tableStep_kept ht.1 hC.1
    rw [hstep']
    refine ⟨hkept'', fun hloaded => ?_⟩
    exact (ht.2 (tableStep_globals hstep' hloaded).1).step hcpu ht.1 hC.1 hC.2 hstep'
      hloaded
  · rw [hs']
    exact areaKept_areaStep s call

/-- The area of cpu 0 while cpu 1 gets one. -/
theorem guestArea_shown_oneGuest :
    let start := loadedAt ⟨⟨some 0, some 0, some 0⟩, some 3⟩ 1 3 0 (fun _ => 0) fun _ => .null
    ∃ s, [TableEvent.life (.create .granted)].foldl (liftStep (tableStep .stock))
        (.ok start) = .ok s ∧
      EveryState (liftStep (tableStep .stock))
        (Holds fun s => s.EveryGuest fun kkm => ∀ table, kkm.IsTopTable table →
          AreaShown .stock s (nullCall 0) table)
        (tableStep .stock s (.area 0 (nullCall 0))) [.area 0 (nullCall 1)] := by
  intro start
  have hguard : GuardedFrom .stock start
      [.life (.create .granted), .area 0 (nullCall 0), .area 0 (nullCall 1)] := by
    refine guardedFrom_create (by decide) (by decide) (by decide) ?_
    simp only [List.forall_mem_cons, List.not_mem_nil, false_implies, implies_true, and_true]
    exact ⟨tableGuard_area (by decide) 0, tableGuard_area (by decide) 0⟩
  obtain ⟨s, hpast, hreach⟩ : ∃ s, [TableEvent.life (.create .granted)].foldl
      (liftStep (tableStep .stock)) (.ok start) = .ok s ∧
        (s.world.kontainers 0).reachable = true := ⟨_, rfl, by decide⟩
  refine ⟨s, hpast, guestArea_shown_until_next loadSucceeds_booted ?_ hpast hreach ?_⟩
  · exact hguard
  · intro e he q call heq
    obtain rfl := List.mem_singleton.mp he
    cases heq
    decide

end AreaRun
end Driver
end KkmModule
