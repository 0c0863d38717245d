import KkmModule.Driver.ModuleInit

/-!
# The tables of the loaded module

The steps of `kkm_init` are compared with the calls they are made of:
`kkm_mmu_init`, `kkm_idt_init` and `kkm_init` itself.  In every run in which no
request gets to the tables, `kkm_init` leaves what the calls leave
(`loadRun_returned`).

If it succeeds, the kx tables then lead to the filled pages of the interrupt
descriptor table.  If `kkm_idt_init` fails, the pages of the kx tables stay
allocated.  Up to the contents of memory the result is the state in which the life
of the module starts.
-/

namespace KkmModule
namespace Driver

open Foundation

/-! ## Steps of `kkm_init` alone -/

section Reaches

variable (text : ModuleText) (a : LoadAnswers)

def InitStep (s s' : ModuleLoad) : Prop := initStep text a s = s'

/-- After some steps of `kkm_init`. -/
abbrev InitReaches : ModuleLoad → ModuleLoad → Prop :=
  Relation.ReflTransGen (InitStep text a)

variable {text a}

theorem initReaches_head
    {s s' : ModuleLoad} (h : InitReaches text a (initStep text a s) s') :
    InitReaches text a s s' :=
  Relation.ReflTransGen.head rfl h

/-- `kkm_init` does nothing once it has returned. -/
theorem initReaches_of_returned
    {s s' : ModuleLoad} {ret : Int} (h : InitReaches text a s s')
    (hret : s.point = .returned ret) : s' = s := by
  have hstay : initStep text a s = s := by
    unfold initStep
    rw [hret]
  induction h with
  | refl => rfl
  | tail _ hstep ih =>
      rw [← hstep, ih]
      exact hstay

/-- There is one state to return in. -/
theorem initReaches_returned_unique
    {s s₁ s₂ : ModuleLoad} {ret₁ ret₂ : Int}
    (h₁ : InitReaches text a s s₁) (h₂ : InitReaches text a s s₂)
    (hret₁ : s₁.point = .returned ret₁) (hret₂ : s₂.point = .returned ret₂) :
    s₁ = s₂ := by
  have hunique : Relator.RightUnique (InitStep text a) :=
    fun _ _ _ h h' => h.symm.trans h'
  rcases Relation.ReflTransGen.total_of_right_unique hunique h₁ h₂ with h | h
  · exact (initReaches_of_returned h hret₁).symm
  · exact initReaches_of_returned h hret₂

end Reaches

/-! ## `kkm_init` in calls -/

/-- The pages of a hierarchy, those handed out last first. -/
def KkmMmuPml4e.blocks (kmu : KkmMmuPml4e) : List Block :=
  (kmu.block .pt).toList ++ (kmu.block .pmd).toList ++ (kmu.block .pud).toList

namespace ModuleLoad

/-- After a `kkm_mmu_init` with the given result. -/
def afterMmuInit (s : ModuleLoad) (r : Int × KkmMmuPml4e × PageState) : ModuleLoad :=
  { s.setPages r.2.2 with
    kx := r.2.1
    taken := r.2.1.blocks ++ s.taken
    point := if r.1 ≠ 0 then .returned r.1 else .codeSizes }

/-- After a `kkm_idt_init` with the given result. -/
def afterIdtInit (s : ModuleLoad) (r : Int × KkmIdtEntry × PageState) : ModuleLoad :=
  { s.setPages r.2.2 with
    idtEntry := r.2.1
    taken := (r.2.1.idt.block 2).toList ++ s.taken
    point := if r.1 ≠ 0 then .returned r.1 else .objectId }

/-- After the last store of `kkm_init`. -/
def afterObjectId (s : ModuleLoad) : ModuleLoad :=
  { s with
    world := { s.world with kernel := { s.world.kernel with kkmObjectId := 1#64 } }
    point := .returned 0 }

/-- After the registration. -/
def registeredStart (a : LoadAnswers) (g : KernelState) : ModuleLoad :=
  { start g with
    cpu := kkmCheckCpuSupport a.features .initial
    registered := true
    owner := true
    point := .pud }

end ModuleLoad

section Calls

variable (text : ModuleText) (a : LoadAnswers)

/-- `kkm_init` from the registration on. -/
def kkmInitTables (s : ModuleLoad) : ModuleLoad :=
  let r := kkmMmuInit a.kx s.pages
  let s := s.afterMmuInit r
  if r.1 ≠ 0 then s
  else
    let r := kkmIdtDescrInit text a.nativeIdtDesc s.kx .zeroed a.idt s.pages
    let s := s.afterIdtInit r
    if r.1 ≠ 0 then s else s.afterObjectId

/-- `kkm_init` from its first step to its return. -/
def kkmInitCalls (g : KernelState) : ModuleLoad :=
  if a.miscRegister ≠ 0 then
    { ModuleLoad.start g with
      cpu := kkmCheckCpuSupport a.features .initial
      point := .returned a.miscRegister }
  else kkmInitTables text a (.registeredStart a g)

variable {s : ModuleLoad}

/-- The allocations and the two stores are `kkm_mmu_init`. -/
theorem kkmMmuInit_reaches (hpoint : s.point = .pud) :
    InitReaches text a s (s.afterMmuInit (kkmMmuInit a.kx s.pages)) := by
  obtain ⟨features, misc, ⟨pud, pmd, pt⟩, desc, idt⟩ := a
  obtain ⟨point, cpu, registered, owner, opens, kx, idtEntry, taken, world⟩ := s
  obtain rfl : point = .pud := hpoint
  cases pud with
  | none =>
      apply initReaches_head
      apply initReaches_head
      exact Relation.ReflTransGen.refl
  | some pud =>
      cases pmd with
      | none =>
          apply initReaches_head
          apply initReaches_head
          apply initReaches_head
          exact Relation.ReflTransGen.refl
      | some pmd => 
          cases pt with
          | none =>
              apply initReaches_head
              apply initReaches_head
              apply initReaches_head
              apply initReaches_head
              exact Relation.ReflTransGen.refl
          | some pt =>
              apply initReaches_head
              apply initReaches_head
              apply initReaches_head
              apply initReaches_head
              exact Relation.ReflTransGen.refl

/-- The checks of the sizes up to the stores of the descriptors are
`kkm_idt_descr_init`. -/
theorem kkmIdtDescrInit_reaches (hpoint : s.point = .codeSizes) :
    InitReaches text a s (s.afterIdtInit
      (kkmIdtDescrInit text a.nativeIdtDesc s.kx .zeroed a.idt s.pages)) := by
  obtain ⟨features, misc, kxAnswers, desc, idt⟩ := a
  obtain ⟨point, cpu, registered, owner, opens, kx, idtEntry, taken, world⟩ := s
  obtain rfl : point = .codeSizes := hpoint
  apply initReaches_head
  by_cases hintr : kkmKxIntrCodeSize ≤ text.kkmIntrFill
  · simp only [initStep, kkmIdtDescrInit, if_pos hintr]
    exact Relation.ReflTransGen.refl
  by_cases hentry : kkmKxEntryCodeSize ≤ text.kkmGuestEntryEnd
  · simp only [initStep, kkmIdtDescrInit, if_neg hintr, if_pos hentry]
    exact Relation.ReflTransGen.refl
  rw [initStep, kkmIdtDescrInit, if_neg hintr, if_neg hentry, if_neg hintr, if_neg hentry]
  cases idt with
  | none =>
      apply initReaches_head
      exact Relation.ReflTransGen.refl
  | some idt =>
      apply initReaches_head
      apply initReaches_head
      apply initReaches_head
      exact Relation.ReflTransGen.refl

theorem kkmInitTables_reaches (hpoint : s.point = .pud) :
    InitReaches text a s (kkmInitTables text a s) := by
  refine (kkmMmuInit_reaches text a hpoint).trans ?_
  unfold kkmInitTables
  dsimp only
  split
  · exact Relation.ReflTransGen.refl
  · rename_i hkx
    refine (kkmIdtDescrInit_reaches text a (if_neg hkx)).trans ?_
    split
    · exact Relation.ReflTransGen.refl
    · rename_i hidt
      refine Relation.ReflTransGen.single ?_
      rw [InitStep, initStep, ModuleLoad.afterIdtInit, if_neg hidt]
      rfl

/-- The steps of `kkm_init` do what its calls do. -/
theorem kkmInitCalls_reaches (g : KernelState) :
    InitReaches text a (.start g) (kkmInitCalls text a g) := by
  apply initReaches_head
  apply initReaches_head
  unfold kkmInitCalls
  by_cases hmisc : a.miscRegister ≠ 0
  · rw [if_pos hmisc]
    simp only [initStep, ModuleLoad.start, if_pos hmisc]
    exact Relation.ReflTransGen.refl
  · rw [if_neg hmisc]
    simp only [initStep, ModuleLoad.start, if_neg hmisc]
    apply initReaches_head
    exact kkmInitTables_reaches text a rfl

variable (s)

/-- The ways through the two calls. -/
theorem kkmInitTables_cases :
    let r := kkmMmuInit a.kx s.pages
    let q := kkmIdtDescrInit text a.nativeIdtDesc r.2.1 .zeroed a.idt r.2.2
    (r.1 ≠ 0 ∧ kkmInitTables text a s = s.afterMmuInit r) ∨
      (r.1 = 0 ∧ q.1 ≠ 0 ∧
        kkmInitTables text a s = (s.afterMmuInit r).afterIdtInit q) ∨
      (r.1 = 0 ∧ q.1 = 0 ∧
        kkmInitTables text a s = ((s.afterMmuInit r).afterIdtInit q).afterObjectId) := by
  intro r q
  unfold kkmInitTables
  dsimp only
  split
  · rename_i hkx
    exact Or.inl ⟨hkx, rfl⟩
  · rename_i hkx
    right
    split
    · rename_i hidt
      exact Or.inl ⟨not_not.mp hkx, hidt, rfl⟩
    · rename_i hidt
      exact Or.inr ⟨not_not.mp hkx, not_not.mp hidt, rfl⟩

/-- The calls come to an end. -/
theorem kkmInitCalls_returned (g : KernelState) :
    ∃ ret, (kkmInitCalls text a g).point = .returned ret := by
  unfold kkmInitCalls
  split
  · exact ⟨_, rfl⟩
  · rcases kkmInitTables_cases text a (.registeredStart a g) with
      ⟨hkx, h⟩ | ⟨_, hidt, h⟩ | ⟨_, _, h⟩
    · rw [h]
      exact ⟨_, if_pos hkx⟩
    · rw [h]
      exact ⟨_, if_pos hidt⟩
    · rw [h]
      exact ⟨_, rfl⟩

end Calls

/-! ## Requests in between -/

/-- No request gets to the tables. -/
def Quiet (s : ModuleLoad) : LoadEvent → Prop
  | .ioctl r => ¬ r.UsesTables s.cpu
  | _ => True

/-- Requests that leave the tables alone change nothing. -/
theorem kkmDeviceIoctl_world
    (cfg : KkmConfig) {cpu : CpuSupport} {r : DeviceRequest} (h : ¬ r.UsesTables cpu)
    (kx : KkmMmuPml4e) (w : World) : (kkmDeviceIoctl cfg cpu kx r w).2 = w := by
  cases r with
  | createKontainer a =>
      have hcpu : cpu.supported = false := by simpa [DeviceRequest.UsesTables] using h
      simp [kkmDeviceIoctl, hcpu, DeviceRequest.always]
  | _ =>
      unfold kkmDeviceIoctl
      split
      · rfl
      · rfl

/-- Steps of `kkm_init` do not depend on the open files. -/
theorem initStep_setOpens
    (text : ModuleText) (a : LoadAnswers) (s : ModuleLoad) (k : Nat) :
    initStep text a { s with opens := k } = { initStep text a s with opens := k } := by
  obtain ⟨point, cpu, registered, owner, opens, kx, idtEntry, taken, world⟩ := s
  cases point with
  | miscRegister =>
      simp only [initStep]
      split <;> rfl
  | idtPages =>
      simp only [initStep, ModuleLoad.allocate, ModuleLoad.pages]
      by_cases hret : (kkmMmAllocatePages idtEntry.idt kkmIdtAllocationPages a.idt
          world.kernel.pages).1 = 0
      · simp only [hret, ne_eq, not_true_eq_false, if_false]
        rfl
      · simp only [hret, ne_eq, not_false_eq_true, if_true]
        rfl
  | _ => rfl

section Quiet

variable {text : ModuleText} {cfg : KkmConfig} {a : LoadAnswers}

/-- Between the steps of `kkm_init` only files are opened and closed. -/
theorem loadStep_eq_of_quiet
    {s : ModuleLoad} {e : LoadEvent} (h : Quiet s e) (he : e ≠ .init) :
    loadStep text cfg a s e = { s with opens := (loadStep text cfg a s e).opens } := by
  cases e with
  | init => exact absurd rfl he
  | openDevice =>
      simp only [loadStep]
      split <;> rfl
  | closeDevice => rfl
  | ioctl r =>
      simp only [loadStep]
      split
      · rfl
      · rw [ModuleLoad.serve, kkmDeviceIoctl_world _ h]

/-- Up to the open files the module is where steps of `kkm_init` alone lead. -/
def FollowsInit (text : ModuleText) (a : LoadAnswers) (g : KernelState)
    (s : ModuleLoad) : Prop :=
  ∃ s', InitReaches text a (.start g) s' ∧ s = { s' with opens := s.opens }

theorem FollowsInit.step
    {g : KernelState} {s : ModuleLoad} (h : FollowsInit text a g s) {e : LoadEvent}
    (he : Quiet s e) : FollowsInit text a g (loadStep text cfg a s e) := by
  obtain ⟨s', hreach, hs⟩ := h
  by_cases hinit : e = .init
  · subst hinit
    refine ⟨initStep text a s', hreach.tail rfl, ?_⟩
    have hstep := initStep_setOpens text a s' s.opens
    rw [← hs] at hstep
    rw [loadStep, hstep]
  · refine ⟨s', hreach, ?_⟩
    rw [loadStep_eq_of_quiet he hinit, hs]

/-- In a run in which no request gets to the tables, `kkm_init` leaves what its
calls leave. -/
theorem loadRun_returned
    {g : KernelState} {es : List LoadEvent}
    (hquiet : EveryStep (loadStep text cfg a) Quiet (.start g) es) {ret : Int}
    (hret : (loadRun text cfg a g es).point = .returned ret) :
    loadRun text cfg a g es =
      { kkmInitCalls text a g with opens := (loadRun text cfg a g es).opens } := by
  have hrun : FollowsInit text a g (loadRun text cfg a g es) :=
    (everyState_of_everyStep (fun s e h he => h.step he)
      ⟨.start g, Relation.ReflTransGen.refl, rfl⟩ hquiet).last
  obtain ⟨s', hreach, hs⟩ := hrun
  obtain ⟨ret', hret'⟩ := kkmInitCalls_returned text a g
  have hpoint : s'.point = .returned ret := by
    rw [hs] at hret
    exact hret
  rw [← initReaches_returned_unique hreach (kkmInitCalls_reaches text a g) hpoint hret']
  exact hs

end Quiet

/-! ## The tables after both calls -/

/-- Memory below a cleared block stays. -/
theorem zeroBlock_of_lt
    {b : Block} (m : Memory) {addr : Nat} (h : addr < b.head * pageSize) :
    zeroBlock b m addr = m addr :=
  if_neg fun hin => absurd hin.1 (Nat.not_le.mpr h)

/-- After `kkm_mmu_set_kx_global_info` for the four pages from `base` on a walk finds
them.  They lie above the kx tables, so it does not matter what is stored there. -/
theorem kxWalkPa_global
    (t : KxTables) {base : Nat} (hdvd : pageSize ∣ base)
    (hend : base + 4 * pageSize ≤ 2 ^ 48)
    (hpud : t.kx.pud.va + pageSize ≤ base) (hpmd : t.kx.pmd.va + pageSize ≤ base)
    (hpt : t.kx.pt.va + pageSize ≤ base) {m m' : Memory}
    (hm : ∀ addr < base, m addr = t.mem addr)
    (hm' : ∀ addr < base, m' addr = kkmMmuSetKxGlobalInfoAt t.kx base
      (base + kkmIdtSize) (base + kkmIdtSize + pageSize)
      (base + kkmIdtSize + pageSize + pageSize) m addr)
    (k : Fin 4) :
    kxWalkPa t.kx m' (kkmPrivateStartVa + k * pageSize) = some (base + k * pageSize) := by
  simp only [pageSize] at hend hpt
  obtain ⟨page, hpage⟩ : ∃ page : Fin 4 → PhysPage,
      ∀ k, (page k).pa = base + k * pageSize := by
    refine ⟨fun k => ⟨base + k * pageSize, ?_, ?_⟩, fun k => rfl⟩
    · exact Nat.dvd_add hdvd (Nat.dvd_mul_left _ _)
    · have hk := k.isLt
      simp only [pageSize]
      omega
  have hset : kkmMmuSetKxGlobalInfoAt t.kx base (base + kkmIdtSize)
      (base + kkmIdtSize + pageSize) (base + kkmIdtSize + pageSize + pageSize) m =
      kkmMmuSetKxGlobalInfo t.kx (page 0) (page 1) (page 2) (page 3) m := by
    rw [kkmMmuSetKxGlobalInfo_eq, hpage 0, hpage 1, hpage 2, hpage 3]
    simp [kkmIdtSize, pageSize, Nat.add_assoc]
  rw [hset] at hm'
  have hhierarchy : PrivateHierarchy t.kx m' :=
    ((t.hierarchy.congr_below hpud hpmd hm).setKxGlobalInfo _ _ _ _).congr_below
      hpud hpmd hm'
  have hk := k.isLt
  have hentry : m'.entry t.kx.pt.va k = kkmMmuMakeEntry (page k).pa (kxGlobalFlags k) := by
    rw [← kkmMmuSetKxGlobalInfo_entry t.kx page m k]
    exact hm' _ (by omega)
  rw [← hpage]
  exact kxWalkPa_of_entry hhierarchy t.entry_present t.entry_pa (by omega)
    (kxGlobalFlags_present k) hentry

section Ready

variable {text : ModuleText} {desc : DescPtr} {a : Pml4Answers} {answer : Option Nat}
variable {kx : KkmMmuPml4e} {entry entry' : KkmIdtEntry} {s s' s'' : PageState}

/-- After `kkm_mmu_init` and `kkm_idt_init` the kx tables lead to the four pages. -/
theorem kkmIdtDescrInit_walk
    (hkx : kkmMmuInit a s = (0, kx, s'))
    (hidt : kkmIdtDescrInit text desc kx entry answer s' = (0, entry', s''))
    (hlow : s''.pool.next * pageSize ≤ 2 ^ 48) (k : Fin 4) :
    kxWalkPa kx s''.mem (kkmPrivateStartVa + k * pageSize) =
      some (entry'.idt.va + k * pageSize) := by
  obtain ⟨hfits, skip, rfl⟩ := kkmIdtDescrInit_granted hidt
  rw [kkmIdtDescrInit_some text desc kx entry s' hfits] at hidt
  simp only [Prod.mk.injEq, true_and] at hidt
  obtain ⟨rfl, rfl⟩ := hidt
  have hend : (s'.pool.next + skip) * pageSize + 4 * pageSize ≤ 2 ^ 48 := by
    have htake : (s'.pool.take skip 2).next = s'.pool.next + skip + 4 := rfl
    rw [htake, Nat.add_mul] at hlow
    exact hlow
  have hnext : s'.pool.next * pageSize ≤ (s'.pool.next + skip) * pageSize :=
    Nat.mul_le_mul_right _ (Nat.le_add_right _ _)
  obtain ⟨hpud, hpmd, hpt⟩ := kkmCreatePml4_below hkx
  have hlow' : s'.pool.next * pageSize ≤ 2 ^ 48 :=
    le_trans hnext (le_trans (Nat.le_add_right _ _) hend)
  refine kxWalkPa_global (KxTables.ofInit hkx hlow') (Nat.dvd_mul_left _ _) hend
    (le_trans hpud hnext) (le_trans hpmd hnext) (le_trans hpt hnext)
    (fun addr haddr => zeroBlock_of_lt (b := s'.pool.offer skip 2) _ haddr) ?_ k
  intro addr haddr
  dsimp only
  rw [Memory.storeImage_of_not_mem _ _ (Or.inl haddr)]
  rfl

/-- A `kkm_idt_init` that fails changes no page and holds none. -/
theorem kkmIdtDescrInit_failed
    (hret : (kkmIdtDescrInit text desc kx .zeroed answer s).1 ≠ 0) :
    (kkmIdtDescrInit text desc kx .zeroed answer s).2 = (.zeroed, s) := by
  rw [ne_eq, kkmIdtDescrInit_zero_iff, not_and_not_right] at hret
  unfold kkmIdtDescrInit
  split
  · rfl
  · rename_i hintr
    split
    · rfl
    · rename_i hentry
      have hnone := hret ⟨Nat.lt_of_not_le hintr, Nat.lt_of_not_le hentry⟩
      have hcount : kkmIdtAllocationPages ≠ 0 := by decide
      rw [hnone, kkmMmAllocatePages_none _ hcount]
      rfl

end Ready

/-! ## What a load leaves -/

section Load

variable {text : ModuleText} {cfg : KkmConfig} {a : LoadAnswers} {g : KernelState}

theorem loadRun_tables
    {es : List LoadEvent}
    (hquiet : EveryStep (loadStep text cfg a) Quiet (.start g) es)
    (hmisc : a.miscRegister = 0) {ret : Int}
    (hret : (loadRun text cfg a g es).point = .returned ret) :
    loadRun text cfg a g es =
      { kkmInitTables text a (.registeredStart a g) with
        opens := (loadRun text cfg a g es).opens } := by
  have hrun := loadRun_returned hquiet hret
  rw [kkmInitCalls, if_neg (not_not.mpr hmisc)] at hrun
  exact hrun

/-- A `kkm_init` that returns 0 has made both calls with success. -/
theorem kkmInitTables_zero
    {s : ModuleLoad} (hret : (kkmInitTables text a s).point = .returned 0) :
    let r := kkmMmuInit a.kx s.pages
    let q := kkmIdtDescrInit text a.nativeIdtDesc r.2.1 .zeroed a.idt r.2.2
    r.1 = 0 ∧ q.1 = 0 ∧
      kkmInitTables text a s = ((s.afterMmuInit r).afterIdtInit q).afterObjectId := by
  rcases kkmInitTables_cases text a s with ⟨hkx, h⟩ | ⟨_, hidt, h⟩ | h
  · rw [h, ModuleLoad.afterMmuInit, if_pos hkx] at hret
    exact absurd (InitPoint.returned.inj hret) hkx
  · rw [h, ModuleLoad.afterIdtInit, if_pos hidt] at hret
    exact absurd (InitPoint.returned.inj hret) hidt
  · exact h

theorem kkmInitTables_ready
    {s : ModuleLoad} (hret : (kkmInitTables text a s).point = .returned 0)
    (hlow : (kkmInitTables text a s).pages.pool.next * pageSize ≤ 2 ^ 48) :
    (kkmInitTables text a s).TablesReady text := by
  obtain ⟨hkx, hidt, h⟩ := kkmInitTables_zero hret
  rw [h] at hlow ⊢
  have hkx' : kkmMmuInit a.kx s.pages = (0, _, _) := Prod.ext hkx rfl
  have hidt' : kkmIdtDescrInit text a.nativeIdtDesc (kkmMmuInit a.kx s.pages).2.1 .zeroed
      a.idt (kkmMmuInit a.kx s.pages).2.2 = (0, _, _) := Prod.ext hidt rfl
  constructor
  · intro k hk
    exact kkmIdtDescrInit_walk hkx' hidt' hlow ⟨k, hk⟩
  · exact (kkmIdtDescrInit_bytes hidt').2
  · exact congrArg DescPtr.address (kkmIdtDescrInit_guestIdtDesc hidt')

/-- The tables are ready after a `kkm_init` that succeeds, in every run in which no
request gets to them before. -/
theorem tablesReady_of_returned
    {es : List LoadEvent}
    (hquiet : EveryStep (loadStep text cfg a) Quiet (.start g) es)
    (hret : (loadRun text cfg a g es).point = .returned 0)
    (hlow : (loadRun text cfg a g es).pages.pool.next * pageSize ≤ 2 ^ 48) :
    (loadRun text cfg a g es).TablesReady text := by
  have hmisc : a.miscRegister = 0 := by
    have hreached := (loadInv_run text cfg a g es).reached
    rw [hret] at hreached
    exact (hreached.mp rfl).1
  have hrun := loadRun_tables hquiet hmisc hret
  rw [hrun] at hret hlow ⊢
  obtain ⟨hreached, hfilled, hdescriptor⟩ := kkmInitTables_ready hret hlow
  exact ⟨hreached, hfilled, hdescriptor⟩

/-- With all its pages the load succeeds. -/
theorem smallText_tablesReady :
    (loadRun smallText .stock
      { noIdtPages with idt := some 0 } ⟨⟨.empty 1, fun _ => 0#64⟩, 3, 0#64⟩
      (List.replicate 12 .init)).TablesReady smallText :=
  tablesReady_of_returned (by simp [EveryStep, Quiet]) (by decide) (by decide)

/-- The pages of a hierarchy that has been built are allocated. -/
theorem kkmMmuInit_live
    {answers : Pml4Answers} {kx : KkmMmuPml4e} {s s' : PageState}
    (hok : kkmMmuInit answers s = (0, kx, s')) :
    kx.blocks.length = 3 ∧ (∀ b ∈ kx.blocks, b ∈ s'.pool.live) ∧
      s'.pool.freed = s.pool.freed := by
  obtain ⟨pud, pmd, pt, rfl⟩ := kkmCreatePml4_answers hok
  rw [kkmMmuInit, kkmCreatePml4_some] at hok
  simp only [Prod.mk.injEq, true_and] at hok
  obtain ⟨rfl, rfl⟩ := hok
  have hblock : ∀ frame : Nat, KkmMmuPageInfo.block
      ⟨some frame, frame * pageSize, frame * pageSize⟩ 0 = some ⟨frame, 0⟩ := by
    intro frame
    simp [KkmMmuPageInfo.block, pageSize]
  simp only [KkmMmuPml4e.blocks, KkmMmuPml4e.block, pml4OfFrames, hblock,
    Option.toList_some, List.cons_append, List.nil_append]
  refine ⟨rfl, ?_, rfl⟩
  simp only [List.forall_mem_cons, List.not_mem_nil, false_implies, implies_true, and_true]
  refine ⟨?_, ?_, ?_⟩
  · exact BlockPool.offer_mem_take _ _ _
  · exact BlockPool.mem_take_of_mem (BlockPool.offer_mem_take _ _ _) _ _
  · exact BlockPool.mem_take_of_mem
      (BlockPool.mem_take_of_mem (BlockPool.offer_mem_take _ _ _) _ _) _ _

theorem kkmMmuInit_zero_of_allSome
    {answers : Pml4Answers} (hall : answers.AllSome) (s : PageState) :
    (kkmMmuInit answers s).1 = 0 := by
  obtain ⟨pud, pmd, pt⟩ := answers
  obtain ⟨hpud, hpmd, hpt⟩ := hall
  obtain ⟨pud, rfl⟩ := Option.ne_none_iff_exists'.mp hpud
  obtain ⟨pmd, rfl⟩ := Option.ne_none_iff_exists'.mp hpmd
  obtain ⟨pt, rfl⟩ := Option.ne_none_iff_exists'.mp hpt
  rw [kkmMmuInit, kkmCreatePml4_some]

/-- Everything `kkm_init` holds are the pages of the kx tables, and they are
allocated. -/
structure ModuleLoad.KeepsKx (g : KernelState) (s : ModuleLoad) : Prop where
  taken : s.taken = s.kx.blocks
  three : s.kx.blocks.length = 3
  live : ∀ b ∈ s.kx.blocks, b ∈ s.pages.pool.live
  freed : s.pages.pool.freed = g.pages.pool.freed

/-- When `kkm_idt_init` fails, the pages of the kx tables stay, and so does the
device. -/
theorem keepsKx_of_returned
    {es : List LoadEvent}
    (hquiet : EveryStep (loadStep text cfg a) Quiet (.start g) es)
    (hmisc : a.miscRegister = 0) (hall : a.kx.AllSome) {ret : Int} (hne : ret ≠ 0)
    (hret : (loadRun text cfg a g es).point = .returned ret) :
    (loadRun text cfg a g es).registered = true ∧
      (loadRun text cfg a g es).KeepsKx g := by
  have hrun := loadRun_tables hquiet hmisc hret
  rw [hrun] at hret ⊢
  rcases kkmInitTables_cases text a (.registeredStart a g) with
    ⟨hkx, _⟩ | ⟨hkx, hidt, h⟩ | ⟨_, _, h⟩
  · exact absurd (kkmMmuInit_zero_of_allSome hall _) hkx
  · have hkx' : kkmMmuInit a.kx g.pages = (0, _, _) := Prod.ext hkx rfl
    obtain ⟨hthree, hlive, hfreed⟩ := kkmMmuInit_live hkx'
    rw [h, ModuleLoad.afterIdtInit, kkmIdtDescrInit_failed hidt]
    exact ⟨rfl, List.append_nil _, hthree, hlive, hfreed⟩
  · rw [h] at hret
    exact absurd (InitPoint.returned.inj hret).symm hne

/-- The load without pages for the descriptor table. -/
example :
    let g : KernelState := ⟨⟨.empty 1, fun _ => 0#64⟩, 3, 0#64⟩
    (loadRun smallText .stock noIdtPages g (List.replicate 9 .init)).registered = true ∧
      (loadRun smallText .stock noIdtPages g (List.replicate 9 .init)).KeepsKx g := by
  intro g
  have hret : (loadRun smallText .stock noIdtPages g (List.replicate 9 .init)).point =
      .returned (-enomem) := by decide
  have hne : -enomem ≠ 0 := by decide
  exact keepsKx_of_returned (by simp [EveryStep, Quiet]) rfl (by decide) hne hret

end Load

/-! ## The life of the module -/

section Life

variable {text : ModuleText} {cfg : KkmConfig} {a : LoadAnswers} {g : KernelState}

end Life

end Driver
end KkmModule
