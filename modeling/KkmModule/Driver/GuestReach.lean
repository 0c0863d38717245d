import KkmModule.Driver.TableWorld

/-!
# What guests reach

Four statements about every state of a run of the loaded module, each for every
kontainer with an installed file.

* The 512 GiB slot at `KKM_PRIVATE_START_VA` shows two megabytes of kx pages,
  each with the rights of the memory map in `kkm_mmu.h`, none open to user code.
* The user half shows the monitor's payload entry in two windows and the private
  page table in two megabytes, and nothing else.
* Guest kernel and guest payload have the same map, rights included.
* A step that concerns one kontainer writes no page of another, and no page of
  the kx hierarchy but entries of guest areas.
-/

namespace KkmModule
namespace Driver

open Foundation

/-- The property holds of all kontainers with an installed file. -/
def ModuleState.EveryGuest (s : ModuleState) (P : Kkm → Prop) : Prop :=
  ∀ q kkm, (s.world.kontainers q).files ≠ [] →
    (s.world.kontainers q).kkm = some kkm → P kkm

/-! ## One state -/

section State

variable {cfg : KkmConfig} {s : ModuleState} {kkm : Kkm}

/-- Either of the two top-level tables. -/
def Kkm.IsTopTable (kkm : Kkm) (table : Nat) : Prop :=
  table = kkm.gkPgd.va ∨ table = kkm.gpPgd.va

/-- What the slot shows: pages of the kx page table with their rights. -/
structure KxSlotShown (cfg : KkmConfig) (s : ModuleState) (table : Nat) : Prop where
  low : ∀ va g, InKxSlot va → mapping s.mem (topLevel cfg) table va = some g →
    va < kkmPrivateStartVa + span 1
  leaf : ∀ va g, InKxSlot va → mapping s.mem (topLevel cfg) table va = some g →
    g.leaf = ⟨s.mem.entry s.kx.pt.va (pteIndex va), 0⟩
  rights : ∀ va g, InKxSlot va → mapping s.mem (topLevel cfg) table va = some g →
    g.rights = kxMapRights (pteIndex va)
  noUser : ∀ va g, InKxSlot va → mapping s.mem (topLevel cfg) table va = some g →
    PageRight.user ∉ g.rights

instance (va : Nat) : Decidable (InPrivateWindow va) :=
  inferInstanceAs (Decidable (_ ∧ _))

/-- What the user half shows, once there is an entry in the windows. -/
def userView (kkm : Kkm) (m : Memory) (e : BitVec 64) (va : Nat) : Option Mapping :=
  if InPayloadWindow va then mapEntry m 3 e va
  else if InPrivateWindow va then
    mapEntry m 0 (m.entry kkm.kkmGuestPml4e.pt.va (pteIndex va)) va
  else none

/-- The user half is empty, or shows an executable entry in the windows and the
private page table. -/
def UserHalfShown
    (cfg : KkmConfig) (s : ModuleState) (kkm : Kkm) (table : Nat) : Prop :=
  (∀ va, UserHalfVa cfg va → mapping s.mem (topLevel cfg) table va = none) ∨
    ∃ e, PageRight.exec ∈ entryRights e ∧ ∀ va, UserHalfVa cfg va →
      mapping s.mem (topLevel cfg) table va = userView kkm s.mem e va

/-- Both tables map an address alike. -/
def TablesAlike (cfg : KkmConfig) (s : ModuleState) (kkm : Kkm) : Prop :=
  ∀ va, UserHalfVa cfg va ∨ KernelHalfVa cfg va →
    mapping s.mem (topLevel cfg) kkm.gkPgd.va va =
      mapping s.mem (topLevel cfg) kkm.gpPgd.va va

/-- Both tables hold the contents, in pages a walk gets to. -/
theorem GuestTables.contents
    {kx : KkmMmuPml4e} {c : GuestContents} {m : Memory} {fr : TableFrames}
    (hfr : kkm.InFrames cfg fr) (h : GuestTables cfg kx kkm c m) :
    (cfg.l5 = true → pageSize ∣ kkm.lowP4d.va ∧ kkm.lowP4d.va < 2 ^ 48) ∧
      ∀ table, kkm.IsTopTable table → ∃ p4d,
        (cfg.l5 = true → pageSize ∣ p4d ∧ p4d < 2 ^ 48) ∧
        HoldsContents cfg kx kkm.kkmGuestPml4e c table p4d kkm.lowP4d.va m := by
  obtain ⟨hpud, hpmd, hpt, hl5⟩ := TableFrames.order hfr.increasing
  have hframe : ∀ f, f < fr.pt → pageSize ∣ f * pageSize ∧ f * pageSize < 2 ^ 48 := by
    intro f hf
    exact ⟨Nat.dvd_mul_left _ _,
      lt_trans (Nat.mul_lt_mul_of_pos_right hf (by decide)) hfr.below⟩
  refine ⟨?_, ?_⟩
  · intro h5
    have horder := hl5 h5
    rw [hfr.lowP4d h5]
    exact hframe fr.lowP4d (by omega)
  · rintro table (rfl | rfl)
    · refine ⟨_, fun h5 => ?_, h.gk⟩
      have horder := hl5 h5
      rw [hfr.gkP4d h5]
      exact hframe fr.p4d (by omega)
    · refine ⟨_, fun h5 => ?_, h.gp⟩
      have horder := hl5 h5
      rw [hfr.gpP4d h5]
      exact hframe (fr.p4d + 1) (by omega)

/-- The same of the contents of a state. -/
theorem ModuleState.HasTables.contents
    (h : s.HasTables cfg kkm) :
    ∃ c, TableChain kkm.kkmGuestPml4e s.mem ∧
      (∀ e, c.window = some e → PageRight.exec ∈ entryRights e) ∧
      (cfg.l5 = true → pageSize ∣ kkm.lowP4d.va ∧ kkm.lowP4d.va < 2 ^ 48) ∧
      ∀ table, kkm.IsTopTable table → ∃ p4d,
        (cfg.l5 = true → pageSize ∣ p4d ∧ p4d < 2 ^ 48) ∧
        HoldsContents cfg s.kx kkm.kkmGuestPml4e c table p4d kkm.lowP4d.va s.mem := by
  obtain ⟨fr, c, hfr, htables, hexec⟩ := h
  exact ⟨c, htables.chain, hexec, GuestTables.contents hfr htables⟩

/-- The slot lies in the kernel half of both paging modes. -/
theorem kernelHalfVa_of_slot {va : Nat} (h : InKxSlot va) : KernelHalfVa cfg va := by
  have h3 : span 3 = 0x8000000000 := by decide
  have h4 : span 4 = 0x1000000000000 := by decide
  unfold InKxSlot at h
  unfold KernelHalfVa halfSize topLevel
  simp only [kkmPrivateStartVa, kernelStartIndex, h3] at h ⊢
  cases cfg.l5 <;> simp [h3, h4] <;> omega

/-- Below the slot's entry, index 0 in both upper pages means the first two
megabytes. -/
theorem lt_of_tableIndex_kx
    {va : Nat} (h : InKxSlot va) (hpud : tableIndex 2 va = 0) (hpmd : tableIndex 1 va = 0) :
    va < kkmPrivateStartVa + span 1 := by
  have h1 : span 1 = 0x200000 := by decide
  have h2 : span 2 = 0x40000000 := by decide
  have h3 : span 3 = 0x8000000000 := by decide
  simp only [InKxSlot, tableIndex, kkmPrivateStartVa, h1, h2, h3] at *
  omega

/-- In the slot both tables lead to the kx hierarchy. -/
theorem ModuleState.HasTables.mapping_slot
    (h : s.HasTables cfg kkm) {table va : Nat} (htable : kkm.IsTopTable table)
    (hva : InKxSlot va) :
    mapping s.mem (topLevel cfg) table va = mapEntry s.mem 3 s.kx.pgdEntry va := by
  obtain ⟨c, -, -, -, hholds⟩ := h.contents
  obtain ⟨p4d, hp4d, hcontents⟩ := hholds table htable
  rw [hcontents.mapping_kernel hp4d (kernelHalfVa_of_slot hva), kernelMap, if_pos hva]

theorem ModuleState.TablesKept.kxSlotShown
    (h : s.TablesKept cfg) (hloaded : s.loaded = true) (htables : s.HasTables cfg kkm)
    {table : Nat} (htable : kkm.IsTopTable table) : KxSlotShown cfg s table := by
  have hslot : ∀ va, InKxSlot va →
      mapping s.mem (topLevel cfg) table va = mapEntry s.mem 3 s.kx.pgdEntry va :=
    fun va hva => htables.mapping_slot htable hva
  have hrights := fun va g (hva : InKxSlot va)
      (hg : mapping s.mem (topLevel cfg) table va = some g) =>
    (h.kxChain hloaded).kx_rights (h.kxMap hloaded) ((hslot va hva).symm.trans hg)
  refine ⟨?_, ?_, ?_, ?_⟩
  · intro va g hva hg
    obtain ⟨hpud, hpmd, -, -⟩ := hrights va g hva hg
    exact lt_of_tableIndex_kx hva hpud hpmd
  · intro va g hva hg
    obtain ⟨hpud, hpmd, -, -⟩ := hrights va g hva hg
    rw [hslot va hva, (h.kxChain hloaded).map_of_index hpud hpmd, mapEntry] at hg
    split at hg
    · cases hg
      rfl
    · cases hg
  · intro va g hva hg
    exact (hrights va g hva hg).2.2.2
  · intro va g hva hg
    rw [(hrights va g hva hg).2.2.2]
    exact user_notMem_kxMapRights _

theorem ModuleState.HasTables.tablesAlike (h : s.HasTables cfg kkm) :
    TablesAlike cfg s kkm := by
  obtain ⟨c, -, -, hlow, hholds⟩ := h.contents
  obtain ⟨p4d, hp4d, hgk⟩ := hholds _ (Or.inl rfl)
  obtain ⟨p4d', hp4d', hgp⟩ := hholds _ (Or.inr rfl)
  rintro va (huser | hkernel)
  · rw [hgk.mapping_user hlow huser, hgp.mapping_user hlow huser]
  · rw [hgk.mapping_kernel hp4d hkernel, hgp.mapping_kernel hp4d' hkernel]

end State

/-! ## Every state of a run -/

section Run

variable {cfg : KkmConfig} {a : InitAnswers} {reserved nextFd : Nat}
variable {objectId : BitVec 64} {mem : Memory} {page : Fin 4 → PhysPage}

/-- The module right after it has been loaded. -/
def loadedAt
    (a : InitAnswers) (reserved nextFd : Nat) (objectId : BitVec 64) (mem : Memory)
    (page : Fin 4 → PhysPage) : ModuleState :=
  (kkmInit a ⟨⟨.empty reserved, mem⟩, nextFd, objectId⟩).2.withGlobals page

/-- A load that succeeds, with its pages below 256 TiB. -/
structure LoadSucceeds
    (a : InitAnswers) (reserved nextFd : Nat) (objectId : BitVec 64) (mem : Memory) :
    Prop where
  init : (kkmInit a ⟨⟨.empty reserved, mem⟩, nextFd, objectId⟩).1 = 0
  low : (kkmInit a ⟨⟨.empty reserved, mem⟩, nextFd, objectId⟩).2.pool.next * pageSize ≤
    2 ^ 48

/-- The events of a run, each guarded in the state it happens in. -/
def GuardedFrom (cfg : KkmConfig) (s : ModuleState) (es : List TableEvent) : Prop :=
  EveryStep (liftStep (tableStep cfg)) (LiftGuard (TableGuard cfg)) (.ok s) es

/-- Property of every state of a run. -/
def AlwaysFrom
    (cfg : KkmConfig) (s : ModuleState) (P : ModuleState → Prop) (es : List TableEvent) :
    Prop :=
  EveryState (liftStep (tableStep cfg)) (Holds P) (.ok s) es

theorem loadSucceeds_booted :
    LoadSucceeds ⟨⟨some 0, some 0, some 0⟩, some 3⟩ 1 3 0 (fun _ => 0) :=
  ⟨by decide, by decide⟩

/-- A creation, then events that keep to their guards whatever the state. -/
theorem guardedFrom_create
    {s : ModuleState} (heven : Even s.world.kernel.pages.pool.next)
    (hlow : (kkmCreateKontainer .stock s.kx .granted s.world.kernel).2.2.pages.pool.next *
      pageSize ≤ 2 ^ 48)
    (hfree : ¬ (kkmCreateKontainer .stock s.kx .granted
      s.world.kernel).2.2.pages.pool.Allocated 1)
    {later : List TableEvent} (hlater : ∀ e ∈ later, ∀ t, TableGuard .stock t e) :
    GuardedFrom .stock s (.life (.create .granted) :: later) := by
  have hpml4 : Pml4Answers.AllSome ⟨some 0, some 0, some 0⟩ := by decide
  refine ⟨?_, EveryStep.of_forall (fun e he => LiftGuard.of_forall (hlater e he)) _⟩
  intro _ _ _
  refine ⟨⟨⟨hpml4, 0, rfl, heven, fun h => by cases h⟩, by decide⟩, hlow, ?_⟩
  refine ⟨⟨by decide, by decide, Bool.noConfusion, Bool.noConfusion⟩, ?_, Bool.noConfusion⟩
  intro f hf
  obtain rfl : f = 1 := by
    simp only [CreateAnswers.granted, pageSize] at hf
    omega
  exact hfree

theorem tableGuard_area
    {call : GuestAreaCall} (hcpu : call.cpu < kxMapCpus) (q : Nat) :
    ∀ t, TableGuard .stock t (.area q call) := fun _ => hcpu

/-- A kontainer with a region, on cpu 0. -/
def oneGuest : List TableEvent :=
  [.life (.create .granted), .memory 0 4096 (some .zeroed), .area 0 (nullCall 0)]

theorem guardedFrom_oneGuest
    {s : ModuleState} (heven : Even s.world.kernel.pages.pool.next)
    (hlow : (kkmCreateKontainer .stock s.kx .granted s.world.kernel).2.2.pages.pool.next *
      pageSize ≤ 2 ^ 48)
    (hfree : ¬ (kkmCreateKontainer .stock s.kx .granted
      s.world.kernel).2.2.pages.pool.Allocated 1) :
    GuardedFrom .stock s oneGuest := by
  refine guardedFrom_create heven hlow hfree ?_
  simp only [List.forall_mem_cons, List.not_mem_nil, false_implies, implies_true, and_true]
  refine ⟨fun _ mr hmr => ?_, tableGuard_area (by decide) 0⟩
  cases hmr
  decide

theorem always_tablesKept
    (hload : LoadSucceeds a reserved nextFd objectId mem) {es : List TableEvent}
    (hguard : GuardedFrom cfg (loadedAt a reserved nextFd objectId mem page) es) :
    AlwaysFrom cfg (loadedAt a reserved nextFd objectId mem page)
      (ModuleState.TablesKept cfg) es := by
  refine holds_of_everyStep ?_ (kkmInit_tablesKept cfg page hload.init hload.low) hguard
  intro s e hs hC
  obtain ⟨s', hstep, -, hkept⟩ := tableStep_kept hs hC
  rw [hstep]
  exact hkept

theorem AlwaysFrom.mono
    {s : ModuleState} {P Q : ModuleState → Prop} {es : List TableEvent}
    (h : AlwaysFrom cfg s P es) (hPQ : ∀ t, P t → Q t) : AlwaysFrom cfg s Q es := by
  refine EveryState.mono ?_ h
  intro t ht
  cases t with
  | error f => exact ht
  | ok t => exact hPQ t ht

/-- In every state the slot of both guest tables of every kontainer shows kx pages
with the rights of the memory map, none of them open to user code. -/
theorem kxSlot_shown_always
    (hload : LoadSucceeds a reserved nextFd objectId mem) {es : List TableEvent}
    (hguard : GuardedFrom cfg (loadedAt a reserved nextFd objectId mem page) es) :
    AlwaysFrom cfg (loadedAt a reserved nextFd objectId mem page)
      (fun s => s.EveryGuest fun kkm => ∀ table, kkm.IsTopTable table →
        KxSlotShown cfg s table) es := by
  refine (always_tablesKept hload hguard).mono ?_
  intro s hs q kkm hfiles hkkm table htable
  exact hs.kxSlotShown (hs.loaded q hfiles) (hs.guests q kkm hfiles hkkm) htable

/-- The slot of that guest. -/
theorem kxSlot_shown_oneGuest :
    AlwaysFrom .stock
      (loadedAt ⟨⟨some 0, some 0, some 0⟩, some 3⟩ 1 3 0 (fun _ => 0) fun _ => .null)
      (fun s => s.EveryGuest fun kkm => ∀ table, kkm.IsTopTable table →
        KxSlotShown .stock s table) oneGuest :=
  kxSlot_shown_always loadSucceeds_booted
    (guardedFrom_oneGuest (by decide) (by decide) (by decide))

/-- In every state guest kernel and guest payload have the same map. -/
theorem tables_alike_always
    (hload : LoadSucceeds a reserved nextFd objectId mem) {es : List TableEvent}
    (hguard : GuardedFrom cfg (loadedAt a reserved nextFd objectId mem page) es) :
    AlwaysFrom cfg (loadedAt a reserved nextFd objectId mem page)
      (fun s => s.EveryGuest (TablesAlike cfg s)) es := by
  refine (always_tablesKept hload hguard).mono ?_
  intro s hs q kkm hfiles hkkm
  exact (hs.guests q kkm hfiles hkkm).tablesAlike

/-- Both tables of that guest. -/
theorem tables_alike_oneGuest :
    AlwaysFrom .stock
      (loadedAt ⟨⟨some 0, some 0, some 0⟩, some 3⟩ 1 3 0 (fun _ => 0) fun _ => .null)
      (fun s => s.EveryGuest (TablesAlike .stock s)) oneGuest :=
  tables_alike_always loadSucceeds_booted
    (guardedFrom_oneGuest (by decide) (by decide) (by decide))

/-- The kontainer whose pages an event may write. -/
def TableEvent.about : TableEvent → Option Nat
  | .memory q _ _ => some q
  | .fault q _ _ _ _ => some q
  | .life _ => none
  | .area _ _ => none
  | .outside _ => none

def TableEvent.isArea : TableEvent → Bool
  | .area _ _ => true
  | .life _ => false
  | .memory _ _ _ => false
  | .fault _ _ _ _ _ => false
  | .outside _ => false

/-- A step leaves every page that is none of its business. -/
structure KeepsForeignPages (s s' : ModuleState) (e : TableEvent) : Prop where
  kontainers : ∀ q page, e.about ≠ some q →
    SameOn (s.framesOf (.kontainer q page)) s.mem s'.mem
  kxTables : ∀ page, page ≠ .pt ∨ e.isArea = false →
    SameOn (s.framesOf (.kx page)) s.mem s'.mem
  idt : SameOn (s.framesOf .idt) s.mem s'.mem

theorem ModuleState.TablesKept.keepsForeignPages
    {s s' : ModuleState} (h : s.TablesKept cfg) {e : TableEvent}
    (hguard : TableGuard cfg s e) (hstep : tableStep cfg s e = .ok s') :
    KeepsForeignPages s s' e := by
  obtain ⟨s'', hs, hsame, -⟩ := tableStep_kept h hguard
  obtain rfl : s' = s'' := Except.ok.inj (hstep.symm.trans hs)
  have hplace : ∀ place, (∀ f ∈ s.framesOf place, f ∉ e.written s) →
      SameOn (s.framesOf place) s.mem s'.mem := by
    intro place hnot
    exact hsame.mono fun f hf => ⟨h.tracked.framesOf_allocated hf, hnot f hf⟩
  have hkontainer : ∀ place q, (∀ page, place ≠ .kontainer q page) →
      ∀ f ∈ s.framesOf place, f ∉ s.kontainerFrames q := by
    rintro place q hne f hf ⟨page, hf'⟩
    exact hne page (h.place_unique hf hf')
  have hpt : ∀ place, place ≠ .kx .pt → ∀ f ∈ s.framesOf place, f ∉ s.framesOf (.kx .pt) :=
    fun place hne f hf hf' => hne (h.place_unique hf hf')
  refine ⟨fun q page habout => hplace _ ?_, fun page hpage => hplace _ ?_, hplace _ ?_⟩
  · have hother : ∀ r, some r ≠ some q → ∀ page', ModulePlace.kontainer q page ≠
        .kontainer r page' := by
      intro r hr page' heq
      cases heq
      exact hr rfl
    cases e with
    | life e => exact fun _ _ => Set.notMem_empty _
    | memory r nativePgd arg => exact hkontainer _ r (hother r habout)
    | fault r nativePgd kontext read write => exact hkontainer _ r (hother r habout)
    | area r call => exact hpt _ ModulePlace.noConfusion
    | outside m => exact fun _ _ => Set.notMem_empty _
  · cases e with
    | life e => exact fun _ _ => Set.notMem_empty _
    | memory r nativePgd arg => exact hkontainer _ r fun _ => ModulePlace.noConfusion
    | fault r nativePgd kontext read write =>
        exact hkontainer _ r fun _ => ModulePlace.noConfusion
    | area r call =>
        rcases hpage with hpage | hpage
        · exact hpt _ fun heq => hpage (ModulePlace.kx.inj heq)
        · cases hpage
    | outside m => exact fun _ _ => Set.notMem_empty _
  · cases e with
    | life e => exact fun _ _ => Set.notMem_empty _
    | memory r nativePgd arg => exact hkontainer _ r fun _ => ModulePlace.noConfusion
    | fault r nativePgd kontext read write =>
        exact hkontainer _ r fun _ => ModulePlace.noConfusion
    | area r call => exact hpt _ ModulePlace.noConfusion
    | outside m => exact fun _ _ => Set.notMem_empty _

end Run

end Driver
end KkmModule
