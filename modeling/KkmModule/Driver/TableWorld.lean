import KkmModule.Driver.ModuleLife
import KkmModule.Driver.TableCreation

/-!
# All tables of the loaded module

The module with its kontainers, and everything that writes into memory while it
is loaded: creations and closes, `KKM_MEMORY` requests, page faults, the guest
areas of the cpus, and the rest of the system, which keeps off the module's
pages.  A kontext appears only through the faults and guest areas it causes.

`TablesKept` is the invariant of these steps.  It follows from two facts: a step
writes into pages of the kontainer it is about only (`tableStep_sameOn`), and
what it writes there leaves the tables filled.
-/

namespace KkmModule
namespace Driver

open Foundation

inductive TableEvent where
  | life (e : ModuleEvent)
  /-- a `KKM_MEMORY` request -/
  | memory (q nativePgd : Nat) (arg : Option KkmMemoryRegion)
  /-- a page fault of the payload -/
  | fault (q nativePgd : Nat) (kontext : KkmKontext) (read : UserRead) (write : UserWrite)
  /-- a kontext of the kontainer is about to run on a cpu -/
  | area (q : Nat) (call : GuestAreaCall)
  /-- anything else in the system -/
  | outside (m : Memory)

def ModuleState.mem (s : ModuleState) : Memory := s.world.kernel.pages.mem

def ModuleState.setMem (s : ModuleState) (m : Memory) : ModuleState :=
  { s with world := { s.world with
      kernel := { s.world.kernel with pages := { s.world.kernel.pages with mem := m } } } }

/-- The structure of kontainer `q` and the memory are replaced. -/
def ModuleState.setKkm (s : ModuleState) (q : Nat) (kkm : Kkm) (m : Memory) : ModuleState :=
  (s.setWorld (s.world.set q { s.world.kontainers q with kkm := some kkm }
    s.world.kernel)).setMem m

def tableStep (cfg : KkmConfig) (s : ModuleState) :
    TableEvent → Except KernelFault ModuleState
  | .life e => moduleStep cfg s e
  | .memory q nativePgd arg =>
      if (s.world.kontainers q).reachable then
        match (s.world.kontainers q).kkm with
        | none => .error .danglingKkm
        | some kkm => (kkmSetKontainerMemory cfg nativePgd arg kkm s.mem).map
            fun r => s.setKkm q r.2.1 r.2.2
      else .ok s
  | .fault q nativePgd kontext read write =>
      if (s.world.kontainers q).reachable then
        match (s.world.kontainers q).kkm with
        | none => .error .danglingKkm
        | some kkm => .ok (s.setKkm q kkm
            (kkmProcessPageFault cfg nativePgd kkm read write kontext s.mem).2.2)
      else .ok s
  | .area q call =>
      if (s.world.kontainers q).reachable then .ok (s.setMem (areaStep s.kx s.mem call))
      else .ok s
  | .outside m => .ok (s.setMem m)

/-- Frames of the module's pages. -/
def ModuleState.allocated (s : ModuleState) : Set Nat := {f | s.pool.Allocated f}

/-- A creation that gets as far as its pages completes, the slot of a request is
one of the table, the cpu is one of the memory map, and nothing else writes the
module's pages. -/
def TableGuard (cfg : KkmConfig) (s : ModuleState) : TableEvent → Prop
  | .life (.create a) => s.loaded = true → a.kzalloc = true → a.getfd = true →
      CreatesTables cfg s.kx a s.world.kernel
  | .life (.close _ _) => True
  | .life .exit => True
  | .memory _ _ arg => ∀ mr ∈ arg, mr.slot.toNat < kkmMaxMemorySlots
  | .fault _ _ _ read write =>
      SameOn s.allocated s.mem read.mem ∧ SameOn s.allocated s.mem write.mem
  | .area _ call => call.cpu < kxMapCpus
  | .outside m => SameOn s.allocated s.mem m

/-! ## The invariant -/

/-- The tables of kontainer `q` hold some contents; the entry in its windows is
executable. -/
def ModuleState.HasTables (cfg : KkmConfig) (s : ModuleState) (kkm : Kkm) : Prop :=
  ∃ fr c, kkm.InFrames cfg fr ∧ GuestTables cfg s.kx kkm c s.mem ∧
    ∀ e, c.window = some e → PageRight.exec ∈ entryRights e

structure ModuleState.TablesKept (cfg : KkmConfig) (s : ModuleState) : Prop where
  tracked : s.Tracked
  apart : s.pool.Apart
  loaded : ∀ q, (s.world.kontainers q).files ≠ [] → s.loaded = true
  kxFrames : s.loaded = true → ∃ f g h, s.kx = pml4OfFrames f g h
  kxChain : s.loaded = true → TableChain s.kx s.mem
  kxMap : s.loaded = true → FollowsKxMap s.kx s.mem
  guests : ∀ q kkm, (s.world.kontainers q).files ≠ [] →
    (s.world.kontainers q).kkm = some kkm → s.HasTables cfg kkm

/-- Frames of the block in a place. -/
def ModuleState.framesOf (s : ModuleState) (place : ModulePlace) : Set Nat :=
  {f | ∃ b, s.own place = some b ∧ b.Has f}

section Places

variable {cfg : KkmConfig} {s : ModuleState}

theorem ModuleState.Tracked.framesOf_allocated
    (h : s.Tracked) {place : ModulePlace} {f : Nat} (hf : f ∈ s.framesOf place) :
    f ∈ s.allocated := by
  obtain ⟨b, hown, hhas⟩ := hf
  exact ⟨b, h.owns.live place b hown, hhas⟩

/-- No frame belongs to two places. -/
theorem ModuleState.TablesKept.place_unique
    (h : s.TablesKept cfg) {place place' : ModulePlace} {f : Nat}
    (hf : f ∈ s.framesOf place) (hf' : f ∈ s.framesOf place') : place = place' := by
  obtain ⟨b, hown, hhas⟩ := hf
  obtain ⟨b', hown', hhas'⟩ := hf'
  have hlive := h.tracked.owns.live place b hown
  have hlive' := h.tracked.owns.live place' b' hown'
  obtain rfl := h.apart b hlive b' hlive' f hhas hhas'
  exact h.tracked.owns.inj place place' b hown hown'

/-- The frames of a kontainer's tables are in its places. -/
theorem Kkm.InFrames.framesOf
    {q : Nat} {kkm : Kkm} {fr : TableFrames} (hfr : kkm.InFrames cfg fr)
    (hkkm : (s.world.kontainers q).kkm = some kkm) {f : Nat} (hf : f ∈ fr.frames cfg) :
    ∃ page, f ∈ s.framesOf (.kontainer q page) := by
  obtain ⟨page, b, hblock, hhas⟩ := hfr.block hf
  refine ⟨page, b, ?_, hhas⟩
  simp only [ModuleState.own, KontainerState.block, hkkm]
  exact hblock

/-- The frames of the kx hierarchy are in the places of the module. -/
theorem framesOf_kx
    (hloaded : s.loaded = true) {f g h : Nat} (hkx : s.kx = pml4OfFrames f g h) :
    f ∈ s.framesOf (.kx .pud) ∧ g ∈ s.framesOf (.kx .pmd) ∧ h ∈ s.framesOf (.kx .pt) := by
  have hdiv : ∀ x, x * pageSize / pageSize = x := fun x => Nat.mul_div_cancel x (by decide)
  refine ⟨⟨⟨f, 0⟩, ?_, ?_⟩, ⟨⟨g, 0⟩, ?_, ?_⟩, ⟨⟨h, 0⟩, ?_, ?_⟩⟩ <;>
    simp [ModuleState.own, hloaded, hkx, KkmMmuPml4e.block, pml4OfFrames,
      KkmMmuPageInfo.block, hdiv, Block.Has, Block.stop]

end Places

/-! ## What a step leaves alone -/

section Frame

variable {cfg : KkmConfig} {s : ModuleState} {m : Memory} {frames : Set Nat}

/-- Stores outside the frames of a kontainer keep its tables. -/
theorem ModuleState.TablesKept.hasTables_of_sameOn
    (h : s.TablesKept cfg) (hsame : SameOn (s.allocated \ frames) s.mem m) {q : Nat} {kkm : Kkm}
    (hfiles : (s.world.kontainers q).files ≠ [])
    (hkkm : (s.world.kontainers q).kkm = some kkm)
    (hframes : ∀ page, ∀ f ∈ s.framesOf (.kontainer q page), f ∉ frames) :
    (s.setMem m).HasTables cfg kkm := by
  obtain ⟨fr, c, hfr, htables, hexec⟩ := h.guests q kkm hfiles hkkm
  refine ⟨fr, c, hfr, ?_, hexec⟩
  refine GuestTables.congr hfr htables (hsame.mono ?_)
  intro f hf
  obtain ⟨page, hplace⟩ := hfr.framesOf hkkm hf.1
  exact ⟨h.tracked.framesOf_allocated hplace, hframes page f hplace⟩

/-- Stores outside the frames of the kx hierarchy keep it. -/
theorem ModuleState.TablesKept.kx_of_sameOn
    (h : s.TablesKept cfg) (hsame : SameOn (s.allocated \ frames) s.mem m)
    (hloaded : s.loaded = true)
    (hframes : ∀ page, ∀ f ∈ s.framesOf (.kx page), f ∉ frames) :
    TableChain s.kx m ∧ FollowsKxMap s.kx m := by
  obtain ⟨f, g, k, hkx⟩ := h.kxFrames hloaded
  obtain ⟨hf, hg, hk⟩ := framesOf_kx hloaded hkx
  have hin : ∀ page x, x ∈ s.framesOf (.kx page) → x ∈ s.allocated \ frames :=
    fun page x hx => ⟨h.tracked.framesOf_allocated hx, hframes page x hx⟩
  have hpt : ∀ idx < 512, m.entry s.kx.pt.va idx = s.mem.entry s.kx.pt.va idx := by
    intro idx hidx
    rw [hkx]
    exact hsame _ (hin _ _ hk) idx hidx
  constructor
  · apply (h.kxChain hloaded).congr
    · intro idx hidx
      rw [hkx]
      exact hsame _ (hin _ _ hf) idx hidx
    · intro idx hidx
      rw [hkx]
      exact hsame _ (hin _ _ hg) idx hidx
  · intro idx hidx hpresent
    rw [hpt idx hidx] at hpresent ⊢
    exact h.kxMap hloaded idx hidx hpresent

theorem ModuleState.TablesKept.setMem
    (h : s.TablesKept cfg)
    (hkx : s.loaded = true → TableChain s.kx m ∧ FollowsKxMap s.kx m)
    (hguests : ∀ q kkm, (s.world.kontainers q).files ≠ [] →
      (s.world.kontainers q).kkm = some kkm → (s.setMem m).HasTables cfg kkm) :
    (s.setMem m).TablesKept cfg where
  tracked := ⟨h.tracked.owns, h.tracked.kx, h.tracked.idt, h.tracked.files,
    h.tracked.absent⟩
  apart := h.apart
  loaded := h.loaded
  kxFrames := h.kxFrames
  kxChain := fun hloaded => (hkx hloaded).1
  kxMap := fun hloaded => (hkx hloaded).2
  guests := hguests

/-- What writes no page of the module keeps everything. -/
theorem ModuleState.TablesKept.outside
    (h : s.TablesKept cfg) (hsame : SameOn s.allocated s.mem m) :
    (s.setMem m).TablesKept cfg := by
  have hsame' : SameOn (s.allocated \ ∅) s.mem m := hsame.mono Set.sdiff_subset
  refine h.setMem (fun hloaded => ?_) fun q kkm hfiles hkkm => ?_
  · exact h.kx_of_sameOn hsame' hloaded fun _ _ _ => Set.notMem_empty _
  · exact h.hasTables_of_sameOn hsame' hfiles hkkm fun _ _ _ => Set.notMem_empty _

end Frame

/-! ## Steps of one kontainer -/

/-- Frames of the pages of kontainer `q`. -/
def ModuleState.kontainerFrames (s : ModuleState) (q : Nat) : Set Nat :=
  {f | ∃ page, f ∈ s.framesOf (.kontainer q page)}

/-- The page fields of two structures agree. -/
structure SamePages (kkm kkm' : Kkm) : Prop where
  gkPgd : kkm'.gkPgd = kkm.gkPgd
  gpPgd : kkm'.gpPgd = kkm.gpPgd
  gkP4d : kkm'.gkP4d = kkm.gkP4d
  gpP4d : kkm'.gpP4d = kkm.gpP4d
  lowP4d : kkm'.lowP4d = kkm.lowP4d
  guest : kkm'.kkmGuestPml4e = kkm.kkmGuestPml4e

section Kontainer

variable {cfg : KkmConfig} {s : ModuleState} {q : Nat} {kkm kkm' : Kkm} {m : Memory}

theorem SamePages.block (h : SamePages kkm kkm') : kkm'.block = kkm.block :=
  block_congr_kkm h.gkPgd h.gkP4d h.lowP4d h.guest

theorem ModuleState.HasTables.samePages
    (h : s.HasTables cfg kkm) (hpages : SamePages kkm kkm') : s.HasTables cfg kkm' := by
  obtain ⟨fr, c, hfr, ⟨hchain, hgk, hgp⟩, hexec⟩ := h
  refine ⟨fr, c, hfr.congr_kkm hpages.gkPgd hpages.gpPgd hpages.gkP4d hpages.gpP4d
    hpages.lowP4d hpages.guest, ⟨?_, ?_, ?_⟩, hexec⟩
  · rw [hpages.guest]
    exact hchain
  · rw [hpages.guest, hpages.gkPgd, hpages.gkP4d, hpages.lowP4d]
    exact hgk
  · rw [hpages.guest, hpages.gpPgd, hpages.gpP4d, hpages.lowP4d]
    exact hgp

theorem ModuleState.Tracked.setKkm
    (h : s.Tracked) (hfiles : (s.world.kontainers q).files ≠ [])
    (hkkm : (s.world.kontainers q).kkm = some kkm) (hpages : SamePages kkm kkm') :
    (s.setKkm q kkm' m).Tracked := by
  have hkontainer : ∀ r, ((s.setKkm q kkm' m).world.kontainers r).files =
        (s.world.kontainers r).files ∧
      (r ≠ q → (s.setKkm q kkm' m).world.kontainers r = s.world.kontainers r) := by
    intro r
    by_cases hr : r = q
    · subst hr
      simp [ModuleState.setKkm, ModuleState.setMem, ModuleState.setWorld, World.set]
    · simp [ModuleState.setKkm, ModuleState.setMem, ModuleState.setWorld, World.set,
        Function.update_of_ne hr]
  have hown : (s.setKkm q kkm' m).own = s.own := by
    funext place
    cases place with
    | kx page => rfl
    | idt => rfl
    | kontainer r page =>
        by_cases hr : r = q
        · subst hr
          simp [ModuleState.own, ModuleState.setKkm, ModuleState.setMem,
            ModuleState.setWorld, World.set, KontainerState.block, hkkm, hpages.block]
        · simp only [ModuleState.own, (hkontainer r).2 hr]
  refine ⟨?_, h.kx, h.idt, ?_, ?_⟩
  · rw [hown]
    exact h.owns
  · intro r
    obtain ⟨hone, htarget, halive⟩ := h.files r
    by_cases hr : r = q
    · rw [← (hkontainer r).1] at hone htarget
      refine ⟨hone, htarget, fun _ => ?_⟩
      subst hr
      simp [ModuleState.setKkm, ModuleState.setMem, ModuleState.setWorld, World.set]
    · rw [(hkontainer r).2 hr]
      exact h.files r
  · intro r hr
    have hne : r ≠ q := by
      rintro rfl
      apply hfiles
      rw [h.absent r hr]
      rfl
    rw [(hkontainer r).2 hne]
    exact h.absent r hr

/-- A step that writes pages of one kontainer only and leaves its tables filled. -/
theorem ModuleState.TablesKept.setKkm
    (h : s.TablesKept cfg) (hfiles : (s.world.kontainers q).files ≠ [])
    (hkkm : (s.world.kontainers q).kkm = some kkm) (hpages : SamePages kkm kkm')
    (hsame : SameOn (s.allocated \ s.kontainerFrames q) s.mem m)
    (htables : (s.setMem m).HasTables cfg kkm) :
    (s.setKkm q kkm' m).TablesKept cfg := by
  have hforeign : ∀ place, (∀ page, place ≠ .kontainer q page) →
      ∀ f ∈ s.framesOf place, f ∉ s.kontainerFrames q := by
    rintro place hplace f hf ⟨page, hf'⟩
    exact hplace page (h.place_unique hf hf')
  refine ⟨h.tracked.setKkm hfiles hkkm hpages, h.apart, ?_, h.kxFrames, ?_, ?_, ?_⟩
  · intro r _
    exact h.loaded q hfiles
  · intro hloaded
    refine (h.kx_of_sameOn hsame hloaded fun page => hforeign _ ?_).1
    intro page' heq
    cases heq
  · intro hloaded
    refine (h.kx_of_sameOn hsame hloaded fun page => hforeign _ ?_).2
    intro page' heq
    cases heq
  · intro r kkm'' hfiles' hkkm'
    by_cases hr : r = q
    · subst hr
      have hsome : some kkm' = some kkm'' := by
        simpa [ModuleState.setKkm, ModuleState.setMem, ModuleState.setWorld,
          World.set] using hkkm'
      cases hsome
      exact ModuleState.HasTables.samePages htables hpages
    · have hsame' : (s.setKkm q kkm' m).world.kontainers r = s.world.kontainers r := by
        simp [ModuleState.setKkm, ModuleState.setMem, ModuleState.setWorld, World.set,
          Function.update_of_ne hr]
      rw [hsame'] at hfiles' hkkm'
      refine h.hasTables_of_sameOn hsame hfiles' hkkm' fun page => hforeign _ ?_
      intro page' heq
      cases heq
      exact hr rfl

theorem KontainerState.files_of_reachable
    {k : KontainerState} (h : k.reachable = true) : k.files ≠ [] := by
  intro hnil
  rw [KontainerState.reachable, hnil] at h
  cases h

/-- The frames a kontainer writes are its own. -/
theorem ModuleState.TablesKept.frames_subset
    {fr : TableFrames} (hfr : kkm.InFrames cfg fr)
    (hkkm : (s.world.kontainers q).kkm = some kkm) {f : Nat} (hf : f ∈ fr.frames cfg) :
    f ∉ s.allocated \ s.kontainerFrames q :=
  fun hnot => hnot.2 (hfr.framesOf hkkm hf)

/-- The synchronisation that ends a request. -/
theorem ModuleState.TablesKept.sync
    (h : s.TablesKept cfg) (hfiles : (s.world.kontainers q).files ≠ [])
    (hkkm : (s.world.kontainers q).kkm = some kkm) (nativePgd : Nat) :
    SameOn (s.allocated \ s.kontainerFrames q) s.mem
        (syncGuestTables cfg nativePgd kkm s.mem) ∧
      (s.setMem (syncGuestTables cfg nativePgd kkm s.mem)).HasTables cfg kkm := by
  obtain ⟨fr, c, hfr, htables, hexec⟩ := h.guests q kkm hfiles hkkm
  obtain ⟨hpgd, hpgd', -, -, hl5⟩ := TableFrames.mem_upper hfr.increasing
  constructor
  · exact syncGuestTables_sameOn hfr nativePgd s.mem
      (ModuleState.TablesKept.frames_subset hfr hkkm hpgd.1)
      (ModuleState.TablesKept.frames_subset hfr hkkm hpgd'.1)
      fun h5 => ModuleState.TablesKept.frames_subset hfr hkkm (hl5 h5).2.2.1
  · obtain ⟨window, hwindow, hafter⟩ := htables.sync hfr nativePgd
    refine ⟨fr, _, hfr, hafter, ?_⟩
    intro e he
    rcases hwindow with rfl | rfl
    · exact hexec e he
    · obtain rfl := Option.some.inj he
      rw [mem_entryRights, PageRight.grantedBy, BitVec.getLsbD_and,
        show (~~~pageNx).getLsbD 63 = false by decide, Bool.and_false, Bool.not_false]

theorem samePages_addSlot (mr : KkmMemoryRegion) (i : Fin kkmMaxMemorySlots) :
    SamePages kkm (kkm.addSlot i mr) := ⟨rfl, rfl, rfl, rfl, rfl, rfl⟩

theorem samePages_deleteSlot (i : Fin kkmMaxMemorySlots) :
    SamePages kkm (kkm.deleteSlot i) := ⟨rfl, rfl, rfl, rfl, rfl, rfl⟩

/-- A request writes what its synchronisation writes, or nothing. -/
theorem kkmSetKontainerMemory_samePages
    (cfg : KkmConfig) (nativePgd : Nat) (kkm : Kkm) (m : Memory)
    {arg : Option KkmMemoryRegion} (hbound : ∀ mr ∈ arg, mr.slot.toNat < kkmMaxMemorySlots) :
    ∃ ret kkm' m', kkmSetKontainerMemory cfg nativePgd arg kkm m = .ok (ret, kkm', m') ∧
      SamePages kkm kkm' ∧ (m' = m ∨ m' = syncGuestTables cfg nativePgd kkm m) := by
  rcases kkmSetKontainerMemory_cases cfg nativePgd kkm m hbound with
    ⟨mr, i, rfl, hadd⟩ | ⟨mr, i, rfl, hdel⟩ | ⟨_, ret, _, hsame⟩
  · exact ⟨_, _, _, kkmSetKontainerMemory_add cfg nativePgd kkm m hadd,
      samePages_addSlot mr i, Or.inr rfl⟩
  · exact ⟨_, _, _, kkmSetKontainerMemory_delete cfg nativePgd kkm m hdel,
      samePages_deleteSlot i, Or.inr rfl⟩
  · exact ⟨ret, kkm, m, hsame, ⟨rfl, rfl, rfl, rfl, rfl, rfl⟩, Or.inl rfl⟩

/-- A fault writes what the copy of an entry writes, after what the rest of the
system did meanwhile. -/
theorem kkmProcessPageFault_mem
    (cfg : KkmConfig) (nativePgd : Nat) (kkm : Kkm) (kontext : KkmKontext)
    {read : UserRead} {write : UserWrite} {m : Memory} {frames : Set Nat}
    (hread : SameOn frames m read.mem) (hwrite : SameOn frames m write.mem) :
    ∃ m', SameOn frames m m' ∧
      ((kkmProcessPageFault cfg nativePgd kkm read write kontext m).2.2 = m' ∨
        ∃ monitorVa, (kkmProcessPageFault cfg nativePgd kkm read write kontext m).2.2 =
          (kkmMmuUpdatePrivArea cfg kontext.ga.sregs.cr2.toNat monitorVa nativePgd
            kkm.kkmGuestPml4e m').2) := by
  rcases kkmProcessPageFault_cases cfg nativePgd kkm read write kontext m with
    ⟨monitorVa, hva, hdone⟩ | ⟨-, hmem | hmem | hmem⟩
  · refine ⟨memAfterCopies read write kontext, ?_, Or.inr ⟨monitorVa.toNat, ?_⟩⟩
    · unfold memAfterCopies
      split
      · exact hwrite
      · exact hread
    · exact kkmProcessPageFault_done hva hdone
  · exact ⟨m, SameOn.refl _ _, Or.inl hmem⟩
  · exact ⟨_, hread, Or.inl hmem⟩
  · exact ⟨_, hwrite, Or.inl hmem⟩

/-- A fault. -/
theorem ModuleState.TablesKept.fault
    (h : s.TablesKept cfg) (hfiles : (s.world.kontainers q).files ≠ [])
    (hkkm : (s.world.kontainers q).kkm = some kkm) (nativePgd : Nat)
    (kontext : KkmKontext) {read : UserRead} {write : UserWrite}
    (hread : SameOn s.allocated s.mem read.mem)
    (hwrite : SameOn s.allocated s.mem write.mem) :
    let m := (kkmProcessPageFault cfg nativePgd kkm read write kontext s.mem).2.2
    SameOn (s.allocated \ s.kontainerFrames q) s.mem m ∧ (s.setMem m).HasTables cfg kkm := by
  intro m
  obtain ⟨m', hsame, hm⟩ :=
    kkmProcessPageFault_mem cfg nativePgd kkm kontext hread hwrite
  have hkept := h.outside hsame
  have hfirst : SameOn (s.allocated \ s.kontainerFrames q) s.mem m' :=
    hsame.mono Set.sdiff_subset
  obtain ⟨fr, c, hfr, htables, hexec⟩ := hkept.guests q kkm hfiles hkkm
  rcases hm with hm | ⟨monitorVa, hm⟩
  · simp only [m, hm]
    exact ⟨hfirst, fr, c, hfr, htables, hexec⟩
  · simp only [m, hm]
    refine ⟨hfirst.trans ?_, fr, c, hfr, ?_, hexec⟩
    · apply kkmMmuUpdatePrivArea_sameOn hfr
      refine ModuleState.TablesKept.frames_subset hfr hkkm ?_
      unfold TableFrames.frames
      split <;> simp
    · exact htables.updatePrivArea hfr _ _ _

end Kontainer

/-! ## Creation, close and exit -/

section Life

variable {cfg : KkmConfig} {s : ModuleState}

/-- A cleanup gives pages back without writing them. -/
theorem kkmKontainerCleanup_mem (kkm : Kkm) (p : PageState) :
    (kkmKontainerCleanup kkm p).2.mem = p.mem := by
  have hfree : ∀ (va count : Nat) (p : PageState), (kkmMmFreePages va count p).mem = p.mem := by
    intro va count p
    unfold kkmMmFreePages
    split
    · rfl
    · rfl
  have hif : ∀ (page : Option Nat) (va count : Nat) (p : PageState),
      (if page ≠ none then kkmMmFreePages va count p else p).mem = p.mem := by
    intro page va count p
    split
    · exact hfree va count p
    · rfl
  have hlvl : ∀ k l p, (kkmKontainerCleanupLvlPages k l p).2.2.mem = p.mem := by
    intro k l p
    rw [(kkmKontainerCleanupLvlPages_eq k l p).2]
    exact hif _ _ _ _
  obtain ⟨low, _, heq⟩ := kkmKontainerCleanupLowPage_eq kkm p
  simp only [kkmKontainerCleanup, heq, kkmKontainerCleanupPgdPages,
    kkmKontainerCleanupP4dPages, kkmCleanupPml4, kkmMmFreePage, hlvl, hif]

theorem kkmReferenceCountDown_pages
    (kkm : Kkm) (k : KontainerState) (g : KernelState) :
    (kkmReferenceCountDown kkm k g).2.pages.mem = g.pages.mem ∧
      (kkmReferenceCountDown kkm k g).2.pages.pool.live ⊆ g.pages.pool.live := by
  simp only [kkmReferenceCountDown]
  split
  · exact ⟨kkmKontainerCleanup_mem _ _, kkmKontainerCleanup_live_subset _ _⟩
  · exact ⟨rfl, Finset.Subset.refl _⟩

/-- A close does nothing, or leaves the kontainer without files; it writes
nothing and takes no page. -/
theorem moduleStep_close_cases
    (cfg : KkmConfig) (h : s.Tracked) (q fd : Nat) :
    moduleStep cfg s (.close q fd) = .ok s ∨
      ∃ k g, moduleStep cfg s (.close q fd) = .ok (s.setWorld (s.world.set q k g)) ∧
        k.files = [] ∧ g.pages.mem = s.mem ∧ g.pages.pool.live ⊆ s.pool.live := by
  simp only [moduleStep]
  split
  · exact Or.inl rfl
  · simp only [lifecycleStep]
    cases hfile : (s.world.kontainers q).files.find? fun f => decide (f.fd = fd) with
    | none => exact Or.inl rfl
    | some f =>
        right
        have hf := List.mem_of_find?_eq_some hfile
        obtain ⟨kkm, hkkm⟩ := Option.ne_none_iff_exists'.mp
          ((h.files q).alive (List.ne_nil_of_mem hf))
        have hnil : (s.world.kontainers q).files.erase f = [] := by
          apply List.eq_nil_of_length_eq_zero
          have hone := (h.files q).one
          rw [List.length_erase_of_mem hf]
          omega
        let r := kkmReferenceCountDown kkm
          { s.world.kontainers q with files := (s.world.kontainers q).files.erase f }
          s.world.kernel
        obtain ⟨hmem, hlive⟩ := kkmReferenceCountDown_pages kkm
          { s.world.kontainers q with files := (s.world.kontainers q).files.erase f }
          s.world.kernel
        refine ⟨r.1, r.2, ?_, ?_, hmem, hlive⟩
        · simp only [closeFile_kontainer ((h.files q).target f hf) hkkm, Except.map, r]
        · rw [kkmReferenceCountDown_files]
          exact hnil

/-- The kontainers other than `q` keep their tables when `q` is replaced. -/
theorem ModuleState.TablesKept.replace
    (h : s.TablesKept cfg) {q created : Nat} {k : KontainerState} {g : KernelState}
    (htracked : (s.setWorld { s.world.set q k g with created := created }).Tracked)
    (hapart : g.pages.pool.Apart) (hsame : SameOn s.allocated s.mem g.pages.mem)
    (hloaded : k.files ≠ [] → s.loaded = true)
    (hguest : ∀ kkm, k.files ≠ [] → k.kkm = some kkm →
      (s.setMem g.pages.mem).HasTables cfg kkm) :
    (s.setWorld { s.world.set q k g with created := created }).TablesKept cfg := by
  have hkept := h.outside hsame
  refine ⟨htracked, hapart, ?_, h.kxFrames, hkept.kxChain, hkept.kxMap, ?_⟩
  · intro r hfiles
    by_cases hr : r = q
    · subst hr
      refine hloaded ?_
      simpa [ModuleState.setWorld, World.set] using hfiles
    · refine h.loaded r ?_
      simpa [ModuleState.setWorld, World.set, Function.update_of_ne hr] using hfiles
  · intro r kkm hfiles hkkm
    by_cases hr : r = q
    · subst hr
      refine hguest kkm ?_ ?_
      · simpa [ModuleState.setWorld, World.set] using hfiles
      · simpa [ModuleState.setWorld, World.set] using hkkm
    · have hsame' : (s.setWorld { s.world.set q k g with created := created }).world.kontainers
          r = s.world.kontainers r := by
        simp [ModuleState.setWorld, World.set, Function.update_of_ne hr]
      rw [hsame'] at hfiles hkkm
      exact hkept.guests r kkm hfiles hkkm

/-- A guarded creation gets the pages for its private hierarchy. -/
theorem TableGuard.pml4sBuilt
    {a : CreateAnswers} (hguard : TableGuard cfg s (.life (.create a))) :
    Pml4sBuilt cfg s (.create a) :=
  fun hloaded hzalloc hfd _ => (hguard hloaded hzalloc hfd).completes.1.1

/-- What a guarded creation writes and leaves behind. -/
theorem kkmCreateKontainer_hasTables
    (h : s.TablesKept cfg) (hloaded : s.loaded = true) {a : CreateAnswers}
    (hguard : TableGuard cfg s (.life (.create a))) :
    let r := kkmCreateKontainer cfg s.kx a s.world.kernel
    SameOn s.allocated s.mem r.2.2.pages.mem ∧ r.2.2.pages.pool.Apart ∧
      ∀ kkm, r.2.1.files ≠ [] → r.2.1.kkm = some kkm →
        (s.setMem r.2.2.pages.mem).HasTables cfg kkm := by
  intro r
  have hnone : r.2.1.files = [] → r.2.2.pages = s.world.kernel.pages →
      SameOn s.allocated s.mem r.2.2.pages.mem ∧ r.2.2.pages.pool.Apart ∧
        ∀ kkm, r.2.1.files ≠ [] → r.2.1.kkm = some kkm →
          (s.setMem r.2.2.pages.mem).HasTables cfg kkm := by
    intro hfiles hpages
    rw [hpages]
    exact ⟨SameOn.refl _ _, h.apart, fun _ hno => absurd hfiles hno⟩
  cases hzalloc : a.kzalloc with
  | false =>
      refine hnone ?_ ?_ <;>
        simp [r, kkmCreateKontainer, hzalloc, KontainerState.absent]
  | true =>
      cases hfd : a.getfd with
      | false =>
          refine hnone ?_ ?_ <;>
            simp [r, kkmCreateKontainer, hzalloc, hfd, KontainerState.absent]
      | true =>
          obtain ⟨fr, kkm, c, hkkm, hfr, htaken, hwindow, -, htables⟩ :=
            kkmCreateKontainer_tables hzalloc hfd (hguard hloaded hzalloc hfd)
          refine ⟨htaken.rest.mono ?_, htaken.apart h.apart, ?_⟩
          · exact fun f hf => htaken.notMem_of_lt (BlockPool.Allocated.lt_next hf)
          · intro kkm' _ hkkm'
            obtain rfl : kkm = kkm' := Option.some.inj (hkkm.symm.trans hkkm')
            refine ⟨fr, c, hfr, htables, ?_⟩
            intro e he
            rw [hwindow] at he
            cases he

theorem tableStep_create
    (h : s.TablesKept cfg) {a : CreateAnswers}
    (hguard : TableGuard cfg s (.life (.create a))) :
    ∃ s', moduleStep cfg s (.create a) = .ok s' ∧ SameOn s.allocated s.mem s'.mem ∧
      s'.TablesKept cfg := by
  have htracked := moduleStep_tracked cfg s (.create a) h.tracked hguard.pml4sBuilt
  cases hloaded : s.loaded with
  | false =>
      refine ⟨s, ?_, SameOn.refl _ _, h⟩
      simp only [moduleStep, hloaded, if_true]
  | true =>
      simp only [moduleStep, hloaded, Bool.true_eq_false, if_false, lifecycleStep,
        Except.map] at htracked ⊢
      obtain ⟨hsame, hapart, hguest⟩ := kkmCreateKontainer_hasTables h hloaded hguard
      exact ⟨_, rfl, hsame, h.replace htracked hapart hsame (fun _ => hloaded) hguest⟩

theorem tableStep_close
    (h : s.TablesKept cfg) (q fd : Nat) :
    ∃ s', moduleStep cfg s (.close q fd) = .ok s' ∧ SameOn s.allocated s.mem s'.mem ∧
      s'.TablesKept cfg := by
  have htracked := moduleStep_tracked cfg s (.close q fd) h.tracked trivial
  rcases moduleStep_close_cases cfg h.tracked q fd with hskip | ⟨k, g, hstep, hfiles, hmem, hlive⟩
  · exact ⟨s, hskip, SameOn.refl _ _, h⟩
  · rw [hstep] at htracked
    have hsame : SameOn s.allocated s.mem g.pages.mem := by
      rw [hmem]
      exact SameOn.refl _ _
    refine ⟨_, hstep, hsame, ?_⟩
    exact h.replace htracked (h.apart.mono hlive) hsame (fun hno => absurd hfiles hno)
      fun _ hno => absurd hfiles hno

theorem ModuleState.Tracked.files_of_not_inUse
    (h : s.Tracked) (huse : s.inUse = false) (q : Nat) :
    (s.world.kontainers q).files = [] := by
  by_cases hq : q < s.world.created
  · simp only [ModuleState.inUse, List.any_eq_false, List.mem_range] at huse
    simpa using huse q hq
  · rw [h.absent q (Nat.not_lt.mp hq)]
    rfl

theorem kkmExit_pages (s : ModuleState) :
    (kkmExit s).mem = s.mem ∧ (kkmExit s).pool.live ⊆ s.pool.live := by
  have hfree : ∀ (page : Option Nat) (va : Nat) (p : PageState),
      (if page ≠ none then kkmMmFreePage va p else p).mem = p.mem ∧
        (if page ≠ none then kkmMmFreePage va p else p).pool.live ⊆ p.pool.live := by
    intro page va p
    split
    · exact ⟨rfl, Finset.erase_subset _ _⟩
    · exact ⟨rfl, Finset.Subset.refl _⟩
  have hidt : kkmIdtAllocationPages ≠ 0 := by decide
  simp only [kkmExit, ModuleState.mem, ModuleState.pool, kkmIdtCleanup, kkmMmuCleanup,
    kkmCleanupPml4]
  constructor
  · simp only [hfree, kkmMmFreePages, if_neg hidt]
  · refine ((hfree _ _ _).2.trans (hfree _ _ _).2).trans ((hfree _ _ _).2.trans ?_)
    exact kkmMmFreePages_live_subset _ _ _

/-- The module goes only when no file is installed. -/
theorem tableStep_exit
    (h : s.TablesKept cfg) :
    ∃ s', moduleStep cfg s .exit = .ok s' ∧ SameOn s.allocated s.mem s'.mem ∧
      s'.TablesKept cfg := by
  have htracked := moduleStep_tracked cfg s .exit h.tracked trivial
  cases hloaded : s.loaded with
  | false =>
      refine ⟨s, ?_, SameOn.refl _ _, h⟩
      simp only [moduleStep, hloaded, if_true]
  | true =>
      simp only [moduleStep, hloaded, Bool.true_eq_false, if_false] at htracked ⊢
      cases huse : s.inUse with
      | true =>
          simp only [if_true]
          exact ⟨s, rfl, SameOn.refl _ _, h⟩
      | false =>
          simp only [huse, Bool.false_eq_true, if_false] at htracked ⊢
          obtain ⟨hmem, hlive⟩ := kkmExit_pages s
          have hnil := h.tracked.files_of_not_inUse huse
          refine ⟨_, rfl, ?_, htracked, h.apart.mono hlive, ?_, ?_, ?_, ?_, ?_⟩
          · rw [hmem]
            exact SameOn.refl _ _
          · exact fun q hno => absurd (hnil q) hno
          · intro hgone
            cases hgone
          · intro hgone
            cases hgone
          · intro hgone
            cases hgone
          · exact fun q kkm hno => absurd (hnil q) hno

end Life

/-! ## Every step -/

/-- Of the frames that are the module's before the step, those it may write. -/
def TableEvent.written (s : ModuleState) : TableEvent → Set Nat
  | .life _ => ∅
  | .memory q _ _ => s.kontainerFrames q
  | .fault q _ _ _ _ => s.kontainerFrames q
  | .area _ _ => s.framesOf (.kx .pt)
  | .outside _ => ∅

section Step

variable {cfg : KkmConfig} {s : ModuleState}

/-- A guest area goes into the page table of the kx hierarchy. -/
theorem ModuleState.TablesKept.areaStep
    (h : s.TablesKept cfg) (hloaded : s.loaded = true) {call : GuestAreaCall}
    (hcpu : call.cpu < kxMapCpus) :
    SameOn (s.allocated \ s.framesOf (.kx .pt)) s.mem (areaStep s.kx s.mem call) ∧
      (s.setMem (areaStep s.kx s.mem call)).TablesKept cfg := by
  obtain ⟨f, g, k, hkx⟩ := h.kxFrames hloaded
  obtain ⟨-, -, hk⟩ := framesOf_kx hloaded hkx
  have hidx := (guestAreaIndex_lt_iff call.cpu).2 hcpu
  have hnot : k ∉ s.allocated \ s.framesOf (.kx .pt) := fun hno => hno.2 hk
  have hva : s.kx.pt.va = k * pageSize := by
    rw [hkx]
    rfl
  have hsame : SameOn (s.allocated \ s.framesOf (.kx .pt)) s.mem
      (Driver.areaStep s.kx s.mem call) := by
    rw [areaStep_eq, hva]
    exact (((sameOn_setEntry hnot (hidx 0) _).trans (sameOn_setEntry hnot (hidx 1) _)).trans
      (sameOn_setEntry hnot (hidx 2) _)).trans (sameOn_setEntry hnot (hidx 3) _)
  refine ⟨hsame, h.setMem (fun _ => ⟨?_, (h.kxMap hloaded).areaStep call⟩) ?_⟩
  · rw [areaStep_eq]
    exact ((((h.kxChain hloaded).setPte (hidx 0) _).setPte (hidx 1) _).setPte
      (hidx 2) _).setPte (hidx 3) _
  · intro q kkm hfiles hkkm
    refine h.hasTables_of_sameOn hsame hfiles hkkm fun page f' hf' hf => ?_
    cases h.place_unique hf hf'

/-- A guarded step succeeds, writes only what it may, and keeps the tables. -/
theorem tableStep_kept
    (h : s.TablesKept cfg) {e : TableEvent} (hguard : TableGuard cfg s e) :
    ∃ s', tableStep cfg s e = .ok s' ∧ SameOn (s.allocated \ e.written s) s.mem s'.mem ∧
      s'.TablesKept cfg := by
  have hwhole : ∀ {m : Memory} {frames : Set Nat}, SameOn s.allocated s.mem m →
      SameOn (s.allocated \ frames) s.mem m := fun hsame => hsame.mono Set.sdiff_subset
  cases e with
  | life e =>
      cases e with
      | create a =>
          obtain ⟨s', hs, hsame, hkept⟩ := tableStep_create h hguard
          exact ⟨s', hs, hwhole hsame, hkept⟩
      | close q fd =>
          obtain ⟨s', hs, hsame, hkept⟩ := tableStep_close h q fd
          exact ⟨s', hs, hwhole hsame, hkept⟩
      | exit =>
          obtain ⟨s', hs, hsame, hkept⟩ := tableStep_exit h
          exact ⟨s', hs, hwhole hsame, hkept⟩
  | memory q nativePgd arg =>
      simp only [tableStep]
      split
      · rename_i hreach
        have hfiles := KontainerState.files_of_reachable hreach
        obtain ⟨kkm, hkkm⟩ := Option.ne_none_iff_exists'.mp
          ((h.tracked.files q).alive hfiles)
        obtain ⟨ret, kkm', m, hcall, hpages, hm⟩ :=
          kkmSetKontainerMemory_samePages cfg nativePgd kkm s.mem hguard
        simp only [hkkm, hcall, Except.map]
        refine ⟨_, rfl, ?_⟩
        rcases hm with rfl | rfl
        · have hsame := SameOn.refl (s.allocated \ s.kontainerFrames q) s.mem
          exact ⟨hsame, h.setKkm hfiles hkkm hpages hsame (h.guests q kkm hfiles hkkm)⟩
        · obtain ⟨hsame, htables⟩ := h.sync hfiles hkkm nativePgd
          exact ⟨hsame, h.setKkm hfiles hkkm hpages hsame htables⟩
      · exact ⟨s, rfl, SameOn.refl _ _, h⟩
  | fault q nativePgd kontext read write =>
      simp only [tableStep]
      split
      · rename_i hreach
        have hfiles := KontainerState.files_of_reachable hreach
        obtain ⟨kkm, hkkm⟩ := Option.ne_none_iff_exists'.mp
          ((h.tracked.files q).alive hfiles)
        simp only [hkkm]
        obtain ⟨hsame, htables⟩ := h.fault hfiles hkkm nativePgd kontext hguard.1 hguard.2
        exact ⟨_, rfl, hsame, h.setKkm hfiles hkkm ⟨rfl, rfl, rfl, rfl, rfl, rfl⟩ hsame
          htables⟩
      · exact ⟨s, rfl, SameOn.refl _ _, h⟩
  | area q call =>
      simp only [tableStep]
      split
      · rename_i hreach
        have hloaded := h.loaded q (KontainerState.files_of_reachable hreach)
        obtain ⟨hsame, hkept⟩ := h.areaStep hloaded hguard
        exact ⟨_, rfl, hsame, hkept⟩
      · exact ⟨s, rfl, SameOn.refl _ _, h⟩
  | outside m => exact ⟨_, rfl, hwhole hguard, h.outside hguard⟩

end Step

/-! ## From the load on -/

/-- The module once `kkm_mmu_set_kx_global_info` has filled in the four global
pages. -/
def ModuleState.withGlobals (s : ModuleState) (page : Fin 4 → PhysPage) : ModuleState :=
  s.setMem (kkmMmuSetKxGlobalInfo s.kx (page 0) (page 1) (page 2) (page 3) s.mem)

/-- `kkm_init` leaves the tables of the module in order. -/
theorem kkmInit_tablesKept
    (cfg : KkmConfig) {a : InitAnswers} {reserved nextFd : Nat} {objectId : BitVec 64}
    {mem : Memory} (page : Fin 4 → PhysPage)
    (hinit : (kkmInit a ⟨⟨.empty reserved, mem⟩, nextFd, objectId⟩).1 = 0)
    (hlow : (kkmInit a ⟨⟨.empty reserved, mem⟩, nextFd, objectId⟩).2.pool.next * pageSize ≤
      2 ^ 48) :
    ((kkmInit a ⟨⟨.empty reserved, mem⟩, nextFd, objectId⟩).2.withGlobals page).TablesKept
      cfg := by
  have htracked := kkmInit_tracked hinit
  obtain ⟨pud, pmd, pt, idt, rfl⟩ := kkmInit_answers hinit
  have hcount : kkmIdtAllocationPages ≠ 0 := by decide
  have horder : orderBase2 kkmIdtAllocationPages = 2 := by decide
  obtain ⟨guest, s1, hok⟩ : ∃ guest s1, kkmCreatePml4 .kkmMmuKx .zeroed kkmPrivateStartVa
      ⟨some pud, some pmd, some pt⟩ ⟨.empty reserved, mem⟩ = (0, guest, s1) := by
    rw [kkmCreatePml4_some]
    exact ⟨_, _, rfl⟩
  have hstate : (kkmInit ⟨⟨some pud, some pmd, some pt⟩, some idt⟩
      ⟨⟨.empty reserved, mem⟩, nextFd, objectId⟩).2 =
      ⟨guest, .ofFrame (s1.pool.next + idt), true,
        .start ⟨⟨s1.pool.take idt 2, zeroBlock (s1.pool.offer idt 2) s1.mem⟩, nextFd,
          1#64⟩⟩ := by
    simp only [kkmInit, kkmMmuInit, hok, kkmIdtInit, kkmMmAllocatePages_some _ hcount, horder,
      ne_eq, not_true_eq_false, if_false]
    rfl
  rw [hstate] at hlow htracked ⊢
  -- the descriptor table takes the pages above the hierarchy
  obtain ⟨f, g, h, rfl, htaken, hnext, hzero⟩ := kkmCreatePml4_taken hok
  have hlowPml4 : s1.pool.next * pageSize ≤ 2 ^ 48 := by
    refine le_trans (Nat.mul_le_mul_right pageSize ?_) hlow
    exact (pagesTaken_alloc s1 idt 2).next
  have hchain := kkmCreatePml4_chain (by decide) (by decide) hok hlowPml4
  have hidt := pagesTaken_alloc s1 idt 2
  have hbelow : ∀ x, x ∈ [f, g, h] → ∀ idx < 512,
      Memory.entry (zeroBlock (s1.pool.offer idt 2) s1.mem) (x * pageSize) idx =
        s1.mem.entry (x * pageSize) idx :=
    fun x hx => hidt.rest x (hidt.notMem_of_lt (htaken.fresh x hx).2)
  have hchain' : TableChain (pml4OfFrames f g h)
      (zeroBlock (s1.pool.offer idt 2) s1.mem) :=
    hchain.congr (hbelow f (by simp)) (hbelow g (by simp))
  refine ⟨⟨htracked.owns, htracked.kx, htracked.idt, htracked.files, htracked.absent⟩,
    ?_, ?_, ?_, ?_, ?_, ?_⟩
  · exact (hidt.apart (htaken.apart (BlockPool.apart_empty reserved)))
  · exact fun q hno => absurd rfl hno
  · exact fun _ => ⟨f, g, h, rfl⟩
  · exact fun _ => (((hchain'.setPte (by decide) _).setPte (by decide) _).setPte
      (by decide) _).setPte (by decide) _
  · refine fun _ => followsKxMap_setKxGlobalInfo (fun idx hidx => ?_) page
    exact (hbelow h (by simp) idx hidx).trans (hzero idx hidx)
  · exact fun q kkm hno => absurd rfl hno

end Driver
end KkmModule
