import KkmModule.Driver.GuestReach

/-!
# The pages of a kontainer stay

From the completed creation on, until its file is closed, nothing replaces the pages
of a kontainer: `guestsFollow_tableStep` says where the kontainers of a state come
from, `always_pagesStay` what follows for a run.
-/

namespace KkmModule
namespace Driver

open Foundation

/-! ## Every step -/

def ModuleState.HasGuest (s : ModuleState) (q : Nat) (kkm : Kkm) : Prop :=
  (s.world.kontainers q).files ≠ [] ∧ (s.world.kontainers q).kkm = some kkm

/-- A creation in the state `s` builds this kontainer. -/
def ModuleState.Builds (s : ModuleState) (cfg : KkmConfig) (kkm : Kkm) : Prop :=
  ∃ a, CreatesTables cfg s.kx a s.world.kernel ∧
    (kkmCreateKontainer cfg s.kx a s.world.kernel).2.1.files ≠ [] ∧
    (kkmCreateKontainer cfg s.kx a s.world.kernel).2.1.kkm = some kkm

/-- The kontainers of `s'` are kontainers of `s` with the same pages, apart from the
one that a creation has just completed. -/
structure GuestsFollow (cfg : KkmConfig) (s s' : ModuleState) : Prop where
  created : s.world.created ≤ s'.world.created
  guest : ∀ q kkm', s'.HasGuest q kkm' →
    (q = s.world.created ∧ s.Builds cfg kkm') ∨
      ∃ kkm, s.HasGuest q kkm ∧ SamePages kkm kkm'

section Step

variable {cfg : KkmConfig} {s s' : ModuleState}

theorem SamePages.refl (kkm : Kkm) : SamePages kkm kkm :=
  ⟨rfl, rfl, rfl, rfl, rfl, rfl⟩

theorem SamePages.trans
    {kkm kkm' kkm'' : Kkm} (h : SamePages kkm kkm') (h' : SamePages kkm' kkm'') :
    SamePages kkm kkm'' :=
  ⟨h'.gkPgd.trans h.gkPgd, h'.gpPgd.trans h.gpPgd, h'.gkP4d.trans h.gkP4d,
    h'.gpP4d.trans h.gpP4d, h'.lowP4d.trans h.lowP4d, h'.guest.trans h.guest⟩

theorem GuestsFollow.of_eq
    (hcreated : s.world.created = s'.world.created)
    (hguest : s'.world.kontainers = s.world.kontainers) : GuestsFollow cfg s s' := by
  refine ⟨hcreated.le, ?_⟩
  rintro q kkm ⟨hfiles, hkkm⟩
  rw [hguest] at hfiles hkkm
  exact Or.inr ⟨kkm, ⟨hfiles, hkkm⟩, .refl kkm⟩

/-- A kontainer is replaced. -/
theorem GuestsFollow.set
    {q c : Nat} {k : KontainerState} {g : KernelState} (hc : s.world.created ≤ c)
    (hk : ∀ kkm', k.files ≠ [] → k.kkm = some kkm' →
      (q = s.world.created ∧ s.Builds cfg kkm') ∨
        ∃ kkm, s.HasGuest q kkm ∧ SamePages kkm kkm') :
    GuestsFollow cfg s (s.setWorld { s.world.set q k g with created := c }) := by
  refine ⟨hc, ?_⟩
  rintro r kkm' ⟨hfiles, hkkm⟩
  by_cases hr : r = q
  · subst hr
    refine hk kkm' ?_ ?_
    · simpa [ModuleState.setWorld, World.set] using hfiles
    · simpa [ModuleState.setWorld, World.set] using hkkm
  · have hsame : (s.setWorld { s.world.set q k g with created := c }).world.kontainers
        r = s.world.kontainers r := by
      simp [ModuleState.setWorld, World.set, Function.update_of_ne hr]
    rw [hsame] at hfiles hkkm
    exact Or.inr ⟨kkm', ⟨hfiles, hkkm⟩, .refl kkm'⟩

theorem GuestsFollow.setKkm
    {q : Nat} {kkm kkm' : Kkm} (hkkm : s.HasGuest q kkm) (hpages : SamePages kkm kkm')
    (m : Memory) : GuestsFollow cfg s (s.setKkm q kkm' m) := by
  have hset : GuestsFollow cfg s (s.setWorld { s.world.set q
      { s.world.kontainers q with kkm := some kkm' } s.world.kernel with
      created := s.world.created }) :=
    .set (le_refl _) fun _ _ hsome =>
      Or.inr ⟨kkm, hkkm, Option.some.inj hsome ▸ hpages⟩
  exact ⟨hset.created, hset.guest⟩

/-- An open kontainer that a request reaches. -/
theorem ModuleState.TablesKept.hasGuest
    (h : s.TablesKept cfg) {q : Nat} (hreach : (s.world.kontainers q).reachable = true) :
    ∃ kkm, s.HasGuest q kkm := by
  have hfiles := KontainerState.files_of_reachable hreach
  obtain ⟨kkm, hkkm⟩ := Option.ne_none_iff_exists'.mp ((h.tracked.files q).alive hfiles)
  exact ⟨kkm, hfiles, hkkm⟩

/-- What a creation that leaves an open file behind has got. -/
theorem kkmCreateKontainer_answers
    {kx : KkmMmuPml4e} {a : CreateAnswers} {g : KernelState}
    (hfiles : (kkmCreateKontainer cfg kx a g).2.1.files ≠ []) :
    a.kzalloc = true ∧ a.getfd = true := by
  have hzalloc : a.kzalloc = true := by
    by_contra hno
    rw [Bool.not_eq_true] at hno
    exact hfiles (by simp only [kkmCreateKontainer, hno, if_true]; rfl)
  refine ⟨hzalloc, ?_⟩
  by_contra hno
  rw [Bool.not_eq_true] at hno
  exact hfiles (by simp only [kkmCreateKontainer, hzalloc, hno, if_true]; rfl)

theorem guestsFollow_create
    {a : CreateAnswers} (hguard : TableGuard cfg s (.life (.create a)))
    (hstep : tableStep cfg s (.life (.create a)) = .ok s') : GuestsFollow cfg s s' := by
  simp only [tableStep, moduleStep] at hstep
  split at hstep
  · cases hstep
    exact .of_eq rfl rfl
  · rename_i hloaded
    simp only [lifecycleStep, Except.map, Except.ok.injEq] at hstep
    subst hstep
    refine .set (Nat.le_succ _) fun kkm hfiles hkkm => Or.inl ⟨rfl, ?_⟩
    obtain ⟨hzalloc, hfd⟩ := kkmCreateKontainer_answers hfiles
    have hcreates := hguard (by simpa using hloaded) hzalloc hfd
    exact ⟨a, hcreates, hfiles, hkkm⟩

theorem guestsFollow_life
    (h : s.TablesKept cfg) {e : ModuleEvent} (hguard : TableGuard cfg s (.life e))
    (hstep : tableStep cfg s (.life e) = .ok s') : GuestsFollow cfg s s' := by
  cases e with
  | create a => exact guestsFollow_create hguard hstep
  | close q fd =>
      rcases moduleStep_close_cases cfg h.tracked q fd with
        hskip | ⟨k, g, hclose, hfiles, -, -⟩
      · rw [tableStep, hskip] at hstep
        cases hstep
        exact .of_eq rfl rfl
      · rw [tableStep, hclose] at hstep
        cases hstep
        exact .set (le_refl _) fun kkm hno => absurd hfiles hno
  | exit =>
      simp only [tableStep, moduleStep] at hstep
      split at hstep
      · cases hstep
        exact .of_eq rfl rfl
      · split at hstep
        · cases hstep
          exact .of_eq rfl rfl
        · cases hstep
          exact .of_eq rfl rfl

/-- Nothing moves the pages of a kontainer. -/
theorem guestsFollow_tableStep
    (h : s.TablesKept cfg) {e : TableEvent} (hguard : TableGuard cfg s e)
    (hstep : tableStep cfg s e = .ok s') : GuestsFollow cfg s s' := by
  cases e with
  | life e => exact guestsFollow_life h hguard hstep
  | memory q nativePgd arg =>
      simp only [tableStep] at hstep
      split at hstep
      · rename_i hreach
        obtain ⟨kkm, hguest⟩ := h.hasGuest hreach
        obtain ⟨ret, kkm', m, hcall, hsame, -⟩ :=
          kkmSetKontainerMemory_samePages cfg nativePgd kkm s.mem hguard
        simp only [hguest.2, hcall, Except.map, Except.ok.injEq] at hstep
        subst hstep
        exact .setKkm hguest hsame m
      · cases hstep
        exact .of_eq rfl rfl
  | fault q nativePgd kontext read write =>
      simp only [tableStep] at hstep
      split at hstep
      · rename_i hreach
        obtain ⟨kkm, hguest⟩ := h.hasGuest hreach
        simp only [hguest.2, Except.ok.injEq] at hstep
        subst hstep
        exact .setKkm hguest (.refl kkm) _
      · cases hstep
        exact .of_eq rfl rfl
  | area q call =>
      simp only [tableStep] at hstep
      split at hstep <;> cases hstep <;> exact .of_eq rfl rfl
  | outside m =>
      cases hstep
      exact .of_eq rfl rfl

end Step

/-! ## Every state -/

section Run

variable {cfg : KkmConfig} {q : Nat} {kkm : Kkm} {s s' : ModuleState}

/-- What a step keeps, a guarded run keeps. -/
theorem alwaysFrom_of_step
    {P : ModuleState → Prop} (hP : ∀ t, P t → t.TablesKept cfg)
    (hstep : ∀ {t t' : ModuleState} {e : TableEvent}, P t → TableGuard cfg t e →
      tableStep cfg t e = .ok t' → P t')
    (hs : P s) {es : List TableEvent} (hguard : GuardedFrom cfg s es) :
    AlwaysFrom cfg s P es := by
  refine holds_of_everyStep ?_ hs hguard
  intro t e ht hC
  obtain ⟨t', hok, -, -⟩ := tableStep_kept (hP t ht) hC
  rw [hok]
  exact hstep ht hC hok

theorem ModuleState.TablesKept.step
    (h : s.TablesKept cfg) {e : TableEvent} (hguard : TableGuard cfg s e)
    (hstep : tableStep cfg s e = .ok s') : s'.TablesKept cfg := by
  obtain ⟨t, hok, -, hkept⟩ := tableStep_kept h hguard
  rw [Except.ok.inj (hstep.symm.trans hok)]
  exact hkept

/-- The kontainer `q` keeps the pages of `kkm` until it is gone. -/
structure ModuleState.PagesStay
    (cfg : KkmConfig) (q : Nat) (kkm : Kkm) (s : ModuleState) : Prop where
  tables : s.TablesKept cfg
  known : q < s.world.created
  pages : ∀ kkm', s.HasGuest q kkm' → SamePages kkm kkm'

theorem ModuleState.PagesStay.step
    (h : s.PagesStay cfg q kkm) {e : TableEvent} (hguard : TableGuard cfg s e)
    (hstep : tableStep cfg s e = .ok s') : s'.PagesStay cfg q kkm := by
  have hfollow := guestsFollow_tableStep h.tables hguard hstep
  refine ⟨h.tables.step hguard hstep, lt_of_lt_of_le h.known hfollow.created, ?_⟩
  intro kkm' hguest
  rcases hfollow.guest q kkm' hguest with ⟨hnew, -⟩ | ⟨kkm₁, hold, hsame⟩
  · exact absurd hnew h.known.ne
  · exact (h.pages kkm₁ hold).trans hsame

theorem ModuleState.TablesKept.pagesStay
    (h : s.TablesKept cfg) (hguest : s.HasGuest q kkm) : s.PagesStay cfg q kkm := by
  refine ⟨h, ?_, ?_⟩
  · by_contra hno
    refine hguest.1 ?_
    rw [h.tracked.absent q (not_lt.mp hno)]
    rfl
  · intro kkm' hguest'
    rw [← Option.some.inj (hguest.2.symm.trans hguest'.2)]
    exact .refl kkm

theorem always_pagesStay
    (h : s.TablesKept cfg) (hguest : s.HasGuest q kkm) {es : List TableEvent}
    (hguard : GuardedFrom cfg s es) :
    AlwaysFrom cfg s (ModuleState.PagesStay cfg q kkm) es :=
  alwaysFrom_of_step (fun _ h => h.tables) (fun h => h.step) (h.pagesStay hguest) hguard

end Run

end Driver
end KkmModule
