import KkmModule.Driver.GuestTlb

/-!
# Whose translations a processor holds at an entry

Two processors share nothing but the kontexts' records of where they ran last,
so the invariant speaks about one processor at a time.  Between entries its
entries were made for the kontainer with the last id, unless no kontext is
recorded there; from the test on they were made for the kontainer that is being
entered.
-/

namespace KkmModule
namespace Driver

open Foundation

/-! ## The records -/

/-- What the records of kontainers and kontexts always satisfy. -/
structure TlbRecords (s : TlbState) : Prop where
  kontainer_lt : ∀ k K, s.kontainers k = some K → k < s.kontainerCount
  id_le : ∀ k K, s.kontainers k = some K →
    K.kkm.id.toNat ≤ s.kkmObjectId.toNat
  id_injective : ∀ k K k' K', s.kontainers k = some K →
    s.kontainers k' = some K' → K.kkm.id = K'.kkm.id → k = k'
  kontext_lt : ∀ x X, s.kontexts x = some X → x < s.kontextCount
  kontainer_of_kontext : ∀ x X, s.kontexts x = some X →
    ∃ K, s.kontainers X.kontainer = some K

/-- The next number of `kkm_object_id` is a new one. -/
def IdsDoNotWrap (s : TlbState) : TlbEvent → Prop
  | .createKontainer _ _ => s.kkmObjectId.toNat + 1 < 2 ^ 64
  | .addKontext _ => s.kkmObjectId.toNat + 1 < 2 ^ 64
  | _ => True

instance : ∀ (s : TlbState) (e : TlbEvent), Decidable (IdsDoNotWrap s e) := by
  intro s e
  cases e <;> simp only [IdsDoNotWrap] <;> infer_instance

/-- Records only grow: a kontainer keeps its id and a kontext its kontainer. -/
structure RecordsGrow (s s' : TlbState) : Prop where
  kontainers : ∀ k K, s.kontainers k = some K →
    ∃ K', s'.kontainers k = some K' ∧ K'.kkm.id = K.kkm.id
  kontexts : ∀ x X, s.kontexts x = some X →
    ∃ X', s'.kontexts x = some X' ∧ X'.kontainer = X.kontainer

/-- No record appears: those of `s'` are the ones of `s`, with their ids and
kontainers. -/
structure RecordsStay (s s' : TlbState) : Prop where
  kontainers : ∀ k K', s'.kontainers k = some K' →
    ∃ K, s.kontainers k = some K ∧ K'.kkm.id = K.kkm.id
  kontexts : ∀ x X', s'.kontexts x = some X' →
    ∃ X, s.kontexts x = some X ∧ X'.kontainer = X.kontainer

theorem RecordsGrow.of_eq
    {s s' : TlbState}
    (hk : s'.kontainers = s.kontainers) (hx : s'.kontexts = s.kontexts) :
    RecordsGrow s s' where
  kontainers k K h := ⟨K, by rw [hk]; exact h, rfl⟩
  kontexts x X h := ⟨X, by rw [hx]; exact h, rfl⟩

theorem RecordsStay.of_eq
    {s s' : TlbState}
    (hk : s'.kontainers = s.kontainers) (hx : s'.kontexts = s.kontexts) :
    RecordsStay s s' where
  kontainers k K h := ⟨K, by rw [← hk]; exact h, rfl⟩
  kontexts x X h := ⟨X, by rw [← hx]; exact h, rfl⟩

theorem TlbRecords.of_stay
    {s s' : TlbState} (h : TlbRecords s)
    (hid : s'.kkmObjectId = s.kkmObjectId)
    (hkc : s'.kontainerCount = s.kontainerCount)
    (hxc : s'.kontextCount = s.kontextCount)
    (hstay : RecordsStay s s') (hgrow : RecordsGrow s s') :
    TlbRecords s' where
  kontainer_lt k K' hK' := by
    obtain ⟨K, hK, -⟩ := hstay.kontainers k K' hK'
    rw [hkc]
    exact h.kontainer_lt k K hK
  id_le k K' hK' := by
    obtain ⟨K, hK, hidK⟩ := hstay.kontainers k K' hK'
    rw [hid, hidK]
    exact h.id_le k K hK
  id_injective k₁ K₁' k₂ K₂' h₁ h₂ heq := by
    obtain ⟨K₁, hK₁, hid₁⟩ := hstay.kontainers k₁ K₁' h₁
    obtain ⟨K₂, hK₂, hid₂⟩ := hstay.kontainers k₂ K₂' h₂
    rw [hid₁, hid₂] at heq
    exact h.id_injective k₁ K₁ k₂ K₂ hK₁ hK₂ heq
  kontext_lt x X' hX' := by
    obtain ⟨X, hX, -⟩ := hstay.kontexts x X' hX'
    rw [hxc]
    exact h.kontext_lt x X hX
  kontainer_of_kontext x X' hX' := by
    obtain ⟨X, hX, hkX⟩ := hstay.kontexts x X' hX'
    obtain ⟨K, hK⟩ := h.kontainer_of_kontext x X hX
    obtain ⟨K', hK', -⟩ := hgrow.kontainers _ K hK
    rw [hkX]
    exact ⟨K', hK'⟩

section RecordChange

variable {α : Type} {f : Nat → Option α} {g : α → α} {i j : Nat}

/-- One record is changed by `g`: what was there still is, changed or not. -/
theorem exists_of_changeRecord {a : α} (h : f j = some a) :
    ∃ b, Function.update f i ((f i).map g) j = some b ∧ (b = g a ∨ b = a) := by
  by_cases hji : j = i
  · subst hji
    exact ⟨g a, by simp [h], .inl rfl⟩
  · exact ⟨a, by simp [hji, h], .inr rfl⟩

theorem exists_before_changeRecord {b : α}
    (h : Function.update f i ((f i).map g) j = some b) :
    ∃ a, f j = some a ∧ (b = g a ∨ b = a) := by
  by_cases hji : j = i
  · subst hji
    obtain ⟨a, ha, rfl⟩ := Option.map_eq_some_iff.mp (by simpa using h)
    exact ⟨a, ha, .inl rfl⟩
  · exact ⟨b, by simpa [hji] using h, .inr rfl⟩

end RecordChange

/-- The event may change the records of kontainers and kontexts. -/
def ChangesRecords : TlbEvent → Prop
  | .createKontainer _ _ => True
  | .destroyKontainer _ => True
  | .addKontext _ => True
  | .releaseKontext _ => True
  | .setGaCpu _ => True
  | _ => False

/-- Any other event leaves the records alone. -/
theorem tlbStep_records
    (cfg : KkmConfig) (s : TlbState) {e : TlbEvent} (h : ¬ ChangesRecords e) :
    (tlbStep cfg s e).kkmObjectId = s.kkmObjectId ∧
      (tlbStep cfg s e).kontainerCount = s.kontainerCount ∧
      (tlbStep cfg s e).kontextCount = s.kontextCount ∧
      (tlbStep cfg s e).kontainers = s.kontainers ∧
      (tlbStep cfg s e).kontexts = s.kontexts := by
  cases e with
  | createKontainer => exact absurd trivial h
  | destroyKontainer => exact absurd trivial h
  | addKontext => exact absurd trivial h
  | releaseKontext => exact absurd trivial h
  | setGaCpu => exact absurd trivial h
  | setLazyFlushTlb => exact ⟨rfl, rfl, rfl, rfl, rfl⟩
  | nativeWrite => exact ⟨rfl, rfl, rfl, rfl, rfl⟩
  | evict => exact ⟨rfl, rfl, rfl, rfl, rfl⟩
  | nativeFill | enter | setId | switch | fill | exit | leave | updatePrivArea |
    flushOnePage | sync =>
      simp only [tlbStep, TlbState.guestFill]
      repeat' split
      all_goals exact ⟨rfl, rfl, rfl, rfl, rfl⟩

theorem tlbStep_grow
    (cfg : KkmConfig) {s : TlbState} (h : TlbRecords s) (e : TlbEvent) :
    RecordsGrow s (tlbStep cfg s e) := by
  by_cases hc : ChangesRecords e
  · cases e with
    | createKontainer tables nativePgd =>
        refine ⟨?_, fun x X hX => ⟨X, hX, rfl⟩⟩
        intro k K hK
        have hne : k ≠ s.kontainerCount := (h.kontainer_lt k K hK).ne
        exact ⟨K, by simp [tlbStep, hne, hK], rfl⟩
    | destroyKontainer k =>
        refine ⟨?_, fun x X hX => ⟨X, hX, rfl⟩⟩
        intro j K hK
        obtain ⟨K', hK', rfl | rfl⟩ := exists_of_changeRecord
          (g := fun K : TlbKontainer => { K with closed := true }) (i := k) hK
        · exact ⟨_, hK', rfl⟩
        · exact ⟨_, hK', rfl⟩
    | addKontext k =>
        simp only [tlbStep]
        split
        · split
          · exact .of_eq rfl rfl
          · refine ⟨fun j K hK => ⟨K, hK, rfl⟩, ?_⟩
            intro x X hX
            have hne : x ≠ s.kontextCount := (h.kontext_lt x X hX).ne
            exact ⟨X, by simp [hne, hX], rfl⟩
        · exact .of_eq rfl rfl
    | releaseKontext x =>
        refine ⟨fun j K hK => ⟨K, hK, rfl⟩, ?_⟩
        intro j X hX
        obtain ⟨X', hX', rfl | rfl⟩ := exists_of_changeRecord
          (g := fun X : TlbKontext => { X with closed := true }) (i := x) hX
        · exact ⟨_, hX', rfl⟩
        · exact ⟨_, hX', rfl⟩
    | setGaCpu c =>
        simp only [tlbStep]
        split
        · rename_i x _
          refine ⟨fun j K hK => ⟨K, hK, rfl⟩, ?_⟩
          intro j X hX
          obtain ⟨X', hX', rfl | rfl⟩ := exists_of_changeRecord
            (g := fun X : TlbKontext => { X with cpu := cpuNumber c })
            (i := x) hX
          · exact ⟨_, hX', rfl⟩
          · exact ⟨_, hX', rfl⟩
        · exact .of_eq rfl rfl
    | _ => exact absurd hc id
  · obtain ⟨-, -, -, hk, hx⟩ := tlbStep_records cfg s hc
    exact .of_eq hk hx

theorem TlbRecords.createKontainer
    (cfg : KkmConfig) {s : TlbState} (h : TlbRecords s)
    (tables : Kkm) (nativePgd : Nat)
    (hid : s.kkmObjectId.toNat + 1 < 2 ^ 64) :
    TlbRecords (tlbStep cfg s (.createKontainer tables nativePgd)) := by
  have hnext : (s.kkmObjectId + 1).toNat = s.kkmObjectId.toNat + 1 := by
    rw [BitVec.toNat_add]
    exact Nat.mod_eq_of_lt hid
  -- the kontainers afterwards: the new one, and those before
  have hcases : ∀ k K,
      (tlbStep cfg s (.createKontainer tables nativePgd)).kontainers k = some K →
      k = s.kontainerCount ∧ K.kkm.id = s.kkmObjectId + 1 ∨
        s.kontainers k = some K := by
    intro k K hK
    by_cases hk : k = s.kontainerCount
    · left
      refine ⟨hk, ?_⟩
      simp only [tlbStep, hk, Function.update_self, Option.some.injEq] at hK
      rw [← hK]
    · right
      simpa [tlbStep, hk] using hK
  refine ⟨?_, ?_, ?_, h.kontext_lt, ?_⟩
  · intro k K hK
    show k < s.kontainerCount + 1
    rcases hcases k K hK with ⟨hk, -⟩ | hold
    · omega
    · exact Nat.lt_succ_of_lt (h.kontainer_lt k K hold)
  · intro k K hK
    show K.kkm.id.toNat ≤ (s.kkmObjectId + 1).toNat
    rcases hcases k K hK with ⟨-, hidK⟩ | hold
    · rw [hidK]
    · rw [hnext]
      exact Nat.le_succ_of_le (h.id_le k K hold)
  · intro k K k' K' hK hK' heq
    rcases hcases k K hK with ⟨hk, hidK⟩ | hold <;>
      rcases hcases k' K' hK' with ⟨hk', hidK'⟩ | hold'
    · rw [hk, hk']
    · have hle := h.id_le k' K' hold'
      rw [← heq, hidK, hnext] at hle
      omega
    · have hle := h.id_le k K hold
      rw [heq, hidK', hnext] at hle
      omega
    · exact h.id_injective k K k' K' hold hold' heq
  · intro x X hX
    obtain ⟨K, hK⟩ := h.kontainer_of_kontext x X hX
    obtain ⟨K', hK', -⟩ :=
      (tlbStep_grow cfg h (.createKontainer tables nativePgd)).kontainers _ K hK
    exact ⟨K', hK'⟩

theorem TlbRecords.addKontext
    (cfg : KkmConfig) {s : TlbState} (h : TlbRecords s) (k : Nat)
    (hid : s.kkmObjectId.toNat + 1 < 2 ^ 64) :
    TlbRecords (tlbStep cfg s (.addKontext k)) := by
  have hnext : (s.kkmObjectId + 1).toNat = s.kkmObjectId.toNat + 1 := by
    rw [BitVec.toNat_add]
    exact Nat.mod_eq_of_lt hid
  simp only [tlbStep]
  split
  · rename_i K hK
    split
    · exact h
    · refine ⟨h.kontainer_lt, ?_, h.id_injective, ?_, ?_⟩
      · intro j K' hK'
        show K'.kkm.id.toNat ≤ (s.kkmObjectId + 1).toNat
        rw [hnext]
        exact Nat.le_succ_of_le (h.id_le j K' hK')
      · intro x X hX
        show x < s.kontextCount + 1
        by_cases hx : x = s.kontextCount
        · omega
        · exact Nat.lt_succ_of_lt (h.kontext_lt x X (by simpa [hx] using hX))
      · intro x X hX
        by_cases hx : x = s.kontextCount
        · simp only [hx, Function.update_self, Option.some.injEq] at hX
          rw [← hX]
          exact ⟨K, hK⟩
        · exact h.kontainer_of_kontext x X (by simpa [hx] using hX)
  · exact h

theorem tlbStep_tlbRecords
    (cfg : KkmConfig) {s : TlbState} {e : TlbEvent}
    (h : TlbRecords s) (hid : IdsDoNotWrap s e) :
    TlbRecords (tlbStep cfg s e) := by
  have hgrow := tlbStep_grow cfg h e
  by_cases hc : ChangesRecords e
  · cases e with
    | createKontainer tables nativePgd =>
        exact h.createKontainer cfg tables nativePgd hid
    | addKontext k => exact h.addKontext cfg k hid
    | destroyKontainer k =>
        refine h.of_stay rfl rfl rfl ⟨?_, fun x X hX => ⟨X, hX, rfl⟩⟩ hgrow
        intro j K' hK'
        obtain ⟨K, hK, rfl | rfl⟩ := exists_before_changeRecord hK'
        · exact ⟨K, hK, rfl⟩
        · exact ⟨_, hK, rfl⟩
    | releaseKontext x =>
        refine h.of_stay rfl rfl rfl ⟨fun j K hK => ⟨K, hK, rfl⟩, ?_⟩ hgrow
        intro j X' hX'
        obtain ⟨X, hX, rfl | rfl⟩ := exists_before_changeRecord hX'
        · exact ⟨X, hX, rfl⟩
        · exact ⟨_, hX, rfl⟩
    | setGaCpu c =>
        revert hgrow
        simp only [tlbStep]
        split
        · intro hgrow
          refine h.of_stay rfl rfl rfl ⟨fun j K hK => ⟨K, hK, rfl⟩, ?_⟩ hgrow
          intro j X' hX'
          obtain ⟨X, hX, rfl | rfl⟩ := exists_before_changeRecord hX'
          · exact ⟨X, hX, rfl⟩
          · exact ⟨_, hX, rfl⟩
        · exact fun _ => h
    | _ => exact absurd hc id
  · obtain ⟨hid', hkc, hxc, hk, hx⟩ := tlbStep_records cfg s hc
    exact h.of_stay hid' hkc hxc (.of_eq hk hx) hgrow

/-! ## One processor -/

/-- The entries under the two PCIDs were made for kontainer `k`. -/
def MadeFor (s : TlbState) (c : Cpu) (k : Nat) : Prop :=
  ∀ e ∈ (s.cpus c).tlb, KkmTagged e → e.creator = some k

/-- They were made for the kontainer with the last id. -/
def MadeForLastId (s : TlbState) (c : Cpu) : Prop :=
  ∀ e ∈ (s.cpus c).tlb, KkmTagged e → ∃ k K,
    e.creator = some k ∧ s.kontainers k = some K ∧
      K.kkm.id = (s.cpus c).lastId

/-- No kontext is recorded on the processor. -/
def Unvisited (s : TlbState) (c : Cpu) : Prop :=
  ∀ x X, s.kontexts x = some X → X.cpu ≠ cpuNumber c

def CpuTlb (s : TlbState) (c : Cpu) : Prop :=
  match (s.cpus c).point with
  | .native => MadeForLastId s c ∨ Unvisited s c
  | .tested x | .cpuSet x =>
      ∃ X, s.kontexts x = some X ∧ MadeFor s c X.kontainer
  | .ready x | .payload x | .exited x =>
      ∃ X K, s.kontexts x = some X ∧ s.kontainers X.kontainer = some K ∧
        MadeFor s c X.kontainer ∧ (s.cpus c).lastId = K.kkm.id

/-- Every kontext recorded on the processor after a step was recorded there
before. -/
def NoArrival (s s' : TlbState) (c : Cpu) : Prop :=
  ∀ x X', s'.kontexts x = some X' → X'.cpu = cpuNumber c →
    ∃ X, s.kontexts x = some X ∧ X.cpu = cpuNumber c ∧
      X.kontainer = X'.kontainer

theorem NoArrival.refl (s : TlbState) (c : Cpu) : NoArrival s s c :=
  fun _ X' hX' hcpu => ⟨X', hX', hcpu, rfl⟩

theorem NoArrival.unvisited
    {s s' : TlbState} {c : Cpu} (h : NoArrival s s' c)
    (hun : Unvisited s c) : Unvisited s' c := by
  intro x X' hX' hcpu
  obtain ⟨X, hX, hXcpu, -⟩ := h x X' hX' hcpu
  exact hun x X hX hXcpu

/-- A step of someone else: the processor stays where it is and may lose
entries, and no kontext is recorded on it that was not. -/
structure Undisturbed (s s' : TlbState) (c : Cpu) : Prop where
  point : (s'.cpus c).point = (s.cpus c).point
  lastId : (s'.cpus c).lastId = (s.cpus c).lastId
  tlb : ∀ e' ∈ (s'.cpus c).tlb, KkmTagged e' →
    ∃ e ∈ (s.cpus c).tlb, e.tag = e'.tag ∧ e.creator = e'.creator
  recorded : NoArrival s s' c

theorem Undisturbed.madeFor
    {s s' : TlbState} {c : Cpu} (h : Undisturbed s s' c) {k : Nat}
    (hmade : MadeFor s c k) : MadeFor s' c k := by
  intro e' he' htag'
  obtain ⟨e, he, htag, hcreator⟩ := h.tlb e' he' htag'
  rw [← hcreator]
  exact hmade e he (htag'.of_tag_eq htag)

theorem Undisturbed.cpuTlb
    {s s' : TlbState} {c : Cpu} (h : Undisturbed s s' c)
    (hgrow : RecordsGrow s s') (hcpu : CpuTlb s c) : CpuTlb s' c := by
  unfold CpuTlb at hcpu ⊢
  rw [h.point]
  cases hp : (s.cpus c).point with
  | native =>
      rw [hp] at hcpu
      rcases hcpu with hlast | hun
      · left
        intro e' he' htag'
        obtain ⟨e, he, htag, hcreator⟩ := h.tlb e' he' htag'
        obtain ⟨k, K, hk, hK, hid⟩ := hlast e he (htag'.of_tag_eq htag)
        obtain ⟨K', hK', hid'⟩ := hgrow.kontainers k K hK
        exact ⟨k, K', hcreator ▸ hk, hK', by rw [hid', hid, h.lastId]⟩
      · exact .inr (h.recorded.unvisited hun)
  | tested x | cpuSet x =>
      rw [hp] at hcpu
      obtain ⟨X, hX, hmade⟩ := hcpu
      obtain ⟨X', hX', hkX⟩ := hgrow.kontexts x X hX
      exact ⟨X', hX', hkX ▸ h.madeFor hmade⟩
  | ready x | payload x | exited x =>
      rw [hp] at hcpu
      obtain ⟨X, K, hX, hK, hmade, hlast⟩ := hcpu
      obtain ⟨X', hX', hkX⟩ := hgrow.kontexts x X hX
      obtain ⟨K', hK', hid'⟩ := hgrow.kontainers _ K hK
      exact ⟨X', K', hX', hkX ▸ hK', hkX ▸ h.madeFor hmade,
        by rw [h.lastId, hlast, hid']⟩

/-- The processor whose place in `kkm_kontext_switch_kernel`, last id or guest
entries the event is about. -/
def actsOn : TlbEvent → Option Cpu
  | .enter c _ => some c
  | .setGaCpu c => some c
  | .setId c => some c
  | .switch c => some c
  | .fill c _ => some c
  | .exit c => some c
  | .leave c _ => some c
  | _ => none

theorem Undisturbed.of_cpu_eq
    {s s' : TlbState} {c : Cpu}
    (hcpu : s'.cpus c = s.cpus c) (hrec : NoArrival s s' c) :
    Undisturbed s s' c := by
  refine ⟨by rw [hcpu], by rw [hcpu], ?_, hrec⟩
  intro e he htag
  rw [hcpu] at he
  exact ⟨e, he, rfl, rfl⟩

/-- A processor loses entries. -/
theorem Undisturbed.of_fewer
    {s : TlbState} {c d : Cpu} {tlb : List GuestTlbEntry}
    (h : ∀ e ∈ tlb, KkmTagged e → e ∈ (s.cpus c).tlb) :
    Undisturbed s (s.setCpu c { s.cpus c with tlb := tlb }) d := by
  by_cases hd : d = c
  · subst hd
    refine ⟨by simp, by simp, ?_, .refl s d⟩
    intro e he htag
    rw [TlbState.setCpu_self] at he
    exact ⟨e, h e he htag, rfl, rfl⟩
  · exact .of_cpu_eq (s.setCpu_of_ne _ hd) (.refl s d)

theorem Undisturbed.of_changeTables
    (cfg : KkmConfig) (s : TlbState) (k : Nat) (mem : Memory) (c : Cpu) :
    Undisturbed s (s.changeTables cfg k mem) c := by
  refine ⟨rfl, rfl, ?_, .refl s c⟩
  intro e' he' htag'
  obtain ⟨e, he, htag, hcreator⟩ := TlbEntry.mem_markChanged he'
  exact ⟨e, he, htag.symm, hcreator.symm⟩

theorem undisturbed_addKontext
    (cfg : KkmConfig) (s : TlbState) (k : Nat) (d : Cpu) :
    Undisturbed s (tlbStep cfg s (.addKontext k)) d := by
  simp only [tlbStep]
  split
  · split
    · exact .of_cpu_eq rfl (.refl s d)
    · refine .of_cpu_eq rfl ?_
      intro x X hX hcpu
      by_cases hx : x = s.kontextCount
      · simp only [hx, Function.update_self, Option.some.injEq] at hX
        rw [← hX] at hcpu
        exact absurd hcpu (kkmInvalidCpuId_ne_cpuNumber d)
      · exact ⟨X, by simpa [hx] using hX, hcpu, rfl⟩
  · exact .of_cpu_eq rfl (.refl s d)

/-- Native code uses other PCIDs. -/
theorem undisturbed_nativeFill
    (cfg : KkmConfig) (s : TlbState) (c : Cpu) (pcid : BitVec 64) (root page : Nat)
    (d : Cpu) : Undisturbed s (tlbStep cfg s (.nativeFill c pcid root page)) d := by
  simp only [tlbStep]
  split
  · exact .of_cpu_eq rfl (.refl s d)
  · rename_i hpcid
    split
    · refine .of_fewer ?_
      intro e he htag
      rcases List.mem_cons.mp he with rfl | he
      · exact absurd htag (not_kkmTagged_tagOf hpcid)
      · exact he
    · exact .of_cpu_eq rfl (.refl s d)

theorem undisturbed_setGaCpu
    (cfg : KkmConfig) (s : TlbState) {c d : Cpu} (hne : some c ≠ some d) :
    Undisturbed s (tlbStep cfg s (.setGaCpu c)) d := by
  simp only [tlbStep]
  split
  · rename_i x _
    have h : Undisturbed s (s.setCpu c { s.cpus c with point := .cpuSet x }) d :=
      .of_cpu_eq (s.setCpu_of_ne _ fun h => hne (h ▸ rfl)) (.refl s d)
    refine ⟨h.point, h.lastId, h.tlb, ?_⟩
    intro j X' hX' hcpu
    obtain ⟨X, hX, rfl | rfl⟩ := exists_before_changeRecord hX'
    · exact absurd (congrArg some (cpuNumber_injective hcpu)) hne
    · exact ⟨_, hX, hcpu, rfl⟩
  · exact .of_cpu_eq rfl (.refl s d)

/-- Only events about a processor disturb it. -/
theorem tlbStep_undisturbed
    (cfg : KkmConfig) (s : TlbState) {e : TlbEvent} {d : Cpu}
    (hacts : actsOn e ≠ some d) :
    Undisturbed s (tlbStep cfg s e) d := by
  have hrefl : Undisturbed s s d := .of_cpu_eq rfl (.refl s d)
  have hother : ∀ {c : Cpu}, some c ≠ some d → ∀ cpu : CpuState,
      Undisturbed s (s.setCpu c cpu) d := fun hne cpu =>
    .of_cpu_eq (s.setCpu_of_ne cpu fun h => hne (h ▸ rfl)) (.refl s d)
  cases e with
  | createKontainer | destroyKontainer | setLazyFlushTlb | nativeWrite =>
      exact .of_cpu_eq rfl (.refl s d)
  | addKontext k => exact undisturbed_addKontext cfg s k d
  | releaseKontext x =>
      refine .of_cpu_eq rfl ?_
      intro j X' hX' hcpu
      obtain ⟨X, hX, rfl | rfl⟩ := exists_before_changeRecord hX'
      · exact ⟨X, hX, hcpu, rfl⟩
      · exact ⟨_, hX, hcpu, rfl⟩
  | nativeFill c pcid root page => exact undisturbed_nativeFill cfg s c pcid root page d
  | enter c x =>
      simp only [tlbStep]
      split
      · split
        · exact hother hacts _
        · exact hother hacts _
      · exact hrefl
  | setGaCpu c => exact undisturbed_setGaCpu cfg s hacts
  | setId c | switch c | fill c _ | exit c | leave c _ =>
      simp only [tlbStep, TlbState.guestFill]
      repeat' split
      all_goals first
        | exact hrefl
        | exact hother hacts _
  | evict c e =>
      exact .of_fewer fun e he _ => List.mem_of_mem_erase he
  | updatePrivArea c k guestVa monitorVa =>
      simp only [tlbStep]
      split
      · exact .of_changeTables cfg s k _ d
      · exact hrefl
  | flushOnePage c addr =>
      simp only [tlbStep]
      split
      · exact .of_fewer fun e he _ => mem_of_mem_kkmMmuFlushTlbOnePage he
      · exact hrefl
  | sync k =>
      simp only [tlbStep]
      split
      · exact .of_changeTables cfg s k _ d
      · exact hrefl

/-! ## The processor's own steps -/

/-- Where the flush is skipped the kontext ran last on this processor and the
kontainer was the last one there. -/
theorem asksForFlush_false
    {cfg : KkmConfig} (hpcid : cfg.cpuFullTlbFlush = false)
    {s : TlbState} {c : Cpu} {X : TlbKontext} {K : TlbKontainer}
    (h : asksForFlush cfg s c X K = false) :
    X.cpu = cpuNumber c ∧ K.kkm.id = (s.cpus c).lastId := by
  simp only [asksForFlush, hpcid, Bool.not_false, Bool.true_and,
    Bool.or_eq_false_iff, bne_eq_false_iff_eq] at h
  exact ⟨h.1.2.symm, h.2⟩

/-- The entries found by an entry that skips the flush are the kontainer's. -/
theorem CpuTlb.madeFor_of_skip
    {cfg : KkmConfig} (hpcid : cfg.cpuFullTlbFlush = false)
    {s : TlbState} (hrec : TlbRecords s) {c : Cpu} (hcpu : CpuTlb s c)
    (hpoint : (s.cpus c).point = .native)
    {x : Nat} {X : TlbKontext} {K : TlbKontainer}
    (hopen : s.openKontext x = some (X, K))
    (hskip : asksForFlush cfg s c X K = false) :
    MadeFor s c X.kontainer := by
  obtain ⟨hX, hK⟩ := TlbState.openKontext_some hopen
  obtain ⟨hxcpu, hlast⟩ := asksForFlush_false hpcid hskip
  unfold CpuTlb at hcpu
  rw [hpoint] at hcpu
  rcases hcpu with hlastId | hun
  · intro e he htag
    obtain ⟨k, K', hcreator, hK', hid⟩ := hlastId e he htag
    rw [hcreator,
      hrec.id_injective k K' X.kontainer K hK' hK (hid.trans hlast.symm)]
  · exact absurd hxcpu (hun x X hX)

theorem CpuTlb.enter
    {cfg : KkmConfig} (hpcid : cfg.cpuFullTlbFlush = false)
    {s : TlbState} (hrec : TlbRecords s) {c : Cpu} (hcpu : CpuTlb s c)
    (x : Nat) :
    CpuTlb (tlbStep cfg s (.enter c x)) c := by
  simp only [tlbStep]
  split
  · rename_i X K hpoint hopen
    obtain ⟨hX, hK⟩ := TlbState.openKontext_some hopen
    split
    · simp only [CpuTlb, TlbState.setCpu_self]
      refine ⟨X, hX, ?_⟩
      intro e he htag
      simp only [TlbState.setCpu_self] at he
      exact absurd htag (mem_kkmMmuFlushTlb.mp he).2
    · rename_i hskip
      have hmade := hcpu.madeFor_of_skip hpcid hrec hpoint hopen
        (Bool.eq_false_of_not_eq_true hskip)
      simp only [CpuTlb, TlbState.setCpu_self]
      refine ⟨X, hX, ?_⟩
      intro e he htag
      simp only [TlbState.setCpu_self] at he
      exact hmade e he htag
  · exact hcpu

theorem CpuTlb.setGaCpu
    (cfg : KkmConfig) {s : TlbState} {c : Cpu} (hcpu : CpuTlb s c) :
    CpuTlb (tlbStep cfg s (.setGaCpu c)) c := by
  simp only [tlbStep]
  split
  · rename_i x hpoint
    unfold CpuTlb at hcpu
    rw [hpoint] at hcpu
    obtain ⟨X, hX, hmade⟩ := hcpu
    obtain ⟨X', hX', hcase⟩ := exists_of_changeRecord
      (g := fun X : TlbKontext => { X with cpu := cpuNumber c }) (i := x) hX
    have hk : X'.kontainer = X.kontainer := by
      rcases hcase with rfl | rfl <;> rfl
    simp only [CpuTlb, TlbState.setCpu_self]
    refine ⟨X', hX', ?_⟩
    intro e he htag
    simp only [TlbState.setCpu_self] at he
    rw [hk]
    exact hmade e he htag
  · exact hcpu

theorem CpuTlb.setId
    (cfg : KkmConfig) {s : TlbState} {c : Cpu} (hcpu : CpuTlb s c) :
    CpuTlb (tlbStep cfg s (.setId c)) c := by
  simp only [tlbStep]
  split
  · rename_i x hpoint
    split
    · rename_i K hK
      obtain ⟨X, hX, hK⟩ := Option.bind_eq_some_iff.mp hK
      unfold CpuTlb at hcpu
      rw [hpoint] at hcpu
      obtain ⟨X', hX', hmade⟩ := hcpu
      obtain rfl : X = X' := Option.some.inj (hX.symm.trans hX')
      simp only [CpuTlb, TlbState.setCpu_self]
      refine ⟨X, K, hX, hK, ?_, rfl⟩
      intro e he htag
      simp only [TlbState.setCpu_self] at he
      exact hmade e he htag
    · exact hcpu
  · exact hcpu

theorem mem_of_mem_loadGuestCr3
    {s : TlbState} {c : Cpu} {x : Nat} {exited : Bool} {e : GuestTlbEntry}
    (h : e ∈ s.loadGuestCr3 c x exited) : e ∈ (s.cpus c).tlb := by
  unfold TlbState.loadGuestCr3 at h
  split at h
  · exact mem_of_mem_loadCr3 h
  · exact h

theorem CpuTlb.switch
    (cfg : KkmConfig) {s : TlbState} {c : Cpu} (hcpu : CpuTlb s c) :
    CpuTlb (tlbStep cfg s (.switch c)) c := by
  simp only [tlbStep]
  split
  · rename_i x hpoint
    unfold CpuTlb at hcpu
    rw [hpoint] at hcpu
    obtain ⟨X, K, hX, hK, hmade, hlast⟩ := hcpu
    simp only [CpuTlb, TlbState.setCpu_self]
    refine ⟨X, K, hX, hK, ?_, hlast⟩
    intro e he htag
    simp only [TlbState.setCpu_self] at he
    exact hmade e (mem_of_mem_loadGuestCr3 he) htag
  · exact hcpu

/-- What is cached under a guest `CR3` is made for the kontainer. -/
theorem CpuTlb.guestFill
    (cfg : KkmConfig) {s : TlbState} {c : Cpu} (hcpu : CpuTlb s c) {x : Nat}
    (exited : Bool)
    (hpoint : (s.cpus c).point = if exited then .exited x else .payload x)
    (page : Nat) :
    CpuTlb (s.guestFill cfg c x exited page) c := by
  have hinv : ∃ X K, s.kontexts x = some X ∧ s.kontainers X.kontainer = some K ∧
      MadeFor s c X.kontainer ∧ (s.cpus c).lastId = K.kkm.id := by
    cases exited <;>
      simpa [CpuTlb, hpoint] using hcpu
  obtain ⟨X, K, hX, hK, hmade, hlast⟩ := hinv
  have hfill : ∀ {pcid : BitVec 64} {root : Nat}, ∀ e ∈ TlbEntry.fill s.mem
      (topLevel cfg) pcid root page X.kontainer (s.cpus c).tlb, KkmTagged e →
      e.creator = some X.kontainer := by
    intro pcid root e he htag
    rcases TlbEntry.mem_fill he with he | ⟨hcreator, -⟩
    · exact hmade e he htag
    · exact hcreator
  simp only [TlbState.guestFill, hX, hK]
  cases exited <;>
    simp only [CpuTlb, MadeFor, TlbState.setCpu_self, hpoint] <;>
    exact ⟨X, K, hX, hK, hfill, hlast⟩

theorem CpuTlb.fill
    (cfg : KkmConfig) {s : TlbState} {c : Cpu} (hcpu : CpuTlb s c) (page : Nat) :
    CpuTlb (tlbStep cfg s (.fill c page)) c := by
  simp only [tlbStep]
  split
  · rename_i hpoint
    exact hcpu.guestFill cfg false hpoint page
  · rename_i hpoint
    exact hcpu.guestFill cfg true hpoint page
  · exact hcpu

theorem CpuTlb.exit
    (cfg : KkmConfig) {s : TlbState} {c : Cpu} (hcpu : CpuTlb s c) :
    CpuTlb (tlbStep cfg s (.exit c)) c := by
  simp only [tlbStep]
  split
  · rename_i x hpoint
    unfold CpuTlb at hcpu
    rw [hpoint] at hcpu
    obtain ⟨X, K, hX, hK, hmade, hlast⟩ := hcpu
    simp only [CpuTlb, TlbState.setCpu_self]
    refine ⟨X, K, hX, hK, ?_, hlast⟩
    intro e he htag
    simp only [TlbState.setCpu_self] at he
    exact hmade e (mem_of_mem_loadGuestCr3 he) htag
  · exact hcpu

theorem CpuTlb.leave
    (cfg : KkmConfig) {s : TlbState} {c : Cpu} (hcpu : CpuTlb s c)
    (nativeCr3 : BitVec 64) :
    CpuTlb (tlbStep cfg s (.leave c nativeCr3)) c := by
  simp only [tlbStep]
  split
  · rename_i x hpoint
    unfold CpuTlb at hcpu
    rw [hpoint] at hcpu
    obtain ⟨X, K, hX, hK, hmade, hlast⟩ := hcpu
    simp only [CpuTlb, TlbState.setCpu_self]
    left
    intro e he htag
    simp only [TlbState.setCpu_self] at he ⊢
    exact ⟨X.kontainer, K, hmade e (mem_of_mem_loadCr3 he) htag, hK, hlast.symm⟩
  · exact hcpu

/-! ## The invariant over runs -/

structure TlbInv (s : TlbState) : Prop where
  records : TlbRecords s
  cpus : ∀ c, CpuTlb s c

theorem TlbInv.loaded (mem : Memory) (tlb : Cpu → List GuestTlbEntry) :
    TlbInv (.loaded mem tlb) where
  records := by
    constructor <;> simp [TlbState.loaded]
  cpus c := by
    show MadeForLastId _ c ∨ Unvisited _ c
    right
    intro x X hX
    simp [TlbState.loaded] at hX

theorem TlbInv.step
    {cfg : KkmConfig} (hpcid : cfg.cpuFullTlbFlush = false)
    (s : TlbState) (e : TlbEvent) (h : TlbInv s) (hid : IdsDoNotWrap s e) :
    TlbInv (tlbStep cfg s e) where
  records := tlbStep_tlbRecords cfg h.records hid
  cpus d := by
    by_cases hacts : actsOn e = some d
    · have hd := h.cpus d
      cases e with
      | enter c x =>
          obtain rfl := Option.some.inj hacts
          exact hd.enter hpcid h.records x
      | setGaCpu c =>
          obtain rfl := Option.some.inj hacts
          exact hd.setGaCpu cfg
      | setId c =>
          obtain rfl := Option.some.inj hacts
          exact hd.setId cfg
      | switch c =>
          obtain rfl := Option.some.inj hacts
          exact hd.switch cfg
      | fill c page =>
          obtain rfl := Option.some.inj hacts
          exact hd.fill cfg page
      | exit c =>
          obtain rfl := Option.some.inj hacts
          exact hd.exit cfg
      | leave c nativeCr3 =>
          obtain rfl := Option.some.inj hacts
          exact hd.leave cfg nativeCr3
      | _ => cases hacts
    · exact (tlbStep_undisturbed cfg s hacts).cpuTlb
        (tlbStep_grow cfg h.records e) (h.cpus d)

/-- A processor that switches to a payload, or has a guest `CR3` loaded, holds no
entry under the two PCIDs that was made for another kontainer. -/
def PayloadIsAlone (s : TlbState) : Prop :=
  ∀ c x X, (s.cpus c).point = .ready x ∨ (s.cpus c).point = .payload x ∨
      (s.cpus c).point = .exited x →
    s.kontexts x = some X → MadeFor s c X.kontainer

theorem TlbInv.payloadIsAlone {s : TlbState} (h : TlbInv s) :
    PayloadIsAlone s := by
  intro c x X hpoint hX
  have hc := h.cpus c
  unfold CpuTlb at hc
  rcases hpoint with hp | hp | hp <;>
    rw [hp] at hc <;>
    obtain ⟨X', K, hX', hK, hmade, -⟩ := hc <;>
    obtain rfl : X = X' := Option.some.inj (hX.symm.trans hX') <;>
    exact hmade

/-- From the load of the module on, however entries, creations, destructions and
writes to `lazy_flush_tlb` are interleaved, a payload only ever meets entries
made while a kontext of its own kontainer was running on that processor. -/
theorem payload_meets_own_entries
    (cfg : KkmConfig) (hpcid : cfg.cpuFullTlbFlush = false)
    (mem : Memory) (tlb : Cpu → List GuestTlbEntry) (es : List TlbEvent)
    (hid : EveryStep (tlbStep cfg) IdsDoNotWrap (.loaded mem tlb) es) :
    EveryState (tlbStep cfg) PayloadIsAlone (.loaded mem tlb) es :=
  (everyState_of_everyStep (TlbInv.step hpcid) (TlbInv.loaded mem tlb) hid).mono
    fun _ h => h.payloadIsAlone

/-- Two kontainers take turns on a processor, in a memory whose every word is an
entry that points to the page at `0x1000`. -/
def takingTurns : List TlbEvent :=
  [.createKontainer .zeroed 0, .createKontainer .zeroed 0,
    .addKontext 0, .addKontext 1] ++
  payloadEntry 0 0 ++ [.fill 0 5, .exit 0, .fill 0 5, .leave 0 0x1000001#64] ++
  payloadEntry 0 1 ++ [.fill 0 5]

theorem payload_meets_own_entries_taking_turns :
    EveryState (tlbStep .stock) PayloadIsAlone
      (.loaded (fun _ => 0x1007#64) fun _ => []) takingTurns :=
  payload_meets_own_entries .stock rfl _ _ takingTurns (by decide +kernel)

end Driver
end KkmModule
