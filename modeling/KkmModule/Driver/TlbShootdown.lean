import KkmModule.Driver.TlbIsolation

/-!
# Changes of guest tables and what the processors have cached

`kkm_process_page_fault` and `kkm_mmu_sync` change tables that the payloads of
a kontainer use on several processors.  The first flushes one page on the
processor the thread is on at that time, the second flushes nothing, and the
test of `kkm_kontext_switch_kernel` looks at records that neither touches.

What a change leaves behind on other processors is dropped by the next load of
`CR3` there.  Every such load of the switch code uses `GUEST_PAYLOAD_PCID` and
leaves bit 63 clear, at exits as well as at entries, so nothing is ever cached
under `GUEST_KERNEL_PCID`, and whatever has been cached under the other one goes
before the payload starts.
-/

namespace KkmModule
namespace Driver

open Foundation

/-- The load of the payload's `CR3` leaves no translation that the two functions
have replaced. -/
def EntersCurrent (cfg : KkmConfig) (s : TlbState) (event : TlbEvent) : Prop :=
  ∀ c x, event = .switch c → (s.cpus c).point = .ready x →
    ∀ e ∈ ((tlbStep cfg s event).cpus c).tlb, KkmTagged e → e.replaced = false

/-- The tables of a new kontainer are at physical addresses. -/
def TablesArePhysical : TlbEvent → Prop
  | .createKontainer tables _ => tables.gpPgd.pa < 2 ^ 52
  | _ => True

instance : ∀ event, Decidable (TablesArePhysical event)
  | .createKontainer tables _ => Nat.decLt tables.gpPgd.pa (2 ^ 52)
  | .destroyKontainer _ | .addKontext _ | .releaseKontext _ | .setLazyFlushTlb _
  | .nativeWrite _ | .nativeFill _ _ _ _ | .enter _ _ | .setGaCpu _ | .setId _
  | .switch _ | .fill _ _ | .evict _ _ | .exit _ | .leave _ _
  | .updatePrivArea _ _ _ _ | .flushOnePage _ _ | .sync _ => isTrue trivial

/-! ## What the kontexts load -/

/-- A load of the value drops the entries of `GUEST_PAYLOAD_PCID`. -/
structure DropsPayloadPcid (cr3 : BitVec 64) : Prop where
  pcid : cr3Pcid cr3 = guestPayloadPcid
  clear : cr3.getLsbD 63 = false

/-- `kkm_kontext_init` computes such a value. -/
theorem newGuestArea_dropsPayloadPcid
    {cfg : KkmConfig} (hpcid : cfg.cpuFullTlbFlush = false) {kkm : Kkm}
    (hpa : kkm.gpPgd.pa < 2 ^ 52) (guestArea : Nat) :
    DropsPayloadPcid (newGuestArea cfg kkm guestArea).guestPayloadCr3 := by
  have hcr3 : (newGuestArea cfg kkm guestArea).guestPayloadCr3 =
      BitVec.ofNat 64 kkm.gpPgd.pa &&& ~~~pcidMask ||| guestPayloadPcid := by
    simp [newGuestArea, hpcid]
  have hmask : ~~~pcidMask &&& pcidMask = 0#64 := by decide
  have hpayload : guestPayloadPcid &&& pcidMask = guestPayloadPcid := by decide
  refine ⟨?_, ?_⟩
  · rw [hcr3, cr3Pcid, BitVec.and_or_distrib_right, BitVec.and_assoc, hmask,
      hpayload, BitVec.and_zero, BitVec.zero_or]
  · have hbit : (BitVec.ofNat 64 kkm.gpPgd.pa).getLsbD 63 = false := by
      rw [BitVec.getLsbD_ofNat, Nat.testBit_lt_two_pow (lt_trans hpa (by decide))]
      rfl
    have hlow : guestPayloadPcid.getLsbD 63 = false := by decide
    rw [hcr3, BitVec.getLsbD_or, BitVec.getLsbD_and, hbit, hlow]
    rfl

/-- Kontexts load the value of `kkm_kontext_init`. -/
structure LoadsPayloadPcid (s : TlbState) : Prop where
  tables : ∀ k K, s.kontainers k = some K → K.kkm.gpPgd.pa < 2 ^ 52
  kontexts : ∀ x X, s.kontexts x = some X → DropsPayloadPcid X.payloadCr3

theorem LoadsPayloadPcid.step
    {cfg : KkmConfig} (hpcid : cfg.cpuFullTlbFlush = false) {s : TlbState}
    (h : LoadsPayloadPcid s) {event : TlbEvent} (hevent : TablesArePhysical event) :
    LoadsPayloadPcid (tlbStep cfg s event) := by
  by_cases hc : ChangesRecords event
  · cases event with
    | createKontainer tables nativePgd =>
        refine ⟨?_, h.kontexts⟩
        intro k K hK
        by_cases hk : k = s.kontainerCount
        · simp only [tlbStep, hk, Function.update_self, Option.some.injEq] at hK
          rw [← hK]
          exact hevent
        · exact h.tables k K (by simpa [tlbStep, hk] using hK)
    | destroyKontainer k =>
        refine ⟨?_, h.kontexts⟩
        intro j K' hK'
        obtain ⟨K, hK, rfl | rfl⟩ := exists_before_changeRecord hK'
        · exact h.tables j K hK
        · exact h.tables j _ hK
    | addKontext k =>
        simp only [tlbStep]
        split
        · rename_i K hK
          split
          · exact h
          · refine ⟨h.tables, ?_⟩
            intro x X hX
            by_cases hx : x = s.kontextCount
            · simp only [hx, Function.update_self, Option.some.injEq] at hX
              rw [← hX]
              exact newGuestArea_dropsPayloadPcid hpcid (h.tables k K hK) 0
            · exact h.kontexts x X (by simpa [hx] using hX)
        · exact h
    | releaseKontext x =>
        refine ⟨h.tables, ?_⟩
        intro j X' hX'
        obtain ⟨X, hX, rfl | rfl⟩ := exists_before_changeRecord hX'
        · exact h.kontexts j X hX
        · exact h.kontexts j _ hX
    | setGaCpu c =>
        simp only [tlbStep]
        split
        · refine ⟨h.tables, ?_⟩
          intro j X' hX'
          obtain ⟨X, hX, rfl | rfl⟩ := exists_before_changeRecord hX'
          · exact h.kontexts j X hX
          · exact h.kontexts j _ hX
        · exact h
    | _ => exact absurd hc id
  · obtain ⟨-, -, -, hk, hx⟩ := tlbStep_records cfg s hc
    exact ⟨fun k K hK => h.tables k K (hk ▸ hK), fun x X hX => h.kontexts x X (hx ▸ hX)⟩

/-! ## The kontext that is entered -/

def SwitchPoint.kontext : SwitchPoint → Option Nat
  | .native => none
  | .tested x | .cpuSet x | .ready x | .payload x | .exited x => some x

/-- Kontexts keep their records. -/
theorem tlbStep_kontexts_isSome
    (cfg : KkmConfig) {s : TlbState} (event : TlbEvent) {x : Nat}
    (h : (s.kontexts x).isSome) : ((tlbStep cfg s event).kontexts x).isSome := by
  by_cases hc : ChangesRecords event
  · cases event with
    | createKontainer | destroyKontainer => exact h
    | addKontext k =>
        simp only [tlbStep]
        split
        · split
          · exact h
          · by_cases hx : x = s.kontextCount
            · simp [hx]
            · simpa [hx] using h
        · exact h
    | releaseKontext j =>
        obtain ⟨X, hX⟩ := Option.isSome_iff_exists.mp h
        obtain ⟨X', hX', -⟩ := exists_of_changeRecord
          (g := fun X : TlbKontext => { X with closed := true }) (i := j) hX
        exact Option.isSome_iff_exists.mpr ⟨X', hX'⟩
    | setGaCpu c =>
        simp only [tlbStep]
        split
        · rename_i j _
          obtain ⟨X, hX⟩ := Option.isSome_iff_exists.mp h
          obtain ⟨X', hX', -⟩ := exists_of_changeRecord
            (g := fun X : TlbKontext => { X with cpu := cpuNumber c }) (i := j) hX
          exact Option.isSome_iff_exists.mpr ⟨X', hX'⟩
        · exact h
    | _ => exact absurd hc id
  · obtain ⟨-, -, -, -, hx⟩ := tlbStep_records cfg s hc
    rw [hx]
    exact h

/-- A processor is entering kontexts that have a record. -/
def EntersKontext (s : TlbState) (c : Cpu) : Prop :=
  ∀ x, (s.cpus c).point.kontext = some x → (s.kontexts x).isSome

/-- Only the test takes up a kontext, and that is an open one. -/
theorem point_of_own_step
    (cfg : KkmConfig) {s : TlbState} {c : Cpu} {event : TlbEvent}
    (hacts : actsOn event = some c) {x : Nat}
    (h : ((tlbStep cfg s event).cpus c).point.kontext = some x) :
    (s.cpus c).point.kontext = some x ∨ (s.kontexts x).isSome := by
  revert h
  cases event with
  | enter d y =>
      obtain rfl := Option.some.inj hacts
      simp only [tlbStep]
      split
      · rename_i X K hpoint hopen
        have hsome := Option.isSome_iff_exists.mpr
          ⟨X, (TlbState.openKontext_some hopen).1⟩
        intro h
        right
        have hy : y = x := by
          split at h <;>
            simpa [SwitchPoint.kontext] using h
        exact hy ▸ hsome
      · exact .inl
  | setGaCpu d | setId d | switch d | exit d | leave d _ =>
      obtain rfl := Option.some.inj hacts
      simp only [tlbStep]
      repeat' split
      all_goals
        intro h
        left
        simp_all [SwitchPoint.kontext]
  | fill d page =>
      obtain rfl := Option.some.inj hacts
      simp only [tlbStep, TlbState.guestFill]
      repeat' split
      all_goals
        intro h
        left
        simpa using h
  | _ => cases hacts

theorem EntersKontext.step
    (cfg : KkmConfig) {s : TlbState} {c : Cpu} (h : EntersKontext s c)
    (event : TlbEvent) : EntersKontext (tlbStep cfg s event) c := by
  intro x hx
  apply tlbStep_kontexts_isSome cfg event
  by_cases hacts : actsOn event = some c
  · rcases point_of_own_step cfg hacts hx with hpoint | hsome
    · exact h x hpoint
    · exact hsome
  · exact h x ((tlbStep_undisturbed cfg s hacts).point ▸ hx)

/-! ## The guest kernel's PCID -/

/-- Nothing is filed under `GUEST_KERNEL_PCID`. -/
def NoKernelPcid (tlb : List GuestTlbEntry) : Prop :=
  ∀ e ∈ tlb, e.tag ≠ some guestKernelPcid

theorem NoKernelPcid.of_subset
    {tlb tlb' : List GuestTlbEntry} (h : NoKernelPcid tlb)
    (hsub : ∀ e ∈ tlb', e ∈ tlb) : NoKernelPcid tlb' :=
  fun e he => h e (hsub e he)

theorem NoKernelPcid.guestFill
    (cfg : KkmConfig) {s : TlbState} (hloads : LoadsPayloadPcid s) {c : Cpu}
    (h : NoKernelPcid (s.cpus c).tlb) (x : Nat) (exited : Bool) (page : Nat) :
    NoKernelPcid ((s.guestFill cfg c x exited page).cpus c).tlb := by
  unfold TlbState.guestFill
  split
  · rename_i X hX
    split
    · intro e he htag
      simp only [TlbState.setCpu_self] at he
      rcases TlbEntry.mem_fill he with he | ⟨-, hpcid⟩
      · exact h e he htag
      · -- the fill is filed under the PCID of the payload
        have hloaded : cr3Pcid (if exited then exitCr3 X.payloadCr3
            else X.payloadCr3) = guestPayloadPcid := by
          cases exited
          · exact (hloads.kontexts x X hX).pcid
          · exact (cr3Pcid_clear _).trans (hloads.kontexts x X hX).pcid
        exact absurd ((hpcid _ htag).trans hloaded) (by decide)
    · exact h
  · exact h

/-- A processor's own steps file nothing under it. -/
theorem NoKernelPcid.own_step
    (cfg : KkmConfig) {s : TlbState} (hloads : LoadsPayloadPcid s) {c : Cpu}
    (h : NoKernelPcid (s.cpus c).tlb) {event : TlbEvent}
    (hacts : actsOn event = some c) :
    NoKernelPcid ((tlbStep cfg s event).cpus c).tlb := by
  cases event with
  | enter d x =>
      obtain rfl := Option.some.inj hacts
      simp only [tlbStep]
      split
      · split
        · rw [TlbState.setCpu_self]
          exact h.of_subset fun e he => (mem_kkmMmuFlushTlb.mp he).1
        · rw [TlbState.setCpu_self]
          exact h
      · exact h
  | setGaCpu d | setId d =>
      obtain rfl := Option.some.inj hacts
      simp only [tlbStep]
      repeat' split
      all_goals first
        | exact h
        | simpa only [TlbState.setCpu_self] using h
  | switch d | exit d =>
      obtain rfl := Option.some.inj hacts
      simp only [tlbStep]
      split
      · rw [TlbState.setCpu_self]
        exact h.of_subset fun e he => mem_of_mem_loadGuestCr3 he
      · exact h
  | fill d page =>
      obtain rfl := Option.some.inj hacts
      simp only [tlbStep]
      split
      · exact h.guestFill cfg hloads _ false page
      · exact h.guestFill cfg hloads _ true page
      · exact h
  | leave d nativeCr3 =>
      obtain rfl := Option.some.inj hacts
      simp only [tlbStep]
      split
      · rw [TlbState.setCpu_self]
        exact h.of_subset fun e he => mem_of_mem_loadCr3 he
      · exact h
  | _ => cases hacts

/-! ## The invariant -/

/-- Once a kontext has been entered on a processor, nothing is filed there under
`GUEST_KERNEL_PCID`. -/
def KernelPcidUnused (s : TlbState) (c : Cpu) : Prop :=
  (s.cpus c).point = .native ∧ Unvisited s c ∨ NoKernelPcid (s.cpus c).tlb

/-- A processor's own steps other than the test happen outside native code. -/
theorem tlbStep_of_native
    (cfg : KkmConfig) (s : TlbState) {event : TlbEvent} {d : Cpu}
    (hacts : actsOn event = some d) (hne : ∀ x, event ≠ .enter d x)
    (hpoint : (s.cpus d).point = .native) :
    tlbStep cfg s event = s := by
  cases event with
  | enter c x =>
      obtain rfl := Option.some.inj hacts
      exact absurd rfl (hne x)
  | setGaCpu c | setId c | switch c | fill c _ | exit c | leave c _ =>
      obtain rfl := Option.some.inj hacts
      simp [tlbStep, hpoint]
  | _ => cases hacts

/-- The first entry on a processor flushes. -/
theorem kernelPcidUnused_enter
    {cfg : KkmConfig} (hpcid : cfg.cpuFullTlbFlush = false) {s : TlbState} {c : Cpu}
    (hpoint : (s.cpus c).point = .native) (hun : Unvisited s c) (x : Nat) :
    KernelPcidUnused (tlbStep cfg s (.enter c x)) c := by
  simp only [tlbStep, hpoint]
  split
  · rename_i X K _ hopen
    split
    · right
      intro e he htag
      simp only [TlbState.setCpu_self] at he
      exact (mem_kkmMmuFlushTlb.mp he).2 (.inl htag)
    · rename_i hskip
      have hcpu := (asksForFlush_false hpcid (Bool.eq_false_of_not_eq_true hskip)).1
      exact absurd hcpu (hun x X (TlbState.openKontext_some hopen).1)
  · exact .inl ⟨hpoint, hun⟩

theorem KernelPcidUnused.step
    {cfg : KkmConfig} (hpcid : cfg.cpuFullTlbFlush = false) {s : TlbState}
    (hloads : LoadsPayloadPcid s) {c : Cpu} (h : KernelPcidUnused s c)
    (event : TlbEvent) :
    KernelPcidUnused (tlbStep cfg s event) c := by
  by_cases hacts : actsOn event = some c
  · rcases h with ⟨hpoint, hun⟩ | hnone
    · by_cases henter : ∃ x, event = .enter c x
      · obtain ⟨x, rfl⟩ := henter
        exact kernelPcidUnused_enter hpcid hpoint hun x
      · rw [tlbStep_of_native cfg s hacts (fun x hx => henter ⟨x, hx⟩) hpoint]
        exact .inl ⟨hpoint, hun⟩
    · exact .inr (hnone.own_step cfg hloads hacts)
  · have hother := tlbStep_undisturbed cfg s hacts
    rcases h with ⟨hpoint, hun⟩ | hnone
    · exact .inl ⟨hother.point.trans hpoint, hother.recorded.unvisited hun⟩
    · right
      intro e' he' htag'
      obtain ⟨e, he, htag, -⟩ := hother.tlb e' he' (.inl htag')
      exact hnone e he (htag.trans htag')

structure ShootdownInv (s : TlbState) : Prop where
  loads : LoadsPayloadPcid s
  enters : ∀ c, EntersKontext s c
  kernelPcid : ∀ c, KernelPcidUnused s c

theorem ShootdownInv.step
    {cfg : KkmConfig} (hpcid : cfg.cpuFullTlbFlush = false)
    (s : TlbState) (event : TlbEvent) (h : ShootdownInv s)
    (hevent : TablesArePhysical event) :
    ShootdownInv (tlbStep cfg s event) where
  loads := h.loads.step hpcid hevent
  enters c := (h.enters c).step cfg event
  kernelPcid c := (h.kernelPcid c).step hpcid h.loads event

theorem ShootdownInv.loaded (mem : Memory) (tlb : Cpu → List GuestTlbEntry) :
    ShootdownInv (.loaded mem tlb) where
  loads := by
    constructor <;> simp [TlbState.loaded]
  enters c x hx := by cases hx
  kernelPcid c := .inl ⟨rfl, fun x X hX => by simp [TlbState.loaded] at hX⟩

/-! ## The entry -/

/-- The load of the payload's `CR3` leaves nothing under the two PCIDs. -/
theorem ShootdownInv.switch_clears
    (cfg : KkmConfig) {s : TlbState} (h : ShootdownInv s) {c : Cpu} {x : Nat}
    (hpoint : (s.cpus c).point = .ready x) {e : GuestTlbEntry}
    (he : e ∈ ((tlbStep cfg s (.switch c)).cpus c).tlb) : ¬ KkmTagged e := by
  have hkontext : (s.cpus c).point.kontext = some x := by
    rw [hpoint]
    rfl
  obtain ⟨X, hX⟩ := Option.isSome_iff_exists.mp (h.enters c x hkontext)
  have hmem : e ∈ loadCr3 X.payloadCr3 (s.cpus c).tlb := by
    simpa [tlbStep, hpoint, TlbState.loadGuestCr3, hX] using he
  rintro (hkernel | hpayload)
  · rcases h.kernelPcid c with ⟨hnative, -⟩ | hnone
    · rw [hpoint] at hnative
      cases hnative
    · exact hnone e (mem_of_mem_loadCr3 hmem) hkernel
  · have hdrops := h.loads.kontexts x X hX
    exact tag_of_mem_loadCr3 hdrops.clear hmem (hdrops.pcid ▸ hpayload)

/-- From the load of the module on, whatever page faults and `kkm_mmu_sync` do on
other processors, a payload is entered without a translation that they have
replaced. -/
theorem no_replaced_translation_at_entry
    (cfg : KkmConfig) (hpcid : cfg.cpuFullTlbFlush = false)
    (mem : Memory) (tlb : Cpu → List GuestTlbEntry) (es : List TlbEvent)
    (htables : ∀ event ∈ es, TablesArePhysical event) :
    EveryStep (tlbStep cfg) (EntersCurrent cfg) (.loaded mem tlb) es := by
  have hguard : EveryStep (tlbStep cfg) (fun _ event => TablesArePhysical event)
      (.loaded mem tlb) es :=
    .of_forall (fun event hevent _ => htables event hevent) _
  have hinv : EveryState (tlbStep cfg) ShootdownInv (.loaded mem tlb) es :=
    everyState_of_everyStep (ShootdownInv.step hpcid) (.loaded mem tlb) hguard
  refine .of_everyState ?_ hinv hguard
  rintro s _ h - c x rfl hpoint e he htag
  exact absurd htag (h.switch_clears cfg hpoint he)

/-! ## Two processors -/

/-- The two top-level tables are at `0x10000` and lead to the private page table at
`0x13000`; the native one is at `0x20000` and leads to `0x23000`. -/
def sharedTables : Kkm :=
  { Kkm.zeroed with
    gkPgd := ⟨none, 0x10000, 0x10000⟩
    gpPgd := ⟨none, 0x11000, 0x11000⟩
    kkmGuestPml4e := { KkmMmuPml4e.zeroed with pt := ⟨none, 0x13000, 0x13000⟩ } }

/-- The first private page and monitor page 1, with the native entry given. -/
def sharedMem (nativePte : BitVec 64) : Memory := fun a =>
  if a = 0x10008 ∨ a = 0x11008 then 0x14007#64
  else if a = 0x14000 then 0x12007#64
  else if a = 0x12000 then 0x13007#64
  else if a = 0x13000 then 0x50005#64
  else if a = 0x20000 then 0x21007#64
  else if a = 0x21000 then 0x22007#64
  else if a = 0x22000 then 0x23007#64
  else if a = 0x23008 then nativePte
  else 0#64

/-- The first kontext reads a private page on processor 1.  A write fault of the
second one on processor 0 moves the page and flushes there, and the first comes
back to processor 1. -/
def servedElsewhere : List TlbEvent :=
  [.createKontainer sharedTables 0x20000, .addKontext 0, .addKontext 0] ++
  payloadEntry 1 0 ++ [.fill 1 0x8000000, .exit 1, .fill 1 0x8000000,
    .leave 1 0x1000001#64] ++
  payloadEntry 0 1 ++ [.exit 0, .leave 0 0x1000001#64,
    .nativeWrite (sharedMem 0x60007#64),
    .updatePrivArea 0 0 kkmKmGuestPrivateMemStartVa 0x1000,
    .flushOnePage 0 kkmKmGuestPrivateMemStartVa] ++
  payloadEntry 1 0

theorem no_replaced_translation_served_elsewhere :
    EveryStep (tlbStep .stock) (EntersCurrent .stock)
      (.loaded (sharedMem 0x50005#64) fun _ => []) servedElsewhere :=
  no_replaced_translation_at_entry .stock rfl _ _ servedElsewhere (by
    simp only [servedElsewhere, payloadEntry, List.cons_append, List.nil_append]
    decide)

/-- The replaced translation is there until the load. -/
example : ∃ e ∈ ((servedElsewhere.dropLast.foldl (tlbStep .stock)
    (.loaded (sharedMem 0x50005#64) fun _ => [])).cpus 1).tlb,
    e.tag = some guestPayloadPcid ∧ e.replaced = true := by
  decide +kernel

end Driver
end KkmModule
