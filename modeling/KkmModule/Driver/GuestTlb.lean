import KkmModule.Driver.Kontext
import KkmModule.Driver.Mmu
import KkmModule.Foundation.GuardedRun
import KkmModule.Foundation.TaggedTlb

/-!
# The TLBs of the processors under the two PCIDs of the module

All kontainers share `GUEST_KERNEL_PCID` and `GUEST_PAYLOAD_PCID`.  The module
follows `kkm_kontext_switch_kernel` on every processor in the steps in
which it can be interleaved with the others: the test and the flush, the store
to `ga->cpu`, the store of the last id, and the three loads of `CR3`, at the
switch to the payload, at its exit and at the switch back.  Interrupts are off
from the test until the native `CR3` is loaded.  Between entries a processor
runs native code, in particular the one-page flush after a page fault and the
two functions that change guest tables.

Kontainers and kontexts are named by the order of their creation; what is
closed keeps its record.
-/

namespace KkmModule
namespace Driver

open Foundation

/-- A processor number, a non-negative `int`. -/
abbrev Cpu := Fin (2 ^ 31)

instance cpuNeZero : NeZero (2 ^ 31) := ⟨by decide⟩

/-- A processor number as it is compared with `ga->cpu`. -/
def cpuNumber (c : Cpu) : BitVec 64 := BitVec.ofNat 64 c.val

theorem cpuNumber_injective {c c' : Cpu} (h : cpuNumber c = cpuNumber c') :
    c = c' := by
  have hnat := congrArg BitVec.toNat h
  have hc := c.isLt
  have hc' := c'.isLt
  simp only [cpuNumber, BitVec.toNat_ofNat] at hnat
  apply Fin.ext
  omega

theorem kkmInvalidCpuId_ne_cpuNumber (c : Cpu) :
    kkmInvalidCpuId ≠ cpuNumber c := by
  intro h
  have hnat := congrArg BitVec.toNat h
  have hc := c.isLt
  simp only [kkmInvalidCpuId, cpuNumber, BitVec.toNat_ofNat] at hnat
  omega

/-- An entry of a TLB: the tag is the PCID, the creator the kontainer. -/
abbrev GuestTlbEntry := TlbEntry (BitVec 64) Nat

/-- The entry is filed under one of the two PCIDs. -/
def KkmTagged (e : GuestTlbEntry) : Prop :=
  e.tag = some guestKernelPcid ∨ e.tag = some guestPayloadPcid

theorem KkmTagged.of_tag_eq
    {e e' : GuestTlbEntry} (h : KkmTagged e') (htag : e.tag = e'.tag) :
    KkmTagged e := by
  unfold KkmTagged
  rw [htag]
  exact h

/-- Nothing made under another PCID is filed under one of the two. -/
theorem not_kkmTagged_tagOf
    {pcid : BitVec 64} (h : ¬ (pcid = guestKernelPcid ∨ pcid = guestPayloadPcid))
    {root page : Nat} {leaf : Leaf} {creator : Option Nat} {replaced : Bool} :
    ¬ KkmTagged ⟨TlbEntry.tagOf pcid leaf, root, page, leaf, creator, replaced⟩ := by
  rintro (htag | htag)
  · exact h (.inl (TlbEntry.tagOf_eq_some htag).symm)
  · exact h (.inr (TlbEntry.tagOf_eq_some htag).symm)

/-- `kkm_mmu_flush_tlb` -/
def kkmMmuFlushTlb (tlb : List GuestTlbEntry) : List GuestTlbEntry :=
  TlbEntry.dropTag guestPayloadPcid (TlbEntry.dropTag guestKernelPcid tlb)

/-- `kkm_mmu_flush_tlb_one_page` -/
def kkmMmuFlushTlbOnePage (addr : Nat) (tlb : List GuestTlbEntry) :
    List GuestTlbEntry :=
  TlbEntry.dropPage guestPayloadPcid (addr / pageSize)
    (TlbEntry.dropPage guestKernelPcid (addr / pageSize) tlb)

/-- A load of `CR3` drops what its PCID has, unless bit 63 is set.  Where the low
byte is 0 the code toggles `CR4.PGE` after it, which drops everything. -/
def loadCr3 (cr3 : BitVec 64) (tlb : List GuestTlbEntry) : List GuestTlbEntry :=
  if cr3 &&& 0xFF#64 = 0#64 then []
  else if cr3.getLsbD 63 then tlb
  else TlbEntry.dropTag (cr3Pcid cr3) tlb

/-- The value `kkm_intr_entry_asm` loads where it finds `cr3`. -/
def exitCr3 (cr3 : BitVec 64) : BitVec 64 := cr3 &&& 0xFFFFFFFFFFFFEFFF#64

theorem mem_kkmMmuFlushTlb
    {tlb : List GuestTlbEntry} {e : GuestTlbEntry} :
    e ∈ kkmMmuFlushTlb tlb ↔ e ∈ tlb ∧ ¬ KkmTagged e := by
  simp [kkmMmuFlushTlb, KkmTagged, and_assoc]

theorem mem_of_mem_kkmMmuFlushTlbOnePage
    {addr : Nat} {tlb : List GuestTlbEntry} {e : GuestTlbEntry}
    (h : e ∈ kkmMmuFlushTlbOnePage addr tlb) : e ∈ tlb :=
  (TlbEntry.mem_dropPage.mp (TlbEntry.mem_dropPage.mp h).1).1

theorem mem_of_mem_loadCr3
    {cr3 : BitVec 64} {tlb : List GuestTlbEntry} {e : GuestTlbEntry}
    (h : e ∈ loadCr3 cr3 tlb) : e ∈ tlb := by
  unfold loadCr3 at h
  split at h
  · cases h
  · split at h
    · exact h
    · exact (TlbEntry.mem_dropTag.mp h).1

theorem tag_of_mem_loadCr3
    {cr3 : BitVec 64} {tlb : List GuestTlbEntry} {e : GuestTlbEntry}
    (hbit : cr3.getLsbD 63 = false) (h : e ∈ loadCr3 cr3 tlb) :
    e.tag ≠ some (cr3Pcid cr3) := by
  unfold loadCr3 at h
  split at h
  · cases h
  · rw [hbit] at h
    exact (TlbEntry.mem_dropTag.mp h).2

/-! ## The state -/

structure TlbKontainer where
  kkm : Kkm
  /-- `kkm->mm->pgd` -/
  nativePgd : Nat
  closed : Bool

structure TlbKontext where
  kontainer : Nat
  /-- `ga->cpu` -/
  cpu : BitVec 64
  /-- `ga->guest_payload_cr3` -/
  payloadCr3 : BitVec 64
  closed : Bool

/-- Where a processor is in `kkm_kontext_switch_kernel`, and for which
kontext. -/
inductive SwitchPoint where
  /-- in native code, interrupts on -/
  | native
  /-- the test has been made, and the flush where it asks for one -/
  | tested (kontext : Nat)
  /-- `ga->cpu` is set -/
  | cpuSet (kontext : Nat)
  /-- the last id is set, the switch comes next -/
  | ready (kontext : Nat)
  /-- the `CR3` of the payload is loaded -/
  | payload (kontext : Nat)
  /-- the exit has loaded the `CR3` of the guest kernel -/
  | exited (kontext : Nat)
deriving DecidableEq, Repr

structure CpuState where
  /-- `kkm_idt.desc_entries[cpu].last_id` -/
  lastId : BitVec 64
  point : SwitchPoint
  tlb : List GuestTlbEntry

/-- The state of the module as far as it concerns the TLBs. -/
structure TlbState where
  lazyFlushTlb : Bool
  kkmObjectId : BitVec 64
  kontainerCount : Nat
  kontainers : Nat → Option TlbKontainer
  kontextCount : Nat
  kontexts : Nat → Option TlbKontext
  mem : Memory
  cpus : Cpu → CpuState

/-- `KKM_INVALID_ID` -/
def kkmInvalidId : BitVec 64 := 0xFFFFFFFFFFFFFFFF#64

/-- The module has just been loaded.  The TLBs may hold anything. -/
def TlbState.loaded (mem : Memory) (tlb : Cpu → List GuestTlbEntry) :
    TlbState where
  lazyFlushTlb := true
  kkmObjectId := 1
  kontainerCount := 0
  kontainers := fun _ => none
  kontextCount := 0
  kontexts := fun _ => none
  mem := mem
  cpus := fun c => ⟨kkmInvalidId, .native, tlb c⟩

def TlbState.setCpu (s : TlbState) (c : Cpu) (cpu : CpuState) : TlbState :=
  { s with cpus := Function.update s.cpus c cpu }

@[simp] theorem TlbState.setCpu_self (s : TlbState) (c : Cpu) (cpu : CpuState) :
    (s.setCpu c cpu).cpus c = cpu := by
  simp [setCpu]

@[simp] theorem TlbState.setCpu_of_ne
    (s : TlbState) {c c' : Cpu} (cpu : CpuState) (h : c' ≠ c) :
    (s.setCpu c cpu).cpus c' = s.cpus c' := by
  simp [setCpu, h]

/-- The kontext and its kontainer, both open. -/
def TlbState.openKontext (s : TlbState) (x : Nat) :
    Option (TlbKontext × TlbKontainer) := do
  let kontext ← s.kontexts x
  let kontainer ← s.kontainers kontext.kontainer
  if kontext.closed || kontainer.closed then none
  else some (kontext, kontainer)

theorem TlbState.openKontext_some
    {s : TlbState} {x : Nat} {X : TlbKontext} {K : TlbKontainer}
    (h : s.openKontext x = some (X, K)) :
    s.kontexts x = some X ∧ s.kontainers X.kontainer = some K := by
  unfold openKontext at h
  cases hX : s.kontexts x with
  | none => simp [hX] at h
  | some X' =>
      cases hK : s.kontainers X'.kontainer with
      | none => simp [hX, hK] at h
      | some K' =>
          simp only [hX, hK, Option.bind_eq_bind, Option.bind_some] at h
          split at h
          · cases h
          · cases h
            exact ⟨rfl, hK⟩

/-! ## The steps -/

inductive TlbEvent where
  /-- `kkm_create_kontainer`; the answer holds the tables it has made -/
  | createKontainer (tables : Kkm) (nativePgd : Nat)
  | destroyKontainer (kontainer : Nat)
  /-- `kkm_add_execution_kontext` -/
  | addKontext (kontainer : Nat)
  | releaseKontext (kontext : Nat)
  /-- a write to the module parameter -/
  | setLazyFlushTlb (on : Bool)
  /-- code outside the module changes memory -/
  | nativeWrite (mem : Memory)
  /-- a translation is cached under another PCID -/
  | nativeFill (c : Cpu) (pcid : BitVec 64) (root page : Nat)
  /-- the test and the flush of `kkm_kontext_switch_kernel` -/
  | enter (c : Cpu) (kontext : Nat)
  | setGaCpu (c : Cpu)
  | setId (c : Cpu)
  /-- the load of `CR3` in `kkm_switch_to_gp_asm` -/
  | switch (c : Cpu)
  /-- a translation is cached while a guest `CR3` is loaded -/
  | fill (c : Cpu) (page : Nat)
  /-- the processor drops an entry -/
  | evict (c : Cpu) (e : GuestTlbEntry)
  /-- the load of `CR3` in `kkm_intr_entry_asm` -/
  | exit (c : Cpu)
  /-- the load of the native `CR3` in `kkm_switch_to_hk_asm` -/
  | leave (c : Cpu) (nativeCr3 : BitVec 64)
  /-- `kkm_mmu_update_priv_area`, called by a thread on a processor -/
  | updatePrivArea (c : Cpu) (kontainer guestVa monitorVa : Nat)
  /-- `kkm_mmu_flush_tlb_one_page` on a processor -/
  | flushOnePage (c : Cpu) (addr : Nat)
  /-- `kkm_mmu_sync` -/
  | sync (kontainer : Nat)

/-- The test of `kkm_kontext_switch_kernel` asks for a flush. -/
def asksForFlush
    (cfg : KkmConfig) (s : TlbState) (c : Cpu) (kontext : TlbKontext)
    (kontainer : TlbKontainer) : Bool :=
  !cfg.cpuFullTlbFlush &&
    (!s.lazyFlushTlb || cpuNumber c != kontext.cpu ||
      kontainer.kkm.id != (s.cpus c).lastId)

/-- The tables of a kontainer are changed from `s.mem` to `mem`. -/
def TlbState.changeTables
    (cfg : KkmConfig) (s : TlbState) (kontainer : Nat) (mem : Memory) :
    TlbState :=
  { s with
    mem := mem
    cpus := fun c =>
      { s.cpus c with
        tlb := TlbEntry.markChanged (topLevel cfg) s.mem mem kontainer
          (s.cpus c).tlb } }

/-- A translation is cached under the `CR3` of kontext `x`, or under what an exit
makes of it. -/
def TlbState.guestFill
    (cfg : KkmConfig) (s : TlbState) (c : Cpu) (x : Nat) (exited : Bool)
    (page : Nat) : TlbState :=
  match s.kontexts x with
  | some X =>
      match s.kontainers X.kontainer with
      | some K =>
          let root := if exited then K.kkm.gkPgd.va else K.kkm.gpPgd.va
          let cr3 := if exited then exitCr3 X.payloadCr3 else X.payloadCr3
          s.setCpu c { s.cpus c with
            tlb := TlbEntry.fill s.mem (topLevel cfg) (cr3Pcid cr3) root page
              X.kontainer (s.cpus c).tlb }
      | none => s
  | none => s

/-- The `CR3` of kontext `x` is loaded, or what an exit makes of it. -/
def TlbState.loadGuestCr3
    (s : TlbState) (c : Cpu) (x : Nat) (exited : Bool) : List GuestTlbEntry :=
  match s.kontexts x with
  | some X =>
      loadCr3 (if exited then exitCr3 X.payloadCr3 else X.payloadCr3) (s.cpus c).tlb
  | none => (s.cpus c).tlb

/-- What `kkm_mmu_update_priv_area` makes of memory. -/
def updatedMem
    (cfg : KkmConfig) (s : TlbState) (kontainer : TlbKontainer)
    (guestVa monitorVa : Nat) : Memory :=
  (kkmMmuUpdatePrivArea cfg guestVa monitorVa kontainer.nativePgd
    kontainer.kkm.kkmGuestPml4e s.mem).2

/-- What `kkm_mmu_sync` makes of memory. -/
def syncedMem
    (cfg : KkmConfig) (s : TlbState) (kontainer : TlbKontainer) : Memory :=
  (kkmMmuSync cfg kontainer.nativePgd kontainer.kkm.gkPgd.va
    kontainer.kkm.gpPgd.va kontainer.kkm.kkmGuestPml4e kontainer.kkm.lowP4d.va
    kontainer.kkm.lowP4d.pa s.mem).2

def tlbStep (cfg : KkmConfig) (s : TlbState) : TlbEvent → TlbState
  | .createKontainer tables nativePgd =>
      let id := s.kkmObjectId + 1
      { s with
        kkmObjectId := id
        kontainerCount := s.kontainerCount + 1
        kontainers := Function.update s.kontainers s.kontainerCount
          (some ⟨{ tables with id := id }, nativePgd, false⟩) }
  | .destroyKontainer k =>
      { s with
        kontainers := Function.update s.kontainers k
          ((s.kontainers k).map fun K => { K with closed := true }) }
  | .addKontext k =>
      match s.kontainers k with
      | some K =>
          if K.closed then s
          else
            { s with
              kkmObjectId := s.kkmObjectId + 1
              kontextCount := s.kontextCount + 1
              kontexts := Function.update s.kontexts s.kontextCount
                (some ⟨k, (newGuestArea cfg K.kkm 0).cpu,
                  (newGuestArea cfg K.kkm 0).guestPayloadCr3, false⟩) }
      | none => s
  | .releaseKontext x =>
      { s with
        kontexts := Function.update s.kontexts x
          ((s.kontexts x).map fun X => { X with closed := true }) }
  | .setLazyFlushTlb on => { s with lazyFlushTlb := on }
  | .nativeWrite mem => { s with mem := mem }
  | .nativeFill c pcid root page =>
      if pcid = guestKernelPcid ∨ pcid = guestPayloadPcid then s
      else
        match pageTranslation s.mem (topLevel cfg) root page with
        | some leaf =>
            s.setCpu c { s.cpus c with
              tlb := ⟨TlbEntry.tagOf pcid leaf, root, page, leaf, none, false⟩ ::
                (s.cpus c).tlb }
        | none => s
  | .enter c x =>
      match (s.cpus c).point, s.openKontext x with
      | .native, some (X, K) =>
          if asksForFlush cfg s c X K then
            s.setCpu c { s.cpus c with
              point := .tested x
              tlb := kkmMmuFlushTlb (s.cpus c).tlb }
          else s.setCpu c { s.cpus c with point := .tested x }
      | _, _ => s
  | .setGaCpu c =>
      match (s.cpus c).point with
      | .tested x =>
          { s.setCpu c { s.cpus c with point := .cpuSet x } with
            kontexts := Function.update s.kontexts x
              ((s.kontexts x).map fun X => { X with cpu := cpuNumber c }) }
      | _ => s
  | .setId c =>
      match (s.cpus c).point with
      | .cpuSet x =>
          match (s.kontexts x).bind fun X => s.kontainers X.kontainer with
          | some K => s.setCpu c { s.cpus c with point := .ready x, lastId := K.kkm.id }
          | none => s
      | _ => s
  | .switch c =>
      match (s.cpus c).point with
      | .ready x =>
          s.setCpu c { s.cpus c with
            point := .payload x, tlb := s.loadGuestCr3 c x false }
      | _ => s
  | .fill c page =>
      match (s.cpus c).point with
      | .payload x => s.guestFill cfg c x false page
      | .exited x => s.guestFill cfg c x true page
      | _ => s
  | .evict c e =>
      s.setCpu c { s.cpus c with tlb := (s.cpus c).tlb.erase e }
  | .exit c =>
      match (s.cpus c).point with
      | .payload x =>
          s.setCpu c { s.cpus c with
            point := .exited x, tlb := s.loadGuestCr3 c x true }
      | _ => s
  | .leave c nativeCr3 =>
      match (s.cpus c).point with
      | .exited _ =>
          s.setCpu c { s.cpus c with
            point := .native, tlb := loadCr3 nativeCr3 (s.cpus c).tlb }
      | _ => s
  | .updatePrivArea c k guestVa monitorVa =>
      match (s.cpus c).point, s.kontainers k with
      | .native, some K => s.changeTables cfg k (updatedMem cfg s K guestVa monitorVa)
      | _, _ => s
  | .flushOnePage c addr =>
      match (s.cpus c).point with
      | .native =>
          s.setCpu c { s.cpus c with
            tlb := kkmMmuFlushTlbOnePage addr (s.cpus c).tlb }
      | _ => s
  | .sync k =>
      match s.kontainers k with
      | some K => s.changeTables cfg k (syncedMem cfg s K)
      | none => s

/-- One way through `kkm_kontext_switch_kernel` into the payload. -/
def payloadEntry (c : Cpu) (x : Nat) : List TlbEvent :=
  [.enter c x, .setGaCpu c, .setId c, .switch c]

end Driver
end KkmModule
