import KkmModule.Driver.RelocatedCode
import KkmModule.Foundation.BlockLedger

/-!
# Loading the module (`kkm_main.c`)

`kkm_init` step by step, with requests on `/dev/kkm` in between.  The device is
registered first; the page tables of the kx area and the interrupt descriptor
table follow.  Nothing on the way out takes the registration back, and the pages
of the kx tables stay when there are none for the descriptor table.

`loadsSafely_iff` says which loads leave nothing behind when they fail and let no
request in before the tables are there.  Requests on kontainers that have been
created meanwhile are not part of these runs.
-/

namespace KkmModule
namespace Driver

open Foundation

/-! ## Processor support -/

structure CpuFeatures where
  /-- page table isolation is compiled in, under either of its names -/
  pti : Bool
  pcid : Bool
  invpcid : Bool
  xsaves : Bool
  xsave : Bool
deriving DecidableEq, Repr

/-- `kkm_cpu_supported`, `kkm_cpu_full_tlb_flush` and `kkm_xs_format` -/
structure CpuSupport where
  supported : Bool
  fullTlbFlush : Bool
  xsFormat : KkmXstateFormat
deriving DecidableEq, Repr

def CpuSupport.initial : CpuSupport := ⟨false, false, .xsaves⟩

def kkmCheckCpuSupport (f : CpuFeatures) (c : CpuSupport) : CpuSupport :=
  let c := { c with supported := false }
  if f.pti = false then c
  else
    let c := if f.pcid then c else { c with fullTlbFlush := true }
    let c := if f.invpcid then c else { c with fullTlbFlush := true }
    if f.xsaves then { c with xsFormat := .xsaves, supported := true }
    else if f.xsave then { c with xsFormat := .xsave, supported := true }
    else c

/-- The processors the module works on. -/
def CpuFeatures.sufficient (f : CpuFeatures) : Bool := f.pti && (f.xsaves || f.xsave)

theorem kkmCheckCpuSupport_supported (f : CpuFeatures) (c : CpuSupport) :
    (kkmCheckCpuSupport f c).supported = f.sufficient := by
  obtain ⟨pti, pcid, invpcid, xsaves, xsave⟩ := f
  cases pti <;> cases pcid <;> cases invpcid <;> cases xsaves <;> cases xsave <;> rfl

/-! ## Requests on `/dev/kkm` -/

/-- What the kernel answers during one `kkm_get_native_cpuid`. -/
structure CpuidAnswers where
  copyFromUser : Bool
  /-- `kcpuid.entry_count` -/
  entryCount : BitVec 32
  kzalloc : Bool
  copyEntries : Bool
  copyCpuid : Bool

def kkmContextInfoEntryCount : BitVec 32 := 6#32

def kkmGetNativeCpuid (a : CpuidAnswers) : Int :=
  if a.copyFromUser = false then -efault
  else if a.entryCount = 0#32 ∨ a.entryCount < kkmContextInfoEntryCount then -einval
  else if a.kzalloc = false then -enomem
  else
    let ret := if a.copyEntries = false then -efault else 0
    if a.copyCpuid = false then -efault else ret

/-- `KKM_CAP_SYNC_REGS` -/
def kkmCapSyncRegs : BitVec 64 := 74#64

/-- `KKM_SYNC_X86_SREGS | KKM_SYNC_X86_REGS` -/
def kkmCheckExtension (arg : BitVec 64) : Int :=
  if arg = kkmCapSyncRegs then 3 else 0

inductive DeviceRequest where
  | getVersion
  | createKontainer (answers : CreateAnswers)
  | checkExtension (arg : BitVec 64)
  | getContextMapSize
  | getSupportedContextInfo (answers : CpuidAnswers)
  | cpuSupported
  | getIdentity
  | unknown

def kkmVersion : Int := 12
def kkmContextMapSize : Int := kkmContextMapPageCount * 4096
def kkmDeviceIdentity : Int := 0x6B6B6D

/-- Requests that are answered on any processor. -/
def DeviceRequest.always : DeviceRequest → Bool
  | .cpuSupported => true
  | .getIdentity => true
  | _ => false

def kkmDeviceIoctl
    (cfg : KkmConfig) (cpu : CpuSupport) (kx : KkmMmuPml4e) (r : DeviceRequest)
    (w : World) : Int × World :=
  if cpu.supported = false ∧ r.always = false then (-eopnotsupp, w)
  else
    match r with
    | .getVersion => (kkmVersion, w)
    | .createKontainer a =>
        let (ret, k, g) := kkmCreateKontainer cfg kx a w.kernel
        (ret, { w.set w.created k g with created := w.created + 1 })
    | .checkExtension arg => (kkmCheckExtension arg, w)
    | .getContextMapSize => (kkmContextMapSize, w)
    | .getSupportedContextInfo a => (kkmGetNativeCpuid a, w)
    | .cpuSupported => (if cpu.supported then 0 else 1, w)
    | .getIdentity => (kkmDeviceIdentity, w)
    | .unknown => (-eopnotsupp, w)

/-- A request that gets to `kkm_mmu_kx`. -/
def DeviceRequest.UsesTables (cpu : CpuSupport) : DeviceRequest → Prop
  | .createKontainer _ => cpu.supported = true
  | _ => False

/-- The others do not depend on the tables. -/
theorem kkmDeviceIoctl_of_not_usesTables
    (cfg : KkmConfig) {cpu : CpuSupport} {r : DeviceRequest} (h : ¬ r.UsesTables cpu)
    (kx kx' : KkmMmuPml4e) (w : World) :
    kkmDeviceIoctl cfg cpu kx r w = kkmDeviceIoctl cfg cpu kx' r w := by
  cases r with
  | createKontainer a =>
      have hcpu : cpu.supported = false := by simpa [DeviceRequest.UsesTables] using h
      simp [kkmDeviceIoctl, hcpu, DeviceRequest.always]
  | _ => rfl

/-- A creation is the event of the life cycle. -/
theorem kkmDeviceIoctl_create
    (cfg : KkmConfig) {cpu : CpuSupport} (hcpu : cpu.supported = true)
    (kx : KkmMmuPml4e) (a : CreateAnswers) (w : World) :
    lifecycleStep cfg kx w (.create a) =
      .ok (kkmDeviceIoctl cfg cpu kx (.createKontainer a) w).2 := by
  simp [kkmDeviceIoctl, hcpu, lifecycleStep]

/-! ## The steps of `kkm_init` -/

/-- Where `kkm_init` is. -/
inductive InitPoint where
  | cpuSupport
  | miscRegister
  | owners
  | pud
  | pmd
  | pt
  /-- the error label of `kkm_create_pml4` -/
  | pml4Error (ret : Int)
  | link
  | codeSizes
  | idtPages
  | kxGlobalInfo
  | idtFill
  | objectId
  | returned (ret : Int)
deriving DecidableEq, Repr

/-- What the kernel answers while the module is loaded. -/
structure LoadAnswers where
  features : CpuFeatures
  /-- result of `misc_register` -/
  miscRegister : Int
  kx : Pml4Answers
  nativeIdtDesc : DescPtr
  idt : Option Nat

/-- The module while it is loaded. -/
structure ModuleLoad where
  point : InitPoint
  cpu : CpuSupport
  /-- `/dev/kkm` is there -/
  registered : Bool
  /-- `owner` of the file operations -/
  owner : Bool
  /-- open files of `/dev/kkm` -/
  opens : Nat
  /-- `kkm_mmu_kx` -/
  kx : KkmMmuPml4e
  /-- `kkm_idt.idt_entry` -/
  idtEntry : KkmIdtEntry
  /-- what `kkm_init` itself has been handed out -/
  taken : List Block
  world : World

namespace ModuleLoad

/-- Before `kkm_init`, with any state of the kernel. -/
def start (g : KernelState) : ModuleLoad where
  point := .cpuSupport
  cpu := .initial
  registered := false
  owner := false
  opens := 0
  kx := .zeroed
  idtEntry := .zeroed
  taken := []
  world := .start g

def pages (s : ModuleLoad) : PageState := s.world.kernel.pages

def setPages (s : ModuleLoad) (pages : PageState) : ModuleLoad :=
  { s with world := { s.world with kernel := { s.world.kernel with pages := pages } } }

def setMem (s : ModuleLoad) (m : Memory) : ModuleLoad :=
  s.setPages { s.pages with mem := m }

/-- `kkm_mm_allocate_pages` -/
def allocate
    (info : KkmMmuPageInfo) (count : Nat) (answer : Option Nat) (s : ModuleLoad) :
    Int × KkmMmuPageInfo × ModuleLoad :=
  let (ret, info, pages) := kkmMmAllocatePages info count answer s.pages
  (ret, info, { s.setPages pages with
    taken := (info.block (orderBase2 count)).toList ++ s.taken })

end ModuleLoad

/-- One step of `kkm_init`; inside `kkm_mmu_init` and `kkm_idt_init` each
allocation is a step. -/
def initStep (text : ModuleText) (a : LoadAnswers) (s : ModuleLoad) : ModuleLoad :=
  match s.point with
  | .cpuSupport =>
      { s with cpu := kkmCheckCpuSupport a.features s.cpu, point := .miscRegister }
  | .miscRegister =>
      if a.miscRegister ≠ 0 then { s with point := .returned a.miscRegister }
      else { s with registered := true, point := .owners }
  | .owners => { s with owner := true, point := .pud }
  | .pud =>
      let kmu := KkmMmuPml4e.zeroed
      let (ret, pud, s) := s.allocate kmu.pud 1 a.kx.pud
      { s with
        kx := { kmu with pud := pud }
        point := if ret ≠ 0 then .pml4Error ret else .pmd }
  | .pmd =>
      let (ret, pmd, s) := s.allocate s.kx.pmd 1 a.kx.pmd
      { s with
        kx := { s.kx with pmd := pmd }
        point := if ret ≠ 0 then .pml4Error ret else .pt }
  | .pt =>
      let (ret, pt, s) := s.allocate s.kx.pt 1 a.kx.pt
      { s with
        kx := { s.kx with pt := pt }
        point := if ret ≠ 0 then .pml4Error ret else .link }
  | .pml4Error ret =>
      { s.setPages (kkmMmuCleanup s.kx s.pages) with point := .returned ret }
  | .link =>
      let kmu := { s.kx with
        pgdEntry := (BitVec.ofNat 64 s.kx.pud.pa &&& kkmPagePaMask) |||
          pageUser ||| pageRw ||| pagePresent }
      let m := kkmMmuInsertPage kmu.pud.va (pudIndex kkmPrivateStartVa) kmu.pmd.pa
        tableFlags s.pages.mem
      let m := kkmMmuInsertPage kmu.pmd.va (pmdIndex kkmPrivateStartVa) kmu.pt.pa
        tableFlags m
      { s.setMem m with kx := kmu, point := .codeSizes }
  | .codeSizes =>
      { s with
        idtEntry := .zeroed
        point :=
          if kkmKxIntrCodeSize ≤ text.kkmIntrFill then .returned (-einval)
          else if kkmKxEntryCodeSize ≤ text.kkmGuestEntryEnd then .returned (-einval)
          else .idtPages }
  | .idtPages =>
      let (ret, idt, s) := s.allocate s.idtEntry.idt kkmIdtAllocationPages a.idt
      if ret ≠ 0 then
        { s with idtEntry := { s.idtEntry with idt := idt }, point := .returned ret }
      else { s with idtEntry := s.idtEntry.setPages idt, point := .kxGlobalInfo }
  | .kxGlobalInfo =>
      { s.setMem (kkmMmuSetKxGlobalInfoAt s.kx s.idtEntry.idt.pa
          s.idtEntry.idtTextPage0.pa s.idtEntry.idtTextPage1.pa s.idtEntry.kxGlobal.pa
          s.pages.mem) with
        point := .idtFill }
  | .idtFill =>
      let va := s.idtEntry.idt.va
      let image := kxPages text (s.pages.mem.image va)
      { s.setMem (s.pages.mem.storeImage va (kkmIdtAllocationPages * pageSize) image)
        with
        idtEntry := { s.idtEntry with
          nativeIdtDesc := a.nativeIdtDesc
          guestIdtDesc := ⟨a.nativeIdtDesc.size, BitVec.ofNat 64 kkmMmuGetIdtVa⟩ }
        point := .objectId }
  | .objectId =>
      { s with
        world := { s.world with kernel := { s.world.kernel with kkmObjectId := 1#64 } }
        point := .returned 0 }
  | .returned _ => s

/-! ## The system -/

inductive LoadEvent where
  | init
  | openDevice
  | closeDevice
  | ioctl (r : DeviceRequest)

namespace ModuleLoad

def config (cfg : KkmConfig) (s : ModuleLoad) : KkmConfig :=
  { cfg with cpuFullTlbFlush := s.cpu.fullTlbFlush, xsFormat := s.cpu.xsFormat }

/-- A request reaches the module through an open file. -/
def serve (cfg : KkmConfig) (r : DeviceRequest) (s : ModuleLoad) : ModuleLoad :=
  { s with world := (kkmDeviceIoctl (s.config cfg) s.cpu s.kx r s.world).2 }

end ModuleLoad

def loadStep
    (text : ModuleText) (cfg : KkmConfig) (a : LoadAnswers) (s : ModuleLoad) :
    LoadEvent → ModuleLoad
  | .init => initStep text a s
  | .openDevice => if s.registered then { s with opens := s.opens + 1 } else s
  | .closeDevice => { s with opens := s.opens - 1 }
  | .ioctl r => if s.opens = 0 then s else s.serve cfg r

/-! ## The points in their order -/

/-- The point after a step depends on the answers only. -/
def nextPoint (text : ModuleText) (a : LoadAnswers) : InitPoint → InitPoint
  | .cpuSupport => .miscRegister
  | .miscRegister => if a.miscRegister ≠ 0 then .returned a.miscRegister else .owners
  | .owners => .pud
  | .pud => if a.kx.pud = none then .pml4Error (-enomem) else .pmd
  | .pmd => if a.kx.pmd = none then .pml4Error (-enomem) else .pt
  | .pt => if a.kx.pt = none then .pml4Error (-enomem) else .link
  | .pml4Error ret => .returned ret
  | .link => .codeSizes
  | .codeSizes => if text.Fits then .idtPages else .returned (-einval)
  | .idtPages => if a.idt = none then .returned (-enomem) else .kxGlobalInfo
  | .kxGlobalInfo => .idtFill
  | .idtFill => .objectId
  | .objectId => .returned 0
  | .returned ret => .returned ret

/-- `misc_register` is over. -/
def InitPoint.afterRegister : InitPoint → Bool
  | .cpuSupport => false
  | .miscRegister => false
  | _ => true

namespace ModuleLoad

section Allocate

variable (info : KkmMmuPageInfo) {count : Nat} (answer : Option Nat) (s : ModuleLoad)

theorem allocate_ret (hcount : count ≠ 0) :
    (s.allocate info count answer).1 = if answer = none then -enomem else 0 := by
  cases answer with
  | none => simp [allocate, kkmMmAllocatePages_none info hcount]
  | some skip => simp [allocate, kkmMmAllocatePages_some info hcount]

@[simp] theorem allocate_opens :
    (s.allocate info count answer).2.2.opens = s.opens := rfl

@[simp] theorem allocate_registered :
    (s.allocate info count answer).2.2.registered = s.registered := rfl

@[simp] theorem allocate_cpu :
    (s.allocate info count answer).2.2.cpu = s.cpu := rfl

end Allocate

end ModuleLoad

section Step

variable (text : ModuleText) (a : LoadAnswers) (s : ModuleLoad)

theorem initStep_point : (initStep text a s).point = nextPoint text a s.point := by
  have henomem : enomem ≠ 0 := by decide
  have hone : (1 : Nat) ≠ 0 := by decide
  have hidt : kkmIdtAllocationPages ≠ 0 := by decide
  unfold initStep nextPoint
  cases hpoint : s.point with
  | miscRegister => dsimp only; split <;> rfl
  | pud =>
      simp only [ModuleLoad.allocate_ret _ _ _ hone]
      split <;> simp [henomem]
  | pmd =>
      simp only [ModuleLoad.allocate_ret _ _ _ hone]
      split <;> simp [henomem]
  | pt =>
      simp only [ModuleLoad.allocate_ret _ _ _ hone]
      split <;> simp [henomem]
  | codeSizes =>
      simp only [ModuleText.Fits, ← Nat.not_le]
      split <;> split <;> simp_all
  | idtPages =>
      simp only [ModuleLoad.allocate_ret _ _ _ hidt]
      split <;> simp [henomem]
  | returned ret => exact hpoint
  | _ => rfl

theorem initStep_opens : (initStep text a s).opens = s.opens := by
  unfold initStep
  cases s.point with
  | miscRegister => dsimp only; split <;> rfl
  | idtPages => dsimp only; split <;> rfl
  | _ => rfl

theorem initStep_registered :
    (initStep text a s).registered =
      if s.point = .miscRegister ∧ a.miscRegister = 0 then true else s.registered := by
  unfold initStep
  cases s.point with
  | miscRegister => by_cases h : a.miscRegister = 0 <;> simp [h]
  | idtPages => dsimp only; split <;> simp
  | _ => simp [ModuleLoad.setPages, ModuleLoad.setMem]

theorem initStep_cpu :
    (initStep text a s).cpu =
      if s.point = .cpuSupport then kkmCheckCpuSupport a.features s.cpu else s.cpu := by
  unfold initStep
  cases s.point with
  | miscRegister => dsimp only; split <;> simp
  | idtPages => dsimp only; split <;> simp
  | _ => simp [ModuleLoad.setPages, ModuleLoad.setMem]

end Step

/-! ## How far `kkm_init` gets -/

/-- Everything after the registration is granted. -/
def LoadAnswers.Granted (text : ModuleText) (a : LoadAnswers) : Prop :=
  a.kx.AllSome ∧ text.Fits ∧ a.idt ≠ none

instance (text : ModuleText) (a : LoadAnswers) : Decidable (a.Granted text) :=
  inferInstanceAs (Decidable (_ ∧ _ ∧ _))

/-- What has been granted at a point. -/
def InitPoint.Reached (text : ModuleText) (a : LoadAnswers) : InitPoint → Prop
  | .cpuSupport => True
  | .miscRegister => True
  | .owners => a.miscRegister = 0
  | .pud => a.miscRegister = 0
  | .pmd => a.miscRegister = 0 ∧ a.kx.pud ≠ none
  | .pt => a.miscRegister = 0 ∧ a.kx.pud ≠ none ∧ a.kx.pmd ≠ none
  | .pml4Error ret => a.miscRegister = 0 ∧ ¬ a.kx.AllSome ∧ ret ≠ 0
  | .link => a.miscRegister = 0 ∧ a.kx.AllSome
  | .codeSizes => a.miscRegister = 0 ∧ a.kx.AllSome
  | .idtPages => a.miscRegister = 0 ∧ a.kx.AllSome ∧ text.Fits
  | .kxGlobalInfo => a.miscRegister = 0 ∧ a.Granted text
  | .idtFill => a.miscRegister = 0 ∧ a.Granted text
  | .objectId => a.miscRegister = 0 ∧ a.Granted text
  | .returned ret => ret = 0 ↔ a.miscRegister = 0 ∧ a.Granted text

theorem nextPoint_reached
    {text : ModuleText} {a : LoadAnswers} {point : InitPoint}
    (h : point.Reached text a) : (nextPoint text a point).Reached text a := by
  have henomem : enomem ≠ 0 := by decide
  have heinval : einval ≠ 0 := by decide
  cases point with
  | cpuSupport => trivial
  | owners => exact h
  | link => exact h
  | kxGlobalInfo => exact h
  | idtFill => exact h
  | returned ret => exact h
  | objectId => exact iff_of_true rfl h
  | pml4Error ret => exact iff_of_false h.2.2 fun hgranted => h.2.1 hgranted.2.1
  | miscRegister =>
      simp only [nextPoint]
      split
      · rename_i hfail
        exact iff_of_false hfail fun hgranted => hfail hgranted.1
      · rename_i hok
        exact not_not.mp hok
  | pud =>
      simp only [nextPoint]
      split
      · rename_i hnone
        exact ⟨h, fun hall => hall.1 hnone, neg_ne_zero.mpr henomem⟩
      · rename_i hsome
        exact ⟨h, hsome⟩
  | pmd =>
      simp only [nextPoint]
      split
      · rename_i hnone
        exact ⟨h.1, fun hall => hall.2.1 hnone, neg_ne_zero.mpr henomem⟩
      · rename_i hsome
        exact ⟨h.1, h.2, hsome⟩
  | pt =>
      simp only [nextPoint]
      split
      · rename_i hnone
        exact ⟨h.1, fun hall => hall.2.2 hnone, neg_ne_zero.mpr henomem⟩
      · rename_i hsome
        exact ⟨h.1, h.2.1, h.2.2, hsome⟩
  | codeSizes =>
      simp only [nextPoint]
      split
      · rename_i hfits
        exact ⟨h.1, h.2, hfits⟩
      · rename_i hfits
        exact iff_of_false (neg_ne_zero.mpr heinval) fun hgranted => hfits hgranted.2.2.1
  | idtPages =>
      simp only [nextPoint]
      split
      · rename_i hnone
        exact iff_of_false (neg_ne_zero.mpr henomem) fun hgranted =>
          hgranted.2.2.2 hnone
      · rename_i hsome
        exact ⟨h.1, h.2.1, h.2.2, hsome⟩

theorem InitPoint.afterRegister_iff (point : InitPoint) :
    point.afterRegister = true ↔ point ≠ .cpuSupport ∧ point ≠ .miscRegister := by
  cases point <;> simp [InitPoint.afterRegister]

theorem nextPoint_afterRegister
    (text : ModuleText) (a : LoadAnswers) (point : InitPoint) :
    (nextPoint text a point).afterRegister = true ↔ point ≠ .cpuSupport := by
  cases point with
  | cpuSupport => simp [nextPoint, InitPoint.afterRegister]
  | _ =>
      simp only [nextPoint]
      first
        | (split <;> simp [InitPoint.afterRegister])
        | simp [InitPoint.afterRegister]

/-- Without a registration nothing is allocated. -/
theorem initStep_taken
    {text : ModuleText} {a : LoadAnswers} {s : ModuleLoad} (h : s.point.Reached text a)
    (hmisc : a.miscRegister ≠ 0) : (initStep text a s).taken = s.taken := by
  unfold initStep
  cases hpoint : s.point with
  | cpuSupport => rfl
  | miscRegister => dsimp only; split <;> rfl
  | returned ret => rfl
  | _ =>
      simp [hpoint, InitPoint.Reached, hmisc] at h

/-- Steps that are left at most. -/
def InitPoint.rank : InitPoint → Nat
  | .cpuSupport => 12
  | .miscRegister => 11
  | .owners => 10
  | .pud => 9
  | .pmd => 8
  | .pt => 7
  | .link => 6
  | .codeSizes => 5
  | .idtPages => 4
  | .kxGlobalInfo => 3
  | .idtFill => 2
  | .objectId => 1
  | .pml4Error _ => 1
  | .returned _ => 0

theorem nextPoint_rank
    (text : ModuleText) (a : LoadAnswers) (point : InitPoint) :
    (∃ ret, point = .returned ret) ∨ (nextPoint text a point).rank < point.rank := by
  cases point with
  | returned ret => exact Or.inl ⟨ret, rfl⟩
  | _ =>
      right
      simp only [nextPoint]
      first
        | (split <;> simp [InitPoint.rank])
        | simp [InitPoint.rank]

/-! ## Along the runs -/

section Run

variable (text : ModuleText) (cfg : KkmConfig) (a : LoadAnswers)

/-- What holds whatever users do in between. -/
structure LoadInv (s : ModuleLoad) : Prop where
  reached : s.point.Reached text a
  registered : s.registered = true ↔ a.miscRegister = 0 ∧ s.point.afterRegister = true
  opened : s.opens ≠ 0 → s.registered = true
  cpu : s.point ≠ .cpuSupport → s.cpu.supported = a.features.sufficient
  taken : a.miscRegister ≠ 0 → s.taken = []

theorem loadInv_start (g : KernelState) : LoadInv text a (.start g) :=
  ⟨trivial, by simp [ModuleLoad.start, InitPoint.afterRegister], fun h => absurd rfl h, fun h => absurd rfl h,
    fun _ => rfl⟩

variable {text a}

theorem LoadInv.init {s : ModuleLoad} (h : LoadInv text a s) :
    LoadInv text a (initStep text a s) := by
  have hpoint := initStep_point text a s
  have hreached := nextPoint_reached h.reached
  rw [← hpoint] at hreached
  have hregistered : (initStep text a s).registered = true ↔
      a.miscRegister = 0 ∧ (initStep text a s).point.afterRegister = true := by
    rw [hpoint, nextPoint_afterRegister, initStep_registered]
    split
    · rename_i hmisc
      simp [hmisc]
    · rename_i hmisc
      rw [h.registered, InitPoint.afterRegister_iff]
      tauto
  refine ⟨hreached, hregistered, ?_, ?_, ?_⟩
  · intro hopens
    rw [initStep_opens] at hopens
    rw [initStep_registered, h.opened hopens]
    exact ite_self _
  · intro _
    rw [initStep_cpu]
    split
    · exact kkmCheckCpuSupport_supported _ _
    · rename_i hs
      exact h.cpu hs
  · intro hmisc
    rw [initStep_taken h.reached hmisc, h.taken hmisc]

theorem LoadInv.step {s : ModuleLoad} (h : LoadInv text a s) (e : LoadEvent) :
    LoadInv text a (loadStep text cfg a s e) := by
  cases e with
  | init => exact h.init
  | openDevice =>
      simp only [loadStep]
      split
      · rename_i hregistered
        exact ⟨h.reached, h.registered, fun _ => hregistered, h.cpu, h.taken⟩
      · exact h
  | closeDevice =>
      refine ⟨h.reached, h.registered, fun hopens => h.opened ?_, h.cpu, h.taken⟩
      simp only [loadStep] at hopens
      omega
  | ioctl r =>
      simp only [loadStep]
      split
      · exact h
      · exact ⟨h.reached, h.registered, h.opened, h.cpu, h.taken⟩

variable (text a)

/-- The module after some steps of `kkm_init` and of its users. -/
def loadRun (g : KernelState) (es : List LoadEvent) : ModuleLoad :=
  es.foldl (loadStep text cfg a) (.start g)

theorem loadInv_run (g : KernelState) (es : List LoadEvent) :
    LoadInv text a (loadRun text cfg a g es) :=
  List.foldlRecOn es _ (loadInv_start text a g) fun _ h e _ => h.step cfg e

/-- Left alone, `kkm_init` returns. -/
theorem exists_returned (s : ModuleLoad) :
    ∃ n ret, ((List.replicate n LoadEvent.init).foldl (loadStep text cfg a) s).point =
      .returned ret := by
  induction hrank : s.point.rank using Nat.strong_induction_on generalizing s with
  | _ k ih =>
      rcases nextPoint_rank text a s.point with ⟨ret, hret⟩ | hless
      · exact ⟨0, ret, hret⟩
      · rw [← initStep_point, hrank] at hless
        obtain ⟨n, ret, hn⟩ := ih _ hless (initStep text a s) rfl
        exact ⟨n + 1, ret, hn⟩

end Run

/-! ## What a load is meant to do -/

/-- The kx tables lead to the pages of the interrupt descriptor table, and these
are filled. -/
structure ModuleLoad.TablesReady (text : ModuleText) (s : ModuleLoad) : Prop where
  reached : ∀ k < kkmIdtAllocationPages,
    kxWalkPa s.kx s.pages.mem (kkmPrivateStartVa + k * pageSize) =
      some (s.idtEntry.idt.va + k * pageSize)
  filled : ∃ image, ∀ i < kkmIdtAllocationPages * pageSize,
    s.pages.mem.byte (s.idtEntry.idt.va + i) = kxPages text image i
  descriptor : s.idtEntry.guestIdtDesc.address = BitVec.ofNat 64 kkmMmuGetIdtVa

/-- What `kkm_init` has been handed out since `g` has been given back, once. -/
def ModuleLoad.PagesReturned (g : KernelState) (s : ModuleLoad) : Prop :=
  ∀ b ∈ s.taken, b ∉ s.pages.pool.live ∧
    (BlockPool.freedSince g.pages.pool s.pages.pool).count b = 1

section Property

variable (text : ModuleText) (cfg : KkmConfig) (a : LoadAnswers) (g : KernelState)

/-- A failing `kkm_init` leaves no device and no pages. -/
def LoadFailsClean : Prop :=
  ∀ es ret, (loadRun text cfg a g es).point = .returned ret → ret ≠ 0 →
    (loadRun text cfg a g es).registered = false ∧
      (loadRun text cfg a g es).PagesReturned g

/-- While `kkm_init` runs, no request on the device gets to tables that are not
there yet. -/
def TablesFirst : Prop :=
  ∀ es (r : DeviceRequest), (∀ ret, (loadRun text cfg a g es).point ≠ .returned ret) →
    (loadRun text cfg a g es).opens ≠ 0 → r.UsesTables (loadRun text cfg a g es).cpu →
      (loadRun text cfg a g es).TablesReady text

structure LoadsSafely : Prop where
  failsClean : LoadFailsClean text cfg a g
  tablesFirst : TablesFirst text cfg a g

end Property

section Main

variable (text : ModuleText) (cfg : KkmConfig) (a : LoadAnswers) (g : KernelState)

/-- A load fails cleanly exactly if the device is not registered or nothing
fails. -/
theorem loadFailsClean_iff :
    LoadFailsClean text cfg a g ↔ a.miscRegister ≠ 0 ∨ a.Granted text := by
  have hinv := loadInv_run text cfg a g
  constructor
  · intro h
    by_cases hmisc : a.miscRegister = 0
    · right
      obtain ⟨n, ret, hret⟩ := exists_returned text cfg a (.start g)
      set es := List.replicate n LoadEvent.init
      have hreached := (hinv es).reached
      rw [loadRun, hret] at hreached
      by_contra hgranted
      have hne : ret ≠ 0 := fun hzero => hgranted (hreached.mp hzero).2
      have hregistered : (loadRun text cfg a g es).registered = true := by
        refine (hinv es).registered.mpr ⟨hmisc, ?_⟩
        rw [loadRun, hret]
        rfl
      have hgone := (h es ret hret hne).1
      rw [hregistered] at hgone
      cases hgone
    · exact Or.inl hmisc
  · intro hcond es ret hret hne
    have hreached := (hinv es).reached
    rw [hret] at hreached
    have hmisc : a.miscRegister ≠ 0 := by
      rcases hcond with hmisc | hgranted
      · exact hmisc
      · exact fun hmisc => hne (hreached.mpr ⟨hmisc, hgranted⟩)
    constructor
    · rw [Bool.eq_false_iff]
      exact fun hregistered => hmisc ((hinv es).registered.mp hregistered).1
    · intro b hb
      rw [(hinv es).taken hmisc] at hb
      cases hb

/-- A walk through the cleared hierarchy finds nothing. -/
theorem kxWalkPa_zeroed (m : Memory) (va : Nat) : kxWalkPa .zeroed m va = none := by
  have habsent : present KkmMmuPml4e.zeroed.pgdEntry = false := by decide
  rw [kxWalkPa, kxWalk, walkEntry_of_not_present _ _ _ habsent, Option.map_none]

/-- Right after the registration a creation meets the cleared hierarchy. -/
theorem create_before_tables
    (hmisc : a.miscRegister = 0) (hcpu : a.features.sufficient = true)
    (answers : CreateAnswers) :
    let s := loadRun text cfg a g [.init, .init, .openDevice]
    s.point = .owners ∧ s.opens ≠ 0 ∧
      (DeviceRequest.createKontainer answers).UsesTables s.cpu ∧ s.kx = .zeroed := by
  have hsupported := kkmCheckCpuSupport_supported a.features .initial
  simp [loadRun, loadStep, initStep, ModuleLoad.start, hmisc, DeviceRequest.UsesTables,
    hsupported, hcpu]

/-- Requests find their tables exactly if there is no device or the processor is
not supported. -/
theorem tablesFirst_iff :
    TablesFirst text cfg a g ↔ a.miscRegister ≠ 0 ∨ a.features.sufficient = false := by
  have hinv := loadInv_run text cfg a g
  constructor
  · intro h
    by_cases hmisc : a.miscRegister = 0
    · right
      by_contra hcpu
      rw [Bool.not_eq_false] at hcpu
      obtain ⟨hpoint, hopens, huses, hkx⟩ :=
        create_before_tables text cfg a g hmisc hcpu .granted
      have hready := h [.init, .init, .openDevice] _
        (fun ret => by rw [hpoint]; simp) hopens huses
      have hwalk := hready.reached 0 (by decide)
      rw [hkx, kxWalkPa_zeroed] at hwalk
      cases hwalk
    · exact Or.inl hmisc
  · intro hcond es r hrunning hopens huses
    have hregistered := (hinv es).registered.mp ((hinv es).opened hopens)
    rcases hcond with hmisc | hcpu
    · exact absurd hregistered.1 hmisc
    · have hpoint := ((InitPoint.afterRegister_iff _).mp hregistered.2).1
      have hsupported := (hinv es).cpu hpoint
      cases r with
      | createKontainer answers =>
          rw [DeviceRequest.UsesTables, hsupported, hcpu] at huses
          cases huses
      | _ => cases huses

/-- A load is safe exactly if there is no device, or the processor keeps the device
from creating kontainers and nothing fails after the registration. -/
theorem loadsSafely_iff :
    LoadsSafely text cfg a g ↔
      a.miscRegister ≠ 0 ∨ (a.features.sufficient = false ∧ a.Granted text) := by
  have hclean := loadFailsClean_iff text cfg a g
  have hfirst := tablesFirst_iff text cfg a g
  constructor
  · rintro ⟨h, h'⟩
    rcases hclean.mp h with hmisc | hgranted
    · exact Or.inl hmisc
    · rcases hfirst.mp h' with hmisc | hcpu
      · exact Or.inl hmisc
      · exact Or.inr ⟨hcpu, hgranted⟩
  · rintro (hmisc | ⟨hcpu, hgranted⟩)
    · exact ⟨hclean.mpr (Or.inl hmisc), hfirst.mpr (Or.inl hmisc)⟩
    · exact ⟨hclean.mpr (Or.inr hgranted), hfirst.mpr (Or.inr hcpu)⟩

end Main

/-- There are no pages for the interrupt descriptor table. -/
def noIdtPages : LoadAnswers where
  features := ⟨true, true, true, true, true⟩
  miscRegister := 0
  kx := ⟨some 0, some 0, some 0⟩
  nativeIdtDesc := ⟨4095, 0⟩
  idt := none

/-- The load fails and leaves the device and the three pages of the kx tables; before
that a user may get in while there are no tables. -/
theorem noIdtPages_not_safe :
    let g : KernelState := ⟨⟨.empty 1, fun _ => 0#64⟩, 3, 0#64⟩
    let failed := loadRun smallText .stock noIdtPages g (List.replicate 9 .init)
    let early := loadRun smallText .stock noIdtPages g [.init, .init, .openDevice]
    failed.point = .returned (-enomem) ∧ failed.registered = true ∧
      failed.taken.length = 3 ∧ failed.pages.pool.freed = [] ∧
      early.point = .owners ∧ early.opens = 1 ∧ early.cpu.supported = true ∧
      early.kx = .zeroed ∧ ¬ LoadsSafely smallText .stock noIdtPages g := by
  intro g failed early
  have hpoint : failed.point = .returned (-enomem) := by decide
  have hregistered : failed.registered = true := by decide
  refine ⟨hpoint, hregistered, by decide, by decide, by decide, by decide, by decide,
    by decide, fun h => ?_⟩
  have hclean := h.failsClean _ _ hpoint (by decide)
  exact absurd (hregistered.symm.trans hclean.1) (by decide)

end Driver
end KkmModule
