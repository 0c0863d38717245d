import KkmModule.Driver.StackFrames

/-!
# Copies and the monitor's image of guest memory

A handler translates the first byte of what it copies.  Guest memory appears in
the monitor as one linear range of 512 GiB and as the ranges of two slots; each
guest address belongs to one of them, at some offset, and a copy that starts
there stays in it as long as the range lasts.
-/

namespace KkmModule
namespace Driver

open Foundation

/-! ## The copies of an exit -/

/-- A copy from or to the monitor. -/
structure UserTransfer where
  gva : BitVec 64
  mva : BitVec 64
  size : Nat

section Transfers

variable (cfg : KkmConfig) (kkm : Kkm)

/-- A copy of `n` bytes, if the guest address is translated. -/
def transferAt (gva : BitVec 64) (n : Nat) : List UserTransfer :=
  match kkmGuestVaToMonitorVa cfg kkm gva with
  | none => []
  | some (mva, _) => [⟨gva, mva, n⟩]

/-- The record of a system call and, if it has been copied, the pointer to it. -/
def hcArgsTransfers (k : KkmKontext) (m : ByteMemory) : List UserTransfer :=
  let f := hcArgsFrame k
  match kkmGuestVaToMonitorVa cfg kkm f.gva with
  | none => []
  | some (mva, _) =>
      ⟨f.gva, mva, f.size⟩ ::
        if (copyWordsToUser m mva f.words).1 then
          transferAt cfg kkm k.ga.sregs.gs.base 8
        else []

/-- The byte behind a fault address is read and, for a write access, written
back. -/
def pageFaultTransfers (a : ExitAnswers) (k : KkmKontext) : List UserTransfer :=
  let error := k.ga.trapInfo.error
  if error &&& x86PfUser = x86PfUser then
    transferAt cfg kkm k.ga.sregs.cr2 1 ++
      if ¬ a.read.failed ∧ error &&& x86PfWrite = x86PfWrite then
        transferAt cfg kkm k.ga.sregs.cr2 1
      else []
  else []

/-- All copies that `kkm_process_intr` makes or tries to make. -/
def userTransfers (a : ExitAnswers) (k : KkmKontext) (m : ByteMemory) :
    List UserTransfer :=
  match intrHandler k.ga.intrNo with
  | .commonWithoutError =>
      transferAt cfg kkm (noErrorCodeFrame k).gva (noErrorCodeFrame k).size
  | .commonWithError =>
      transferAt cfg kkm (errorCodeFrame k).gva (errorCodeFrame k).size
  | .syscall => hcArgsTransfers cfg kkm k m
  | .generalProtection => transferAt cfg kkm k.ga.trapInfo.rip 1
  | .pageFault => pageFaultTransfers cfg kkm a k
  | _ => []

theorem mem_transferAt {gva : BitVec 64} {n : Nat} {t : UserTransfer} :
    t ∈ transferAt cfg kkm gva n ↔
      t.gva = gva ∧ t.size = n ∧
        ∃ priv, kkmGuestVaToMonitorVa cfg kkm gva = some (t.mva, priv) := by
  unfold transferAt
  cases hva : kkmGuestVaToMonitorVa cfg kkm gva with
  | none => simp
  | some found =>
      obtain ⟨mva, priv⟩ := found
      simp only [List.mem_singleton, Option.some.injEq, Prod.mk.injEq]
      constructor
      · rintro rfl
        exact ⟨rfl, rfl, priv, rfl, rfl⟩
      · rintro ⟨rfl, rfl, priv', rfl, -⟩
        rfl

/-- Every copy starts at the translation of its guest address. -/
theorem userTransfers_translated
    {a : ExitAnswers} {k : KkmKontext} {m : ByteMemory} {t : UserTransfer}
    (ht : t ∈ userTransfers cfg kkm a k m) :
    (∃ priv, kkmGuestVaToMonitorVa cfg kkm t.gva = some (t.mva, priv)) ∧
      0 < t.size := by
  have hone : ∀ {gva n}, 0 < n → t ∈ transferAt cfg kkm gva n →
      (∃ priv, kkmGuestVaToMonitorVa cfg kkm t.gva = some (t.mva, priv)) ∧
        0 < t.size := by
    intro gva n hn hmem
    obtain ⟨rfl, rfl, hva⟩ := (mem_transferAt cfg kkm).mp hmem
    exact ⟨hva, hn⟩
  unfold userTransfers at ht
  split at ht
  · exact hone (show 0 < 64 by omega) ht
  · exact hone (show 0 < 72 by omega) ht
  · unfold hcArgsTransfers at ht
    cases hva : kkmGuestVaToMonitorVa cfg kkm (hcArgsFrame k).gva with
    | none => simp [hva] at ht
    | some found =>
        obtain ⟨mva, priv⟩ := found
        simp only [hva, List.mem_cons] at ht
        rcases ht with rfl | ht
        · exact ⟨⟨priv, hva⟩, show 0 < 56 by omega⟩
        · split at ht
          · exact hone (by omega) ht
          · cases ht
  · exact hone (by omega) ht
  · simp only [pageFaultTransfers] at ht
    split at ht
    · rcases List.mem_append.mp ht with ht | ht
      · exact hone (by omega) ht
      · split at ht
        · exact hone (by omega) ht
        · cases ht
    · cases ht
  · cases ht

/-! ### Nothing else is written or read -/

theorem copyWordsToUser_outside
    (m : ByteMemory) (words : List (BitVec 64)) {mva x : BitVec 64}
    (hx : ¬ InBytes mva (8 * words.length) x) :
    (copyWordsToUser m mva words).2 x = m x := by
  apply writeBytes_of_not_inBytes
  rw [length_flatMap_wordBytes]
  exact hx

theorem copyToGuest_outside
    (m : ByteMemory) (words : List (BitVec 64)) {gva x : BitVec 64}
    (hx : ∀ t ∈ transferAt cfg kkm gva (8 * words.length), ¬ InBytes t.mva t.size x) :
    (copyToGuest cfg kkm m gva words).2 x = m x := by
  unfold copyToGuest
  cases hva : kkmGuestVaToMonitorVa cfg kkm gva with
  | none => rfl
  | some found =>
      obtain ⟨mva, priv⟩ := found
      have hout := copyWordsToUser_outside m words
        (hx ⟨_, mva, _⟩ ((mem_transferAt cfg kkm).mpr ⟨rfl, rfl, priv, hva⟩))
      simp only
      rcases hcopy : copyWordsToUser m mva words with ⟨ok, after⟩
      rw [hcopy] at hout
      cases ok with
      | true => exact hout
      | false => exact hout

theorem copyToGuest_eq_none_iff
    (m : ByteMemory) (gva : BitVec 64) (words : List (BitVec 64)) (x : BitVec 64) :
    (copyToGuest cfg kkm m gva words).2 x = none ↔ m x = none := by
  unfold copyToGuest
  cases kkmGuestVaToMonitorVa cfg kkm gva with
  | none => exact Iff.rfl
  | some found =>
      have hnone : (copyWordsToUser m found.1 words).2 x = none ↔ m x = none :=
        writeBytes_eq_none x
      simp only
      rcases hcopy : copyWordsToUser m found.1 words with ⟨ok, after⟩
      rw [hcopy] at hnone
      cases ok with
      | true => exact hnone
      | false => exact hnone

/-- The pointer is a copy of its own, made once the record has been copied. -/
theorem hcArgsTransfers_eq (k : KkmKontext) (m : ByteMemory) :
    let f := hcArgsFrame k
    hcArgsTransfers cfg kkm k m =
      transferAt cfg kkm f.gva f.size ++
        match (copyToGuest cfg kkm m f.gva f.words).1 with
        | none => []
        | some _ => transferAt cfg kkm k.ga.sregs.gs.base 8 := by
  intro f
  simp only [hcArgsTransfers, copyToGuest, transferAt, f]
  cases kkmGuestVaToMonitorVa cfg kkm (hcArgsFrame k).gva with
  | none => rfl
  | some found =>
      simp only
      rcases copyWordsToUser m found.1 (hcArgsFrame k).words with ⟨ok, m'⟩
      cases ok with
      | true => rfl
      | false => rfl

theorem recordException_outside
    {words : List (BitVec 64)} {k : KkmKontext} {m : ByteMemory} {x : BitVec 64}
    (hx : ∀ t ∈ transferAt cfg kkm
      (k.ga.regs.rsp - BitVec.ofNat 64 (8 * words.length)) (8 * words.length),
      ¬ InBytes t.mva t.size x) :
    (recordException cfg kkm words k m).2.2 x = m x := by
  have hout := copyToGuest_outside cfg kkm m words hx
  simp only [recordException_eq]
  split
  · rename_i hcopy
    rw [hcopy] at hout
    exact hout
  · rename_i hcopy
    rw [hcopy] at hout
    exact hout

theorem kkmProcessSyscall_outside
    {k : KkmKontext} {m : ByteMemory} {x : BitVec 64}
    (hx : ∀ t ∈ hcArgsTransfers cfg kkm k m, ¬ InBytes t.mva t.size x) :
    (kkmProcessSyscall cfg kkm k m).2.2 x = m x := by
  let f := hcArgsFrame k
  let k₀ := kkmSetupHypercall (k.setRegs { k.ga.regs with rsp := f.gva })
    (k.ga.regs.rax.setWidth 16) (f.gva.setWidth 32) faultSyscall
  have hr : kkmProcessSyscall cfg kkm k m =
      pushHcArgs cfg kkm f.gva f.words k₀ m := rfl
  have hbase : k₀.ga.sregs.gs.base = k.ga.sregs.gs.base := rfl
  rw [hcArgsTransfers_eq] at hx
  have hout := copyToGuest_outside cfg kkm m f.words
    (fun t ht => hx t (List.mem_append_left _ ht))
  rw [hr, pushHcArgs_eq, hbase]
  split
  · rename_i hcopy
    rw [hcopy] at hout
    exact hout
  · rename_i mva m' hcopy
    rw [hcopy] at hout
    have hout' := copyToGuest_outside cfg kkm m' [f.gva] (fun t ht => hx t
      (List.mem_append_right _ (by rw [hcopy]; exact ht)))
    split
    · rename_i hcopy'
      rw [hcopy'] at hout'
      exact hout'.trans hout
    · rename_i hcopy'
      rw [hcopy'] at hout'
      exact hout'.trans hout

/-- User memory changes within the copies only. -/
theorem kkmProcessIntr_outside
    {a : ExitAnswers} {k : KkmKontext} {s : RunMemory} {x : BitVec 64}
    (hx : ∀ t ∈ userTransfers cfg kkm a k s.user, ¬ InBytes t.mva t.size x) :
    (kkmProcessIntr cfg kkm a k s).2.2.user x = s.user x := by
  unfold userTransfers at hx
  simp only [kkmProcessIntr]
  cases hhandler : intrHandler k.ga.intrNo with
  | commonWithoutError =>
      simp only [hhandler] at hx
      exact recordException_outside cfg kkm hx
  | commonWithError =>
      simp only [hhandler] at hx
      exact recordException_outside cfg kkm hx
  | syscall =>
      simp only [hhandler] at hx
      exact kkmProcessSyscall_outside cfg kkm hx
  | generalProtection => rfl
  | pageFault => rfl
  | debug => rfl
  | nmi => rfl
  | breakpoint => rfl
  | forward => rfl

theorem copyWordsToUser_complete_congr
    (m m' : ByteMemory) (words : List (BitVec 64)) {mva : BitVec 64}
    (h : ∀ x, InBytes mva (8 * words.length) x → (m' x = none ↔ m x = none)) :
    (copyWordsToUser m' mva words).1 = (copyWordsToUser m mva words).1 := by
  rw [Bool.eq_iff_iff, copyWordsToUser_complete_iff, copyWordsToUser_complete_iff]
  exact forall₂_congr fun x hx => not_congr (h x hx)

theorem copyToGuest_congr
    (m m' : ByteMemory) (words : List (BitVec 64)) {gva : BitVec 64}
    (h : ∀ t ∈ transferAt cfg kkm gva (8 * words.length),
      ∀ x, InBytes t.mva t.size x → (m' x = none ↔ m x = none)) :
    (copyToGuest cfg kkm m' gva words).1 = (copyToGuest cfg kkm m gva words).1 := by
  unfold copyToGuest
  cases hva : kkmGuestVaToMonitorVa cfg kkm gva with
  | none => rfl
  | some found =>
      obtain ⟨mva, priv⟩ := found
      have hok := copyWordsToUser_complete_congr m m' words
        (h ⟨_, mva, _⟩ ((mem_transferAt cfg kkm).mpr ⟨rfl, rfl, priv, hva⟩))
      simp only
      rcases hcopy' : copyWordsToUser m' mva words with ⟨ok', after'⟩
      rcases hcopy : copyWordsToUser m mva words with ⟨ok, after⟩
      rw [hcopy', hcopy] at hok
      obtain rfl : ok' = ok := hok
      cases ok' with
      | true => rfl
      | false => rfl

theorem recordException_congr
    {words : List (BitVec 64)} {k : KkmKontext} {m m' : ByteMemory}
    (h : ∀ t ∈ transferAt cfg kkm
      (k.ga.regs.rsp - BitVec.ofNat 64 (8 * words.length)) (8 * words.length),
      ∀ x, InBytes t.mva t.size x → m' x = m x) :
    (recordException cfg kkm words k m').1 = (recordException cfg kkm words k m).1 ∧
      (recordException cfg kkm words k m').2.1 =
        (recordException cfg kkm words k m).2.1 := by
  have hok := copyToGuest_congr cfg kkm m m' words
    (fun t ht x hx => by rw [h t ht x hx])
  simp only [recordException_eq]
  generalize copyToGuest cfg kkm m' _ words = copy' at hok ⊢
  generalize copyToGuest cfg kkm m _ words = copy at hok ⊢
  obtain ⟨found', after'⟩ := copy'
  obtain ⟨found, after⟩ := copy
  obtain rfl : found' = found := hok
  cases found' with
  | none => exact ⟨rfl, rfl⟩
  | some mva => exact ⟨rfl, rfl⟩

theorem kkmProcessSyscall_congr
    {k : KkmKontext} {m m' : ByteMemory}
    (h : ∀ t ∈ hcArgsTransfers cfg kkm k m, ∀ x, InBytes t.mva t.size x → m' x = m x) :
    (kkmProcessSyscall cfg kkm k m').1 = (kkmProcessSyscall cfg kkm k m).1 ∧
      (kkmProcessSyscall cfg kkm k m').2.1 = (kkmProcessSyscall cfg kkm k m).2.1 := by
  let f := hcArgsFrame k
  let k₀ := kkmSetupHypercall (k.setRegs { k.ga.regs with rsp := f.gva })
    (k.ga.regs.rax.setWidth 16) (f.gva.setWidth 32) faultSyscall
  have hr : ∀ m, kkmProcessSyscall cfg kkm k m =
      pushHcArgs cfg kkm f.gva f.words k₀ m := fun _ => rfl
  have hbase : k₀.ga.sregs.gs.base = k.ga.sregs.gs.base := rfl
  rw [hcArgsTransfers_eq] at h
  have hok := copyToGuest_congr cfg kkm m m' f.words
    (fun t ht x hx => by rw [h t (List.mem_append_left _ ht) x hx])
  have hmapped := copyToGuest_eq_none_iff cfg kkm m f.gva f.words
  have hmapped' := copyToGuest_eq_none_iff cfg kkm m' f.gva f.words
  rw [hr, hr, pushHcArgs_eq, pushHcArgs_eq, hbase]
  rcases hcopy' : copyToGuest cfg kkm m' f.gva f.words with ⟨found', m₁'⟩
  rcases hcopy : copyToGuest cfg kkm m f.gva f.words with ⟨found, m₁⟩
  rw [hcopy', hcopy] at hok
  rw [hcopy'] at hmapped'
  rw [hcopy] at hmapped
  obtain rfl : found' = found := hok
  cases found' with
  | none => exact ⟨rfl, rfl⟩
  | some mva =>
      have hok' := copyToGuest_congr cfg kkm m₁ m₁' [f.gva] (fun t ht x hx => by
        rw [hmapped' x, hmapped x, h t (List.mem_append_right _
          (by rw [hcopy]; exact ht)) x hx])
      simp only
      generalize copyToGuest cfg kkm m₁' k.ga.sregs.gs.base [f.gva] = copy' at hok' ⊢
      generalize copyToGuest cfg kkm m₁ k.ga.sregs.gs.base [f.gva] = copy at hok' ⊢
      obtain ⟨found₂', m₂'⟩ := copy'
      obtain ⟨found₂, m₂⟩ := copy
      obtain rfl : found₂' = found₂ := hok'
      cases found₂' with
      | none => exact ⟨rfl, rfl⟩
      | some mva' => exact ⟨rfl, rfl⟩

/-- What a handler returns and does to the kontext depends on user memory within
the copies only. -/
theorem kkmProcessIntr_congr_user
    {a : ExitAnswers} {k : KkmKontext} {s : RunMemory} {user : ByteMemory}
    (h : ∀ t ∈ userTransfers cfg kkm a k s.user,
      ∀ x, InBytes t.mva t.size x → user x = s.user x) :
    (kkmProcessIntr cfg kkm a k { s with user := user }).1 =
        (kkmProcessIntr cfg kkm a k s).1 ∧
      (kkmProcessIntr cfg kkm a k { s with user := user }).2.1 =
        (kkmProcessIntr cfg kkm a k s).2.1 := by
  unfold userTransfers at h
  simp only [kkmProcessIntr]
  cases hhandler : intrHandler k.ga.intrNo with
  | commonWithoutError =>
      simp only [hhandler] at h
      exact recordException_congr cfg kkm h
  | commonWithError =>
      simp only [hhandler] at h
      exact recordException_congr cfg kkm h
  | syscall =>
      simp only [hhandler] at h
      exact kkmProcessSyscall_congr cfg kkm h
  | generalProtection =>
      simp only [hhandler] at h
      unfold kkmProcessGeneralProtection
      cases hva : kkmGuestVaToMonitorVa cfg kkm k.ga.trapInfo.rip with
      | none => simp
      | some found =>
          obtain ⟨mva, priv⟩ := found
          have hbyte := h ⟨_, mva, _⟩
            ((mem_transferAt cfg kkm).mpr ⟨rfl, rfl, priv, hva⟩) mva
            ⟨0, Nat.one_pos, by simp⟩
          simp [hbyte]
  | pageFault => exact ⟨rfl, rfl⟩
  | debug => exact ⟨rfl, rfl⟩
  | nmi => exact ⟨rfl, rfl⟩
  | breakpoint => exact ⟨rfl, rfl⟩
  | forward => exact ⟨rfl, rfl⟩

/-- A page fault asks for what its copies bring. -/
theorem kkmProcessPageFault_congr
    {a a' : ExitAnswers} {k : KkmKontext}
    (hread : 0 < (pageFaultTransfers cfg kkm a k).length → a'.read = a.read)
    (hwrite : 1 < (pageFaultTransfers cfg kkm a k).length → a'.write = a.write)
    (nativePgd : Nat) (m : Memory) :
    kkmProcessPageFault cfg nativePgd kkm a'.read a'.write k m =
      kkmProcessPageFault cfg nativePgd kkm a.read a.write k m := by
  unfold kkmProcessPageFault
  cases hva : kkmGuestVaToMonitorVa cfg kkm k.ga.sregs.cr2 with
  | none => simp only [hva]
  | some found =>
      obtain ⟨mva, priv⟩ := found
      simp only [hva]
      have hone : (transferAt cfg kkm k.ga.sregs.cr2 1).length = 1 := by
        simp [transferAt, hva]
      by_cases huser : k.ga.trapInfo.error &&& x86PfUser = x86PfUser
      · have hread' : a'.read = a.read :=
          hread (by simp [pageFaultTransfers, huser, hone])
        rw [hread']
        by_cases hboth : ¬ a.read.failed ∧
            k.ga.trapInfo.error &&& x86PfWrite = x86PfWrite
        · rw [hwrite (by
            simp only [pageFaultTransfers, if_pos huser, if_pos hboth,
              List.length_append, hone]
            omega)]
        · -- the byte is not written back
          by_cases hfailed : a.read.failed = true
          · simp [huser, hfailed]
          · have hno : ¬ k.ga.trapInfo.error &&& x86PfWrite = x86PfWrite :=
              fun h => hboth ⟨hfailed, h⟩
            simp [huser, hno]
      · simp [huser]

/-- What the native kernel answers reaches a handler through the copies only. -/
theorem kkmProcessIntr_congr_answers
    {a a' : ExitAnswers} {k : KkmKontext} {s : RunMemory}
    (hpgd : a'.nativePgd = a.nativePgd)
    (hread : 0 < (userTransfers cfg kkm a k s.user).length → a'.read = a.read)
    (hwrite : 1 < (userTransfers cfg kkm a k s.user).length → a'.write = a.write) :
    kkmProcessIntr cfg kkm a' k s = kkmProcessIntr cfg kkm a k s := by
  unfold userTransfers at hread hwrite
  simp only [kkmProcessIntr]
  cases hhandler : intrHandler k.ga.intrNo with
  | pageFault =>
      simp only [hhandler] at hread hwrite
      have hfault := kkmProcessPageFault_congr cfg kkm
        (k := { k with run := { k.run with exitReason := kkmExitUnknown } })
        hread hwrite a.nativePgd s.tables
      simp only [hpgd, hfault]
  | _ => rfl

/-- The handling of an exit meets the monitor in its copies only. -/
structure MeetsInCopies
    (a : ExitAnswers) (k : KkmKontext) (s : RunMemory)
    (copies : List UserTransfer) : Prop where
  written : ∀ x, (∀ t ∈ copies, ¬ InBytes t.mva t.size x) →
    (kkmProcessIntr cfg kkm a k s).2.2.user x = s.user x
  read : ∀ user : ByteMemory,
    (∀ t ∈ copies, ∀ x, InBytes t.mva t.size x → user x = s.user x) →
    (kkmProcessIntr cfg kkm a k { s with user := user }).1 =
        (kkmProcessIntr cfg kkm a k s).1 ∧
      (kkmProcessIntr cfg kkm a k { s with user := user }).2.1 =
        (kkmProcessIntr cfg kkm a k s).2.1
  /-- a page fault reads in its first copy and writes in its second one -/
  fault : ∀ a' : ExitAnswers, a'.nativePgd = a.nativePgd →
    (0 < copies.length → a'.read = a.read) →
    (1 < copies.length → a'.write = a.write) →
    kkmProcessIntr cfg kkm a' k s = kkmProcessIntr cfg kkm a k s

/-! ## The image of guest memory -/

/-- The ranges in which guest memory appears in the monitor. -/
inductive MonitorRange where
  | linear
  | vdso
  | kmguestmem
deriving DecidableEq

/-- The size that is registered for a slot. -/
def registeredSize (slot : KkmMemSlot) : Nat :=
  if slot.used = true then slot.mr.memorySize.toNat else 0

namespace MonitorRange

def base : MonitorRange → BitVec 64
  | .linear => kkmKmUserMemBase cfg
  | .vdso => (kkm.memSlot kkmKmRsrvVdsoslot).mr.userspaceAddr
  | .kmguestmem => (kkm.memSlot kkmKmRsrvKmguestmemSlot).mr.userspaceAddr

def size : MonitorRange → Nat
  | .linear => kkmGuestMaxPhysMem.toNat
  | .vdso => registeredSize (kkm.memSlot kkmKmRsrvVdsoslot)
  | .kmguestmem => registeredSize (kkm.memSlot kkmKmRsrvKmguestmemSlot)

/-- The whole copy lies in the range. -/
def Holds (r : MonitorRange) (t : UserTransfer) : Prop :=
  ∀ x, InBytes t.mva t.size x → InBytes (r.base cfg kkm) (r.size kkm) x

end MonitorRange

/-- The range behind a guest address and the offset in it; the linear range
appears twice in the guest. -/
def rangeOf (gva : BitVec 64) : MonitorRange × Nat :=
  if kkmGuestMemStartVa ≤ gva ∧ gva < kkmGuestMaxPhysMem then (.linear, gva.toNat)
  else if kkmGuestVaOffset ≤ gva ∧ gva < kkmGuestMemTopVa then
    (.linear, (gva - kkmGuestVaOffset).toNat)
  else if inSlotRange (kkm.memSlot kkmKmRsrvVdsoslot)
      kkmGuestVvarVdsoBaseVa gva = true then
    (.vdso, (gva - kkmGuestVvarVdsoBaseVa).toNat)
  else (.kmguestmem, (gva - kkmGuestKmguestmemBaseVa).toNat)

theorem inSlotRange_offset
    {slot : KkmMemSlot} {base gva : BitVec 64}
    (h : inSlotRange slot base gva = true) :
    (gva - base).toNat < registeredSize slot := by
  simp only [inSlotRange, Bool.and_eq_true, decide_eq_true_eq] at h
  obtain ⟨⟨hused, hlo⟩, hhi⟩ := h
  rw [registeredSize, if_pos hused]
  rw [BitVec.le_def] at hlo
  rw [BitVec.lt_def, BitVec.toNat_add] at hhi
  rw [BitVec.toNat_sub]
  have hbase := base.isLt
  have hgva := gva.isLt
  have hsize := slot.mr.memorySize.isLt
  omega

theorem MonitorRange.size_lt (r : MonitorRange) : r.size kkm < 2 ^ 64 := by
  have hslot : ∀ slot : KkmMemSlot, registeredSize slot < 2 ^ 64 := by
    intro slot
    unfold registeredSize
    split
    · exact slot.mr.memorySize.isLt
    · omega
  cases r with
  | linear => exact kkmGuestMaxPhysMem.isLt
  | vdso => exact hslot _
  | kmguestmem => exact hslot _

/-- `kkm_guest_va_to_monitor_va` gives the address at the offset in the range. -/
theorem kkmGuestVaToMonitorVa_rangeOf
    {gva mva : BitVec 64} {priv : Bool}
    (hva : kkmGuestVaToMonitorVa cfg kkm gva = some (mva, priv)) :
    let r := rangeOf kkm gva
    mva = r.1.base cfg kkm + BitVec.ofNat 64 r.2 ∧ r.2 < r.1.size kkm := by
  have hself : ∀ x : BitVec 64, BitVec.ofNat 64 x.toNat = x := by
    intro x
    rw [BitVec.ofNat_toNat, BitVec.setWidth_eq]
  simp only [kkmGuestVaToMonitorVa, rangeOf] at hva ⊢
  split at hva
  · rename_i hbottom
    obtain ⟨rfl, -⟩ : kkmKmUserMemBase cfg + gva = mva ∧ false = priv := by
      simpa using hva
    rw [if_pos hbottom]
    exact ⟨by rw [hself]; rfl, hbottom.2⟩
  · rename_i hbottom
    rw [if_neg hbottom]
    split at hva
    · rename_i htop
      obtain ⟨rfl, -⟩ : kkmKmUserMemBase cfg + (gva - kkmGuestVaOffset) = mva ∧
          false = priv := by simpa using hva
      rw [if_pos htop]
      refine ⟨by rw [hself]; rfl, ?_⟩
      obtain ⟨hlo, hhi⟩ := htop
      have hoff : kkmGuestVaOffset = 0x7F8000000000#64 := by decide
      simp only [hoff, kkmGuestMemTopVa, BitVec.le_def, BitVec.lt_def,
        BitVec.toNat_ofNat] at hlo hhi
      simp only [MonitorRange.size, hoff, kkmGuestMaxPhysMem, BitVec.toNat_sub,
        BitVec.toNat_ofNat]
      omega
    · rename_i htop
      rw [if_neg htop]
      split at hva
      · rename_i hvdso
        obtain ⟨rfl, -⟩ : gva - kkmGuestVvarVdsoBaseVa +
            (kkm.memSlot kkmKmRsrvVdsoslot).mr.userspaceAddr = mva ∧ true = priv := by
          simpa using hva
        rw [if_pos hvdso]
        exact ⟨by rw [hself]; exact BitVec.add_comm _ _, inSlotRange_offset hvdso⟩
      · rename_i hvdso
        rw [if_neg hvdso]
        split at hva
        · rename_i hmem
          obtain ⟨rfl, -⟩ : gva - kkmGuestKmguestmemBaseVa +
              (kkm.memSlot kkmKmRsrvKmguestmemSlot).mr.userspaceAddr = mva ∧
                true = priv := by simpa using hva
          exact ⟨by rw [hself]; exact BitVec.add_comm _ _, inSlotRange_offset hmem⟩
        · cases hva

/-- The copy ends before the range of its guest address does. -/
def EndsInRange (t : UserTransfer) : Prop :=
  (rangeOf kkm t.gva).2 + t.size ≤ (rangeOf kkm t.gva).1.size kkm

instance (t : UserTransfer) : Decidable (EndsInRange kkm t) :=
  inferInstanceAs (Decidable (_ ≤ _))

/-- Where a guest address is in the monitor. -/
def placeOf (gva : BitVec 64) : BitVec 64 :=
  (rangeOf kkm gva).1.base cfg kkm + BitVec.ofNat 64 (rangeOf kkm gva).2

/-- The slots are placed so that the whole copy, from its first byte on, is within
another range too. -/
def InOtherRange (t : UserTransfer) : Prop :=
  ∃ r, r ≠ (rangeOf kkm t.gva).1 ∧
    (placeOf cfg kkm t.gva - r.base cfg kkm).toNat + t.size ≤ r.size kkm

/-- A translated copy lies in the range of its guest address exactly when it ends
there. -/
theorem holds_rangeOf_iff
    {t : UserTransfer} {priv : Bool}
    (hva : kkmGuestVaToMonitorVa cfg kkm t.gva = some (t.mva, priv)) :
    (rangeOf kkm t.gva).1.Holds cfg kkm t ↔ EndsInRange kkm t := by
  obtain ⟨hmva, hoff⟩ := kkmGuestVaToMonitorVa_rangeOf cfg kkm hva
  have hsize := (rangeOf kkm t.gva).1.size_lt kkm
  rw [MonitorRange.Holds, hmva]
  exact inBytes_subset_iff hoff hsize

/-- Where a copy starts decides in which other ranges it lies. -/
theorem holds_iff
    {t : UserTransfer} {priv : Bool}
    (hva : kkmGuestVaToMonitorVa cfg kkm t.gva = some (t.mva, priv))
    (hsize : 0 < t.size) (r : MonitorRange) :
    r.Holds cfg kkm t ↔
      (placeOf cfg kkm t.gva - r.base cfg kkm).toNat + t.size ≤ r.size kkm := by
  have hmva : t.mva = placeOf cfg kkm t.gva :=
    (kkmGuestVaToMonitorVa_rangeOf cfg kkm hva).1
  rw [MonitorRange.Holds, hmva]
  exact inBytes_subset_iff_of_pos hsize (r.size_lt kkm)

/-- The copies are all that the handling of an exit reads or writes in the monitor,
and they stay in the image of guest memory exactly when each of them ends in the
range it starts in, or lies in another one by the way the slots are placed. -/
theorem userTransfers_in_image_iff
    (a : ExitAnswers) (k : KkmKontext) (s : RunMemory) :
    MeetsInCopies cfg kkm a k s (userTransfers cfg kkm a k s.user) ∧
      ((∀ t ∈ userTransfers cfg kkm a k s.user, ∃ r : MonitorRange,
          r.Holds cfg kkm t) ↔
        ∀ t ∈ userTransfers cfg kkm a k s.user,
          EndsInRange kkm t ∨ InOtherRange cfg kkm t) := by
  refine ⟨⟨fun x hx => kkmProcessIntr_outside cfg kkm hx,
    fun user h => kkmProcessIntr_congr_user cfg kkm h,
    fun a' hpgd hread hwrite =>
      kkmProcessIntr_congr_answers cfg kkm hpgd hread hwrite⟩, ?_⟩
  refine forall₂_congr fun t ht => ?_
  obtain ⟨⟨priv, hva⟩, hsize⟩ := userTransfers_translated cfg kkm ht
  rw [← holds_rangeOf_iff cfg kkm hva]
  constructor
  · rintro ⟨r, hr⟩
    by_cases hsame : r = (rangeOf kkm t.gva).1
    · left
      rw [← hsame]
      exact hr
    · right
      exact ⟨r, hsame, (holds_iff cfg kkm hva hsize r).mp hr⟩
  · rintro (hown | ⟨r, -, hr⟩)
    · exact ⟨_, hown⟩
    · exact ⟨r, (holds_iff cfg kkm hva hsize r).mpr hr⟩

end Transfers

/-- A payload whose stack pointer is 56 bytes above 512 GiB divides by zero: the
frame starts 8 bytes before the end of the linear range. -/
theorem divideError_leaves_image :
    ¬ ∀ t ∈ userTransfers .stock NewKontainer.zeroed.kkm zeroedExitAnswers
        (exitWithStack 0#64 0x8000000038#64) zeroedRunMemory.user,
      ∃ r : MonitorRange, r.Holds .stock NewKontainer.zeroed.kkm t := by
  intro h
  let t : UserTransfer := ⟨0x7FFFFFFFF8#64, 0x7FFFFFFFF8#64, 64⟩
  have ht : t ∈ userTransfers .stock NewKontainer.zeroed.kkm zeroedExitAnswers
      (exitWithStack 0#64 0x8000000038#64) zeroedRunMemory.user :=
    (mem_transferAt .stock NewKontainer.zeroed.kkm).mpr ⟨rfl, rfl, false, by decide⟩
  have hva : kkmGuestVaToMonitorVa .stock NewKontainer.zeroed.kkm t.gva =
      some (t.mva, false) := by decide
  have hlong : ¬ EndsInRange NewKontainer.zeroed.kkm t := by decide
  obtain ⟨r, hr⟩ := h t ht
  cases r with
  | linear => exact hlong ((holds_rangeOf_iff .stock NewKontainer.zeroed.kkm hva).mp hr)
  | vdso =>
      obtain ⟨i, hi, -⟩ := hr t.mva ⟨0, show 0 < 64 by omega, by decide⟩
      exact absurd hi (Nat.not_lt_zero i)
  | kmguestmem =>
      obtain ⟨i, hi, -⟩ := hr t.mva ⟨0, show 0 < 64 by omega, by decide⟩
      exact absurd hi (Nat.not_lt_zero i)

end Driver
end KkmModule
