import KkmModule.Driver.RunLoop

/-!
# Page faults that repeat

A resolved page fault enters the payload again.  If the payload then repeats it,
the call ends with -EFAULT at the 18th exit of an unbroken row.  The row is kept
in `prev_trap_no`, `prev_trap_addr`, `prev_error_code` and `trap_repeat_counter`;
`TrapMemory` says what they hold after any turns.
-/

namespace KkmModule
namespace Driver

open Foundation

/-! ## Rows of one fault -/

/-- The page fault a turn ends with: its address and error code. -/
def PayloadTurn.fault (t : PayloadTurn) : Option (BitVec 64 × BitVec 64) :=
  if t.exit.intrNo = x86TrapPf then some (t.exit.cr2, t.exit.error) else none

/-- The fault of the latest turn; turns are given latest first. -/
def lastFault : List PayloadTurn → Option (BitVec 64 × BitVec 64)
  | [] => none
  | t :: _ => t.fault

/-- The length of the unbroken row of one page fault that the turns end with. -/
def faultRow (past : List PayloadTurn) : Nat :=
  match lastFault past with
  | none => 0
  | some f => (past.takeWhile fun t => t.fault = some f).length

section Rows

variable {t : PayloadTurn} {past : List PayloadTurn} {f : BitVec 64 × BitVec 64}

theorem faultRow_cons_none (ht : t.fault = none) : faultRow (t :: past) = 0 := by
  simp [faultRow, lastFault, ht]

theorem faultRow_cons_same (ht : t.fault = some f) (hlast : lastFault past = some f) :
    faultRow (t :: past) = faultRow past + 1 := by
  have hpast : faultRow past =
      (past.takeWhile fun t' => t'.fault = some f).length := by
    rw [faultRow, hlast]
  rw [hpast]
  simp [faultRow, lastFault, ht]

theorem faultRow_cons_other (ht : t.fault = some f) (hlast : lastFault past ≠ some f) :
    faultRow (t :: past) = 1 := by
  cases past with
  | nil => simp [faultRow, lastFault, ht]
  | cons t' past =>
      have hne : t'.fault ≠ some f := hlast
      simp [faultRow, lastFault, ht, hne]

theorem faultRow_pos (hlast : lastFault past = some f) : 0 < faultRow past := by
  cases past with
  | nil => cases hlast
  | cons t past =>
      have ht : t.fault = some f := hlast
      simp [faultRow, lastFault, ht]

theorem faultRow_le_length (past : List PayloadTurn) : faultRow past ≤ past.length := by
  rw [faultRow]
  split
  · exact Nat.zero_le _
  · exact (List.takeWhile_sublist _).length_le

theorem length_le_faultRow
    {row : List PayloadTurn} (hrow : ∀ t ∈ row, t.fault = some f)
    (older : List PayloadTurn) :
    row.length ≤ faultRow (row ++ older) := by
  induction row with
  | nil => exact Nat.zero_le _
  | cons t row ih =>
      have ht := hrow t List.mem_cons_self
      have hle := ih fun t' ht' => hrow t' (List.mem_cons_of_mem _ ht')
      cases row with
      | nil =>
          have hpos : 0 < faultRow ([t] ++ older) := faultRow_pos ht
          exact hpos
      | cons t' row =>
          have hlast : lastFault (t' :: row ++ older) = some f :=
            hrow t' (List.mem_cons_of_mem _ List.mem_cons_self)
          rw [List.cons_append, faultRow_cons_same ht hlast]
          exact Nat.succ_le_succ hle

end Rows

/-! ## What is remembered -/

/-- The fault of the exit that is being handled. -/
def currentFault (k : KkmKontext) : Option (BitVec 64 × BitVec 64) :=
  if k.ga.intrNo = x86TrapPf then some (k.trapAddr, k.errorCode) else none

/-- The fault that is remembered from the exit before. -/
def prevFault (k : KkmKontext) : Option (BitVec 64 × BitVec 64) :=
  if k.prevTrapNo = x86TrapPf then some (k.prevTrapAddr, k.prevErrorCode) else none

/-- Stale addresses of other vectors do not count. -/
theorem isRepeatedTrap_iff (k : KkmKontext) :
    isRepeatedTrap k = true ↔ ∃ f, currentFault k = some f ∧ prevFault k = some f := by
  simp only [isRepeatedTrap, currentFault, prevFault, Bool.and_eq_true, beq_iff_eq]
  constructor
  · rintro ⟨⟨⟨hno, hprev⟩, haddr⟩, hcode⟩
    exact ⟨(k.trapAddr, k.errorCode), by rw [if_pos hno],
      by rw [if_pos hprev, haddr, hcode]⟩
  · rintro ⟨f, hcurrent, hprev⟩
    split at hcurrent
    · split at hprev
      · rename_i hno hprevNo
        rw [← hcurrent] at hprev
        simp only [Option.some.injEq, Prod.mk.injEq] at hprev
        exact ⟨⟨⟨hno, hprevNo⟩, hprev.1⟩, hprev.2⟩
      · cases hprev
    · cases hcurrent

/-- The repeat counter after the given turns; it starts at the unsigned
maximum. -/
def rowCounter : List PayloadTurn → BitVec 64
  | [] => minusOne
  | t :: past => BitVec.ofNat 64 (faultRow (t :: past) - 1)

/-- What the four fields hold at `begin`. -/
structure TrapMemory (past : List PayloadTurn) (k : KkmKontext) : Prop where
  fault : prevFault k = lastFault past
  counter : k.trapRepeatCounter = rowCounter past
  row : faultRow past ≤ 17

theorem rowCounter_toNat_le {past : List PayloadTurn} (hpast : past ≠ []) :
    (rowCounter past).toNat ≤ faultRow past - 1 := by
  cases past with
  | nil => exact absurd rfl hpast
  | cons t past =>
      rw [rowCounter, BitVec.toNat_ofNat]
      exact Nat.mod_le _ _

/-! ## One exit -/

section Exit

variable (cfg : KkmConfig) (kkm : Kkm) (a : ExitAnswers) (k : KkmKontext)
  (s : RunMemory)

theorem kkmProcessIntr_intrNo :
    (kkmProcessIntr cfg kkm a k s).2.1.ga.intrNo = k.ga.intrNo := by
  refine Writes.keeps (f := fun k => k.ga.intrNo) ?_
    (kkmProcessIntr_writes cfg kkm a k s)
  intro k w _
  cases w <;> rfl

theorem kkmProcessIntr_prevFault :
    prevFault (kkmProcessIntr cfg kkm a k s).2.1 = prevFault k := by
  refine Writes.keeps ?_ (kkmProcessIntr_writes cfg kkm a k s)
  intro k w _
  cases w <;> rfl

theorem kkmProcessIntr_trapRepeatCounter :
    (kkmProcessIntr cfg kkm a k s).2.1.trapRepeatCounter = k.trapRepeatCounter := by
  refine Writes.keeps ?_ (kkmProcessIntr_writes cfg kkm a k s)
  intro k w _
  cases w <;> rfl

theorem kkmProcessPageFault_trap
    (nativePgd : Nat) (read : UserRead) (write : UserWrite) (tables : Memory) :
    let k' := (kkmProcessPageFault cfg nativePgd kkm read write k tables).2.1
    k'.trapAddr = k.ga.sregs.cr2 ∧ k'.errorCode = k.ga.trapInfo.error := by
  simp only [kkmProcessPageFault]
  split
  · exact ⟨rfl, rfl⟩
  · split
    · split
      · exact ⟨rfl, rfl⟩
      · split <;> exact ⟨rfl, rfl⟩
    · exact ⟨rfl, rfl⟩

/-- A page fault is the current fault after its handling. -/
theorem kkmProcessIntr_currentFault :
    currentFault (kkmProcessIntr cfg kkm a k s).2.1 =
      if k.ga.intrNo = x86TrapPf then some (k.ga.sregs.cr2, k.ga.trapInfo.error)
      else none := by
  rw [currentFault, kkmProcessIntr_intrNo]
  split
  · rename_i hpf
    have hhandler : intrHandler k.ga.intrNo = .pageFault := by
      rw [hpf]
      rfl
    simp only [kkmProcessIntr, hhandler]
    obtain ⟨haddr, hcode⟩ := kkmProcessPageFault_trap cfg kkm
      { k with run := { k.run with exitReason := kkmExitUnknown } } a.nativePgd
      a.read a.write s.tables
    rw [haddr, hcode]
  · rfl

theorem kkmProcessPageFault_resolved
    {cfg : KkmConfig} {kkm : Kkm} {k : KkmKontext} {nativePgd : Nat}
    {read : UserRead} {write : UserWrite} {tables : Memory}
    {mva : BitVec 64 × Bool}
    (hva : kkmGuestVaToMonitorVa cfg kkm k.ga.sregs.cr2 = some mva)
    (huser : k.ga.trapInfo.error &&& x86PfUser = x86PfUser)
    (hread : read.failed = false) (hwrite : write.failed = false) :
    (kkmProcessPageFault cfg nativePgd kkm read write k tables).1 =
      kkmKontextFaultProcessDone := by
  simp [kkmProcessPageFault, hva, huser, hread, hwrite]

end Exit

section Turn

variable {cfg : KkmConfig} {t : PayloadTurn} {past : List PayloadTurn}
  {k : KkmKontext} {m : RunMemory}

theorem processIntr_currentFault :
    currentFault (t.processIntr cfg k m).2.1 = t.fault :=
  kkmProcessIntr_currentFault cfg t.kkm t.answers (t.atExit k)
    { m with user := t.user }

theorem TrapMemory.processIntr (h : TrapMemory past k) :
    TrapMemory past (t.processIntr cfg k m).2.1 where
  fault := (kkmProcessIntr_prevFault cfg t.kkm t.answers (t.atExit k)
    { m with user := t.user }).trans h.fault
  counter := (kkmProcessIntr_trapRepeatCounter cfg t.kkm t.answers (t.atExit k)
    { m with user := t.user }).trans h.counter
  row := h.row

/-- A resolved exit that does not repeat the fault before. -/
theorem TrapMemory.countTrap_other
    (h : TrapMemory past k) (ht : currentFault k = t.fault)
    (hother : isRepeatedTrap k = false) :
    (countTrap k).1 = 0 ∧ TrapMemory (t :: past) (countTrap k).2 := by
  have hrow : faultRow (t :: past) ≤ 1 := by
    cases hf : t.fault with
    | none => rw [faultRow_cons_none hf]; omega
    | some f =>
        refine Nat.le_of_eq (faultRow_cons_other hf ?_)
        intro hlast
        rw [(isRepeatedTrap_iff k).mpr ⟨f, ht.trans hf, h.fault.trans hlast⟩] at hother
        cases hother
  simp only [countTrap, hother, Bool.false_eq_true, if_false, true_and]
  refine ⟨ht, ?_, by omega⟩
  have hzero : faultRow (t :: past) - 1 = 0 := by omega
  rw [rowCounter, hzero]
  rfl

/-- A resolved exit that repeats the fault before. -/
theorem TrapMemory.countTrap_same
    (h : TrapMemory past k) (ht : currentFault k = t.fault)
    (hsame : isRepeatedTrap k = true) :
    (countTrap k).2.trapRepeatCounter = rowCounter (t :: past) ∧
      faultRow (t :: past) ≤ 18 ∧
      (if faultRow (t :: past) = 18 then (countTrap k).1 = -efault
      else (countTrap k).1 = 0 ∧ TrapMemory (t :: past) (countTrap k).2) := by
  obtain ⟨f, hcurrent, hprev⟩ := (isRepeatedTrap_iff k).mp hsame
  have hlast : lastFault past = some f := h.fault.symm.trans hprev
  have hfault : t.fault = some f := ht.symm.trans hcurrent
  have hrow := faultRow_cons_same hfault hlast
  have hpos := faultRow_pos hlast
  have hle := h.row
  have hcounter : k.trapRepeatCounter + 1#64 = BitVec.ofNat 64 (faultRow past) := by
    rw [h.counter]
    cases past with
    | nil => cases hlast
    | cons t' past =>
        rw [rowCounter, ← BitVec.ofNat_add]
        congr 1
        omega
  have hrowCounter : rowCounter (t :: past) = BitVec.ofNat 64 (faultRow past) := by
    rw [rowCounter, hrow, Nat.add_sub_cancel]
  have hmany : kkmMaxRepeatTrap < k.trapRepeatCounter + 1#64 ↔ faultRow past = 17 := by
    rw [hcounter, BitVec.lt_def, BitVec.toNat_ofNat]
    simp only [kkmMaxRepeatTrap, BitVec.toNat_ofNat]
    omega
  refine ⟨?_, by omega, ?_⟩
  · simp only [countTrap, hsame, if_true]
    split <;> exact hcounter.trans hrowCounter.symm
  · simp only [countTrap, hsame, if_true, hmany]
    split
    · rename_i h18
      have h17 : faultRow past = 17 := by omega
      rw [if_pos h17]
    · rename_i h18
      have h17 : ¬ faultRow past = 17 := by omega
      rw [if_neg h17]
      exact ⟨rfl, (h.fault.trans hlast).trans hfault.symm,
        hcounter.trans hrowCounter.symm, by omega⟩

end Turn

/-! ## Any number of exits -/

section Run

variable {cfg : KkmConfig} {k : KkmKontext} {m : RunMemory}

theorem kkmKontextSwitchKernelStart_trapMemory
    (hzero : (kkmKontextSwitchKernelStart m.user k).1 = 0) :
    TrapMemory [] (kkmKontextSwitchKernelStart m.user k).2 := by
  have h := kkmKontextSwitchKernelStart_started hzero
  refine ⟨?_, h.trapRepeatCounter, Nat.zero_le _⟩
  have hne : minusOne ≠ x86TrapPf := by decide
  rw [prevFault, h.prevTrapNo, if_neg hne]
  rfl

/-- One turn without a signal whose exit is resolved. -/
theorem TrapMemory.turn
    {past : List PayloadTurn} {t : PayloadTurn} (h : TrapMemory past k)
    (hsignal : t.signal = false)
    (hdone : (t.processIntr cfg k m).1 = kkmKontextFaultProcessDone) :
    (faultRow (t :: past) = 18 ∧ ∃ k' m',
        loopTurn cfg t k m = .returned (-efault) k' m' ∧
          k'.trapRepeatCounter = 17#64) ∨
      (faultRow (t :: past) < 18 ∧ ∃ k' m',
        loopTurn cfg t k m = .begin k' m' ∧ TrapMemory (t :: past) k') := by
  have hfault : -efault ≠ 0 := by decide
  have hmemory : TrapMemory past (t.processIntr cfg k m).2.1 := h.processIntr
  have hcurrent : currentFault (t.processIntr cfg k m).2.1 = t.fault :=
    processIntr_currentFault
  simp only [loopTurn, hsignal, Bool.false_eq_true, if_false, afterIntr, hdone,
    if_true]
  cases hrepeated : isRepeatedTrap (t.processIntr cfg k m).2.1 with
  | false =>
      obtain ⟨hret, hnew⟩ := hmemory.countTrap_other hcurrent hrepeated
      have hrow := hnew.row
      right
      refine ⟨by omega, _, _, if_neg (not_not.mpr hret), hnew⟩
  | true =>
      obtain ⟨hcounter, hrow, hends⟩ := hmemory.countTrap_same hcurrent hrepeated
      split at hends
      · rename_i h18
        left
        rw [hends, if_pos hfault]
        refine ⟨h18, _, _, rfl, ?_⟩
        rw [hcounter, rowCounter, h18]
      · rename_i h18
        right
        refine ⟨by omega, _, _, if_neg (not_not.mpr hends.1), hends.2⟩

/-- At `begin`, after any turns. -/
theorem trapMemory_of_begin
    {turns : List PayloadTurn} {k' : KkmKontext} {m' : RunMemory}
    (hbegin : kkmKontextSwitchKernel cfg turns k m = .begin k' m') :
    TrapMemory turns.reverse k' := by
  refine loop_invariant (P := fun past k' _ => TrapMemory past k')
    kkmKontextSwitchKernelStart_trapMemory ?_ hbegin
  intro past t k₁ m₁ k₂ m₂ hmemory hturn
  have hsignal : t.signal = false := by
    cases hs : t.signal with
    | false => rfl
    | true =>
        rw [loopTurn, hs, if_pos rfl] at hturn
        cases hturn
  have hdone : (t.processIntr cfg k₁ m₁).1 = kkmKontextFaultProcessDone := by
    by_contra hne
    simp only [loopTurn, hsignal, Bool.false_eq_true, if_false, afterIntr,
      if_neg hne] at hturn
    cases hturn
  rcases hmemory.turn hsignal hdone with ⟨_, k₃, m₃, hend, _⟩ | ⟨_, k₃, m₃, hend, hnew⟩
  · rw [hend] at hturn
    cases hturn
  · rw [hend] at hturn
    cases hturn
    exact hnew

end Run

/-- No call outlives 18 turns in a row that end with one page fault. -/
theorem kkmKontextSwitchKernel_ends
    (cfg : KkmConfig) (older : List PayloadTurn) {row : List PayloadTurn}
    {f : BitVec 64 × BitVec 64} (hrow : ∀ t ∈ row, t.fault = some f)
    (hlong : 18 ≤ row.length) (k : KkmKontext) (m : RunMemory)
    (k' : KkmKontext) (m' : RunMemory) :
    kkmKontextSwitchKernel cfg (older ++ row) k m ≠ .begin k' m' := by
  intro hbegin
  have hle := (trapMemory_of_begin hbegin).row
  have hrow' : ∀ t ∈ row.reverse, t.fault = some f := by
    intro t ht
    exact hrow t (List.mem_reverse.mp ht)
  have hlen := length_le_faultRow hrow' older.reverse
  rw [← List.reverse_append, List.length_reverse] at hlen
  omega

/-- The repeat check ends a call exactly at the 18th exit of an unbroken row of
one resolved page fault; the counter starts at the unsigned maximum and is then
one less than the length of the row. -/
theorem kkmKontextSwitchKernel_repeatCheck
    {cfg : KkmConfig} {past : List PayloadTurn} {t : PayloadTurn}
    {k k' : KkmKontext} {m m' : RunMemory}
    (hbegin : kkmKontextSwitchKernel cfg past k m = .begin k' m')
    (hsignal : t.signal = false)
    (hdone : (t.processIntr cfg k' m').1 = kkmKontextFaultProcessDone) :
    faultRow past.reverse < kkmMaxRepeatTrap.toNat + 2 ∧
      k'.trapRepeatCounter = rowCounter past.reverse ∧
      (past ≠ [] → k'.trapRepeatCounter ≤ kkmMaxRepeatTrap) ∧
      (if faultRow (past ++ [t]).reverse = kkmMaxRepeatTrap.toNat + 2 then
        ∃ k'' m'', kkmKontextSwitchKernel cfg (past ++ [t]) k m =
            .returned (-efault) k'' m'' ∧
          k''.trapRepeatCounter = kkmMaxRepeatTrap + 1#64
      else
        ∃ k'' m'', kkmKontextSwitchKernel cfg (past ++ [t]) k m =
            .begin k'' m'' ∧
          k''.trapRepeatCounter = rowCounter (past ++ [t]).reverse) ∧
      (∀ row f, (∀ t' ∈ row, PayloadTurn.fault t' = some f) →
        kkmMaxRepeatTrap.toNat + 2 ≤ row.length →
        ∀ k'' m'', kkmKontextSwitchKernel cfg (past ++ row) k m ≠
          .begin k'' m'') := by
  have hmemory := trapMemory_of_begin hbegin
  have hmax : kkmMaxRepeatTrap.toNat = 16 := by decide
  have hrow := hmemory.row
  refine ⟨by omega, hmemory.counter, ?_, ?_, ?_⟩
  · intro hpast
    have hle := rowCounter_toNat_le (mt List.reverse_eq_nil_iff.mp hpast)
    rw [hmemory.counter, BitVec.le_def]
    omega
  · rw [kkmKontextSwitchKernel_concat, hbegin, List.reverse_append,
      List.reverse_singleton, List.singleton_append, hmax]
    rcases hmemory.turn hsignal hdone with
      ⟨h18, k₁, m₁, hend, hcounter⟩ | ⟨hlt, k₁, m₁, hend, hnew⟩
    · rw [if_pos h18]
      exact ⟨k₁, m₁, hend, hcounter⟩
    · rw [if_neg (by omega)]
      exact ⟨k₁, m₁, hend, hnew.counter⟩
  · intro row f hsame hlong
    exact kkmKontextSwitchKernel_ends cfg past hsame (by omega) k m

/-- A user-mode read of one address, over and over. -/
def sameFaultTurn : PayloadTurn := exitTurn x86TrapPf x86PfUser 0x300000#64

theorem sameFaultTurn_done (k : KkmKontext) (m : RunMemory) :
    (sameFaultTurn.processIntr .stock k m).1 = kkmKontextFaultProcessDone := by
  have hva : kkmGuestVaToMonitorVa .stock .zeroed 0x300000#64 =
      some (kkmKmUserMemBase .stock + 0x300000#64, false) := by
    rw [kkmGuestVaToMonitorVa, if_pos (by decide)]
  have hhandler : intrHandler (sameFaultTurn.atExit k).ga.intrNo = .pageFault := rfl
  simp only [PayloadTurn.processIntr, kkmProcessIntr, hhandler]
  exact kkmProcessPageFault_resolved hva
    (show x86PfUser &&& x86PfUser = x86PfUser by decide) rfl rfl

theorem sameFaultTurn_begins {n : Nat} (hn : n ≤ 17) :
    ∃ k' m', kkmKontextSwitchKernel .stock (List.replicate n sameFaultTurn) .zeroed
      zeroedRunMemory = .begin k' m' := by
  induction n with
  | zero => exact ⟨_, _, rfl⟩
  | succ n ih =>
      obtain ⟨k', m', hbegin⟩ := ih (by omega)
      have hmemory := trapMemory_of_begin hbegin
      rw [List.replicate_succ', kkmKontextSwitchKernel_concat, hbegin]
      rcases hmemory.turn rfl (sameFaultTurn_done k' m') with ⟨h18, _⟩ | ⟨_, k₁, m₁, h, _⟩
      · have hle := faultRow_le_length
          (sameFaultTurn :: (List.replicate n sameFaultTurn).reverse)
        simp only [List.length_cons, List.length_reverse, List.length_replicate] at hle
        omega
      · exact ⟨k₁, m₁, h⟩

theorem sameFaultTurn_ends :
    ∃ k' m', kkmKontextSwitchKernel .stock (List.replicate 18 sameFaultTurn) .zeroed
      zeroedRunMemory = .returned (-efault) k' m' := by
  obtain ⟨k₁, m₁, hbegin⟩ := sameFaultTurn_begins (Nat.le_refl 17)
  obtain ⟨-, -, -, hend, -⟩ := kkmKontextSwitchKernel_repeatCheck hbegin
    (t := sameFaultTurn) rfl (sameFaultTurn_done k₁ m₁)
  have hrow : faultRow (List.replicate 17 sameFaultTurn ++ [sameFaultTurn]).reverse =
      kkmMaxRepeatTrap.toNat + 2 := by decide
  rw [if_pos hrow, ← List.replicate_succ'] at hend
  obtain ⟨k', m', h, -⟩ := hend
  exact ⟨k', m', h⟩

end Driver
end KkmModule
