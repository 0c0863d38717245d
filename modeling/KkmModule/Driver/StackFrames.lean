import KkmModule.Driver.HandlerWrites
import KkmModule.Driver.RunRestart

/-!
# Frames on the payload stack

Three handlers of `kkm_process_intr` write a record on the payload stack: the two
that report an exception and the one for system calls.  The stack pointer is
lowered first and stays lowered if the copy fails; only the frame of a system
call leaves the red zone of the interrupted function alone.
-/

namespace KkmModule
namespace Driver

open Foundation

/-! ## Frames -/

/-- A record and the guest address it is written at. -/
structure StackFrame where
  gva : BitVec 64
  words : List (BitVec 64)

/-- The size in bytes. -/
def StackFrame.size (f : StackFrame) : Nat := 8 * f.words.length

/-- `struct kkm_intr_stack_no_error_code` -/
def noErrorCodeFrame (k : KkmKontext) : StackFrame where
  gva := k.ga.regs.rsp - 64#64
  words := [k.ga.regs.rax, k.ga.regs.rbx, k.ga.regs.rdx, k.ga.trapInfo.rip,
    k.ga.trapInfo.cs, k.ga.trapInfo.rflags, k.ga.trapInfo.rsp, k.ga.trapInfo.ss]

/-- `struct kkm_intr_stack_with_error_code` -/
def errorCodeFrame (k : KkmKontext) : StackFrame where
  gva := k.ga.regs.rsp - 72#64
  words := [k.ga.regs.rax, k.ga.regs.rbx, k.ga.regs.rdx, k.ga.trapInfo.error,
    k.ga.trapInfo.rip, k.ga.trapInfo.cs, k.ga.trapInfo.rflags, k.ga.trapInfo.rsp,
    k.ga.trapInfo.ss]

/-- `struct kkm_hc_args` -/
def hcArgsFrame (k : KkmKontext) : StackFrame where
  gva := k.ga.regs.rsp - kkmAbiRedzone - sizeofKkmHcArgs
  words := [0#64, k.ga.regs.rdi, k.ga.regs.rsi, k.ga.regs.rdx, k.ga.regs.r10,
    k.ga.regs.r8, k.ga.regs.r9]

/-- The frame that the handler chosen for an exit writes. -/
def stackFrame (k : KkmKontext) : Option StackFrame :=
  match intrHandler k.ga.intrNo with
  | .commonWithoutError => some (noErrorCodeFrame k)
  | .commonWithError => some (errorCodeFrame k)
  | .syscall => some (hcArgsFrame k)
  | _ => none

/-! ## Copies -/

section Handlers

variable (cfg : KkmConfig) (kkm : Kkm)

/-- A copy to a guest address: the address is translated, and the `n` monitor
addresses from there on are mapped. -/
def CanCopy (m : ByteMemory) (gva : BitVec 64) (n : Nat) : Prop :=
  ∃ mva priv, kkmGuestVaToMonitorVa cfg kkm gva = some (mva, priv) ∧ Mapped m mva n

/-- `after` is `m` with the words copied to a guest address. -/
def CopiedTo (m : ByteMemory) (gva : BitVec 64) (words : List (BitVec 64))
    (after : ByteMemory) : Prop :=
  ∃ mva priv, kkmGuestVaToMonitorVa cfg kkm gva = some (mva, priv) ∧
    copyWordsToUser m mva words = (true, after)

theorem length_flatMap_wordBytes (words : List (BitVec 64)) :
    (words.flatMap wordBytes).length = 8 * words.length := by
  rw [length_flatMap_const wordBytes_length, Nat.mul_comm]

theorem copyWordsToUser_complete_iff
    (m : ByteMemory) (mva : BitVec 64) (words : List (BitVec 64)) :
    (copyWordsToUser m mva words).1 = true ↔ Mapped m mva (8 * words.length) := by
  rw [copyWordsToUser, writeBytes_complete_iff, length_flatMap_wordBytes]

/-- A copy leaves the same addresses mapped. -/
theorem CopiedTo.canCopy_iff
    {cfg : KkmConfig} {kkm : Kkm} {m after : ByteMemory} {gva : BitVec 64}
    {words : List (BitVec 64)} (h : CopiedTo cfg kkm m gva words after)
    (gva' : BitVec 64) (n : Nat) :
    CanCopy cfg kkm after gva' n ↔ CanCopy cfg kkm m gva' n := by
  obtain ⟨mva, priv, -, hcopy⟩ := h
  have hafter : after = (copyWordsToUser m mva words).2 := by rw [hcopy]
  have hsame : ∀ x, after x = none ↔ m x = none := by
    intro x
    rw [hafter]
    exact writeBytes_eq_none x
  simp only [CanCopy, Mapped.congr hsame]

/-- A copy to a guest address succeeds if and only if it can be made. -/
theorem copyToGuest_spec
    (m : ByteMemory) (gva : BitVec 64) (words : List (BitVec 64)) :
    (∃ mva after, copyToGuest cfg kkm m gva words = (some mva, after) ∧
        CanCopy cfg kkm m gva (8 * words.length) ∧
        CopiedTo cfg kkm m gva words after) ∨
      (∃ after, copyToGuest cfg kkm m gva words = (none, after) ∧
        ¬ CanCopy cfg kkm m gva (8 * words.length)) := by
  unfold copyToGuest
  cases hva : kkmGuestVaToMonitorVa cfg kkm gva with
  | none =>
      refine Or.inr ⟨m, rfl, ?_⟩
      rintro ⟨mva, priv, hsome, -⟩
      cases hva.symm.trans hsome
  | some found =>
      obtain ⟨mva, priv⟩ := found
      have hmapped := copyWordsToUser_complete_iff m mva words
      simp only
      rcases hcopy : copyWordsToUser m mva words with ⟨ok, after⟩
      rw [hcopy] at hmapped
      cases ok with
      | true =>
          exact Or.inl ⟨mva, after, rfl, ⟨mva, priv, hva, hmapped.mp rfl⟩,
            mva, priv, hva, hcopy⟩
      | false =>
          refine Or.inr ⟨after, rfl, ?_⟩
          rintro ⟨mva', priv', hsome, hcan⟩
          obtain ⟨rfl, rfl⟩ : mva = mva' ∧ priv = priv' := by
            simpa using hva.symm.trans hsome
          exact absurd (hmapped.mpr hcan) Bool.false_ne_true

/-- The one case in which `recordException` succeeds, and what it leaves behind
in the other. -/
theorem recordException_spec
    (words : List (BitVec 64)) (k : KkmKontext) (m : ByteMemory) :
    let r := recordException cfg kkm words k m
    let gva := k.ga.regs.rsp - BitVec.ofNat 64 (8 * words.length)
    (CanCopy cfg kkm m gva (8 * words.length) ∧ r.1 = 0 ∧
        CopiedTo cfg kkm m gva words r.2.2 ∧ r.2.1.ga.regs.rax = gva) ∨
      (¬ CanCopy cfg kkm m gva (8 * words.length) ∧ r.1 = -efault ∧
        r.2.1.ga.regs.rsp = gva) := by
  intro r gva
  simp only [r, recordException_eq]
  rcases copyToGuest_spec cfg kkm m gva words with
    ⟨mva, after, hcopy, hcan, hcopied⟩ | ⟨after, hcopy, hcan⟩
  · left
    simp only [gva] at hcopy
    rw [hcopy]
    exact ⟨hcan, rfl, hcopied, rfl⟩
  · right
    simp only [gva] at hcopy
    rw [hcopy]
    exact ⟨hcan, rfl, rfl⟩

/-- `kkm_process_syscall` makes two copies; the second one is a pointer to the
first. -/
theorem kkmProcessSyscall_copies (k : KkmKontext) (m : ByteMemory) :
    let r := kkmProcessSyscall cfg kkm k m
    let f := hcArgsFrame k
    (CanCopy cfg kkm m f.gva f.size ∧ CanCopy cfg kkm m k.ga.sregs.gs.base 8 ∧
        r.1 = 0 ∧ r.2.1.ga.regs.rax = f.gva ∧
        ∃ m', CopiedTo cfg kkm m f.gva f.words m' ∧
          CopiedTo cfg kkm m' k.ga.sregs.gs.base [f.gva] r.2.2) ∨
      (¬ (CanCopy cfg kkm m f.gva f.size ∧
          CanCopy cfg kkm m k.ga.sregs.gs.base 8) ∧
        r.1 = -efault ∧ r.2.1.ga.regs.rsp = f.gva) := by
  intro r f
  let k₀ := kkmSetupHypercall (k.setRegs { k.ga.regs with rsp := f.gva })
    (k.ga.regs.rax.setWidth 16) (f.gva.setWidth 32) faultSyscall
  have hr : r = pushHcArgs cfg kkm f.gva f.words k₀ m := rfl
  rw [pushHcArgs_eq] at hr
  rcases copyToGuest_spec cfg kkm m f.gva f.words with
    ⟨mva, m', hcopy, hcan, hcopied⟩ | ⟨m', hcopy, hcan⟩
  · simp only [hcopy] at hr
    have hbase := hcopied.canCopy_iff k.ga.sregs.gs.base 8
    rcases copyToGuest_spec cfg kkm m' k.ga.sregs.gs.base [f.gva] with
      ⟨mva', m'', hcopy', hcan', hcopied'⟩ | ⟨m'', hcopy', hcan'⟩
    · left
      have hr : r = (0, [HandlerWrite.pendReply mva,
          .setRegs { k₀.ga.regs with rax := f.gva }].foldl HandlerWrite.apply k₀,
          m'') := hr.trans (by rw [show k₀.ga.sregs = k.ga.sregs from rfl, hcopy'])
      rw [hr]
      exact ⟨hcan, hbase.mp hcan', rfl, rfl, m', hcopied, hcopied'⟩
    · right
      have hr : r = (-efault, k₀, m'') :=
        hr.trans (by rw [show k₀.ga.sregs = k.ga.sregs from rfl, hcopy'])
      rw [hr]
      exact ⟨fun h => hcan' (hbase.mpr h.2), rfl, rfl⟩
  · right
    simp only [hcopy] at hr
    rw [hr]
    exact ⟨fun h => hcan h.1, rfl, rfl⟩

/-! ## Exits with a frame -/

/-- All copies of the handler can be made. -/
def FrameFits (k : KkmKontext) (m : ByteMemory) (f : StackFrame) : Prop :=
  CanCopy cfg kkm m f.gva f.size ∧
    (intrHandler k.ga.intrNo = .syscall → CanCopy cfg kkm m k.ga.sregs.gs.base 8)

/-- User memory with the frame; a system call leaves a pointer to it at the GS
base. -/
def FrameWritten
    (k : KkmKontext) (m : ByteMemory) (f : StackFrame) (after : ByteMemory) : Prop :=
  ∃ m', CopiedTo cfg kkm m f.gva f.words m' ∧
    if intrHandler k.ga.intrNo = .syscall then
      CopiedTo cfg kkm m' k.ga.sregs.gs.base [f.gva] after
    else after = m'

/-- An exit with a frame succeeds and hands the address of the frame to the
monitor, or fails with the stack pointer lowered. -/
theorem kkmProcessIntr_frame
    (a : ExitAnswers) {k : KkmKontext} (s : RunMemory) {f : StackFrame}
    (hf : stackFrame k = some f) :
    let r := kkmProcessIntr cfg kkm a k s
    (FrameFits cfg kkm k s.user f ∧ r.1 = 0 ∧ r.2.1.ga.regs.rax = f.gva ∧
        FrameWritten cfg kkm k s.user f r.2.2.user) ∨
      (¬ FrameFits cfg kkm k s.user f ∧ r.1 = -efault ∧
        r.2.1.ga.regs.rsp = f.gva) := by
  let k₀ := { k with run := { k.run with exitReason := kkmExitUnknown } }
  have hexception : ∀ f' : StackFrame, intrHandler k.ga.intrNo ≠ .syscall →
      f'.gva = k.ga.regs.rsp - BitVec.ofNat 64 (8 * f'.words.length) →
      let r := onUser s (recordException cfg kkm f'.words k₀ s.user)
      (FrameFits cfg kkm k s.user f' ∧ r.1 = 0 ∧ r.2.1.ga.regs.rax = f'.gva ∧
          FrameWritten cfg kkm k s.user f' r.2.2.user) ∨
        (¬ FrameFits cfg kkm k s.user f' ∧ r.1 = -efault ∧
          r.2.1.ga.regs.rsp = f'.gva) := by
    intro f' hne hgva
    rcases recordException_spec cfg kkm f'.words k₀ s.user with
      ⟨hcan, hret, hcopied, hrax⟩ | ⟨hcan, hret, hrsp⟩
    · rw [← hgva] at hcan hcopied hrax
      left
      exact ⟨⟨hcan, fun h => absurd h hne⟩, hret, hrax, _, hcopied, by simp [hne, onUser]⟩
    · rw [← hgva] at hcan hrsp
      right
      exact ⟨fun h => hcan h.1, hret, hrsp⟩
  intro r
  simp only [r, kkmProcessIntr]
  unfold stackFrame at hf
  cases hhandler : intrHandler k.ga.intrNo with
  | commonWithoutError =>
      simp only [hhandler, Option.some.injEq] at hf
      subst hf
      exact hexception _ (by simp [hhandler]) rfl
  | commonWithError =>
      simp only [hhandler, Option.some.injEq] at hf
      subst hf
      exact hexception _ (by simp [hhandler]) rfl
  | syscall =>
      simp only [hhandler, Option.some.injEq] at hf
      subst hf
      rcases kkmProcessSyscall_copies cfg kkm k₀ s.user with
        ⟨hframe, hbase, hret, hrax, m', hcopied, hpointer⟩ | ⟨hcan, hret, hrsp⟩
      · left
        refine ⟨⟨hframe, fun _ => hbase⟩, hret, hrax, m', hcopied, ?_⟩
        rw [if_pos hhandler]
        exact hpointer
      · right
        exact ⟨fun h => hcan ⟨h.1, h.2 hhandler⟩, hret, hrsp⟩
  | generalProtection => simp [hhandler] at hf
  | pageFault => simp [hhandler] at hf
  | debug => simp [hhandler] at hf
  | nmi => simp [hhandler] at hf
  | breakpoint => simp [hhandler] at hf
  | forward => simp [hhandler] at hf

/-! ## The red zone -/

/-- `x` lies below `y` on the stack. -/
def BelowOnStack (x y : BitVec 64) : Prop := 0 < (y - x).toInt

/-- The byte `j` bytes below the stack pointer, in the monitor as seen from a frame
at `mva`. -/
def redzoneByte (k : KkmKontext) (f : StackFrame) (mva : BitVec 64) (j : Nat) :
    BitVec 64 :=
  mva + (k.ga.regs.rsp - BitVec.ofNat 64 j - f.gva)

/-- Every byte of the frame lies below the red zone of the interrupted function,
and the red zone, as the monitor sees it around the frame, keeps its contents. -/
structure SparesRedzone
    (k : KkmKontext) (m : ByteMemory) (f : StackFrame) (after : ByteMemory) :
    Prop where
  below : ∀ x, InBytes f.gva f.size x → BelowOnStack x (k.ga.regs.rsp - kkmAbiRedzone)
  kept : ∀ mva priv, kkmGuestVaToMonitorVa cfg kkm f.gva = some (mva, priv) →
    ∀ j, 0 < j → j ≤ kkmAbiRedzone.toNat →
    after (redzoneByte k f mva j) = m (redzoneByte k f mva j)

/-- The word at the GS base lies outside the red zone, or holds the pointer to the
frame already where it does not. -/
def PointerSparesRedzone (k : KkmKontext) (m : ByteMemory) (f : StackFrame) : Prop :=
  ∀ mva priv base priv',
    kkmGuestVaToMonitorVa cfg kkm f.gva = some (mva, priv) →
    kkmGuestVaToMonitorVa cfg kkm k.ga.sregs.gs.base = some (base, priv') →
    ∀ j, 0 < j → j ≤ kkmAbiRedzone.toNat → ∀ i < 8,
      redzoneByte k f mva j = base + BitVec.ofNat 64 i →
      m (redzoneByte k f mva j) = (wordBytes f.gva)[i]?

variable {cfg kkm}

theorem CopiedTo.of_not_inBytes
    {m after : ByteMemory} {gva mva x : BitVec 64} {priv : Bool}
    {words : List (BitVec 64)} (h : CopiedTo cfg kkm m gva words after)
    (hva : kkmGuestVaToMonitorVa cfg kkm gva = some (mva, priv))
    (hx : ¬ InBytes mva (8 * words.length) x) :
    after x = m x := by
  obtain ⟨mva', priv', hva', hcopy⟩ := h
  obtain ⟨rfl, rfl⟩ : mva' = mva ∧ priv' = priv := by
    simpa using hva'.symm.trans hva
  have hafter : after = (copyWordsToUser m mva' words).2 := by rw [hcopy]
  rw [hafter]
  apply writeBytes_of_not_inBytes
  rw [length_flatMap_wordBytes]
  exact hx

theorem not_inBytes_of_le
    {a : BitVec 64} {n i : Nat} (hle : n ≤ i) (hlt : i < 2 ^ 64) :
    ¬ InBytes a n (a + BitVec.ofNat 64 i) := by
  rintro ⟨j, hj, heq⟩
  have hcancel := (BitVec.add_right_inj a).mp heq
  have htoNat := congrArg BitVec.toNat hcancel
  simp only [BitVec.toNat_ofNat] at htoNat
  omega

/-- The frame of a system call starts below the red zone. -/
theorem hcArgsFrame_below (k : KkmKontext) {x : BitVec 64}
    (hx : InBytes (hcArgsFrame k).gva (hcArgsFrame k).size x) :
    BelowOnStack x (k.ga.regs.rsp - kkmAbiRedzone) := by
  obtain ⟨i, hi, rfl⟩ := hx
  have hsize : (hcArgsFrame k).size = 56 := rfl
  rw [hsize] at hi
  have hdist : k.ga.regs.rsp - kkmAbiRedzone -
      ((hcArgsFrame k).gva + BitVec.ofNat 64 i) = BitVec.ofNat 64 (56 - i) := by
    simp only [hcArgsFrame, kkmAbiRedzone, sizeofKkmHcArgs]
    bv_omega
  rw [BelowOnStack, hdist, BitVec.toInt_eq_toNat_of_msb]
  · simp only [BitVec.toNat_ofNat]
    omega
  · rw [BitVec.msb_eq_false_iff_two_mul_lt, BitVec.toNat_ofNat]
    omega

/-- The first byte of the frame of an exception lies in the red zone. -/
theorem not_belowOnStack_of_lt {rsp : BitVec 64} {n : Nat} (hn : n ≤ 128) :
    ¬ BelowOnStack (rsp - BitVec.ofNat 64 n) (rsp - kkmAbiRedzone) := by
  have hdist : rsp - kkmAbiRedzone - (rsp - BitVec.ofNat 64 n) =
      BitVec.ofNat 64 n - 128#64 := by
    simp only [kkmAbiRedzone]
    bv_omega
  rw [BelowOnStack, hdist, BitVec.toInt_eq_msb_cond]
  split
  · omega
  · rename_i hmsb
    rw [BitVec.msb_eq_true_iff_two_mul_ge] at hmsb
    simp only [BitVec.toNat_sub, BitVec.toNat_ofNat] at hmsb ⊢
    omega

/-- The red zone is not part of the frame. -/
theorem redzoneByte_not_inBytes
    (k : KkmKontext) (mva : BitVec 64) {j : Nat} (hpos : 0 < j)
    (hle : j ≤ kkmAbiRedzone.toNat) :
    ¬ InBytes mva 56 (redzoneByte k (hcArgsFrame k) mva j) := by
  have hle' : j ≤ 128 := hle
  have hx : redzoneByte k (hcArgsFrame k) mva j = mva + BitVec.ofNat 64 (184 - j) := by
    simp only [redzoneByte, hcArgsFrame, kkmAbiRedzone, sizeofKkmHcArgs]
    congr 1
    bv_omega
  rw [hx]
  exact not_inBytes_of_le (by omega) (by omega)

/-- What a copied word has put at its place. -/
theorem CopiedTo.word_byte
    {m after : ByteMemory} {gva base v : BitVec 64} {priv : Bool}
    (h : CopiedTo cfg kkm m gva [v] after)
    (hva : kkmGuestVaToMonitorVa cfg kkm gva = some (base, priv)) {i : Nat} (hi : i < 8) :
    after (base + BitVec.ofNat 64 i) = (wordBytes v)[i]? := by
  obtain ⟨base', priv', hva', hcopy⟩ := h
  obtain ⟨rfl, rfl⟩ : base' = base ∧ priv' = priv := by
    simpa using hva'.symm.trans hva
  have hwrite : writeBytes m base' (wordBytes v) = (true, after) := by
    simpa [copyWordsToUser] using hcopy
  have hok : (writeBytes m base' (wordBytes v)).1 = true := by rw [hwrite]
  have hbyte :=
    writeBytes_getElem (by simp) hok (show i < (wordBytes v).length by simpa using hi)
  rw [hwrite] at hbyte
  exact hbyte

/-- After a system call the red zone is as it was, apart from the word at the GS
base. -/
theorem hcArgsFrame_spares_iff
    {k : KkmKontext} {m after : ByteMemory}
    (hhandler : intrHandler k.ga.intrNo = .syscall)
    (hwritten : FrameWritten cfg kkm k m (hcArgsFrame k) after) :
    SparesRedzone cfg kkm k m (hcArgsFrame k) after ↔
      PointerSparesRedzone cfg kkm k m (hcArgsFrame k) := by
  obtain ⟨m', hcopied, hpointer⟩ := hwritten
  rw [if_pos hhandler] at hpointer
  constructor
  · intro h mva priv base priv' hva hbase j hpos hle i hi hx
    rw [← h.kept mva priv hva j hpos hle, hx]
    exact hpointer.word_byte hbase hi
  · intro h
    refine ⟨fun x hx => hcArgsFrame_below k hx, ?_⟩
    intro mva priv hva j hpos hle
    have hfirst := hcopied.of_not_inBytes hva (redzoneByte_not_inBytes k mva hpos hle)
    obtain ⟨base, priv', hbase, hcopy⟩ := hpointer
    have hpointer : CopiedTo cfg kkm m' k.ga.sregs.gs.base [(hcArgsFrame k).gva] after :=
      ⟨base, priv', hbase, hcopy⟩
    by_cases hin : InBytes base 8 (redzoneByte k (hcArgsFrame k) mva j)
    · obtain ⟨i, hi, hx⟩ := hin
      rw [h mva priv base priv' hva hbase j hpos hle i hi hx, hx]
      exact hpointer.word_byte hbase hi
    · rw [← hfirst]
      exact hpointer.of_not_inBytes hbase hin

/-- Of the exits that are reported with a frame on the payload stack only the
system calls spare the red zone, those whose pointer to the frame is stored
elsewhere. -/
theorem sparesRedzone_iff
    (a : ExitAnswers) {k : KkmKontext} (s : RunMemory) {f : StackFrame}
    (hf : stackFrame k = some f) (hreported : (kkmProcessIntr cfg kkm a k s).1 = 0) :
    let after := (kkmProcessIntr cfg kkm a k s).2.2.user
    FrameWritten cfg kkm k s.user f after ∧
      (SparesRedzone cfg kkm k s.user f after ↔
        intrHandler k.ga.intrNo = .syscall ∧
          PointerSparesRedzone cfg kkm k s.user f) := by
  intro after
  rcases kkmProcessIntr_frame cfg kkm a s hf with ⟨-, -, -, hwritten⟩ | ⟨-, hret, -⟩
  · refine ⟨hwritten, ?_⟩
    unfold stackFrame at hf
    cases hhandler : intrHandler k.ga.intrNo with
    | commonWithoutError =>
        simp only [hhandler, Option.some.injEq] at hf
        subst hf
        have hfirst : InBytes (noErrorCodeFrame k).gva (noErrorCodeFrame k).size
            (k.ga.regs.rsp - 64#64) :=
          ⟨0, show 0 < 64 by omega, by simp [noErrorCodeFrame]⟩
        refine iff_of_false ?_ (by simp)
        intro h
        exact not_belowOnStack_of_lt (n := 64) (by omega) (h.below _ hfirst)
    | commonWithError =>
        simp only [hhandler, Option.some.injEq] at hf
        subst hf
        have hfirst : InBytes (errorCodeFrame k).gva (errorCodeFrame k).size
            (k.ga.regs.rsp - 72#64) :=
          ⟨0, show 0 < 72 by omega, by simp [errorCodeFrame]⟩
        refine iff_of_false ?_ (by simp)
        intro h
        exact not_belowOnStack_of_lt (n := 72) (by omega) (h.below _ hfirst)
    | syscall =>
        simp only [hhandler, Option.some.injEq] at hf
        subst hf
        rw [hcArgsFrame_spares_iff hhandler hwritten]
        exact (and_iff_right rfl).symm
    | generalProtection => simp [hhandler] at hf
    | pageFault => simp [hhandler] at hf
    | debug => simp [hhandler] at hf
    | nmi => simp [hhandler] at hf
    | breakpoint => simp [hhandler] at hf
    | forward => simp [hhandler] at hf
  · rw [hret] at hreported
    cases hreported

end Handlers

/-! ### Exits on a machine without slots -/

/-- All user memory is mapped. -/
def zeroedRunMemory : RunMemory := ⟨fun _ => some 0#8, fun _ => 0#64⟩

def zeroedExitAnswers : ExitAnswers where
  nativePgd := 0
  read := ⟨false, 0#8, fun _ => 0#64⟩
  write := ⟨false, fun _ => 0#64⟩

/-- An exit with the given vector of a payload that has its stack and its GS base
in the bottom window. -/
def exitWithStack (intrNo rsp : BitVec 64) : KkmKontext :=
  { KkmKontext.zeroed with
    ga := { KkmGuestArea.zeroed with
      intrNo := intrNo
      regs := { KkmRegs.zeroed with rsp := rsp }
      sregs := { KkmSregs.zeroed with
        gs := { KkmSegment.zeroed with base := 0x300000#64 } } } }

theorem canCopy_bottom
    {gva : BitVec 64} (n : Nat) (hlo : kkmGuestMemStartVa ≤ gva)
    (hhi : gva < kkmGuestMaxPhysMem) :
    CanCopy .stock .zeroed zeroedRunMemory.user gva n := by
  refine ⟨kkmKmUserMemBase .stock + gva, false, ?_, fun x _ => ?_⟩
  · rw [kkmGuestVaToMonitorVa, if_pos ⟨hlo, hhi⟩]
  · simp [zeroedRunMemory]

theorem syscall_spares_redzone :
    SparesRedzone .stock .zeroed (exitWithStack kkmIntrSyscall 0x400000#64)
      zeroedRunMemory.user (hcArgsFrame (exitWithStack kkmIntrSyscall 0x400000#64))
      (kkmProcessIntr .stock .zeroed zeroedExitAnswers
        (exitWithStack kkmIntrSyscall 0x400000#64) zeroedRunMemory).2.2.user := by
  have hf : stackFrame (exitWithStack kkmIntrSyscall 0x400000#64) =
      some (hcArgsFrame (exitWithStack kkmIntrSyscall 0x400000#64)) := rfl
  have hfits : FrameFits .stock .zeroed (exitWithStack kkmIntrSyscall 0x400000#64)
      zeroedRunMemory.user (hcArgsFrame (exitWithStack kkmIntrSyscall 0x400000#64)) :=
    ⟨canCopy_bottom _ (by decide) (by decide),
      fun _ => canCopy_bottom _ (by decide) (by decide)⟩
  have hret : (kkmProcessIntr .stock .zeroed zeroedExitAnswers
      (exitWithStack kkmIntrSyscall 0x400000#64) zeroedRunMemory).1 = 0 := by
    rcases kkmProcessIntr_frame .stock .zeroed zeroedExitAnswers zeroedRunMemory hf with
      h | h
    · exact h.2.1
    · exact absurd hfits h.1
  refine (sparesRedzone_iff zeroedExitAnswers zeroedRunMemory hf hret).2.mpr ⟨rfl, ?_⟩
  -- the GS base is at 0x300000
  intro mva priv base priv' hva hbase j hpos hle i hi hx
  obtain ⟨rfl, -⟩ : (0x3FFF48#64 : BitVec 64) = mva ∧ false = priv := by
    simpa using (show kkmGuestVaToMonitorVa .stock .zeroed
      (hcArgsFrame (exitWithStack kkmIntrSyscall 0x400000#64)).gva =
        some (0x3FFF48#64, false) by decide).symm.trans hva
  obtain ⟨rfl, -⟩ : (0x300000#64 : BitVec 64) = base ∧ false = priv' := by
    simpa using (show kkmGuestVaToMonitorVa .stock .zeroed 0x300000#64 =
      some (0x300000#64, false) by decide).symm.trans hbase
  have hle' : j ≤ 128 := hle
  have hbyte : redzoneByte (exitWithStack kkmIntrSyscall 0x400000#64)
      (hcArgsFrame (exitWithStack kkmIntrSyscall 0x400000#64)) 0x3FFF48#64 j =
        0x3FFF48#64 + (0x400000#64 - BitVec.ofNat 64 j - 0x3FFF48#64) := rfl
  rw [hbyte] at hx
  bv_omega

/-- A divide error is reported with a frame in the red zone. -/
theorem divideError_writes_redzone :
    (kkmProcessIntr .stock .zeroed zeroedExitAnswers
        (exitWithStack 0#64 0x400000#64) zeroedRunMemory).1 = 0 ∧
      ¬ SparesRedzone .stock .zeroed (exitWithStack 0#64 0x400000#64)
        zeroedRunMemory.user (noErrorCodeFrame (exitWithStack 0#64 0x400000#64))
        (kkmProcessIntr .stock .zeroed zeroedExitAnswers
          (exitWithStack 0#64 0x400000#64) zeroedRunMemory).2.2.user := by
  have hf : stackFrame (exitWithStack 0#64 0x400000#64) =
      some (noErrorCodeFrame (exitWithStack 0#64 0x400000#64)) := rfl
  have hfits : FrameFits .stock .zeroed (exitWithStack 0#64 0x400000#64)
      zeroedRunMemory.user (noErrorCodeFrame (exitWithStack 0#64 0x400000#64)) :=
    ⟨canCopy_bottom _ (by decide) (by decide), fun h => by cases h⟩
  refine ⟨?_, fun h => ?_⟩
  · rcases kkmProcessIntr_frame .stock .zeroed zeroedExitAnswers zeroedRunMemory hf with
      h | h
    · exact h.2.1
    · exact absurd hfits h.1
  · exact not_belowOnStack_of_lt (n := 64) (by omega)
      (h.below _ ⟨0, show 0 < 64 by omega, rfl⟩)

/-! ## Handlers that fail -/

/-- What a handler that fails must not have changed. -/
structure SameCallState (k k' : KkmKontext) : Prop where
  regs : k'.ga.regs = k.ga.regs
  syscallPending : k'.syscallPending = k.syscallPending
  retValMva : k'.retValMva = k.retValMva
  exceptionPosted : k'.exceptionPosted = k.exceptionPosted
  exceptionSavedRax : k'.exceptionSavedRax = k.exceptionSavedRax
  exceptionSavedRbx : k'.exceptionSavedRbx = k.exceptionSavedRbx

/-- What holds of a kontext whose payload runs. -/
structure InCall (k : KkmKontext) : Prop where
  newThread : k.newThread = false
  syscallPending : k.syscallPending = false
  exceptionPosted : k.exceptionPosted = false
  clean : RegsClean k
  immediateExit : k.run.immediateExit ≠ 1#8

/-- The next `KKM_RUN` enters the payload with the registers of the exit. -/
def Resumes (k k' : KkmKontext) : Prop :=
  ∀ (m : ByteMemory) (e : EntryCpu), ∃ k'',
    kkmRunEntry m false e (kkmGetRegs k') = .entered k'' ∧
      k''.ga.regs = { k.ga.regs with
        rflags := payloadRflags k.ga.debug k.ga.regs.rflags }

/-- The payload stops where it was. -/
def StopsAsItWas (k k' : KkmKontext) : Prop :=
  SameCallState k k' ∧ (InCall k → Resumes k k')

theorem startNewThread_of_started {k : KkmKontext} (h : k.newThread = false) :
    startNewThread k = k := by
  have hclone : isCloneStart k = false := by simp [isCloneStart, h]
  calc startNewThread k = { k with newThread := false } := by
        simp only [startNewThread, hclone, KkmKontext.setRegs, Bool.false_eq_true,
          if_false]
    _ = k := by rw [← h]

/-- A payload that runs has nothing to be done before its next entry. -/
theorem InCall.entry {k : KkmKontext} (h : InCall k) (m : ByteMemory) (e : EntryCpu) :
    ∃ k', kkmRunEntry m false e k = .entered k' ∧
      k'.ga.regs = { k.ga.regs with
        rflags := payloadRflags k.ga.debug k.ga.regs.rflags } := by
  have hresponse : kkmKontextHandleSyscallResponse m k = (0, k) := by
    simp [kkmKontextHandleSyscallResponse, h.syscallPending]
  have hstart : kkmKontextSwitchKernelStart m k = (0, forgetTrap (restoreException k)) := by
    simp [kkmKontextSwitchKernelStart, h.immediateExit,
      startNewThread_of_started h.newThread, hresponse]
  refine ⟨enterPayload e (forgetTrap (restoreException k)), ?_, ?_⟩
  · simp [kkmRunEntry, kkmSetRegs_of_clean h.clean, hstart]
  · simp [forgetTrap, restoreException, KkmKontext.setRegs, h.exceptionPosted]

/-- What the general protection and page fault handlers keep when they fail. -/
structure FailsClean (k k' : KkmKontext) : Prop extends SameCallState k k' where
  newThread : k'.newThread = k.newThread
  dirty : k'.run.kkmDirtyRegs = k.run.kkmDirtyRegs
  immediateExit : k'.run.immediateExit = k.run.immediateExit
  debug : k'.ga.debug = k.ga.debug

theorem FailsClean.stops {k k' : KkmKontext} (h : FailsClean k k') :
    StopsAsItWas k k' := by
  refine ⟨h.toSameCallState, fun hcall m e => ?_⟩
  have hcall' : InCall (kkmGetRegs k') := by
    constructor
    · exact h.newThread.trans hcall.newThread
    · exact h.syscallPending.trans hcall.syscallPending
    · exact h.exceptionPosted.trans hcall.exceptionPosted
    · simpa only [RegsClean, kkmGetRegs, runPageRegs, h.dirty] using hcall.clean
    · simpa only [kkmGetRegs, runPageRegs, h.immediateExit] using hcall.immediateExit
  obtain ⟨k'', hentered, hregs⟩ := hcall'.entry m e
  refine ⟨k'', hentered, hregs.trans ?_⟩
  simp only [kkmGetRegs, h.regs, h.debug]

section Failures

variable (cfg : KkmConfig) (kkm : Kkm)

theorem kkmProcessGeneralProtection_fails
    (k : KkmKontext) (m : ByteMemory)
    (hret : (kkmProcessGeneralProtection cfg kkm k m).1 < 0) :
    FailsClean k (kkmProcessGeneralProtection cfg kkm k m).2 := by
  unfold kkmProcessGeneralProtection at hret ⊢
  split
  · exact ⟨⟨rfl, rfl, rfl, rfl, rfl, rfl⟩, rfl, rfl, rfl, rfl⟩
  · rename_i mva priv hva
    simp only [hva] at hret ⊢
    split
    · exact ⟨⟨rfl, rfl, rfl, rfl, rfl, rfl⟩, rfl, rfl, rfl, rfl⟩
    · rename_i hmapped
      rw [if_neg hmapped] at hret
      split
      · exact ⟨⟨rfl, rfl, rfl, rfl, rfl, rfl⟩, rfl, rfl, rfl, rfl⟩
      · rename_i hout
        rw [if_neg hout] at hret
        cases hret

/-- Whatever it returns, a page fault changes none of these. -/
theorem kkmProcessPageFault_clean
    (nativePgd : Nat) (read : UserRead) (write : UserWrite)
    (k : KkmKontext) (m : Memory) :
    FailsClean k (kkmProcessPageFault cfg nativePgd kkm read write k m).2.1 := by
  unfold kkmProcessPageFault
  simp only
  split
  · exact ⟨⟨rfl, rfl, rfl, rfl, rfl, rfl⟩, rfl, rfl, rfl, rfl⟩
  · split
    · split
      · exact ⟨⟨rfl, rfl, rfl, rfl, rfl, rfl⟩, rfl, rfl, rfl, rfl⟩
      · split
        · exact ⟨⟨rfl, rfl, rfl, rfl, rfl, rfl⟩, rfl, rfl, rfl, rfl⟩
        · exact ⟨⟨rfl, rfl, rfl, rfl, rfl, rfl⟩, rfl, rfl, rfl, rfl⟩
    · exact ⟨⟨rfl, rfl, rfl, rfl, rfl, rfl⟩, rfl, rfl, rfl, rfl⟩

/-- Without a frame a handler that fails has changed nothing that matters. -/
theorem kkmProcessIntr_fails_without_frame
    (a : ExitAnswers) {k : KkmKontext} (s : RunMemory) (hf : stackFrame k = none)
    (hret : (kkmProcessIntr cfg kkm a k s).1 < 0) :
    FailsClean k (kkmProcessIntr cfg kkm a k s).2.1 := by
  let k₀ := { k with run := { k.run with exitReason := kkmExitUnknown } }
  have hback : ∀ {k'}, FailsClean k₀ k' → FailsClean k k' := fun h =>
    ⟨⟨h.regs, h.syscallPending, h.retValMva, h.exceptionPosted, h.exceptionSavedRax,
      h.exceptionSavedRbx⟩, h.newThread, h.dirty, h.immediateExit, h.debug⟩
  unfold stackFrame at hf
  simp only [kkmProcessIntr] at hret ⊢
  cases hhandler : intrHandler k.ga.intrNo with
  | generalProtection =>
      simp only [hhandler] at hret
      exact hback (kkmProcessGeneralProtection_fails cfg kkm k₀ s.user hret)
  | pageFault =>
      exact hback (kkmProcessPageFault_clean cfg kkm a.nativePgd a.read a.write k₀
        s.tables)
  | debug =>
      simp only [hhandler] at hret
      cases hret
  | nmi =>
      simp only [hhandler] at hret
      cases hret
  | breakpoint =>
      simp only [hhandler] at hret
      cases hret
  | forward =>
      simp only [hhandler] at hret
      cases hret
  | commonWithoutError => simp [hhandler] at hf
  | commonWithError => simp [hhandler] at hf
  | syscall => simp [hhandler] at hf

/-- A frame never starts at the stack pointer itself. -/
theorem stackFrame_gva_ne {k : KkmKontext} {f : StackFrame} (hf : stackFrame k = some f) :
    f.gva ≠ k.ga.regs.rsp := by
  have hne : ∀ rsp d : BitVec 64, d ≠ 0#64 → rsp - d ≠ rsp := by
    intro rsp d hd heq
    apply hd
    bv_omega
  unfold stackFrame at hf
  split at hf
  · obtain rfl := Option.some.inj hf
    exact hne _ _ (by decide)
  · obtain rfl := Option.some.inj hf
    exact hne _ _ (by decide)
  · obtain rfl := Option.some.inj hf
    simp only [hcArgsFrame, kkmAbiRedzone, sizeofKkmHcArgs]
    bv_omega
  · cases hf

/-- A failing handler leaves the kontext as it was exactly when it is not one
that could not write its frame. -/
theorem kkmProcessIntr_stopsAsItWas_iff
    (a : ExitAnswers) (k : KkmKontext) (s : RunMemory) :
    let r := kkmProcessIntr cfg kkm a k s
    (r.1 < 0 → StopsAsItWas k r.2.1) ↔
      ∀ f, stackFrame k = some f → FrameFits cfg kkm k s.user f := by
  intro r
  have hneg : -efault < 0 := by decide
  cases hf : stackFrame k with
  | none =>
      refine iff_of_true (fun hret => ?_) (by simp)
      exact (kkmProcessIntr_fails_without_frame cfg kkm a s hf hret).stops
  | some f =>
      simp only [Option.some.injEq, forall_eq']
      rcases kkmProcessIntr_frame cfg kkm a s hf with
        ⟨hfits, hret, -, -⟩ | ⟨hfits, hret, hrsp⟩
      · refine iff_of_true (fun hlt => ?_) hfits
        rw [hret] at hlt
        cases hlt
      · refine iff_of_false (fun h => ?_) hfits
        have hregs := (h (by rw [hret]; exact hneg)).1.regs
        rw [hregs] at hrsp
        exact stackFrame_gva_ne hf hrsp.symm

end Failures

/-- A divide error whose frame cannot be translated leaves the stack pointer 64
bytes lower. -/
theorem divideError_moves_rsp :
    ¬ (let k := exitWithStack 0#64 0#64
      let r := kkmProcessIntr .stock .zeroed zeroedExitAnswers k zeroedRunMemory
      r.1 < 0 → StopsAsItWas k r.2.1) := by
  intro h
  have hf : stackFrame (exitWithStack 0#64 0#64) =
      some (noErrorCodeFrame (exitWithStack 0#64 0#64)) := rfl
  have hnone : ¬ FrameFits .stock .zeroed (exitWithStack 0#64 0#64)
      zeroedRunMemory.user (noErrorCodeFrame (exitWithStack 0#64 0#64)) := by
    rintro ⟨⟨mva, priv, hva, -⟩, -⟩
    have hno : kkmGuestVaToMonitorVa .stock .zeroed
        (noErrorCodeFrame (exitWithStack 0#64 0#64)).gva = none := by decide
    cases hno.symm.trans hva
  rcases kkmProcessIntr_frame .stock .zeroed zeroedExitAnswers zeroedRunMemory hf with
    ⟨hfits, -⟩ | ⟨-, hret, hrsp⟩
  · exact hnone hfits
  · have hneg : -efault < 0 := by decide
    have hregs := (h (by rw [hret]; exact hneg)).1.regs
    rw [hregs] at hrsp
    exact absurd hrsp (by decide)

end Driver
end KkmModule
