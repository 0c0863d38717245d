import KkmModule.Driver.TripWrites
import KkmModule.Foundation.MemoryImage
import Mathlib.Data.List.Chain

/-!
# The red zones of the guest stack (`kkm_misc.c`)

The guest stack has a red zone above and one below it.  `kkm_kontext_init` fills
them, and before each entry `kkm_guest_kernel_start_payload` may look whether they
still are as they were; the look is compiled out.

Compiled in it would never print anything (`redzones_kept`), from the
initialisation of a kontext on and over all its runs.
-/

namespace KkmModule
namespace Driver

open Foundation X86

/-! ## `kkm_misc.c` -/

/-- `GUEST_STACK_REDZONE_SIZE` -/
def guestStackRedzoneSize : Nat := 256
/-- `REDZONE_DATA` -/
def redzoneData : BitVec 8 := 0xA5#8

/-- `redzone_top` and `redzone_bottom` in the guest area -/
def redzoneTop : Nat := 4096
def redzoneBottom : Nat := 7936

/-- A word of bytes that are all the same. -/
def filledWord (value : BitVec 8) : BitVec 64 := bytesWord (List.replicate 8 value)

/-- `memset` of a red zone, word by word. -/
def zoneWords (zone : Nat) : List (Nat × BitVec 64) :=
  (List.range (guestStackRedzoneSize / 8)).map fun j =>
    (zone + 8 * j, filledWord redzoneData)

def kkmInitGuestAreaRedzone (ga : BitVec 64) (s : State) : State :=
  (s.writeWords ga (zoneWords redzoneTop)).writeWords ga (zoneWords redzoneBottom)

/-- The byte `data[i]`. -/
def byteAt (mem : BitVec 64 → BitVec 64) (data : BitVec 64) (i : Nat) : BitVec 8 :=
  (wordBytes (mem (addr data (8 * (i / 8))))).getD (i % 8) 0

/-- `kkm_verify_bytes`: the first byte that is not the expected one. -/
def kkmVerifyBytes
    (mem : BitVec 64 → BitVec 64) (data : BitVec 64) (count : Nat) (value : BitVec 8) :
    Option (BitVec 8) :=
  ((List.range count).map (byteAt mem data)).find? fun b => b ≠ value

/-- What is printed. -/
inductive RedzoneNotice where
  /-- expected `REDZONE_DATA`, and found another byte -/
  | dataMismatch (found : BitVec 8)
  | topMismatch
  | bottomMismatch
deriving DecidableEq, Repr

/-- One of the two looks. -/
def verifyZone
    (mem : BitVec 64 → BitVec 64) (zone : BitVec 64) (notice : RedzoneNotice) :
    List RedzoneNotice :=
  match kkmVerifyBytes mem zone guestStackRedzoneSize redzoneData with
  | none => []
  | some found => [.dataMismatch found, notice]

/-- `kkm_verify_guest_area_redzone`; `enable` is `KKM_REDZONE_CHECK_ENABLE`. -/
def kkmVerifyGuestAreaRedzone
    (enable : Bool) (mem : BitVec 64 → BitVec 64) (ga : BitVec 64) :
    List RedzoneNotice :=
  if enable then
    verifyZone mem (addr ga redzoneTop) .topMismatch ++
      verifyZone mem (addr ga redzoneBottom) .bottomMismatch
  else []

/-! ## The look finds every change -/

/-- The words of a red zone are as they have been filled. -/
def ZoneFilled (mem : BitVec 64 → BitVec 64) (zone : BitVec 64) : Prop :=
  ∀ j, j < 32 → mem (addr zone (8 * j)) = filledWord redzoneData

structure RedzonesFilled (mem : BitVec 64 → BitVec 64) (ga : BitVec 64) : Prop where
  top : ZoneFilled mem (addr ga redzoneTop)
  bottom : ZoneFilled mem (addr ga redzoneBottom)

/-- A word is filled if and only if each of its bytes is. -/
theorem eq_filledWord_iff {w : BitVec 64} {value : BitVec 8} :
    w = filledWord value ↔ ∀ k, k < 8 → (wordBytes w).getD k 0 = value := by
  have hfilled : wordBytes (filledWord value) = List.replicate 8 value :=
    wordBytes_bytesWord List.length_replicate
  constructor
  · rintro rfl k hk
    rw [hfilled, List.getD_eq_getElem _ _ (by rwa [List.length_replicate])]
    exact List.getElem_replicate _
  · intro hbytes
    have hword : wordBytes w = List.replicate 8 value := by
      refine List.eq_replicate_iff.mpr ⟨wordBytes_length w, fun b hb => ?_⟩
      obtain ⟨k, hk, rfl⟩ := List.mem_iff_getElem.mp hb
      rw [← hbytes k (by rwa [wordBytes_length] at hk), List.getD_eq_getElem _ _ hk]
    rw [← bytesWord_wordBytes w, hword, filledWord]

theorem kkmVerifyBytes_eq_none_iff
    {mem : BitVec 64 → BitVec 64} {data : BitVec 64} {n : Nat} {value : BitVec 8} :
    kkmVerifyBytes mem data (8 * n) value = none ↔
      ∀ j, j < n → mem (addr data (8 * j)) = filledWord value := by
  have hbytes : kkmVerifyBytes mem data (8 * n) value = none ↔
      ∀ i, i < 8 * n → byteAt mem data i = value := by
    simp [kkmVerifyBytes]
  rw [hbytes]
  constructor
  · intro h j hj
    refine eq_filledWord_iff.mpr fun k hk => ?_
    have hbyte := h (8 * j + k) (by omega)
    rwa [byteAt, show (8 * j + k) / 8 = j by omega, show (8 * j + k) % 8 = k by omega]
      at hbyte
  · intro h i hi
    exact eq_filledWord_iff.mp (h (i / 8) (by omega)) (i % 8) (Nat.mod_lt i (by decide))

theorem verifyZone_eq_nil_iff
    {mem : BitVec 64 → BitVec 64} {zone : BitVec 64} {notice : RedzoneNotice} :
    verifyZone mem zone notice = [] ↔ ZoneFilled mem zone := by
  have hnone : kkmVerifyBytes mem zone (8 * 32) redzoneData = none ↔ ZoneFilled mem zone :=
    kkmVerifyBytes_eq_none_iff
  rw [← hnone, verifyZone, guestStackRedzoneSize]
  cases kkmVerifyBytes mem zone (8 * 32) redzoneData <;> simp

/-- Compiled in, the look prints nothing exactly where the red zones are as they
were filled. -/
theorem kkmVerifyGuestAreaRedzone_eq_nil_iff
    {mem : BitVec 64 → BitVec 64} {ga : BitVec 64} :
    kkmVerifyGuestAreaRedzone true mem ga = [] ↔ RedzonesFilled mem ga := by
  rw [kkmVerifyGuestAreaRedzone, if_pos rfl, List.append_eq_nil_iff,
    verifyZone_eq_nil_iff, verifyZone_eq_nil_iff]
  exact ⟨fun h => ⟨h.1, h.2⟩, fun h => ⟨h.top, h.bottom⟩⟩

/-! ## What fills them, and what leaves them alone -/

/-- A word of one of the red zones. -/
def inRedzone (off : Nat) : Prop :=
  (redzoneTop ≤ off ∧ off < guestStkTop) ∨ (redzoneBottom ≤ off ∧ off < 2 ^ 13)

theorem zoneWords_mem {zone j : Nat} (hj : j < 32) :
    (zone + 8 * j, filledWord redzoneData) ∈ zoneWords zone :=
  List.mem_map.mpr ⟨j, List.mem_range.mpr hj, rfl⟩

theorem zoneWords_bounds {zone : Nat} {w : Nat × BitVec 64} (hw : w ∈ zoneWords zone) :
    zone ≤ w.1 ∧ w.1 < zone + 256 := by
  obtain ⟨j, hj, rfl⟩ := List.mem_map.mp hw
  have hj' : j < 32 := List.mem_range.mp hj
  exact ⟨by simp, show zone + 8 * j < zone + 256 by omega⟩

theorem zoneWords_nodup (zone : Nat) : ((zoneWords zone).map Prod.fst).Nodup := by
  rw [zoneWords, List.map_map]
  refine List.Nodup.map_on ?_ List.nodup_range
  intro i _ j _ hij
  have hij' : zone + 8 * i = zone + 8 * j := hij
  omega

theorem redzonesFilled_init (ga : BitVec 64) (s : State) :
    RedzonesFilled (kkmInitGuestAreaRedzone ga s).mem ga := by
  have hlt : ∀ zone, zone ≤ 7936 → ∀ w ∈ zoneWords zone, w.1 < 2 ^ 64 := by
    intro zone hzone w hw
    have := (zoneWords_bounds hw).2
    omega
  constructor
  · intro j hj
    have hw : (redzoneTop + 8 * j, filledWord redzoneData) ∈ zoneWords redzoneTop :=
      zoneWords_mem hj
    rw [addr_addr, kkmInitGuestAreaRedzone, mem_writeWords_of_ne]
    · exact mem_writeWords (zoneWords_nodup _) (hlt redzoneTop (by decide)) hw
    · -- the second zone starts above the first
      intro w' hw' heq
      have hbound : 7936 ≤ w'.1 := (zoneWords_bounds hw').1
      have hsame : 4096 + 8 * j = w'.1 := (addr_inj
        (hlt redzoneTop (by decide) _ hw) (hlt redzoneBottom (by decide) w' hw')).mp heq
      omega
  · intro j hj
    rw [addr_addr]
    exact mem_writeWords (zoneWords_nodup _) (hlt redzoneBottom (by decide))
      (zoneWords_mem hj)

theorem RedzonesFilled.congr
    {mem mem' : BitVec 64 → BitVec 64} {ga : BitVec 64} (h : RedzonesFilled mem ga)
    (hsame : ∀ off, inRedzone off → mem' (addr ga off) = mem (addr ga off)) :
    RedzonesFilled mem' ga := by
  constructor
  · intro j hj
    have hin : inRedzone (redzoneTop + 8 * j) :=
      .inl ⟨by simp, show 4096 + 8 * j < 4352 by omega⟩
    rw [addr_addr, hsame _ hin, ← addr_addr]
    exact h.top j hj
  · intro j hj
    have hin : inRedzone (redzoneBottom + 8 * j) :=
      .inr ⟨by simp, show 7936 + 8 * j < 8192 by omega⟩
    rw [addr_addr, hsame _ hin, ← addr_addr]
    exact h.bottom j hj

theorem redzone_untouched
    {ga : GuestAreaAddr} {nk : BitVec 64} (hap : StacksApart ga nk) {off : Nat}
    (hoff : inRedzone off) : Untouched ga nk (addr ga.va off) := by
  have hbounds : 4096 ≤ off ∧ off < 4352 ∨ 7936 ≤ off ∧ off < 8192 := hoff
  have hlt : off < 2 ^ 13 := by omega
  refine ⟨hap.guestArea off hlt, ?_, fun j hj => (hap.apart j hj off hlt).symm⟩
  intro off' hoff' heq
  have hwritten : off' < 4096 ∨ 4352 ≤ off' ∧ off' < 7936 := tripWrites_bounds hoff'
  have hsame := (addr_inj (by omega) (by omega)).mp heq
  omega

/-! ## Over all runs of a kontext -/

/-- What the C code of the module writes of the guest area: the fields, which are
in the first page. -/
def KeepsSecondPage (ga : BitVec 64) (mem mem' : BitVec 64 → BitVec 64) : Prop :=
  ∀ off, offPayEntStk ≤ off → off < 2 ^ 13 → mem' (addr ga off) = mem (addr ga off)

theorem RedzonesFilled.of_keepsSecondPage
    {mem mem' : BitVec 64 → BitVec 64} {ga : BitVec 64} (h : RedzonesFilled mem ga)
    (hkeeps : KeepsSecondPage ga mem mem') : RedzonesFilled mem' ga := by
  refine h.congr fun off hoff => ?_
  have hbounds : 4096 ≤ off ∧ off < 4352 ∨ 7936 ≤ off ∧ off < 8192 := hoff
  exact hkeeps off (show 4096 ≤ off by omega) (by omega)

/-- One turn, whatever the payload does in it. -/
theorem SwitchedTurn.Calls.redzones
    {t : SwitchedTurn} {ga : GuestAreaAddr} {kontext : KkmKontext}
    (h : t.Calls ga kontext) (hfits : t.StubFits)
    (hroom : t.trip.entryCode.depth + 64 ≤ 3576)
    (hfilled : RedzonesFilled t.host.mem ga.va) :
    RedzonesFilled (t.trip.atStart t.host).mem ga.va ∧
      RedzonesFilled (t.trip.run t.host).mem ga.va := by
  constructor
  · exact hfilled.congr fun off hoff =>
      atStart_untouched h.ready (redzone_untouched h.apart hoff)
  · refine hfilled.congr fun off hoff => ?_
    exact switch_untouched h.ready h.apart (hasHostGs_of_stubFits hfits t.host) hroom
      (redzone_untouched h.apart hoff)

/-- From the initialisation of a kontext on, over all its calls of `KKM_RUN`, the
look at the red zones would print nothing at any entry of the payload, nor after
its exit. -/
theorem redzones_kept
    {ga : GuestAreaAddr} (s₀ : State) {ts : List SwitchedTurn}
    (hcalls : ∀ t ∈ ts, ∃ kontext, t.Calls ga kontext) (hfits : ∀ t ∈ ts, t.StubFits)
    (hroom : ∀ t ∈ ts, t.trip.entryCode.depth + 64 ≤ 3576)
    (hfirst : ∀ t ∈ ts.head?,
      KeepsSecondPage ga.va (kkmInitGuestAreaRedzone ga.va s₀).mem t.host.mem)
    (hbetween : ts.IsChain fun t t' =>
      KeepsSecondPage ga.va (t.trip.run t.host).mem t'.host.mem) :
    ∀ t ∈ ts,
      kkmVerifyGuestAreaRedzone true (t.trip.atStart t.host).mem ga.va = [] ∧
        kkmVerifyGuestAreaRedzone true (t.trip.run t.host).mem ga.va = [] := by
  have hstart : ∀ t ∈ ts.head?, RedzonesFilled t.host.mem ga.va := fun t ht =>
    (redzonesFilled_init ga.va s₀).of_keepsSecondPage (hfirst t ht)
  clear hfirst
  simp only [kkmVerifyGuestAreaRedzone_eq_nil_iff]
  induction ts with
  | nil => exact fun t ht => nomatch ht
  | cons t ts ih =>
      obtain ⟨kontext, hcall⟩ := hcalls t List.mem_cons_self
      have hturn := hcall.redzones (hfits t List.mem_cons_self) (hroom t List.mem_cons_self)
        (hstart t rfl)
      have hnext : ∀ t' ∈ ts.head?, RedzonesFilled t'.host.mem ga.va := fun t' ht' =>
        hturn.2.of_keepsSecondPage (hbetween.rel_head? ht')
      intro t' ht'
      rcases List.mem_cons.mp ht' with rfl | ht'
      · exact hturn
      · exact ih (fun u hu => hcalls u (List.mem_cons_of_mem t hu))
          (fun u hu => hfits u (List.mem_cons_of_mem t hu))
          (fun u hu => hroom u (List.mem_cons_of_mem t hu)) hbetween.tail hnext t' ht'

/-- A turn from a memory, for the kontext whose registers are in it. -/
def turnFrom (mem : BitVec 64 → BitVec 64) : SwitchedTurn :=
  interruptedTurn mem (gaRegs mem someGuestArea.va).rflags

theorem turnFrom_calls (mem : BitVec 64 → BitVec 64) :
    ∃ kontext, (turnFrom mem).Calls someGuestArea kontext := by
  let kontext : KkmKontext :=
    { KkmKontext.zeroed with
      ga := { KkmGuestArea.zeroed with
        regs := gaRegs mem someGuestArea.va
        guestPayloadCr3 := mem (addr someGuestArea.va offGpCr3) } }
  have hcalls : (interruptedTurn mem kontext.ga.regs.rflags).Calls someGuestArea kontext :=
    @interruptedTurn_calls mem kontext rfl rfl rfl
  exact ⟨kontext, hcalls⟩

theorem keepsSecondPage_turnFrom (mem : BitVec 64 → BitVec 64) :
    KeepsSecondPage someGuestArea.va mem (turnFrom mem).host.mem :=
  fun _ _ _ => rfl

/-- A turn after the initialisation. -/
def firstTurn : SwitchedTurn :=
  turnFrom (kkmInitGuestAreaRedzone someGuestArea.va someHost).mem

/-- A turn right after that. -/
def secondTurn : SwitchedTurn :=
  turnFrom (firstTurn.trip.run firstTurn.host).mem

theorem exists_turnFrom : ∀ t ∈ [firstTurn, secondTurn], ∃ mem, t = turnFrom mem := by
  intro t ht
  simp only [List.mem_cons, List.not_mem_nil, or_false] at ht
  rcases ht with rfl | rfl
  · exact ⟨_, rfl⟩
  · exact ⟨_, rfl⟩

theorem redzones_kept_twice :
    (kkmVerifyGuestAreaRedzone true (firstTurn.trip.atStart firstTurn.host).mem
        someGuestArea.va = [] ∧
      kkmVerifyGuestAreaRedzone true (firstTurn.trip.run firstTurn.host).mem
        someGuestArea.va = []) ∧
      kkmVerifyGuestAreaRedzone true (secondTurn.trip.atStart secondTurn.host).mem
        someGuestArea.va = [] ∧
      kkmVerifyGuestAreaRedzone true (secondTurn.trip.run secondTurn.host).mem
        someGuestArea.va = [] := by
  have hcalls : ∀ t ∈ [firstTurn, secondTurn], ∃ kontext,
      t.Calls someGuestArea kontext := by
    intro t ht
    obtain ⟨mem, rfl⟩ := exists_turnFrom t ht
    exact turnFrom_calls mem
  have hfits : ∀ t ∈ [firstTurn, secondTurn], t.StubFits := by
    intro t ht
    obtain ⟨mem, rfl⟩ := exists_turnFrom t ht
    rfl
  have hroom : ∀ t ∈ [firstTurn, secondTurn], t.trip.entryCode.depth + 64 ≤ 3576 := by
    intro t ht
    obtain ⟨mem, rfl⟩ := exists_turnFrom t ht
    exact show 0 + 64 ≤ 3576 by omega
  have hkept := redzones_kept someHost hcalls hfits hroom
    (fun t ht => by
      obtain rfl := Option.some.inj ht
      exact keepsSecondPage_turnFrom _)
    (.cons_cons (keepsSecondPage_turnFrom _) (.singleton secondTurn))
  exact ⟨hkept firstTurn List.mem_cons_self,
    hkept secondTurn (List.mem_cons_of_mem _ List.mem_cons_self)⟩

end Driver
end KkmModule
