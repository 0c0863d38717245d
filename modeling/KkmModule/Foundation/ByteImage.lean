import Mathlib.Data.List.Basic
import Mathlib.Data.List.GetD
import Mathlib.Data.Nat.Basic
import Mathlib.Tactic.Ring

/-!
# Little-endian words in byte memory

Words as lists of bytes, lowest byte first, and a memory of single bytes in
which some addresses are not mapped.  A copy fails at the first address that is
not mapped; what has been copied before stays.

`readBytes_writeBytes` reads back a complete copy, `writeBytes_of_not_inBytes`
is the frame rule: a copy changes nothing outside its range.
-/

namespace KkmModule
namespace Foundation

/-! ## Words and bytes -/

/-- The `n` lowest bytes of a number. -/
def toBytes : Nat → Nat → List (BitVec 8)
  | 0, _ => []
  | n + 1, v => BitVec.ofNat 8 v :: toBytes n (v / 256)

/-- The number that bytes stand for. -/
def ofBytes : List (BitVec 8) → Nat
  | [] => 0
  | b :: bs => b.toNat + 256 * ofBytes bs

@[simp] theorem toBytes_length (n v : Nat) : (toBytes n v).length = n := by
  induction n generalizing v with
  | zero => rfl
  | succ n ih => simp [toBytes, ih]

theorem ofBytes_toBytes (n v : Nat) : ofBytes (toBytes n v) = v % 256 ^ n := by
  induction n generalizing v with
  | zero =>
      simp [toBytes, ofBytes, Nat.mod_one]
  | succ n ih =>
      have hpow : 256 ^ (n + 1) = 256 * 256 ^ n := by ring
      simp only [toBytes, ofBytes, ih, BitVec.toNat_ofNat, hpow]
      rw [Nat.mod_mul]

theorem toBytes_ofBytes (bs : List (BitVec 8)) : toBytes bs.length (ofBytes bs) = bs := by
  induction bs with
  | nil => rfl
  | cons b bs ih =>
      have hlow : BitVec.ofNat 8 (b.toNat + 256 * ofBytes bs) = b := by
        apply BitVec.eq_of_toNat_eq
        have hb := b.isLt
        simp only [BitVec.toNat_ofNat]
        omega
      have hhigh : (b.toNat + 256 * ofBytes bs) / 256 = ofBytes bs := by
        have hb := b.isLt
        omega
      rw [List.length_cons, ofBytes, toBytes, hlow, hhigh, ih]

theorem ofBytes_lt (bs : List (BitVec 8)) : ofBytes bs < 256 ^ bs.length := by
  induction bs with
  | nil => simp [ofBytes]
  | cons b bs ih =>
      have hb := b.isLt
      have hpow : 256 ^ (bs.length + 1) = 256 * 256 ^ bs.length := by ring
      rw [ofBytes, List.length_cons, hpow]
      omega

theorem length_flatMap_const
    {α : Type} {f : α → List (BitVec 8)} {n : Nat} (hf : ∀ x, (f x).length = n)
    (xs : List α) : (xs.flatMap f).length = xs.length * n := by
  induction xs with
  | nil => simp
  | cons x xs ih =>
      rw [List.flatMap_cons, List.length_append, hf, ih, List.length_cons,
        Nat.succ_mul, Nat.add_comm]

/-- A 64-bit word as eight bytes. -/
def wordBytes (v : BitVec 64) : List (BitVec 8) := toBytes 8 v.toNat

/-- The 64-bit word of eight bytes. -/
def bytesWord (bs : List (BitVec 8)) : BitVec 64 := BitVec.ofNat 64 (ofBytes bs)

@[simp] theorem wordBytes_length (v : BitVec 64) : (wordBytes v).length = 8 :=
  toBytes_length 8 v.toNat

@[simp] theorem bytesWord_wordBytes (v : BitVec 64) :
    bytesWord (wordBytes v) = v := by
  apply BitVec.eq_of_toNat_eq
  have hlt := v.isLt
  simp only [bytesWord, wordBytes, ofBytes_toBytes, BitVec.toNat_ofNat]
  omega

/-! ## Byte memory -/

/-- Bytes by address; `none` where nothing is mapped. -/
abbrev ByteMemory : Type := BitVec 64 → Option (BitVec 8)

def readBytes (m : ByteMemory) : BitVec 64 → Nat → Option (List (BitVec 8))
  | _, 0 => some []
  | a, n + 1 =>
      match m a, readBytes m (a + 1#64) n with
      | some b, some bs => some (b :: bs)
      | _, _ => none

/-- Copies bytes; the first component is false if an address is not mapped. -/
def writeBytes (m : ByteMemory) : BitVec 64 → List (BitVec 8) → Bool × ByteMemory
  | _, [] => (true, m)
  | a, b :: bs =>
      match m a with
      | none => (false, m)
      | some _ => writeBytes (Function.update m a (some b)) (a + 1#64) bs

/-- The address is one of the `n` from `a` on. -/
def InBytes (a : BitVec 64) (n : Nat) (x : BitVec 64) : Prop :=
  ∃ k < n, x = a + BitVec.ofNat 64 k

theorem inBytes_succ
    {a x : BitVec 64} {n : Nat} :
    InBytes a (n + 1) x ↔ x = a ∨ InBytes (a + 1#64) n x := by
  constructor
  · rintro ⟨k, hk, rfl⟩
    cases k with
    | zero => exact Or.inl (by simp)
    | succ k =>
        refine Or.inr ⟨k, by omega, ?_⟩
        rw [BitVec.add_assoc]
        congr 1
        apply BitVec.eq_of_toNat_eq
        simp [Nat.add_comm]
  · rintro (rfl | ⟨k, hk, rfl⟩)
    · exact ⟨0, by omega, by simp⟩
    · refine ⟨k + 1, by omega, ?_⟩
      rw [BitVec.add_assoc]
      congr 1
      apply BitVec.eq_of_toNat_eq
      simp [Nat.add_comm]

/-- A copy changes nothing outside its range. -/
theorem writeBytes_of_not_inBytes
    {m : ByteMemory} {a x : BitVec 64} {bs : List (BitVec 8)}
    (h : ¬ InBytes a bs.length x) :
    (writeBytes m a bs).2 x = m x := by
  induction bs generalizing m a with
  | nil => rfl
  | cons b bs ih =>
      rw [List.length_cons, inBytes_succ, not_or] at h
      simp only [writeBytes]
      cases m a with
      | none => rfl
      | some old =>
          simp only
          rw [ih h.2, Function.update_of_ne h.1]

/-- How far an address lies from `a` decides whether it is in the range. -/
theorem inBytes_iff
    {a x : BitVec 64} {n : Nat} (hn : n ≤ 2 ^ 64) : InBytes a n x ↔ (x - a).toNat < n := by
  constructor
  · rintro ⟨k, hk, rfl⟩
    rw [BitVec.add_comm, BitVec.add_sub_cancel, BitVec.toNat_ofNat,
      Nat.mod_eq_of_lt (by omega)]
    exact hk
  · intro h
    refine ⟨(x - a).toNat, h, ?_⟩
    rw [BitVec.ofNat_toNat, BitVec.setWidth_eq, BitVec.add_comm, BitVec.sub_add_cancel]

/-- A range that starts inside another one lies in it exactly when it ends in
it. -/
theorem inBytes_subset_iff
    {a : BitVec 64} {off n size : Nat} (hoff : off < size) (hsize : size < 2 ^ 64) :
    (∀ x, InBytes (a + BitVec.ofNat 64 off) n x → InBytes a size x) ↔
      off + n ≤ size := by
  constructor
  · intro h
    by_contra hlong
    have hlast := h (a + BitVec.ofNat 64 off + BitVec.ofNat 64 (size - off))
      ⟨size - off, by omega, rfl⟩
    rw [inBytes_iff (by omega)] at hlast
    have hdist : a + BitVec.ofNat 64 off + BitVec.ofNat 64 (size - off) - a =
        BitVec.ofNat 64 size := by
      apply BitVec.eq_of_toNat_eq
      simp only [BitVec.toNat_sub, BitVec.toNat_add, BitVec.toNat_ofNat]
      have ha := a.isLt
      omega
    rw [hdist, BitVec.toNat_ofNat, Nat.mod_eq_of_lt hsize] at hlast
    omega
  · rintro hfit x ⟨k, hk, rfl⟩
    refine ⟨off + k, by omega, ?_⟩
    rw [BitVec.add_assoc]
    congr 1
    apply BitVec.eq_of_toNat_eq
    simp

/-- Where a range that is not empty lies in another one. -/
theorem inBytes_subset_iff_of_pos
    {a b : BitVec 64} {n size : Nat} (hn : 0 < n) (hsize : size < 2 ^ 64) :
    (∀ x, InBytes b n x → InBytes a size x) ↔ (b - a).toNat + n ≤ size := by
  have hb : b = a + BitVec.ofNat 64 (b - a).toNat := by
    rw [BitVec.ofNat_toNat, BitVec.setWidth_eq, BitVec.add_comm, BitVec.sub_add_cancel]
  by_cases hoff : (b - a).toNat < size
  · rw [← inBytes_subset_iff (a := a) hoff hsize, ← hb]
  · constructor
    · intro h
      have hfirst := h b ⟨0, hn, by simp⟩
      rw [inBytes_iff hsize.le] at hfirst
      exact absurd hfirst hoff
    · intro hfit
      omega

/-- All of the `n` addresses from `a` on are mapped. -/
def Mapped (m : ByteMemory) (a : BitVec 64) (n : Nat) : Prop :=
  ∀ x, InBytes a n x → m x ≠ none

theorem mapped_succ {m : ByteMemory} {a : BitVec 64} {n : Nat} :
    Mapped m a (n + 1) ↔ m a ≠ none ∧ Mapped m (a + 1#64) n := by
  constructor
  · intro h
    exact ⟨h a (inBytes_succ.mpr (Or.inl rfl)),
      fun x hx => h x (inBytes_succ.mpr (Or.inr hx))⟩
  · rintro ⟨hfirst, hrest⟩ x hx
    rcases inBytes_succ.mp hx with rfl | hx
    · exact hfirst
    · exact hrest x hx

theorem Mapped.congr
    {m m' : ByteMemory} (h : ∀ x, m' x = none ↔ m x = none) {a : BitVec 64} {n : Nat} :
    Mapped m' a n ↔ Mapped m a n :=
  forall₂_congr fun x _ => not_congr (h x)

/-- A copy maps nothing and unmaps nothing. -/
theorem writeBytes_eq_none
    {m : ByteMemory} {a : BitVec 64} {bs : List (BitVec 8)} (x : BitVec 64) :
    (writeBytes m a bs).2 x = none ↔ m x = none := by
  induction bs generalizing m a with
  | nil => exact Iff.rfl
  | cons b bs ih =>
      simp only [writeBytes]
      cases hold : m a with
      | none => exact Iff.rfl
      | some old =>
          simp only
          rw [ih]
          by_cases hx : x = a
          · subst hx
            simp [hold]
          · rw [Function.update_of_ne hx]

/-- A copy is complete exactly when its range is mapped. -/
theorem writeBytes_complete_iff
    {m : ByteMemory} {a : BitVec 64} {bs : List (BitVec 8)} :
    (writeBytes m a bs).1 = true ↔ Mapped m a bs.length := by
  induction bs generalizing m a with
  | nil =>
      refine iff_of_true rfl ?_
      rintro x ⟨k, hk, -⟩
      simp at hk
  | cons b bs ih =>
      rw [List.length_cons, mapped_succ]
      simp only [writeBytes]
      cases hold : m a with
      | none => simp
      | some old =>
          have hsame : ∀ x, Function.update m a (some b) x = none ↔ m x = none := by
            intro x
            by_cases hx : x = a
            · subst hx
              simp [hold]
            · rw [Function.update_of_ne hx]
          simp only [ih, Mapped.congr hsame]
          simp

/-- The first address is not in the range that follows it. -/
theorem not_inBytes_next
    {a : BitVec 64} {n : Nat} (hn : n < 2 ^ 64 - 1) :
    ¬ InBytes (a + 1#64) n a := by
  rintro ⟨k, hk, heq⟩
  rw [BitVec.add_assoc] at heq
  have hzero : 1#64 + BitVec.ofNat 64 k = 0#64 := by
    have hcancel : a + (1#64 + BitVec.ofNat 64 k) = a + 0#64 := by
      rw [BitVec.add_zero]
      exact heq.symm
    exact (BitVec.add_right_inj a).mp hcancel
  have htoNat := congrArg BitVec.toNat hzero
  simp only [BitVec.toNat_add, BitVec.toNat_ofNat] at htoNat
  omega

/-- A complete copy is read back. -/
theorem readBytes_writeBytes
    {m : ByteMemory} {a : BitVec 64} {bs : List (BitVec 8)}
    (hlen : bs.length < 2 ^ 64) (hok : (writeBytes m a bs).1 = true) :
    readBytes (writeBytes m a bs).2 a bs.length = some bs := by
  induction bs generalizing m a with
  | nil => rfl
  | cons b bs ih =>
      rw [List.length_cons] at hlen
      simp only [writeBytes] at hok ⊢
      cases hold : m a with
      | none => simp [hold] at hok
      | some old =>
          simp only [hold] at hok ⊢
          have hhead : (writeBytes (Function.update m a (some b)) (a + 1#64) bs).2 a =
              some b := by
            rw [writeBytes_of_not_inBytes (not_inBytes_next (by omega))]
            exact Function.update_self ..
          have htail := ih (by omega) hok
          simp only [List.length_cons, readBytes, hhead, htail]

/-- Each byte of a complete copy is at its place. -/
theorem writeBytes_getElem
    {m : ByteMemory} {a : BitVec 64} {bs : List (BitVec 8)} {i : Nat}
    (hlen : bs.length < 2 ^ 64) (hok : (writeBytes m a bs).1 = true)
    (hi : i < bs.length) :
    (writeBytes m a bs).2 (a + BitVec.ofNat 64 i) = bs[i]? := by
  induction bs generalizing m a i with
  | nil => cases hi
  | cons b bs ih =>
      rw [List.length_cons] at hlen hi
      simp only [writeBytes] at hok ⊢
      cases hold : m a with
      | none => simp [hold] at hok
      | some old =>
          simp only [hold] at hok ⊢
          cases i with
          | zero =>
              rw [BitVec.add_zero,
                writeBytes_of_not_inBytes (not_inBytes_next (by omega))]
              exact Function.update_self ..
          | succ i =>
              have hnext : a + BitVec.ofNat 64 (i + 1) =
                  a + 1#64 + BitVec.ofNat 64 i := by
                rw [BitVec.add_assoc]
                congr 1
                apply BitVec.eq_of_toNat_eq
                simp [Nat.add_comm]
              rw [hnext, ih (by omega) hok (by omega), List.getElem?_cons_succ]

/-! ## Words in byte memory -/

def readWord (m : ByteMemory) (a : BitVec 64) : Option (BitVec 64) :=
  (readBytes m a 8).map bytesWord

/-- A word that has been copied is read back. -/
theorem readWord_writeBytes
    {m : ByteMemory} {a v : BitVec 64}
    (hok : (writeBytes m a (wordBytes v)).1 = true) :
    readWord (writeBytes m a (wordBytes v)).2 a = some v := by
  have hread := readBytes_writeBytes (by simp) hok
  rw [wordBytes_length] at hread
  simp [readWord, hread]

/-! ## Images

A buffer without an end; a structure lies at fixed offsets in it. -/

/-- `bytes` copied into an image at `off`. -/
def overlay (image : Nat → BitVec 8) (off : Nat) (bytes : List (BitVec 8)) :
    Nat → BitVec 8 := fun i =>
  if off ≤ i ∧ i < off + bytes.length then bytes.getD (i - off) 0 else image i

/-- `n` bytes of an image from `off`. -/
def imageBytes (image : Nat → BitVec 8) (off n : Nat) : List (BitVec 8) :=
  (List.range n).map fun i => image (off + i)

@[simp] theorem imageBytes_length (image : Nat → BitVec 8) (off n : Nat) :
    (imageBytes image off n).length = n := by
  simp [imageBytes]

theorem imageBytes_congr
    {image image' : Nat → BitVec 8} {off off' n : Nat}
    (h : ∀ i < n, image (off + i) = image' (off' + i)) :
    imageBytes image off n = imageBytes image' off' n := by
  apply List.map_congr_left
  intro i hi
  exact h i (List.mem_range.mp hi)

theorem imageBytes_add (image : Nat → BitVec 8) (off n k : Nat) :
    imageBytes image off (n + k) =
      imageBytes image off n ++ imageBytes image (off + n) k := by
  simp only [imageBytes, List.range_add, List.map_append, List.map_map,
    Function.comp_def, Nat.add_assoc]

/-- What has been copied into an image is read back. -/
theorem imageBytes_overlay
    (image : Nat → BitVec 8) (off : Nat) (bytes : List (BitVec 8)) :
    imageBytes (overlay image off bytes) off bytes.length = bytes := by
  refine List.ext_getElem (by simp) ?_
  intro i hi hi'
  have hlt : i < bytes.length := hi'
  simp [imageBytes, overlay, hlt]

theorem overlay_of_outside
    {image : Nat → BitVec 8} {off i : Nat} {bytes : List (BitVec 8)}
    (h : i < off ∨ off + bytes.length ≤ i) :
    overlay image off bytes i = image i := by
  have hout : ¬ (off ≤ i ∧ i < off + bytes.length) := by omega
  exact if_neg hout

theorem overlay_of_lt
    (image : Nat → BitVec 8) (off : Nat) {i : Nat} {bytes : List (BitVec 8)}
    (h : i < bytes.length) :
    overlay image off bytes (off + i) = bytes.getD i 0 := by
  rw [overlay, if_pos (by omega), Nat.add_sub_cancel_left]

/-- Bytes copied one after the other. -/
theorem overlay_append
    (image : Nat → BitVec 8) (off : Nat) (bytes bytes' : List (BitVec 8)) :
    overlay (overlay image off bytes) (off + bytes.length) bytes' =
      overlay image off (bytes ++ bytes') := by
  funext i
  rcases Nat.lt_or_ge i off with hlow | hlow
  · rw [overlay_of_outside (by omega), overlay_of_outside (by omega),
      overlay_of_outside (by omega)]
  obtain ⟨k, rfl⟩ := Nat.exists_eq_add_of_le hlow
  rcases Nat.lt_or_ge k bytes.length with hk | hk
  · rw [overlay_of_outside (by omega), overlay_of_lt _ _ hk,
      overlay_of_lt _ _ (by rw [List.length_append]; omega),
      List.getD_append _ _ _ _ hk]
  obtain ⟨j, rfl⟩ := Nat.exists_eq_add_of_le hk
  rcases Nat.lt_or_ge j bytes'.length with hj | hj
  · rw [← Nat.add_assoc, overlay_of_lt _ _ hj, Nat.add_assoc,
      overlay_of_lt _ _ (by rw [List.length_append]; omega),
      List.getD_append_right _ _ _ _ hk, Nat.add_sub_cancel_left]
  · rw [overlay_of_outside (by omega), overlay_of_outside (by omega),
      overlay_of_outside (by rw [List.length_append]; omega)]

/-- Bytes of other offsets are not touched. -/
theorem imageBytes_overlay_of_disjoint
    (image : Nat → BitVec 8) {off off' n : Nat} {bytes : List (BitVec 8)}
    (h : off' + n ≤ off ∨ off + bytes.length ≤ off') :
    imageBytes (overlay image off bytes) off' n = imageBytes image off' n := by
  refine List.ext_getElem (by simp) ?_
  intro i hi hi'
  have hlt : i < n := by simpa using hi
  have hout : ¬ (off ≤ off' + i ∧ off' + i < off + bytes.length) := by omega
  simp [imageBytes, overlay, hout]

/-- Bytes copied back to where they have been read change nothing. -/
theorem overlay_imageBytes (image : Nat → BitVec 8) (off n : Nat) :
    overlay image off (imageBytes image off n) = image := by
  funext i
  rw [overlay, imageBytes_length]
  split
  · rename_i hi
    have hlt : i - off < n := by omega
    have hback : off + (i - off) = i := by omega
    simp [imageBytes, hlt, hback]
  · rfl

/-! ## Records built field by field -/

/-- Fields, given by offset and bytes, stored one after the other. -/
def storeFields
    (image : Nat → BitVec 8) (fields : List (Nat × List (BitVec 8))) :
    Nat → BitVec 8 :=
  fields.foldl (fun image field => overlay image field.1 field.2) image

/-- Some field lies at the offset. -/
def Stored (fields : List (Nat × List (BitVec 8))) (i : Nat) : Prop :=
  ∃ field ∈ fields, field.1 ≤ i ∧ i < field.1 + field.2.length

/-- At an offset that is stored nothing is left of the image, at any other
everything. -/
theorem storeFields_eq_iff
    (image image' : Nat → BitVec 8) (fields : List (Nat × List (BitVec 8))) (i : Nat) :
    storeFields image fields i = storeFields image' fields i ↔
      (¬ Stored fields i → image i = image' i) := by
  induction fields generalizing image image' with
  | nil => simp [storeFields, Stored]
  | cons field fields ih =>
      have hcons : Stored (field :: fields) i ↔
          (field.1 ≤ i ∧ i < field.1 + field.2.length) ∨ Stored fields i := by
        simp [Stored]
      have hstep : storeFields image (field :: fields) i =
          storeFields (overlay image field.1 field.2) fields i := rfl
      have hstep' : storeFields image' (field :: fields) i =
          storeFields (overlay image' field.1 field.2) fields i := rfl
      rw [hstep, hstep', ih, hcons, overlay, overlay]
      by_cases hfield : field.1 ≤ i ∧ i < field.1 + field.2.length
      · simp [hfield]
      · simp [hfield]

/-- The first `n` bytes of a record depend on the image exactly at the offsets at
which no field is stored. -/
theorem imageBytes_storeFields_eq_iff
    (image image' : Nat → BitVec 8) (fields : List (Nat × List (BitVec 8))) (n : Nat) :
    imageBytes (storeFields image fields) 0 n =
        imageBytes (storeFields image' fields) 0 n ↔
      ∀ i < n, ¬ Stored fields i → image i = image' i := by
  simp only [imageBytes, List.map_inj_left, List.mem_range, Nat.zero_add,
    storeFields_eq_iff]

end Foundation
end KkmModule
