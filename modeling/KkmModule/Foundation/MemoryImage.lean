import KkmModule.Foundation.ByteImage
import KkmModule.Foundation.PageWalk

/-!
# Bytes of word memory

Physical memory holds 64-bit words; code and descriptors are written into it byte
by byte.  `Memory.image` shows the bytes from an address on, and
`Memory.storeImage` puts an image of whole words back.
-/

namespace KkmModule
namespace Foundation

/-- The byte at an address. -/
def Memory.byte (m : Memory) (a : Nat) : BitVec 8 :=
  (wordBytes (m (a / 8 * 8))).getD (a % 8) 0

/-- The bytes from an address on. -/
def Memory.image (m : Memory) (base : Nat) : Nat → BitVec 8 := fun i =>
  m.byte (base + i)

/-- Memory with the first `n` bytes from `base` taken from an image. -/
def Memory.storeImage
    (m : Memory) (base n : Nat) (image : Nat → BitVec 8) : Memory := fun a =>
  if base ≤ a ∧ a < base + n then bytesWord (imageBytes image (a - base) 8) else m a

theorem wordBytes_bytesWord {bs : List (BitVec 8)} (hbs : bs.length = 8) :
    wordBytes (bytesWord bs) = bs := by
  have hlt : ofBytes bs < 2 ^ 64 := by
    have h := ofBytes_lt bs
    rw [hbs] at h
    exact h
  have hback := toBytes_ofBytes bs
  rw [hbs] at hback
  rw [wordBytes, bytesWord, BitVec.toNat_ofNat, Nat.mod_eq_of_lt hlt]
  exact hback

theorem imageBytes_getD
    (image : Nat → BitVec 8) (off : Nat) {n i : Nat} (hi : i < n) (b : BitVec 8) :
    (imageBytes image off n).getD i b = image (off + i) := by
  simp [imageBytes, hi]

/-- A byte of a table whose entries all have `n` bytes. -/
theorem getD_flatMap_range
    {f : Nat → List (BitVec 8)} {n : Nat} (hf : ∀ i, (f i).length = n) {m i k : Nat}
    (hi : i < m) (hk : k < n) (b : BitVec 8) :
    ((List.range m).flatMap f).getD (n * i + k) b = (f i).getD k b := by
  induction m with
  | zero => exact absurd hi (Nat.not_lt_zero i)
  | succ m ih =>
      have hlen := length_flatMap_const hf (List.range m)
      rw [List.length_range, Nat.mul_comm] at hlen
      rw [List.range_succ, List.flatMap_append, List.flatMap_singleton]
      rcases Nat.lt_or_eq_of_le (Nat.le_of_lt_succ hi) with hlt | rfl
      · have hmul : n * i + n ≤ n * m := by
          rw [← Nat.mul_succ]
          exact Nat.mul_le_mul_left n hlt
        rw [List.getD_append _ _ _ _ (by omega)]
        exact ih hlt
      · rw [List.getD_append_right _ _ _ _ (by omega), hlen, Nat.add_sub_cancel_left]

section Store

variable (m : Memory) {base n : Nat} (image : Nat → BitVec 8)

/-- An image of whole words is read back. -/
theorem Memory.byte_storeImage
    (hbase : 8 ∣ base) (hn : 8 ∣ n) {i : Nat} (hi : i < n) :
    (m.storeImage base n image).byte (base + i) = image i := by
  obtain ⟨b, rfl⟩ := hbase
  obtain ⟨k, rfl⟩ := hn
  have hword : (8 * b + i) / 8 * 8 = 8 * b + i / 8 * 8 := by omega
  have hoff : (8 * b + i) % 8 = i % 8 := by omega
  have hin : 8 * b ≤ 8 * b + i / 8 * 8 ∧ 8 * b + i / 8 * 8 < 8 * b + 8 * k := by omega
  have hback : i / 8 * 8 + i % 8 = i := by omega
  rw [byte, hword, hoff, storeImage, if_pos hin, Nat.add_sub_cancel_left,
    wordBytes_bytesWord (imageBytes_length ..),
    imageBytes_getD _ _ (Nat.mod_lt i (by decide)), hback]

/-- Other words stay. -/
theorem Memory.storeImage_of_not_mem
    {a : Nat} (ha : a < base ∨ base + n ≤ a) :
    m.storeImage base n image a = m a := by
  rw [storeImage, if_neg (by omega)]

end Store

end Foundation
end KkmModule
