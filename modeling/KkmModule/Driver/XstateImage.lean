import KkmModule.Driver.KontextIoctls

/-!
# Images of the extended state

`KKM_KONTEXT_GET_XSTATE` and `KKM_KONTEXT_SET_XSTATE` work in place on the xsave
page of the payload, the last bytes of which become the flag, the format and the
checksum of a `struct kkm_xstate` for the time of the call.

`xstate_exchanged` is about the image of one kontext given to another: the data
and the flag arrive, the first kontext keeps its own, and an image with another
format or a wrong checksum is refused.
-/

namespace KkmModule
namespace Driver

open Foundation

/-! ## Fields of an image -/

/-- What has been set in an image is read back. -/
theorem xstateField_setXstateField
    {w : Nat} (hw : 8 ∣ w) (off : Nat) (v : BitVec w) (image : Nat → BitVec 8) :
    xstateField w (setXstateField off v image) off = v := by
  obtain ⟨n, rfl⟩ := hw
  have hn : 8 * n / 8 = n := Nat.mul_div_cancel_left n (by decide)
  have hread : imageBytes (setXstateField off v image) off n = toBytes n v.toNat := by
    have h := imageBytes_overlay image off (toBytes n v.toNat)
    rw [toBytes_length] at h
    rw [setXstateField, hn, h]
  have hfits : v.toNat % 256 ^ n = v.toNat := by
    apply Nat.mod_eq_of_lt
    have hlt := v.isLt
    rwa [Nat.pow_mul] at hlt
  rw [xstateField, hn, hread, ofBytes_toBytes, hfits, BitVec.ofNat_toNat,
    BitVec.setWidth_eq]

/-- A field set to what it holds changes nothing. -/
theorem setXstateField_xstateField
    {w : Nat} (hw : 8 ∣ w) (off : Nat) (image : Nat → BitVec 8) :
    setXstateField off (xstateField w image off) image = image := by
  obtain ⟨n, rfl⟩ := hw
  have hn : 8 * n / 8 = n := Nat.mul_div_cancel_left n (by decide)
  have hlength := imageBytes_length image off n
  have hfits : ofBytes (imageBytes image off n) % 2 ^ (8 * n) =
      ofBytes (imageBytes image off n) := by
    apply Nat.mod_eq_of_lt
    have hlt := ofBytes_lt (imageBytes image off n)
    rwa [hlength, show (256 : Nat) = 2 ^ 8 by rfl, ← Nat.pow_mul] at hlt
  have hbytes : toBytes n (ofBytes (imageBytes image off n)) =
      imageBytes image off n := by
    have hback := toBytes_ofBytes (imageBytes image off n)
    rwa [hlength] at hback
  rw [setXstateField, xstateField, hn, BitVec.toNat_ofNat, hfits, hbytes,
    overlay_imageBytes]

/-- Bytes of other offsets are not touched. -/
theorem imageBytes_setXstateField_of_disjoint
    {w off off' n : Nat} (h : off' + n ≤ off ∨ off + w / 8 ≤ off')
    (v : BitVec w) (image : Nat → BitVec 8) :
    imageBytes (setXstateField off v image) off' n = imageBytes image off' n := by
  apply imageBytes_overlay_of_disjoint
  rwa [toBytes_length]

theorem xstateField_setXstateField_of_disjoint
    {w w' off off' : Nat} (h : off' + w' / 8 ≤ off ∨ off + w / 8 ≤ off')
    (v : BitVec w) (image : Nat → BitVec 8) :
    xstateField w' (setXstateField off v image) off' = xstateField w' image off' := by
  rw [xstateField, imageBytes_setXstateField_of_disjoint h, xstateField]

/-! ## The data and what follows them -/

/-- The bytes the checksum is about. -/
def xstateData (image : Nat → BitVec 8) : List (BitVec 8) :=
  imageBytes image 0 kkmXstateDataSize

/-- A field after the data leaves them alone. -/
theorem xstateData_setXstateField
    {w off : Nat} (hoff : kkmXstateDataSize ≤ off) (v : BitVec w)
    (image : Nat → BitVec 8) :
    xstateData (setXstateField off v image) = xstateData image :=
  imageBytes_setXstateField_of_disjoint (.inl (by omega)) v image

theorem xstateData_clearXstateTrailer (image : Nat → BitVec 8) :
    xstateData (clearXstateTrailer image) = xstateData image := by
  rw [clearXstateTrailer, xstateData_setXstateField (by decide),
    xstateData_setXstateField (by decide), xstateData_setXstateField (by decide)]

section Exchange

variable (cfg : KkmConfig) (crc32 : List (BitVec 8) → BitVec 32)

/-- The image before its checksum is set. -/
def xstateUnsummed (kontext : KkmKontext) : Nat → BitVec 8 :=
  setXstateField xstateFormat (BitVec.ofNat 32 cfg.xsFormat.code)
    (overlay kontext.payloadXsave xstateValid
      [if kontext.validPayloadXsaveArea then 1#8 else 0#8])

theorem xstateToUser_eq (kontext : KkmKontext) :
    xstateToUser cfg crc32 kontext =
      setXstateField xstateCrc32 (crc32 (xstateData (xstateUnsummed cfg kontext)))
        (xstateUnsummed cfg kontext) := rfl

theorem xstateData_xstateUnsummed (kontext : KkmKontext) :
    xstateData (xstateUnsummed cfg kontext) = xstateData kontext.payloadXsave := by
  rw [xstateUnsummed, xstateData_setXstateField (by decide)]
  exact imageBytes_overlay_of_disjoint _ (.inl (by decide))

theorem xstateData_xstateToUser (kontext : KkmKontext) :
    xstateData (xstateToUser cfg crc32 kontext) = xstateData kontext.payloadXsave := by
  rw [xstateToUser_eq, xstateData_setXstateField (by decide),
    xstateData_xstateUnsummed]

theorem xstateFormat_xstateToUser (kontext : KkmKontext) :
    xstateField 32 (xstateToUser cfg crc32 kontext) xstateFormat =
      BitVec.ofNat 32 cfg.xsFormat.code := by
  rw [xstateToUser_eq, xstateField_setXstateField_of_disjoint (.inl (by decide)),
    xstateUnsummed, xstateField_setXstateField (by decide)]

theorem xstateCrc32_xstateToUser (kontext : KkmKontext) :
    xstateField 32 (xstateToUser cfg crc32 kontext) xstateCrc32 =
      crc32 (xstateData (xstateToUser cfg crc32 kontext)) := by
  rw [xstateData_xstateToUser, xstateToUser_eq, xstateField_setXstateField (by decide),
    xstateData_xstateUnsummed]

/-- The flag in the image is the one of the kontext. -/
theorem xstateValid_xstateToUser (kontext : KkmKontext) :
    (xstateToUser cfg crc32 kontext xstateValid != 0#8) =
      kontext.validPayloadXsaveArea := by
  have hbyte : xstateToUser cfg crc32 kontext xstateValid =
      if kontext.validPayloadXsaveArea then 1#8 else 0#8 := by
    simp [xstateToUser_eq, xstateUnsummed, setXstateField, overlay, xstateValid,
      xstateFormat, xstateCrc32]
  rw [hbyte]
  cases kontext.validPayloadXsaveArea with
  | true => rfl
  | false => rfl

/-! ## From one kontext to another -/

/-- Data and flag are the same. -/
def SameXstate (k k' : KkmKontext) : Prop :=
  xstateData k.payloadXsave = xstateData k'.payloadXsave ∧
    k.validPayloadXsaveArea = k'.validPayloadXsaveArea

/-- An image whose format or checksum is wrong. -/
def XstateMismatch (image : Nat → BitVec 8) : Prop :=
  xstateField 32 image xstateFormat ≠ BitVec.ofNat 32 cfg.xsFormat.code ∨
    xstateField 32 image xstateCrc32 ≠ crc32 (xstateData image)

theorem kkmKontextSetXstate_of_match
    {image : Nat → BitVec 8} (h : ¬ XstateMismatch cfg crc32 image)
    (kontext : KkmKontext) :
    kkmKontextSetXstate cfg crc32 ⟨false, image⟩ kontext =
      (0, { kontext with
        validPayloadXsaveArea := image xstateValid != 0#8
        payloadXsave := clearXstateTrailer image }) := by
  simp only [XstateMismatch, not_or, not_not, xstateData] at h
  simp [kkmKontextSetXstate, h.1, h.2]

theorem kkmKontextSetXstate_of_mismatch
    {image : Nat → BitVec 8} (h : XstateMismatch cfg crc32 image)
    (kontext : KkmKontext) :
    kkmKontextSetXstate cfg crc32 ⟨false, image⟩ kontext =
      (-einval, { kontext with
        payloadXsave := image, validPayloadXsaveArea := false }) := by
  by_cases hformat : xstateField 32 image xstateFormat =
      BitVec.ofNat 32 cfg.xsFormat.code
  · have hcrc := h.resolve_left (not_not.mpr hformat)
    rw [xstateData] at hcrc
    simp [kkmKontextSetXstate, hformat, hcrc]
  · simp [kkmKontextSetXstate, hformat]

end Exchange

/-- What the two requests do between the kontexts `source` and `target`. -/
structure XstateExchange
    (cfg cfg' : KkmConfig) (crc32 : List (BitVec 8) → BitVec 32)
    (source target : KkmKontext) : Prop where
  kept : ∀ failed,
    SameXstate (kkmExecutionKontextIoctl cfg crc32 (.getXstate failed) source).2.2
      source
  restored : ∃ image source' target',
    kkmExecutionKontextIoctl cfg crc32 (.getXstate false) source =
        (0, .xstate image, source') ∧
      kkmExecutionKontextIoctl cfg' crc32 (.setXstate ⟨false, image⟩) target =
        (0, .none, target') ∧
      SameXstate target' source
  refused : ∀ image, XstateMismatch cfg' crc32 image → ∃ target',
    kkmExecutionKontextIoctl cfg' crc32 (.setXstate ⟨false, image⟩) target =
        (-einval, .none, target') ∧
      target'.validPayloadXsaveArea = false

/-- An image restores what it was taken from, and nothing else is accepted. -/
theorem xstate_exchanged
    {cfg cfg' : KkmConfig} (hformat : cfg'.xsFormat = cfg.xsFormat)
    (crc32 : List (BitVec 8) → BitVec 32) (source target : KkmKontext) :
    XstateExchange cfg cfg' crc32 source target := by
  constructor
  · intro failed
    constructor
    · exact (xstateData_clearXstateTrailer _).trans
        (xstateData_xstateToUser cfg crc32 source)
    · rfl
  · have hmatch : ¬ XstateMismatch cfg' crc32 (xstateToUser cfg crc32 source) := by
      rintro (h | h)
      · rw [xstateFormat_xstateToUser, hformat] at h
        exact h rfl
      · exact h (xstateCrc32_xstateToUser cfg crc32 source)
    have hset := kkmKontextSetXstate_of_match cfg' crc32 hmatch target
    refine ⟨xstateToUser cfg crc32 source, _,
      (kkmKontextSetXstate cfg' crc32 ⟨false, xstateToUser cfg crc32 source⟩ target).2,
      rfl, ?_, ?_⟩
    · simp only [kkmExecutionKontextIoctl, hset]
    · rw [hset]
      constructor
      · exact (xstateData_clearXstateTrailer _).trans
          (xstateData_xstateToUser cfg crc32 source)
      · exact xstateValid_xstateToUser cfg crc32 source
  · intro image himage
    have hset := kkmKontextSetXstate_of_mismatch cfg' crc32 himage target
    refine ⟨(kkmKontextSetXstate cfg' crc32 ⟨false, image⟩ target).2, ?_, ?_⟩
    · simp only [kkmExecutionKontextIoctl, hset]
    · rw [hset]

/-- A kontext that has run is moved to a used one on a machine with 5-level paging;
the checksum is the sum of the bytes. -/
theorem xstate_exchanged_stock :
    XstateExchange .stock ⟨true, false, false, .xsaves⟩
      (fun bytes => BitVec.ofNat 32 (bytes.map BitVec.toNat).sum)
      { KkmKontext.zeroed with
        payloadXsave := fun i => BitVec.ofNat 8 i, validPayloadXsaveArea := true }
      { KkmKontext.zeroed with id := 7#64, payloadXsave := fun _ => 0xAA#8 } := by
  have hformat : KkmConfig.xsFormat ⟨true, false, false, .xsaves⟩ =
      KkmConfig.stock.xsFormat := rfl
  exact xstate_exchanged hformat _ _ _

end Driver
end KkmModule
