import KkmModule.Driver.EntryValues

/-!
# Floating point state from the monitor to the payload

`KKM_SET_FPU` writes into the legacy region of the payload's xsave image.  The
registers of the payload are loaded from that image only if
`valid_payload_xsave_area` is set, and `XRSTOR` loads a component only if the
header of the image says that the image has it.  The request maintains neither,
so whether the values reach the payload is decided by what has happened to the
kontext before.

The registers are described as `XRSTOR` lays them out in memory, without the
offsets of the source.
-/

namespace KkmModule
namespace Driver

open Foundation

/-! ## The x87 and SSE registers -/

/-- The x87 state of a processor. -/
@[ext] structure X87Regs where
  fcw : BitVec 16
  fsw : BitVec 16
  ftw : BitVec 8
  fop : BitVec 11
  fip : BitVec 64
  fdp : BitVec 64
  st : Fin 8 → Fin 10 → BitVec 8

/-- The SSE state of a processor. -/
@[ext] structure SseRegs where
  xmm : Fin 256 → BitVec 8
  mxcsr : BitVec 32

@[ext] structure FpuRegs where
  x87 : X87Regs
  sse : SseRegs

/-- The initial configuration of the x87 state. -/
def X87Regs.init : X87Regs := ⟨0x37F#16, 0, 0, 0, 0, 0, fun _ _ => 0⟩

/-- The initial configuration of `MXCSR`. -/
def mxcsrInit : BitVec 32 := 0x1F80#32

/-- Byte `j` of `ST(i)`, each of which takes 16 bytes in memory. -/
def stOffset (i : Fin 8) (j : Fin 10) : Fin 128 := ⟨16 * i + j, by omega⟩

/-- The legacy region of an xsave area. -/
def X87Regs.ofArea (area : Nat → BitVec 8) : X87Regs where
  fcw := xstateField 16 area 0
  fsw := xstateField 16 area 2
  ftw := area 4
  fop := (xstateField 16 area 6).setWidth 11
  fip := xstateField 64 area 8
  fdp := xstateField 64 area 16
  st := fun i j => area (32 + stOffset i j)

/-- `XSTATE_BV` in the header of an xsave area. -/
def xstateBv (area : Nat → BitVec 8) : BitVec 64 := xstateField 64 area 512

/-- `XCOMP_BV`; bit 63 says that the area is compacted. -/
def xcompBv (area : Nat → BitVec 8) : BitVec 64 := xstateField 64 area 520

/-- What `XRSTOR` leaves in the registers.  A component that the header does not
have is initialised, except for `MXCSR` if the area is not compacted. -/
def xrstor (area : Nat → BitVec 8) : FpuRegs where
  x87 := if (xstateBv area).getLsbD 0 then .ofArea area else .init
  sse :=
    ⟨fun i => if (xstateBv area).getLsbD 1 then area (160 + i) else 0,
      if (xstateBv area).getLsbD 1 || !(xcompBv area).getLsbD 63 then
        xstateField 32 area 24
      else mxcsrInit⟩

/-- The registers that a `struct kkm_fpu` stands for. -/
def FpuRegs.ofFpu (fpu : KkmFpu) : FpuRegs where
  x87 :=
    ⟨fpu.fcw, fpu.fsw, fpu.ftwx, fpu.lastOpcode.setWidth 11, fpu.lastIp, fpu.lastDp,
      fun i j => fpu.fpr (stOffset i j)⟩
  sse := ⟨fpu.xmm, fpu.mxcsr⟩

/-- The registers the payload is entered with; `cpu` is what the processor has
in them when it enters the kernel. -/
def enteredFpuRegs (kontext : KkmKontext) (cpu : FpuRegs) : FpuRegs :=
  if kontext.validPayloadXsaveArea then xrstor kontext.payloadXsave else cpu

/-! ## Images with the same bytes -/

/-- Bytes of the image after what the requests for `struct kkm_fpu` access. -/
def xstateExtended (image : Nat → BitVec 8) : List (BitVec 8) :=
  imageBytes image 512 3572

theorem imageBytes_eq_iff
    {image image' : Nat → BitVec 8} {off n : Nat} :
    imageBytes image off n = imageBytes image' off n ↔
      ∀ i < n, image (off + i) = image' (off + i) := by
  simp [imageBytes, List.map_inj_left]

/-- Equal data are equal byte by byte. -/
theorem byte_of_xstateData
    {image image' : Nat → BitVec 8} (h : xstateData image = xstateData image')
    {i : Nat} (hi : i < 4084) : image i = image' i := by
  have hbyte := imageBytes_eq_iff.mp h i hi
  rwa [Nat.zero_add] at hbyte

theorem xstateField_of_xstateData
    {image image' : Nat → BitVec 8} (h : xstateData image = xstateData image')
    {w off : Nat} (hoff : off + w / 8 ≤ 4084) :
    xstateField w image off = xstateField w image' off := by
  have hbytes : imageBytes image off (w / 8) = imageBytes image' off (w / 8) :=
    imageBytes_eq_iff.mpr fun i hi => byte_of_xstateData h (by omega)
  rw [xstateField, hbytes, xstateField]

/-- What `KKM_GET_FPU` converts lies in the data. -/
theorem kkmCopyXstateToKkmFpu_of_xstateData
    {image image' : Nat → BitVec 8} (h : xstateData image = xstateData image') :
    kkmCopyXstateToKkmFpu image = kkmCopyXstateToKkmFpu image' := by
  have hfield : ∀ w off, off + w / 8 ≤ 4084 →
      xstateField w image off = xstateField w image' off :=
    fun w off hoff => xstateField_of_xstateData h hoff
  have hfpr : (fun i : Fin 128 => image (xstateStSpace + i)) =
      fun i : Fin 128 => image' (xstateStSpace + i) :=
    funext fun i => byte_of_xstateData h (by simp only [xstateStSpace]; omega)
  have hxmm : (fun i : Fin 256 => image (xstateXmmSpace + i)) =
      fun i : Fin 256 => image' (xstateXmmSpace + i) :=
    funext fun i => byte_of_xstateData h (by simp only [xstateXmmSpace]; omega)
  unfold kkmCopyXstateToKkmFpu
  rw [hfpr, hxmm, hfield 16 xstateCwd (by decide), hfield 16 xstateSwd (by decide),
    hfield 16 xstateTwd (by decide), hfield 16 xstateFop (by decide),
    hfield 64 xstateRip (by decide), hfield 64 xstateRdp (by decide),
    hfield 32 xstateMxcsr (by decide)]

/-- The low byte of a field of two bytes. -/
theorem xstateField_setWidth_8 (image : Nat → BitVec 8) (off : Nat) :
    (xstateField 16 image off).setWidth 8 = image off := by
  apply BitVec.eq_of_toNat_eq
  have hlow := (image off).isLt
  simp [xstateField, imageBytes, List.range_succ, ofBytes]
  omega

/-- The components that the image has are those `KKM_GET_FPU` shows. -/
theorem xrstor_eq (image : Nat → BitVec 8) :
    xrstor image =
      let regs := FpuRegs.ofFpu (kkmCopyXstateToKkmFpu image)
      ⟨if (xstateBv image).getLsbD 0 then regs.x87 else .init,
        ⟨fun i => if (xstateBv image).getLsbD 1 then regs.sse.xmm i else 0,
          if (xstateBv image).getLsbD 1 || !(xcompBv image).getLsbD 63 then
            regs.sse.mxcsr
          else mxcsrInit⟩⟩ := by
  have harea : X87Regs.ofArea image =
      (FpuRegs.ofFpu (kkmCopyXstateToKkmFpu image)).x87 := by
    ext1
    · rfl
    · rfl
    · exact (xstateField_setWidth_8 image 4).symm
    · rfl
    · rfl
    · rfl
    · rfl
  rw [xrstor, harea]
  rfl

/-- What `XRSTOR` loads of x87 and SSE lies in the data. -/
theorem xrstor_of_xstateData
    {image image' : Nat → BitVec 8} (h : xstateData image = xstateData image') :
    xrstor image = xrstor image' := by
  have hbv : xstateBv image = xstateBv image' :=
    xstateField_of_xstateData h (by decide)
  have hcomp : xcompBv image = xcompBv image' :=
    xstateField_of_xstateData h (by decide)
  rw [xrstor_eq, xrstor_eq, kkmCopyXstateToKkmFpu_of_xstateData h, hbv, hcomp]

/-! ## `KKM_SET_FPU` -/

theorem setXstateField_of_outside
    {w off i : Nat} (h : i < off ∨ off + w / 8 ≤ i) (v : BitVec w)
    (image : Nat → BitVec 8) : setXstateField off v image i = image i := by
  apply overlay_of_outside
  rwa [toBytes_length]

theorem overlay_ofFn
    {n : Nat} (image : Nat → BitVec 8) (off : Nat) (g : Fin n → BitVec 8)
    (i : Fin n) : overlay image off (List.ofFn g) (off + i) = g i := by
  have hin : off ≤ off + i.val ∧ off + i.val < off + (List.ofFn g).length := by
    simp
  simp [overlay, hin]

theorem overlay_ofFn_self (n : Nat) (image : Nat → BitVec 8) (off : Nat) :
    overlay image off (List.ofFn fun i : Fin n => image (off + i)) = image := by
  have hbytes : (List.ofFn fun i : Fin n => image (off + i)) = imageBytes image off n := by
    refine List.ext_getElem (by simp) ?_
    intro i hi hi'
    simp [imageBytes]
  rw [hbytes, overlay_imageBytes]

theorem xstateField_overlay_ofFn_of_disjoint
    {w n off off' : Nat} (h : off' + w / 8 ≤ off ∨ off + n ≤ off')
    (g : Fin n → BitVec 8) (image : Nat → BitVec 8) :
    xstateField w (overlay image off (List.ofFn g)) off' =
      xstateField w image off' := by
  have hbytes : imageBytes (overlay image off (List.ofFn g)) off' (w / 8) =
      imageBytes image off' (w / 8) := by
    apply imageBytes_overlay_of_disjoint
    rwa [List.length_ofFn]
  rw [xstateField, hbytes, xstateField]

section Copied

variable (fpu : KkmFpu) (image : Nat → BitVec 8)

/-- After the first 32 bytes and apart from XMM only `fpr` is written. -/
theorem copied_of_outside
    {i : Nat} (hi : 32 ≤ i) (hxmm : i < 160 ∨ 416 ≤ i) :
    kkmCopyKkmFpuToXstate fpu image i =
      overlay image xstateStSpace (List.ofFn fpu.fpr) i := by
  have hlength : (List.ofFn fpu.xmm).length = 256 := List.length_ofFn
  rw [kkmCopyKkmFpuToXstate,
    setXstateField_of_outside (by simp only [xstateMxcsr]; omega),
    overlay_of_outside (by simp only [xstateXmmSpace]; omega),
    setXstateField_of_outside (by simp only [xstateRdp]; omega),
    setXstateField_of_outside (by simp only [xstateRip]; omega),
    setXstateField_of_outside (by simp only [xstateFop]; omega),
    setXstateField_of_outside (by simp only [xstateTwd]; omega),
    setXstateField_of_outside (by simp only [xstateSwd]; omega),
    setXstateField_of_outside (by simp only [xstateCwd]; omega)]

theorem fpr_of_copied (i : Fin 128) :
    kkmCopyKkmFpuToXstate fpu image (xstateStSpace + i) = fpu.fpr i := by
  have hi := i.isLt
  rw [copied_of_outside fpu image (by simp only [xstateStSpace]; omega)
    (by simp only [xstateStSpace]; omega)]
  exact overlay_ofFn image xstateStSpace fpu.fpr i

theorem xmm_of_copied (i : Fin 256) :
    kkmCopyKkmFpuToXstate fpu image (xstateXmmSpace + i) = fpu.xmm i := by
  rw [kkmCopyKkmFpuToXstate,
    setXstateField_of_outside (by simp only [xstateMxcsr, xstateXmmSpace]; omega)]
  exact overlay_ofFn _ xstateXmmSpace fpu.xmm i

/-- What has been set is read back, up to the padding. -/
theorem kkmCopyXstateToKkmFpu_copied :
    kkmCopyXstateToKkmFpu (kkmCopyKkmFpuToXstate fpu image) =
      { fpu with pad1 := 0, pad2 := 0 } := by
  have hfpr : (fun i : Fin 128 =>
      kkmCopyKkmFpuToXstate fpu image (xstateStSpace + i)) = fpu.fpr :=
    funext (fpr_of_copied fpu image)
  have hxmm : (fun i : Fin 256 =>
      kkmCopyKkmFpuToXstate fpu image (xstateXmmSpace + i)) = fpu.xmm :=
    funext (xmm_of_copied fpu image)
  rw [kkmCopyXstateToKkmFpu, hfpr, hxmm]
  have htwd : ((fpu.ftwx.setWidth 16).setWidth 8 : BitVec 8) = fpu.ftwx := by
    simp
  simp (disch := decide) only [kkmCopyKkmFpuToXstate, xstateField_setXstateField,
    xstateField_setXstateField_of_disjoint, xstateField_overlay_ofFn_of_disjoint, htwd]

/-- The request does not write beyond the legacy region. -/
theorem copied_of_extended {i : Nat} (hi : 512 ≤ i) :
    kkmCopyKkmFpuToXstate fpu image i = image i := by
  have hlength : (List.ofFn fpu.fpr).length = 128 := List.length_ofFn
  rw [copied_of_outside fpu image (by omega) (by omega),
    overlay_of_outside (by simp only [xstateStSpace]; omega)]

/-- The tag word is written with eight zero bits. -/
theorem twd_high_of_copied : kkmCopyKkmFpuToXstate fpu image (xstateTwd + 1) = 0#8 := by
  have htwd : (toBytes (16 / 8) (fpu.ftwx.setWidth 16).toNat).getD 1 0 = 0#8 := by
    have hlt := fpu.ftwx.isLt
    apply BitVec.eq_of_toNat_eq
    simp only [toBytes, BitVec.toNat_setWidth]
    simp
    omega
  rw [kkmCopyKkmFpuToXstate, setXstateField_of_outside (by decide),
    overlay_of_outside (.inl (by decide)), setXstateField_of_outside (by decide),
    setXstateField_of_outside (by decide), setXstateField_of_outside (by decide)]
  exact htwd

/-- What `KKM_GET_FPU` has shown is copied back to where it comes from. -/
theorem kkmCopyKkmFpuToXstate_self (htwd : image (xstateTwd + 1) = 0#8) :
    kkmCopyKkmFpuToXstate (kkmCopyXstateToKkmFpu image) image = image := by
  have hfield : (((xstateField 16 image xstateTwd).setWidth 8).setWidth 16 : BitVec 16) =
      xstateField 16 image xstateTwd := by
    apply BitVec.eq_of_toNat_eq
    have hlow := (image xstateTwd).isLt
    simp [xstateField, imageBytes, List.range_succ, ofBytes, htwd]
  have hfpr := overlay_ofFn_self 128 image xstateStSpace
  have hxmm := overlay_ofFn_self 256 image xstateXmmSpace
  simp (disch := decide) only [kkmCopyKkmFpuToXstate, kkmCopyXstateToKkmFpu, hfield,
    hfpr, hxmm, setXstateField_xstateField]

theorem xstateExtended_copied :
    xstateExtended (kkmCopyKkmFpuToXstate fpu image) = xstateExtended image :=
  imageBytes_eq_iff.mpr fun _ _ => copied_of_extended fpu image (by omega)

theorem xstateField_copied {w off : Nat} (hoff : 512 ≤ off) :
    xstateField w (kkmCopyKkmFpuToXstate fpu image) off = xstateField w image off := by
  have hbytes : imageBytes (kkmCopyKkmFpuToXstate fpu image) off (w / 8) =
      imageBytes image off (w / 8) :=
    imageBytes_eq_iff.mpr fun _ _ => copied_of_extended fpu image (by omega)
  rw [xstateField, hbytes, xstateField]

end Copied

/-- The header has every component in which `fpu` is not the initial
configuration. -/
structure HeaderHas (image : Nat → BitVec 8) (fpu : KkmFpu) : Prop where
  x87 : (xstateBv image).getLsbD 0 = false → (FpuRegs.ofFpu fpu).x87 = .init
  xmm : (xstateBv image).getLsbD 1 = false → fpu.xmm = fun _ => 0
  mxcsr : (xstateBv image).getLsbD 1 = false → (xcompBv image).getLsbD 63 = true →
    fpu.mxcsr = mxcsrInit

/-- The registers that are set are loaded if the header has them. -/
theorem xrstor_copied_iff (fpu : KkmFpu) (image : Nat → BitVec 8) :
    xrstor (kkmCopyKkmFpuToXstate fpu image) = .ofFpu fpu ↔ HeaderHas image fpu := by
  have hbv : xstateBv (kkmCopyKkmFpuToXstate fpu image) = xstateBv image :=
    xstateField_copied fpu image (by decide)
  have hcomp : xcompBv (kkmCopyKkmFpuToXstate fpu image) = xcompBv image :=
    xstateField_copied fpu image (by decide)
  have hregs : FpuRegs.ofFpu { fpu with pad1 := 0, pad2 := 0 } = .ofFpu fpu := rfl
  rw [xrstor_eq, kkmCopyXstateToKkmFpu_copied, hregs, hbv, hcomp]
  constructor
  · intro h
    have hx87 := congrArg FpuRegs.x87 h
    have hxmm := congrArg (fun regs => regs.sse.xmm) h
    have hmxcsr := congrArg (fun regs => regs.sse.mxcsr) h
    constructor
    · intro hbit
      simp only [hbit, Bool.false_eq_true, if_false] at hx87
      exact hx87.symm
    · intro hbit
      simp only [hbit, Bool.false_eq_true, if_false] at hxmm
      exact hxmm.symm
    · intro hbit hcompact
      simp only [hbit, hcompact, Bool.not_true, Bool.or_self, Bool.false_eq_true,
        if_false] at hmxcsr
      exact hmxcsr.symm
  · intro h
    ext1
    · cases hbit : (xstateBv image).getLsbD 0 with
      | true => rfl
      | false => exact (h.x87 hbit).symm
    · cases hbit : (xstateBv image).getLsbD 1 with
      | true => rfl
      | false =>
          ext1
          · exact (h.xmm hbit).symm
          · cases hcompact : (xcompBv image).getLsbD 63 with
            | true => exact (h.mxcsr hbit hcompact).symm
            | false => rfl

/-! ## Until the payload is entered -/

/-- The event writes no extended state. -/
def QuietEvent : KontextEvent → Prop
  | .ioctl (.setFpu _) => False
  | .ioctl (.setXstate _) => False
  | _ => True

/-- Neither the monitor nor the payload changes extended state. -/
def QuietStep (s : RunState) (e : KontextEvent) : Prop :=
  QuietEvent e ∧ s.phase ≠ .payload

theorem SameXstate.trans
    {k k' k'' : KkmKontext} (h : SameXstate k k') (h' : SameXstate k' k'') :
    SameXstate k k'' :=
  ⟨h.1.trans h'.1, h.2.trans h'.2⟩

theorem SameLoads.sameXstate {k k' : KkmKontext} (h : SameLoads k k') :
    SameXstate k' k :=
  ⟨congrArg xstateData h.payloadXsave, h.validPayloadXsaveArea⟩

section Runs

variable (cfg : KkmConfig) (crc32 : List (BitVec 8) → BitVec 32)

theorem ioctl_sameXstate
    {request : KontextIoctl} (h : QuietEvent (.ioctl request)) (k : KkmKontext) :
    SameXstate (kkmExecutionKontextIoctl cfg crc32 request k).2.2 k := by
  cases request with
  | setFpu copy => exact h.elim
  | setXstate copy => exact h.elim
  | getXstate failed =>
      exact ⟨(xstateData_clearXstateTrailer _).trans
        (xstateData_xstateToUser cfg crc32 k), rfl⟩
  | setSaveInfo copy =>
      simp only [kkmExecutionKontextIoctl]
      split
      · exact ⟨rfl, rfl⟩
      · exact ⟨rfl, rfl⟩
  | _ => exact ⟨rfl, rfl⟩

theorem run_sameXstate (s : RunState) : SameXstate s.run.kontext s.kontext := by
  have hstart : SameXstate
      (kkmKontextSwitchKernelStart s.memory.user (kkmSetRegs s.kontext)).2
      s.kontext :=
    (kkmKontextSwitchKernelStart_sameLoads s.memory.user _).sameXstate
  simp only [RunState.run]
  split
  · exact hstart
  · exact hstart

theorem begin_sameXstate (s : RunState) (e : EntryCpu) :
    SameXstate (s.begin false e).kontext s.kontext := ⟨rfl, rfl⟩

theorem quietStep_sameXstate
    {s : RunState} {e : KontextEvent} (h : QuietStep s e) :
    SameXstate (runStep cfg crc32 s e).kontext s.kontext := by
  obtain ⟨hquiet, hphase⟩ := h
  cases e with
  | ioctl request =>
      simp only [runStep]
      split
      · exact ioctl_sameXstate cfg crc32 hquiet s.kontext
      · exact ⟨rfl, rfl⟩
  | run =>
      simp only [runStep]
      split
      · exact run_sameXstate s
      · exact ⟨rfl, rfl⟩
  | begin signal e =>
      simp only [runStep]
      split
      · cases signal with
        | true => exact ⟨rfl, rfl⟩
        | false => exact ⟨rfl, rfl⟩
      · exact ⟨rfl, rfl⟩
  | exit kkm e a user =>
      simp only [runStep, hphase, if_false]
      exact ⟨rfl, rfl⟩
  | _ => exact ⟨rfl, rfl⟩

/-- Nothing changes the image or the flag until the payload is entered. -/
theorem quietRun_sameXstate
    {s : RunState} {es : List KontextEvent}
    (h : EveryStep (runStep cfg crc32) QuietStep s es) :
    SameXstate (es.foldl (runStep cfg crc32) s).kontext s.kontext := by
  have hrun : EveryState (runStep cfg crc32)
      (fun s' => SameXstate s'.kontext s.kontext) s es := by
    refine everyState_of_everyStep ?_ ⟨rfl, rfl⟩ h
    intro s' e hsame hquiet
    exact (quietStep_sameXstate cfg crc32 hquiet).trans hsame
  exact hrun.last

/-! ## Main result -/

variable (accepts : BitVec 32 → List (BitVec 8) → Prop)

/-- `XRSTOR` takes the image if it gets it.  `accepts` says which images it
takes, by their `MXCSR` and the bytes after the legacy region. -/
def Restorable (k : KkmKontext) : Prop :=
  k.validPayloadXsaveArea = true →
    accepts (xstateField 32 k.payloadXsave 24) (xstateExtended k.payloadXsave)

/-- The entry sees data and flag only. -/
theorem enteredFpuRegs_of_sameXstate
    {k k' : KkmKontext} (h : SameXstate k k') (cpu : FpuRegs) :
    enteredFpuRegs k cpu = enteredFpuRegs k' cpu := by
  rw [enteredFpuRegs, h.2, xrstor_of_xstateData h.1, enteredFpuRegs]

theorem restorable_of_sameXstate {k k' : KkmKontext} (h : SameXstate k k') :
    Restorable accepts k ↔ Restorable accepts k' := by
  have hextended : xstateExtended k.payloadXsave = xstateExtended k'.payloadXsave :=
    imageBytes_eq_iff.mpr fun _ _ => byte_of_xstateData h.1 (by omega)
  rw [Restorable, h.2, hextended,
    xstateField_of_xstateData h.1 (show 24 + 32 / 8 ≤ 4084 by decide), Restorable]

/-- What `KKM_SET_FPU` is for, in the state it leaves. -/
structure FpuEffect (fpu : KkmFpu) (s : RunState) : Prop where
  shown : ∀ es, EveryStep (runStep cfg crc32) QuietStep s es →
    let s' := es.foldl (runStep cfg crc32) s
    s'.phase = .monitor → ∃ k,
      kkmExecutionKontextIoctl cfg crc32 (.getFpu false) s'.kontext =
        (0, .fpu { fpu with pad1 := 0, pad2 := 0 }, k)
  entered : ∀ es, EveryStep (runStep cfg crc32) QuietStep s es →
    let s' := es.foldl (runStep cfg crc32) s
    s'.phase = .begin → ∀ e cpu,
      Restorable accepts (s'.begin false e).kontext →
        enteredFpuRegs (s'.begin false e).kontext cpu = .ofFpu fpu

/-- A processor whose registers are not those of `fpu`. -/
theorem exists_ne_ofFpu (fpu : KkmFpu) : ∃ cpu, cpu ≠ FpuRegs.ofFpu fpu := by
  refine ⟨⟨(FpuRegs.ofFpu fpu).x87, ⟨fpu.xmm, ~~~fpu.mxcsr⟩⟩, ?_⟩
  intro h
  have hmxcsr : ~~~fpu.mxcsr = fpu.mxcsr := congrArg (fun regs => regs.sse.mxcsr) h
  have hbit := congrArg (fun v => v.getLsbD 0) hmxcsr
  simp at hbit

/-- The kontext after a successful `KKM_SET_FPU`. -/
def withFpu (fpu : KkmFpu) (k : KkmKontext) : KkmKontext :=
  (kkmExecutionKontextIoctl cfg crc32 (.setFpu ⟨false, fpu⟩) k).2.2

theorem withFpu_payloadXsave (fpu : KkmFpu) (k : KkmKontext) :
    (withFpu cfg crc32 fpu k).payloadXsave =
      kkmCopyKkmFpuToXstate fpu k.payloadXsave := rfl

/-- Its entry, whatever the processor has in its registers. -/
theorem entered_withFpu_iff (fpu : KkmFpu) (k : KkmKontext) :
    (∀ cpu, Restorable accepts (withFpu cfg crc32 fpu k) →
        enteredFpuRegs (withFpu cfg crc32 fpu k) cpu = .ofFpu fpu) ↔
      k.validPayloadXsaveArea = true ∧
        (accepts fpu.mxcsr (xstateExtended k.payloadXsave) →
          HeaderHas k.payloadXsave fpu) := by
  have hvalid : (withFpu cfg crc32 fpu k).validPayloadXsaveArea =
      k.validPayloadXsaveArea := rfl
  have hmxcsr : xstateField 32 (kkmCopyKkmFpuToXstate fpu k.payloadXsave) 24 =
      fpu.mxcsr := xstateField_setXstateField (by decide) _ fpu.mxcsr _
  simp only [Restorable, enteredFpuRegs, hvalid, withFpu_payloadXsave, hmxcsr,
    xstateExtended_copied]
  cases k.validPayloadXsaveArea with
  | false =>
      obtain ⟨cpu, hcpu⟩ := exists_ne_ofFpu fpu
      constructor
      · intro h
        exact absurd (h cpu (fun hset => absurd hset Bool.false_ne_true)) hcpu
      · intro h
        exact absurd h.1 Bool.false_ne_true
  | true =>
      constructor
      · intro h
        refine ⟨rfl, fun haccepts => ?_⟩
        exact (xrstor_copied_iff fpu k.payloadXsave).mp
          (h (FpuRegs.ofFpu fpu) fun _ => haccepts)
      · intro h cpu haccepts
        exact (xrstor_copied_iff fpu k.payloadXsave).mpr (h.2 (haccepts rfl))

/-- The monitor clears what is pending and calls `KKM_RUN`. -/
def clearAndRun (run : KkmRun) : List KontextEvent :=
  [.writeRunPage { run with immediateExit := 0#8 }, .ioctl (.getSaveInfo false), .run]

/-- What `KKM_RUN` is then called with. -/
def clearedState (run : KkmRun) (s : RunState) : RunState :=
  { s with kontext := { (kkmKontextGetSaveInfo s.kontext).2 with
      run := { run with immediateExit := 0#8 } } }

theorem clearAndRun_eq
    {s : RunState} (hphase : s.phase = .monitor) (run : KkmRun) :
    (clearAndRun run).foldl (runStep cfg crc32) s = (clearedState run s).run := by
  have hcleared : runStep cfg crc32 (runStep cfg crc32 s
      (.writeRunPage { run with immediateExit := 0#8 })) (.ioctl (.getSaveInfo false)) =
      clearedState run s := if_pos hphase
  have hrun : runStep cfg crc32 (clearedState run s) .run = (clearedState run s).run :=
    if_pos hphase
  rw [clearAndRun, List.foldl_cons, List.foldl_cons, hcleared, List.foldl_cons,
    List.foldl_nil, hrun]

/-- The label `begin` is reached. -/
theorem clearAndRun_quiet
    {s : RunState} (hphase : s.phase = .monitor) (run : KkmRun) :
    EveryStep (runStep cfg crc32) QuietStep s (clearAndRun run) ∧
      ((clearAndRun run).foldl (runStep cfg crc32) s).phase = .begin := by
  have hmonitor : s.phase ≠ .payload := by simp [hphase]
  have hcleared : runStep cfg crc32 (runStep cfg crc32 s
      (.writeRunPage { run with immediateExit := 0#8 })) (.ioctl (.getSaveInfo false)) =
      clearedState run s := if_pos hphase
  constructor
  · refine ⟨⟨trivial, hmonitor⟩, ⟨trivial, hmonitor⟩, ⟨trivial, ?_⟩, trivial⟩
    rw [hcleared]
    exact hmonitor
  · rw [clearAndRun_eq cfg crc32 hphase]
    rfl

theorem getFpu_eq
    {k : KkmKontext} {fpu : KkmFpu} (h : kkmCopyXstateToKkmFpu k.payloadXsave = fpu) :
    kkmExecutionKontextIoctl cfg crc32 (.getFpu false) k =
      (0, .fpu fpu, { k with ga := { k.ga with fpu := fpu } }) := by
  rw [← h]
  rfl

/-- A successful `KKM_SET_FPU` has its effect exactly if the image is restored
at all and its header has what is set. -/
theorem fpuEffect_iff
    {s : RunState} (hphase : s.phase = .monitor) (fpu : KkmFpu) :
    FpuEffect cfg crc32 accepts fpu
        (runStep cfg crc32 s (.ioctl (.setFpu ⟨false, fpu⟩))) ↔
      s.kontext.validPayloadXsaveArea = true ∧
        (accepts fpu.mxcsr (xstateExtended s.kontext.payloadXsave) →
          HeaderHas s.kontext.payloadXsave fpu) := by
  let t : RunState := { s with kontext := withFpu cfg crc32 fpu s.kontext }
  have hset : runStep cfg crc32 s (.ioctl (.setFpu ⟨false, fpu⟩)) = t :=
    if_pos hphase
  rw [hset, ← entered_withFpu_iff cfg crc32 accepts fpu s.kontext]
  constructor
  · intro heffect cpu hrestorable
    obtain ⟨hquiet, hbegin⟩ := clearAndRun_quiet cfg crc32 (s := t) hphase .zeroed
    have hsame := (begin_sameXstate _ ⟨0, 0⟩).trans
      (quietRun_sameXstate cfg crc32 hquiet)
    rw [← enteredFpuRegs_of_sameXstate hsame]
    exact heffect.entered _ hquiet hbegin ⟨0, 0⟩ cpu
      ((restorable_of_sameXstate accepts hsame).mpr hrestorable)
  · intro hentered
    constructor
    · intro es hquiet s' _
      have hsame : SameXstate s'.kontext t.kontext :=
        quietRun_sameXstate cfg crc32 hquiet
      have hshown : kkmCopyXstateToKkmFpu s'.kontext.payloadXsave =
          { fpu with pad1 := 0, pad2 := 0 } := by
        rw [kkmCopyXstateToKkmFpu_of_xstateData hsame.1, withFpu_payloadXsave,
          kkmCopyXstateToKkmFpu_copied]
      exact ⟨_, getFpu_eq cfg crc32 hshown⟩
    · intro es hquiet s' _ e cpu hrestorable
      have hsame : SameXstate (s'.begin false e).kontext t.kontext :=
        (begin_sameXstate s' e).trans (quietRun_sameXstate cfg crc32 hquiet)
      rw [enteredFpuRegs_of_sameXstate hsame]
      exact hentered cpu ((restorable_of_sameXstate accepts hsame).mp hrestorable)

end Runs

/-- The bits of `MXCSR` above the lower half are reserved. -/
def mxcsrAccepted (mxcsr : BitVec 32) (_ : List (BitVec 8)) : Prop :=
  mxcsr &&& 0xFFFF0000#32 = 0#32

/-- Rounding towards zero, for x87 and for SSE. -/
def truncatingFpu : KkmFpu :=
  { KkmFpu.zeroed with fcw := 0xF7F#16, mxcsr := 0x7F80#32 }

/-- A kontext that has run and has used both components; its image is compacted. -/
def usedMonitor : RunState :=
  { newMonitor with
    kontext := { newMonitor.kontext with
      validPayloadXsaveArea := true
      payloadXsave := fun i =>
        if i = 512 ∨ i = 520 then 3#8 else if i = 527 then 0x80#8 else 0#8 } }

theorem fpuEffect_used :
    FpuEffect .stock (fun _ => 0) mxcsrAccepted truncatingFpu
      (runStep .stock (fun _ => 0) usedMonitor
        (.ioctl (.setFpu ⟨false, truncatingFpu⟩))) := by
  have hx87 : (xstateBv usedMonitor.kontext.payloadXsave).getLsbD 0 = true := by
    decide +kernel
  have hsse : (xstateBv usedMonitor.kontext.payloadXsave).getLsbD 1 = true := by
    decide +kernel
  refine (fpuEffect_iff .stock (fun _ => 0) mxcsrAccepted rfl truncatingFpu).mpr
    ⟨rfl, fun _ => ⟨?_, ?_, ?_⟩⟩
  · intro hbit
    exact absurd (hx87.symm.trans hbit) Bool.noConfusion
  · intro hbit
    exact absurd (hsse.symm.trans hbit) Bool.noConfusion
  · intro hbit
    exact absurd (hsse.symm.trans hbit) Bool.noConfusion

/-- Before the first run the payload is entered with whatever the processor has. -/
theorem not_fpuEffect_new :
    ¬ FpuEffect .stock (fun _ => 0) mxcsrAccepted truncatingFpu
      (runStep .stock (fun _ => 0) newMonitor
        (.ioctl (.setFpu ⟨false, truncatingFpu⟩))) := by
  intro h
  obtain ⟨cpu, hcpu⟩ := exists_ne_ofFpu truncatingFpu
  apply hcpu
  have hmonitor : (runStep .stock (fun _ => 0) newMonitor
      (.ioctl (.setFpu ⟨false, truncatingFpu⟩))).phase ≠ .payload := by
    decide
  exact h.entered [.run] ⟨⟨trivial, hmonitor⟩, trivial⟩ rfl ⟨0, 0⟩ cpu
    fun hvalid => absurd hvalid Bool.false_ne_true

end Driver
end KkmModule
