import KkmModule.Driver.KontextRun

/-!
# Requests on a kontext descriptor

`kkm_execution_kontext_ioctl` apart from `KKM_RUN`, and the runs of a kontext
in which requests, writes of the monitor and the steps of `KKM_RUN` alternate.

The destination of a copy from user memory that fails is overwritten as well, so
a copy is given by its outcome and by what it leaves in the destination.
-/

namespace KkmModule
namespace Driver

open Foundation

/-- A copy from user memory into the kernel. -/
structure UserCopy (α : Type) where
  failed : Bool
  value : α

/-- `kkm_from_user` and `kkm_to_user` -/
def copyRet (failed : Bool) : Int := if failed then -efault else 0

/-! ## Saving and restoring what is pending -/

/-- `struct kkm_save_info`. -/
structure KkmSaveInfo where
  syscallPending : Bool
  retValMva : BitVec 64
  exceptionPosted : Bool
  firstThread : Bool
  newThread : Bool
  exceptionSavedRax : BitVec 64
  exceptionSavedRbx : BitVec 64
  hypercallData : BitVec 32
  reason : BitVec 32
deriving DecidableEq, Repr

/-- The record `kkm_kontext_get_save_info` fills in. -/
def KkmKontext.saveInfo (kontext : KkmKontext) : KkmSaveInfo where
  syscallPending := kontext.syscallPending
  retValMva := kontext.retValMva
  exceptionPosted := kontext.exceptionPosted
  firstThread := kontext.firstThread
  newThread := kontext.newThread
  exceptionSavedRax := kontext.exceptionSavedRax
  exceptionSavedRbx := kontext.exceptionSavedRbx
  hypercallData := kontext.privateArea.data
  reason := kontext.privateArea.reason

def kkmKontextGetSaveInfo (kontext : KkmKontext) : KkmSaveInfo × KkmKontext :=
  (kontext.saveInfo,
    { kontext with
      syscallPending := false
      retValMva := minusOne
      exceptionPosted := false
      exceptionSavedRax := minusOne
      exceptionSavedRbx := minusOne })

def kkmKontextSetSaveInfo (si : KkmSaveInfo) (kontext : KkmKontext) : KkmKontext :=
  { kontext with
    syscallPending := si.syscallPending
    retValMva := si.retValMva
    exceptionPosted := si.exceptionPosted
    exceptionSavedRax := si.exceptionSavedRax
    exceptionSavedRbx := si.exceptionSavedRbx
    privateArea := ⟨si.hypercallData, si.reason⟩
    firstThread := si.firstThread
    newThread := si.newThread }

theorem saveInfo_kkmKontextSetSaveInfo (si : KkmSaveInfo) (kontext : KkmKontext) :
    (kkmKontextSetSaveInfo si kontext).saveInfo = si := rfl

def kkmKontextReinit (kontext : KkmKontext) : KkmKontext :=
  { kontext with
    newThread := true
    debugRegistersSet := false
    syscallPending := false
    retValMva := minusOne
    exceptionPosted := false
    exceptionSavedRax := minusOne
    exceptionSavedRbx := minusOne }

/-! ## Extended state

Offsets of the legacy region of an xsave area, and of the fields that follow the
data of `struct kkm_xstate`. -/

def xstateCwd : Nat := 0
def xstateSwd : Nat := 2
def xstateTwd : Nat := 4
def xstateFop : Nat := 6
def xstateRip : Nat := 8
def xstateRdp : Nat := 16
def xstateMxcsr : Nat := 24
def xstateStSpace : Nat := 32
def xstateXmmSpace : Nat := 160

/-- `KKM_XSTATE_DATA_SIZE` -/
def kkmXstateDataSize : Nat := 4084

def xstateValid : Nat := 4084
def xstateFormat : Nat := 4088
def xstateCrc32 : Nat := 4092

/-- The field of `w` bits at an offset. -/
def xstateField (w : Nat) (image : Nat → BitVec 8) (off : Nat) : BitVec w :=
  BitVec.ofNat w (ofBytes (imageBytes image off (w / 8)))

def setXstateField {w : Nat} (off : Nat) (v : BitVec w) (image : Nat → BitVec 8) :
    Nat → BitVec 8 :=
  overlay image off (toBytes (w / 8) v.toNat)

def kkmCopyXstateToKkmFpu (image : Nat → BitVec 8) : KkmFpu where
  fpr := fun i => image (xstateStSpace + i)
  fcw := xstateField 16 image xstateCwd
  fsw := xstateField 16 image xstateSwd
  ftwx := (xstateField 16 image xstateTwd).setWidth 8
  pad1 := 0
  lastOpcode := xstateField 16 image xstateFop
  lastIp := xstateField 64 image xstateRip
  lastDp := xstateField 64 image xstateRdp
  xmm := fun i => image (xstateXmmSpace + i)
  mxcsr := xstateField 32 image xstateMxcsr
  pad2 := 0

def kkmCopyKkmFpuToXstate (fpu : KkmFpu) (image : Nat → BitVec 8) :
    Nat → BitVec 8 :=
  let image := overlay image xstateStSpace (List.ofFn fpu.fpr)
  let image := setXstateField xstateCwd fpu.fcw image
  let image := setXstateField xstateSwd fpu.fsw image
  let image := setXstateField xstateTwd (fpu.ftwx.setWidth 16) image
  let image := setXstateField xstateFop fpu.lastOpcode image
  let image := setXstateField xstateRip fpu.lastIp image
  let image := setXstateField xstateRdp fpu.lastDp image
  let image := overlay image xstateXmmSpace (List.ofFn fpu.xmm)
  setXstateField xstateMxcsr fpu.mxcsr image

/-- The three fields after the data are cleared. -/
def clearXstateTrailer (image : Nat → BitVec 8) : Nat → BitVec 8 :=
  setXstateField xstateCrc32 0#32
    (setXstateField xstateFormat 0#32 (setXstateField xstateValid 0#32 image))

section Requests

variable (cfg : KkmConfig) (crc32 : List (BitVec 8) → BitVec 32)

/-- The image that `KKM_KONTEXT_GET_XSTATE` hands out. -/
def xstateToUser (kontext : KkmKontext) : Nat → BitVec 8 :=
  let image := overlay kontext.payloadXsave xstateValid
    [if kontext.validPayloadXsaveArea then 1#8 else 0#8]
  let image := setXstateField xstateFormat
    (BitVec.ofNat 32 cfg.xsFormat.code) image
  setXstateField xstateCrc32
    (crc32 (imageBytes image 0 kkmXstateDataSize)) image

/-- `KKM_KONTEXT_SET_XSTATE` -/
def kkmKontextSetXstate (copy : UserCopy (Nat → BitVec 8)) (kontext : KkmKontext) :
    Int × KkmKontext :=
  let image := copy.value
  let kontext := { kontext with payloadXsave := image }
  if copy.failed then (-efault, kontext)
  else if xstateField 32 image xstateFormat ≠ BitVec.ofNat 32 cfg.xsFormat.code then
    (-einval, { kontext with validPayloadXsaveArea := false })
  else if xstateField 32 image xstateCrc32 ≠
      crc32 (imageBytes image 0 kkmXstateDataSize) then
    (-einval, { kontext with validPayloadXsaveArea := false })
  else
    (0,
      { kontext with
        validPayloadXsaveArea := image xstateValid != 0#8
        payloadXsave := clearXstateTrailer image })

/-! ## The dispatcher -/

/-- The requests other than `KKM_RUN`, with the outcome of their copies. -/
inductive KontextIoctl where
  | getRegs (failed : Bool)
  | setRegs (copy : UserCopy KkmRegs)
  | getSregs (failed : Bool)
  | setSregs (copy : UserCopy KkmSregs)
  /-- the copied record is represented by its number of entries -/
  | setMsrs (copy : UserCopy (BitVec 32))
  | getFpu (failed : Bool)
  | setFpu (copy : UserCopy KkmFpu)
  | setCpuid
  | setDebug (copy : UserCopy KkmDebug)
  | getXcrs
  | setXcrs
  | reuse
  | getSaveInfo (failed : Bool)
  | setSaveInfo (copy : UserCopy KkmSaveInfo)
  | getXstate (failed : Bool)
  | setXstate (copy : UserCopy (Nat → BitVec 8))
  | getEvents
  | unsupported

/-- What a request hands out when its copy is complete. -/
inductive KontextReply where
  | none
  | regs (regs : KkmRegs)
  | sregs (sregs : KkmSregs)
  | fpu (fpu : KkmFpu)
  | saveInfo (si : KkmSaveInfo)
  | xstate (image : Nat → BitVec 8)

def kkmExecutionKontextIoctl (request : KontextIoctl) (kontext : KkmKontext) :
    Int × KontextReply × KkmKontext :=
  match request with
  | .getRegs failed => (copyRet failed, .regs kontext.ga.regs, kontext)
  | .setRegs copy => (copyRet copy.failed, .none, kontext.setRegs copy.value)
  | .getSregs failed => (copyRet failed, .sregs kontext.ga.sregs, kontext)
  | .setSregs copy =>
      (copyRet copy.failed, .none,
        { kontext with ga := { kontext.ga with sregs := copy.value } })
  | .setMsrs copy =>
      (if copy.failed then -efault else copy.value.toInt, .none, kontext)
  | .getFpu failed =>
      let fpu := kkmCopyXstateToKkmFpu kontext.payloadXsave
      (copyRet failed, .fpu fpu,
        { kontext with ga := { kontext.ga with fpu := fpu } })
  | .setFpu copy =>
      (copyRet copy.failed, .none,
        { kontext with
          ga := { kontext.ga with fpu := copy.value }
          payloadXsave := kkmCopyKkmFpuToXstate copy.value kontext.payloadXsave })
  | .setCpuid => (0, .none, kontext)
  | .setDebug copy =>
      (copyRet copy.failed, .none,
        { kontext with
          ga := { kontext.ga with debug := copy.value }
          debugRegistersSet := true })
  | .getXcrs => (0, .none, kontext)
  | .setXcrs => (0, .none, kontext)
  | .reuse => (0, .none, kkmKontextReinit kontext)
  | .getSaveInfo failed =>
      let (si, kontext) := kkmKontextGetSaveInfo kontext
      (copyRet failed, .saveInfo si, kontext)
  | .setSaveInfo copy =>
      (copyRet copy.failed, .none,
        if copy.failed then kontext else kkmKontextSetSaveInfo copy.value kontext)
  | .getXstate failed =>
      let image := xstateToUser cfg crc32 kontext
      (copyRet failed, .xstate image,
        { kontext with payloadXsave := clearXstateTrailer image })
  | .setXstate copy =>
      let (ret, kontext) := kkmKontextSetXstate cfg crc32 copy kontext
      (ret, .none, kontext)
  | .getEvents => (0, .none, kontext)
  | .unsupported => (-eopnotsupp, .none, kontext)

/-! ## Runs of a kontext -/

/-- What can happen to a kontext: requests and writes of the monitor, and the
steps of `KKM_RUN`. -/
inductive KontextEvent where
  | ioctl (request : KontextIoctl)
  | writeRunPage (run : KkmRun)
  | writePrivateArea (area : KkmPrivateArea)
  | memory (memory : RunMemory)
  | run
  | begin (signal : Bool) (e : EntryCpu)
  | exit (kkm : Kkm) (e : PayloadExit) (a : ExitAnswers) (user : ByteMemory)

/-- An event that does not fit the phase changes nothing. -/
def runStep (s : RunState) : KontextEvent → RunState
  | .ioctl request =>
      if s.phase = .monitor then
        { s with kontext := (kkmExecutionKontextIoctl cfg crc32 request s.kontext).2.2 }
      else s
  | .writeRunPage run => { s with kontext := { s.kontext with run := run } }
  | .writePrivateArea area =>
      { s with kontext := { s.kontext with privateArea := area } }
  | .memory memory => { s with memory := memory }
  | .run => if s.phase = .monitor then s.run else s
  | .begin signal e => if s.phase = .begin then s.begin signal e else s
  | .exit kkm e a user =>
      if s.phase = .payload then s.exit cfg kkm e a user else s

end Requests

end Driver
end KkmModule
