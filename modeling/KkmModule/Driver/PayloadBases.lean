import KkmModule.Driver.HandlerWrites
import KkmModule.Driver.HostRestore
import KkmModule.Foundation.GuardedRun

/-!
# FS base and GS base of the payload

Each entry loads the bases from `ga->sregs`, GS through `SWAPGS`.  The exit
stores general registers and control registers in the guest area, no base, and
no handler writes one.  So after an exit that is handled in the kernel the
payload resumes with the bases it was first entered with: with its own exactly
if it has not changed them.
-/

namespace KkmModule
namespace Driver

open Foundation X86

/-! ## The bases in the guest area -/

/-- FS base and GS base. -/
structure Bases where
  fs : BitVec 64
  gs : BitVec 64
deriving DecidableEq, Repr

/-- The bases in `ga->sregs`. -/
def sregsBases (kontext : KkmKontext) : Bases :=
  ⟨kontext.ga.sregs.fs.base, kontext.ga.sregs.gs.base⟩

/-- No handler writes a base. -/
theorem sregsBases_kkmProcessIntr
    (cfg : KkmConfig) (kkm : Kkm) (a : ExitAnswers) (k : KkmKontext) (s : RunMemory) :
    sregsBases (kkmProcessIntr cfg kkm a k s).2.1 = sregsBases k := by
  refine (kkmProcessIntr_writes cfg kkm a k s).keeps ?_
  intro k w _
  cases w <;> rfl

theorem sregsBases_countTrap (k : KkmKontext) :
    sregsBases (countTrap k).2 = sregsBases k := by
  simp only [countTrap]
  split
  · split <;> rfl
  · rfl

theorem sregsBases_return (s : RunState) (k : KkmKontext) :
    sregsBases (s.return k).kontext = sregsBases k := rfl

/-- An exit of the payload keeps them. -/
theorem sregsBases_exit
    (cfg : KkmConfig) (kkm : Kkm) (e : PayloadExit) (a : ExitAnswers)
    (user : ByteMemory) (s : RunState) :
    sregsBases (s.exit cfg kkm e a user).kontext = sregsBases s.kontext := by
  have hintr := sregsBases_kkmProcessIntr cfg kkm a (leavePayload e s.kontext)
    { s.memory with user := user }
  simp only [RunState.exit]
  split
  · split
    · rw [sregsBases_return]
      exact (sregsBases_countTrap _).trans hintr
    · exact (sregsBases_countTrap _).trans hintr
  · rw [sregsBases_return]
    exact hintr

/-! ## The bases in the processor -/

/-- The bases the payload is entered with are the guest values. -/
theorem enter_bases
    {ga : GuestAreaAddr} {nk : BitVec 64} {t : Trip} {h : State}
    (hh : HostReady ga nk t.cpu h) (hap : StacksApart ga nk) :
    (t.enter h).sys.fsBase = t.guest.fsBase ∧
      (t.enter h).sys.gsBase = t.guest.gsBase := by
  have hguest := onGuestKernel_of_ready hh hap t.back t.restore
  have hready := payloadReady_of_onGuestKernel hguest hap hh.gsBase t.guest
    t.entryCode
  have hgs : (run (kkmSwitchToGkAsm t.restore) (h.pushWord t.back)).sys.gsBase =
      t.cpu.gsBase := by
    rw [hguest.sys, hh.gsBase]
  have hstart := startPayload_eq hguest.rdi hgs t.guest t.entryCode
  have hsys := (switchToGpAsm_leavesHost ga hready.entry).2
  rw [Trip.enter, hsys, hstart]
  exact ⟨rfl, rfl⟩

/-! ## A run of exits handled in the kernel -/

/-- A stay in the payload, with all that is arbitrary on the way in and out: the
call of `kkm_switch_to_gk_asm`, what the payload does, the exit and what is done
about it. -/
structure PayloadStay where
  trip : Trip
  area : GuestAreaAddr
  nativeStack : BitVec 64
  host : State
  ready : HostReady area nativeStack trip.cpu host
  apart : StacksApart area nativeStack
  cpu : EntryCpu
  kkm : Kkm
  exit : PayloadExit
  answers : ExitAnswers
  user : ByteMemory

namespace PayloadStay

variable (l : PayloadStay)

/-- The trip with the bases of the kontext. -/
def tripFor (kontext : KkmKontext) : Trip :=
  { l.trip with
    guest := { l.trip.guest with
      fsBase := kontext.ga.sregs.fs.base
      gsBase := kontext.ga.sregs.gs.base } }

/-- The bases in the processor at the `IRETQ`. -/
def resumedBases (kontext : KkmKontext) : Bases :=
  ⟨((l.tripFor kontext).enter l.host).sys.fsBase,
    ((l.tripFor kontext).enter l.host).sys.gsBase⟩

/-- The bases in the processor at the exit. -/
def interruptedBases : Bases := ⟨l.trip.payload.fsBase, l.trip.payload.gsBase⟩

theorem resumedBases_eq (kontext : KkmKontext) :
    l.resumedBases kontext = sregsBases kontext := by
  obtain ⟨hfs, hgs⟩ := enter_bases (t := l.tripFor kontext) l.ready l.apart
  rw [resumedBases, hfs, hgs]
  rfl

/-- From the label `begin` through the payload. -/
def step (cfg : KkmConfig) (s : RunState) (l : PayloadStay) : RunState :=
  (s.begin false l.cpu).exit cfg l.kkm l.exit l.answers l.user

/-- The exit is handled in the kernel: the label `begin` is reached again. -/
def Transparent (cfg : KkmConfig) (s : RunState) (l : PayloadStay) : Prop :=
  (step cfg s l).phase = .begin

/-- However it is entered again, the payload goes on with its own bases. -/
def KeepsBases (cfg : KkmConfig) (s : RunState) (l : PayloadStay) : Prop :=
  ∀ next : PayloadStay,
    next.resumedBases (step cfg s l).kontext = l.interruptedBases

theorem sregsBases_step (cfg : KkmConfig) (s : RunState) :
    sregsBases (step cfg s l).kontext = sregsBases s.kontext := by
  rw [step, sregsBases_exit]
  rfl

theorem keepsBases_step_iff (cfg : KkmConfig) (s : RunState) :
    l.KeepsBases cfg s ↔ l.interruptedBases = sregsBases s.kontext := by
  constructor
  · intro hkeeps
    rw [← hkeeps l, resumedBases_eq, sregsBases_step]
  · intro hbases next
    rw [resumedBases_eq, sregsBases_step, hbases]

end PayloadStay

/-! ## Main result -/

/-- Along a run the payload goes on with its own bases after every exit that is
handled in the kernel exactly if at each of these its bases are the ones in
`ga->sregs` at the start. -/
theorem keepsBases_iff
    (cfg : KkmConfig) (s : RunState) (stays : List PayloadStay) :
    EveryStep (PayloadStay.step cfg)
        (fun s' l => l.Transparent cfg s' → l.KeepsBases cfg s') s stays ↔
      EveryStep (PayloadStay.step cfg)
        (fun s' l => l.Transparent cfg s' →
          l.interruptedBases = sregsBases s.kontext) s stays := by
  -- the bases of the kontext are the same all along
  refine everyStep_congr (I := fun s' => sregsBases s'.kontext = sregsBases s.kontext)
    ?_ ?_ rfl
  · intro s' l hbases
    exact (l.sregsBases_step cfg s').trans hbases
  · intro s' l hbases
    rw [l.keepsBases_step_iff, hbases]

/-- A payload that has set its FS base to `0x1000` when a timer interrupt comes;
`ga->sregs` has 0. -/
def changedFsStay : PayloadStay where
  trip := { someTrip 0x246#64 with
    payload := { (someTrip 0x246#64).payload with fsBase := 0x1000#64 }
    cause := .trap 0xEC 0x400000#64 ⟨userCs, userFrame_userCs⟩ userDs 0#64 }
  area := someGuestArea
  nativeStack := someNativeStack
  host := someHost
  ready := someHost_ready 0x246#64
  apart := someStacks_apart
  cpu := ⟨0, 0⟩
  kkm := .zeroed
  exit := ⟨{ KkmRegs.zeroed with rip := 0x400000#64 }, 0, userCs, userDs, 0xEC#64,
    0, 0, 0, 0, 0, fun _ => 0, fun _ => 0⟩
  answers := ⟨0, ⟨false, 0, fun _ => 0⟩, ⟨false, fun _ => 0⟩⟩
  user := fun _ => none

/-- It goes on with FS base 0. -/
theorem fs_base_lost_at_interrupt :
    let s : RunState := ⟨.zeroed, ⟨fun _ => none, fun _ => 0⟩, .begin⟩
    changedFsStay.Transparent .stock s ∧
      (changedFsStay.resumedBases
        (PayloadStay.step .stock s changedFsStay).kontext).fs = 0#64 ∧
      changedFsStay.interruptedBases.fs = 0x1000#64 ∧
      ¬ changedFsStay.KeepsBases .stock s := by
  refine ⟨rfl, ?_, rfl, ?_⟩
  · rw [PayloadStay.resumedBases_eq, PayloadStay.sregsBases_step]
    rfl
  · rw [PayloadStay.keepsBases_step_iff]
    decide

end Driver
end KkmModule
