import KkmModule.Foundation.SharedSaveArea

/-!
# Native state of a running kontext

`kkm_kontext_switch_kernel` keeps what it needs to return to the native kernel in
the `struct kkm_kontext` and its guest area: the values are written before the
payload is entered and read after it has been left.  The structure belongs to
the kontext, not to the call of `KKM_RUN`, and a kontext descriptor can be used
by several threads.

`nativeState_own_iff` is the rule of `SharedSaveArea` for these fields;
`nativeState_of_other_run` are two calls on two processors, one of which returns
with the stack of the other.
-/

namespace KkmModule
namespace Driver

open Foundation

/-- The fields that are written at entry and read at exit. -/
inductive NativeItem where
  | nativeIdtDesc
  | nativeKernelCr3
  | nativeKernelDs
  | nativeKernelEs
  | nativeKernelFs
  | nativeKernelFsBase
  | nativeKernelGs
  | nativeKernelGsBase
  | nativeKernelGsKernBase
  | kkmKernelXsave
  | nativeKernelEntrySyscall64
  | nativeKernelStack
  | nativeSaveTssSp0
  | nativeSaveTssSp1
  | nativeSaveTssSp2
deriving DecidableEq, Repr

/-- The order in `kkm_kontext_switch_kernel`, `kkm_switch_to_gk_asm` and
`kkm_guest_kernel_start_payload`. -/
def nativeSaves : List NativeItem :=
  [.nativeIdtDesc, .nativeKernelCr3, .nativeKernelDs, .nativeKernelEs,
    .nativeKernelFs, .nativeKernelFsBase, .nativeKernelGs, .nativeKernelGsBase,
    .nativeKernelGsKernBase, .kkmKernelXsave, .nativeKernelEntrySyscall64,
    .nativeKernelStack, .nativeSaveTssSp0, .nativeSaveTssSp1, .nativeSaveTssSp2]

/-- The order in `kkm_switch_to_host_kernel` and after the return to
`kkm_kontext_switch_kernel`. -/
def nativeRestores : List NativeItem :=
  [.nativeSaveTssSp0, .nativeSaveTssSp1, .nativeSaveTssSp2, .nativeIdtDesc,
    .nativeKernelEntrySyscall64, .nativeKernelDs, .nativeKernelEs,
    .nativeKernelFs, .nativeKernelFsBase, .nativeKernelGs, .nativeKernelGsBase,
    .nativeKernelGsKernBase, .nativeKernelCr3, .nativeKernelStack,
    .kkmKernelXsave]

/-- Every entry into the payload of one kontext is a use of its fields. -/
abbrev nativeStep : SaveArea NativeItem → UseEvent → SaveArea NativeItem :=
  useStep nativeSaves nativeRestores

theorem nativeRestores_saved : ∀ i ∈ nativeRestores, i ∈ nativeSaves := by
  decide

/-- Every entry restores its own values exactly in the runs in which none of the
fields is written while another entry still has to read it. -/
theorem nativeState_own_iff (events : List UseEvent) :
    EveryState nativeStep (OwnValues nativeRestores) (.unused NativeItem) events ↔
      EveryStep nativeStep (KeepsPendingItems nativeRestores) (.unused NativeItem)
        events :=
  ownValues_iff nativeRestores_saved events

/-- A thread on processor 0 has entered the payload when another one starts a
call on processor 1; the first one returns with values of the second. -/
theorem nativeState_of_other_run :
    let save := List.replicate (nativeSaves.length + 1)
    let events : List UseEvent :=
      .start 0 :: save (.advance 0) ++ .start 1 :: save (.advance 1) ++
        List.replicate (nativeRestores.length + 1) (.advance 0)
    let s := events.foldl nativeStep (.unused NativeItem)
    (∃ r ∈ s.restored, r.use = 0 ∧ r.item = .nativeKernelStack ∧
        r.savedBy = some 1) ∧
      ¬ EveryState nativeStep (OwnValues nativeRestores) (.unused NativeItem)
        events := by
  intro save events s
  have hstack : ⟨0, .nativeKernelStack, some 1⟩ ∈ s.restored := by
    decide +kernel
  refine ⟨⟨_, hstack, rfl, rfl, rfl⟩, ?_⟩
  intro h
  cases h.last.restored _ hstack

end Driver
end KkmModule
