import Dynarmic.BackendX64.EmitM

/-!
# Guest-state access

The emitters that move a dword between the guest-state struct and the host register bound to
an IR value. `EmitGetRegister`, `EmitGetCpsr` and `EmitGetFpscrNZCV` are one load into the
register defined as the instruction's result; `EmitSetCpsr` and `EmitSetFpscrNZCV` one store
from the register bound to the argument. `EmitSetRegister` alone stores an immediate argument
directly, without asking the allocator for a register.
-/

namespace Dynarmic.IR

end Dynarmic.IR

namespace Dynarmic.BackendX64

open X64 IR EmitM

/-- `EmitGetRegister`, `EmitGetCpsr` and `EmitGetFpscrNZCV`, which differ only in the `field`
they load: define the result of `inst` as that dword of the guest state. -/
def EmitGetField (field : Mem) (inst : Nat) : EmitM Unit := do
  let result ← DefGpr inst
  emit (.mov .dword (.reg result) (.mem field))

def EmitGetCpsr : Nat → EmitM Unit := EmitGetField .cpsr

def EmitGetFpscrNZCV : Nat → EmitM Unit := EmitGetField .fpscrNzcv

/-- `EmitSetCpsr` and `EmitSetFpscrNZCV`, which differ only in the `field` they store, and the
register path of `EmitSetRegister`: store the register bound to `arg` to that dword of the
guest state. -/
def EmitSetField (field : Mem) (arg : Value) : EmitM Unit := do
  let to_store ← UseGpr arg
  emit (.mov .dword (.mem field) (.reg to_store))

def EmitSetCpsr (inst : Nat) : EmitM Unit := do EmitSetField .cpsr (← GetArg inst 0)

def EmitSetFpscrNZCV (inst : Nat) : EmitM Unit := do EmitSetField .fpscrNzcv (← GetArg inst 0)

end Dynarmic.BackendX64
