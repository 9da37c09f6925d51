import Dynarmic.BackendX64.EmitM

/-!
# Calls to the host

`EmitCallSupervisor`, `EmitGetFpscr` and `EmitSetFpscr` call out of the emitted code: the
allocator's `HostCall` marshals the IR arguments into the argument registers of the host
calling convention, the emitter loads the guest-state pointer `r15` where the callee takes it,
and the call is made with the host's MXCSR, switched out before and back after.
-/

namespace Dynarmic.BackendX64

open X64 IR EmitM

/-- Switch MXCSR to the host's, call `f`, switch back. -/
def EmitCallHost (f : HostFn) : EmitM Unit := do
  emit .SwitchMxcsrOnExit
  emit (.CallFunction f)
  emit .SwitchMxcsrOnEntry

def EmitCallSupervisor (inst : Nat) : EmitM Unit := do
  let imm32 ← GetArg inst 0
  HostCall none [imm32]
  EmitCallHost .CallSVC

/-- `GetFpscrImpl(JitState*)`: the guest-state pointer is its first argument. -/
def EmitGetFpscr (inst : Nat) : EmitM Unit := do
  HostCall (some inst) []
  emit (.mov .qword (.reg ABI_PARAM1) (.reg .r15))
  EmitCallHost .GetFpscrImpl

/-- `SetFpscrImpl(u32 value, JitState*)`: the value is the first argument, marshalled by
`HostCall`, and the guest-state pointer the second. -/
def EmitSetFpscr (inst : Nat) : EmitM Unit := do
  let a ← GetArg inst 0
  HostCall none [a]
  emit (.mov .qword (.reg ABI_PARAM2) (.reg .r15))
  EmitCallHost .SetFpscrImpl

end Dynarmic.BackendX64
