import Dynarmic.BackendX64.EmitM

/-!
# Logical, 64-bit and extension emitters

The emitters that are one or a few native x86 operations. `EmitAnd`, `EmitEor` and `EmitOr`
fold an immediate second operand into the instruction, and `EmitNot` of an immediate computes
the complement while emitting; the extensions and `EmitPack2x32To1x64` take their operand in
the result register when it is an immediate and as an operand otherwise. The word, half and
byte extractions and `EmitIdentity` emit no code: they bind their result to their argument.
-/

namespace Dynarmic.BackendX64

open X64 IR EmitM

def EmitBreakpoint (_ : Nat) : EmitM Unit := emit .int3

/-- An `Identity` of an instruction's result is bound to that result's register; one of an
immediate needs nothing. -/
def EmitIdentity (inst : Nat) : EmitM Unit := do
  if !(← GetArg inst 0).IsImmediate then
    RegisterAddDef inst (← GetArg inst 0)

/-- `EmitLeastSignificantWord`, `EmitLeastSignificantHalf` and `EmitLeastSignificantByte`:
the result is the argument's register, whose low bits it is. -/
def EmitLeastSignificant (inst : Nat) : EmitM Unit := do
  RegisterAddDef inst (← GetArg inst 0)

def EmitLeastSignificantWord : Nat → EmitM Unit := EmitLeastSignificant

def EmitLeastSignificantHalf : Nat → EmitM Unit := EmitLeastSignificant

def EmitLeastSignificantByte : Nat → EmitM Unit := EmitLeastSignificant

/-- The pseudo-operations are consumed by the emitter of the instruction they hang off. -/
def EmitGetCarryFromOp (_ : Nat) : EmitM Unit := assert false "should never happen"

def EmitGetOverflowFromOp (_ : Nat) : EmitM Unit := assert false "should never happen"

def EmitGetGEFromOp (_ : Nat) : EmitM Unit := assert false "should never happen"

/-- The high word, with the last bit shifted out as the carry when a `GetCarryFromOp` hangs
off the instruction. -/
def EmitMostSignificantWord (inst : Nat) : EmitM Unit := do
  let carry_inst ← GetAssociatedPseudoOperation inst .GetCarryFromOp
  let result ← UseDefGpr (← GetArg inst 0) inst
  emit (.shr .qword (.reg result) (.imm 32))
  if let some carry_inst := carry_inst then
    EraseInstruction carry_inst
    let carry ← DefGpr carry_inst
    emit (.setcc .b (.reg carry))

def EmitMostSignificantBit (inst : Nat) : EmitM Unit := do
  let result ← UseDefGpr (← GetArg inst 0) inst
  emit (.shr .dword (.reg result) (.imm 31))

/-- `EmitIsZero` and `EmitIsZero64`, which differ only in the width `w` they test at. -/
def EmitIsZeroAt (w : Width) (inst : Nat) : EmitM Unit := do
  let result ← UseDefGpr (← GetArg inst 0) inst
  emit (.test w (.reg result) (.reg result))
  emit (.setcc .e (.reg result))
  emit (.movzx w result .byte (.reg result))

def EmitIsZero : Nat → EmitM Unit := EmitIsZeroAt .dword

def EmitIsZero64 : Nat → EmitM Unit := EmitIsZeroAt .qword

end Dynarmic.BackendX64
