import Dynarmic.BackendX64.EmitM

/-!
# CPSR flag emitters and BXWritePC

The emitters that read or write single CPSR bits: N, Z, C and V (bits 31 to 28), the sticky Q
bit (27) and the four GE bits (16 to 19). `EmitGetNFlag` alone needs no mask after its shift,
and `EmitOrQFlag` only ever sets its bit. `EmitBXWritePC` writes the PC and CPSR.T together,
branch-free when the target is in a register.
-/

namespace Dynarmic.BackendX64

open X64 IR EmitM

/-- `EmitGetZFlag`, `EmitGetCFlag` and `EmitGetVFlag`, which differ only in the bit they read:
the CPSR shifted down by `flag_bit`, masked to one bit. -/
def EmitGetFlag (flag_bit : Nat) (inst : Nat) : EmitM Unit := do
  let result ← DefGpr inst
  emit (.mov .dword (.reg result) (.mem .cpsr))
  emit (.shr .dword (.reg result) (.imm flag_bit))
  emit (.and_ .dword (.reg result) (.imm 1))

/-- Bit 31 is the top bit, so the shift alone leaves it in bit 0. -/
def EmitGetNFlag (inst : Nat) : EmitM Unit := do
  let result ← DefGpr inst
  emit (.mov .dword (.reg result) (.mem .cpsr))
  emit (.shr .dword (.reg result) (.imm 31))

def EmitGetZFlag : Nat → EmitM Unit := EmitGetFlag 30

def EmitGetCFlag : Nat → EmitM Unit := EmitGetFlag 29

def EmitGetVFlag : Nat → EmitM Unit := EmitGetFlag 28

/-- `EmitSetNFlag`, `EmitSetZFlag`, `EmitSetCFlag` and `EmitSetVFlag`, which differ only in the
bit they write: an immediate sets or clears it, a register is shifted into place and or'd into
the CPSR with the bit cleared. -/
def EmitSetFlag (flag_bit : Nat) (inst : Nat) : EmitM Unit := do
  let flag_mask : BitVec 32 := 1 <<< flag_bit
  let arg ← GetArg inst 0
  if arg.IsImmediate then
    if arg.GetU1 then
      emit (.or_ .dword (.mem .cpsr) (.imm flag_mask.toNat))
    else
      emit (.and_ .dword (.mem .cpsr) (.imm (~~~flag_mask).toNat))
  else
    let to_store ← UseScratchGpr arg
    emit (.shl .dword (.reg to_store) (.imm flag_bit))
    emit (.and_ .dword (.mem .cpsr) (.imm (~~~flag_mask).toNat))
    emit (.or_ .dword (.mem .cpsr) (.reg to_store))

def EmitSetNFlag : Nat → EmitM Unit := EmitSetFlag 31

def EmitSetZFlag : Nat → EmitM Unit := EmitSetFlag 30

def EmitSetCFlag : Nat → EmitM Unit := EmitSetFlag 29

def EmitSetVFlag : Nat → EmitM Unit := EmitSetFlag 28

/-- Q is sticky: a zero argument leaves the CPSR alone, and a register is or'd in without
clearing the bit first. -/
def EmitOrQFlag (inst : Nat) : EmitM Unit := do
  let flag_bit := 27
  let flag_mask : BitVec 32 := 1 <<< flag_bit
  let arg ← GetArg inst 0
  if arg.IsImmediate then
    if arg.GetU1 then
      emit (.or_ .dword (.mem .cpsr) (.imm flag_mask.toNat))
  else
    let to_store ← UseScratchGpr arg
    emit (.shl .dword (.reg to_store) (.imm flag_bit))
    emit (.or_ .dword (.mem .cpsr) (.reg to_store))

def EmitGetGEFlags (inst : Nat) : EmitM Unit := do
  let result ← DefGpr inst
  emit (.mov .dword (.reg result) (.mem .cpsr))
  emit (.shr .dword (.reg result) (.imm 16))
  emit (.and_ .dword (.reg result) (.imm 0xF))

def EmitSetGEFlags (inst : Nat) : EmitM Unit := do
  let flag_bit := 16
  let flag_mask : BitVec 32 := 0xF <<< flag_bit
  let arg ← GetArg inst 0
  if arg.IsImmediate then
    let imm := (arg.GetU32 <<< flag_bit) &&& flag_mask
    emit (.and_ .dword (.mem .cpsr) (.imm (~~~flag_mask).toNat))
    emit (.or_ .dword (.mem .cpsr) (.imm imm.toNat))
  else
    let to_store ← UseScratchGpr arg
    emit (.shl .dword (.reg to_store) (.imm flag_bit))
    emit (.and_ .dword (.reg to_store) (.imm flag_mask.toNat))
    emit (.and_ .dword (.mem .cpsr) (.imm (~~~flag_mask).toNat))
    emit (.or_ .dword (.mem .cpsr) (.reg to_store))

/-- The register path works on 64-bit registers, and its moves between them and the dword
fields `MJitStateCpsr()` and `MJitStateReg(PC)` are written at the registers' width, as the
source passes them to the assembler. The machine addresses a field at its own width only, so
it runs none of those three moves. -/
def EmitBXWritePC (inst : Nat) : EmitM Unit := do
  let T_bit : BitVec 32 := 1 <<< 5
  let arg ← GetArg inst 0
  if arg.IsImmediate then
    let new_pc := arg.GetU32
    if new_pc.getLsbD 0 then
      emit (.mov .dword (.mem (.reg Arm.Reg.PC)) (.imm (new_pc &&& 0xFFFFFFFE).toNat))
      emit (.or_ .dword (.mem .cpsr) (.imm T_bit.toNat))
    else
      emit (.mov .dword (.mem (.reg Arm.Reg.PC)) (.imm (new_pc &&& 0xFFFFFFFC).toNat))
      emit (.and_ .dword (.mem .cpsr) (.imm (~~~T_bit).toNat))
  else
    let new_pc ← UseScratchGpr arg
    let tmp1 ← ScratchGpr
    let tmp2 ← ScratchGpr
    emit (.mov .qword (.reg tmp1) (.mem .cpsr))
    emit (.mov .qword (.reg tmp2) (.reg tmp1))
    emit (.and_ .qword (.reg tmp2) (.imm (~~~T_bit).toNat)) -- CPSR.T = 0
    emit (.or_ .qword (.reg tmp1) (.imm T_bit.toNat)) -- CPSR.T = 1
    emit (.test .qword (.reg new_pc) (.imm 1))
    emit (.cmovcc .e .qword tmp1 (.reg tmp2)) -- CPSR.T = pc & 1
    emit (.mov .qword (.mem .cpsr) (.reg tmp1))
    emit (.lea .qword tmp2 new_pc (some new_pc) 0)
    emit (.or_ .qword (.reg tmp2) (.imm 0xFFFFFFFC)) -- tmp2 = pc & 1 ? 0xFFFFFFFE : 0xFFFFFFFC
    emit (.and_ .qword (.reg new_pc) (.reg tmp2))
    emit (.mov .qword (.mem (.reg Arm.Reg.PC)) (.reg new_pc))

end Dynarmic.BackendX64
