import Dynarmic.BackendX64.EmitM

/-!
# Data-processing emitters

`EmitAddWithCarry` and `EmitSubWithCarry`, with their carry and overflow pseudo-ops,
`EmitCountLeadingZeros`, with an `LZCNT` path and a `BSR` fallback chosen by the host CPU, and
the saturating emitters: `EmitSignedSaturatedAdd`, `EmitSignedSaturatedSub`,
`EmitUnsignedSaturation` and `EmitSignedSaturation`. Each saturating emitter produces an
attached `GetOverflowFromOp` with `SETcc`; `EmitSignedSaturation` with `N = 32` emits nothing
and rewrites the pseudo-op into a constant.
-/

namespace Dynarmic.Common

/-- `common/bit_util.h` is not under src/: `Common::SignExtend(bit_count, value)`, bit
`bit_count - 1` of `value` copied into every bit above it, as a 32-bit word. -/
def SignExtend (bit_count value : Nat) : Nat :=
  ((BitVec.ofNat bit_count value).signExtend 32).toNat

end Dynarmic.Common

namespace Dynarmic.BackendX64

open X64 IR EmitM

def EmitCountLeadingZeros (inst : Nat) : EmitM Unit := do
  let a ← GetArg inst 0
  if ← cpuHas .tLZCNT then
    let source ← UseGpr a
    let result ← DefGpr inst
    emit (.lzcnt .dword result (.reg source))
  else
    let source ← UseScratchGpr a
    let result ← DefGpr inst
    -- The result of a bsr of zero is undefined, but zf is set after it.
    emit (.bsr .dword result (.reg source))
    emit (.mov .dword (.reg source) (.imm 0xFFFFFFFF))
    emit (.cmovcc .e .dword result (.reg source))
    emit (.neg .dword (.reg result))
    emit (.add .dword (.reg result) (.imm 31))

/-- `EmitSignedSaturatedAdd` and `EmitSignedSaturatedSub`, which differ only in the instruction
`op` that combines the operands. -/
def EmitSignedSaturatedOp (op : Width → Operand → Operand → Instr) (inst : Nat) :
    EmitM Unit := do
  let overflow_inst ← GetAssociatedPseudoOperation inst .GetOverflowFromOp
  let a ← GetArg inst 0
  let b ← GetArg inst 1
  let result ← UseDefGpr a inst
  let operand ← UseGpr b
  let overflow ← match overflow_inst with
    | some o => DefGpr o
    | none => ScratchGpr
  emit (.mov .dword (.reg overflow) (.reg result))
  emit (.shr .dword (.reg overflow) (.imm 31))
  emit (.add .dword (.reg overflow) (.imm 0x7FFFFFFF))
  -- overflow now contains 0x7FFFFFFF if a was positive, or 0x80000000 if a was negative
  emit (op .dword (.reg result) (.reg operand))
  emit (.cmovcc .o .dword result (.reg overflow))
  match overflow_inst with
  | some o =>
    EraseInstruction o
    emit (.setcc .o (.reg overflow))
  | none => pure ()

def EmitSignedSaturatedAdd : Nat → EmitM Unit := EmitSignedSaturatedOp .add

def EmitSignedSaturatedSub : Nat → EmitM Unit := EmitSignedSaturatedOp .sub

def EmitUnsignedSaturation (inst : Nat) : EmitM Unit := do
  let overflow_inst ← GetAssociatedPseudoOperation inst .GetOverflowFromOp
  let a ← GetArg inst 0
  let N := (← GetArg inst 1).GetU8.toNat
  assert (N ≤ 31) "N <= 31"
  let saturated_value := (1 <<< N) - 1
  let result ← DefGpr inst
  let reg_a ← UseGpr a
  let overflow ← match overflow_inst with
    | some o => DefGpr o
    | none => ScratchGpr
  -- Pseudocode: result = clamp(reg_a, 0, saturated_value);
  emit (.xor_ .dword (.reg overflow) (.reg overflow))
  emit (.cmp .dword (.reg reg_a) (.imm saturated_value))
  emit (.mov .dword (.reg result) (.imm saturated_value))
  emit (.cmovcc .le .dword result (.reg overflow))
  emit (.cmovcc .be .dword result (.reg reg_a))
  match overflow_inst with
  | some o =>
    EraseInstruction o
    emit (.setcc .a (.reg overflow))
  | none => pure ()

def EmitSignedSaturation (inst : Nat) : EmitM Unit := do
  let overflow_inst ← GetAssociatedPseudoOperation inst .GetOverflowFromOp
  let a ← GetArg inst 0
  let N := (← GetArg inst 1).GetU8.toNat
  assert (N ≥ 1 && N ≤ 32) "N >= 1 && N <= 32"
  if N = 32 then
    RegisterAddDef inst a
    match overflow_inst with
    | some o => ReplaceUsesWith o (.U1 false)
    | none => pure ()
  else
    let mask := (1 <<< N) - 1
    let positive_saturated_value := (1 <<< (N - 1)) - 1
    let negative_saturated_value := 1 <<< (N - 1)
    let sext_negative_satured_value := Common.SignExtend N negative_saturated_value
    let result ← DefGpr inst
    let reg_a ← UseGpr a
    let overflow ← match overflow_inst with
      | some o => DefGpr o
      | none => ScratchGpr
    let tmp ← ScratchGpr
    -- overflow now contains a value between 0 and mask if it was originally between
    -- {negative,positive}_saturated_value.
    emit (.lea .dword overflow reg_a none negative_saturated_value)
    -- Put the appropriate saturated value in result
    emit (.cmp .dword (.reg reg_a) (.imm positive_saturated_value))
    emit (.mov .dword (.reg tmp) (.imm positive_saturated_value))
    emit (.mov .dword (.reg result) (.imm sext_negative_satured_value))
    emit (.cmovcc .g .dword result (.reg tmp))
    -- Do the saturation
    emit (.cmp .dword (.reg overflow) (.imm mask))
    emit (.cmovcc .be .dword result (.reg reg_a))
    match overflow_inst with
    | some o =>
      EraseInstruction o
      emit (.setcc .a (.reg overflow))
    | none => pure ()

/-- `DoCarry`: the register of the carry in, which is also the carry out's when one is asked
for, or a fresh one for the carry out of an immediate carry in. An immediate carry in with no
carry out needs no register; the source returns `INVALID_REG` there, which it never uses. -/
def DoCarry (carry_in : Value) (carry_out : Option Nat) : EmitM (Option Gpr) := do
  if carry_in.IsImmediate then
    match carry_out with
    | some carry_out => return some (← DefGpr carry_out)
    | none => return none
  else
    match carry_out with
    | some carry_out => return some (← UseDefGpr carry_in carry_out)
    | none => return some (← UseGpr carry_in)

/-- The register of the overflow out when a `GetOverflowFromOp` hangs off the instruction. -/
def DefOverflow (overflow_inst : Option Nat) : EmitM (Option Gpr) := do
  match overflow_inst with
  | some overflow_inst => return some (← DefGpr overflow_inst)
  | none => return none

def EmitAddWithCarry (inst : Nat) : EmitM Unit := do
  let carry_inst ← GetAssociatedPseudoOperation inst .GetCarryFromOp
  let overflow_inst ← GetAssociatedPseudoOperation inst .GetOverflowFromOp
  let a ← GetArg inst 0
  let b ← GetArg inst 1
  let carry_in ← GetArg inst 2
  let result ← UseDefGpr a inst
  let carry ← DoCarry carry_in carry_inst
  let overflow ← DefOverflow overflow_inst
  let op_arg ← if b.IsImmediate then pure (Operand.imm b.GetU32.toNat) else UseOpArg b
  if carry_in.IsImmediate then
    if carry_in.GetU1 then
      emit .stc
      emit (.adc .dword (.reg result) op_arg)
    else
      emit (.add .dword (.reg result) op_arg)
  else
    if let some carry := carry then
      emit (.bt .dword (.reg carry) (.imm 0))
    emit (.adc .dword (.reg result) op_arg)
  if let some carry_inst := carry_inst then
    EraseInstruction carry_inst
    if let some carry := carry then
      emit (.setcc .b (.reg carry))
  if let some overflow_inst := overflow_inst then
    EraseInstruction overflow_inst
    if let some overflow := overflow then
      emit (.setcc .o (.reg overflow))

/-- x64's CF is the inverse of the ARM carry of a subtraction: a set carry in is a plain `SUB`,
a register carry in is complemented before `SBB`, and the carry out is `SETNC`. -/
def EmitSubWithCarry (inst : Nat) : EmitM Unit := do
  let carry_inst ← GetAssociatedPseudoOperation inst .GetCarryFromOp
  let overflow_inst ← GetAssociatedPseudoOperation inst .GetOverflowFromOp
  let a ← GetArg inst 0
  let b ← GetArg inst 1
  let carry_in ← GetArg inst 2
  let result ← UseDefGpr a inst
  let carry ← DoCarry carry_in carry_inst
  let overflow ← DefOverflow overflow_inst
  let op_arg ← if b.IsImmediate then pure (Operand.imm b.GetU32.toNat) else UseOpArg b
  if carry_in.IsImmediate then
    if carry_in.GetU1 then
      emit (.sub .dword (.reg result) op_arg)
    else
      emit .stc
      emit (.sbb .dword (.reg result) op_arg)
  else
    if let some carry := carry then
      emit (.bt .dword (.reg carry) (.imm 0))
    emit .cmc
    emit (.sbb .dword (.reg result) op_arg)
  if let some carry_inst := carry_inst then
    EraseInstruction carry_inst
    if let some carry := carry then
      emit (.setcc .nb (.reg carry))
  if let some overflow_inst := overflow_inst then
    EraseInstruction overflow_inst
    if let some overflow := overflow then
      emit (.setcc .o (.reg overflow))

end Dynarmic.BackendX64
