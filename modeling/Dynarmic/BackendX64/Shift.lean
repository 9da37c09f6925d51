import Dynarmic.BackendX64.EmitM
import Dynarmic.Arm.Pseudocode

/-!
# Shift emitters

`EmitLogicalShiftLeft`, `EmitLogicalShiftRight`, `EmitArithmeticShiftRight`, `EmitRotateRight`
and `EmitRotateRightExtended`. Each has an immediate-amount path and a path with the amount in
CL, with and without a `GetCarryFromOp` to produce. x86 masks a count by 31 and ARM does not,
so every path handles amounts of 32 and more by hand.
-/

namespace Dynarmic.BackendX64

open X64 IR EmitM

def EmitLogicalShiftLeft (inst : Nat) : EmitM Unit := do
  let carry_inst ← GetAssociatedPseudoOperation inst .GetCarryFromOp
  match carry_inst with
  | none =>
    let arg2 ← GetArg inst 2
    if !arg2.IsImmediate then
      DecrementRemainingUses arg2.GetInst
    let shift_arg ← GetArg inst 1
    if shift_arg.IsImmediate then
      let result ← UseDefGpr (← GetArg inst 0) inst
      let shift := shift_arg.GetU8.toNat
      if shift ≤ 31 then
        emit (.shl .dword (.reg result) (.imm shift))
      else
        emit (.xor_ .dword (.reg result) (.reg result))
    else
      let shift ← UseGpr shift_arg (some .rcx)
      let result ← UseDefGpr (← GetArg inst 0) inst
      let zero ← ScratchGpr
      emit (.shl .dword (.reg result) (.reg shift))
      emit (.xor_ .dword (.reg zero) (.reg zero))
      emit (.cmp .byte (.reg shift) (.imm 32))
      emit (.cmovcc .nb .dword result (.reg zero))
  | some carry_inst =>
    EraseInstruction carry_inst
    let shift_arg ← GetArg inst 1
    if shift_arg.IsImmediate then
      let shift := shift_arg.GetU8.toNat
      let result ← UseDefGpr (← GetArg inst 0) inst
      let carry ← UseDefGpr (← GetArg inst 2) carry_inst
      if shift = 0 then
        pure ()
      else if shift < 32 then
        emit (.bt .dword (.reg carry) (.imm 0))
        emit (.shl .dword (.reg result) (.imm shift))
        emit (.setcc .b (.reg carry))
      else if shift > 32 then
        emit (.xor_ .dword (.reg result) (.reg result))
        emit (.xor_ .dword (.reg carry) (.reg carry))
      else
        emit (.mov .dword (.reg carry) (.reg result))
        emit (.xor_ .dword (.reg result) (.reg result))
        emit (.and_ .dword (.reg carry) (.imm 1))
    else
      let shift ← UseGpr shift_arg (some .rcx)
      let result ← UseDefGpr (← GetArg inst 0) inst
      let carry ← UseDefGpr (← GetArg inst 2) carry_inst
      let scope ← inLocalLabel
      emit (.cmp .byte (.reg shift) (.imm 32))
      emit (.jcc .a (.label (.named scope ".Rs_gt32")))
      emit (.jcc .e (.label (.named scope ".Rs_eq32")))
      emit (.bt .dword (.reg carry) (.imm 0))
      emit (.shl .dword (.reg result) (.reg shift))
      emit (.setcc .b (.reg carry))
      emit (.jmp (.label (.named scope ".end")))
      L (.named scope ".Rs_gt32")
      emit (.xor_ .dword (.reg result) (.reg result))
      emit (.xor_ .dword (.reg carry) (.reg carry))
      emit (.jmp (.label (.named scope ".end")))
      L (.named scope ".Rs_eq32")
      emit (.mov .dword (.reg carry) (.reg result))
      emit (.and_ .dword (.reg carry) (.imm 1))
      emit (.xor_ .dword (.reg result) (.reg result))
      L (.named scope ".end")

def EmitLogicalShiftRight (inst : Nat) : EmitM Unit := do
  let carry_inst ← GetAssociatedPseudoOperation inst .GetCarryFromOp
  match carry_inst with
  | none =>
    let arg2 ← GetArg inst 2
    if !arg2.IsImmediate then
      DecrementRemainingUses arg2.GetInst
    let shift_arg ← GetArg inst 1
    if shift_arg.IsImmediate then
      let result ← UseDefGpr (← GetArg inst 0) inst
      let shift := shift_arg.GetU8.toNat
      if shift ≤ 31 then
        emit (.shr .dword (.reg result) (.imm shift))
      else
        emit (.xor_ .dword (.reg result) (.reg result))
    else
      let shift ← UseGpr shift_arg (some .rcx)
      let result ← UseDefGpr (← GetArg inst 0) inst
      let zero ← ScratchGpr
      emit (.shr .dword (.reg result) (.reg shift))
      emit (.xor_ .dword (.reg zero) (.reg zero))
      emit (.cmp .byte (.reg shift) (.imm 32))
      emit (.cmovcc .nb .dword result (.reg zero))
  | some carry_inst =>
    EraseInstruction carry_inst
    let shift_arg ← GetArg inst 1
    if shift_arg.IsImmediate then
      let shift := shift_arg.GetU8.toNat
      let result ← UseDefGpr (← GetArg inst 0) inst
      let carry ← UseDefGpr (← GetArg inst 2) carry_inst
      if shift = 0 then
        pure ()
      else if shift < 32 then
        emit (.shr .dword (.reg result) (.imm shift))
        emit (.setcc .b (.reg carry))
      else if shift = 32 then
        emit (.bt .dword (.reg result) (.imm 31))
        emit (.setcc .b (.reg carry))
        emit (.mov .dword (.reg result) (.imm 0))
      else
        emit (.xor_ .dword (.reg result) (.reg result))
        emit (.xor_ .dword (.reg carry) (.reg carry))
    else
      let shift ← UseGpr shift_arg (some .rcx)
      let result ← UseDefGpr (← GetArg inst 0) inst
      let carry ← UseDefGpr (← GetArg inst 2) carry_inst
      let scope ← inLocalLabel
      emit (.cmp .byte (.reg shift) (.imm 32))
      emit (.jcc .a (.label (.named scope ".Rs_gt32")))
      emit (.jcc .e (.label (.named scope ".Rs_eq32")))
      emit (.test .byte (.reg shift) (.reg shift))
      emit (.jcc .e (.label (.named scope ".end")))
      emit (.shr .dword (.reg result) (.reg shift))
      emit (.setcc .b (.reg carry))
      emit (.jmp (.label (.named scope ".end")))
      L (.named scope ".Rs_gt32")
      emit (.xor_ .dword (.reg result) (.reg result))
      emit (.xor_ .dword (.reg carry) (.reg carry))
      emit (.jmp (.label (.named scope ".end")))
      L (.named scope ".Rs_eq32")
      emit (.bt .dword (.reg result) (.imm 31))
      emit (.setcc .b (.reg carry))
      emit (.xor_ .dword (.reg result) (.reg result))
      L (.named scope ".end")

def EmitLogicalShiftRight64 (inst : Nat) : EmitM Unit := do
  let result ← UseDefGpr (← GetArg inst 0) inst
  let shift_arg ← GetArg inst 1
  assert shift_arg.IsImmediate "variable 64 bit shifts are not implemented"
  let shift := shift_arg.GetU8.toNat
  assert (shift < 64) "shift width clamping is not implemented"
  emit (.shr .qword (.reg result) (.imm shift))

def EmitArithmeticShiftRight (inst : Nat) : EmitM Unit := do
  let carry_inst ← GetAssociatedPseudoOperation inst .GetCarryFromOp
  match carry_inst with
  | none =>
    let arg2 ← GetArg inst 2
    if !arg2.IsImmediate then
      DecrementRemainingUses arg2.GetInst
    let shift_arg ← GetArg inst 1
    if shift_arg.IsImmediate then
      let shift := shift_arg.GetU8.toNat
      let result ← UseDefGpr (← GetArg inst 0) inst
      emit (.sar .dword (.reg result) (.imm (if shift < 31 then shift else 31)))
    else
      let shift ← UseScratchGpr shift_arg (some .rcx)
      let result ← UseDefGpr (← GetArg inst 0) inst
      let const31 ← ScratchGpr
      emit (.mov .dword (.reg const31) (.imm 31))
      emit (.movzx .dword shift .byte (.reg shift))
      emit (.cmp .dword (.reg shift) (.imm 31))
      emit (.cmovcc .g .dword shift (.reg const31))
      emit (.sar .dword (.reg result) (.reg shift))
  | some carry_inst =>
    EraseInstruction carry_inst
    let shift_arg ← GetArg inst 1
    if shift_arg.IsImmediate then
      let shift := shift_arg.GetU8.toNat
      let result ← UseDefGpr (← GetArg inst 0) inst
      let carry ← UseDefGpr (← GetArg inst 2) carry_inst
      if shift = 0 then
        pure ()
      else if shift ≤ 31 then
        emit (.sar .dword (.reg result) (.imm shift))
        emit (.setcc .b (.reg carry))
      else
        emit (.sar .dword (.reg result) (.imm 31))
        emit (.bt .dword (.reg result) (.imm 31))
        emit (.setcc .b (.reg carry))
    else
      let shift ← UseGpr shift_arg (some .rcx)
      let result ← UseDefGpr (← GetArg inst 0) inst
      let carry ← UseDefGpr (← GetArg inst 2) carry_inst
      let scope ← inLocalLabel
      emit (.cmp .byte (.reg shift) (.imm 31))
      emit (.jcc .a (.label (.named scope ".Rs_gt31")))
      emit (.test .byte (.reg shift) (.reg shift))
      emit (.jcc .e (.label (.named scope ".end")))
      emit (.sar .dword (.reg result) (.reg shift))
      emit (.setcc .b (.reg carry))
      emit (.jmp (.label (.named scope ".end")))
      L (.named scope ".Rs_gt31")
      emit (.sar .dword (.reg result) (.imm 31))
      emit (.bt .dword (.reg result) (.imm 31))
      emit (.setcc .b (.reg carry))
      L (.named scope ".end")

def EmitRotateRight (inst : Nat) : EmitM Unit := do
  let carry_inst ← GetAssociatedPseudoOperation inst .GetCarryFromOp
  match carry_inst with
  | none =>
    let arg2 ← GetArg inst 2
    if !arg2.IsImmediate then
      DecrementRemainingUses arg2.GetInst
    let shift_arg ← GetArg inst 1
    if shift_arg.IsImmediate then
      let shift := shift_arg.GetU8.toNat
      let result ← UseDefGpr (← GetArg inst 0) inst
      emit (.ror .dword (.reg result) (.imm (shift % 32)))
    else
      let shift ← UseGpr shift_arg (some .rcx)
      let result ← UseDefGpr (← GetArg inst 0) inst
      emit (.ror .dword (.reg result) (.reg shift))
  | some carry_inst =>
    EraseInstruction carry_inst
    let shift_arg ← GetArg inst 1
    if shift_arg.IsImmediate then
      let shift := shift_arg.GetU8.toNat
      let result ← UseDefGpr (← GetArg inst 0) inst
      let carry ← UseDefGpr (← GetArg inst 2) carry_inst
      if shift = 0 then
        pure ()
      else if shift % 32 = 0 then
        emit (.bt .dword (.reg result) (.imm 31))
        emit (.setcc .b (.reg carry))
      else
        emit (.ror .dword (.reg result) (.imm shift))
        emit (.setcc .b (.reg carry))
    else
      let shift ← UseScratchGpr shift_arg (some .rcx)
      let result ← UseDefGpr (← GetArg inst 0) inst
      let carry ← UseDefGpr (← GetArg inst 2) carry_inst
      let scope ← inLocalLabel
      emit (.test .byte (.reg shift) (.reg shift))
      emit (.jcc .e (.label (.named scope ".end")))
      emit (.and_ .dword (.reg shift) (.imm 0x1F))
      emit (.jcc .e (.label (.named scope ".zero_1F")))
      emit (.ror .dword (.reg result) (.reg shift))
      emit (.setcc .b (.reg carry))
      emit (.jmp (.label (.named scope ".end")))
      L (.named scope ".zero_1F")
      emit (.bt .dword (.reg result) (.imm 31))
      emit (.setcc .b (.reg carry))
      L (.named scope ".end")

def EmitRotateRightExtended (inst : Nat) : EmitM Unit := do
  let carry_inst ← GetAssociatedPseudoOperation inst .GetCarryFromOp
  let result ← UseDefGpr (← GetArg inst 0) inst
  let carry ← match carry_inst with
    | some carry_inst => UseDefGpr (← GetArg inst 1) carry_inst
    | none => UseGpr (← GetArg inst 1)
  emit (.bt .dword (.reg carry) (.imm 0))
  emit (.rcr .dword (.reg result) (.imm 1))
  match carry_inst with
  | some carry_inst =>
    EraseInstruction carry_inst
    emit (.setcc .b (.reg carry))
  | none => pure ()

end Dynarmic.BackendX64
