import Dynarmic.BackendX64.EmitM

/-!
# Packed emitters

The parallel add and subtract instructions on a general-purpose register, lane by lane.
`EmitPackedHalvingAddU8/U16/S8/S16` halve a sum as `(x&y) + ((x^y)>>1)`, masking the shifted
term so that no lane's low bit leaks into the lane below; `EmitPackedHalvingAddU8` works in an
XMM register instead when the CPU has SSSE3.
`EmitPackedHalvingSubU8/S8/U16/S16` halve a difference with a partitioned subtraction: each
lane's top bit is set before the subtraction, so that a borrow stops there, and flipped back
after. `EmitPackedHalvingSubAddU16/S16` split the operands into halfwords and recombine the
halved sum and difference with `SHLD`.
-/

namespace Dynarmic.BackendX64

open X64 IR EmitM

/-- The general-purpose path of `EmitPackedHalvingAddU8` and all of `EmitPackedHalvingAddU16`,
which differ only in the `mask` that keeps each lane's low bit out of the lane below. -/
def EmitPackedHalvingAddU (mask : Nat) (inst : Nat) : EmitM Unit := do
  let a ← GetArg inst 0
  let b ← GetArg inst 1
  let reg_a ← UseDefGpr a inst
  let reg_b ← UseGpr b
  let xor_a_b ← ScratchGpr
  let and_a_b := reg_a
  let result := reg_a
  -- This relies on the equality x+y == ((x&y) << 1) + (x^y).
  emit (.mov .dword (.reg xor_a_b) (.reg reg_a))
  emit (.and_ .dword (.reg and_a_b) (.reg reg_b))
  emit (.xor_ .dword (.reg xor_a_b) (.reg reg_b))
  emit (.shr .dword (.reg xor_a_b) (.imm 1))
  emit (.and_ .dword (.reg xor_a_b) (.imm mask))
  emit (.add .dword (.reg result) (.reg xor_a_b))

/-- With SSSE3, each byte is widened to a word lane of an XMM register by `PSHUFB`, the lanes
are added and halved there, and the bytes are gathered back. -/
def EmitPackedHalvingAddU8 (inst : Nat) : EmitM Unit := do
  let a ← GetArg inst 0
  let b ← GetArg inst 1
  if ← cpuHas .tSSSE3 then
    let result ← UseDefGpr a inst
    let arg ← UseGpr b
    let xmm_scratch_a ← ScratchXmm
    let xmm_scratch_b ← ScratchXmm
    let xmm_mask ← ScratchXmm
    let mask ← ScratchGpr
    emit (.movd (.xmm xmm_scratch_a) (.reg result))
    emit (.movd (.xmm xmm_scratch_b) (.reg arg))
    -- 0xAABBCCDD becomes 0x00AA00BB00CC00DD
    emit (.mov .qword (.reg mask) (.imm 0x8003800280018000))
    emit (.movq (.xmm xmm_mask) (.reg mask))
    emit (.pshufb xmm_scratch_a xmm_mask)
    emit (.pshufb xmm_scratch_b xmm_mask)
    emit (.paddw xmm_scratch_a xmm_scratch_b)
    emit (.psrlw xmm_scratch_a 1)
    -- 0x00AA00BB00CC00DD becomes 0xAABBCCDD
    emit (.mov .qword (.reg mask) (.imm 0x06040200))
    emit (.movq (.xmm xmm_mask) (.reg mask))
    emit (.pshufb xmm_scratch_a xmm_mask)
    emit (.movd (.reg result) (.xmm xmm_scratch_a))
  else
    EmitPackedHalvingAddU 0x7F7F7F7F inst

def EmitPackedHalvingAddU16 : Nat → EmitM Unit := EmitPackedHalvingAddU 0x7FFF7FFF

/-- `EmitPackedHalvingAddS8` and `EmitPackedHalvingAddS16`, which pass only their `mask`: the
sign of each lane is restored by xor-ing in `carry`, the top bit of every byte of `x^y`. -/
def EmitPackedHalvingAddSHelper (mask : Nat) (inst : Nat) : EmitM Unit := do
  let a ← GetArg inst 0
  let b ← GetArg inst 1
  let reg_a ← UseDefGpr a inst
  let reg_b ← UseGpr b
  let xor_a_b ← ScratchGpr
  let and_a_b := reg_a
  let result := reg_a
  let carry ← ScratchGpr
  emit (.mov .dword (.reg xor_a_b) (.reg reg_a))
  emit (.and_ .dword (.reg and_a_b) (.reg reg_b))
  emit (.xor_ .dword (.reg xor_a_b) (.reg reg_b))
  emit (.mov .dword (.reg carry) (.reg xor_a_b))
  emit (.and_ .dword (.reg carry) (.imm 0x80808080))
  emit (.shr .dword (.reg xor_a_b) (.imm 1))
  emit (.and_ .dword (.reg xor_a_b) (.imm mask))
  emit (.add .dword (.reg result) (.reg xor_a_b))
  emit (.xor_ .dword (.reg result) (.reg carry))

def EmitPackedHalvingAddS8 : Nat → EmitM Unit := EmitPackedHalvingAddSHelper 0x7F7F7F7F

def EmitPackedHalvingAddS16 : Nat → EmitM Unit := EmitPackedHalvingAddSHelper 0x7FFF7FFF

/-- `EmitPackedHalvingSubU8` and `EmitPackedHalvingSubU16`, which differ only in the `mask` of
their lanes' top bits. -/
def EmitPackedHalvingSubU (mask : Nat) (inst : Nat) : EmitM Unit := do
  let a ← GetArg inst 0
  let b ← GetArg inst 1
  let minuend ← UseDefGpr a inst
  let subtrahend ← UseScratchGpr b
  -- This relies on the equality x-y == (x^y) - (((x^y)&y) << 1).
  emit (.xor_ .dword (.reg minuend) (.reg subtrahend))
  emit (.and_ .dword (.reg subtrahend) (.reg minuend))
  emit (.shr .dword (.reg minuend) (.imm 1))
  -- We use the extra bit in minuend as a bit to borrow from; we set this bit.
  emit (.or_ .dword (.reg minuend) (.imm mask))
  emit (.sub .dword (.reg minuend) (.reg subtrahend))
  emit (.xor_ .dword (.reg minuend) (.imm mask))

def EmitPackedHalvingSubU8 : Nat → EmitM Unit := EmitPackedHalvingSubU 0x80808080

def EmitPackedHalvingSubU16 : Nat → EmitM Unit := EmitPackedHalvingSubU 0x80008000

/-- `EmitPackedHalvingSubS8` and `EmitPackedHalvingSubS16`, which differ only in the `mask` of
their lanes' top bits. -/
def EmitPackedHalvingSubS (mask : Nat) (inst : Nat) : EmitM Unit := do
  let a ← GetArg inst 0
  let b ← GetArg inst 1
  let minuend ← UseDefGpr a inst
  let subtrahend ← UseScratchGpr b
  let carry ← ScratchGpr
  emit (.xor_ .dword (.reg minuend) (.reg subtrahend))
  emit (.and_ .dword (.reg subtrahend) (.reg minuend))
  emit (.mov .dword (.reg carry) (.reg minuend))
  emit (.and_ .dword (.reg carry) (.imm mask))
  emit (.shr .dword (.reg minuend) (.imm 1))
  emit (.or_ .dword (.reg minuend) (.imm mask))
  emit (.sub .dword (.reg minuend) (.reg subtrahend))
  emit (.xor_ .dword (.reg minuend) (.imm mask))
  -- We then sign extend the result into this bit.
  emit (.xor_ .dword (.reg minuend) (.reg carry))

def EmitPackedHalvingSubS8 : Nat → EmitM Unit := EmitPackedHalvingSubS 0x80808080

def EmitPackedHalvingSubS16 : Nat → EmitM Unit := EmitPackedHalvingSubS 0x80008000

/-- `EmitPackedHalvingSubAddU16` and `EmitPackedHalvingSubAddS16`, which differ only in how
they split the operands into halfwords: `extend` is `MOVZX` or `MOVSX` and `shift` is `SHR`
or `SAR`. -/
def EmitPackedHalvingSubAdd16 (extend : Width → Gpr → Width → Operand → Instr)
    (shift : Width → Operand → Operand → Instr) (inst : Nat) : EmitM Unit := do
  let a ← GetArg inst 0
  let b ← GetArg inst 1
  -- If asx is true, the high word contains the sum and the low word the difference.
  -- If false, the high word contains the difference and the low word the sum.
  let asx := (← GetArg inst 2).GetU1
  let reg_a_hi ← UseDefGpr a inst
  let reg_b_hi ← UseScratchGpr b
  let reg_a_lo ← ScratchGpr
  let reg_b_lo ← ScratchGpr
  emit (extend .dword reg_a_lo .word (.reg reg_a_hi))
  emit (extend .dword reg_b_lo .word (.reg reg_b_hi))
  emit (shift .dword (.reg reg_a_hi) (.imm 16))
  emit (shift .dword (.reg reg_b_hi) (.imm 16))
  if asx then
    -- Calculate diff such that reg_a_lo<31:16> contains diff<16:1>.
    emit (.sub .dword (.reg reg_a_lo) (.reg reg_b_hi))
    emit (.shl .dword (.reg reg_a_lo) (.imm 15))
    -- Calculate sum such that reg_a_hi<15:0> contains sum<16:1>.
    emit (.add .dword (.reg reg_a_hi) (.reg reg_b_lo))
    emit (.shr .dword (.reg reg_a_hi) (.imm 1))
  else
    -- Calculate sum such that reg_a_lo<31:16> contains sum<16:1>.
    emit (.add .dword (.reg reg_a_lo) (.reg reg_b_hi))
    emit (.shl .dword (.reg reg_a_lo) (.imm 15))
    -- Calculate diff such that reg_a_hi<15:0> contains diff<16:1>.
    emit (.sub .dword (.reg reg_a_hi) (.reg reg_b_lo))
    emit (.shr .dword (.reg reg_a_hi) (.imm 1))
  -- reg_a_lo now contains the low word and reg_a_hi now contains the high word.
  emit (.shld .dword reg_a_hi reg_a_lo 16)

def EmitPackedHalvingSubAddU16 : Nat → EmitM Unit := EmitPackedHalvingSubAdd16 .movzx .shr

def EmitPackedHalvingSubAddS16 : Nat → EmitM Unit := EmitPackedHalvingSubAdd16 .movsx .sar

end Dynarmic.BackendX64
