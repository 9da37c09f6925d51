import Dynarmic.BackendX64.EmitM

/-!
# Block prelude, cycle accounting and terminals

`EmitCond` tests an ARM condition on the guest CPSR and jumps to the label it returns when the
condition passes. `EmitCondPrelude` uses it to skip a block whose condition fails,
`EmitAddCycles` charges a block's cycles to `cycles_remaining`, and `EmitTerminal` writes the
code that leaves a block, recursing through `If` and `CheckHalt`. The `JG`, `JMP` and
`MOV RCX` patch sites a terminal records are written by `EmitPatchJg`, `EmitPatchJmp` and
`EmitPatchMovRcx`, each padded to a fixed size so that `Patch` can rewrite it in place.
-/

namespace Dynarmic.BackendX64

open X64 IR EmitM

def EmitAddCycles (cycles : Nat) : EmitM Unit := do
  assert (cycles < 2 ^ 32 - 1) "cycles < std::numeric_limits<u32>::max()"
  emit (.sub .qword (.mem .cyclesRemaining) (.imm (cycles % 2 ^ 32)))

def n_shift : Nat := 31
def z_shift : Nat := 30
def c_shift : Nat := 29
def v_shift : Nat := 28
def n_mask : Nat := 1 <<< n_shift
def z_mask : Nat := 1 <<< z_shift
def c_mask : Nat := 1 <<< c_shift
def v_mask : Nat := 1 <<< v_shift

/-- The code that tests `cond` on the guest CPSR, loaded into `eax`: it jumps to the returned
label when the condition passes and falls through when it fails. `AL` and `NV` fail the
assertion. -/
def EmitCond (cond : Arm.Cond) : EmitM Label := do
  let label ← newLabel
  let cpsr : Gpr := .rax
  emit (.mov .dword (.reg cpsr) (.mem .cpsr))
  match cond with
  | .EQ => --z
    emit (.test .dword (.reg cpsr) (.imm z_mask))
    emit (.jcc .ne (.label label))
  | .NE => --!z
    emit (.test .dword (.reg cpsr) (.imm z_mask))
    emit (.jcc .e (.label label))
  | .CS => --c
    emit (.test .dword (.reg cpsr) (.imm c_mask))
    emit (.jcc .ne (.label label))
  | .CC => --!c
    emit (.test .dword (.reg cpsr) (.imm c_mask))
    emit (.jcc .e (.label label))
  | .MI => --n
    emit (.test .dword (.reg cpsr) (.imm n_mask))
    emit (.jcc .ne (.label label))
  | .PL => --!n
    emit (.test .dword (.reg cpsr) (.imm n_mask))
    emit (.jcc .e (.label label))
  | .VS => --v
    emit (.test .dword (.reg cpsr) (.imm v_mask))
    emit (.jcc .ne (.label label))
  | .VC => --!v
    emit (.test .dword (.reg cpsr) (.imm v_mask))
    emit (.jcc .e (.label label))
  | .HI => --c & !z
    emit (.and_ .dword (.reg cpsr) (.imm (z_mask ||| c_mask)))
    emit (.cmp .dword (.reg cpsr) (.imm c_mask))
    emit (.jcc .e (.label label))
  | .LS => --!c | z
    emit (.and_ .dword (.reg cpsr) (.imm (z_mask ||| c_mask)))
    emit (.cmp .dword (.reg cpsr) (.imm c_mask))
    emit (.jcc .ne (.label label))
  | .GE => -- n == v
    emit (.and_ .dword (.reg cpsr) (.imm (n_mask ||| v_mask)))
    emit (.jcc .e (.label label))
    emit (.cmp .dword (.reg cpsr) (.imm (n_mask ||| v_mask)))
    emit (.jcc .e (.label label))
  | .LT => -- n != v
    let fail ← newLabel
    emit (.and_ .dword (.reg cpsr) (.imm (n_mask ||| v_mask)))
    emit (.jcc .e (.label fail))
    emit (.cmp .dword (.reg cpsr) (.imm (n_mask ||| v_mask)))
    emit (.jcc .ne (.label label))
    L fail
  | .GT => -- !z & (n == v)
    let tmp1 : Gpr := .rbx
    let tmp2 : Gpr := .rsi
    emit (.mov .dword (.reg tmp1) (.reg cpsr))
    emit (.mov .dword (.reg tmp2) (.reg cpsr))
    emit (.shr .dword (.reg tmp1) (.imm n_shift))
    emit (.shr .dword (.reg tmp2) (.imm v_shift))
    emit (.shr .dword (.reg cpsr) (.imm z_shift))
    emit (.xor_ .dword (.reg tmp1) (.reg tmp2))
    emit (.or_ .dword (.reg tmp1) (.reg cpsr))
    emit (.test .dword (.reg tmp1) (.imm 1))
    emit (.jcc .e (.label label))
  | .LE => -- z | (n != v)
    let tmp1 : Gpr := .rbx
    let tmp2 : Gpr := .rsi
    emit (.mov .dword (.reg tmp1) (.reg cpsr))
    emit (.mov .dword (.reg tmp2) (.reg cpsr))
    emit (.shr .dword (.reg tmp1) (.imm n_shift))
    emit (.shr .dword (.reg tmp2) (.imm v_shift))
    emit (.shr .dword (.reg cpsr) (.imm z_shift))
    emit (.xor_ .dword (.reg tmp1) (.reg tmp2))
    emit (.or_ .dword (.reg tmp1) (.reg cpsr))
    emit (.test .dword (.reg tmp1) (.imm 1))
    emit (.jcc .ne (.label label))
  | .AL | .NV => assert false "Unknown cond"
  return label

/-- `GetBasicBlock`: the entry of the block emitted for a location, if there is one. -/
def GetBasicBlock (descriptor : Arm.LocationDescriptor) : EmitM (Option BlockDescriptor) := do
  return (← env).block_descriptors descriptor.UniqueHash

def EmitPatchJg (target_code_ptr : Option (BitVec 64)) : EmitM Unit := do
  let patch_location ← getCurr
  if let some target := target_code_ptr then
    emit (.jcc .g (.ptr target))
  EnsurePatchLocationSize patch_location 6

def EmitPatchJmp (target_desc : Arm.LocationDescriptor) (target_code_ptr : Option (BitVec 64)) :
    EmitM Unit := do
  let patch_location ← getCurr
  match target_code_ptr with
  | some target => emit (.jmp (.ptr target))
  | none =>
    emit (.mov .dword (.mem (.reg Arm.Reg.PC)) (.imm target_desc.PC.toNat))
    emit (.jmp (.ptr (← env).ReturnFromRunCodeAddress))
  EnsurePatchLocationSize patch_location 13

def EmitPatchMovRcx (target_code_ptr : Option (BitVec 64)) : EmitM Unit := do
  let target := target_code_ptr.getD (← env).ReturnFromRunCodeAddress
  let patch_location ← getCurr
  emit (.mov .qword (.reg .rcx) (.imm target.toNat))
  EnsurePatchLocationSize patch_location 10

/-- The CPSR update `LinkBlock` and `LinkBlockFast` both begin with: set T (bit 5) and E
(bit 9) to the target's where they differ from the initial location's. -/
def EmitLinkFlags (next initial_location : Arm.LocationDescriptor) : EmitM Unit := do
  if next.TFlag ≠ initial_location.TFlag then
    if next.TFlag then
      emit (.or_ .dword (.mem .cpsr) (.imm (1 <<< 5)))
    else
      emit (.and_ .dword (.mem .cpsr) (.imm ((~~~(1 <<< 5 : BitVec 32)).toNat)))
  if next.EFlag ≠ initial_location.EFlag then
    if next.EFlag then
      emit (.or_ .dword (.mem .cpsr) (.imm (1 <<< 9)))
    else
      emit (.and_ .dword (.mem .cpsr) (.imm ((~~~(1 <<< 9 : BitVec 32)).toNat)))

def EmitTerminal : Terminal → Arm.LocationDescriptor → EmitM Unit
  | .Interpret next, initial_location => do
    assert (next.TFlag = initial_location.TFlag) "Unimplemented"
    assert (next.EFlag = initial_location.EFlag) "Unimplemented"
    let e ← env
    emit (.mov .dword (.reg ABI_PARAM1) (.imm next.PC.toNat))
    emit (.mov .qword (.reg ABI_PARAM2) (.imm e.jit_interface.toNat))
    emit (.mov .qword (.reg ABI_PARAM3) (.imm e.user_arg.toNat))
    emit (.mov .dword (.mem (.reg Arm.Reg.PC)) (.reg ABI_PARAM1))
    emit .SwitchMxcsrOnExit
    emit (.CallFunction .InterpreterFallback)
    emit (.ReturnFromRunCode false) -- TODO: Check cycles
  | .ReturnToDispatch, _ => emit (.ReturnFromRunCode true)
  | .LinkBlock next, initial_location => do
    EmitLinkFlags next initial_location
    emit (.cmp .qword (.mem .cyclesRemaining) (.imm 0))
    recordPatch next.UniqueHash fun p info => { info with jg := info.jg ++ [p] }
    EmitPatchJg ((← GetBasicBlock next).map BlockDescriptor.code_ptr)
    emit (.mov .dword (.mem (.reg Arm.Reg.PC)) (.imm next.PC.toNat))
    emit (.ReturnFromRunCode true) -- TODO: Check cycles, Properly do a link
  | .LinkBlockFast next, initial_location => do
    EmitLinkFlags next initial_location
    recordPatch next.UniqueHash fun p info => { info with jmp := info.jmp ++ [p] }
    EmitPatchJmp next ((← GetBasicBlock next).map BlockDescriptor.code_ptr)
  | .PopRSBHint, _ => do
    -- This calculation has to match up with IREmitter::PushRSB
    let e ← env
    emit (.mov .dword (.reg .rbx) (.mem .cpsr))
    emit (.mov .dword (.reg .rcx) (.mem (.reg Arm.Reg.PC)))
    emit (.and_ .dword (.reg .rbx) (.imm ((1 <<< 5) ||| (1 <<< 9))))
    emit (.shr .dword (.reg .rbx) (.imm 2))
    emit (.or_ .dword (.reg .rbx) (.mem .fpscrMode))
    emit (.shl .qword (.reg .rbx) (.imm 32))
    emit (.or_ .qword (.reg .rbx) (.reg .rcx))
    emit (.mov .qword (.reg .rax) (.imm e.ReturnFromRunCodeAddress.toNat))
    (List.range e.RSBSize).forM fun i => do
      emit (.cmp .qword (.reg .rbx) (.mem (.rsbLocationDescriptor i)))
      emit (.cmovcc .e .qword .rax (.mem (.rsbCodeptr i)))
    emit (.jmp (.reg .rax))
  | .If if_ then_ else_, initial_location => do
    let pass ← EmitCond if_
    EmitTerminal else_ initial_location
    L pass
    EmitTerminal then_ initial_location
  | .CheckHalt else_, initial_location => do
    emit (.cmp .byte (.mem .haltRequested) (.imm 0))
    emit (.jcc .ne (.ptr (← env).ReturnFromRunCodeAddress))
    EmitTerminal else_ initial_location

def EmitCondPrelude (block : Block) : EmitM Unit := do
  if block.GetCondition = .AL then
    assert (!block.HasConditionFailedLocation) "!block.HasConditionFailedLocation()"
  else
    assert block.HasConditionFailedLocation "block.HasConditionFailedLocation()"
    let pass ← EmitCond block.GetCondition
    EmitAddCycles block.ConditionFailedCycleCount
    EmitTerminal (.LinkBlock block.ConditionFailedLocation) block.Location
    L pass

end Dynarmic.BackendX64
