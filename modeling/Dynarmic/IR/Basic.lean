import Dynarmic.Arm.Types

/-!
# The IR the backend consumes

Opcodes, values, instructions, terminals and basic blocks. A block keeps its instructions in
an arena, an instruction's id being its index there, and the intrusive instruction list as
the ids still linked, in order; `EraseInstruction` unlinks an id.
-/

namespace Dynarmic.IR

/-- Modelled from the spec: `opcodes.inc` is not under src/. One opcode per `Emit*` member
of `EmitX64` in src/. -/
inductive Opcode where
  | Breakpoint | Identity | GetRegister | GetExtendedRegister32 | GetExtendedRegister64
  | SetRegister | SetExtendedRegister32 | SetExtendedRegister64 | GetCpsr | SetCpsr
  | GetNFlag | SetNFlag | GetZFlag | SetZFlag | GetCFlag | SetCFlag | GetVFlag | SetVFlag
  | OrQFlag | GetGEFlags | SetGEFlags | BXWritePC | CallSupervisor | GetFpscr | SetFpscr
  | GetFpscrNZCV | SetFpscrNZCV | PushRSB | GetCarryFromOp | GetOverflowFromOp | GetGEFromOp
  | Pack2x32To1x64 | LeastSignificantWord | MostSignificantWord | LeastSignificantHalf
  | LeastSignificantByte | MostSignificantBit | IsZero | IsZero64 | LogicalShiftLeft
  | LogicalShiftRight | LogicalShiftRight64 | ArithmeticShiftRight | RotateRight
  | RotateRightExtended | AddWithCarry | Add64 | SubWithCarry | Sub64 | Mul | Mul64 | And | Eor
  | Or | Not | SignExtendWordToLong | SignExtendHalfToWord | SignExtendByteToWord
  | ZeroExtendWordToLong | ZeroExtendHalfToWord | ZeroExtendByteToWord | ByteReverseWord
  | ByteReverseHalf | ByteReverseDual | CountLeadingZeros | SignedSaturatedAdd
  | SignedSaturatedSub | UnsignedSaturation | SignedSaturation | PackedAddU8 | PackedAddS8
  | PackedAddU16 | PackedAddS16 | PackedSubU8 | PackedSubS8 | PackedSubU16 | PackedSubS16
  | PackedHalvingAddU8 | PackedHalvingAddU16 | PackedHalvingAddS8 | PackedHalvingAddS16
  | PackedHalvingSubU8 | PackedHalvingSubS8 | PackedHalvingSubU16 | PackedHalvingSubS16
  | PackedHalvingSubAddU16 | PackedHalvingSubAddS16 | PackedSaturatedAddU8
  | PackedSaturatedAddS8 | PackedSaturatedSubU8 | PackedSaturatedSubS8 | PackedSaturatedAddU16
  | PackedSaturatedAddS16 | PackedSaturatedSubU16 | PackedSaturatedSubS16 | PackedAbsDiffSumS8
  | TransferFromFP32 | TransferFromFP64 | TransferToFP32 | TransferToFP64 | FPAbs32 | FPAbs64
  | FPNeg32 | FPNeg64 | FPAdd32 | FPAdd64 | FPDiv32 | FPDiv64 | FPMul32 | FPMul64 | FPSqrt32
  | FPSqrt64 | FPSub32 | FPSub64 | FPCompare32 | FPCompare64 | FPSingleToDouble
  | FPDoubleToSingle | FPSingleToS32 | FPSingleToU32 | FPDoubleToS32 | FPDoubleToU32
  | FPS32ToSingle | FPU32ToSingle | FPS32ToDouble | FPU32ToDouble | ClearExclusive
  | SetExclusive | ReadMemory8 | ReadMemory16 | ReadMemory32 | ReadMemory64 | WriteMemory8
  | WriteMemory16 | WriteMemory32 | WriteMemory64 | ExclusiveWriteMemory8
  | ExclusiveWriteMemory16 | ExclusiveWriteMemory32 | ExclusiveWriteMemory64
  | CoprocInternalOperation | CoprocSendOneWord | CoprocSendTwoWords | CoprocGetOneWord
  | CoprocGetTwoWords | CoprocLoadWords | CoprocStoreWords
  deriving DecidableEq, Repr

/-- The three pseudo-operations, which their producer's emitter consumes. -/
def Opcode.IsAPseudoOperation : Opcode → Bool
  | .GetCarryFromOp | .GetOverflowFromOp | .GetGEFromOp => true
  | _ => false

/-- An IR value: an immediate, or a reference to the instruction with the given id. -/
inductive Value where
  | Empty
  | U1 (v : Bool)
  | U8 (v : BitVec 8)
  | U32 (v : BitVec 32)
  | U64 (v : BitVec 64)
  | RegRef (r : Arm.Reg)
  | ExtRegRef (r : Arm.ExtReg)
  | CoprocInfo (info : List Nat)
  | Inst (id : Nat)
  deriving DecidableEq, Repr

/-- The IR types of the values the emitters compute on. -/
inductive Ty where
  | U1 | U8 | U32 | U64
  deriving DecidableEq, Repr

/-- Whether `v` can be a value of type `t`: an immediate of that type, or an instruction's
result. -/
def Value.Fits : Value → Ty → Bool
  | .U1 _, .U1 | .U8 _, .U8 | .U32 _, .U32 | .U64 _, .U64 | .Inst _, _ => true
  | _, _ => false

theorem Value.fits_U1 {v : Value} (h : v.Fits .U1) : (∃ b, v = .U1 b) ∨ ∃ i, v = .Inst i := by
  cases v <;> simp_all [Value.Fits]

theorem Value.fits_U8 {v : Value} (h : v.Fits .U8) : (∃ s, v = .U8 s) ∨ ∃ i, v = .Inst i := by
  cases v <;> simp_all [Value.Fits]

theorem Value.fits_U32 {v : Value} (h : v.Fits .U32) : (∃ x, v = .U32 x) ∨ ∃ i, v = .Inst i := by
  cases v <;> simp_all [Value.Fits]

def Value.IsImmediate : Value → Bool
  | .Inst _ => false
  | .Empty | .U1 _ | .U8 _ | .U32 _ | .U64 _ | .RegRef _ | .ExtRegRef _ | .CoprocInfo _ => true

@[simp] theorem Value.IsImmediate_Inst (i : Nat) : (Value.Inst i).IsImmediate = false := rfl
@[simp] theorem Value.IsImmediate_U1 (b : Bool) : (Value.U1 b).IsImmediate = true := rfl
@[simp] theorem Value.IsImmediate_U8 (v : BitVec 8) : (Value.U8 v).IsImmediate = true := rfl
@[simp] theorem Value.IsImmediate_U32 (v : BitVec 32) : (Value.U32 v).IsImmediate = true := rfl
@[simp] theorem Value.IsImmediate_U64 (v : BitVec 64) : (Value.U64 v).IsImmediate = true := rfl

/-- The instruction a non-immediate value refers to. -/
def Value.GetInst : Value → Nat
  | .Inst id => id
  | _ => 0

def Value.GetU1 : Value → Bool
  | .U1 v => v
  | _ => false

def Value.GetU8 : Value → BitVec 8
  | .U8 v => v
  | _ => 0

def Value.GetU32 : Value → BitVec 32
  | .U32 v => v
  | _ => 0

def Value.GetU64 : Value → BitVec 64
  | .U64 v => v
  | _ => 0

/-- An IR instruction: its opcode, its arguments and the number of uses of its result. -/
structure Inst where
  op : Opcode
  args : List Value
  use_count : Nat
  deriving DecidableEq, Repr

def Inst.GetArg (inst : Inst) (index : Nat) : Value := inst.args.getD index .Empty

/-- Modelled from the spec: `terminal.h` is not under src/. The terminals of §9, `If` and
`CheckHalt` nesting to any depth. -/
inductive Terminal where
  | Interpret (next : Arm.LocationDescriptor)
  | ReturnToDispatch
  | LinkBlock (next : Arm.LocationDescriptor)
  | LinkBlockFast (next : Arm.LocationDescriptor)
  | PopRSBHint
  | If (if_ : Arm.Cond) (then_ else_ : Terminal)
  | CheckHalt (else_ : Terminal)
  deriving DecidableEq, Repr

/-- A basic block. `insts` is the arena; `instructions` the ids of the instruction list. -/
structure Block where
  location : Arm.LocationDescriptor
  cond : Arm.Cond
  cond_failed : Option Arm.LocationDescriptor
  cond_failed_cycle_count : Nat
  insts : List Inst
  instructions : List Nat
  terminal : Terminal
  cycle_count : Nat
  deriving DecidableEq, Repr

namespace Block

def Location (b : Block) : Arm.LocationDescriptor := b.location

def GetCondition (b : Block) : Arm.Cond := b.cond

def HasConditionFailedLocation (b : Block) : Bool := b.cond_failed.isSome

def ConditionFailedLocation (b : Block) : Arm.LocationDescriptor :=
  b.cond_failed.getD b.location

def GetTerminal (b : Block) : Terminal := b.terminal

def CycleCount (b : Block) : Nat := b.cycle_count

def ConditionFailedCycleCount (b : Block) : Nat := b.cond_failed_cycle_count

/-- The instruction with id `i`. -/
def inst (b : Block) (i : Nat) : Inst := b.insts.getD i ⟨.Breakpoint, [], 0⟩

/-- Modelled from the spec (`microinstruction.cpp` is not under src/): the pseudo-operation
of opcode `kind` still in the instruction list whose argument is instruction `i`. -/
def GetAssociatedPseudoOperation (b : Block) (i : Nat) (kind : Opcode) : Option Nat :=
  b.instructions.find? fun j => (b.inst j).op = kind ∧ (b.inst j).GetArg 0 = .Inst i

/-- A pseudo-operation found for `i` has the kind asked for, takes `i` as its argument and is
still in the instruction list. -/
theorem GetAssociatedPseudoOperation_some {b : Block} {i j : Nat} {kind : Opcode}
    (h : b.GetAssociatedPseudoOperation i kind = some j) :
    (b.inst j).op = kind ∧ (b.inst j).GetArg 0 = .Inst i ∧ j ∈ b.instructions := by
  have hp := List.find?_some h
  simp only [decide_eq_true_eq] at hp
  exact ⟨hp.1, hp.2, List.mem_of_find?_eq_some h⟩

/-- A pseudo-operation found for an instruction of another opcode is another instruction. -/
theorem GetAssociatedPseudoOperation_ne {b : Block} {i j : Nat} {kind : Opcode}
    (other : (b.inst i).op ≠ kind) (h : b.GetAssociatedPseudoOperation i kind = some j) :
    i ≠ j := by
  rintro rfl
  exact other (GetAssociatedPseudoOperation_some h).1

/-- `EraseInstruction`: unlink `i` from the instruction list. -/
def erase (b : Block) (i : Nat) : Block := { b with instructions := b.instructions.erase i }

@[simp] theorem erase_insts (b : Block) (i : Nat) : (b.erase i).insts = b.insts := rfl

@[simp] theorem erase_instructions (b : Block) (i : Nat) :
    (b.erase i).instructions = b.instructions.erase i := rfl

@[simp] theorem erase_inst (b : Block) (i j : Nat) : (b.erase i).inst j = b.inst j := rfl

/-- Modelled from the spec: `Inst::ReplaceUsesWith`, which turns the instruction into an
`Identity` of the replacement. -/
def replaceUsesWith (b : Block) (i : Nat) (v : Value) : Block :=
  { b with insts := b.insts.set i ⟨.Identity, [v], (b.inst i).use_count⟩ }

/-- `ReplaceUsesWith` turns an instruction of the arena into an `Identity` of the value. -/
theorem inst_replaceUsesWith (b : Block) (i : Nat) (v : Value)
    (present : (b.inst i).op ≠ .Breakpoint) :
    (b.replaceUsesWith i v).inst i = ⟨.Identity, [v], (b.inst i).use_count⟩ := by
  have hi : i < b.insts.length := by
    by_contra h
    exact present (by simp [Block.inst, List.getElem?_eq_none (Nat.le_of_not_lt h)])
  simp [Block.replaceUsesWith, Block.inst, List.getD_eq_getElem?_getD, hi]

end Block

end Dynarmic.IR
