import Dynarmic.X64.Instr
import Dynarmic.IR.Basic

/-!
# The emitter monad

`EmitX64` emits a block by calling the code buffer, the register allocator and the block.
`EmitM` threads the three: the code buffer as a cursor and a log of what was written where,
the allocator as the list of its requests, and the block being emitted. A failed `ASSERT`
is an `Except.error`.
-/

namespace Dynarmic.BackendX64

open X64 IR

/-- CPU features the emitters test with `cpu_info.has`. -/
inductive CpuFeature where
  | tLZCNT | tBMI2 | tSSSE3
  deriving DecidableEq, Repr

/-- Modelled from the spec: `reg_alloc.h` is not under src/. One request to the register
allocator, with the values it consumes a use of and the instructions it defines. -/
inductive AllocCall where
  | UseGpr (v : Value) (loc : Option Gpr)
  | UseXmm (v : Value)
  | UseOpArg (v : Value)
  | UseScratchGpr (v : Value) (loc : Option Gpr)
  | UseScratchXmm (v : Value)
  | UseDefGpr (v : Value) (def_inst : Nat)
  | UseDefXmm (v : Value) (def_inst : Nat)
  | UseDefOpArgGpr (v : Value) (def_inst : Nat)
  | DefGpr (def_inst : Nat) (loc : Option Gpr)
  | DefXmm (def_inst : Nat)
  | ScratchGpr (loc : Option Gpr)
  | ScratchXmm
  | HostCall (ret : Option Nat) (args : List Value)
  | RegisterAddDef (def_inst : Nat) (v : Value)
  | DecrementRemainingUses (i : Nat)
  deriving DecidableEq, Repr

/-- A request whose binding the emitter may only read. -/
def AllocCall.ReadOnly : AllocCall → Bool
  | .UseGpr .. | .UseXmm _ | .UseOpArg _ => true
  | _ => false

structure BlockDescriptor where
  code_ptr : BitVec 64
  size : Nat
  deriving DecidableEq, Repr

/-- The sites recorded for one target location: `JG`, `JMP` and `MOV RCX` patch sites. -/
structure PatchInformation where
  jg : List Nat
  jmp : List Nat
  mov_rcx : List Nat
  deriving DecidableEq, Repr

/-- What emission reads and never changes: the host CPU, the callbacks, the blocks emitted
before this one, the dispatcher's return address, the length the assembler encodes each
instruction in, the pointers handed to the interpreter fallback, and the number of RSB
entries. -/
structure EmitEnv where
  cpu_info : CpuFeature → Bool
  page_table : Bool
  block_descriptors : BitVec 64 → Option BlockDescriptor
  ReturnFromRunCodeAddress : BitVec 64
  size : Instr → Nat
  jit_interface : BitVec 64
  user_arg : BitVec 64
  /-- Modelled from the spec: `JitState::RSBSize`, a power of two. -/
  RSBSize : Nat

structure EmitState where
  /-- `code->getCurr()`. -/
  cur : Nat
  /-- What was written to the code buffer, in order, with its address. -/
  log : List (Nat × Instr)
  patch_information : BitVec 64 → PatchInformation
  /-- Requests to the register allocator, in order. -/
  calls : List AllocCall
  block : Block
  labels : Nat

/-- An emission step: it reads the environment and updates the emission state, or fails an
`ASSERT`. -/
def EmitM (α : Type) : Type := EmitEnv → EmitState → Except String (α × EmitState)

namespace EmitM

instance : Monad EmitM where
  pure a := fun _ s => .ok (a, s)
  bind x f := fun env s => match x env s with
    | .ok (a, s') => f a env s'
    | .error e => .error e

instance : MonadExceptOf String EmitM where
  throw e := fun _ _ => .error e
  tryCatch x h := fun env s => match x env s with
    | .ok r => .ok r
    | .error e => h e env s

@[simp] theorem pure_apply (a : α) (env : EmitEnv) (s : EmitState) :
    (pure a : EmitM α) env s = .ok (a, s) := rfl

@[simp] theorem bind_apply (x : EmitM α) (f : α → EmitM β) (env : EmitEnv) (s : EmitState) :
    (x >>= f) env s = match x env s with
      | .ok (a, s') => f a env s'
      | .error e => .error e := rfl

/-- `code->foo(...)`: write one instruction at the cursor. -/
def emit (i : Instr) : EmitM Unit := fun env s =>
  .ok ((), { s with cur := s.cur + env.size i, log := s.log ++ [(s.cur, i)] })

/-- `code->L(label)`: place a label at the cursor; it takes no bytes. -/
def L (l : Label) : EmitM Unit := fun _ s => .ok ((), { s with log := s.log ++ [(s.cur, .L l)] })

def getCurr : EmitM Nat := fun _ s => .ok (s.cur, s)

/-- `ASSERT(c)`. -/
def assert (c : Bool) (msg : String) : EmitM Unit := fun _ s =>
  if c then .ok ((), s) else .error msg

/-- A fresh `Xbyak::Label`, or a fresh scope of named local labels. -/
def newLabel : EmitM Label := fun _ s => .ok (.fresh s.labels, { s with labels := s.labels + 1 })

def inLocalLabel : EmitM Nat := fun _ s => .ok (s.labels, { s with labels := s.labels + 1 })

/-- Record an allocator request; its binding is register number `calls.length`. -/
def request (c : AllocCall) : EmitM Nat := fun _ s =>
  .ok (s.calls.length, { s with calls := s.calls ++ [c] })

def env : EmitM EmitEnv := fun env s => .ok (env, s)

def block : EmitM Block := fun _ s => .ok (s.block, s)

def setBlock (b : Block) : EmitM Unit := fun _ s => .ok ((), { s with block := b })

/-- `patch_information[hash].<list>.emplace_back(code->getCurr())`: record the cursor as a
patch site of `hash`, with `add` naming the list. -/
def recordPatch (hash : BitVec 64) (add : Nat → PatchInformation → PatchInformation) :
    EmitM Unit := fun _ s =>
  let info := Function.update s.patch_information hash (add s.cur (s.patch_information hash))
  .ok ((), { s with patch_information := info })

/-- Modelled from the spec: `BlockOfCode::EnsurePatchLocationSize`, which pads the code written
since `begin` with `NOP`s to exactly `size` bytes, and asserts it is not already longer. -/
def EnsurePatchLocationSize (begin size : Nat) : EmitM Unit := fun _ s =>
  if s.cur - begin ≤ size then
    .ok ((), { s with cur := begin + size, log := s.log ++ [(s.cur, .nop)] })
  else .error "current_size <= size"

@[simp] theorem emit_apply (i : Instr) (env : EmitEnv) (s : EmitState) :
    emit i env s = .ok ((), { s with cur := s.cur + env.size i, log := s.log ++ [(s.cur, i)] }) :=
  rfl

@[simp] theorem L_apply (l : Label) (env : EmitEnv) (s : EmitState) :
    L l env s = .ok ((), { s with log := s.log ++ [(s.cur, .L l)] }) := rfl

@[simp] theorem getCurr_apply (env : EmitEnv) (s : EmitState) : getCurr env s = .ok (s.cur, s) :=
  rfl

@[simp] theorem assert_apply (c : Bool) (msg : String) (env : EmitEnv) (s : EmitState) :
    assert c msg env s = if c then .ok ((), s) else .error msg := rfl

@[simp] theorem newLabel_apply (env : EmitEnv) (s : EmitState) :
    newLabel env s = .ok (.fresh s.labels, { s with labels := s.labels + 1 }) := rfl

@[simp] theorem inLocalLabel_apply (env : EmitEnv) (s : EmitState) :
    inLocalLabel env s = .ok (s.labels, { s with labels := s.labels + 1 }) := rfl

@[simp] theorem request_apply (c : AllocCall) (env : EmitEnv) (s : EmitState) :
    request c env s = .ok (s.calls.length, { s with calls := s.calls ++ [c] }) := rfl

@[simp] theorem env_apply (env : EmitEnv) (s : EmitState) : EmitM.env env s = .ok (env, s) := rfl

@[simp] theorem block_apply (env : EmitEnv) (s : EmitState) : block env s = .ok (s.block, s) := rfl

@[simp] theorem setBlock_apply (b : Block) (env : EmitEnv) (s : EmitState) :
    setBlock b env s = .ok ((), { s with block := b }) := rfl

@[simp] theorem recordPatch_apply (hash : BitVec 64) (add : Nat → PatchInformation → PatchInformation)
    (env : EmitEnv) (s : EmitState) :
    recordPatch hash add env s =
      let info := Function.update s.patch_information hash (add s.cur (s.patch_information hash))
      .ok ((), { s with patch_information := info }) := rfl

end EmitM

open EmitM

/-! ### The allocator's interface -/

def UseGpr (v : Value) (loc : Option Gpr := none) : EmitM Gpr := do
  let n ← request (.UseGpr v loc); return loc.getD (.alloc n)

def UseXmm (v : Value) : EmitM Xmm := do
  let n ← request (.UseXmm v); return .alloc n

def UseOpArg (v : Value) : EmitM Operand := do
  let n ← request (.UseOpArg v); return .reg (.alloc n)

def UseScratchGpr (v : Value) (loc : Option Gpr := none) : EmitM Gpr := do
  let n ← request (.UseScratchGpr v loc); return loc.getD (.alloc n)

def UseScratchXmm (v : Value) : EmitM Xmm := do
  let n ← request (.UseScratchXmm v); return .alloc n

def UseDefGpr (v : Value) (def_inst : Nat) : EmitM Gpr := do
  let n ← request (.UseDefGpr v def_inst); return .alloc n

def UseDefXmm (v : Value) (def_inst : Nat) : EmitM Xmm := do
  let n ← request (.UseDefXmm v def_inst); return .alloc n

/-- `UseDefOpArgGpr`: the source operand and the register defined as `def_inst`. -/
def UseDefOpArgGpr (v : Value) (def_inst : Nat) : EmitM (Operand × Gpr) := do
  let n ← request (.UseDefOpArgGpr v def_inst); return (.reg (.alloc n), .alloc n)

def DefGpr (def_inst : Nat) (loc : Option Gpr := none) : EmitM Gpr := do
  let n ← request (.DefGpr def_inst loc); return loc.getD (.alloc n)

def DefXmm (def_inst : Nat) : EmitM Xmm := do
  let n ← request (.DefXmm def_inst); return .alloc n

def ScratchGpr (loc : Option Gpr := none) : EmitM Gpr := do
  let n ← request (.ScratchGpr loc); return loc.getD (.alloc n)

def ScratchXmm : EmitM Xmm := do
  let n ← request .ScratchXmm; return .alloc n

def HostCall (ret : Option Nat) (args : List Value) : EmitM Unit := do
  let _ ← request (.HostCall ret args)

def RegisterAddDef (def_inst : Nat) (v : Value) : EmitM Unit := do
  let _ ← request (.RegisterAddDef def_inst v)

def DecrementRemainingUses (i : Nat) : EmitM Unit := do
  let _ ← request (.DecrementRemainingUses i)

/-! ### The block's interface -/

def GetArg (inst index : Nat) : EmitM Value := do return ((← block).inst inst).GetArg index

def GetAssociatedPseudoOperation (inst : Nat) (kind : Opcode) : EmitM (Option Nat) := do
  return (← block).GetAssociatedPseudoOperation inst kind

/-- `EraseInstruction(block, inst)`. -/
def EraseInstruction (inst : Nat) : EmitM Unit := do setBlock ((← block).erase inst)

def ReplaceUsesWith (inst : Nat) (v : Value) : EmitM Unit := do
  setBlock ((← block).replaceUsesWith inst v)

def cpuHas (f : CpuFeature) : EmitM Bool := do return (← env).cpu_info f

/-! Each request binds the register the allocator contract names, `alloc` of its position
unless it asks for a fixed one, and appends itself to the requests. -/

section Apply

variable (env : EmitEnv) (st : EmitState)

@[simp] theorem UseGpr_apply (v : Value) (loc : Option Gpr) :
    UseGpr v loc env st =
      .ok (loc.getD (.alloc st.calls.length), { st with calls := st.calls ++ [.UseGpr v loc] }) :=
  rfl

@[simp] theorem UseXmm_apply (v : Value) :
    UseXmm v env st = .ok (.alloc st.calls.length, { st with calls := st.calls ++ [.UseXmm v] }) :=
  rfl

@[simp] theorem UseScratchGpr_apply (v : Value) (loc : Option Gpr) :
    UseScratchGpr v loc env st = .ok (loc.getD (.alloc st.calls.length),
      { st with calls := st.calls ++ [.UseScratchGpr v loc] }) := rfl

@[simp] theorem UseScratchXmm_apply (v : Value) :
    UseScratchXmm v env st =
      .ok (.alloc st.calls.length, { st with calls := st.calls ++ [.UseScratchXmm v] }) := rfl

@[simp] theorem UseDefGpr_apply (v : Value) (d : Nat) :
    UseDefGpr v d env st =
      .ok (.alloc st.calls.length, { st with calls := st.calls ++ [.UseDefGpr v d] }) := rfl

@[simp] theorem UseDefXmm_apply (v : Value) (d : Nat) :
    UseDefXmm v d env st =
      .ok (.alloc st.calls.length, { st with calls := st.calls ++ [.UseDefXmm v d] }) := rfl

@[simp] theorem DefGpr_apply (d : Nat) (loc : Option Gpr) :
    DefGpr d loc env st =
      .ok (loc.getD (.alloc st.calls.length), { st with calls := st.calls ++ [.DefGpr d loc] }) :=
  rfl

@[simp] theorem ScratchGpr_apply (loc : Option Gpr) :
    ScratchGpr loc env st =
      .ok (loc.getD (.alloc st.calls.length), { st with calls := st.calls ++ [.ScratchGpr loc] }) :=
  rfl

@[simp] theorem ScratchXmm_apply :
    ScratchXmm env st = .ok (.alloc st.calls.length, { st with calls := st.calls ++ [.ScratchXmm] }) :=
  rfl

@[simp] theorem DecrementRemainingUses_apply (i : Nat) :
    DecrementRemainingUses i env st =
      .ok ((), { st with calls := st.calls ++ [.DecrementRemainingUses i] }) := rfl

@[simp] theorem GetArg_apply (inst index : Nat) :
    GetArg inst index env st = .ok ((st.block.inst inst).GetArg index, st) := rfl

@[simp] theorem GetAssociatedPseudoOperation_apply (inst : Nat) (kind : Opcode) :
    GetAssociatedPseudoOperation inst kind env st =
      .ok (st.block.GetAssociatedPseudoOperation inst kind, st) := rfl

@[simp] theorem EraseInstruction_apply (inst : Nat) :
    EraseInstruction inst env st = .ok ((), { st with block := st.block.erase inst }) := rfl

@[simp] theorem cpuHas_apply (f : CpuFeature) : cpuHas f env st = .ok (env.cpu_info f, st) := rfl

end Apply

end Dynarmic.BackendX64
