import Dynarmic.Arm.Types

/-!
# The x86-64 host machine

Host registers, flags and the guest-state struct that emitted code reads and writes through
the pinned `r15`. Flags are `Option Bool`: `none` is a flag the SDM leaves undefined, and an
instruction that reads one gets stuck.
-/

namespace Dynarmic.X64

/-- Operand widths: byte, word, dword, qword. -/
inductive Width where
  | byte | word | dword | qword
  deriving DecidableEq, Repr

abbrev Width.bits : Width → Nat
  | .byte => 8
  | .word => 16
  | .dword => 32
  | .qword => 64

/-- A host general-purpose register: a fixed x86-64 register, or the register the allocator
returned for the `n`-th request of the instruction being emitted. -/
inductive Gpr where
  | rax | rcx | rdx | rbx | rsp | rbp | rsi | rdi
  | r8 | r9 | r10 | r11 | r12 | r13 | r14 | r15
  | alloc (n : Nat)
  deriving DecidableEq, Repr

/-- A host XMM register, fixed or allocated. -/
inductive Xmm where
  | xmm (index : Fin 16)
  | alloc (n : Nat)
  deriving DecidableEq, Repr

/-- Modelled from the spec: `jitstate.h` is not under src/. The guest-state struct, one field
per member that emitted code addresses through `r15 + offsetof(JitState, ...)`. -/
structure JitState where
  Reg : Arm.Reg → BitVec 32
  ExtReg : Nat → BitVec 32
  Cpsr : BitVec 32
  FPSCR_mode : BitVec 32
  FPSCR_nzcv : BitVec 32
  FPSCR_IDC : BitVec 32
  FPSCR_UFC : BitVec 32
  exclusive_state : BitVec 8
  exclusive_address : BitVec 32
  rsb_ptr : BitVec 32
  rsb_location_descriptors : Nat → BitVec 64
  rsb_codeptrs : Nat → BitVec 64
  cycles_remaining : BitVec 64
  halt_requested : BitVec 8

/-- A memory operand: a field of the guest-state struct. The `At` forms index the RSB arrays
by the value of a register, as `qword[r15 + index * 8 + offsetof(...)]`. -/
inductive Mem where
  | reg (r : Arm.Reg)
  | extReg (index : Nat)
  | cpsr
  | fpscrMode | fpscrNzcv | fpscrIdc | fpscrUfc
  | exclusiveState | exclusiveAddress
  | rsbPtr
  | rsbLocationDescriptor (i : Nat)
  | rsbCodeptr (i : Nat)
  | rsbLocationDescriptorAt (index : Gpr)
  | rsbCodeptrAt (index : Gpr)
  | cyclesRemaining
  | haltRequested
  deriving DecidableEq, Repr

/-- An instruction operand. `ah` is the high byte of `rax`, read after `lahf`. -/
inductive Operand where
  | reg (r : Gpr)
  | xmm (x : Xmm)
  | imm (v : Nat)
  | mem (m : Mem)
  | ah
  deriving DecidableEq, Repr

/-- The arithmetic flags; `none` is a flag left undefined by the last instruction that wrote it. -/
structure Flags where
  cf : Option Bool
  pf : Option Bool
  af : Option Bool
  zf : Option Bool
  sf : Option Bool
  of : Option Bool
  deriving DecidableEq, Repr

/-- A host function that emitted code calls through `CallFunction`. -/
inductive HostFn where
  | InterpreterFallback
  | CallSVC
  | GetFpscrImpl
  | SetFpscrImpl
  deriving DecidableEq, Repr

structure Machine where
  gpr : Gpr → BitVec 64
  xmm : Xmm → BitVec 128
  flags : Flags
  jit : JitState
  /-- Host functions called so far, newest first. -/
  calls : List HostFn

namespace Machine

def setGpr (m : Machine) (r : Gpr) (v : BitVec 64) : Machine :=
  { m with gpr := Function.update m.gpr r v }

def setXmm (m : Machine) (x : Xmm) (v : BitVec 128) : Machine :=
  { m with xmm := Function.update m.xmm x v }

def setJit (m : Machine) (j : JitState) : Machine := { m with jit := j }

def setFlags (m : Machine) (f : Flags) : Machine := { m with flags := f }

@[simp] theorem setGpr_gpr (m : Machine) (r : Gpr) (v : BitVec 64) :
    (m.setGpr r v).gpr = Function.update m.gpr r v := rfl
@[simp] theorem setGpr_xmm (m : Machine) (r : Gpr) (v : BitVec 64) :
    (m.setGpr r v).xmm = m.xmm := rfl
@[simp] theorem setGpr_flags (m : Machine) (r : Gpr) (v : BitVec 64) :
    (m.setGpr r v).flags = m.flags := rfl
@[simp] theorem setGpr_jit (m : Machine) (r : Gpr) (v : BitVec 64) :
    (m.setGpr r v).jit = m.jit := rfl
@[simp] theorem setGpr_calls (m : Machine) (r : Gpr) (v : BitVec 64) :
    (m.setGpr r v).calls = m.calls := rfl
@[simp] theorem setXmm_gpr (m : Machine) (x : Xmm) (v : BitVec 128) :
    (m.setXmm x v).gpr = m.gpr := rfl
@[simp] theorem setXmm_xmm (m : Machine) (x : Xmm) (v : BitVec 128) :
    (m.setXmm x v).xmm = Function.update m.xmm x v := rfl
@[simp] theorem setXmm_flags (m : Machine) (x : Xmm) (v : BitVec 128) :
    (m.setXmm x v).flags = m.flags := rfl
@[simp] theorem setXmm_jit (m : Machine) (x : Xmm) (v : BitVec 128) :
    (m.setXmm x v).jit = m.jit := rfl
@[simp] theorem setXmm_calls (m : Machine) (x : Xmm) (v : BitVec 128) :
    (m.setXmm x v).calls = m.calls := rfl
@[simp] theorem setJit_gpr (m : Machine) (j : JitState) : (m.setJit j).gpr = m.gpr := rfl
@[simp] theorem setJit_xmm (m : Machine) (j : JitState) : (m.setJit j).xmm = m.xmm := rfl
@[simp] theorem setJit_flags (m : Machine) (j : JitState) : (m.setJit j).flags = m.flags := rfl
@[simp] theorem setJit_jit (m : Machine) (j : JitState) : (m.setJit j).jit = j := rfl
@[simp] theorem setJit_calls (m : Machine) (j : JitState) : (m.setJit j).calls = m.calls := rfl
@[simp] theorem setFlags_gpr (m : Machine) (f : Flags) : (m.setFlags f).gpr = m.gpr := rfl
@[simp] theorem setFlags_xmm (m : Machine) (f : Flags) : (m.setFlags f).xmm = m.xmm := rfl
@[simp] theorem setFlags_flags (m : Machine) (f : Flags) : (m.setFlags f).flags = f := rfl
@[simp] theorem setFlags_jit (m : Machine) (f : Flags) : (m.setFlags f).jit = m.jit := rfl
@[simp] theorem setFlags_calls (m : Machine) (f : Flags) : (m.setFlags f).calls = m.calls := rfl

end Machine

/-- Modelled from the spec: `abi.h` is not under src/. The first three integer argument
registers of the host calling convention (System V). -/
def ABI_PARAM1 : Gpr := .rdi
def ABI_PARAM2 : Gpr := .rsi
def ABI_PARAM3 : Gpr := .rdx

/-! ### Reading and writing at a width -/

/-- A write of `w` bits into a 64-bit register: a dword write zero-extends, a byte or word
write keeps the bits above it. -/
def mergeGpr (old : BitVec 64) : (w : Width) → BitVec w.bits → BitVec 64
  | .qword, v => v
  | .dword, v => v.setWidth 64
  | .word, v => old >>> 16 <<< 16 ||| v.setWidth 64
  | .byte, v => old >>> 8 <<< 8 ||| v.setWidth 64

/-- An immediate as an operand of width `w`: x86 sign-extends a 32-bit immediate to a qword. -/
def immValue : (w : Width) → Nat → BitVec w.bits
  | .qword, v => (BitVec.ofNat 32 v).signExtend 64
  | w, v => BitVec.ofNat w.bits v

/-- The natural width of each guest-state field. -/
def Mem.width : Mem → Width
  | .reg _ | .extReg _ | .cpsr | .fpscrMode | .fpscrNzcv | .fpscrIdc | .fpscrUfc
  | .exclusiveAddress | .rsbPtr => .dword
  | .exclusiveState | .haltRequested => .byte
  | .rsbLocationDescriptor _ | .rsbCodeptr _ | .rsbLocationDescriptorAt _ | .rsbCodeptrAt _
  | .cyclesRemaining => .qword

/-- The value of a field, zero-extended to 64 bits. -/
def readField (m : Machine) : Mem → BitVec 64
  | .reg r => (m.jit.Reg r).setWidth 64
  | .extReg i => (m.jit.ExtReg i).setWidth 64
  | .cpsr => m.jit.Cpsr.setWidth 64
  | .fpscrMode => m.jit.FPSCR_mode.setWidth 64
  | .fpscrNzcv => m.jit.FPSCR_nzcv.setWidth 64
  | .fpscrIdc => m.jit.FPSCR_IDC.setWidth 64
  | .fpscrUfc => m.jit.FPSCR_UFC.setWidth 64
  | .exclusiveState => m.jit.exclusive_state.setWidth 64
  | .exclusiveAddress => m.jit.exclusive_address.setWidth 64
  | .rsbPtr => m.jit.rsb_ptr.setWidth 64
  | .rsbLocationDescriptor i => m.jit.rsb_location_descriptors i
  | .rsbCodeptr i => m.jit.rsb_codeptrs i
  | .rsbLocationDescriptorAt r => m.jit.rsb_location_descriptors (m.gpr r).toNat
  | .rsbCodeptrAt r => m.jit.rsb_codeptrs (m.gpr r).toNat
  | .cyclesRemaining => m.jit.cycles_remaining
  | .haltRequested => m.jit.halt_requested.setWidth 64

/-- Store a 64-bit value, truncated to the field's width, into a field. -/
def writeField (m : Machine) (a : Mem) (v : BitVec 64) : JitState :=
  let j := m.jit
  match a with
  | .reg r => { j with Reg := Function.update j.Reg r (v.setWidth 32) }
  | .extReg i => { j with ExtReg := Function.update j.ExtReg i (v.setWidth 32) }
  | .cpsr => { j with Cpsr := v.setWidth 32 }
  | .fpscrMode => { j with FPSCR_mode := v.setWidth 32 }
  | .fpscrNzcv => { j with FPSCR_nzcv := v.setWidth 32 }
  | .fpscrIdc => { j with FPSCR_IDC := v.setWidth 32 }
  | .fpscrUfc => { j with FPSCR_UFC := v.setWidth 32 }
  | .exclusiveState => { j with exclusive_state := v.setWidth 8 }
  | .exclusiveAddress => { j with exclusive_address := v.setWidth 32 }
  | .rsbPtr => { j with rsb_ptr := v.setWidth 32 }
  | .rsbLocationDescriptor i =>
    { j with rsb_location_descriptors := Function.update j.rsb_location_descriptors i v }
  | .rsbCodeptr i => { j with rsb_codeptrs := Function.update j.rsb_codeptrs i v }
  | .rsbLocationDescriptorAt r =>
    { j with rsb_location_descriptors :=
        Function.update j.rsb_location_descriptors (m.gpr r).toNat v }
  | .rsbCodeptrAt r =>
    { j with rsb_codeptrs := Function.update j.rsb_codeptrs (m.gpr r).toNat v }
  | .cyclesRemaining => { j with cycles_remaining := v }
  | .haltRequested => { j with halt_requested := v.setWidth 8 }

/-- Read an operand at width `w`. A field is read at its own width only. -/
def readOp (m : Machine) (w : Width) : Operand → Option (BitVec w.bits)
  | .reg r => some ((m.gpr r).setWidth w.bits)
  | .xmm x => some ((m.xmm x).setWidth w.bits)
  | .imm v => some (immValue w v)
  | .mem a => if a.width = w then some ((readField m a).setWidth w.bits) else none
  | .ah => some (((m.gpr .rax) >>> 8).setWidth w.bits)

/-- Write an operand at width `w`. An xmm destination of a dword or qword move is
zero-extended; immediates and `ah` are not destinations. -/
def writeOp (m : Machine) (w : Width) (op : Operand) (v : BitVec w.bits) : Option Machine :=
  match op with
  | .reg r => some (m.setGpr r (mergeGpr (m.gpr r) w v))
  | .xmm x => some (m.setXmm x (v.setWidth 128))
  | .mem a => if a.width = w then some (m.setJit (writeField m a (v.setWidth 64))) else none
  | .imm _ | .ah => none

end Dynarmic.X64
