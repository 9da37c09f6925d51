import Dynarmic.BackendX64.EmitM

/-!
# Register bindings and what emitted code computes

The register allocator is modelled by its contract: request `k` of an instruction's emission
binds host register `alloc k`, or the fixed register it asks for, and a request that reads a
value finds that value there. A value's host form is its bits zero-extended to 64, as a
materialised immediate is; an instruction's result is any 64-bit word with the right low bits.

`Computes emitter post` says: the emitter succeeds, and the code it emitted, run from any
machine holding the values its requests read, falls through its end into a machine where
`post` holds.
-/

namespace Dynarmic.IR

/-- A value as a host register holds it: `vals i` for the result of instruction `i`, an
immediate zero-extended. -/
def Value.hostBits (vals : Nat → BitVec 64) : Value → BitVec 64
  | .U1 b => (BitVec.ofBool b).setWidth 64
  | .U8 v => v.setWidth 64
  | .U32 v => v.setWidth 64
  | .U64 v => v
  | .Inst i => vals i
  | _ => 0

@[simp] theorem Value.hostBits_U1 (vals : Nat → BitVec 64) (b : Bool) :
    (Value.U1 b).hostBits vals = (BitVec.ofBool b).setWidth 64 := rfl

@[simp] theorem Value.hostBits_U8 (vals : Nat → BitVec 64) (v : BitVec 8) :
    (Value.U8 v).hostBits vals = v.setWidth 64 := rfl

@[simp] theorem Value.hostBits_U8_setWidth (vals : Nat → BitVec 64) (v : BitVec 8) :
    ((Value.U8 v).hostBits vals).setWidth 8 = v := by
  simp [BitVec.setWidth_setWidth_of_le]

@[simp] theorem Value.hostBits_U32 (vals : Nat → BitVec 64) (v : BitVec 32) :
    (Value.U32 v).hostBits vals = v.setWidth 64 := rfl

@[simp] theorem Value.hostBits_Inst (vals : Nat → BitVec 64) (i : Nat) :
    (Value.Inst i).hostBits vals = vals i := rfl

end Dynarmic.IR

namespace Dynarmic.BackendX64

open X64 IR

namespace AllocCall

/-- The general-purpose register request `k` binds. -/
def gpr (k : Nat) : AllocCall → Option Gpr
  | .UseGpr _ loc | .UseScratchGpr _ loc | .DefGpr _ loc | .ScratchGpr loc =>
    some (loc.getD (.alloc k))
  | .UseOpArg _ | .UseDefGpr _ _ | .UseDefOpArgGpr _ _ => some (.alloc k)
  | _ => none

/-- The value a request loads into its register. -/
def loads : AllocCall → Option Value
  | .UseGpr v _ | .UseXmm v | .UseOpArg v | .UseScratchGpr v _ | .UseScratchXmm v
  | .UseDefGpr v _ | .UseDefXmm v _ | .UseDefOpArgGpr v _ => some v
  | _ => none

/-- The instruction whose result a request's register holds once emission is done. -/
def defines : AllocCall → Option Nat
  | .UseDefGpr _ d | .UseDefXmm _ d | .UseDefOpArgGpr _ d | .DefGpr d _ | .DefXmm d => some d
  | .HostCall ret _ => ret
  | _ => none

end AllocCall

/-- The register of the first request from position `k` on that defines instruction `d`. -/
def defRegFrom (d : Nat) : Nat → List AllocCall → Option Gpr
  | _, [] => none
  | k, c :: cs => if c.defines = some d then c.gpr k else defRegFrom d (k + 1) cs

/-- The general-purpose register the requests bind to the result of instruction `d`. -/
def defReg (calls : List AllocCall) (d : Nat) : Option Gpr := defRegFrom d 0 calls

/-- The register the requests made between `st` and `st'` bind to the result of `d`. -/
def resultReg (st st' : EmitState) (d : Nat) : Option Gpr :=
  defRegFrom d st.calls.length (st'.calls.drop st.calls.length)

/-- A `U1` in a host register: bits 1 to 7 are clear, so the low byte is the bit. -/
def U1Form (x : BitVec 64) : Prop := ∀ i, 0 < i → i < 8 → x.getLsbD i = false

namespace U1Form

@[simp] theorem zero : U1Form 0#64 := by intro i; simp

@[simp] theorem and_one (x : BitVec 64) : U1Form (x &&& 1#64) := by
  intro i h _
  simp [BitVec.getLsbD_and, BitVec.getLsbD_one, Nat.ne_of_gt h]

/-- What `SETcc` leaves in a register: the condition in the low byte, the bits above kept. -/
@[simp] theorem setcc (old : BitVec 64) (b : Bool) :
    U1Form (old >>> 8 <<< 8 ||| ((BitVec.ofBool b).setWidth 8).setWidth 64) := by
  intro i h h8
  simp [BitVec.getLsbD_ofBool, h8, Nat.ne_of_gt h]

/-- `SETcc` into a register cleared before it. -/
@[simp] theorem ofBool (b : Bool) : U1Form (((BitVec.ofBool b).setWidth 8).setWidth 64) := by
  intro i h h8
  simp [BitVec.getLsbD_ofBool, h8, Nat.ne_of_gt h]

end U1Form

/-- The low word of argument `index` of instruction `inst`, as its host register holds it. -/
def argWord (vals : Nat → BitVec 64) (b : Block) (inst index : Nat) : BitVec 32 :=
  (((b.inst inst).GetArg index).hostBits vals).setWidth 32

/-- The register the requests made between `st` and `st'` bind to the result of `d` holds `r` in
its low 32 bits. -/
def ResultIs (st st' : EmitState) (d : Nat) (r : BitVec 32) (m' : Machine) : Prop :=
  ∃ g, resultReg st st' d = some g ∧ (m'.gpr g).setWidth 32 = r

/-- If the pseudo-op `p` is attached, its register holds the `U1` value `b`. -/
def FlagIs (st st' : EmitState) (p : Option Nat) (b : Bool) (m' : Machine) : Prop :=
  ∀ j, p = some j → ∃ g, resultReg st st' j = some g ∧ (m'.gpr g).getLsbD 0 = b ∧
    U1Form (m'.gpr g)

/-- Request `c`, the `k`-th, holds its value: the register it binds, if it loads a value into
one, holds that value. -/
def AllocCall.Holds (vals : Nat → BitVec 64) (m : Machine) (k : Nat) (c : AllocCall) : Prop :=
  match c.loads, c.gpr k with
  | some v, some r => m.gpr r = v.hostBits vals
  | _, _ => True

/-- Every request of `cs`, numbered from `k`, holds its value in `m`. -/
def Loaded (vals : Nat → BitVec 64) (m : Machine) : Nat → List AllocCall → Prop
  | _, [] => True
  | k, c :: cs => c.Holds vals m k ∧ Loaded vals m (k + 1) cs

/-- The instructions written to the code buffer between two emission states. -/
def codeSince (st st' : EmitState) : List Instr := (st'.log.drop st.log.length).map Prod.snd

/-- The emitter succeeds on instruction `inst`, and the code it wrote, run from any machine
holding the values its requests read, falls through into a machine satisfying `post`. -/
def Computes (emitter : Nat → EmitM Unit) (env : EmitEnv) (st : EmitState) (inst : Nat)
    (vals : Nat → BitVec 64) (post : EmitState → Machine → Prop) : Prop :=
  ∃ st', emitter inst env st = .ok ((), st') ∧
    ∀ host m, Loaded vals m st.calls.length (st'.calls.drop st.calls.length) →
      ∃ m', run host (codeSince st st') none m = .next m' ∧ post st' m'

theorem Computes.mono {emitter : Nat → EmitM Unit} {env : EmitEnv} {st : EmitState} {inst : Nat}
    {vals : Nat → BitVec 64} {post post' : EmitState → Machine → Prop}
    (h : Computes emitter env st inst vals post) (weaker : ∀ st' m', post st' m' → post' st' m') :
    Computes emitter env st inst vals post' := by
  obtain ⟨st', emits, runs⟩ := h
  refine ⟨st', emits, fun host m loaded => ?_⟩
  obtain ⟨m', ran, holds⟩ := runs host m loaded
  exact ⟨m', ran, weaker st' m' holds⟩

end Dynarmic.BackendX64
