import Dynarmic.BackendX64.Bindings
import Dynarmic.BackendX64.Shift
import Dynarmic.Common.Shifts
import Dynarmic.X64.Run

/-!
# The shift emitters agree with ARM

For every operand, amount and carry in, on the immediate-amount path and the CL path, with and
without a `GetCarryFromOp` attached, the code each shift emitter writes leaves the ARM result
of `Shift_C` in the instruction's register and the ARM carry in bit 0 of the pseudo-op's.

Each emitter has one lemma per path, split by the regimes of the amount that its boundary
branches and `Shift_C` tell apart; `ShiftSpec` assembles them.
-/

namespace Dynarmic.BackendX64

open X64 IR EmitM Common

/-- What the code of a shift leaves behind: the result register holds `r.1`, and the register
of the carry pseudo-op, if one is attached, holds `r.2` in bit 0, in `U1` form whenever the
carry in `cin` was. -/
def ShiftPost (r : BitVec 32 × Bool) (cin : BitVec 64) (carry : Option Nat) (st : EmitState)
    (inst : Nat) (st' : EmitState) (m' : Machine) : Prop :=
  (∃ g, resultReg st st' inst = some g ∧ (m'.gpr g).setWidth 32 = r.1) ∧
  ∀ j, carry = some j → ∃ g, resultReg st st' j = some g ∧ (m'.gpr g).getLsbD 0 = r.2 ∧
    (U1Form cin → U1Form (m'.gpr g))

/-- What a shift emitter promises for an instruction `op(a, s, c)`: the ARM result and carry of
`f a s c`. -/
def ShiftSpec (op : Opcode) (emitter : Nat → EmitM Unit)
    (f : BitVec 32 → Nat → Bool → BitVec 32 × Bool) : Prop :=
  ∀ env st inst vals va vs vc, (st.block.inst inst).op = op →
    (st.block.inst inst).args = [va, vs, vc] → vs.Fits .U8 →
    Computes emitter env st inst vals
      (ShiftPost (f ((va.hostBits vals).setWidth 32) ((vs.hostBits vals).setWidth 8).toNat
          ((vc.hostBits vals).getLsbD 0))
        (vc.hostBits vals) (st.block.GetAssociatedPseudoOperation inst .GetCarryFromOp) st inst)

/-- A carry pseudo-op found for an instruction of another opcode is another instruction. -/
theorem carry_ne {b : Block} {inst j : Nat} {op : Opcode} (hop : (b.inst inst).op = op)
    (hne : op ≠ .GetCarryFromOp) (h : b.GetAssociatedPseudoOperation inst .GetCarryFromOp = some j) :
    inst ≠ j := by
  rintro rfl
  exact hne (hop.symm.trans (Block.GetAssociatedPseudoOperation_some h).1)

/-! ### Logical shift left -/

/-- The amounts `EmitLogicalShiftLeft` and `LSL_C` tell apart, each with the comparisons
the emitter's branches and the x86 count mask make. -/
theorem lsl_regimes (s : Nat) : s = 0 ∨ (s % 32 = s ∧ s ≠ 0 ∧ s ≤ 31 ∧ s < 32 ∧ s ≤ 32 ∧ s ≠ 32 ∧
    ¬32 < s) ∨ s = 32 ∨ (s ≠ 0 ∧ ¬s ≤ 31 ∧ ¬s < 32 ∧ ¬s ≤ 32 ∧ s ≠ 32 ∧ 32 < s ∧ 32 ≤ s) := by
  omega

/-- The regimes of `lsl_regimes`, amounts above 32 split by their count after the x86 mask. -/
theorem lsl_cl_regimes (s : Nat) : s = 0 ∨ (s % 32 = s ∧ s ≠ 0 ∧ s ≤ 31 ∧ s < 32 ∧ s ≤ 32 ∧
    s ≠ 32 ∧ ¬32 < s) ∨ s = 32 ∨ (s % 32 = 0 ∧ s ≠ 0 ∧ ¬s < 32 ∧ ¬s ≤ 32 ∧ s ≠ 32 ∧ 32 ≤ s) ∨
    (s % 32 ≠ 0 ∧ s ≠ 0 ∧ ¬s < 32 ∧ ¬s ≤ 32 ∧ s ≠ 32 ∧ 32 ≤ s) := by
  omega

theorem EmitLogicalShiftLeft_imm_none (env : EmitEnv) (st : EmitState) (inst : Nat) (vals)
    (va vc : Value) (s : BitVec 8) (hargs : (st.block.inst inst).args = [va, .U8 s, vc])
    (hcarry : st.block.GetAssociatedPseudoOperation inst .GetCarryFromOp = none) :
    Computes EmitLogicalShiftLeft env st inst vals (ShiftPost
      (Arm.lslC ((va.hostBits vals).setWidth 32) s.toNat ((vc.hostBits vals).getLsbD 0))
      (vc.hostBits vals) none st inst) := by
  rcases lsl_regimes s.toNat with hf | hf | hf | hf <;> cases hvc : vc.IsImmediate <;>
  simp only [Computes, EmitLogicalShiftLeft, GetAssociatedPseudoOperation, GetArg, UseDefGpr,
    DecrementRemainingUses, bind_apply, pure_apply, block_apply, request_apply, emit_apply,
    Inst.GetArg, List.getD_cons_succ, List.getD_cons_zero, Value.IsImmediate_U8, Value.GetU8,
    if_true, if_false, Bool.not_true, Bool.not_false, Bool.false_eq_true, Except.ok.injEq,
    Prod.mk.injEq, true_and, exists_eq_left', hcarry, hargs, hvc, hf, Nat.reduceLeDiff,
    Nat.reduceLT, Nat.reduceEqDiff, ShiftPost, resultReg, codeSince, List.append_assoc,
    List.singleton_append, List.cons_append, List.nil_append, List.drop_left, List.map_cons,
    List.map_nil, Loaded, AllocCall.Holds, AllocCall.loads, AllocCall.gpr, defRegFrom,
    AllocCall.defines, and_true, true_and, List.length_append, List.length_cons, List.length_nil,
    List.length_singleton, Option.some.injEq, exists_eq_left', reduceCtorEq, false_implies,
    implies_true, ite_true, ite_false, zero_add] <;>
  intro host m hm <;>
  simp [shiftLeft_of_ge, run_exec, run_nil, run_L, run_jmp, run_jcc, run_skip, Instr.straight, exec, shift, alu, readOp, writeOp, maskCount, immValue,
    Width.bits, mergeGpr, Arm.lslC, hm, hf]

theorem EmitLogicalShiftLeft_cl_none (env : EmitEnv) (st : EmitState) (inst : Nat) (vals)
    (va vc : Value) (i : Nat) (hargs : (st.block.inst inst).args = [va, .Inst i, vc])
    (hcarry : st.block.GetAssociatedPseudoOperation inst .GetCarryFromOp = none) :
    Computes EmitLogicalShiftLeft env st inst vals (ShiftPost
      (Arm.lslC ((va.hostBits vals).setWidth 32) ((vals i).setWidth 8).toNat
        ((vc.hostBits vals).getLsbD 0))
      (vc.hostBits vals) none st inst) := by
  cases hvc : vc.IsImmediate <;>
  simp only [Computes, EmitLogicalShiftLeft, GetAssociatedPseudoOperation, GetArg, UseDefGpr,
    UseGpr, ScratchGpr, DecrementRemainingUses, bind_apply, pure_apply, block_apply,
    request_apply, emit_apply, Inst.GetArg, List.getD_cons_succ, List.getD_cons_zero,
    Value.IsImmediate_Inst, if_true, if_false, Bool.not_true, Bool.not_false, Bool.false_eq_true,
    Except.ok.injEq, Prod.mk.injEq, true_and, exists_eq_left', hcarry, hargs, hvc,
    Option.getD_some, Option.getD_none, ShiftPost, resultReg, codeSince, List.append_assoc,
    List.singleton_append, List.cons_append, List.nil_append, List.drop_left, List.map_cons,
    List.map_nil, Loaded, AllocCall.Holds, AllocCall.loads, AllocCall.gpr, defRegFrom,
    AllocCall.defines, and_true, true_and, List.length_append, List.length_cons, List.length_nil,
    List.length_singleton, Option.some.injEq, exists_eq_left', reduceCtorEq, false_implies,
    implies_true, ite_true, ite_false, zero_add, Value.hostBits_Inst] <;>
  intro host m hm <;>
  obtain ⟨s, hsb⟩ : ∃ s, (vals i).setWidth 8 = s := ⟨_, rfl⟩ <;>
  rcases lsl_cl_regimes s.toNat with hf | hf | hf | hf | hf <;>
  simp [shiftLeft_of_ge, run_exec, run_nil, run_L, run_jmp, run_jcc, run_skip, Instr.straight, exec, shift, alu, readOp, writeOp, maskCount, immValue,
    cond_a_cmp, cond_e_cmp, cond_nb_cmp, cond_e_logic, Width.bits, mergeGpr, Arm.lslC, sub_beq_zero, hm, hf, hsb]

theorem EmitLogicalShiftLeft_imm_carry (env : EmitEnv) (st : EmitState) (inst j : Nat) (vals)
    (va vc : Value) (s : BitVec 8) (hargs : (st.block.inst inst).args = [va, .U8 s, vc])
    (hcarry : st.block.GetAssociatedPseudoOperation inst .GetCarryFromOp = some j)
    (hj : inst ≠ j) :
    Computes EmitLogicalShiftLeft env st inst vals (ShiftPost
      (Arm.lslC ((va.hostBits vals).setWidth 32) s.toNat ((vc.hostBits vals).getLsbD 0))
      (vc.hostBits vals) (some j) st inst) := by
  rcases lsl_regimes s.toNat with hf | hf | hf | hf <;>
  simp only [Computes, EmitLogicalShiftLeft, GetAssociatedPseudoOperation, GetArg, UseDefGpr,
    EraseInstruction, bind_apply, pure_apply, block_apply, setBlock_apply, request_apply,
    emit_apply, Block.erase_inst, Inst.GetArg, List.getD_cons_succ, List.getD_cons_zero,
    Value.IsImmediate_U8, Value.GetU8, if_true, if_false, Bool.false_eq_true, Except.ok.injEq,
    Prod.mk.injEq, true_and, exists_eq_left', hcarry, hargs, hf, Nat.reduceLeDiff, Nat.reduceLT,
    Nat.reduceEqDiff, gt_iff_lt, ShiftPost, resultReg, codeSince, List.append_assoc,
    List.singleton_append, List.cons_append, List.nil_append, List.drop_left, List.map_cons,
    List.map_nil, Loaded, AllocCall.Holds, AllocCall.loads, AllocCall.gpr, defRegFrom,
    AllocCall.defines, and_true, true_and, List.length_append, List.length_cons, List.length_nil,
    List.length_singleton, Option.some.injEq, exists_eq_left', forall_eq', ite_true, ite_false,
    zero_add, hj, hj.symm] <;>
  intro host m hm <;>
  simp [shiftLeft_of_ge, run_exec, run_nil, run_L, run_jmp, run_jcc, run_skip, Instr.straight, exec, shift, alu, readOp, writeOp, maskCount, immValue,
    cond_a_cmp, cond_e_cmp, cond_nb_cmp, cond_e_logic, Width.bits, mergeGpr, Arm.lslC, hm, hf]

theorem EmitLogicalShiftLeft_cl_carry (env : EmitEnv) (st : EmitState) (inst j : Nat) (vals)
    (va vc : Value) (i : Nat) (hargs : (st.block.inst inst).args = [va, .Inst i, vc])
    (hcarry : st.block.GetAssociatedPseudoOperation inst .GetCarryFromOp = some j)
    (hj : inst ≠ j) :
    Computes EmitLogicalShiftLeft env st inst vals (ShiftPost
      (Arm.lslC ((va.hostBits vals).setWidth 32) ((vals i).setWidth 8).toNat
        ((vc.hostBits vals).getLsbD 0))
      (vc.hostBits vals) (some j) st inst) := by
  simp only [Computes, EmitLogicalShiftLeft, GetAssociatedPseudoOperation, GetArg, UseDefGpr,
    UseGpr, EraseInstruction, bind_apply, pure_apply, block_apply, setBlock_apply,
    request_apply, emit_apply, EmitM.L_apply, inLocalLabel_apply, Block.erase_inst, Inst.GetArg,
    List.getD_cons_succ, List.getD_cons_zero, Value.IsImmediate_Inst, if_true, if_false,
    Bool.false_eq_true, Except.ok.injEq, Prod.mk.injEq, true_and, exists_eq_left', hcarry,
    hargs, Option.getD_some, ShiftPost, resultReg, codeSince, List.append_assoc,
    List.singleton_append, List.cons_append, List.nil_append, List.drop_left, List.map_cons,
    List.map_nil, Loaded, AllocCall.Holds, AllocCall.loads, AllocCall.gpr, defRegFrom,
    AllocCall.defines, and_true, true_and, List.length_append, List.length_cons, List.length_nil,
    List.length_singleton, Option.some.injEq, exists_eq_left', forall_eq', ite_true, ite_false,
    zero_add, hj, hj.symm, reduceCtorEq, Value.hostBits_Inst]
  intro host m hm
  obtain ⟨s, hsb⟩ : ∃ s, (vals i).setWidth 8 = s := ⟨_, rfl⟩
  rcases lsl_regimes s.toNat with hf | hf | hf | hf <;>
  simp [shiftLeft_of_ge, run_exec, run_nil, run_L, run_jmp, run_jcc, run_skip, Instr.straight, exec, shift, alu, readOp, writeOp, maskCount, immValue,
    cond_a_cmp, cond_e_cmp, cond_nb_cmp, cond_e_logic, Width.bits, mergeGpr, Arm.lslC, sub_beq_zero, beq_zero s, Instr.places, hm, hf,
    hsb]

theorem EmitLogicalShiftLeft_spec : ShiftSpec .LogicalShiftLeft EmitLogicalShiftLeft Arm.lslC := by
  intro env st inst vals va vs vc hop hargs hvs
  rcases hcarry : st.block.GetAssociatedPseudoOperation inst .GetCarryFromOp with _ | j <;>
  rcases Value.fits_U8 hvs with ⟨s, rfl⟩ | ⟨i, rfl⟩ <;>
  simp only [Value.hostBits_U8_setWidth, Value.hostBits_Inst]
  · exact EmitLogicalShiftLeft_imm_none env st inst vals va vc s hargs hcarry
  · exact EmitLogicalShiftLeft_cl_none env st inst vals va vc i hargs hcarry
  · exact EmitLogicalShiftLeft_imm_carry env st inst j vals va vc s hargs hcarry
      (carry_ne hop (by decide) hcarry)
  · exact EmitLogicalShiftLeft_cl_carry env st inst j vals va vc i hargs hcarry
      (carry_ne hop (by decide) hcarry)

/-! ### Logical shift right -/

theorem EmitLogicalShiftRight_imm_none (env : EmitEnv) (st : EmitState) (inst : Nat) (vals)
    (va vc : Value) (s : BitVec 8) (hargs : (st.block.inst inst).args = [va, .U8 s, vc])
    (hcarry : st.block.GetAssociatedPseudoOperation inst .GetCarryFromOp = none) :
    Computes EmitLogicalShiftRight env st inst vals (ShiftPost
      (Arm.lsrC ((va.hostBits vals).setWidth 32) s.toNat ((vc.hostBits vals).getLsbD 0))
      (vc.hostBits vals) none st inst) := by
  rcases lsl_regimes s.toNat with hf | hf | hf | hf <;> cases hvc : vc.IsImmediate <;>
  simp only [Computes, EmitLogicalShiftRight, GetAssociatedPseudoOperation, GetArg, UseDefGpr,
    DecrementRemainingUses, bind_apply, pure_apply, block_apply, request_apply, emit_apply,
    Inst.GetArg, List.getD_cons_succ, List.getD_cons_zero, Value.IsImmediate_U8, Value.GetU8,
    if_true, if_false, Bool.not_true, Bool.not_false, Bool.false_eq_true, Except.ok.injEq,
    Prod.mk.injEq, true_and, exists_eq_left', hcarry, hargs, hvc, hf, Nat.reduceLeDiff,
    Nat.reduceLT, Nat.reduceEqDiff, ShiftPost, resultReg, codeSince, List.append_assoc,
    List.singleton_append, List.cons_append, List.nil_append, List.drop_left, List.map_cons,
    List.map_nil, Loaded, AllocCall.Holds, AllocCall.loads, AllocCall.gpr, defRegFrom,
    AllocCall.defines, and_true, true_and, List.length_append, List.length_cons, List.length_nil,
    List.length_singleton, Option.some.injEq, exists_eq_left', reduceCtorEq, false_implies,
    implies_true, ite_true, ite_false, zero_add] <;>
  intro host m hm <;>
  simp [ushiftRight_of_ge, run_exec, run_nil, run_L, run_jmp, run_jcc, run_skip, Instr.straight, exec, shift, alu, readOp, writeOp, maskCount, immValue,
    Width.bits, mergeGpr, Arm.lsrC, hm, hf]

theorem EmitLogicalShiftRight_cl_none (env : EmitEnv) (st : EmitState) (inst : Nat) (vals)
    (va vc : Value) (i : Nat) (hargs : (st.block.inst inst).args = [va, .Inst i, vc])
    (hcarry : st.block.GetAssociatedPseudoOperation inst .GetCarryFromOp = none) :
    Computes EmitLogicalShiftRight env st inst vals (ShiftPost
      (Arm.lsrC ((va.hostBits vals).setWidth 32) ((vals i).setWidth 8).toNat
        ((vc.hostBits vals).getLsbD 0))
      (vc.hostBits vals) none st inst) := by
  cases hvc : vc.IsImmediate <;>
  simp only [Computes, EmitLogicalShiftRight, GetAssociatedPseudoOperation, GetArg, UseDefGpr,
    UseGpr, ScratchGpr, DecrementRemainingUses, bind_apply, pure_apply, block_apply,
    request_apply, emit_apply, Inst.GetArg, List.getD_cons_succ, List.getD_cons_zero,
    Value.IsImmediate_Inst, if_true, if_false, Bool.not_true, Bool.not_false, Bool.false_eq_true,
    Except.ok.injEq, Prod.mk.injEq, true_and, exists_eq_left', hcarry, hargs, hvc,
    Option.getD_some, Option.getD_none, ShiftPost, resultReg, codeSince, List.append_assoc,
    List.singleton_append, List.cons_append, List.nil_append, List.drop_left, List.map_cons,
    List.map_nil, Loaded, AllocCall.Holds, AllocCall.loads, AllocCall.gpr, defRegFrom,
    AllocCall.defines, and_true, true_and, List.length_append, List.length_cons, List.length_nil,
    List.length_singleton, Option.some.injEq, exists_eq_left', reduceCtorEq, false_implies,
    implies_true, ite_true, ite_false, zero_add, Value.hostBits_Inst] <;>
  intro host m hm <;>
  obtain ⟨s, hsb⟩ : ∃ s, (vals i).setWidth 8 = s := ⟨_, rfl⟩ <;>
  rcases lsl_cl_regimes s.toNat with hf | hf | hf | hf | hf <;>
  simp [ushiftRight_of_ge, run_exec, run_nil, run_L, run_jmp, run_jcc, run_skip, Instr.straight, exec, shift, alu, readOp, writeOp, maskCount, immValue,
    cond_a_cmp, cond_e_cmp, cond_nb_cmp, cond_e_logic, Width.bits, mergeGpr, Arm.lsrC, sub_beq_zero, hm, hf, hsb]

theorem EmitLogicalShiftRight_imm_carry (env : EmitEnv) (st : EmitState) (inst j : Nat) (vals)
    (va vc : Value) (s : BitVec 8) (hargs : (st.block.inst inst).args = [va, .U8 s, vc])
    (hcarry : st.block.GetAssociatedPseudoOperation inst .GetCarryFromOp = some j)
    (hj : inst ≠ j) :
    Computes EmitLogicalShiftRight env st inst vals (ShiftPost
      (Arm.lsrC ((va.hostBits vals).setWidth 32) s.toNat ((vc.hostBits vals).getLsbD 0))
      (vc.hostBits vals) (some j) st inst) := by
  rcases lsl_regimes s.toNat with hf | hf | hf | hf <;>
  simp only [Computes, EmitLogicalShiftRight, GetAssociatedPseudoOperation, GetArg, UseDefGpr,
    EraseInstruction, bind_apply, pure_apply, block_apply, setBlock_apply, request_apply,
    emit_apply, Block.erase_inst, Inst.GetArg, List.getD_cons_succ, List.getD_cons_zero,
    Value.IsImmediate_U8, Value.GetU8, if_true, if_false, Bool.false_eq_true, Except.ok.injEq,
    Prod.mk.injEq, true_and, exists_eq_left', hcarry, hargs, hf, Nat.reduceLeDiff, Nat.reduceLT,
    Nat.reduceEqDiff, gt_iff_lt, ShiftPost, resultReg, codeSince, List.append_assoc,
    List.singleton_append, List.cons_append, List.nil_append, List.drop_left, List.map_cons,
    List.map_nil, Loaded, AllocCall.Holds, AllocCall.loads, AllocCall.gpr, defRegFrom,
    AllocCall.defines, and_true, true_and, List.length_append, List.length_cons, List.length_nil,
    List.length_singleton, Option.some.injEq, exists_eq_left', forall_eq', ite_true, ite_false,
    zero_add, hj, hj.symm] <;>
  intro host m hm <;>
  simp [ushiftRight_of_ge, run_exec, run_nil, run_L, run_jmp, run_jcc, run_skip, Instr.straight, exec, shift, alu, readOp, writeOp, maskCount, immValue,
    cond_a_cmp, cond_e_cmp, cond_nb_cmp, cond_e_logic, Width.bits, mergeGpr, Arm.lsrC, hm, hf]

theorem EmitLogicalShiftRight_cl_carry (env : EmitEnv) (st : EmitState) (inst j : Nat) (vals)
    (va vc : Value) (i : Nat) (hargs : (st.block.inst inst).args = [va, .Inst i, vc])
    (hcarry : st.block.GetAssociatedPseudoOperation inst .GetCarryFromOp = some j)
    (hj : inst ≠ j) :
    Computes EmitLogicalShiftRight env st inst vals (ShiftPost
      (Arm.lsrC ((va.hostBits vals).setWidth 32) ((vals i).setWidth 8).toNat
        ((vc.hostBits vals).getLsbD 0))
      (vc.hostBits vals) (some j) st inst) := by
  simp only [Computes, EmitLogicalShiftRight, GetAssociatedPseudoOperation, GetArg, UseDefGpr,
    UseGpr, EraseInstruction, bind_apply, pure_apply, block_apply, setBlock_apply,
    request_apply, emit_apply, EmitM.L_apply, inLocalLabel_apply, Block.erase_inst, Inst.GetArg,
    List.getD_cons_succ, List.getD_cons_zero, Value.IsImmediate_Inst, if_true, if_false,
    Bool.false_eq_true, Except.ok.injEq, Prod.mk.injEq, true_and, exists_eq_left', hcarry,
    hargs, Option.getD_some, ShiftPost, resultReg, codeSince, List.append_assoc,
    List.singleton_append, List.cons_append, List.nil_append, List.drop_left, List.map_cons,
    List.map_nil, Loaded, AllocCall.Holds, AllocCall.loads, AllocCall.gpr, defRegFrom,
    AllocCall.defines, and_true, true_and, List.length_append, List.length_cons, List.length_nil,
    List.length_singleton, Option.some.injEq, exists_eq_left', forall_eq', ite_true, ite_false,
    zero_add, hj, hj.symm, reduceCtorEq, Value.hostBits_Inst]
  intro host m hm
  obtain ⟨s, hsb⟩ : ∃ s, (vals i).setWidth 8 = s := ⟨_, rfl⟩
  rcases lsl_regimes s.toNat with hf | hf | hf | hf <;>
  simp [ushiftRight_of_ge, run_exec, run_nil, run_L, run_jmp, run_jcc, run_skip, Instr.straight, exec, shift, alu, readOp, writeOp, maskCount, immValue,
    cond_a_cmp, cond_e_cmp, cond_nb_cmp, cond_e_logic, Width.bits, mergeGpr, Arm.lsrC, sub_beq_zero, beq_zero s, Instr.places, hm, hf,
    hsb]

theorem EmitLogicalShiftRight_spec : ShiftSpec .LogicalShiftRight EmitLogicalShiftRight Arm.lsrC := by
  intro env st inst vals va vs vc hop hargs hvs
  rcases hcarry : st.block.GetAssociatedPseudoOperation inst .GetCarryFromOp with _ | j <;>
  rcases Value.fits_U8 hvs with ⟨s, rfl⟩ | ⟨i, rfl⟩ <;>
  simp only [Value.hostBits_U8_setWidth, Value.hostBits_Inst]
  · exact EmitLogicalShiftRight_imm_none env st inst vals va vc s hargs hcarry
  · exact EmitLogicalShiftRight_cl_none env st inst vals va vc i hargs hcarry
  · exact EmitLogicalShiftRight_imm_carry env st inst j vals va vc s hargs hcarry
      (carry_ne hop (by decide) hcarry)
  · exact EmitLogicalShiftRight_cl_carry env st inst j vals va vc i hargs hcarry
      (carry_ne hop (by decide) hcarry)

/-! ### Arithmetic shift right -/

/-- The amounts `EmitArithmeticShiftRight` and `ASR_C` tell apart: zero, up to 31, and past
31, where both fill with the sign. -/
theorem asr_regimes (s : Nat) : s = 0 ∨ (s % 32 = s ∧ s ≠ 0 ∧ s ≤ 31 ∧ s < 32 ∧ s ≤ 32 ∧
    s - 1 < 32 ∧ ¬31 < s ∧ (if s < 31 then s else 31) = s ∧ min s 32 = s) ∨
    (s ≠ 0 ∧ ¬s ≤ 31 ∧ 31 < s ∧ 32 ≤ s ∧ (if s < 31 then s else 31) = 31 ∧ min s 32 = 32) := by
  split_ifs <;> omega

theorem EmitArithmeticShiftRight_imm_none (env : EmitEnv) (st : EmitState) (inst : Nat) (vals)
    (va vc : Value) (s : BitVec 8) (hargs : (st.block.inst inst).args = [va, .U8 s, vc])
    (hcarry : st.block.GetAssociatedPseudoOperation inst .GetCarryFromOp = none) :
    Computes EmitArithmeticShiftRight env st inst vals (ShiftPost
      (Arm.asrC ((va.hostBits vals).setWidth 32) s.toNat ((vc.hostBits vals).getLsbD 0))
      (vc.hostBits vals) none st inst) := by
  rcases asr_regimes s.toNat with hf | hf | hf <;> cases hvc : vc.IsImmediate <;>
  simp only [Computes, EmitArithmeticShiftRight, GetAssociatedPseudoOperation, GetArg,
    UseDefGpr, DecrementRemainingUses, bind_apply, pure_apply, block_apply, request_apply,
    emit_apply, Inst.GetArg, List.getD_cons_succ, List.getD_cons_zero, Value.IsImmediate_U8,
    Value.GetU8, if_true, if_false, Bool.not_true, Bool.not_false, Bool.false_eq_true,
    Except.ok.injEq, Prod.mk.injEq, true_and, exists_eq_left', hcarry, hargs, hvc, hf,
    Nat.reduceLeDiff, Nat.reduceLT, Nat.reduceEqDiff, ShiftPost, resultReg, codeSince,
    List.append_assoc, List.singleton_append, List.cons_append, List.nil_append, List.drop_left,
    List.map_cons, List.map_nil, Loaded, AllocCall.Holds, AllocCall.loads, AllocCall.gpr,
    defRegFrom, AllocCall.defines, and_true, true_and, List.length_append, List.length_cons,
    List.length_nil, List.length_singleton, Option.some.injEq, exists_eq_left', reduceCtorEq,
    false_implies, implies_true, ite_true, ite_false, zero_add] <;>
  intro host m hm <;>
  simp [sshiftRight_of_ge, run_exec, run_nil, run_L, run_jmp, run_jcc, run_skip, Instr.straight, exec, shift, alu, readOp, writeOp, maskCount, immValue,
    Width.bits, mergeGpr, Arm.asrC, BitVec.getLsbD_sshiftRight, BitVec.msb_setWidth, hm, hf]

theorem EmitArithmeticShiftRight_cl_none (env : EmitEnv) (st : EmitState) (inst : Nat) (vals)
    (va vc : Value) (i : Nat) (hargs : (st.block.inst inst).args = [va, .Inst i, vc])
    (hcarry : st.block.GetAssociatedPseudoOperation inst .GetCarryFromOp = none) :
    Computes EmitArithmeticShiftRight env st inst vals (ShiftPost
      (Arm.asrC ((va.hostBits vals).setWidth 32) ((vals i).setWidth 8).toNat
        ((vc.hostBits vals).getLsbD 0))
      (vc.hostBits vals) none st inst) := by
  cases hvc : vc.IsImmediate <;>
  simp only [Computes, EmitArithmeticShiftRight, GetAssociatedPseudoOperation, GetArg,
    UseDefGpr, UseScratchGpr, ScratchGpr, DecrementRemainingUses, bind_apply, pure_apply,
    block_apply, request_apply, emit_apply, Inst.GetArg, List.getD_cons_succ,
    List.getD_cons_zero, Value.IsImmediate_Inst, if_true, if_false, Bool.not_true,
    Bool.not_false, Bool.false_eq_true, Except.ok.injEq, Prod.mk.injEq, true_and,
    exists_eq_left', hcarry, hargs, hvc, Option.getD_some, Option.getD_none, ShiftPost,
    resultReg, codeSince, List.append_assoc, List.singleton_append, List.cons_append,
    List.nil_append, List.drop_left, List.map_cons, List.map_nil, Loaded, AllocCall.Holds,
    AllocCall.loads, AllocCall.gpr, defRegFrom, AllocCall.defines, and_true, true_and,
    List.length_append, List.length_cons, List.length_nil, List.length_singleton,
    Option.some.injEq, exists_eq_left', reduceCtorEq, false_implies, implies_true, ite_true,
    ite_false, zero_add, Value.hostBits_Inst]
  all_goals
    intro host m hm
    obtain ⟨s, hsb⟩ : ∃ s, (vals i).setWidth 8 = s := ⟨_, rfl⟩
    have h8 : s.toNat % 256 = s.toNat := Nat.mod_eq_of_lt s.isLt
    have h32 : s.toNat % 4294967296 = s.toNat := Nat.mod_eq_of_lt (s.isLt.trans (by norm_num))
    rcases asr_regimes s.toNat with hf | hf | hf <;>
    simp [sshiftRight_of_ge, run_exec, run_nil, run_L, run_jmp, run_jcc, run_skip, Instr.straight, exec, shift, alu, readOp, writeOp, maskCount, immValue,
      Width.bits, mergeGpr, Arm.asrC, BitVec.getLsbD_sshiftRight, BitVec.msb_setWidth, hm, hf, hsb, h8, h32,
      cond_g_cmp (s.setWidth 32) 31#32 (by simp; omega) (by decide)]

theorem EmitArithmeticShiftRight_imm_carry (env : EmitEnv) (st : EmitState) (inst j : Nat)
    (vals) (va vc : Value) (s : BitVec 8) (hargs : (st.block.inst inst).args = [va, .U8 s, vc])
    (hcarry : st.block.GetAssociatedPseudoOperation inst .GetCarryFromOp = some j)
    (hj : inst ≠ j) :
    Computes EmitArithmeticShiftRight env st inst vals (ShiftPost
      (Arm.asrC ((va.hostBits vals).setWidth 32) s.toNat ((vc.hostBits vals).getLsbD 0))
      (vc.hostBits vals) (some j) st inst) := by
  rcases asr_regimes s.toNat with hf | hf | hf <;>
  simp only [Computes, EmitArithmeticShiftRight, GetAssociatedPseudoOperation, GetArg,
    UseDefGpr, EraseInstruction, bind_apply, pure_apply, block_apply, setBlock_apply,
    request_apply, emit_apply, Block.erase_inst, Inst.GetArg, List.getD_cons_succ,
    List.getD_cons_zero, Value.IsImmediate_U8, Value.GetU8, if_true, if_false,
    Bool.false_eq_true, Except.ok.injEq, Prod.mk.injEq, true_and, exists_eq_left', hcarry, hargs,
    hf, Nat.reduceLeDiff, Nat.reduceLT, Nat.reduceEqDiff, ShiftPost, resultReg, codeSince,
    List.append_assoc, List.singleton_append, List.cons_append, List.nil_append, List.drop_left,
    List.map_cons, List.map_nil, Loaded, AllocCall.Holds, AllocCall.loads, AllocCall.gpr,
    defRegFrom, AllocCall.defines, and_true, true_and, List.length_append, List.length_cons,
    List.length_nil, List.length_singleton, Option.some.injEq, exists_eq_left', forall_eq',
    ite_true, ite_false, zero_add, hj, hj.symm] <;>
  intro host m hm <;>
  simp [sshiftRight_of_ge, run_exec, run_nil, run_L, run_jmp, run_jcc, run_skip, Instr.straight, exec, shift, alu, readOp, writeOp, maskCount, immValue,
    cond_a_cmp, cond_e_cmp, cond_nb_cmp, cond_e_logic, Width.bits, mergeGpr, Arm.asrC, BitVec.getLsbD_sshiftRight, BitVec.msb_setWidth, hm, hf]

theorem EmitArithmeticShiftRight_cl_carry (env : EmitEnv) (st : EmitState) (inst j : Nat)
    (vals) (va vc : Value) (i : Nat) (hargs : (st.block.inst inst).args = [va, .Inst i, vc])
    (hcarry : st.block.GetAssociatedPseudoOperation inst .GetCarryFromOp = some j)
    (hj : inst ≠ j) :
    Computes EmitArithmeticShiftRight env st inst vals (ShiftPost
      (Arm.asrC ((va.hostBits vals).setWidth 32) ((vals i).setWidth 8).toNat
        ((vc.hostBits vals).getLsbD 0))
      (vc.hostBits vals) (some j) st inst) := by
  simp only [Computes, EmitArithmeticShiftRight, GetAssociatedPseudoOperation, GetArg,
    UseDefGpr, UseGpr, EraseInstruction, bind_apply, pure_apply, block_apply, setBlock_apply,
    request_apply, emit_apply, EmitM.L_apply, inLocalLabel_apply, Block.erase_inst, Inst.GetArg,
    List.getD_cons_succ, List.getD_cons_zero, Value.IsImmediate_Inst, if_true, if_false,
    Bool.false_eq_true, Except.ok.injEq, Prod.mk.injEq, true_and, exists_eq_left', hcarry,
    hargs, Option.getD_some, ShiftPost, resultReg, codeSince, List.append_assoc,
    List.singleton_append, List.cons_append, List.nil_append, List.drop_left, List.map_cons,
    List.map_nil, Loaded, AllocCall.Holds, AllocCall.loads, AllocCall.gpr, defRegFrom,
    AllocCall.defines, and_true, true_and, List.length_append, List.length_cons, List.length_nil,
    List.length_singleton, Option.some.injEq, exists_eq_left', forall_eq', ite_true, ite_false,
    zero_add, hj, hj.symm, reduceCtorEq, Value.hostBits_Inst]
  intro host m hm
  obtain ⟨s, hsb⟩ : ∃ s, (vals i).setWidth 8 = s := ⟨_, rfl⟩
  rcases asr_regimes s.toNat with hf | hf | hf <;>
  simp [sshiftRight_of_ge, run_exec, run_nil, run_L, run_jmp, run_jcc, run_skip, Instr.straight, exec, shift, alu, readOp, writeOp, maskCount, immValue,
    cond_a_cmp, cond_e_cmp, cond_nb_cmp, cond_e_logic, Width.bits, mergeGpr, Arm.asrC, BitVec.getLsbD_sshiftRight, BitVec.msb_setWidth, sub_beq_zero, beq_zero s, Instr.places,
    hm, hf, hsb]

theorem EmitArithmeticShiftRight_spec :
    ShiftSpec .ArithmeticShiftRight EmitArithmeticShiftRight Arm.asrC := by
  intro env st inst vals va vs vc hop hargs hvs
  rcases hcarry : st.block.GetAssociatedPseudoOperation inst .GetCarryFromOp with _ | j <;>
  rcases Value.fits_U8 hvs with ⟨s, rfl⟩ | ⟨i, rfl⟩ <;>
  simp only [Value.hostBits_U8_setWidth, Value.hostBits_Inst]
  · exact EmitArithmeticShiftRight_imm_none env st inst vals va vc s hargs hcarry
  · exact EmitArithmeticShiftRight_cl_none env st inst vals va vc i hargs hcarry
  · exact EmitArithmeticShiftRight_imm_carry env st inst j vals va vc s hargs hcarry
      (carry_ne hop (by decide) hcarry)
  · exact EmitArithmeticShiftRight_cl_carry env st inst j vals va vc i hargs hcarry
      (carry_ne hop (by decide) hcarry)

/-! ### Rotate right -/

/-- The amounts `EmitRotateRight` and `ROR_C` tell apart: zero, a nonzero multiple of 32,
where the rotation is the identity, and the rest. -/
theorem ror_regimes (s : Nat) : s = 0 ∨ (s ≠ 0 ∧ s % 32 = 0) ∨ (s ≠ 0 ∧ s % 32 ≠ 0) := by
  omega

theorem EmitRotateRight_imm_none (env : EmitEnv) (st : EmitState) (inst : Nat) (vals)
    (va vc : Value) (s : BitVec 8) (hargs : (st.block.inst inst).args = [va, .U8 s, vc])
    (hcarry : st.block.GetAssociatedPseudoOperation inst .GetCarryFromOp = none) :
    Computes EmitRotateRight env st inst vals (ShiftPost
      (Arm.rorC ((va.hostBits vals).setWidth 32) s.toNat ((vc.hostBits vals).getLsbD 0))
      (vc.hostBits vals) none st inst) := by
  have h256 : s.toNat % 32 % 256 = s.toNat % 32 := Nat.mod_eq_of_lt (by omega)
  rcases ror_regimes s.toNat with hf | hf | hf <;> cases hvc : vc.IsImmediate <;>
  simp only [Computes, EmitRotateRight, GetAssociatedPseudoOperation, GetArg,
    UseDefGpr, DecrementRemainingUses, bind_apply, pure_apply, block_apply, request_apply,
    emit_apply, Inst.GetArg, List.getD_cons_succ, List.getD_cons_zero, Value.IsImmediate_U8,
    Value.GetU8, if_true, if_false, Bool.not_true, Bool.not_false, Bool.false_eq_true,
    Except.ok.injEq, Prod.mk.injEq, true_and, exists_eq_left', hcarry, hargs, hvc,
    ShiftPost, resultReg, codeSince,
    List.append_assoc, List.singleton_append, List.cons_append, List.nil_append, List.drop_left,
    List.map_cons, List.map_nil, Loaded, AllocCall.Holds, AllocCall.loads, AllocCall.gpr,
    defRegFrom, AllocCall.defines, and_true, true_and, List.length_append, List.length_cons,
    List.length_nil, List.length_singleton, Option.some.injEq, exists_eq_left', reduceCtorEq,
    false_implies, implies_true, ite_true, ite_false, zero_add] <;>
  intro host m hm <;>
  simp [run_exec, run_nil, Instr.straight, exec, shift, readOp, writeOp, maskCount, immValue,
    Width.bits, mergeGpr, Arm.rorC, hm, hf, h256]

theorem EmitRotateRight_cl_none (env : EmitEnv) (st : EmitState) (inst : Nat) (vals)
    (va vc : Value) (i : Nat) (hargs : (st.block.inst inst).args = [va, .Inst i, vc])
    (hcarry : st.block.GetAssociatedPseudoOperation inst .GetCarryFromOp = none) :
    Computes EmitRotateRight env st inst vals (ShiftPost
      (Arm.rorC ((va.hostBits vals).setWidth 32) ((vals i).setWidth 8).toNat
        ((vc.hostBits vals).getLsbD 0))
      (vc.hostBits vals) none st inst) := by
  cases hvc : vc.IsImmediate <;>
  simp only [Computes, EmitRotateRight, GetAssociatedPseudoOperation, GetArg, UseDefGpr,
    UseGpr, DecrementRemainingUses, bind_apply, pure_apply, block_apply,
    request_apply, emit_apply, Inst.GetArg, List.getD_cons_succ, List.getD_cons_zero,
    Value.IsImmediate_Inst, if_true, if_false, Bool.not_true, Bool.not_false, Bool.false_eq_true,
    Except.ok.injEq, Prod.mk.injEq, true_and, exists_eq_left', hcarry, hargs, hvc,
    Option.getD_some, Option.getD_none, ShiftPost, resultReg, codeSince, List.append_assoc,
    List.singleton_append, List.cons_append, List.nil_append, List.drop_left, List.map_cons,
    List.map_nil, Loaded, AllocCall.Holds, AllocCall.loads, AllocCall.gpr, defRegFrom,
    AllocCall.defines, and_true, true_and, List.length_append, List.length_cons, List.length_nil,
    List.length_singleton, Option.some.injEq, exists_eq_left', reduceCtorEq, false_implies,
    implies_true, ite_true, ite_false, zero_add, Value.hostBits_Inst] <;>
  intro host m hm <;>
  obtain ⟨s, hsb⟩ : ∃ s, (vals i).setWidth 8 = s := ⟨_, rfl⟩ <;>
  rcases ror_regimes s.toNat with hf | hf | hf <;>
  simp [run_exec, run_nil, Instr.straight, exec, shift, readOp, writeOp, maskCount, immValue,
    Width.bits, mergeGpr, Arm.rorC, hm, hf, hsb]

theorem EmitRotateRight_imm_carry (env : EmitEnv) (st : EmitState) (inst j : Nat) (vals)
    (va vc : Value) (s : BitVec 8) (hargs : (st.block.inst inst).args = [va, .U8 s, vc])
    (hcarry : st.block.GetAssociatedPseudoOperation inst .GetCarryFromOp = some j)
    (hj : inst ≠ j) :
    Computes EmitRotateRight env st inst vals (ShiftPost
      (Arm.rorC ((va.hostBits vals).setWidth 32) s.toNat ((vc.hostBits vals).getLsbD 0))
      (vc.hostBits vals) (some j) st inst) := by
  rcases ror_regimes s.toNat with hf | hf | hf <;>
  simp only [Computes, EmitRotateRight, GetAssociatedPseudoOperation, GetArg, UseDefGpr,
    EraseInstruction, bind_apply, pure_apply, block_apply, setBlock_apply, request_apply,
    emit_apply, Block.erase_inst, Inst.GetArg, List.getD_cons_succ, List.getD_cons_zero,
    Value.IsImmediate_U8, Value.GetU8, if_true, if_false, Bool.false_eq_true, Except.ok.injEq,
    Prod.mk.injEq, true_and, exists_eq_left', hcarry, hargs, hf, ShiftPost, resultReg, codeSince,
    List.append_assoc, List.singleton_append, List.cons_append, List.nil_append, List.drop_left,
    List.map_cons, List.map_nil, Loaded, AllocCall.Holds, AllocCall.loads, AllocCall.gpr,
    defRegFrom, AllocCall.defines, and_true, true_and, List.length_append, List.length_cons,
    List.length_nil, List.length_singleton, Option.some.injEq, exists_eq_left', forall_eq',
    ite_true, ite_false, zero_add, hj, hj.symm] <;>
  intro host m hm <;>
  simp [run_exec, run_nil, Instr.straight, exec, shift, readOp, writeOp, maskCount, immValue,
    Width.bits, mergeGpr, Arm.rorC, BitVec.msb_eq_getLsbD_last, hm, hf]

theorem EmitRotateRight_cl_carry (env : EmitEnv) (st : EmitState) (inst j : Nat) (vals)
    (va vc : Value) (i : Nat) (hargs : (st.block.inst inst).args = [va, .Inst i, vc])
    (hcarry : st.block.GetAssociatedPseudoOperation inst .GetCarryFromOp = some j)
    (hj : inst ≠ j) :
    Computes EmitRotateRight env st inst vals (ShiftPost
      (Arm.rorC ((va.hostBits vals).setWidth 32) ((vals i).setWidth 8).toNat
        ((vc.hostBits vals).getLsbD 0))
      (vc.hostBits vals) (some j) st inst) := by
  simp only [Computes, EmitRotateRight, GetAssociatedPseudoOperation, GetArg, UseDefGpr,
    UseScratchGpr, EraseInstruction, bind_apply, pure_apply, block_apply, setBlock_apply,
    request_apply, emit_apply, EmitM.L_apply, inLocalLabel_apply, Block.erase_inst, Inst.GetArg,
    List.getD_cons_succ, List.getD_cons_zero, Value.IsImmediate_Inst, if_true, if_false,
    Bool.false_eq_true, Except.ok.injEq, Prod.mk.injEq, true_and, exists_eq_left', hcarry,
    hargs, Option.getD_some, ShiftPost, resultReg, codeSince, List.append_assoc,
    List.singleton_append, List.cons_append, List.nil_append, List.drop_left, List.map_cons,
    List.map_nil, Loaded, AllocCall.Holds, AllocCall.loads, AllocCall.gpr, defRegFrom,
    AllocCall.defines, and_true, true_and, List.length_append, List.length_cons, List.length_nil,
    List.length_singleton, Option.some.injEq, exists_eq_left', forall_eq', ite_true, ite_false,
    zero_add, hj, hj.symm, reduceCtorEq, Value.hostBits_Inst]
  intro host m hm
  obtain ⟨s, hsb⟩ : ∃ s, (vals i).setWidth 8 = s := ⟨_, rfl⟩
  have hlow : (vals i).toNat % 4294967296 &&& 31 = s.toNat % 32 := by
    rw [← hsb, BitVec.toNat_setWidth, and_31_eq_mod]; omega
  rcases ror_regimes s.toNat with hf | hf | hf <;>
  simp [run_exec, run_nil, run_L, run_jmp, run_jcc, run_skip, Instr.straight, Instr.places,
    exec, shift, alu, readOp, writeOp, maskCount, immValue, Width.bits, mergeGpr, Arm.rorC,
    BitVec.msb_eq_getLsbD_last, cond_e_logic, and_31_eq_mod, hm, hf, hsb, hlow]

theorem EmitRotateRight_spec : ShiftSpec .RotateRight EmitRotateRight Arm.rorC := by
  intro env st inst vals va vs vc hop hargs hvs
  rcases hcarry : st.block.GetAssociatedPseudoOperation inst .GetCarryFromOp with _ | j <;>
  rcases Value.fits_U8 hvs with ⟨s, rfl⟩ | ⟨i, rfl⟩ <;>
  simp only [Value.hostBits_U8_setWidth, Value.hostBits_Inst]
  · exact EmitRotateRight_imm_none env st inst vals va vc s hargs hcarry
  · exact EmitRotateRight_cl_none env st inst vals va vc i hargs hcarry
  · exact EmitRotateRight_imm_carry env st inst j vals va vc s hargs hcarry
      (carry_ne hop (by decide) hcarry)
  · exact EmitRotateRight_cl_carry env st inst j vals va vc i hargs hcarry
      (carry_ne hop (by decide) hcarry)

/-! ### Rotate right with extend -/

theorem EmitRotateRightExtended_none (env : EmitEnv) (st : EmitState) (inst : Nat) (vals)
    (va vc : Value) (hargs : (st.block.inst inst).args = [va, vc])
    (hcarry : st.block.GetAssociatedPseudoOperation inst .GetCarryFromOp = none) :
    Computes EmitRotateRightExtended env st inst vals (ShiftPost
      (Arm.rrxC ((va.hostBits vals).setWidth 32) ((vc.hostBits vals).getLsbD 0))
      (vc.hostBits vals) none st inst) := by
  simp only [Computes, EmitRotateRightExtended, GetAssociatedPseudoOperation, GetArg, UseDefGpr,
    UseGpr, bind_apply, pure_apply, block_apply, request_apply, emit_apply, Inst.GetArg,
    List.getD_cons_succ, List.getD_cons_zero, Except.ok.injEq, Prod.mk.injEq, true_and,
    exists_eq_left', hcarry, hargs, Option.getD_none, ShiftPost, resultReg, codeSince,
    List.append_assoc, List.singleton_append, List.cons_append, List.nil_append, List.drop_left,
    List.map_cons, List.map_nil, Loaded, AllocCall.Holds, AllocCall.loads, AllocCall.gpr,
    defRegFrom, AllocCall.defines, and_true, List.length_append, List.length_cons,
    List.length_nil, List.length_singleton, Option.some.injEq, reduceCtorEq, false_implies,
    implies_true, ite_true, ite_false, zero_add]
  intro host m hm
  simp [run_exec, run_nil, Instr.straight, exec, shift, readOp, writeOp, maskCount, immValue,
    Width.bits, mergeGpr, Arm.rrxC, rcr_one_result, hm]

theorem EmitRotateRightExtended_carry (env : EmitEnv) (st : EmitState) (inst j : Nat) (vals)
    (va vc : Value) (hargs : (st.block.inst inst).args = [va, vc])
    (hcarry : st.block.GetAssociatedPseudoOperation inst .GetCarryFromOp = some j)
    (hj : inst ≠ j) :
    Computes EmitRotateRightExtended env st inst vals (ShiftPost
      (Arm.rrxC ((va.hostBits vals).setWidth 32) ((vc.hostBits vals).getLsbD 0))
      (vc.hostBits vals) (some j) st inst) := by
  simp only [Computes, EmitRotateRightExtended, GetAssociatedPseudoOperation, GetArg, UseDefGpr,
    EraseInstruction, bind_apply, pure_apply, block_apply, setBlock_apply, request_apply,
    emit_apply, Block.erase_inst, Inst.GetArg, List.getD_cons_succ, List.getD_cons_zero,
    Except.ok.injEq, Prod.mk.injEq, true_and, exists_eq_left', hcarry, hargs, ShiftPost,
    resultReg, codeSince, List.append_assoc, List.singleton_append, List.cons_append,
    List.nil_append, List.drop_left, List.map_cons, List.map_nil, Loaded, AllocCall.Holds,
    AllocCall.loads, AllocCall.gpr, defRegFrom, AllocCall.defines, and_true, List.length_append,
    List.length_cons, List.length_nil, List.length_singleton, Option.some.injEq, forall_eq',
    ite_true, ite_false, zero_add, hj, hj.symm]
  intro host m hm
  simp [run_exec, run_nil, Instr.straight, exec, shift, readOp, writeOp, maskCount, immValue,
    Width.bits, mergeGpr, Arm.rrxC, rcr_one_result, rcr_one_msb, hm]

/-- `EmitRotateRightExtended` on `RRX(a, c)`: the ARM result and carry of `RRX_C`, with and
without a `GetCarryFromOp` attached. -/
theorem EmitRotateRightExtended_spec (env : EmitEnv) (st : EmitState) (inst : Nat) (vals)
    (va vc : Value) (hop : (st.block.inst inst).op = .RotateRightExtended)
    (hargs : (st.block.inst inst).args = [va, vc]) :
    Computes EmitRotateRightExtended env st inst vals (ShiftPost
      (Arm.rrxC ((va.hostBits vals).setWidth 32) ((vc.hostBits vals).getLsbD 0))
      (vc.hostBits vals) (st.block.GetAssociatedPseudoOperation inst .GetCarryFromOp) st inst) := by
  rcases hcarry : st.block.GetAssociatedPseudoOperation inst .GetCarryFromOp with _ | j
  · exact EmitRotateRightExtended_none env st inst vals va vc hargs hcarry
  · exact EmitRotateRightExtended_carry env st inst j vals va vc hargs hcarry
      (carry_ne hop (by decide) hcarry)

/-- Every shift emitter agrees with ARM's `Shift_C`, on both amount paths and with and without a
carry pseudo-op; `EmitRotateRightExtended` agrees with `RRX_C`. -/
theorem shift_emitters_agree_with_arm :
    ShiftSpec .LogicalShiftLeft EmitLogicalShiftLeft Arm.lslC ∧
    ShiftSpec .LogicalShiftRight EmitLogicalShiftRight Arm.lsrC ∧
    ShiftSpec .ArithmeticShiftRight EmitArithmeticShiftRight Arm.asrC ∧
    ShiftSpec .RotateRight EmitRotateRight Arm.rorC ∧
    ∀ env st inst vals va vc, (st.block.inst inst).op = .RotateRightExtended →
      (st.block.inst inst).args = [va, vc] →
      Computes EmitRotateRightExtended env st inst vals (ShiftPost
        (Arm.rrxC ((va.hostBits vals).setWidth 32) ((vc.hostBits vals).getLsbD 0))
        (vc.hostBits vals) (st.block.GetAssociatedPseudoOperation inst .GetCarryFromOp) st inst) :=
  ⟨EmitLogicalShiftLeft_spec, EmitLogicalShiftRight_spec, EmitArithmeticShiftRight_spec,
    EmitRotateRight_spec, EmitRotateRightExtended_spec⟩

end Dynarmic.BackendX64
