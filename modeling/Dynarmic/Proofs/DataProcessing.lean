import Dynarmic.BackendX64.Bindings
import Dynarmic.BackendX64.DataProcessing
import Dynarmic.Arm.Pseudocode
import Dynarmic.X64.Run

/-!
# The data-processing emitters agree with ARM

Both paths of `EmitCountLeadingZeros` leave `CountLeadingZeroBits` of the operand. The
saturating emitters leave `SignedSatQ` or `UnsignedSatQ` of their operands and, in an attached
`GetOverflowFromOp`, whether they saturated. The x86 sequences are read back through the
compare lemmas; what remains of each is arithmetic on words, proved once per emitter.
-/

namespace Dynarmic.X64

/-- The `LZCNT` loop counts the bits above `HighestSetBit`'s. -/
theorem zerosFrom_eq (x : BitVec 32) (k : Nat) :
    zerosFrom x k = (k - 1 - Arm.highestSetBitBelow x k).toNat := by
  induction k with
  | zero => rfl
  | succ k ih =>
    have bounds := Arm.highestSetBitBelow_bounds x k
    simp only [zerosFrom, Arm.highestSetBitBelow]
    split <;> omega

end Dynarmic.X64

namespace Dynarmic.BackendX64

open X64 IR EmitM

/-! ### Count leading zeros -/

/-- `LZCNT` of a word is `CountLeadingZeroBits`. -/
theorem zerosFrom_eq_countLeadingZeroBits (x : BitVec 32) :
    zerosFrom x 32 = Arm.countLeadingZeroBits x := zerosFrom_eq x 32

/-- What `NEG` and `ADD 31` make of the index `BSR` leaves: the count of leading zeros. -/
theorem bsr_fixup (z : Nat) (h : z ≤ 31) :
    -BitVec.ofNat 32 (31 - z) + 31#32 = BitVec.ofNat 32 z := by
  apply BitVec.eq_of_toNat_eq
  simp [BitVec.toNat_add, BitVec.toNat_neg]
  omega

theorem EmitCountLeadingZeros_lzcnt (env : EmitEnv) (st : EmitState) (inst : Nat) (vals)
    (lzcnt : env.cpu_info .tLZCNT = true) :
    Computes EmitCountLeadingZeros env st inst vals (fun st' => ResultIs st st' inst
      (BitVec.ofNat 32 (Arm.countLeadingZeroBits (argWord vals st.block inst 0)))) := by
  simp only [Computes, EmitCountLeadingZeros, argWord, GetArg_apply, cpuHas_apply, UseGpr_apply,
    DefGpr_apply, bind_apply, pure_apply, emit_apply, lzcnt, if_true, Except.ok.injEq,
    Prod.mk.injEq, true_and, exists_eq_left', ResultIs, resultReg, codeSince, List.append_assoc,
    List.singleton_append, List.cons_append, List.nil_append, List.drop_left, List.map_cons,
    List.map_nil, Loaded, AllocCall.Holds, AllocCall.loads, AllocCall.gpr, defRegFrom,
    AllocCall.defines, and_true, Option.getD_none, ite_true, ite_false, Option.some.injEq,
    reduceCtorEq]
  intro host m hm
  simp [run_exec, run_nil, Instr.straight, exec, readOp, writeOp, mergeGpr, Width.bits, hm,
    zerosFrom_eq_countLeadingZeroBits]

theorem EmitCountLeadingZeros_bsr (env : EmitEnv) (st : EmitState) (inst : Nat) (vals)
    (no_lzcnt : env.cpu_info .tLZCNT = false) :
    Computes EmitCountLeadingZeros env st inst vals (fun st' => ResultIs st st' inst
      (BitVec.ofNat 32 (Arm.countLeadingZeroBits (argWord vals st.block inst 0)))) := by
  simp only [Computes, EmitCountLeadingZeros, argWord, GetArg_apply, cpuHas_apply,
    UseScratchGpr_apply, DefGpr_apply, bind_apply, pure_apply, emit_apply, no_lzcnt,
    Bool.false_eq_true, if_false, Except.ok.injEq, Prod.mk.injEq, true_and, exists_eq_left',
    ResultIs, resultReg, codeSince, List.append_assoc, List.singleton_append, List.cons_append,
    List.nil_append, List.drop_left, List.map_cons, List.map_nil, Loaded, AllocCall.Holds,
    AllocCall.loads, AllocCall.gpr, defRegFrom, AllocCall.defines, and_true, Option.getD_none,
    ite_true, ite_false, Option.some.injEq, reduceCtorEq]
  intro host m hm
  obtain ⟨x, hx⟩ : ∃ x, (((st.block.inst inst).GetArg 0).hostBits vals).setWidth 32 = x :=
    ⟨_, rfl⟩
  by_cases zero : x = 0#32
  · simp [run_exec, run_nil, Instr.straight, exec, alu, readOp, writeOp, mergeGpr, immValue,
      Width.bits, CondCode.eval, hm, hx, zero]
  · simp [run_exec, run_nil, Instr.straight, exec, alu, readOp, writeOp, mergeGpr, immValue,
      Width.bits, CondCode.eval, hm, hx, zero, zerosFrom_eq_countLeadingZeroBits,
      bsr_fixup _ (Arm.countLeadingZeroBits_le zero)]

/-- Both paths of `EmitCountLeadingZeros`, whichever the host CPU takes, leave
`CountLeadingZeroBits` of the operand, which is 32 for zero. -/
theorem EmitCountLeadingZeros_clz (env : EmitEnv) (st : EmitState) (inst : Nat) (vals) :
    Computes EmitCountLeadingZeros env st inst vals (fun st' => ResultIs st st' inst
      (BitVec.ofNat 32 (Arm.countLeadingZeroBits (argWord vals st.block inst 0)))) ∧
    Arm.countLeadingZeroBits 0#32 = 32 := by
  refine ⟨?_, Arm.countLeadingZeroBits_zero⟩
  cases lzcnt : env.cpu_info .tLZCNT
  · exact EmitCountLeadingZeros_bsr env st inst vals lzcnt
  · exact EmitCountLeadingZeros_lzcnt env st inst vals lzcnt

/-! ### Saturation -/

/-- What a saturating emitter promises for the saturation `r` of its operands: the result
register holds the saturated value, and an attached overflow pseudo-op holds whether it
saturated. -/
def SatPost (r : Int × Bool) (st : EmitState) (inst : Nat) (st' : EmitState) (m' : Machine) :
    Prop :=
  ResultIs st st' inst (BitVec.ofInt 32 r.1) m' ∧
    FlagIs st st' (st.block.GetAssociatedPseudoOperation inst .GetOverflowFromOp) r.2 m'

/-- The bound the saturated add and subtract prepare from the first operand: `0x7FFFFFFF` for
a non-negative one, `0x80000000` for a negative one. -/
theorem toNat_saturation_bound (a : BitVec 32) :
    (a >>> 31 + 0x7FFFFFFF#32).toNat = 2147483647 + a.toNat / 2147483648 := by
  have := a.isLt
  rw [BitVec.toNat_add, BitVec.toNat_ushiftRight, Nat.shiftRight_eq_div_pow]
  simp only [BitVec.toNat_ofNat]
  omega

/-! The two members of `EmitSignedSaturatedOp` differ in the instruction `op` that combines the
operands. For any `op` that leaves `f a b` with overflow flag `o a b`, the emitter leaves the
bound of `a` when `o a b` holds and `f a b` otherwise. -/

section SignedSaturatedOp

variable (op : Width → Operand → Operand → Instr) (f : BitVec 32 → BitVec 32 → BitVec 32)
  (F : BitVec 32 → BitVec 32 → Flags) (o : BitVec 32 → BitVec 32 → Bool)
  (straight : ∀ w d s, (op w d s).straight = true)
  (execs : ∀ m d s, exec m (op .dword (.reg d) (.reg s)) =
    alu m .dword (.reg d) (.reg s) true (fun x y => some (f x y, F x y)))
  (overflows : ∀ x y, (F x y).of = some (o x y))

/-- What `EmitSignedSaturatedOp op` leaves for operands `a` and `b`. -/
def SignedSaturatedOpPost (st : EmitState) (inst : Nat) (vals : Nat → BitVec 64)
    (pseudo : Option Nat) (st' : EmitState) (m' : Machine) : Prop :=
  let a := argWord vals st.block inst 0
  let b := argWord vals st.block inst 1
  ResultIs st st' inst (if o a b then a >>> 31 + 0x7FFFFFFF#32 else f a b) m' ∧
    FlagIs st st' pseudo (o a b) m'

include straight execs overflows in
theorem EmitSignedSaturatedOp_none (env : EmitEnv) (st : EmitState) (inst : Nat) (vals)
    (none_attached : st.block.GetAssociatedPseudoOperation inst .GetOverflowFromOp = none) :
    Computes (EmitSignedSaturatedOp op) env st inst vals
      (SignedSaturatedOpPost f o st inst vals none) := by
  simp only [Computes, EmitSignedSaturatedOp, SignedSaturatedOpPost, argWord,
    GetAssociatedPseudoOperation_apply, GetArg_apply, UseDefGpr_apply, UseGpr_apply,
    ScratchGpr_apply, bind_apply, pure_apply, emit_apply, none_attached, Except.ok.injEq,
    Prod.mk.injEq, true_and, exists_eq_left', ResultIs, FlagIs, resultReg, codeSince,
    List.append_assoc, List.singleton_append, List.cons_append, List.nil_append, List.drop_left,
    List.map_cons, List.map_nil, Loaded, AllocCall.Holds, AllocCall.loads, AllocCall.gpr,
    defRegFrom, AllocCall.defines, and_true, Option.getD_none, ite_true, ite_false,
    Option.some.injEq, reduceCtorEq, false_implies, implies_true]
  intro host m hm
  simp [run_exec, run_exec _ _ _ (straight _ _ _), run_nil, Instr.straight, ↓execs, exec, shift,
    alu, readOp, writeOp, mergeGpr, maskCount, immValue, Width.bits, CondCode.eval, overflows, hm]

include straight execs overflows in
theorem EmitSignedSaturatedOp_some (env : EmitEnv) (st : EmitState) (inst j : Nat) (vals)
    (attached : st.block.GetAssociatedPseudoOperation inst .GetOverflowFromOp = some j)
    (other : inst ≠ j) :
    Computes (EmitSignedSaturatedOp op) env st inst vals
      (SignedSaturatedOpPost f o st inst vals (some j)) := by
  simp only [Computes, EmitSignedSaturatedOp, SignedSaturatedOpPost, argWord,
    GetAssociatedPseudoOperation_apply, GetArg_apply, UseDefGpr_apply, UseGpr_apply,
    DefGpr_apply, EraseInstruction_apply, bind_apply, pure_apply, emit_apply, attached,
    Except.ok.injEq, Prod.mk.injEq, true_and, exists_eq_left', ResultIs, FlagIs, resultReg,
    codeSince, List.append_assoc, List.singleton_append, List.cons_append, List.nil_append,
    List.drop_left, List.map_cons, List.map_nil, Loaded, AllocCall.Holds, AllocCall.loads,
    AllocCall.gpr, defRegFrom, AllocCall.defines, and_true, Option.getD_none, ite_true,
    ite_false, Option.some.injEq, reduceCtorEq, forall_eq', other, other.symm]
  intro host m hm
  simp [run_exec, run_exec _ _ _ (straight _ _ _), run_nil, Instr.straight, ↓execs, exec, shift,
    alu, readOp, writeOp, mergeGpr, maskCount, immValue, Width.bits, CondCode.eval, overflows, hm]

include straight execs overflows in
theorem EmitSignedSaturatedOp_spec (env : EmitEnv) (st : EmitState) (inst : Nat) (vals)
    (not_pseudo : (st.block.inst inst).op ≠ .GetOverflowFromOp) :
    Computes (EmitSignedSaturatedOp op) env st inst vals (SignedSaturatedOpPost f o st inst vals
      (st.block.GetAssociatedPseudoOperation inst .GetOverflowFromOp)) := by
  rcases attached : st.block.GetAssociatedPseudoOperation inst .GetOverflowFromOp with _ | j
  · exact EmitSignedSaturatedOp_none op f F o straight execs overflows env st inst vals attached
  · exact EmitSignedSaturatedOp_some op f F o straight execs overflows env st inst j vals attached
      (Block.GetAssociatedPseudoOperation_ne not_pseudo attached)

end SignedSaturatedOp

theorem signedSatQ_add_overflow (a b : BitVec 32) :
    (a.msb == b.msb && (a + b).msb != a.msb) = (Arm.signedSatQ (a.toInt + b.toInt) 32).2 := by
  have ha := a.isLt
  have hb := b.isLt
  simp only [BitVec.msb_eq_decide, BitVec.toNat_add, toInt_eq_toNat_sub, Arm.signedSatQ]
  split_ifs <;> simp <;> omega

theorem signedSatQ_sub_overflow (a b : BitVec 32) :
    (a.msb != b.msb && (a - b).msb != a.msb) = (Arm.signedSatQ (a.toInt - b.toInt) 32).2 := by
  have ha := a.isLt
  have hb := b.isLt
  simp only [BitVec.msb_eq_decide, BitVec.toNat_sub, toInt_eq_toNat_sub, Arm.signedSatQ]
  split_ifs <;> simp <;> omega

/-- An overflowing add saturates towards the first operand's sign, which the bound carries. -/
theorem signedSatQ_add_value (a b : BitVec 32) :
    (if (a.msb == b.msb && (a + b).msb != a.msb) then a >>> 31 + 0x7FFFFFFF#32 else a + b) =
      BitVec.ofInt 32 (Arm.signedSatQ (a.toInt + b.toInt) 32).1 := by
  have ha := a.isLt
  have hb := b.isLt
  unfold Arm.signedSatQ
  split_ifs <;> apply BitVec.eq_of_toNat_eq <;>
    simp only [BitVec.msb_eq_decide, BitVec.toNat_add, toInt_eq_toNat_sub, BitVec.toNat_ofInt,
      ↓toNat_saturation_bound, Bool.and_eq_true, beq_iff_eq, bne_iff_ne, ne_eq, decide_eq_decide,
      decide_eq_true_eq, Bool.not_eq_true, Bool.and_eq_false_iff, Bool.eq_false_iff] at * <;>
    omega

/-- An overflowing subtract saturates towards the first operand's sign, as the add does. -/
theorem signedSatQ_sub_value (a b : BitVec 32) :
    (if (a.msb != b.msb && (a - b).msb != a.msb) then a >>> 31 + 0x7FFFFFFF#32 else a - b) =
      BitVec.ofInt 32 (Arm.signedSatQ (a.toInt - b.toInt) 32).1 := by
  have ha := a.isLt
  have hb := b.isLt
  unfold Arm.signedSatQ
  split_ifs <;> apply BitVec.eq_of_toNat_eq <;>
    simp only [BitVec.msb_eq_decide, BitVec.toNat_sub, BitVec.toNat_add, toInt_eq_toNat_sub,
      BitVec.toNat_ofInt, ↓toNat_saturation_bound, Bool.and_eq_true, beq_iff_eq, bne_iff_ne,
      ne_eq, decide_eq_decide, decide_eq_true_eq, Bool.not_eq_true, Bool.and_eq_false_iff,
      Bool.eq_false_iff] at * <;>
    omega

/-- `EmitSignedSaturatedAdd` and `EmitSignedSaturatedSub` leave `SignedSatQ` of the sum and of
the difference of their operands' signed values, and whether it saturated. -/
theorem EmitSignedSaturatedAddSub_clamp (env : EmitEnv) (st : EmitState) (inst : Nat) (vals) :
    ((st.block.inst inst).op = .SignedSaturatedAdd →
      Computes EmitSignedSaturatedAdd env st inst vals (SatPost
        (Arm.signedSatQ ((argWord vals st.block inst 0).toInt + (argWord vals st.block inst 1).toInt)
          32) st inst)) ∧
    ((st.block.inst inst).op = .SignedSaturatedSub →
      Computes EmitSignedSaturatedSub env st inst vals (SatPost
        (Arm.signedSatQ ((argWord vals st.block inst 0).toInt - (argWord vals st.block inst 1).toInt)
          32) st inst)) := by
  constructor
  · intro hop
    refine (EmitSignedSaturatedOp_spec .add (· + ·) (fun x y => addFlags x y false (x + y)) _
      (fun _ _ _ => rfl) (fun _ _ _ => rfl) (fun _ _ => rfl) env st inst vals
      (by rw [hop]; decide)).mono fun st' m' ⟨result, flag⟩ => ?_
    exact ⟨signedSatQ_add_value _ _ ▸ result, signedSatQ_add_overflow _ _ ▸ flag⟩
  · intro hop
    refine (EmitSignedSaturatedOp_spec .sub (· - ·) (fun x y => subFlags x y false (x - y)) _
      (fun _ _ _ => rfl) (fun _ _ _ => rfl) (fun _ _ => rfl) env st inst vals
      (by rw [hop]; decide)).mono fun st' m' ⟨result, flag⟩ => ?_
    exact ⟨signedSatQ_sub_value _ _ ▸ result, signedSatQ_sub_overflow _ _ ▸ flag⟩

/-- A constant below `2^31` read back as a signed word is itself. -/
theorem toInt_ofNat_of_lt {v : Nat} (h : v < 2147483648) : (BitVec.ofNat 32 v).toInt = v := by
  rw [toInt_eq_toNat_sub, BitVec.toNat_ofNat, Nat.mod_eq_of_lt (by omega), Nat.div_eq_of_lt h]
  simp

/-- `2^(N-1)` for `N` in `1..31`: half of `2^N`, and at most `2^30`. -/
theorem half_pow_bounds (N : Nat) (lower : 1 ≤ N) (upper : N < 32) :
    2 ^ N = 2 * 2 ^ (N - 1) ∧ 1 ≤ 2 ^ (N - 1) ∧ 2 ^ (N - 1) ≤ 1073741824 := by
  refine ⟨?_, Nat.one_le_two_pow, ?_⟩
  · rw [← Nat.pow_succ']
    congr 1
    omega
  · exact (Nat.pow_le_pow_right (by decide) (by omega : N - 1 ≤ 30)).trans (by decide)

/-- `SignExtend(N, 2^(N-1))`: the most negative `N`-bit value, as a word. -/
theorem SignExtend_negative_saturated (N : Nat) (lower : 1 ≤ N) (upper : N < 32) :
    Common.SignExtend N (2 ^ (N - 1)) = 4294967296 - 2 ^ (N - 1) := by
  obtain ⟨double, one_le, small⟩ := half_pow_bounds N lower upper
  simp only [Common.SignExtend, BitVec.signExtend, BitVec.toNat_ofInt, BitVec.toInt_eq_toNat_cond,
    BitVec.toNat_ofNat, double]
  generalize 2 ^ (N - 1) = K at *
  rw [Nat.mod_eq_of_lt (by omega), if_neg (by omega)]
  omega

/-- What `EmitSignedSaturation` leaves for `N < 32`: the operand if `a + 2^(N-1)` lies in
`[0, 2^N - 1]`, otherwise the bound on the operand's side. That is `SignedSatQ(SInt(a), N)`. -/
theorem signedSaturation_value (x : BitVec 32) (N : Nat) (lower : 1 ≤ N) (upper : N < 32) :
    (if (x + BitVec.ofNat 32 (1 <<< (N - 1))).toNat ≤ (BitVec.ofNat 32 ((1 <<< N) - 1)).toNat then x
      else if (BitVec.ofNat 32 ((1 <<< (N - 1)) - 1)).toInt < x.toInt then
        BitVec.ofNat 32 ((1 <<< (N - 1)) - 1)
      else BitVec.ofNat 32 (Common.SignExtend N (1 <<< (N - 1)))) =
    BitVec.ofInt 32 (Arm.signedSatQ x.toInt N).1 := by
  obtain ⟨double, one_le, small⟩ := half_pow_bounds N lower upper
  have hx := x.isLt
  simp only [Nat.one_shiftLeft, SignExtend_negative_saturated N lower upper,
    toInt_ofNat_of_lt (show 2 ^ (N - 1) - 1 < 2147483648 by omega), Arm.signedSatQ,
    toInt_eq_toNat_sub x, BitVec.toNat_add, BitVec.toNat_ofNat, double]
  rw [show (2 : Int) ^ (N - 1) = ((2 ^ (N - 1) : Nat) : Int) by push_cast; rfl]
  generalize 2 ^ (N - 1) = K at *
  split_ifs <;> apply BitVec.eq_of_toNat_eq <;>
    simp only [BitVec.toNat_ofInt, BitVec.toNat_ofNat] <;> omega

theorem signedSaturation_overflow (x : BitVec 32) (N : Nat) (lower : 1 ≤ N) (upper : N < 32) :
    decide ((BitVec.ofNat 32 ((1 <<< N) - 1)).toNat < (x + BitVec.ofNat 32 (1 <<< (N - 1))).toNat) =
      (Arm.signedSatQ x.toInt N).2 := by
  obtain ⟨double, one_le, small⟩ := half_pow_bounds N lower upper
  have hx := x.isLt
  simp only [Nat.one_shiftLeft, Arm.signedSatQ, toInt_eq_toNat_sub x, BitVec.toNat_add,
    BitVec.toNat_ofNat, double]
  rw [show (2 : Int) ^ (N - 1) = ((2 ^ (N - 1) : Nat) : Int) by push_cast; rfl]
  generalize 2 ^ (N - 1) = K at *
  split_ifs <;> simp only [decide_eq_true_eq, decide_eq_false_iff_not] <;> omega

/-- What `EmitUnsignedSaturation` leaves: the operand if it is at most `2^N - 1` unsigned,
otherwise zero for a negative operand and `2^N - 1` for a positive one. That is
`UnsignedSatQ(SInt(a), N)`. -/
theorem unsignedSaturation_value (x : BitVec 32) (N : Nat) (upper : N ≤ 31) :
    (if x.toNat ≤ (BitVec.ofNat 32 ((1 <<< N) - 1)).toNat then x
      else if x.toInt ≤ (BitVec.ofNat 32 ((1 <<< N) - 1)).toInt then 0#32
      else BitVec.ofNat 32 ((1 <<< N) - 1)) =
    BitVec.ofInt 32 (Arm.unsignedSatQ x.toInt N).1 := by
  have small : 2 ^ N ≤ 2147483648 := (Nat.pow_le_pow_right (by decide) upper).trans (by decide)
  have one_le : 1 ≤ 2 ^ N := Nat.one_le_two_pow
  have hx := x.isLt
  simp only [Nat.one_shiftLeft, toInt_ofNat_of_lt (show 2 ^ N - 1 < 2147483648 by omega),
    Arm.unsignedSatQ, toInt_eq_toNat_sub x, BitVec.toNat_ofNat]
  rw [show (2 : Int) ^ N = ((2 ^ N : Nat) : Int) by push_cast; rfl]
  generalize 2 ^ N = S at *
  split_ifs <;> apply BitVec.eq_of_toNat_eq <;>
    simp only [BitVec.toNat_ofInt, BitVec.toNat_ofNat] <;> omega

theorem unsignedSaturation_overflow (x : BitVec 32) (N : Nat) (upper : N ≤ 31) :
    decide ((BitVec.ofNat 32 ((1 <<< N) - 1)).toNat < x.toNat) = (Arm.unsignedSatQ x.toInt N).2 := by
  have small : 2 ^ N ≤ 2147483648 := (Nat.pow_le_pow_right (by decide) upper).trans (by decide)
  have one_le : 1 ≤ 2 ^ N := Nat.one_le_two_pow
  have hx := x.isLt
  simp only [Nat.one_shiftLeft, Arm.unsignedSatQ, toInt_eq_toNat_sub x, BitVec.toNat_ofNat]
  rw [show (2 : Int) ^ N = ((2 ^ N : Nat) : Int) by push_cast; rfl]
  generalize 2 ^ N = S at *
  split_ifs <;> simp only [decide_eq_true_eq, decide_eq_false_iff_not] <;> omega

theorem EmitUnsignedSaturation_none (env : EmitEnv) (st : EmitState) (inst : Nat) (vals)
    (upper : ((st.block.inst inst).GetArg 1).GetU8.toNat ≤ 31)
    (none_attached : st.block.GetAssociatedPseudoOperation inst .GetOverflowFromOp = none) :
    Computes EmitUnsignedSaturation env st inst vals (SatPost (Arm.unsignedSatQ
      (argWord vals st.block inst 0).toInt ((st.block.inst inst).GetArg 1).GetU8.toNat) st inst) := by
  obtain ⟨N, hN⟩ : ∃ N, ((st.block.inst inst).GetArg 1).GetU8.toNat = N := ⟨_, rfl⟩
  rw [hN] at upper ⊢
  simp only [Computes, EmitUnsignedSaturation, SatPost, argWord, GetAssociatedPseudoOperation_apply,
    GetArg_apply, DefGpr_apply, UseGpr_apply, ScratchGpr_apply, bind_apply, pure_apply,
    emit_apply, assert_apply, none_attached, hN, upper, decide_True, if_true, Except.ok.injEq,
    Prod.mk.injEq, true_and, exists_eq_left', ResultIs, FlagIs, resultReg, codeSince,
    List.append_assoc, List.singleton_append, List.cons_append, List.nil_append, List.drop_left,
    List.map_cons, List.map_nil, Loaded, AllocCall.Holds, AllocCall.loads, AllocCall.gpr,
    defRegFrom, AllocCall.defines, and_true, Option.getD_none, ite_true, ite_false,
    Option.some.injEq, reduceCtorEq, false_implies, implies_true]
  intro host m hm
  obtain ⟨x, hx⟩ : ∃ x, (((st.block.inst inst).GetArg 0).hostBits vals).setWidth 32 = x :=
    ⟨_, rfl⟩
  simp [run_exec, run_nil, Instr.straight, exec, alu, readOp, writeOp, mergeGpr, immValue,
    Width.bits, cond_le_cmp, cond_be_cmp, hm, hx]
  simpa using unsignedSaturation_value x N upper

theorem EmitUnsignedSaturation_some (env : EmitEnv) (st : EmitState) (inst j : Nat) (vals)
    (upper : ((st.block.inst inst).GetArg 1).GetU8.toNat ≤ 31)
    (attached : st.block.GetAssociatedPseudoOperation inst .GetOverflowFromOp = some j)
    (other : inst ≠ j) :
    Computes EmitUnsignedSaturation env st inst vals (SatPost (Arm.unsignedSatQ
      (argWord vals st.block inst 0).toInt ((st.block.inst inst).GetArg 1).GetU8.toNat) st inst) := by
  obtain ⟨N, hN⟩ : ∃ N, ((st.block.inst inst).GetArg 1).GetU8.toNat = N := ⟨_, rfl⟩
  rw [hN] at upper ⊢
  simp only [Computes, EmitUnsignedSaturation, SatPost, argWord, GetAssociatedPseudoOperation_apply,
    GetArg_apply, DefGpr_apply, UseGpr_apply, EraseInstruction_apply, bind_apply, pure_apply,
    emit_apply, assert_apply, attached, hN, upper, decide_True, if_true, Except.ok.injEq,
    Prod.mk.injEq, true_and, exists_eq_left', ResultIs, FlagIs, resultReg, codeSince,
    List.append_assoc, List.singleton_append, List.cons_append, List.nil_append, List.drop_left,
    List.map_cons, List.map_nil, Loaded, AllocCall.Holds, AllocCall.loads, AllocCall.gpr,
    defRegFrom, AllocCall.defines, and_true, Option.getD_none, ite_true, ite_false,
    Option.some.injEq, reduceCtorEq, forall_eq', other, other.symm]
  intro host m hm
  obtain ⟨x, hx⟩ : ∃ x, (((st.block.inst inst).GetArg 0).hostBits vals).setWidth 32 = x :=
    ⟨_, rfl⟩
  simp [run_exec, run_nil, Instr.straight, exec, alu, readOp, writeOp, mergeGpr, immValue,
    Width.bits, cond_le_cmp, cond_be_cmp, cond_a_cmp, hm, hx]
  exact ⟨by simpa using unsignedSaturation_value x N upper,
    by simpa using unsignedSaturation_overflow x N upper⟩

theorem EmitSignedSaturation_none (env : EmitEnv) (st : EmitState) (inst : Nat) (vals)
    (lower : 1 ≤ ((st.block.inst inst).GetArg 1).GetU8.toNat)
    (upper : ((st.block.inst inst).GetArg 1).GetU8.toNat < 32)
    (none_attached : st.block.GetAssociatedPseudoOperation inst .GetOverflowFromOp = none) :
    Computes EmitSignedSaturation env st inst vals (SatPost (Arm.signedSatQ
      (argWord vals st.block inst 0).toInt ((st.block.inst inst).GetArg 1).GetU8.toNat) st inst) := by
  obtain ⟨N, hN⟩ : ∃ N, ((st.block.inst inst).GetArg 1).GetU8.toNat = N := ⟨_, rfl⟩
  rw [hN] at lower upper ⊢
  simp only [Computes, EmitSignedSaturation, SatPost, argWord, GetAssociatedPseudoOperation_apply,
    GetArg_apply, DefGpr_apply, UseGpr_apply, ScratchGpr_apply, bind_apply, pure_apply,
    emit_apply, assert_apply, none_attached, hN, lower, upper.le, Nat.ne_of_lt upper,
    decide_True, Bool.true_and, if_true, if_false, Except.ok.injEq, Prod.mk.injEq, true_and,
    exists_eq_left', ResultIs, FlagIs, resultReg, codeSince, List.append_assoc,
    List.singleton_append, List.cons_append, List.nil_append, List.drop_left, List.map_cons,
    List.map_nil, Loaded, AllocCall.Holds, AllocCall.loads, AllocCall.gpr, defRegFrom,
    AllocCall.defines, and_true, Option.getD_none, ite_true, ite_false, Option.some.injEq,
    reduceCtorEq, false_implies, implies_true]
  intro host m hm
  obtain ⟨x, hx⟩ : ∃ x, (((st.block.inst inst).GetArg 0).hostBits vals).setWidth 32 = x :=
    ⟨_, rfl⟩
  simp [run_exec, run_nil, Instr.straight, exec, alu, readOp, writeOp, mergeGpr, immValue,
    Width.bits, cond_g_cmp_toInt, cond_be_cmp, hm, hx, BitVec.setWidth_add]
  simpa using signedSaturation_value x N lower upper

theorem EmitSignedSaturation_some (env : EmitEnv) (st : EmitState) (inst j : Nat) (vals)
    (lower : 1 ≤ ((st.block.inst inst).GetArg 1).GetU8.toNat)
    (upper : ((st.block.inst inst).GetArg 1).GetU8.toNat < 32)
    (attached : st.block.GetAssociatedPseudoOperation inst .GetOverflowFromOp = some j)
    (other : inst ≠ j) :
    Computes EmitSignedSaturation env st inst vals (SatPost (Arm.signedSatQ
      (argWord vals st.block inst 0).toInt ((st.block.inst inst).GetArg 1).GetU8.toNat) st inst) := by
  obtain ⟨N, hN⟩ : ∃ N, ((st.block.inst inst).GetArg 1).GetU8.toNat = N := ⟨_, rfl⟩
  rw [hN] at lower upper ⊢
  simp only [Computes, EmitSignedSaturation, SatPost, argWord, GetAssociatedPseudoOperation_apply,
    GetArg_apply, DefGpr_apply, UseGpr_apply, ScratchGpr_apply, EraseInstruction_apply,
    bind_apply, pure_apply, emit_apply, assert_apply, attached, hN, lower, upper.le,
    Nat.ne_of_lt upper, decide_True, Bool.true_and, if_true, if_false, Except.ok.injEq,
    Prod.mk.injEq, true_and, exists_eq_left', ResultIs, FlagIs, resultReg, codeSince,
    List.append_assoc, List.singleton_append, List.cons_append, List.nil_append, List.drop_left,
    List.map_cons, List.map_nil, Loaded, AllocCall.Holds, AllocCall.loads, AllocCall.gpr,
    defRegFrom, AllocCall.defines, and_true, Option.getD_none, ite_true, ite_false,
    Option.some.injEq, reduceCtorEq, forall_eq', other, other.symm]
  intro host m hm
  obtain ⟨x, hx⟩ : ∃ x, (((st.block.inst inst).GetArg 0).hostBits vals).setWidth 32 = x :=
    ⟨_, rfl⟩
  simp [run_exec, run_nil, Instr.straight, exec, alu, readOp, writeOp, mergeGpr, immValue,
    Width.bits, cond_g_cmp_toInt, cond_be_cmp, cond_a_cmp, hm, hx, BitVec.setWidth_add]
  exact ⟨by simpa using signedSaturation_value x N lower upper,
    by simpa using signedSaturation_overflow x N lower upper⟩

/-- Every word is in the 32-bit signed range: `SignedSatQ(SInt(a), 32)` never saturates. -/
theorem signedSatQ_32 (x : BitVec 32) : Arm.signedSatQ x.toInt 32 = (x.toInt, false) := by
  have := x.isLt
  simp only [Arm.signedSatQ, toInt_eq_toNat_sub x]
  split_ifs <;> first | rfl | omega

/-- With `N = 32` the emitter writes no code: it registers the operand as the instruction's
value, and rewrites an attached overflow pseudo-op into the constant `false`. -/
theorem EmitSignedSaturation_32 (env : EmitEnv) (st : EmitState) (inst : Nat)
    (full : ((st.block.inst inst).GetArg 1).GetU8.toNat = 32) :
    ∃ st', EmitSignedSaturation inst env st = .ok ((), st') ∧ codeSince st st' = [] ∧
      st'.calls = st.calls ++ [.RegisterAddDef inst ((st.block.inst inst).GetArg 0)] ∧
      ∀ j, st.block.GetAssociatedPseudoOperation inst .GetOverflowFromOp = some j →
        st'.block.inst j = ⟨.Identity, [.U1 false], (st.block.inst j).use_count⟩ := by
  rcases attached : st.block.GetAssociatedPseudoOperation inst .GetOverflowFromOp with _ | j
  · simp [EmitSignedSaturation, RegisterAddDef, codeSince, full, attached]
  · have present : (st.block.inst j).op ≠ .Breakpoint := by
      rw [(Block.GetAssociatedPseudoOperation_some attached).1]; decide
    simp [EmitSignedSaturation, RegisterAddDef, ReplaceUsesWith, codeSince, full, attached,
      Block.inst_replaceUsesWith _ _ _ present]

/-- `EmitSignedSaturation` leaves `SignedSatQ(SInt(a), N)` for every `N` in `1..31`; for
`N = 32` it writes no code, the result being the operand and the overflow the constant `false`,
which is `SignedSatQ(SInt(a), 32)`. `EmitUnsignedSaturation` leaves `UnsignedSatQ(SInt(a), N)`
for every `N` in `0..31`. -/
theorem EmitSaturation_clamp (env : EmitEnv) (st : EmitState) (inst : Nat) (vals) :
    let N := ((st.block.inst inst).GetArg 1).GetU8.toNat
    let a := argWord vals st.block inst 0
    ((st.block.inst inst).op = .SignedSaturation → 1 ≤ N → N < 32 →
      Computes EmitSignedSaturation env st inst vals (SatPost (Arm.signedSatQ a.toInt N) st inst)) ∧
    ((st.block.inst inst).op = .SignedSaturation → N = 32 →
      Arm.signedSatQ a.toInt N = (a.toInt, false) ∧
      ∃ st', EmitSignedSaturation inst env st = .ok ((), st') ∧ codeSince st st' = [] ∧
        st'.calls = st.calls ++ [.RegisterAddDef inst ((st.block.inst inst).GetArg 0)] ∧
        ∀ j, st.block.GetAssociatedPseudoOperation inst .GetOverflowFromOp = some j →
          st'.block.inst j =
            ⟨.Identity, [.U1 (Arm.signedSatQ a.toInt N).2], (st.block.inst j).use_count⟩) ∧
    ((st.block.inst inst).op = .UnsignedSaturation → N ≤ 31 →
      Computes EmitUnsignedSaturation env st inst vals
        (SatPost (Arm.unsignedSatQ a.toInt N) st inst)) := by
  intro N a
  refine ⟨fun hop lower upper => ?_, fun _ full => ?_, fun hop upper => ?_⟩
  · rcases attached : st.block.GetAssociatedPseudoOperation inst .GetOverflowFromOp with _ | j
    · exact EmitSignedSaturation_none env st inst vals lower upper attached
    · exact EmitSignedSaturation_some env st inst j vals lower upper attached
        (Block.GetAssociatedPseudoOperation_ne (by rw [hop]; decide) attached)
  · have never : Arm.signedSatQ a.toInt N = (a.toInt, false) := by
      rw [full]
      exact signedSatQ_32 a
    rw [never]
    exact ⟨rfl, EmitSignedSaturation_32 env st inst full⟩
  · rcases attached : st.block.GetAssociatedPseudoOperation inst .GetOverflowFromOp with _ | j
    · exact EmitUnsignedSaturation_none env st inst vals upper attached
    · exact EmitUnsignedSaturation_some env st inst j vals upper attached
        (Block.GetAssociatedPseudoOperation_ne (by rw [hop]; decide) attached)

end Dynarmic.BackendX64
