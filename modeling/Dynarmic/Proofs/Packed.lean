import Dynarmic.BackendX64.Bindings
import Dynarmic.BackendX64.Packed
import Dynarmic.Arm.Pseudocode
import Dynarmic.Common.Swar
import Dynarmic.X64.Run

/-!
# The packed emitters agree with ARM

`EmitPackedHalvingSubU8/S8/U16/S16` leave in every lane the halved difference of `UHSUB8`,
`SHSUB8`, `UHSUB16` or `SHSUB16`, and their partitioned subtraction never borrows across a lane.
`EmitPackedHalvingSubAddU16/S16` leave the halfwords of `UHASX`/`UHSAX` and `SHASX`/`SHSAX`.
Each emitter is first run to the word it computes; what remains is arithmetic on lanes.
-/

namespace Dynarmic.BackendX64

open X64 IR EmitM Common

/-! ### Halving subtract: the lanes -/

section HalvingSub

variable {k n i a b M : Nat} (ha : a < 2 ^ ((k + 1) * n)) (hb : b < 2 ^ ((k + 1) * n))
  (hM : ∀ j < n, lane (k + 1) j M = 2 ^ k) (hMlt : M < 2 ^ ((k + 1) * n))

include hM in
/-- Lane `j` of the subtrahend `(x ^ y) & y` is at most lane `j` of the minuend
`((x ^ y) >> 1) | mask`, whose top bit is set. -/
theorem halvingSub_noborrow (j : Nat) (hj : j < n) :
    lane (k + 1) j (b &&& (a ^^^ b)) ≤ lane (k + 1) j ((a ^^^ b) / 2 ||| M) := by
  have within := lane_lt (k + 1) j (a ^^^ b)
  have masked := Nat.and_le_right (n := lane (k + 1) j b) (m := lane (k + 1) j (a ^^^ b))
  rw [lane_div_two_or (hM j hj), lane_and, Nat.pow_succ] at *
  omega

include ha hb hM hMlt in
/-- The partitioned subtraction: minuend and subtrahend differ lane by lane. -/
theorem halvingSub_eq_ofLanes :
    (a ^^^ b) / 2 ||| M = ofLanes (k + 1) (fun j => lane (k + 1) j ((a ^^^ b) / 2 ||| M) -
      lane (k + 1) j (b &&& (a ^^^ b))) n + (b &&& (a ^^^ b)) :=
  have xor_lt := Nat.xor_lt_two_pow ha hb
  eq_ofLanes_sub_add (Nat.or_lt_two_pow (Nat.lt_of_le_of_lt (Nat.div_le_self _ _) xor_lt) hMlt)
    (Nat.and_lt_two_pow b xor_lt) (halvingSub_noborrow hM)

include ha hb hM hMlt in
theorem lane_halvingSub_diff (h : i < n) :
    lane (k + 1) i (((a ^^^ b) / 2 ||| M) - (b &&& (a ^^^ b))) =
      (lane (k + 1) i a ^^^ lane (k + 1) i b) / 2 + 2 ^ k -
        (lane (k + 1) i b &&& (lane (k + 1) i a ^^^ lane (k + 1) i b)) := by
  have whole := halvingSub_eq_ofLanes ha hb hM hMlt
  rw [show ((a ^^^ b) / 2 ||| M) - (b &&& (a ^^^ b)) = ofLanes (k + 1) (fun j =>
      lane (k + 1) j ((a ^^^ b) / 2 ||| M) - lane (k + 1) j (b &&& (a ^^^ b))) n by omega,
    lane_ofLanes _ h, Nat.mod_eq_of_lt (Nat.lt_of_le_of_lt (Nat.sub_le _ _) (lane_lt _ _ _)),
    lane_div_two_or (hM i h), lane_and, lane_xor]

/-- One lane of the unsigned halving subtract: the halved difference with the top bit set,
flipped back, is the halved difference modulo `2^(k+1)`. -/
theorem halvingSubU_lane_value {k x y : Nat} (hx : x < 2 ^ (k + 1)) (hy : y < 2 ^ (k + 1)) :
    ((x ^^^ y) / 2 + 2 ^ k - (y &&& (x ^^^ y))) ^^^ 2 ^ k =
      ((((x : Int) - y) / 2) % 2 ^ (k + 1)).toNat := by
  have within := Nat.xor_lt_two_pow hx hy
  have masked := Nat.and_le_right (n := y) (m := x ^^^ y)
  have split := add_two_and_xor x y
  rw [xor_two_pow_eq_ite (by rw [Nat.pow_succ] at within ⊢; omega),
    show (2 : Int) ^ (k + 1) = ((2 ^ k * 2 : Nat) : Int) by push_cast; ring]
  rw [Nat.pow_succ] at within
  generalize 2 ^ k = K at *
  split
  · refine (toNat_emod_eq (-1) (by omega) ?_).symm
    push_cast
    omega
  · refine (toNat_emod_eq 0 (by omega) ?_).symm
    push_cast
    omega

/-- One lane of the signed halving subtract: flipping the top bit once more where the operands'
signs differ gives the halved signed difference. -/
theorem halvingSubS_lane_value {k x y : Nat} (hx : x < 2 ^ (k + 1)) (hy : y < 2 ^ (k + 1)) :
    (((x ^^^ y) / 2 + 2 ^ k - (y &&& (x ^^^ y))) ^^^ 2 ^ k) ^^^ ((x ^^^ y) &&& 2 ^ k) =
      ((((if x < 2 ^ k then (x : Int) else x - 2 ^ (k + 1)) -
        (if y < 2 ^ k then (y : Int) else y - 2 ^ (k + 1))) / 2) % 2 ^ (k + 1)).toNat := by
  have within := Nat.xor_lt_two_pow hx hy
  have masked := Nat.and_le_right (n := y) (m := x ^^^ y)
  have split := add_two_and_xor x y
  have double : 2 ^ (k + 1) = 2 ^ k * 2 := pow_succ 2 k
  rw [and_two_pow, Nat.testBit_xor, testBit_top hx, testBit_top hy]
  split_ifs with sx sy sy
  · rw [decide_eq_false (Nat.not_le.mpr sx), decide_eq_false (Nat.not_le.mpr sy),
      Bool.xor_self, Bool.toNat_false, Nat.zero_mul, Nat.xor_zero, halvingSubU_lane_value hx hy]
  · rw [decide_eq_false (Nat.not_le.mpr sx), decide_eq_true (Nat.le_of_not_lt sy),
      Bool.false_xor, Bool.toNat_true, Nat.one_mul, Nat.xor_assoc, Nat.xor_self, Nat.xor_zero,
      show (2 : Int) ^ (k + 1) = ((2 ^ k * 2 : Nat) : Int) by push_cast; ring]
    rw [double] at within hy
    generalize 2 ^ k = K at *
    refine (toNat_emod_eq 0 (by omega) ?_).symm
    push_cast
    omega
  · rw [decide_eq_true (Nat.le_of_not_lt sx), decide_eq_false (Nat.not_le.mpr sy),
      Bool.true_xor, Bool.not_false, Bool.toNat_true, Nat.one_mul, Nat.xor_assoc, Nat.xor_self,
      Nat.xor_zero, show (2 : Int) ^ (k + 1) = ((2 ^ k * 2 : Nat) : Int) by push_cast; ring]
    rw [double] at within hx
    generalize 2 ^ k = K at *
    refine (toNat_emod_eq (-1) (by omega) ?_).symm
    push_cast
    omega
  · rw [decide_eq_true (Nat.le_of_not_lt sx), decide_eq_true (Nat.le_of_not_lt sy),
      Bool.xor_self, Bool.toNat_false, Nat.zero_mul, Nat.xor_zero, halvingSubU_lane_value hx hy]
    congr 3
    ring

include ha hb hM hMlt in
theorem lane_halvingSubU_swar (h : i < n) :
    lane (k + 1) i ((((a ^^^ b) / 2 ||| M) - (b &&& (a ^^^ b))) ^^^ M) =
      ((((lane (k + 1) i a : Int) - lane (k + 1) i b) / 2) % 2 ^ (k + 1)).toNat := by
  rw [lane_xor, hM i h, lane_halvingSub_diff ha hb hM hMlt h,
    halvingSubU_lane_value (lane_lt _ _ _) (lane_lt _ _ _)]

include ha hb hM hMlt in
theorem lane_halvingSubS_swar (h : i < n) :
    lane (k + 1) i (((((a ^^^ b) / 2 ||| M) - (b &&& (a ^^^ b))) ^^^ M) ^^^ ((a ^^^ b) &&& M)) =
      ((((if lane (k + 1) i a < 2 ^ k then (lane (k + 1) i a : Int)
          else lane (k + 1) i a - 2 ^ (k + 1)) -
        (if lane (k + 1) i b < 2 ^ k then (lane (k + 1) i b : Int)
          else lane (k + 1) i b - 2 ^ (k + 1))) / 2) % 2 ^ (k + 1)).toNat := by
  rw [lane_xor, lane_xor, lane_and, lane_xor, hM i h, lane_halvingSub_diff ha hb hM hMlt h,
    halvingSubS_lane_value (lane_lt _ _ _) (lane_lt _ _ _)]

end HalvingSub

/-! The same on words: a mask `M` with the top bit of each of `n` lanes of width `k + 1`. -/

section HalvingSubWord

variable {k n : Nat} (width : (k + 1) * n = 32) (M : BitVec 32)
  (hM : ∀ j < n, lane (k + 1) j M.toNat = 2 ^ k)

include width in
theorem toNat_lt_lanes (x : BitVec 32) : x.toNat < 2 ^ ((k + 1) * n) := by
  rw [width]
  exact x.isLt

include width hM in
/-- The partitioned subtraction of `EmitPackedHalvingSubU`/`S` does not wrap the word. -/
theorem halvingSub_word_le (a b : BitVec 32) : b &&& (a ^^^ b) ≤ (a ^^^ b) >>> 1 ||| M := by
  have whole := halvingSub_eq_ofLanes (a := a.toNat) (b := b.toNat) (toNat_lt_lanes width a)
    (toNat_lt_lanes width b) hM (toNat_lt_lanes width M)
  rw [BitVec.le_def, BitVec.toNat_and, BitVec.toNat_or, BitVec.toNat_ushiftRight,
    BitVec.toNat_xor, Nat.shiftRight_eq_div_pow, pow_one]
  omega

include width hM in
theorem halvingSubU_word (a b : BitVec 32) {i : Nat} (h : i < n) :
    lane (k + 1) i ((((a ^^^ b) >>> 1 ||| M) - (b &&& (a ^^^ b))) ^^^ M).toNat =
      Arm.halvingSubU (k + 1) i a b := by
  rw [BitVec.toNat_xor, BitVec.toNat_sub_of_le (halvingSub_word_le width M hM a b),
    BitVec.toNat_and, BitVec.toNat_or, BitVec.toNat_ushiftRight, BitVec.toNat_xor,
    Nat.shiftRight_eq_div_pow, pow_one, lane_halvingSubU_swar (toNat_lt_lanes width a)
      (toNat_lt_lanes width b) hM (toNat_lt_lanes width M) h, Arm.halvingSubU]

include width hM in
theorem halvingSubS_word (a b : BitVec 32) {i : Nat} (h : i < n) :
    lane (k + 1) i (((((a ^^^ b) >>> 1 ||| M) - (b &&& (a ^^^ b))) ^^^ M) ^^^
      ((a ^^^ b) &&& M)).toNat = Arm.halvingSubS (k + 1) i a b := by
  rw [BitVec.toNat_xor, BitVec.toNat_xor, BitVec.toNat_sub_of_le (halvingSub_word_le width M hM a b),
    BitVec.toNat_and, BitVec.toNat_and, BitVec.toNat_or, BitVec.toNat_ushiftRight, BitVec.toNat_xor,
    Nat.shiftRight_eq_div_pow, pow_one, lane_halvingSubS_swar (toNat_lt_lanes width a)
      (toNat_lt_lanes width b) hM (toNat_lt_lanes width M) h, Arm.halvingSubS, Arm.signedLane, Arm.signedLane, Nat.add_sub_cancel]

end HalvingSubWord

/-! ### Halving subtract: the emitters -/

theorem EmitPackedHalvingSubU_spec (mask : Nat) (env : EmitEnv) (st : EmitState) (inst : Nat)
    (vals) :
    Computes (EmitPackedHalvingSubU mask) env st inst vals (fun st' =>
      let a := argWord vals st.block inst 0
      let b := argWord vals st.block inst 1
      ResultIs st st' inst ((((a ^^^ b) >>> 1 ||| BitVec.ofNat 32 mask) - (b &&& (a ^^^ b))) ^^^
        BitVec.ofNat 32 mask)) := by
  simp only [Computes, EmitPackedHalvingSubU, ResultIs, argWord, GetArg_apply, UseDefGpr_apply,
    UseScratchGpr_apply, bind_apply, pure_apply, emit_apply, Except.ok.injEq, Prod.mk.injEq,
    true_and, exists_eq_left', resultReg, codeSince, List.append_assoc, List.singleton_append,
    List.cons_append, List.nil_append, List.drop_left, List.map_cons, List.map_nil, Loaded,
    AllocCall.Holds, AllocCall.loads, AllocCall.gpr, defRegFrom, AllocCall.defines, and_true,
    Option.getD_none, ite_true, ite_false, Option.some.injEq, reduceCtorEq]
  intro host m hm
  simp [run_exec, run_nil, Instr.straight, exec, shift, alu, readOp, writeOp, mergeGpr, maskCount,
    immValue, Width.bits, hm]

theorem EmitPackedHalvingSubS_spec (mask : Nat) (env : EmitEnv) (st : EmitState) (inst : Nat)
    (vals) :
    Computes (EmitPackedHalvingSubS mask) env st inst vals (fun st' =>
      let a := argWord vals st.block inst 0
      let b := argWord vals st.block inst 1
      ResultIs st st' inst (((((a ^^^ b) >>> 1 ||| BitVec.ofNat 32 mask) - (b &&& (a ^^^ b))) ^^^
        BitVec.ofNat 32 mask) ^^^ ((a ^^^ b) &&& BitVec.ofNat 32 mask))) := by
  simp only [Computes, EmitPackedHalvingSubS, ResultIs, argWord, GetArg_apply, UseDefGpr_apply,
    UseScratchGpr_apply, ScratchGpr_apply, bind_apply, pure_apply, emit_apply, Except.ok.injEq,
    Prod.mk.injEq, true_and, exists_eq_left', resultReg, codeSince, List.append_assoc,
    List.singleton_append, List.cons_append, List.nil_append, List.drop_left, List.map_cons,
    List.map_nil, Loaded, AllocCall.Holds, AllocCall.loads, AllocCall.gpr, defRegFrom,
    AllocCall.defines, and_true, Option.getD_none, ite_true, ite_false, Option.some.injEq,
    reduceCtorEq]
  intro host m hm
  simp [run_exec, run_nil, Instr.straight, exec, shift, alu, readOp, writeOp, mergeGpr, maskCount,
    immValue, Width.bits, hm]


section HalvingSubLanes

variable {k n : Nat} (width : (k + 1) * n = 32) (mask : Nat)
  (hM : ∀ j < n, lane (k + 1) j (BitVec.ofNat 32 mask).toNat = 2 ^ k)
  (env : EmitEnv) (st : EmitState) (inst : Nat) (vals : Nat → BitVec 64)

include width hM in
theorem EmitPackedHalvingSubU_lanes :
    Computes (EmitPackedHalvingSubU mask) env st inst vals (fun st' => ResultIs st st' inst
      (BitVec.ofNat 32 (ofLanes (k + 1) (fun i => Arm.halvingSubU (k + 1) i
        (argWord vals st.block inst 0) (argWord vals st.block inst 1)) n))) :=
  (EmitPackedHalvingSubU_spec mask env st inst vals).mono fun _ _ result => by
    rwa [eq_ofLanes_of_lane width _ _ fun _ hi => halvingSubU_word width _ hM _ _ hi] at result

include width hM in
theorem EmitPackedHalvingSubS_lanes :
    Computes (EmitPackedHalvingSubS mask) env st inst vals (fun st' => ResultIs st st' inst
      (BitVec.ofNat 32 (ofLanes (k + 1) (fun i => Arm.halvingSubS (k + 1) i
        (argWord vals st.block inst 0) (argWord vals st.block inst 1)) n))) :=
  (EmitPackedHalvingSubS_spec mask env st inst vals).mono fun _ _ result => by
    rwa [eq_ofLanes_of_lane width _ _ fun _ hi => halvingSubS_word width _ hM _ _ hi] at result

include hM in
/-- No lane of the partitioned subtraction borrows from the lane above. -/
theorem halvingSub_word_noborrow (a b : BitVec 32) {j : Nat} (hj : j < n) :
    lane (k + 1) j (b &&& (a ^^^ b)).toNat ≤
      lane (k + 1) j ((a ^^^ b) >>> 1 ||| BitVec.ofNat 32 mask).toNat := by
  simpa [Nat.shiftRight_eq_div_pow] using halvingSub_noborrow hM j hj

end HalvingSubLanes

/-- The top bits of the four byte lanes and of the two halfword lanes. -/
theorem mask_bytes : ∀ j < 4, lane (7 + 1) j (BitVec.ofNat 32 0x80808080).toNat = 2 ^ 7 := by
  decide

theorem mask_halfwords : ∀ j < 2, lane (15 + 1) j (BitVec.ofNat 32 0x80008000).toNat = 2 ^ 15 := by
  decide

/-- The four halving-subtract emitters leave in every lane of their result the halved
difference of `UHSUB8`, `SHSUB8`, `UHSUB16` and `SHSUB16`, lanes read unsigned or signed and the
result taken modulo the lane. Their partitioned subtraction never borrows across a lane: in
every lane the subtrahend is at most the minuend with its top bit set. -/
theorem EmitPackedHalvingSub_lanes (env : EmitEnv) (st : EmitState) (inst : Nat) (vals) :
    Computes EmitPackedHalvingSubU8 env st inst vals (fun st' => ResultIs st st' inst
      (BitVec.ofNat 32 (ofLanes 8 (fun i => Arm.halvingSubU 8 i (argWord vals st.block inst 0)
        (argWord vals st.block inst 1)) 4))) ∧
    Computes EmitPackedHalvingSubS8 env st inst vals (fun st' => ResultIs st st' inst
      (BitVec.ofNat 32 (ofLanes 8 (fun i => Arm.halvingSubS 8 i (argWord vals st.block inst 0)
        (argWord vals st.block inst 1)) 4))) ∧
    Computes EmitPackedHalvingSubU16 env st inst vals (fun st' => ResultIs st st' inst
      (BitVec.ofNat 32 (ofLanes 16 (fun i => Arm.halvingSubU 16 i (argWord vals st.block inst 0)
        (argWord vals st.block inst 1)) 2))) ∧
    Computes EmitPackedHalvingSubS16 env st inst vals (fun st' => ResultIs st st' inst
      (BitVec.ofNat 32 (ofLanes 16 (fun i => Arm.halvingSubS 16 i (argWord vals st.block inst 0)
        (argWord vals st.block inst 1)) 2))) ∧
    (∀ a b : BitVec 32, ∀ j < 4, lane 8 j (b &&& (a ^^^ b)).toNat ≤
      lane 8 j ((a ^^^ b) >>> 1 ||| BitVec.ofNat 32 0x80808080).toNat) ∧
    (∀ a b : BitVec 32, ∀ j < 2, lane 16 j (b &&& (a ^^^ b)).toNat ≤
      lane 16 j ((a ^^^ b) >>> 1 ||| BitVec.ofNat 32 0x80008000).toNat) :=
  ⟨EmitPackedHalvingSubU_lanes rfl _ mask_bytes env st inst vals,
    EmitPackedHalvingSubS_lanes rfl _ mask_bytes env st inst vals,
    EmitPackedHalvingSubU_lanes rfl _ mask_halfwords env st inst vals,
    EmitPackedHalvingSubS_lanes rfl _ mask_halfwords env st inst vals,
    fun a b _ hj => halvingSub_word_noborrow _ mask_bytes a b hj,
    fun a b _ hj => halvingSub_word_noborrow _ mask_halfwords a b hj⟩

/-! ### Halving exchange -/

/-- What `EmitPackedHalvingSubAdd16` leaves, for halves split off by `lo` and `hi`. -/
def halvingSubAddWord (lo hi : BitVec 32 → BitVec 32) (asx : Bool) (a b : BitVec 32) : BitVec 32 :=
  let lo_part := if asx then (lo a - hi b) <<< 15 else (lo a + hi b) <<< 15
  let hi_part := if asx then (hi a + lo b) >>> 1 else (hi a - lo b) >>> 1
  hi_part <<< 16 ||| lo_part >>> 16

/-- `SHLD dst, src, 16` on the high-half word and the low-half word, as a sum. -/
theorem toNat_shl_or_shr (hi lo : BitVec 32) :
    (hi <<< 16 ||| lo >>> 16).toNat = hi.toNat % 2 ^ 16 * 2 ^ 16 + lo.toNat / 2 ^ 16 := by
  have low : lo.toNat / 2 ^ 16 < 2 ^ 16 := by have := lo.isLt; omega
  rw [BitVec.toNat_or, BitVec.toNat_shiftLeft, BitVec.toNat_ushiftRight, Nat.shiftLeft_eq,
    Nat.shiftRight_eq_div_pow, show hi.toNat * 2 ^ 16 % 2 ^ 32 = 2 ^ 16 * (hi.toNat % 2 ^ 16) by omega,
    ← Nat.mul_add_lt_is_or low, Nat.mul_comm]

/-- Bits 16 to 1 of a word congruent to `z` modulo `2^32`: half of `z`, modulo `2^16`. -/
theorem bits_halved {w : BitVec 32} {z : Int} (h : (w.toNat : Int) % 2 ^ 32 = z % 2 ^ 32) :
    w.toNat % 2 ^ 17 / 2 = ((z / 2) % 2 ^ 16).toNat := by
  omega

theorem halvingSubAddWord_eq (lo hi : BitVec 32 → BitVec 32) (half : Nat → BitVec 32 → Int)
    (hlo : ∀ x, ((lo x).toNat : Int) % 2 ^ 32 = half 0 x % 2 ^ 32)
    (hhi : ∀ x, ((hi x).toNat : Int) % 2 ^ 32 = half 1 x % 2 ^ 32) (asx : Bool) (a b : BitVec 32) :
    halvingSubAddWord lo hi asx a b = BitVec.ofNat 32
      ((Arm.halvingExchange half asx a b).1 * 2 ^ 16 + (Arm.halvingExchange half asx a b).2) := by
  apply BitVec.eq_of_toNat_eq
  have la := hlo a
  have lb := hlo b
  have ha := hhi a
  have hb := hhi b
  cases asx <;>
  · simp only [halvingSubAddWord, Arm.halvingExchange, toNat_shl_or_shr, BitVec.toNat_ofNat,
      BitVec.toNat_ushiftRight, BitVec.toNat_shiftLeft, Nat.shiftLeft_eq, Nat.shiftRight_eq_div_pow,
      BitVec.toNat_add, BitVec.toNat_sub, ite_true, ite_false, Bool.false_eq_true]
    omega

theorem unsigned_halves (x : BitVec 32) :
    (((x.setWidth 16).setWidth 32).toNat : Int) % 2 ^ 32 = Arm.unsignedLane 16 0 x % 2 ^ 32 ∧
    ((x >>> 16).toNat : Int) % 2 ^ 32 = Arm.unsignedLane 16 1 x % 2 ^ 32 := by
  have := x.isLt
  simp only [Arm.unsignedLane, lane, BitVec.toNat_setWidth, BitVec.toNat_ushiftRight,
    Nat.shiftRight_eq_div_pow]
  omega

theorem signed_halves (x : BitVec 32) :
    (((x.setWidth 16).signExtend 32).toNat : Int) % 2 ^ 32 = Arm.signedLane 16 0 x % 2 ^ 32 ∧
    ((x.sshiftRight 16).toNat : Int) % 2 ^ 32 = Arm.signedLane 16 1 x % 2 ^ 32 := by
  have := x.isLt
  simp only [Arm.signedLane, lane, BitVec.signExtend, BitVec.sshiftRight_eq, BitVec.toNat_ofInt,
    BitVec.toInt_eq_toNat_cond, BitVec.toNat_setWidth, Int.shiftRight_eq_div_pow]
  split_ifs <;> omega

section HalvingSubAdd16

variable (extend : Width → Gpr → Width → Operand → Instr)
  (shift : Width → Operand → Operand → Instr) (lo hi : BitVec 32 → BitVec 32)
  (F : BitVec 32 → Flags → Flags)
  (extend_straight : ∀ d s, (extend .dword d .word (.reg s)).straight = true)
  (shift_straight : ∀ r, (shift .dword (.reg r) (.imm 16)).straight = true)
  (extends_ : ∀ m d s, exec m (extend .dword d .word (.reg s)) =
    writeOp m .dword (.reg d) (lo ((m.gpr s).setWidth 32)))
  (shifts : ∀ m r, exec m (shift .dword (.reg r) (.imm 16)) =
    writeOp (m.setFlags (F ((m.gpr r).setWidth 32) m.flags)) .dword (.reg r)
      (hi ((m.gpr r).setWidth 32)))

include extend_straight shift_straight extends_ shifts in
theorem EmitPackedHalvingSubAdd16_spec (env : EmitEnv) (st : EmitState) (inst : Nat) (vals) :
    Computes (EmitPackedHalvingSubAdd16 extend shift) env st inst vals (fun st' =>
      ResultIs st st' inst (halvingSubAddWord lo hi ((st.block.inst inst).GetArg 2).GetU1
        (argWord vals st.block inst 0) (argWord vals st.block inst 1))) := by
  cases asx : ((st.block.inst inst).GetArg 2).GetU1 <;>
  simp only [Computes, EmitPackedHalvingSubAdd16, ResultIs, argWord,
    GetArg_apply, UseDefGpr_apply, UseScratchGpr_apply, ScratchGpr_apply, bind_apply, pure_apply,
    emit_apply, asx, ite_true, ite_false, Bool.false_eq_true, Except.ok.injEq, Prod.mk.injEq,
    true_and, exists_eq_left', resultReg, codeSince, List.append_assoc, List.singleton_append,
    List.cons_append, List.nil_append, List.drop_left, List.map_cons, List.map_nil, Loaded,
    AllocCall.Holds, AllocCall.loads, AllocCall.gpr, defRegFrom, AllocCall.defines, and_true,
    Option.getD_none, Option.some.injEq, reduceCtorEq, halvingSubAddWord] <;>
  intro host m hm <;>
  simp [run_exec, run_exec _ _ _ (extend_straight _ _), run_exec _ _ _ (shift_straight _), run_nil,
    Instr.straight, ↓extends_, ↓shifts, exec, X64.shift, alu, readOp, writeOp, mergeGpr,
    maskCount, immValue, Width.bits, hm]

end HalvingSubAdd16

/-- `EmitPackedHalvingSubAddU16` and `EmitPackedHalvingSubAddS16`, for either value of the
`asx` flag, leave the halfwords of `UHASX`/`UHSAX` and of `SHASX`/`SHSAX`: the halved sum and
difference of the crossed halfwords, read unsigned or signed, each modulo `2^16`. -/
theorem EmitPackedHalvingSubAdd_halves (env : EmitEnv) (st : EmitState) (inst : Nat) (vals) :
    Computes EmitPackedHalvingSubAddU16 env st inst vals (fun st' => ResultIs st st' inst
      (BitVec.ofNat 32 ((Arm.halvingExchange (Arm.unsignedLane 16)
          ((st.block.inst inst).GetArg 2).GetU1 (argWord vals st.block inst 0)
          (argWord vals st.block inst 1)).1 * 2 ^ 16 +
        (Arm.halvingExchange (Arm.unsignedLane 16) ((st.block.inst inst).GetArg 2).GetU1
          (argWord vals st.block inst 0) (argWord vals st.block inst 1)).2))) ∧
    Computes EmitPackedHalvingSubAddS16 env st inst vals (fun st' => ResultIs st st' inst
      (BitVec.ofNat 32 ((Arm.halvingExchange (Arm.signedLane 16)
          ((st.block.inst inst).GetArg 2).GetU1 (argWord vals st.block inst 0)
          (argWord vals st.block inst 1)).1 * 2 ^ 16 +
        (Arm.halvingExchange (Arm.signedLane 16) ((st.block.inst inst).GetArg 2).GetU1
          (argWord vals st.block inst 0) (argWord vals st.block inst 1)).2))) := by
  constructor
  · refine (EmitPackedHalvingSubAdd16_spec .movzx .shr (fun x => (x.setWidth 16).setWidth 32)
      (· >>> 16) (fun a f => shrFlags a 16 f) (fun _ _ => rfl) (fun _ => rfl)
      (fun m d s => by simp [exec, readOp]) (fun m r => by
        simp [exec, X64.shift, readOp, maskCount, immValue, Width.bits]) env st inst vals).mono
      fun _ _ result => ?_
    rwa [halvingSubAddWord_eq _ _ _ (fun x => (unsigned_halves x).1)
      (fun x => (unsigned_halves x).2)] at result
  · refine (EmitPackedHalvingSubAdd16_spec .movsx .sar (fun x => (x.setWidth 16).signExtend 32)
      (·.sshiftRight 16) (fun a f => sarFlags a 16 f) (fun _ _ => rfl) (fun _ => rfl)
      (fun m d s => by simp [exec, readOp]) (fun m r => by
        simp [exec, X64.shift, readOp, maskCount, immValue, Width.bits]) env st inst vals).mono
      fun _ _ result => ?_
    rwa [halvingSubAddWord_eq _ _ _ (fun x => (signed_halves x).1)
      (fun x => (signed_halves x).2)] at result

end Dynarmic.BackendX64
