import Dynarmic.BackendX64.Flags
import Dynarmic.Proofs.StateAccess
import Dynarmic.Proofs.Alu

/-!
# The CPSR flags as a bit store

The flag emitters make the CPSR a store of single bits and of the four-bit GE field. A getter
defines its result as the flag, `0` or `1`, and changes nothing; `EmitGetNFlag` needs no mask
since bit 31 is the top bit. A setter replaces its bit, or the GE field, and keeps every other
bit of the CPSR and of the guest state. On the register path the setters or a `U1` shifted up
to the flag into the word: that is exact because a `U1` has bits 1 to 7 clear, and a shift of
24 or more moves the stale bits above them out of the word. `EmitOrQFlag` only ever sets Q.
-/

namespace Dynarmic.BackendX64

open X64 IR EmitM

/-! ### Bits of the CPSR -/

theorem shiftRight_and_one (x : BitVec 32) (k : Nat) :
    x >>> k &&& 1#32 = (BitVec.ofBool (x.getLsbD k)).setWidth 32 := by
  ext i
  by_cases zero : (i : Nat) = 0 <;> simp [zero, BitVec.getLsbD_one]

theorem testBit_fifteen (i : Nat) : Nat.testBit 15 i = decide (i < 4) := by
  rw [show 15 = 2 ^ 4 - 1 from rfl, Nat.testBit_two_pow_sub_one]

theorem shiftRight_and_fifteen (x : BitVec 32) :
    x >>> 16 &&& 15#32 = (x.extractLsb' 16 4).setWidth 32 := by
  ext i
  simp [BitVec.getLsbD_ofNat, testBit_fifteen, Bool.and_comm]

/-- A dword mask computed while emitting reaches the instruction unchanged. -/
theorem immValue_dword_toNat (x : BitVec 32) : immValue .dword x.toNat = x :=
  (BitVec.ofNat_toNat 32 x).trans (BitVec.setWidth_eq x)

theorem setCpsrBit_getLsbD_self {k : Nat} (lt : k < 32) (cpsr : BitVec 32) :
    setCpsrBit cpsr k (cpsr.getLsbD k) = cpsr := by
  apply BitVec.eq_of_getLsbD_eq
  intro ⟨i, _⟩
  rw [getLsbD_setCpsrBit _ lt]
  split <;> simp_all

/-- Or-ing a `U1` shifted up to bit `k` into the CPSR with bit `k` cleared sets that bit to the
`U1`'s. -/
theorem setCpsrBit_of_U1Form {x : BitVec 64} (form : U1Form x) {k : Nat} (high : 24 ≤ k)
    (lt : k < 32) (cpsr : BitVec 32) :
    cpsr &&& ~~~BitVec.twoPow 32 k ||| x.setWidth 32 <<< k = setCpsrBit cpsr k (x.getLsbD 0) := by
  apply BitVec.eq_of_getLsbD_eq
  intro ⟨i, hi⟩
  rw [getLsbD_setCpsrBit _ lt]
  by_cases same : i = k
  · simp [same, lt]
  · by_cases below : i < k
    · simp [same, Ne.symm same, below, hi]
    · simp [same, Ne.symm same, below, hi, form (i - k) (by omega) (by omega)]

/-- Or-ing a `U1` shifted up to bit `k` into the CPSR ors it into that bit. -/
theorem or_shiftLeft_of_U1Form {x : BitVec 64} (form : U1Form x) {k : Nat} (high : 24 ≤ k)
    (lt : k < 32) (cpsr : BitVec 32) :
    cpsr ||| x.setWidth 32 <<< k = setCpsrBit cpsr k (cpsr.getLsbD k || x.getLsbD 0) := by
  apply BitVec.eq_of_getLsbD_eq
  intro ⟨i, hi⟩
  rw [getLsbD_setCpsrBit _ lt]
  by_cases same : i = k
  · simp [same, lt]
  · by_cases below : i < k
    · simp [same, below, hi]
    · simp [same, below, hi, form (i - k) (by omega) (by omega)]

/-- The CPSR with its GE field, bits 16 to 19, replaced by `ge`. -/
def setGE (cpsr : BitVec 32) (ge : BitVec 4) : BitVec 32 :=
  cpsr.extractLsb' 20 12 ++ ge ++ cpsr.extractLsb' 0 16

/-- Clearing bits 16 to 19 and or-ing in the low four bits of `v` shifted up to them, as both
paths of `EmitSetGEFlags` do, is `setGE`. -/
theorem deposit_GE (cpsr v : BitVec 32) :
    cpsr &&& 4293984255#32 ||| v <<< 16 &&& 983040#32 = setGE cpsr (v.setWidth 4) := by
  rw [show 983040#32 = 15#32 <<< 16 by decide, show 4293984255#32 = ~~~(15#32 <<< 16) by decide]
  apply BitVec.eq_of_getLsbD_eq
  intro ⟨i, hi⟩
  simp only [setGE, BitVec.getLsbD_append, BitVec.getLsbD_or, BitVec.getLsbD_and,
    BitVec.getLsbD_not, BitVec.getLsbD_shiftLeft, BitVec.getLsbD_ofNat,
    BitVec.getLsbD_extractLsb', BitVec.getLsbD_setWidth, testBit_fifteen]
  by_cases low : i < 16
  · simp [low, hi]
  · by_cases ge : i < 20
    · simp [low, ge, hi, show i - 16 < 4 by omega, show i - 16 < 32 by omega]
    · simp [low, ge, hi, show ¬i - 16 < 4 by omega, show 20 + (i - 16 - 4) = i by omega,
        show i - 16 - 4 < 12 by omega]

/-! ### Reading flags -/

/-- The flag at bit `k` of the CPSR, as the word `0` or `1`. -/
def flagWord (k : Nat) (j : JitState) : BitVec 32 := (BitVec.ofBool (j.Cpsr.getLsbD k)).setWidth 32

/-- The GE field, CPSR bits 16 to 19, as a word. -/
def geWord (j : JitState) : BitVec 32 := (j.Cpsr.extractLsb' 16 4).setWidth 32

section Getters

variable (env : EmitEnv) (st : EmitState) (inst : Nat)

theorem EmitGetFlag_spec {flag_bit : Nat} (pos : 0 < flag_bit) (lt : flag_bit < 32) :
    ReadsGuest (EmitGetFlag flag_bit) env st inst (flagWord flag_bit) := by
  simp only [ReadsGuest, EmitGetFlag, bind_apply, DefGpr_apply, emit_apply, Option.getD_none,
    Except.ok.injEq, Prod.mk.injEq, true_and, exists_eq_left']
  refine ⟨⟨by simp, le_rfl, by simp [codeSince]⟩, fun host m => ?_⟩
  have count : flag_bit % 256 % 32 = flag_bit := by omega
  simp [codeSince, run_exec, run_nil, Instr.straight, exec, alu, shift, maskCount, readOp,
    writeOp, mergeGpr, immValue, Width.bits, Mem.width, readField, ResultIs, resultReg,
    defRegFrom, AllocCall.defines, AllocCall.gpr, BitVec.setWidth_setWidth_of_le, count,
    Nat.pos_iff_ne_zero.mp pos, flagWord, shiftRight_and_one]

theorem EmitGetNFlag_spec : ReadsGuest EmitGetNFlag env st inst (flagWord 31) := by
  simp only [ReadsGuest, EmitGetNFlag, bind_apply, DefGpr_apply, emit_apply, Option.getD_none,
    Except.ok.injEq, Prod.mk.injEq, true_and, exists_eq_left']
  refine ⟨⟨by simp, le_rfl, by simp [codeSince]⟩, fun host m => ?_⟩
  simp [codeSince, run_exec, run_nil, Instr.straight, exec, shift, maskCount, readOp, writeOp,
    mergeGpr, immValue, Width.bits, Mem.width, readField, ResultIs, resultReg, defRegFrom,
    AllocCall.defines, AllocCall.gpr, BitVec.setWidth_setWidth_of_le, flagWord,
    shiftRight_thirtyOne]

theorem EmitGetGEFlags_spec : ReadsGuest EmitGetGEFlags env st inst geWord := by
  simp only [ReadsGuest, EmitGetGEFlags, bind_apply, DefGpr_apply, emit_apply, Option.getD_none,
    Except.ok.injEq, Prod.mk.injEq, true_and, exists_eq_left']
  refine ⟨⟨by simp, le_rfl, by simp [codeSince]⟩, fun host m => ?_⟩
  simp [codeSince, run_exec, run_nil, Instr.straight, exec, alu, shift, maskCount, readOp,
    writeOp, mergeGpr, immValue, Width.bits, Mem.width, readField, ResultIs, resultReg,
    defRegFrom, AllocCall.defines, AllocCall.gpr, BitVec.setWidth_setWidth_of_le, geWord,
    shiftRight_and_fifteen]

/-- `EmitGetNFlag`, `EmitGetZFlag`, `EmitGetCFlag` and `EmitGetVFlag` define their result as
the flag ARM's condition checks read, `0` or `1`, and change nothing. -/
theorem flag_getters_spec :
    ReadsGuest EmitGetNFlag env st inst (fun j => (BitVec.ofBool (Arm.nBit j.Cpsr)).setWidth 32) ∧
    ReadsGuest EmitGetZFlag env st inst (fun j => (BitVec.ofBool (Arm.zBit j.Cpsr)).setWidth 32) ∧
    ReadsGuest EmitGetCFlag env st inst (fun j => (BitVec.ofBool (Arm.cBit j.Cpsr)).setWidth 32) ∧
    ReadsGuest EmitGetVFlag env st inst (fun j => (BitVec.ofBool (Arm.vBit j.Cpsr)).setWidth 32) :=
  ⟨EmitGetNFlag_spec env st inst, EmitGetFlag_spec env st inst (by decide) (by decide),
    EmitGetFlag_spec env st inst (by decide) (by decide),
    EmitGetFlag_spec env st inst (by decide) (by decide)⟩

end Getters

/-! ### Writing flags -/

/-- The `U1` argument `index` of `inst`: bit 0 of its host register. -/
def argBit (vals : Nat → BitVec 64) (b : Block) (inst index : Nat) : Bool :=
  (((b.inst inst).GetArg index).hostBits vals).getLsbD 0

section Setters

variable (env : EmitEnv) (st : EmitState) (inst : Nat) (vals : Nat → BitVec 64)
  (typed : ((st.block.inst inst).GetArg 0).Fits .U1)
  (form : U1Form (((st.block.inst inst).GetArg 0).hostBits vals))

include typed form in
theorem EmitSetFlag_spec {flag_bit : Nat} (high : 24 ≤ flag_bit) (lt : flag_bit < 32) :
    UpdatesGuest (EmitSetFlag flag_bit) env st inst vals fun j =>
      { j with Cpsr := setCpsrBit j.Cpsr flag_bit (argBit vals st.block inst 0) } := by
  rcases Value.fits_U1 typed with ⟨b, imm⟩ | ⟨i, ref⟩
  · cases b <;>
    simp only [UpdatesGuest, EmitSetFlag, bind_apply, GetArg_apply, imm, Value.IsImmediate_U1,
      Value.GetU1, if_true, if_false, Bool.false_eq_true, emit_apply, Except.ok.injEq,
      Prod.mk.injEq, true_and, exists_eq_left'] <;>
    refine ⟨⟨by simp, le_rfl, by simp [codeSince]⟩, fun host m _ => ?_⟩ <;>
    simp [- BitVec.toNat_not, - BitVec.toNat_twoPow, codeSince, run_exec, run_nil,
      Instr.straight, exec, alu, readOp, writeOp, readField, writeField, Mem.width, Width.bits,
      immValue_dword_toNat, setCpsrBit, ↓ofNat_one_shiftLeft, argBit, imm]
  · simp only [UpdatesGuest, EmitSetFlag, bind_apply, GetArg_apply, ref, Value.IsImmediate_Inst,
      Bool.false_eq_true, if_false, UseScratchGpr_apply, emit_apply, Except.ok.injEq,
      Prod.mk.injEq, true_and, exists_eq_left']
    refine ⟨⟨by simp, le_rfl, by simp [codeSince]⟩, fun host m loaded => ?_⟩
    simp only [List.drop_left, Loaded, AllocCall.Holds, AllocCall.loads, AllocCall.gpr,
      Option.getD_none, and_true] at loaded
    have count : flag_bit % 256 % 32 = flag_bit := by omega
    rw [ref, Value.hostBits_Inst] at form
    simp [- BitVec.toNat_not, codeSince, run_exec, run_nil, Instr.straight, exec, alu, shift,
      maskCount, readOp, writeOp, mergeGpr, readField, writeField, Mem.width, immValue,
      Width.bits, ofNat_not_one_shiftLeft, count, show flag_bit ≠ 0 by omega, loaded, argBit,
      ref, ofNat_one_shiftLeft, setCpsrBit_of_U1Form form high lt]

include typed form in
theorem EmitOrQFlag_spec :
    UpdatesGuest EmitOrQFlag env st inst vals fun j =>
      { j with Cpsr := setCpsrBit j.Cpsr 27 (j.Cpsr.getLsbD 27 || argBit vals st.block inst 0) } := by
  rcases Value.fits_U1 typed with ⟨b, imm⟩ | ⟨i, ref⟩
  · cases b <;>
    simp only [UpdatesGuest, EmitOrQFlag, bind_apply, GetArg_apply, imm, Value.IsImmediate_U1,
      Value.GetU1, if_true, if_false, Bool.false_eq_true, emit_apply, pure_apply,
      Except.ok.injEq, Prod.mk.injEq, true_and, exists_eq_left'] <;>
    refine ⟨⟨by simp, le_rfl, by simp [codeSince]⟩, fun host m _ => ?_⟩
    · simp [codeSince, run_nil, argBit, imm, setCpsrBit_getLsbD_self]
    · simp [codeSince, run_exec, run_nil, Instr.straight, exec, alu, readOp, writeOp, readField,
        writeField, Mem.width, Width.bits, immValue, setCpsrBit, BitVec.twoPow, argBit, imm]
  · simp only [UpdatesGuest, EmitOrQFlag, bind_apply, GetArg_apply, ref, Value.IsImmediate_Inst,
      Bool.false_eq_true, if_false, UseScratchGpr_apply, emit_apply, Except.ok.injEq,
      Prod.mk.injEq, true_and, exists_eq_left']
    refine ⟨⟨by simp, le_rfl, by simp [codeSince]⟩, fun host m loaded => ?_⟩
    simp only [List.drop_left, Loaded, AllocCall.Holds, AllocCall.loads, AllocCall.gpr,
      Option.getD_none, and_true] at loaded
    rw [ref, Value.hostBits_Inst] at form
    simp [codeSince, run_exec, run_nil, Instr.straight, exec, alu, shift, maskCount, readOp,
      writeOp, mergeGpr, readField, writeField, Mem.width, immValue, Width.bits, loaded, argBit,
      ref, or_shiftLeft_of_U1Form form (by decide : 24 ≤ 27) (by decide)]

include typed form in
/-- `EmitSetNFlag`, `EmitSetZFlag`, `EmitSetCFlag` and `EmitSetVFlag` replace their flag by
their `U1` argument, from an immediate or from a register, and keep every other bit of the
CPSR and the rest of the guest state; `EmitOrQFlag` ors the argument into Q, never clearing it. -/
theorem flag_setters_spec :
    let b := argBit vals st.block inst 0
    UpdatesGuest EmitSetNFlag env st inst vals (fun j => { j with Cpsr := setCpsrBit j.Cpsr 31 b }) ∧
    UpdatesGuest EmitSetZFlag env st inst vals (fun j => { j with Cpsr := setCpsrBit j.Cpsr 30 b }) ∧
    UpdatesGuest EmitSetCFlag env st inst vals (fun j => { j with Cpsr := setCpsrBit j.Cpsr 29 b }) ∧
    UpdatesGuest EmitSetVFlag env st inst vals (fun j => { j with Cpsr := setCpsrBit j.Cpsr 28 b }) ∧
    UpdatesGuest EmitOrQFlag env st inst vals
      (fun j => { j with Cpsr := setCpsrBit j.Cpsr 27 (j.Cpsr.getLsbD 27 || b) }) :=
  ⟨EmitSetFlag_spec env st inst vals typed form (by decide) (by decide),
    EmitSetFlag_spec env st inst vals typed form (by decide) (by decide),
    EmitSetFlag_spec env st inst vals typed form (by decide) (by decide),
    EmitSetFlag_spec env st inst vals typed form (by decide) (by decide),
    EmitOrQFlag_spec env st inst vals typed form⟩

end Setters

/-- A block that sets C to the Z it has just read and writes an immediate GE field. -/
def flagBlock : Block where
  location := ⟨0, false, false, 0⟩
  cond := .AL
  cond_failed := none
  cond_failed_cycle_count := 0
  insts := [⟨.GetZFlag, [], 1⟩, ⟨.SetCFlag, [.Inst 0], 0⟩, ⟨.SetGEFlags, [.U32 5], 0⟩]
  instructions := [0, 1, 2]
  terminal := .ReturnToDispatch
  cycle_count := 3

theorem flag_setters_spec_flagBlock :
    ((flagBlock.inst 1).GetArg 0).Fits .U1 ∧
    U1Form (((flagBlock.inst 1).GetArg 0).hostBits fun _ => 0) ∧
    let b := argBit (fun _ => 0) flagBlock 1 0
    let st := startState flagBlock
    UpdatesGuest EmitSetNFlag unitEnv st 1 (fun _ => 0)
      (fun j => { j with Cpsr := setCpsrBit j.Cpsr 31 b }) ∧
    UpdatesGuest EmitSetZFlag unitEnv st 1 (fun _ => 0)
      (fun j => { j with Cpsr := setCpsrBit j.Cpsr 30 b }) ∧
    UpdatesGuest EmitSetCFlag unitEnv st 1 (fun _ => 0)
      (fun j => { j with Cpsr := setCpsrBit j.Cpsr 29 b }) ∧
    UpdatesGuest EmitSetVFlag unitEnv st 1 (fun _ => 0)
      (fun j => { j with Cpsr := setCpsrBit j.Cpsr 28 b }) ∧
    UpdatesGuest EmitOrQFlag unitEnv st 1 (fun _ => 0)
      (fun j => { j with Cpsr := setCpsrBit j.Cpsr 27 (j.Cpsr.getLsbD 27 || b) }) :=
  ⟨rfl, U1Form.zero, flag_setters_spec unitEnv (startState flagBlock) 1 (fun _ => 0) rfl U1Form.zero⟩

/-- `EmitSetGEFlags` replaces the GE field by the low four bits of its argument, folded into
the masks while emitting for an immediate and masked at run time otherwise, and keeps every
other bit; `EmitGetGEFlags` reads the field back as a word. -/
theorem GE_flag_emitters_spec (env : EmitEnv) (st : EmitState) (inst : Nat) (vals)
    (typed : ((st.block.inst inst).GetArg 0).Fits .U32) :
    ReadsGuest EmitGetGEFlags env st inst geWord ∧
    UpdatesGuest EmitSetGEFlags env st inst vals fun j =>
      { j with Cpsr := setGE j.Cpsr ((argWord vals st.block inst 0).setWidth 4) } := by
  refine ⟨EmitGetGEFlags_spec env st inst, ?_⟩
  rcases Value.fits_U32 typed with ⟨v, imm⟩ | ⟨i, ref⟩
  · simp only [UpdatesGuest, EmitSetGEFlags, bind_apply, GetArg_apply, imm,
      Value.IsImmediate_U32, if_true, emit_apply, Except.ok.injEq, Prod.mk.injEq, true_and,
      exists_eq_left']
    refine ⟨⟨by simp, le_rfl, by simp [codeSince]⟩, fun host m _ => ?_⟩
    simp [- BitVec.toNat_not, - BitVec.toNat_and, codeSince, run_exec, run_nil, Instr.straight,
      exec, alu, readOp, writeOp, readField, writeField, Mem.width, Width.bits, immValue,
      argWord, imm, Value.GetU32, deposit_GE, BitVec.setWidth_setWidth_of_le]
  · simp only [UpdatesGuest, EmitSetGEFlags, bind_apply, GetArg_apply, ref,
      Value.IsImmediate_Inst, Bool.false_eq_true, if_false, UseScratchGpr_apply, emit_apply,
      Except.ok.injEq, Prod.mk.injEq, true_and, exists_eq_left']
    refine ⟨⟨by simp, le_rfl, by simp [codeSince]⟩, fun host m loaded => ?_⟩
    simp only [List.drop_left, Loaded, AllocCall.Holds, AllocCall.loads, AllocCall.gpr,
      Option.getD_none, and_true] at loaded
    simp [- BitVec.toNat_not, codeSince, run_exec, run_nil, Instr.straight, exec, alu, shift,
      maskCount, readOp, writeOp, mergeGpr, readField, writeField, Mem.width, immValue,
      Width.bits, loaded, argWord, ref, deposit_GE, BitVec.setWidth_setWidth_of_le]

theorem GE_flag_emitters_spec_flagBlock :
    ((flagBlock.inst 2).GetArg 0).Fits .U32 ∧
    ReadsGuest EmitGetGEFlags unitEnv (startState flagBlock) 2 geWord ∧
    UpdatesGuest EmitSetGEFlags unitEnv (startState flagBlock) 2 (fun _ => 0) fun j =>
      { j with Cpsr := setGE j.Cpsr ((argWord (fun _ => 0) flagBlock 2 0).setWidth 4) } :=
  ⟨rfl, GE_flag_emitters_spec unitEnv (startState flagBlock) 2 (fun _ => 0) rfl⟩

end Dynarmic.BackendX64
