import Dynarmic.BackendX64.Bindings
import Dynarmic.BackendX64.Terminal
import Dynarmic.X64.Run

/-!
# `EmitCond` decides ARM `ConditionPassed`

For each of the 14 conditions it handles, the code `EmitCond` writes jumps to the label it
returns exactly when ARM `ConditionPassed` holds of the guest CPSR, and leaves the guest state
alone. A `TEST` of one flag reads back as that CPSR bit; the `AND`/`CMP` pairs of `HI`, `LS`,
`GE` and `LT`, and the shifted `GT`/`LE` test, are settled by cases on the bits they read.

`Appended` is what the terminal emitters guarantee about the code log: it only grows, and each
label it places is fresh, so a forward jump passes over code emitted after its label was made.
-/

namespace Dynarmic.BackendX64

open X64 IR EmitM

/-! ### Code that only appends -/

/-- Emission from `st` to `st'` only appended to the code log, and every label its code
places is a fresh one numbered from `st.labels` to below `st'.labels`. -/
structure Appended (st st' : EmitState) : Prop where
  grows : st.log <+: st'.log
  labels : st.labels ≤ st'.labels
  fresh : ∀ l, .L l ∈ codeSince st st' → ∃ n, l = .fresh n ∧ st.labels ≤ n ∧ n < st'.labels

theorem codeSince_trans {st st₁ st₂ : EmitState} (h₁ : st.log <+: st₁.log)
    (h₂ : st₁.log <+: st₂.log) : codeSince st st₂ = codeSince st st₁ ++ codeSince st₁ st₂ := by
  obtain ⟨a, h₁⟩ := h₁
  obtain ⟨b, h₂⟩ := h₂
  simp [codeSince, ← h₁, ← h₂]

theorem Appended.trans {st st₁ st₂ : EmitState} (h₁ : Appended st st₁) (h₂ : Appended st₁ st₂) :
    Appended st st₂ where
  grows := h₁.grows.trans h₂.grows
  labels := h₁.labels.trans h₂.labels
  fresh l mem := by
    have := h₁.labels
    have := h₂.labels
    rw [codeSince_trans h₁.grows h₂.grows, List.mem_append] at mem
    rcases mem with mem | mem
    · obtain ⟨n, rfl, lo, hi⟩ := h₁.fresh l mem
      exact ⟨n, rfl, lo, by omega⟩
    · obtain ⟨n, rfl, lo, hi⟩ := h₂.fresh l mem
      exact ⟨n, rfl, by omega, hi⟩

/-- Code appended since `st` never places a label made before it. -/
theorem Appended.not_places {st st' : EmitState} (h : Appended st st') {k : Nat}
    (older : k < st.labels) : ∀ i ∈ codeSince st st', i.places (.fresh k) = false := by
  intro i mem
  cases placed : i.places (.fresh k)
  · rfl
  · obtain ⟨n, same, lo, -⟩ := h.fresh _ (Instr.places_eq_true.mp placed ▸ mem)
    cases same
    omega

/-- Placing a label made since `st` keeps the code appended since `st` fresh. -/
theorem Appended.place {st st' : EmitState} (h : Appended st st') {k : Nat} (lo : st.labels ≤ k)
    (hi : k < st'.labels) : Appended st { st' with log := st'.log ++ [(st'.cur, .L (.fresh k))] } where
  grows := h.grows.trans (List.prefix_append _ _)
  labels := h.labels
  fresh l mem := by
    rw [codeSince_trans h.grows (List.prefix_append _ _)] at mem
    simp only [codeSince, List.length_append, List.drop_left, List.map_cons, List.map_nil,
      List.mem_append, List.mem_singleton, Instr.L.injEq] at mem
    rcases mem with mem | rfl
    · exact h.fresh l mem
    · exact ⟨k, rfl, lo, hi⟩

/-! ### Reading CPSR flags -/

/-- `TEST` of one CPSR flag: the zero flag is set when the flag is clear. -/
theorem test_flag (x : BitVec 32) (k : Nat) (hk : k < 32) :
    (x &&& BitVec.twoPow 32 k == 0#32) = !x.getLsbD k := by
  rw [BitVec.and_twoPow]
  have : BitVec.twoPow 32 k ≠ 0#32 := by
    intro h
    have lt : 2 ^ k < 2 ^ 32 := Nat.pow_lt_pow_right (by decide) hk
    have := congrArg BitVec.toNat h
    simp only [BitVec.toNat_twoPow, BitVec.toNat_ofNat, Nat.zero_mod, Nat.mod_eq_of_lt lt] at this
    exact (Nat.two_pow_pos k).ne' this
  cases x.getLsbD k <;> simp [this]

/-- `AND` with two CPSR flags keeps exactly those of the two that are set. -/
theorem and_two_flags (x : BitVec 32) (i j : Nat) :
    x &&& (BitVec.twoPow 32 i ||| BitVec.twoPow 32 j) =
      (if x.getLsbD i then BitVec.twoPow 32 i else 0#32) |||
        (if x.getLsbD j then BitVec.twoPow 32 j else 0#32) := by
  rw [← BitVec.and_twoPow, ← BitVec.and_twoPow]
  ext k
  simp only [BitVec.getLsbD_and, BitVec.getLsbD_or]
  cases x.getLsbD k <;> simp

theorem cond_ne_test (x : BitVec 32) (k : Nat) (hk : k < 32) :
    CondCode.eval (logicFlags (x &&& BitVec.twoPow 32 k)) .ne = some (x.getLsbD k) := by
  simp [CondCode.eval, test_flag x k hk]

theorem cond_e_test (x : BitVec 32) (k : Nat) (hk : k < 32) :
    CondCode.eval (logicFlags (x &&& BitVec.twoPow 32 k)) .e = some (!x.getLsbD k) := by
  simp [CondCode.eval, test_flag x k hk]

theorem mask_n : BitVec.ofNat 32 n_mask = BitVec.twoPow 32 31 := by decide
theorem mask_z : BitVec.ofNat 32 z_mask = BitVec.twoPow 32 30 := by decide
theorem mask_c : BitVec.ofNat 32 c_mask = BitVec.twoPow 32 29 := by decide
theorem mask_v : BitVec.ofNat 32 v_mask = BitVec.twoPow 32 28 := by decide
theorem mask_zc : BitVec.ofNat 32 (z_mask ||| c_mask) =
    BitVec.twoPow 32 30 ||| BitVec.twoPow 32 29 := by decide
theorem mask_nv : BitVec.ofNat 32 (n_mask ||| v_mask) =
    BitVec.twoPow 32 31 ||| BitVec.twoPow 32 28 := by decide

/-- `HI` and `LS`: after `AND` with Z and C, the `CMP` with C finds them equal when C is set and
Z clear. -/
theorem cond_zc (x : BitVec 32) (cc : CondCode) (hcc : cc = .e ∨ cc = .ne) :
    CondCode.eval (subFlags (x &&& (BitVec.twoPow 32 30 ||| BitVec.twoPow 32 29))
      (BitVec.twoPow 32 29) false
      ((x &&& (BitVec.twoPow 32 30 ||| BitVec.twoPow 32 29)) - BitVec.twoPow 32 29)) cc =
      some (if cc = .e then x.getLsbD 29 && !x.getLsbD 30
        else !(x.getLsbD 29 && !x.getLsbD 30)) := by
  rw [and_two_flags]
  rcases hcc with rfl | rfl <;> cases x.getLsbD 30 <;> cases x.getLsbD 29 <;> decide

/-- `GE` and `LT`: after `AND` with N and V, the zero flag is set when both are clear. -/
theorem cond_e_nv_test (x : BitVec 32) :
    CondCode.eval (logicFlags (x &&& (BitVec.twoPow 32 31 ||| BitVec.twoPow 32 28))) .e =
      some (!x.getLsbD 31 && !x.getLsbD 28) := by
  rw [and_two_flags]
  cases x.getLsbD 31 <;> cases x.getLsbD 28 <;> decide

/-- `GE` and `LT`: the `CMP` with N and V then finds them equal when both are set. -/
theorem cond_nv_cmp (x : BitVec 32) (cc : CondCode) (hcc : cc = .e ∨ cc = .ne) :
    CondCode.eval (subFlags (x &&& (BitVec.twoPow 32 31 ||| BitVec.twoPow 32 28))
      (BitVec.twoPow 32 31 ||| BitVec.twoPow 32 28) false
      ((x &&& (BitVec.twoPow 32 31 ||| BitVec.twoPow 32 28)) -
        (BitVec.twoPow 32 31 ||| BitVec.twoPow 32 28))) cc =
      some (if cc = .e then x.getLsbD 31 && x.getLsbD 28
        else !(x.getLsbD 31 && x.getLsbD 28)) := by
  rw [and_two_flags]
  rcases hcc with rfl | rfl <;> cases x.getLsbD 31 <;> cases x.getLsbD 28 <;> decide

/-- `GT` and `LE`: bit 0 of `(N ^ V) | Z`, moved down by the shifts, is what `TEST 1` reads. -/
theorem cond_gt (x : BitVec 32) (cc : CondCode) (hcc : cc = .e ∨ cc = .ne) :
    CondCode.eval (logicFlags ((x >>> 31 ^^^ x >>> 28 ||| x >>> 30) &&& 1#32)) cc =
      some (if cc = .e then !x.getLsbD 30 && x.getLsbD 31 == x.getLsbD 28
        else !(!x.getLsbD 30 && x.getLsbD 31 == x.getLsbD 28)) := by
  rw [show 1#32 = BitVec.twoPow 32 0 by decide, BitVec.and_twoPow]
  simp only [BitVec.getLsbD_or, BitVec.getLsbD_xor, BitVec.getLsbD_ushiftRight, Nat.add_zero]
  rcases hcc with rfl | rfl <;> cases x.getLsbD 31 <;> cases x.getLsbD 28 <;>
    cases x.getLsbD 30 <;> decide

theorem run_ite (host : HostFn → Machine → Machine) (rest : List Instr) (c : Prop) [Decidable c]
    (l : Label) (M : Machine) :
    (if c then run host rest (some l) M else run host rest none M) =
      run host rest (if c then some l else none) M := by
  split <;> rfl

/-! ### `EmitCond` -/

/-- `EmitCond` on each of the 14 conditions it handles returns a fresh label, and its code,
followed by any code, continues there exactly when ARM `ConditionPassed` holds of the guest
CPSR, and falls through otherwise; it writes only host registers and flags. -/
theorem EmitCond_spec (cond : Arm.Cond) (handled : cond ≠ .AL ∧ cond ≠ .NV) (env : EmitEnv)
    (st : EmitState) :
    ∃ st', EmitCond cond env st = .ok (.fresh st.labels, st') ∧ Appended st st' ∧
      st.labels < st'.labels ∧ ∀ host rest m, ∃ m', m'.jit = m.jit ∧ m'.calls = m.calls ∧
        run host (codeSince st st' ++ rest) none m =
          run host rest
            (if Arm.conditionPassed cond m.jit.Cpsr then some (.fresh st.labels) else none) m' := by
  cases cond <;> simp only [ne_eq, not_true_eq_false, and_false, false_and, reduceCtorEq,
      not_false_eq_true, and_self] at handled <;>
    simp only [EmitCond, bind_apply, pure_apply, emit_apply, newLabel_apply, L_apply,
      Except.ok.injEq, Prod.mk.injEq, exists_eq_left', true_and] <;>
    refine ⟨⟨by simp, by dsimp only; omega, by simp [codeSince]⟩, by omega,
      fun host rest m => ?_⟩ <;>
    simp [codeSince, z_shift, c_shift, n_shift, v_shift, run_exec, run_jcc, run_L, run_skip,
      Instr.places, Instr.straight, exec, alu, shift, maskCount, readOp, writeOp, readField,
      Mem.width, immValue, Width.bits, mergeGpr, mask_n, mask_z, mask_c, mask_v, mask_zc, mask_nv,
      cond_ne_test, cond_e_test, cond_zc, cond_e_nv_test, cond_nv_cmp, cond_gt, run_ite,
      Arm.conditionPassed, Arm.nBit, Arm.zBit, Arm.cBit, Arm.vBit]
  -- every condition but `GE` and `LT` is one jump on the condition itself
  all_goals first
    | (refine ⟨_, ?_, ?_, rfl⟩ <;> rfl)
    | (cases n : m.jit.Cpsr.getLsbD 31 <;> cases v : m.jit.Cpsr.getLsbD 28 <;>
        simp only [n, v, and_self, and_true, true_and, and_false, false_and, or_true, true_or,
          or_false, false_or, ite_true, ite_false, Bool.true_eq_false, Bool.false_eq_true] <;>
        refine ⟨_, ?_, ?_, rfl⟩ <;> rfl)

end Dynarmic.BackendX64
