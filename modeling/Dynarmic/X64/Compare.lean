import Dynarmic.X64.Instr

/-!
# What a compare tells the condition codes

`CMP a, b` and `TEST a, a` set the flags from `a - b` and `a &&& a`; these lemmas read the
conditions the emitters branch on back as comparisons of the operands' values.
-/

namespace Dynarmic.X64

/-- `SETC`/`JC` read the carry flag as it is. -/
@[simp] theorem CondCode.eval_b (f : Flags) : CondCode.eval f .b = f.cf := rfl

/-- The zero flag of a compare: the difference is zero exactly when the operands agree. -/
theorem sub_beq_zero {n : Nat} (x y : BitVec n) : (x - y == 0#n) = decide (x.toNat = y.toNat) := by
  by_cases h : x = y
  · simp [h]
  · have hne : x.toNat ≠ y.toNat := fun e => h (BitVec.eq_of_toNat_eq e)
    simpa [hne] using fun h' => h (sub_eq_zero.mp h')

/-- The zero flag of a test: the word is zero exactly when its value is. -/
theorem beq_zero {n : Nat} (x : BitVec n) : (x == 0#n) = decide (x.toNat = 0) := by
  by_cases h : x = 0#n
  · simp [h]
  · have hne : x.toNat ≠ 0 := fun e => h (BitVec.eq_of_toNat_eq (by simpa using e))
    simpa [hne] using h

/-- `CMP a, b` then `JE`: taken when the operands agree. -/
theorem cond_e_cmp {n : Nat} (a b : BitVec n) :
    CondCode.eval (subFlags a b false (a - b)) .e = some (decide (a.toNat = b.toNat)) := by
  simp [CondCode.eval, sub_beq_zero]

/-- `CMP a, b` then `JA`: taken when `a > b` as unsigned values. -/
theorem cond_a_cmp {n : Nat} (a b : BitVec n) :
    CondCode.eval (subFlags a b false (a - b)) .a = some (decide (b.toNat < a.toNat)) := by
  rcases Nat.lt_trichotomy a.toNat b.toNat with h | h | h
  · simp [CondCode.eval, sub_beq_zero, h, Nat.lt_asymm h]
  · simp [CondCode.eval, sub_beq_zero, h]
  · simp [CondCode.eval, sub_beq_zero, h, Nat.lt_asymm h, Nat.ne_of_gt h]

/-- `CMP a, b` then `CMOVNB`: taken when `a ≥ b` as unsigned values. -/
theorem cond_nb_cmp {n : Nat} (a b : BitVec n) :
    CondCode.eval (subFlags a b false (a - b)) .nb = some (decide (b.toNat ≤ a.toNat)) := by
  by_cases h : b.toNat ≤ a.toNat
  · simp [CondCode.eval, h, Nat.not_lt.mpr h]
  · simp [CondCode.eval, h, Nat.lt_of_not_le h]

/-- A logic instruction (`AND`, `TEST`, `XOR`, `OR`) then `JE`: taken when its result is
zero. -/
theorem cond_e_logic {n : Nat} (r : BitVec n) :
    CondCode.eval (logicFlags r) .e = some (decide (r.toNat = 0)) := by
  simp [CondCode.eval, beq_zero]

/-- `CMP a, b` then `JG`/`CMOVG`: taken when `a > b` as signed values; for operands below
`2^31` this is the unsigned order. -/
theorem cond_g_cmp (a b : BitVec 32) (ha : a.toNat < 2 ^ 31) (hb : b.toNat < 2 ^ 31) :
    CondCode.eval (subFlags a b false (a - b)) .g = some (decide (b.toNat < a.toNat)) := by
  have hsa : ¬2 ^ 31 ≤ a.toNat := by omega
  have hsb : ¬2 ^ 31 ≤ b.toNat := by omega
  have hd : 2 ^ 31 ≤ (2 ^ 32 - b.toNat + a.toNat) % 2 ^ 32 ↔ a.toNat < b.toNat := by omega
  simp only [CondCode.eval, subFlags_zf, subFlags_sf, subFlags_of, BitVec.msb_eq_decide,
    BitVec.toNat_sub, BitVec.ofNat_eq_ofNat, sub_beq_zero, hsa, hsb, hd]
  by_cases h : a.toNat < b.toNat
  · simp [h, Nat.ne_of_lt h, Nat.lt_asymm h]
  · by_cases h' : a.toNat = b.toNat <;> simp [h, h']
    omega

/-- `SInt` of a word, linear in its bits: the top bit counts `-2^31`. -/
theorem toInt_eq_toNat_sub (a : BitVec 32) :
    a.toInt = a.toNat - 4294967296 * (a.toNat / 2147483648 : Nat) := by
  have := a.isLt
  rw [BitVec.toInt_eq_toNat_cond]
  split_ifs <;> omega

/-- `CMP a, b` then `CMOVBE`/`JBE`: taken when `a ≤ b` as unsigned values. -/
theorem cond_be_cmp {n : Nat} (a b : BitVec n) :
    CondCode.eval (subFlags a b false (a - b)) .be = some (decide (a.toNat ≤ b.toNat)) := by
  by_cases h : a.toNat ≤ b.toNat
  · rcases Nat.lt_or_eq_of_le h with h' | h' <;> simp [CondCode.eval, sub_beq_zero, h, h']
  · simp [CondCode.eval, sub_beq_zero, h]
    omega

/-- `CMP a, b` then `CMOVLE`: taken when `a ≤ b` as signed values. -/
theorem cond_le_cmp (a b : BitVec 32) :
    CondCode.eval (subFlags a b false (a - b)) .le = some (decide (a.toInt ≤ b.toInt)) := by
  have ha := a.isLt
  have hb := b.isLt
  simp only [CondCode.eval, subFlags_zf, subFlags_sf, subFlags_of, sub_beq_zero,
    BitVec.msb_eq_decide, BitVec.toNat_sub, toInt_eq_toNat_sub, Option.bind_eq_bind,
    Option.some_bind, Option.pure_def, Option.some.injEq, BitVec.ofNat_eq_ofNat]
  simp only [Nat.reducePow, Nat.reduceSub] at *
  by_cases h1 : 2147483648 ≤ a.toNat <;> by_cases h2 : 2147483648 ≤ b.toNat <;>
    by_cases h3 : 2147483648 ≤ (4294967296 - b.toNat + a.toNat) % 4294967296 <;>
    simp [h1, h2, h3] <;> omega

/-- `CMP a, b` then `CMOVG`/`JG`: taken when `a > b` as signed values. -/
theorem cond_g_cmp_toInt (a b : BitVec 32) :
    CondCode.eval (subFlags a b false (a - b)) .g = some (decide (b.toInt < a.toInt)) := by
  have le := cond_le_cmp a b
  simp only [CondCode.eval, Option.bind_eq_bind, Option.some_bind, Option.pure_def,
    Option.some.injEq, subFlags_zf, subFlags_sf, subFlags_of] at le ⊢
  rw [show ∀ z s o : Bool, (!z && s == o) = !(z || s != o) by decide, le]
  by_cases h : a.toInt ≤ b.toInt
  · simp [h]
  · simp [h]; omega

end Dynarmic.X64
