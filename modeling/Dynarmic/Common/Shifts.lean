import Mathlib.Data.BitVec

/-!
# Shifts by the width or more

x86 masks a shift count and ARM does not; these are the facts about `BitVec` shifts by
amounts at or past the width that the shift emitters' boundary branches rely on.
-/

namespace Dynarmic.Common

theorem shiftLeft_of_ge {w n : Nat} (x : BitVec w) (h : w ≤ n) : x <<< n = 0#w := by
  ext i
  simp [BitVec.getLsbD_shiftLeft]
  omega

theorem ushiftRight_of_ge {w n : Nat} (x : BitVec w) (h : w ≤ n) : x >>> n = 0#w := by
  ext i
  simpa [BitVec.getLsbD_ushiftRight] using BitVec.getLsbD_ge x _ (by omega)

/-- An arithmetic shift by the width or more fills every bit with the sign, as a shift by the
width less one does. -/
theorem sshiftRight_of_ge {w n : Nat} (x : BitVec w) (h : w ≤ n) :
    x.sshiftRight n = x.sshiftRight (w - 1) := by
  ext i
  have hi := i.isLt
  simp only [BitVec.getLsbD_sshiftRight]
  by_cases h2 : w - 1 + ↑i < w
  · rw [if_neg (by omega), if_pos h2, show w - 1 + ↑i = w - 1 by omega,
      BitVec.msb_eq_getLsbD_last]
  · rw [if_neg (by omega), if_neg h2]

/-- A rotation by zero, which x86 performs when the masked count is zero. -/
@[simp] theorem rotateRight_zero {w : Nat} (x : BitVec w) : x.rotateRight 0 = x := by
  ext i
  simp [BitVec.getLsbD_rotateRight, i.isLt]

/-- `RCR` by one of `a` with carry in `c`: the carry enters at the top, the rest moves down. -/
theorem rcr_one_result (a : BitVec 32) (c : Bool) :
    ((BitVec.ofBool c ++ a).rotateRight 1).setWidth 32 =
      (BitVec.ofBool c).setWidth 32 <<< 31 ||| a >>> 1 := by
  ext i
  have hi := i.isLt
  simp only [BitVec.getLsbD_setWidth, BitVec.getLsbD_rotateRight, BitVec.getLsbD_append,
    BitVec.getLsbD_or, BitVec.getLsbD_shiftLeft, BitVec.getLsbD_ushiftRight, BitVec.getLsbD_ofBool]
  by_cases h : (i : Nat) < 31
  · simp [h, show (i : Nat) < 32 - 1 by omega, show 1 + (i : Nat) < 32 by omega]
  · simp [show (i : Nat) = 31 by omega]

/-- `RCR` by one: the bit rotated out into the carry is bit 0. -/
theorem rcr_one_msb (a : BitVec 32) (c : Bool) :
    ((BitVec.ofBool c ++ a).rotateRight 1).msb = a.getLsbD 0 := by
  have h0 : (BitVec.ofBool c ++ a).getLsbD 0 = a.getLsbD 0 := by
    rw [BitVec.getLsbD_append]; rfl
  simpa [BitVec.msb_eq_getLsbD_last] using h0

/-- `AND ECX, 0x1F` keeps a count modulo 32. -/
theorem and_31_eq_mod (n : Nat) : n &&& 31 = n % 32 :=
  Nat.and_pow_two_sub_one_eq_mod n 5

end Dynarmic.Common
