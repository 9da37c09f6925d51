import Dynarmic.Common.Lanes

/-!
# Partitioned arithmetic

The SWAR sequences of the packed emitters add and subtract whole words and count on each lane's
top bit to stop a carry or a borrow there. The lemmas here say when a word difference is the
lane-wise difference, what OR, AND and XOR with a lane's top bit do to its value, and how a
word is rebuilt from its lanes.
-/

namespace Dynarmic.Common

/-- Setting a bit above a number adds it. -/
theorem xor_two_pow_of_lt {w j : Nat} (h : w < 2 ^ j) : w ^^^ 2 ^ j = w + 2 ^ j := by
  have disjoint := Nat.mul_add_lt_is_or h 1
  rw [Nat.mul_one] at disjoint
  rw [Nat.add_comm, disjoint]
  apply Nat.eq_of_testBit_eq
  intro i
  simp only [Nat.testBit_xor, Nat.testBit_or, Nat.testBit_two_pow]
  by_cases same : j = i
  · subst same
    simp [Nat.testBit_lt_two_pow h]
  · simp [same]

/-- AND with a power of two keeps that bit. -/
theorem and_two_pow (v j : Nat) : v &&& 2 ^ j = (v.testBit j).toNat * 2 ^ j := by
  apply Nat.eq_of_testBit_eq
  intro i
  cases top : v.testBit j <;> by_cases same : j = i <;>
    simp_all [Nat.testBit_and, Nat.testBit_two_pow]

/-- The top bit of a `j + 1`-bit number is set iff the number is at least `2^j`. -/
theorem testBit_top {v j : Nat} (h : v < 2 ^ (j + 1)) : v.testBit j = decide (2 ^ j ≤ v) := by
  have pos := Nat.two_pow_pos j
  have below : v / 2 ^ j < 2 := Nat.div_lt_of_lt_mul (by rw [Nat.pow_succ] at h; linarith)
  rw [Nat.testBit_to_div_mod, Nat.mod_eq_of_lt below]
  have iff : 1 ≤ v / 2 ^ j ↔ 2 ^ j ≤ v := by rw [Nat.le_div_iff_mul_le pos, Nat.one_mul]
  by_cases big : 2 ^ j ≤ v <;> simp only [big, iff_true, iff_false] at iff <;> simp [big] <;> omega

/-- A number of `n` lanes and a smaller one: the lane-wise differences, as lanes, plus the
smaller rebuild the larger when no lane borrows. -/
theorem eq_ofLanes_sub_add {k n x y : Nat} (hx : x < 2 ^ (k * n)) (hy : y < 2 ^ (k * n))
    (noborrow : ∀ j < n, lane k j y ≤ lane k j x) :
    x = ofLanes k (fun j => lane k j x - lane k j y) n + y := by
  have sum : ∀ m ≤ n, ofLanes k (fun j => lane k j x - lane k j y) m +
      ofLanes k (fun j => lane k j y) m = ofLanes k (fun j => lane k j x) m := by
    intro m hm
    induction m with
    | zero => rfl
    | succ m ih =>
      have le := noborrow m (by omega)
      simp only [ofLanes, Nat.mod_eq_of_lt (lane_lt k m x), Nat.mod_eq_of_lt (lane_lt k m y),
        Nat.mod_eq_of_lt (Nat.lt_of_le_of_lt (Nat.sub_le _ _) (lane_lt k m x))]
      rw [← ih (by omega)]
      obtain ⟨d, hd⟩ : ∃ d, lane k m x = lane k m y + d := ⟨_, (Nat.add_sub_of_le le).symm⟩
      rw [hd, Nat.add_sub_cancel_left]
      ring
  have hx' := ofLanes_lane k x n
  have hy' := ofLanes_lane k y n
  rw [Nat.mod_eq_of_lt hx] at hx'
  rw [Nat.mod_eq_of_lt hy] at hy'
  have whole := sum n le_rfl
  rw [hx', hy'] at whole
  exact whole.symm

/-- Halving a number and setting each lane's top bit gives, in every lane, the lane halved
with its top bit set: the bit shifted in from the lane above is overwritten. -/
theorem lane_div_two_or {k i x M : Nat} (hM : lane (k + 1) i M = 2 ^ k) :
    lane (k + 1) i (x / 2 ||| M) = lane (k + 1) i x / 2 + 2 ^ k := by
  have half : lane (k + 1) i x / 2 < 2 ^ k := by
    have := lane_lt (k + 1) i x
    rw [Nat.pow_succ] at this
    omega
  rw [show lane (k + 1) i x / 2 + 2 ^ k = 2 ^ k * 1 + lane (k + 1) i x / 2 by ring,
    Nat.mul_add_lt_is_or half]
  apply Nat.eq_of_testBit_eq
  intro j
  have top := congrArg (Nat.testBit · j) hM
  simp only [testBit_lane, Nat.testBit_two_pow] at top
  simp only [testBit_lane, Nat.testBit_or, Nat.testBit_div_two, Nat.mul_one, Nat.testBit_two_pow]
  rcases Nat.lt_trichotomy j k with lt | rfl | gt
  · simp_all [show j < k + 1 by omega, Nat.ne_of_gt lt, Nat.add_assoc]
  · simp_all
  · simp [show ¬ j < k + 1 by omega, show ¬ j + 1 < k + 1 by omega, Nat.ne_of_lt gt]

/-- XOR with the top bit of a `k + 1`-bit number flips it. -/
theorem xor_two_pow_eq_ite {v k : Nat} (h : v < 2 ^ (k + 1)) :
    v ^^^ 2 ^ k = if v < 2 ^ k then v + 2 ^ k else v - 2 ^ k := by
  have double : 2 ^ (k + 1) = 2 ^ k + 2 ^ k := by rw [Nat.pow_succ]; omega
  split
  · exact xor_two_pow_of_lt ‹_›
  · obtain ⟨w, rfl⟩ : ∃ w, v = w + 2 ^ k := ⟨v - 2 ^ k, by omega⟩
    rw [← xor_two_pow_of_lt (show w < 2 ^ k by omega), Nat.xor_assoc, Nat.xor_self,
      Nat.xor_zero, xor_two_pow_of_lt (show w < 2 ^ k by omega), Nat.add_sub_cancel]

/-- `x + 2 (y & (x ^ y)) = (x ^ y) + y`: the borrow-save split behind the halving subtracts,
`x - y = (x ^ y) - 2 ((x ^ y) & y)`. -/
theorem add_two_and_xor (x y : Nat) : x + 2 * (y &&& (x ^^^ y)) = (x ^^^ y) + y := by
  rw [add_eq_xor_add_and (x ^^^ y) y, Nat.xor_assoc, Nat.xor_self, Nat.xor_zero, Nat.and_comm]

/-- A residue read back as a natural number: `u mod K` is `w` when `w < K` differs from `u` by
a multiple of `K`. -/
theorem toNat_emod_eq {u : Int} {w K : Nat} (q : Int) (lt : w < K) (h : u = w + K * q) :
    (u % K).toNat = w := by
  rw [h, Int.add_mul_emod_self_left, Int.emod_eq_of_lt (by omega) (by omega)]
  rfl

/-- Lanes beyond the `n`-th do not matter to `ofLanes k f n`, and neither does anything of
`f` but its values below `n`. -/
theorem ofLanes_congr {k n : Nat} {f g : Nat → Nat} (h : ∀ i < n, f i = g i) :
    ofLanes k f n = ofLanes k g n := by
  induction n with
  | zero => rfl
  | succ n ih => rw [ofLanes, ofLanes, ih (fun i hi => h i (by omega)), h n (by omega)]

/-- A word of `n` lanes of width `k` is the word built from its lanes. -/
theorem eq_ofLanes_of_lane {k n : Nat} (width : k * n = 32) (x : BitVec 32) (f : Nat → Nat)
    (lanes : ∀ i < n, lane k i x.toNat = f i) : x = BitVec.ofNat 32 (ofLanes k f n) := by
  apply BitVec.eq_of_toNat_eq
  have whole := ofLanes_lane k x.toNat n
  rw [width, Nat.mod_eq_of_lt x.isLt, ofLanes_congr lanes] at whole
  rw [← whole, BitVec.toNat_ofNat, whole, Nat.mod_eq_of_lt x.isLt]

end Dynarmic.Common
