import Dynarmic.Arm.Types

/-!
# Lanes

A packed value read as base-`2^k` digits. Packed SSE instructions and the SWAR sequences of
the packed emitters are stated lane by lane; the lemmas here move bitwise operations and
carry-free sums inside a lane.
-/

namespace Dynarmic.Common

/-- Lane `i` of width `k` of a number: its `i`-th base-`2^k` digit. -/
def lane (k i x : Nat) : Nat := x / 2 ^ (k * i) % 2 ^ k

/-- The number whose first `n` lanes of width `k` are `f 0, ..., f (n - 1)`, each taken
modulo `2^k`. -/
def ofLanes (k : Nat) (f : Nat → Nat) : Nat → Nat
  | 0 => 0
  | n + 1 => ofLanes k f n + f n % 2 ^ k * 2 ^ (k * n)

theorem lane_lt (k i x : Nat) : lane k i x < 2 ^ k := Nat.mod_lt _ (Nat.two_pow_pos k)

theorem ofLanes_lt (k : Nat) (f : Nat → Nat) (n : Nat) : ofLanes k f n < 2 ^ (k * n) := by
  induction n with
  | zero => simp [ofLanes]
  | succ n ih =>
    have digit : f n % 2 ^ k < 2 ^ k := Nat.mod_lt _ (Nat.two_pow_pos k)
    have bound : (f n % 2 ^ k + 1) * 2 ^ (k * n) ≤ 2 ^ k * 2 ^ (k * n) :=
      Nat.mul_le_mul_right _ digit
    rw [ofLanes, Nat.mul_succ, Nat.pow_add, Nat.mul_comm (2 ^ (k * n))]
    rw [Nat.add_mul, Nat.one_mul] at bound
    omega

/-- A digit above lane `i` does not reach lane `i`. -/
theorem lane_add_mul_pow {k i j : Nat} (x c : Nat) (h : i < j) :
    lane k i (x + c * 2 ^ (k * j)) = lane k i x := by
  obtain ⟨d, rfl⟩ : ∃ d, j = i + d + 1 := ⟨j - i - 1, by omega⟩
  have split : c * 2 ^ (k * (i + d + 1)) = c * 2 ^ (k * d) * 2 ^ k * 2 ^ (k * i) := by
    rw [show k * (i + d + 1) = k * d + k + k * i by ring, Nat.pow_add, Nat.pow_add]; ring
  rw [lane, lane, split, Nat.add_mul_div_right _ _ (Nat.two_pow_pos _), Nat.add_mul_mod_self_right]

/-- The digit added at lane `j` over a number below `2^(k*j)` is lane `j`. -/
theorem lane_add_mul_pow_self {k j : Nat} (x c : Nat) (h : x < 2 ^ (k * j)) :
    lane k j (x + c * 2 ^ (k * j)) = c % 2 ^ k := by
  rw [lane, Nat.add_mul_div_right _ _ (Nat.two_pow_pos _), Nat.div_eq_of_lt h, Nat.zero_add]

theorem lane_ofLanes {k i n : Nat} (f : Nat → Nat) (h : i < n) :
    lane k i (ofLanes k f n) = f i % 2 ^ k := by
  induction n with
  | zero => omega
  | succ n ih =>
    rw [ofLanes]
    rcases Nat.lt_succ_iff_lt_or_eq.mp h with lt | rfl
    · rw [lane_add_mul_pow _ _ lt, ih lt]
    · rw [lane_add_mul_pow_self _ _ (ofLanes_lt k f i), Nat.mod_mod]

/-- The first `n` lanes of `x` rebuild `x` modulo `2^(k*n)`. -/
theorem ofLanes_lane (k x n : Nat) : ofLanes k (fun i => lane k i x) n = x % 2 ^ (k * n) := by
  induction n with
  | zero => simp [ofLanes, Nat.mod_one]
  | succ n ih =>
    rw [ofLanes, ih, lane, Nat.mod_mod, Nat.mul_succ, Nat.pow_add, Nat.mod_mul]
    ring

theorem testBit_lane (k i x j : Nat) :
    (lane k i x).testBit j = (decide (j < k) && x.testBit (k * i + j)) := by
  rw [lane, Nat.testBit_mod_two_pow, ← Nat.shiftRight_eq_div_pow, Nat.testBit_shiftRight]

theorem lane_and (k i x y : Nat) : lane k i (x &&& y) = lane k i x &&& lane k i y :=
  Nat.eq_of_testBit_eq fun j => by
    simp only [testBit_lane, Nat.testBit_and]; cases decide (j < k) <;> rfl

theorem lane_or (k i x y : Nat) : lane k i (x ||| y) = lane k i x ||| lane k i y :=
  Nat.eq_of_testBit_eq fun j => by
    simp only [testBit_lane, Nat.testBit_or]; cases decide (j < k) <;> rfl

theorem lane_xor (k i x y : Nat) : lane k i (x ^^^ y) = lane k i x ^^^ lane k i y :=
  Nat.eq_of_testBit_eq fun j => by
    simp only [testBit_lane, Nat.testBit_xor]; cases decide (j < k) <;> rfl

/-- A sum of two numbers of `n` lanes whose lanes never carry out is the lane-wise sum. -/
theorem lane_add {k n i x y : Nat} (hx : x < 2 ^ (k * n)) (hy : y < 2 ^ (k * n))
    (nocarry : ∀ j < n, lane k j x + lane k j y < 2 ^ k) (h : i < n) :
    lane k i (x + y) = lane k i x + lane k i y := by
  have sum : ∀ m ≤ n, ofLanes k (fun j => lane k j x) m + ofLanes k (fun j => lane k j y) m =
      ofLanes k (fun j => lane k j x + lane k j y) m := by
    intro m hm
    induction m with
    | zero => rfl
    | succ m ih =>
      simp only [ofLanes, Nat.mod_eq_of_lt (lane_lt k m x), Nat.mod_eq_of_lt (lane_lt k m y),
        Nat.mod_eq_of_lt (nocarry m (by omega))]
      rw [← ih (by omega)]
      ring
  have hx' := ofLanes_lane k x n
  have hy' := ofLanes_lane k y n
  rw [Nat.mod_eq_of_lt hx] at hx'
  rw [Nat.mod_eq_of_lt hy] at hy'
  rw [← hx', ← hy', sum n le_rfl, lane_ofLanes _ h, Nat.mod_eq_of_lt (nocarry i h), hx', hy']

/-- `x + y = (x ^ y) + 2 (x & y)`: the carry-save split behind the halving adds. -/
theorem add_eq_xor_add_and (x y : Nat) : x + y = (x ^^^ y) + 2 * (x &&& y) := by
  induction x using Nat.strongRecOn generalizing y with
  | ind x ih =>
    rcases Nat.eq_zero_or_pos x with rfl | pos
    · simp
    · have step := ih (x / 2) (Nat.div_lt_self pos (by decide)) (y / 2)
      have xs := Nat.div_add_mod x 2
      have ys := Nat.div_add_mod y 2
      have xo := Nat.div_add_mod (x ^^^ y) 2
      have ao := Nat.div_add_mod (x &&& y) 2
      rw [Nat.xor_div_two] at xo
      rw [Nat.and_div_two] at ao
      have hx := Nat.mod_two_eq_zero_or_one x
      have hy := Nat.mod_two_eq_zero_or_one y
      have hxo := Nat.mod_two_eq_zero_or_one (x ^^^ y)
      have hao := Nat.mod_two_eq_zero_or_one (x &&& y)
      have bx := Nat.xor_mod_two_eq_one (a := x) (b := y)
      have ba := Nat.and_mod_two_eq_one (a := x) (b := y)
      omega

end Dynarmic.Common
