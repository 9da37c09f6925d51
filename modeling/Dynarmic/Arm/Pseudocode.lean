import Dynarmic.Common.Lanes

/-!
# ARM reference semantics

The ARM pseudocode the emitted code is compared with: `Shift_C` for each shift type,
`AddWithCarry`, the saturations, `CountLeadingZeroBits`, and the lanes and `GE` bits of the
parallel add and subtract instructions. These follow the ARM
Architecture Reference Manual, not the backend.
-/

namespace Dynarmic.Arm

open Common

/-- `LSL_C`, with `Shift_C`'s zero-amount case: the carry is the last bit shifted out. -/
def lslC (x : BitVec 32) (s : Nat) (c : Bool) : BitVec 32 × Bool :=
  if s = 0 then (x, c) else (x <<< s, decide (s ≤ 32) && x.getLsbD (32 - s))

/-- `LSR_C`, with `Shift_C`'s zero-amount case. -/
def lsrC (x : BitVec 32) (s : Nat) (c : Bool) : BitVec 32 × Bool :=
  if s = 0 then (x, c) else (x >>> s, decide (s ≤ 32) && x.getLsbD (s - 1))

/-- `ASR_C`, with `Shift_C`'s zero-amount case: amounts of 32 and more fill with the sign. -/
def asrC (x : BitVec 32) (s : Nat) (c : Bool) : BitVec 32 × Bool :=
  if s = 0 then (x, c) else (x.sshiftRight s, x.getLsbD (min s 32 - 1))

/-- `ROR_C`, with `Shift_C`'s zero-amount case: the carry is bit 31 of the result. -/
def rorC (x : BitVec 32) (s : Nat) (c : Bool) : BitVec 32 × Bool :=
  if s = 0 then (x, c) else
    let r := x.rotateRight (s % 32)
    (r, r.getLsbD 31)

/-- `RRX_C`: the carry in enters at bit 31, bit 0 leaves as the carry out. -/
def rrxC (x : BitVec 32) (c : Bool) : BitVec 32 × Bool :=
  ((BitVec.ofBool c).setWidth 32 <<< 31 ||| x >>> 1, x.getLsbD 0)

/-- `AddWithCarry(x, y, carry_in)`: the result, the carry out and the signed overflow. -/
def addWithCarry (x y : BitVec 32) (c : Bool) : BitVec 32 × Bool × Bool :=
  let unsigned_sum := x.toNat + y.toNat + c.toNat
  let signed_sum := x.toInt + y.toInt + c.toNat
  let result := BitVec.ofNat 32 unsigned_sum
  (result, result.toNat != unsigned_sum, result.toInt != signed_sum)

/-- `SignedSatQ(i, N)`: `i` clamped to the `N`-bit signed range, and whether it was clamped. -/
def signedSatQ (i : Int) (N : Nat) : Int × Bool :=
  if i > 2 ^ (N - 1) - 1 then (2 ^ (N - 1) - 1, true)
  else if i < -2 ^ (N - 1) then (-2 ^ (N - 1), true)
  else (i, false)

/-- `UnsignedSatQ(i, N)`: `i` clamped to `[0, 2^N - 1]`, and whether it was clamped. -/
def unsignedSatQ (i : Int) (N : Nat) : Int × Bool :=
  if i > 2 ^ N - 1 then (2 ^ N - 1, true)
  else if i < 0 then (0, true)
  else (i, false)

/-- The loop of `HighestSetBit` over bits `k - 1` down to 0: the first set bit it meets, or
`-1`. -/
def highestSetBitBelow (x : BitVec 32) : Nat → Int
  | 0 => -1
  | i + 1 => if x.getLsbD i then i else highestSetBitBelow x i

/-- `HighestSetBit(x)`. -/
def highestSetBit (x : BitVec 32) : Int := highestSetBitBelow x 32

/-- `CountLeadingZeroBits(x) = N - 1 - HighestSetBit(x)`. -/
def countLeadingZeroBits (x : BitVec 32) : Nat := (31 - highestSetBit x).toNat

theorem highestSetBitBelow_bounds (x : BitVec 32) (k : Nat) :
    -1 ≤ highestSetBitBelow x k ∧ highestSetBitBelow x k < k := by
  induction k with
  | zero => simp [highestSetBitBelow]
  | succ k ih =>
    simp only [highestSetBitBelow]
    split <;> omega

/-- The loop finds no set bit below `k` only when there is none. -/
theorem getLsbD_of_highestSetBitBelow (x : BitVec 32) (k : Nat)
    (none_found : highestSetBitBelow x k = -1) (i : Nat) (below : i < k) : x.getLsbD i = false := by
  induction k with
  | zero => omega
  | succ k ih =>
    simp only [highestSetBitBelow] at none_found
    split at none_found
    next => omega
    next top =>
      rcases Nat.lt_succ_iff_lt_or_eq.mp below with below | rfl
      · exact ih none_found below
      · simpa using top

theorem highestSetBit_nonneg {x : BitVec 32} (nonzero : x ≠ 0#32) : 0 ≤ highestSetBit x := by
  by_contra negative
  have bounds := highestSetBitBelow_bounds x 32
  apply nonzero
  ext i
  simpa using getLsbD_of_highestSetBitBelow x 32 (by unfold highestSetBit at negative; omega) i
    i.isLt

/-- A word with a set bit has at most 31 leading zeros. -/
theorem countLeadingZeroBits_le {x : BitVec 32} (nonzero : x ≠ 0#32) :
    countLeadingZeroBits x ≤ 31 := by
  have := highestSetBit_nonneg nonzero
  unfold countLeadingZeroBits
  omega

theorem highestSetBitBelow_zero (k : Nat) : highestSetBitBelow 0#32 k = -1 := by
  induction k with
  | zero => rfl
  | succ k ih => simp [highestSetBitBelow, ih]

@[simp] theorem countLeadingZeroBits_zero : countLeadingZeroBits 0#32 = 32 := by
  simp [countLeadingZeroBits, highestSetBit, highestSetBitBelow_zero]

/-- Lane `i` of width `k` of a word, read as two's complement. -/
def signedLane (k i : Nat) (x : BitVec 32) : Int :=
  let v := lane k i x.toNat
  if v < 2 ^ (k - 1) then v else (v : Int) - 2 ^ k

/-- `UHADD8`/`UHADD16`: lane `i` of the result, lanes read unsigned. -/
def halvingAddU (k i : Nat) (a b : BitVec 32) : Nat :=
  (lane k i a.toNat + lane k i b.toNat) / 2

/-- `SHADD8`/`SHADD16`: lane `i` of the result, lanes read signed, as `k` bits. -/
def halvingAddS (k i : Nat) (a b : BitVec 32) : Nat :=
  ((signedLane k i a + signedLane k i b) / 2 % 2 ^ k).toNat

/-- `UHSUB8`/`UHSUB16`: lane `i` of the result, lanes read unsigned, as `k` bits. -/
def halvingSubU (k i : Nat) (a b : BitVec 32) : Nat :=
  (((lane k i a.toNat : Int) - lane k i b.toNat) / 2 % 2 ^ k).toNat

/-- `SHSUB8`/`SHSUB16`: lane `i` of the result, lanes read signed, as `k` bits. -/
def halvingSubS (k i : Nat) (a b : BitVec 32) : Nat :=
  ((signedLane k i a - signedLane k i b) / 2 % 2 ^ k).toNat

/-- `UHASX`/`SHASX` (`asx`) and `UHSAX`/`SHSAX`: the high and the low halfword of the result,
the halfwords of the operands read by `half`. With `asx` the high half is the halved sum of
`a`'s high and `b`'s low half and the low half the halved difference of `a`'s low and `b`'s
high half; without, the other way round. -/
def halvingExchange (half : Nat → BitVec 32 → Int) (asx : Bool) (a b : BitVec 32) :
    Nat × Nat :=
  let hi := if asx then half 1 a + half 0 b else half 1 a - half 0 b
  let lo := if asx then half 0 a - half 1 b else half 0 a + half 1 b
  ((hi / 2 % 2 ^ 16).toNat, (lo / 2 % 2 ^ 16).toNat)

/-- Lane `i` of width `k` of a word, read unsigned. -/
def unsignedLane (k i : Nat) (x : BitVec 32) : Int := lane k i x.toNat

/-- `UADD8`/`SADD8`/`UADD16`/`SADD16`: lane `i` of the result, as `k` bits. -/
def addLane (k i : Nat) (a b : BitVec 32) : Nat := (lane k i a.toNat + lane k i b.toNat) % 2 ^ k

/-- `USUB8`/`SSUB8`/`USUB16`/`SSUB16`: lane `i` of the result, as `k` bits. -/
def subLane (k i : Nat) (a b : BitVec 32) : Nat :=
  (((lane k i a.toNat : Int) - lane k i b.toNat) % 2 ^ k).toNat

/-- The `GE` condition of `UADD8`/`UADD16`: lane `i`'s sum carries out. -/
def uaddGE (k i : Nat) (a b : BitVec 32) : Bool := 2 ^ k ≤ lane k i a.toNat + lane k i b.toNat

/-- The `GE` condition of `SADD8`/`SADD16`: lane `i`'s signed sum is not negative. -/
def saddGE (k i : Nat) (a b : BitVec 32) : Bool := 0 ≤ signedLane k i a + signedLane k i b

/-- The `GE` condition of `USUB8`/`USUB16`: lane `i`'s unsigned difference is not negative. -/
def usubGE (k i : Nat) (a b : BitVec 32) : Bool := lane k i b.toNat ≤ lane k i a.toNat

/-- The `GE` condition of `SSUB8`/`SSUB16`: lane `i`'s signed difference is not negative. -/
def ssubGE (k i : Nat) (a b : BitVec 32) : Bool := 0 ≤ signedLane k i a - signedLane k i b

/-- The `GE` bits a parallel add or subtract sets from the condition `ge i` of each lane: one
bit for each 8-bit lane, the same two bits for each 16-bit lane. -/
def geBits (k : Nat) (ge : Nat → Bool) : BitVec 32 :=
  if k = 8 then BitVec.ofNat 32 (ofLanes 1 (fun i => (ge i).toNat) 4)
  else BitVec.ofNat 32 (ofLanes 2 (fun i => 3 * (ge i).toNat) 2)

end Dynarmic.Arm
