import Mathlib.Data.BitVec
import Mathlib.Tactic.Common

set_option autoImplicit false

/-!
# Serial numbers of 16 bits

`ahead a b` is how far `a` is ahead of `b` on the circle: the signed difference.
-/

namespace Serial

abbrev Seq := BitVec 16

/-- The number `n` of an unbounded stream, as it is sent. -/
abbrev wire (n : Nat) : Seq := BitVec.ofNat 16 n

def ahead (a b : Seq) : Int := (a - b).toInt

@[simp] theorem ahead_self (a : Seq) : ahead a a = 0 := by
  simp [ahead]

theorem ahead_eq_zero {a b : Seq} : ahead a b = 0 ↔ a = b := by
  unfold ahead
  rw [← BitVec.toInt_zero (w := 16), BitVec.toInt_inj]
  bv_omega

theorem ahead_wire {m n : Nat} (near : m < n + 32768) (near' : n < m + 32768) :
    ahead (wire m) (wire n) = (m : Int) - n := by
  -- Numbers of a stream that are less than half the circle apart keep their distance.
  unfold ahead wire
  simp only [BitVec.toInt_sub, BitVec.toInt_ofNat', Int.bmod_def]
  omega

theorem ahead_succ_left {a b : Seq} (room : ahead a b < 32767) : ahead (a + 1) b = ahead a b + 1 := by
  unfold ahead at room ⊢
  have moved : a + 1 - b = (a - b) + 1 := by bv_omega
  have one : (1 : Seq).toInt = 1 := by decide
  rw [moved]
  generalize a - b = distance at room ⊢
  have low := BitVec.le_toInt distance
  simp only [Nat.add_one_sub_one] at low
  simp only [BitVec.toInt_add, one, Int.bmod_def]
  omega

theorem ahead_succ_right {a b : Seq} (room : -32768 < ahead a b) :
    ahead a (b + 1) = ahead a b - 1 := by
  unfold ahead at room ⊢
  have moved : a - (b + 1) = (a - b) - 1 := by bv_omega
  have one : (1 : Seq).toInt = 1 := by decide
  rw [moved]
  generalize a - b = distance at room ⊢
  have high := BitVec.toInt_lt (x := distance)
  simp only [Nat.add_one_sub_one] at high
  simp only [BitVec.toInt_sub, one, Int.bmod_def]
  omega

theorem ahead_toNat {a b : Seq} (order : b.toNat ≤ a.toNat) (forward : 0 ≤ ahead a b) :
    ahead a b = (a.toNat : Int) - b.toNat := by
  -- With no wrap between them a number that is not behind is as far ahead as the numbers differ.
  have high := a.isLt
  unfold ahead at forward ⊢
  simp only [BitVec.toInt_eq_toNat_bmod, BitVec.toNat_sub, Int.bmod_def] at forward ⊢
  omega

theorem wire_succ (n : Nat) : wire n + 1 = wire (n + 1) := by
  unfold wire
  rw [BitVec.ofNat_add]
  rfl

end Serial
