import Mathlib.Data.List.Basic
import Mathlib.Tactic.Common
import Mathlib.Algebra.Group.Nat.Defs

set_option autoImplicit false

/-!
# The leading bits of a sequence of bytes

The first `n` bits are compared byte by byte under a mask.
-/

namespace LeadingBits

abbrev Byte := BitVec 8

/-- The bits of a byte, the most significant first. -/
def bits (b : Byte) : List Bool :=
  (List.range 8).map b.getMsbD

def bitsOf (bytes : List Byte) : List Bool :=
  bytes.flatMap bits

def mask (n : Nat) : Byte :=
  if 8 ≤ n then 0xff else 0xff <<< (8 - n)

@[simp] theorem bits_length (b : Byte) : (bits b).length = 8 := rfl

@[simp] theorem bitsOf_nil : bitsOf [] = [] := rfl

@[simp] theorem bitsOf_cons (b : Byte) (bytes : List Byte) :
    bitsOf (b :: bytes) = bits b ++ bitsOf bytes := rfl

theorem mask_bit {n i : Nat} (small : n ≤ 8) (bit : i < 8) : (mask n).getMsbD i = decide (i < n) := by
  have all : ∀ n < 9, ∀ i < 8, (mask n).getMsbD i = decide (i < n) := by decide
  exact all n (by omega) i bit

theorem masked_eq_iff (a b : Byte) {n : Nat} (small : n ≤ 8) :
    a &&& mask n = b &&& mask n ↔ (bits a).take n = (bits b).take n := by
  have taken (c : Byte) : (bits c).take n = (List.range n).map c.getMsbD := by
    rw [bits, ← List.map_take, List.take_range, Nat.min_eq_left small]
  rw [taken, taken, List.map_inj_left]
  constructor
  next =>
    intro same i member
    have below := List.mem_range.mp member
    have bit := congrArg (fun x : Byte => x.getMsbD i) same
    simpa [mask_bit small (by omega : i < 8), below] using bit
  next =>
    intro same
    refine BitVec.eq_of_getMsbD_eq fun i bit => ?_
    rw [BitVec.getMsbD_and, BitVec.getMsbD_and, mask_bit small bit]
    by_cases below : i < n
    next => rw [same i (List.mem_range.mpr below)]
    next => simp [below]

/-- A byte is compared under the mask, and then the rest of the bits. -/
theorem take_bitsOf_cons (a b : Byte) (as bs : List Byte) {n : Nat} :
    (bitsOf (a :: as)).take n = (bitsOf (b :: bs)).take n ↔
      a &&& mask n = b &&& mask n ∧ (bitsOf as).take (n - 8) = (bitsOf bs).take (n - 8) := by
  rw [bitsOf_cons, bitsOf_cons, List.take_append, List.take_append, bits_length, bits_length]
  have lengths : ((bits a).take n).length = ((bits b).take n).length := by simp
  refine Iff.trans ⟨fun same => List.append_inj same lengths, fun parts => by rw [parts.1, parts.2]⟩
    (and_congr_left fun _ => ?_)
  by_cases small : n ≤ 8
  next => exact (masked_eq_iff a b small).symm
  next =>
    have whole : mask n = mask 8 := by
      rw [mask, mask, if_pos (by omega), if_pos (by omega)]
    have all (c : Byte) : (bits c).take n = (bits c).take 8 := by
      rw [List.take_of_length_le (by simp; omega), List.take_of_length_le (by simp)]
    rw [whole, all, all]
    exact (masked_eq_iff a b (Nat.le_refl 8)).symm

end LeadingBits

/-!
## RIFF chunks

Numbers are little-endian. A chunk is its id, the size of its body and the body; a byte follows a
body of odd size.
-/

namespace Riff

abbrev Byte := BitVec 8

def littleEndian : Nat → Nat → List Byte
  | 0, _ => []
  | k + 1, n => BitVec.ofNat 8 n :: littleEndian k (n / 256)

def number : List Byte → Nat
  | [] => 0
  | b :: rest => b.toNat + 256 * number rest

@[simp] theorem littleEndian_length (k n : Nat) : (littleEndian k n).length = k := by
  induction k generalizing n with
  | zero => rfl
  | succ k ih => rw [littleEndian, List.length_cons, ih]

theorem number_littleEndian (k n : Nat) : number (littleEndian k n) = n % 256 ^ k := by
  induction k generalizing n with
  | zero => rw [Nat.pow_zero, Nat.mod_one]; rfl
  | succ k ih =>
    rw [littleEndian, number, ih, BitVec.toNat_ofNat, Nat.pow_succ' (m := 256)]
    exact Nat.mod_mul.symm

structure Chunk where
  id : List Byte
  body : List Byte
  pad : Byte
  four : id.length = 4

namespace Chunk

def bytes (c : Chunk) : List Byte :=
  c.id ++ littleEndian 4 c.body.length ++ c.body ++ if c.body.length % 2 = 1 then [c.pad] else []

theorem bytes_even {c : Chunk} (even : c.body.length % 2 = 0) :
    c.bytes = c.id ++ littleEndian 4 c.body.length ++ c.body := by
  rw [bytes, if_neg (by omega), List.append_nil]

theorem bytes_length (c : Chunk) : 8 + c.body.length ≤ c.bytes.length := by
  simp only [bytes, List.length_append, c.four, littleEndian_length]
  omega

end Chunk

end Riff
