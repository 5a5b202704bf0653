import Mathlib.Algebra.BigOperators.Ring.Finset
import Mathlib.Algebra.Order.BigOperators.Group.Finset
import Mathlib.Algebra.Order.Ring.Int
import Mathlib.Tactic.Ring

set_option autoImplicit false

/-!
# Weighted sums of bounded values

The extremes of a weighted sum whose values lie between two bounds, and the values that reach them.
-/

namespace BoundedDot

variable {I : Type} (weight : I → Int)

def rising (s : Finset I) : Int :=
  ∑ i ∈ s, max (weight i) 0

def falling (s : Finset I) : Int :=
  ∑ i ∈ s, max (-weight i) 0

def highest (low high : Int) (i : I) : Int :=
  if 0 ≤ weight i then high else low

def lowest (low high : Int) (i : I) : Int :=
  if 0 ≤ weight i then low else high

theorem rising_mono {s t : Finset I} (inside : s ⊆ t) : rising weight s ≤ rising weight t :=
  Finset.sum_le_sum_of_subset_of_nonneg inside fun _ _ _ => le_max_right _ _

theorem falling_mono {s t : Finset I} (inside : s ⊆ t) : falling weight s ≤ falling weight t :=
  Finset.sum_le_sum_of_subset_of_nonneg inside fun _ _ _ => le_max_right _ _

theorem rising_nonneg (s : Finset I) : 0 ≤ rising weight s :=
  Finset.sum_nonneg fun _ _ => le_max_right _ _

theorem falling_nonneg (s : Finset I) : 0 ≤ falling weight s :=
  Finset.sum_nonneg fun _ _ => le_max_right _ _

theorem sum_highest (s : Finset I) (low high : Int) :
    ∑ i ∈ s, highest weight low high i * weight i =
      high * rising weight s - low * falling weight s := by
  unfold rising falling
  rw [Finset.mul_sum, Finset.mul_sum, ← Finset.sum_sub_distrib]
  apply Finset.sum_congr rfl
  intro i _
  unfold highest
  split
  next up => rw [max_eq_left up, max_eq_right (by omega), mul_zero, sub_zero]
  next down => rw [max_eq_right (by omega), max_eq_left (by omega)]; ring

theorem sum_lowest (s : Finset I) (low high : Int) :
    ∑ i ∈ s, lowest weight low high i * weight i =
      low * rising weight s - high * falling weight s :=
  sum_highest weight s high low

variable {weight} {value : I → Int} {low high : Int} {s : Finset I}

theorem sum_le (below : ∀ i ∈ s, low ≤ value i) (above : ∀ i ∈ s, value i ≤ high) :
    ∑ i ∈ s, value i * weight i ≤ high * rising weight s - low * falling weight s := by
  rw [← sum_highest]
  apply Finset.sum_le_sum
  intro i member
  unfold highest
  split
  next up => exact mul_le_mul_of_nonneg_right (above i member) up
  next down => exact mul_le_mul_of_nonpos_right (below i member) (by omega)

theorem le_sum (below : ∀ i ∈ s, low ≤ value i) (above : ∀ i ∈ s, value i ≤ high) :
    low * rising weight s - high * falling weight s ≤ ∑ i ∈ s, value i * weight i := by
  rw [← sum_lowest]
  apply Finset.sum_le_sum
  intro i member
  unfold lowest
  split
  next up => exact mul_le_mul_of_nonneg_right (below i member) up
  next down => exact mul_le_mul_of_nonpos_right (above i member) (by omega)

end BoundedDot
