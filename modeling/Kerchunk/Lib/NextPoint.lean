import Mathlib.Order.Bounds.Basic
import Mathlib.Logic.Function.Iterate
import Mathlib.Tactic.Common

set_option autoImplicit false

/-!
# From each point of a set of integers to the next one
-/

namespace NextPoint

/-- The least point of the set that is greater than `x`. -/
def IsNext (points : Set Int) (x y : Int) : Prop :=
  IsLeast {t | t ∈ points ∧ x < t} y

variable {points : Set Int} {next : Int → Int} {P : Int → Prop}

theorem iterate_keeps (keeps : ∀ x, P x → P (next x)) {x : Int} (start : P x) (n : Nat) :
    P (next^[n] x) := by
  induction n with
  | zero => exact start
  | succ n ih =>
    rw [Function.iterate_succ_apply']
    exact keeps _ ih

section

variable (jumps : ∀ x, P x → IsNext points x (next x)) (keeps : ∀ x, P x → P (next x))

include jumps keeps

theorem iterate_later {x : Int} (start : P x) (n : Nat) : x + n ≤ next^[n] x := by
  induction n with
  | zero => simp
  | succ n ih =>
    have ahead := (jumps _ (iterate_keeps keeps start n)).1.2
    rw [Function.iterate_succ_apply']
    push_cast
    omega

theorem iterate_increases {x : Int} (start : P x) {m n : Nat} (before : m < n) :
    next^[m] x < next^[n] x := by
  obtain ⟨k, rfl⟩ := Nat.exists_eq_add_of_lt before
  have later := iterate_later jumps keeps (iterate_keeps keeps start m) (k + 1)
  rw [← Function.iterate_add_apply] at later
  rw [show m + k + 1 = k + 1 + m by omega]
  push_cast at later
  omega

theorem iterate_injective {x : Int} (start : P x) {m n : Nat} (same : next^[m] x = next^[n] x) :
    m = n := by
  rcases Nat.lt_trichotomy m n with before | equal | after
  next => exact absurd same (Int.ne_of_lt (iterate_increases jumps keeps start before))
  next => exact equal
  next => exact absurd same.symm (Int.ne_of_lt (iterate_increases jumps keeps start after))

theorem iterate_reaches (distance : Nat) {x t : Int} (start : P x) (point : t ∈ points)
    (ahead : x < t) (near : t - x ≤ distance) : ∃ n, next^[n + 1] x = t := by
  induction distance generalizing x with
  | zero => omega
  | succ distance ih =>
    have jump := jumps x start
    rcases Int.lt_or_eq_of_le (jump.2 ⟨point, ahead⟩) with short | arrived
    next =>
      have moved := jump.1.2
      obtain ⟨n, reached⟩ := ih (keeps x start) short (by push_cast at near; omega)
      exact ⟨n + 1, reached⟩
    next => exact ⟨0, arrived⟩

/-- Every point that lies ahead is reached, in one step only. -/
theorem visits {x t : Int} (start : P x) (point : t ∈ points) (ahead : x < t) :
    ∃ n, next^[n + 1] x = t ∧ ∀ m, next^[m + 1] x = t → m = n := by
  obtain ⟨n, reached⟩ :=
    iterate_reaches jumps keeps (t - x).toNat start point ahead (Int.self_le_toNat _)
  refine ⟨n, reached, fun m again => ?_⟩
  exact Nat.succ.inj (iterate_injective jumps keeps start (again.trans reached.symm))

end

end NextPoint
