import Kerchunk.Lib.Machine
import Mathlib.Data.List.Basic
import Mathlib.Tactic.Common

set_option autoImplicit false

/-!
# A bounded first-in first-out buffer

`delivered` records what has been taken out of it, in order.
-/

structure BoundedFifo (A : Type) (capacity : Nat) where
  items : List A
  delivered : List A
  bounded : items.length ≤ capacity

namespace BoundedFifo

inductive Op (A : Type) where
  | put (xs : List A)
  | take (n : Nat)

variable {A : Type} {capacity : Nat}

def empty : BoundedFifo A capacity :=
  ⟨[], [], Nat.zero_le _⟩

def free (q : BoundedFifo A capacity) : Nat :=
  capacity - q.items.length

def apply (q : BoundedFifo A capacity) : Op A → BoundedFifo A capacity
  | .put xs =>
    if fits : q.items.length + xs.length ≤ capacity then
      ⟨q.items ++ xs, q.delivered, by rwa [List.length_append]⟩
    else q
  | .take n =>
    ⟨q.items.drop n, q.delivered ++ q.items.take n, by
      have := q.bounded
      rw [List.length_drop]
      omega⟩

def Within (q : BoundedFifo A capacity) : Op A → Prop
  -- The buffer has room for all that is put in, and all that is taken out.
  | .put xs => xs.length ≤ q.free
  | .take n => n ≤ q.items.length

theorem apply_put (q : BoundedFifo A capacity) {xs : List A} (within : q.Within (.put xs)) :
    (q.apply (.put xs)).items = q.items ++ xs ∧ (q.apply (.put xs)).delivered = q.delivered := by
  have fits : q.items.length + xs.length ≤ capacity := by
    have := q.bounded
    simp only [Within, free] at within
    omega
  rw [apply, dif_pos fits]
  exact ⟨rfl, rfl⟩

end BoundedFifo

/-!
## A shared variable with one writer

What one reader can see of it: the value that it has loaded last and those stored since. A load may
give any of them, but never again an older one.
-/

structure Published (A : Type) where
  seen : A
  since : List A

namespace Published

variable {A : Type}

def visible (x : Published A) : List A :=
  x.seen :: x.since

def store (x : Published A) (a : A) : Published A :=
  { x with since := x.since ++ [a] }

def load : Nat → Published A → Published A
  -- The value that many stores after the last one seen, or the latest.
  | later + 1, ⟨_, a :: rest⟩ => load later ⟨a, rest⟩
  | _, x => x

@[simp] theorem store_visible (x : Published A) (a : A) : (x.store a).visible = x.visible ++ [a] :=
  rfl

theorem seen_mem (x : Published A) : x.seen ∈ x.visible :=
  List.mem_cons_self ..

theorem load_visible (later : Nat) (x : Published A) : (x.load later).visible <:+ x.visible := by
  induction later generalizing x with
  | zero => exact List.suffix_rfl
  | succ later ih =>
    match x with
    | ⟨_, []⟩ => exact List.suffix_rfl
    | ⟨seen, a :: rest⟩ => exact (ih ⟨a, rest⟩).trans (List.suffix_cons seen (a :: rest))

theorem forall_load {P : A → Prop} {x : Published A} (all : ∀ a ∈ x.visible, P a) (later : Nat) :
    ∀ a ∈ (x.load later).visible, P a :=
  fun a member => all a ((load_visible later x).mem member)

theorem forall_store {P : A → Prop} {x : Published A} {a : A} (all : ∀ b ∈ x.visible, P b)
    (new : P a) : ∀ b ∈ (x.store a).visible, P b := by
  intro b member
  rw [store_visible, List.mem_append, List.mem_singleton] at member
  rcases member with old | rfl
  next => exact all b old
  next => exact new

def Ordered (rank : A → Nat) (x : Published A) : Prop :=
  x.visible.Pairwise fun a b => rank a ≤ rank b

variable {rank : A → Nat} {x : Published A}

theorem Ordered.load (ordered : Ordered rank x) (later : Nat) : Ordered rank (x.load later) :=
  List.Pairwise.sublist (load_visible later x).sublist ordered

theorem Ordered.store (ordered : Ordered rank x) {a : A} (last : ∀ b ∈ x.visible, rank b ≤ rank a) :
    Ordered rank (x.store a) := by
  rw [Ordered, store_visible, List.pairwise_append]
  exact ⟨ordered, List.pairwise_singleton _ a, fun b member c same => by
    rw [List.mem_singleton.mp same]
    exact last b member⟩

theorem Ordered.seen_le (ordered : Ordered rank x) : ∀ a ∈ x.visible, rank x.seen ≤ rank a := by
  intro a member
  rcases List.mem_cons.mp member with rfl | since
  next => exact Nat.le_refl _
  next => exact List.rel_of_pairwise_cons ordered since

/-! ### An index that counts round a ring -/

/-- What can be seen are counts from `low` to `high`, in order, modulo the size of the ring. -/
def Counts (size low high : Nat) (x : Published Nat) : Prop :=
  ∃ counts : List Nat, x.visible = counts.map (· % size) ∧ counts.Pairwise (· ≤ ·) ∧
    ∀ k ∈ counts, low ≤ k ∧ k ≤ high

variable {size low high : Nat} {x : Published Nat}

theorem Counts.load (counts : Counts size low high x) (later : Nat) :
    Counts size low high (x.load later) := by
  obtain ⟨all, same, ordered, bounded⟩ := counts
  obtain ⟨before, split⟩ := load_visible later x
  obtain ⟨first, rest, rfl, -, same'⟩ := List.map_eq_append_iff.mp (same.symm.trans split.symm)
  exact ⟨rest, same'.symm, (List.pairwise_append.mp ordered).2.1,
    fun k member => bounded k (List.mem_append_right _ member)⟩

theorem Counts.store (counts : Counts size low high x) {count : Nat} (later : high ≤ count)
    (order : low ≤ high) : Counts size low count (x.store (count % size)) := by
  obtain ⟨all, same, ordered, bounded⟩ := counts
  refine ⟨all ++ [count], by simp [same], ?_, fun k member => ?_⟩
  next =>
    refine List.pairwise_append.mpr ⟨ordered, List.pairwise_singleton _ _, fun k member l last => ?_⟩
    rw [List.mem_singleton.mp last]
    exact Nat.le_trans (bounded k member).2 later
  next =>
    rcases List.mem_append.mp member with old | new
    next => exact ⟨(bounded k old).1, Nat.le_trans (bounded k old).2 later⟩
    next =>
      rw [List.mem_singleton.mp new]
      exact ⟨Nat.le_trans order later, Nat.le_refl _⟩

/-- The value seen last is a count that no later load goes behind. -/
theorem Counts.seen (counts : Counts size low high x) :
    ∃ k, low ≤ k ∧ k ≤ high ∧ x.seen = k % size ∧ Counts size k high x := by
  obtain ⟨all, same, ordered, bounded⟩ := counts
  match all, same, ordered, bounded with
  | k :: rest, same, ordered, bounded =>
    have seen : x.seen = k % size := (List.cons.inj same).1
    obtain ⟨above, below⟩ := bounded k (List.mem_cons_self ..)
    refine ⟨k, above, below, seen, k :: rest, same, ordered, fun l member => ?_⟩
    refine ⟨?_, (bounded l member).2⟩
    rcases List.mem_cons.mp member with rfl | later
    next => exact Nat.le_refl _
    next => exact List.rel_of_pairwise_cons ordered later

theorem Counts.lower (counts : Counts size low high x) {low' : Nat} (below : low' ≤ low) :
    Counts size low' high x := by
  obtain ⟨all, same, ordered, bounded⟩ := counts
  exact ⟨all, same, ordered, fun k member => ⟨Nat.le_trans below (bounded k member).1, (bounded k member).2⟩⟩

theorem Counts.single (count : Nat) : Counts size count count ⟨count % size, []⟩ :=
  ⟨[count], rfl, List.pairwise_singleton _ _, by simp⟩

end Published
