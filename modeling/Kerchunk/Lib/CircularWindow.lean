import Mathlib.Data.List.Basic
import Mathlib.Data.List.Range
import Mathlib.Logic.Function.Basic
import Mathlib.Tactic.Common

set_option autoImplicit false

/-!
# Windows of a circular array

`window size buf start count` is what a reader finds in `count` consecutive
cells of an array of `size` cells, from `start` on and wrapping at the end.
-/

namespace CircularWindow

variable {A : Type}

def window (size : Nat) (buf : Nat → A) (start count : Nat) : List A :=
  (List.range count).map fun i => buf ((start + i) % size)

@[simp] theorem window_length (size : Nat) (buf : Nat → A) (start count : Nat) :
    (window size buf start count).length = count := by
  simp [window]

@[simp] theorem window_zero (size : Nat) (buf : Nat → A) (start : Nat) :
    window size buf start 0 = [] := rfl

theorem window_succ (size : Nat) (buf : Nat → A) (start count : Nat) :
    window size buf start (count + 1) =
      window size buf start count ++ [buf ((start + count) % size)] := by
  simp [window, List.range_succ]

theorem window_take (size : Nat) (buf : Nat → A) (start count taken : Nat)
    (bound : taken ≤ count) :
    (window size buf start count).take taken = window size buf start taken := by
  simp only [window, ← List.map_take, List.take_range, Nat.min_eq_left bound]

theorem window_add (size : Nat) (buf : Nat → A) (start first second : Nat) :
    window size buf start (first + second) =
      window size buf start first ++ window size buf (start + first) second := by
  induction second with
  | zero => simp
  | succ second ih =>
      rw [← Nat.add_assoc, window_succ, ih, window_succ, List.append_assoc]
      simp only [Nat.add_assoc]

theorem cell_ne {size start i j : Nat} (order : i < j) (near : j < size) :
    (start + i) % size ≠ (start + j) % size := by
  -- Fewer than `size` consecutive positions never meet in one cell.
  intro same
  have difference : (start + j) - (start + i) = j - i := by omega
  have divides : size ∣ j - i :=
    Nat.dvd_of_mod_eq_zero (difference ▸ Nat.sub_mod_eq_zero_of_mod_eq same.symm)
  have := Nat.le_of_dvd (by omega) divides
  omega

theorem window_update_beyond (size : Nat) (buf : Nat → A) (start : Nat) {count place : Nat}
    (value : A) (beyond : count ≤ place) (room : place < size) :
    window size (Function.update buf ((start + place) % size) value) start count =
      window size buf start count := by
  -- A store behind the window leaves it alone while the array has room for both.
  apply List.map_congr_left
  intro i member
  have inside := List.mem_range.mp member
  exact Function.update_of_ne (cell_ne (Nat.lt_of_lt_of_le inside beyond) room) _ _

theorem window_update_after (size : Nat) (buf : Nat → A) (start count : Nat) (value : A)
    (room : count < size) :
    window size (Function.update buf ((start + count) % size) value) start count =
      window size buf start count :=
  window_update_beyond size buf start value (Nat.le_refl _) room

theorem window_update_extend (size : Nat) (buf : Nat → A) (start count : Nat) (value : A)
    (room : count < size) :
    window size (Function.update buf ((start + count) % size) value) start (count + 1) =
      window size buf start count ++ [value] := by
  -- A store behind the window's last cell extends the window by that value.
  rw [window_succ, window_update_after size buf start count value room]
  simp

end CircularWindow

/-!
## A ring with a count

Values are stored at `head` and taken at `tail`; a full ring refuses a value.
-/

structure CountedRing (A : Type) where
  cells : Nat → A
  head : Nat
  tail : Nat
  count : Nat

namespace CountedRing

open CircularWindow

variable {A : Type}

def empty [Inhabited A] : CountedRing A where
  cells := fun _ => default
  head := 0
  tail := 0
  count := 0

variable (size : Nat)

def push (r : CountedRing A) (value : A) : Option (CountedRing A) :=
  if r.count ≥ size then none
  else
    some
      { r with
        cells := Function.update r.cells r.head value
        head := (r.head + 1) % size
        count := r.count + 1 }

def pop (r : CountedRing A) : Option (A × CountedRing A) :=
  if r.count = 0 then none
  else some (r.cells r.tail, { r with tail := (r.tail + 1) % size, count := r.count - 1 })

def contents (r : CountedRing A) : List A :=
  window size r.cells r.tail r.count

structure Valid (r : CountedRing A) : Prop where
  tail : r.tail < size
  head : r.head = (r.tail + r.count) % size
  within : r.count ≤ size

variable {size} {r after : CountedRing A} {value : A}

theorem empty_valid [Inhabited A] (positive : 0 < size) : Valid size (empty : CountedRing A) :=
  ⟨positive, (Nat.zero_mod size).symm, Nat.zero_le size⟩

theorem push_valid (valid : Valid size r) (pushed : r.push size value = some after) :
    Valid size after ∧ after.contents size = r.contents size ++ [value] := by
  unfold push at pushed
  split at pushed
  next => cases pushed
  next room =>
    cases pushed
    have free : r.count < size := by omega
    constructor
    next => exact ⟨valid.tail, by simp [valid.head, Nat.add_assoc], Nat.succ_le_of_lt free⟩
    next =>
      simp only [contents, valid.head]
      exact window_update_extend size r.cells r.tail r.count value free

theorem pop_valid (valid : Valid size r) (popped : r.pop size = some (value, after)) :
    Valid size after ∧ r.contents size = value :: after.contents size := by
  unfold pop at popped
  split at popped
  next => cases popped
  next some =>
    cases popped
    have count : r.count = 1 + (r.count - 1) := by omega
    have positive : 0 < size := Nat.lt_of_le_of_lt (Nat.zero_le _) valid.tail
    constructor
    next =>
      refine ⟨Nat.mod_lt _ positive, ?_, ?_⟩
      next =>
        simp only [Nat.mod_add_mod, valid.head]
        congr 1
        omega
      next =>
        have := valid.within
        dsimp only
        omega
    next =>
      have first : window size r.cells r.tail 1 = [r.cells r.tail] := by
        simp [window, Nat.mod_eq_of_lt valid.tail]
      have rest : window size r.cells (r.tail + 1) (r.count - 1) =
          window size r.cells ((r.tail + 1) % size) (r.count - 1) := by
        simp [window]
      unfold contents
      rw [count, window_add, first, rest]
      simp

end CountedRing

/-!
## A ring that loses its oldest value

One cell always stays free, so that equal indices mean an empty ring: a ring of `size` cells keeps
the newest `size - 1` of the values stored in it.
-/

structure LossyRing (A : Type) where
  cells : Nat → A
  head : Nat
  tail : Nat

namespace LossyRing

open CircularWindow

variable {A : Type}

def newest (count : Nat) (values : List A) : List A :=
  values.drop (values.length - count)

theorem newest_all {count : Nat} {values : List A} (few : values.length ≤ count) :
    newest count values = values := by
  simp [newest, Nat.sub_eq_zero_of_le few]

theorem newest_newest (count : Nat) (values more : List A) :
    newest count (newest count values ++ more) = newest count (values ++ more) := by
  by_cases few : values.length ≤ count
  next => rw [newest_all few]
  next =>
    have split : values ++ more =
        values.take (values.length - count) ++ (newest count values ++ more) := by
      rw [newest, ← List.append_assoc, List.take_append_drop]
    have kept : (newest count values).length = count := by
      simp only [newest, List.length_drop]
      omega
    have whole : (values ++ more).length - count =
        (values.length - count) + ((newest count values ++ more).length - count) := by
      simp only [List.length_append, kept]
      omega
    have cut : (values.take (values.length - count)).length = values.length - count := by
      simp
    have later : newest count (values ++ more) =
        (newest count values ++ more).drop ((newest count values ++ more).length - count) := by
      rw [newest, whole, split, ← List.drop_drop, List.drop_left' cut]
    rw [later, newest]

theorem mem_of_mem_newest {count : Nat} {values : List A} {a : A} (member : a ∈ newest count values) :
    a ∈ values :=
  List.mem_of_mem_drop member

variable (size : Nat)

structure Valid (r : LossyRing A) : Prop where
  head : r.head < size
  tail : r.tail < size

def count (r : LossyRing A) : Nat :=
  (r.tail + size - r.head) % size

def contents (r : LossyRing A) : List A :=
  -- What a reader takes from the ring, the oldest first.
  window size r.cells r.head (count size r)

def push (r : LossyRing A) (a : A) : LossyRing A :=
  let next := (r.tail + 1) % size
  { cells := Function.update r.cells r.tail a
    head := if next = r.head then (r.head + 1) % size else r.head
    tail := next }

def drain : Nat → LossyRing A → List A × LossyRing A
  -- The values that a reader takes until head meets tail.
  | 0, r => ([], r)
  | fuel + 1, r =>
    if r.head = r.tail then ([], r)
    else
      let rest := drain fuel { r with head := (r.head + 1) % size }
      (r.cells r.head :: rest.1, rest.2)

variable {size}

theorem window_start (buf : Nat → A) (start length : Nat) :
    window size buf (start % size) length = window size buf start length := by
  simp [window]

theorem window_first (buf : Nat → A) {start : Nat} (inside : start < size) (length : Nat) :
    window size buf start (length + 1) = buf start :: window size buf (start + 1) length := by
  rw [Nat.add_comm, window_add, window_succ, window_zero, Nat.add_zero, Nat.mod_eq_of_lt inside]
  rfl

theorem Valid.tail_eq {r : LossyRing A} (valid : Valid size r) :
    r.tail = (r.head + count size r) % size := by
  obtain ⟨head, tail⟩ := valid
  rw [count, Nat.add_mod_mod, show r.head + (r.tail + size - r.head) = r.tail + size by omega,
    Nat.add_mod_right, Nat.mod_eq_of_lt tail]

theorem Valid.count_lt {r : LossyRing A} (valid : Valid size r) : count size r < size :=
  Nat.mod_lt _ (Nat.zero_lt_of_lt valid.head)

theorem count_unique {r : LossyRing A} (valid : Valid size r) {n : Nat} (small : n < size)
    (placed : r.tail = (r.head + n) % size) : count size r = n := by
  have both : (r.head + count size r) % size = (r.head + n) % size := valid.tail_eq ▸ placed
  rcases Nat.lt_trichotomy (count size r) n with less | same | more
  · exact absurd both (cell_ne less small)
  · exact same
  · exact absurd both.symm (cell_ne more valid.count_lt)

theorem head_met {r : LossyRing A} (met : r.head = r.tail) : { r with head := r.tail } = r := by
  cases r
  cases met
  rfl

theorem Valid.push {r : LossyRing A} (valid : Valid size r) (a : A) : Valid size (push size r a) := by
  have positive := Nat.zero_lt_of_lt valid.head
  constructor
  · simp only [LossyRing.push]
    split
    next => exact Nat.mod_lt _ positive
    next => exact valid.head
  · exact Nat.mod_lt _ positive

theorem contents_push {r : LossyRing A} (valid : Valid size r) (room : 1 < size) (a : A) :
    contents size (push size r a) = newest (size - 1) (contents size r ++ [a]) := by
  have stored := valid.tail_eq
  have below := valid.count_lt
  have after := valid.push a
  by_cases full : (r.tail + 1) % size = r.head
  next =>
    -- The free cell is the one before the head: all the others are in use.
    have used : count size r = size - 1 := by
      by_contra less
      have step : (r.tail + 1) % size = (r.head + (count size r + 1)) % size := by
        rw [stored, Nat.mod_add_mod, Nat.add_assoc]
      have here : r.head = (r.head + 0) % size := by
        rw [Nat.add_zero, Nat.mod_eq_of_lt valid.head]
      rw [step, here] at full
      simp only [Nat.add_zero, Nat.mod_eq_of_lt valid.head] at full
      have apart : (r.head + 0) % size ≠ (r.head + (count size r + 1)) % size :=
        cell_ne (Nat.succ_pos _) (by omega)
      rw [Nat.add_zero, Nat.mod_eq_of_lt valid.head] at apart
      exact apart full.symm
    have again : count size (push size r a) = size - 1 := by
      apply count_unique after (by omega)
      simp only [push, full, if_true, Nat.mod_add_mod]
      rw [show r.head + 1 + (size - 1) = r.head + size by omega, Nat.add_mod_right,
        Nat.mod_eq_of_lt valid.head]
    have length : size - 1 = (size - 2) + 1 := by omega
    have cell : r.tail = (r.head + 1 + (size - 2)) % size := by
      rw [stored, used, length, Nat.add_right_comm, Nat.add_assoc]
    rw [contents, again, contents, used]
    simp only [push, full, if_true]
    rw [window_start, cell, length, window_update_extend size r.cells (r.head + 1) (size - 2) a
      (by omega), window_first _ valid.head]
    simp [newest]
  next =>
    have more : count size r + 1 < size := by
      by_contra less
      have last : count size r + 1 = size := by omega
      apply full
      rw [stored, Nat.mod_add_mod, Nat.add_assoc, last, Nat.add_mod_right,
        Nat.mod_eq_of_lt valid.head]
    have longer : count size (push size r a) = count size r + 1 := by
      apply count_unique after more
      simp only [push, full, if_false]
      rw [stored, Nat.mod_add_mod, Nat.add_assoc]
    have few : (contents size r ++ [a]).length ≤ size - 1 := by
      simp only [contents, List.length_append, window_length, List.length_singleton]
      omega
    rw [newest_all few, contents, longer, contents]
    simp only [push, full, if_false]
    conv_lhs => rw [stored]
    exact window_update_extend size r.cells r.head (count size r) a (by omega)

theorem drain_contents {r : LossyRing A} (valid : Valid size r) {fuel : Nat}
    (enough : count size r ≤ fuel) :
    drain size fuel r = (contents size r, { r with head := r.tail }) := by
  induction fuel generalizing r with
  | zero =>
      have none : count size r = 0 := Nat.le_zero.mp enough
      have stored := valid.tail_eq
      rw [none, Nat.add_zero, Nat.mod_eq_of_lt valid.head] at stored
      rw [drain, contents, none, window_zero, head_met stored.symm]
  | succ fuel ih =>
      have stored := valid.tail_eq
      by_cases met : r.head = r.tail
      next =>
        have none : count size r = 0 :=
          count_unique valid (Nat.zero_lt_of_lt valid.head)
            (by rw [Nat.add_zero, Nat.mod_eq_of_lt valid.head, met])
        rw [drain, if_pos met, contents, none, window_zero, head_met met]
      next =>
        have some : count size r ≠ 0 := fun none => met (by
          rw [none, Nat.add_zero, Nat.mod_eq_of_lt valid.head] at stored
          exact stored.symm)
        obtain ⟨rest, more⟩ := Nat.exists_eq_succ_of_ne_zero some
        have below := valid.count_lt
        have next : Valid size { r with head := (r.head + 1) % size } :=
          ⟨Nat.mod_lt _ (Nat.zero_lt_of_lt valid.head), valid.tail⟩
        have fewer : count size { r with head := (r.head + 1) % size } = rest := by
          apply count_unique next (by omega)
          simp only [Nat.mod_add_mod]
          rw [stored, more, Nat.succ_eq_add_one, Nat.add_assoc, Nat.add_comm 1]
        rw [drain, if_neg met, ih next (by omega)]
        simp only [contents, fewer, more, Nat.succ_eq_add_one]
        rw [window_first _ valid.head, window_start]

theorem contents_met (size : Nat) (cells : Nat → A) (index : Nat) :
    contents size ⟨cells, index, index⟩ = [] := by
  simp [contents, count]

end LossyRing
