import Mathlib.Algebra.Group.Nat.Defs
import Mathlib.Data.List.Basic
import Mathlib.Tactic.Common

set_option autoImplicit false

/-!
# Appending to a bounded buffer

The way a text is built with a cursor and `snprintf`: each append writes what has room and moves the
cursor by the whole length, so that the cursor may come to stand behind the end of the buffer. An
append that begins there is an overrun: the room that is left comes out as a huge number.
-/

namespace Appends

variable {α : Type} {capacity : Nat}

structure Buffer (α : Type) where
  written : List α
  cursor : Nat
  overrun : Bool
deriving DecidableEq

def empty : Buffer α where
  written := []
  cursor := 0
  overrun := false

def append (capacity : Nat) (b : Buffer α) (piece : List α) : Buffer α where
  -- The last place is the terminator's.
  written := b.written ++ piece.take (capacity - b.cursor - 1)
  cursor := b.cursor + piece.length
  overrun := b.overrun || decide (capacity < b.cursor)

def appendAll (capacity : Nat) (b : Buffer α) (pieces : List (List α)) : Buffer α :=
  pieces.foldl (append capacity) b

@[simp] theorem append_cursor (b : Buffer α) (piece : List α) :
    (append capacity b piece).cursor = b.cursor + piece.length := rfl

@[simp] theorem append_overrun (b : Buffer α) (piece : List α) :
    (append capacity b piece).overrun = (b.overrun || decide (capacity < b.cursor)) := rfl

@[simp] theorem appendAll_cons (b : Buffer α) (piece : List α) (rest : List (List α)) :
    appendAll capacity b (piece :: rest) = appendAll capacity (append capacity b piece) rest := rfl

theorem appendAll_append (b : Buffer α) (first second : List (List α)) :
    appendAll capacity b (first ++ second) =
      appendAll capacity (appendAll capacity b first) second :=
  List.foldl_append

theorem appendAll_cursor (b : Buffer α) (pieces : List (List α)) :
    (appendAll capacity b pieces).cursor = b.cursor + pieces.flatten.length := by
  induction pieces generalizing b with
  | nil => rfl
  | cons piece rest ih =>
    rw [appendAll_cons, ih, append_cursor, List.flatten_cons, List.length_append, Nat.add_assoc]

theorem no_overrun {b : Buffer α} (sound : b.overrun = false) {pieces : List (List α)}
    (room : b.cursor + pieces.flatten.length ≤ capacity) :
    (appendAll capacity b pieces).overrun = false := by
  induction pieces generalizing b with
  | nil => exact sound
  | cons piece rest ih =>
    rw [List.flatten_cons, List.length_append] at room
    have inside : ¬ capacity < b.cursor := by omega
    refine ih (by simp [sound, inside]) ?_
    rw [append_cursor]
    omega

/-- The append that comes last is the one that may begin behind the end. -/
theorem overrun_iff {b : Buffer α} (sound : b.overrun = false) (pieces : List (List α))
    (last : List α) :
    (appendAll capacity b (pieces ++ [last])).overrun = false ↔
      b.cursor + pieces.flatten.length ≤ capacity := by
  have after : (appendAll capacity b (pieces ++ [last])).overrun =
      ((appendAll capacity b pieces).overrun ||
        decide (capacity < b.cursor + pieces.flatten.length)) := by
    rw [appendAll_append, appendAll_cons, ← appendAll_cursor]
    rfl
  rw [after, Bool.or_eq_false_iff, decide_eq_false_iff_not, Nat.not_lt]
  exact ⟨And.right, fun room => ⟨no_overrun sound room, room⟩⟩

/-- The buffer holds as much of the text as fits before the terminator. -/
theorem appendAll_written {b : Buffer α} {before : List α}
    (holds : b.written = before.take (capacity - 1)) (long : b.cursor = before.length)
    (pieces : List (List α)) :
    (appendAll capacity b pieces).written = (before ++ pieces.flatten).take (capacity - 1) := by
  induction pieces generalizing b before with
  | nil => simpa [appendAll] using holds
  | cons piece rest ih =>
    have after : (append capacity b piece).written = (before ++ piece).take (capacity - 1) := by
      rw [append, List.take_append, holds, long, Nat.sub_right_comm]
    rw [appendAll_cons, ih after (by rw [append_cursor, long, List.length_append]),
      List.flatten_cons, List.append_assoc]

/-! ## Staying inside -/

/-- After each append at least `slack` places are left. -/
def Within (slack capacity : Nat) (b : Buffer α) (pieces : List (List α)) : Prop :=
  ∀ done, done <+: pieces → (appendAll capacity b done).cursor + slack ≤ capacity

theorem within_iff {slack : Nat} {b : Buffer α} {pieces : List (List α)} :
    Within slack capacity b pieces ↔ b.cursor + pieces.flatten.length + slack ≤ capacity := by
  constructor
  next =>
    intro within
    have last := within pieces (List.prefix_refl pieces)
    rwa [appendAll_cursor] at last
  next =>
    rintro room done ⟨rest, rfl⟩
    rw [List.flatten_append, List.length_append] at room
    rw [appendAll_cursor]
    omega

/-- With a place left for the terminator the buffer holds the whole text. -/
theorem appendAll_whole {pieces : List (List α)} (within : Within 1 capacity empty pieces) :
    (appendAll capacity empty pieces).written = pieces.flatten := by
  have room := within_iff.mp within
  have start : (empty : Buffer α).cursor = 0 := rfl
  rw [appendAll_written (b := empty) List.take_nil.symm rfl, List.nil_append,
    List.take_of_length_le (by omega)]

end Appends

/-!
## A buffer that grows

Before a record is appended, a buffer with less than a set room left is doubled. Records are followed
by a tail for which nothing is doubled.
-/

namespace GrowingBuffer

open Appends (Buffer append)

variable {α : Type}

structure Growing (α : Type) where
  capacity : Nat
  buffer : Buffer α

inductive Op (α : Type) where
  | reserve (room : Nat)
  | put (piece : List α)

def step (g : Growing α) : Op α → Growing α
  | .reserve room =>
    -- Behind the end the difference wraps to a huge number.
    if g.buffer.cursor ≤ g.capacity ∧ g.capacity - g.buffer.cursor < room then
      { g with capacity := 2 * g.capacity }
    else g
  | .put piece => { g with buffer := append g.capacity g.buffer piece }

def run (g : Growing α) (ops : List (Op α)) : Growing α :=
  ops.foldl step g

def recordOps (room : Nat) (records : List (List α)) : List (Op α) :=
  records.flatMap fun r => [.reserve room, .put r]

/-- After each step at least `slack` places are left. -/
def Within (slack : Nat) (g : Growing α) (ops : List (Op α)) : Prop :=
  ∀ done, done <+: ops → (run g done).buffer.cursor + slack ≤ (run g done).capacity

variable {slack : Nat} {g : Growing α}

theorem within_nil : Within slack g [] ↔ g.buffer.cursor + slack ≤ g.capacity := by
  simp [Within, run]

theorem within_cons {op : Op α} {ops : List (Op α)} :
    Within slack g (op :: ops) ↔
      g.buffer.cursor + slack ≤ g.capacity ∧ Within slack (step g op) ops := by
  constructor
  next =>
    intro within
    refine ⟨within [] List.nil_prefix, fun done isPrefix => ?_⟩
    exact within (op :: done) ((List.prefix_cons_inj op).mpr isPrefix)
  next =>
    rintro ⟨first, later⟩ done isPrefix
    rcases List.prefix_cons_iff.mp isPrefix with rfl | ⟨more, rfl, shorter⟩
    next => exact first
    next => exact later more shorter

theorem within_puts {pieces : List (List α)} :
    Within slack g (pieces.map .put) ↔
      g.buffer.cursor + pieces.flatten.length + slack ≤ g.capacity := by
  induction pieces generalizing g with
  | nil => simpa using within_nil
  | cons piece pieces ih =>
    have after : (step g (.put piece)).buffer.cursor = g.buffer.cursor + piece.length := rfl
    have same : (step g (.put piece)).capacity = g.capacity := rfl
    rw [List.map_cons, within_cons, ih, after, same, List.flatten_cons, List.length_append]
    omega

/-- The text that the steps put. -/
def Op.piece : Op α → List α
  | .reserve _ => []
  | .put piece => piece

theorem records_pieces (room : Nat) (records : List (List α)) :
    ((recordOps room records).map Op.piece).flatten = records.flatten := by
  induction records with
  | nil => rfl
  | cons r records ih =>
    have ops : recordOps room (r :: records) = .reserve room :: .put r :: recordOps room records := rfl
    rw [ops, List.map_cons, List.map_cons, List.flatten_cons, List.flatten_cons, ih]
    rfl

theorem puts_pieces (pieces : List (List α)) :
    ((pieces.map Op.put).map Op.piece).flatten = pieces.flatten := by
  rw [List.map_map]
  exact congrArg List.flatten (List.map_id pieces)

theorem run_whole {ops : List (Op α)} (within : Within 1 g ops) :
    (run g ops).buffer.written = g.buffer.written ++ (ops.map Op.piece).flatten := by
  induction ops generalizing g with
  | nil => simp [run]
  | cons op ops ih =>
    have later := (within_cons.mp within).2
    rw [run, List.foldl_cons]
    have rest := ih later
    rw [run] at rest
    rw [rest, List.map_cons, List.flatten_cons, ← List.append_assoc]
    congr 1
    cases op with
    | reserve room =>
      simp only [step, Op.piece, List.append_nil]
      split <;> rfl
    | put piece =>
      have room := later [] List.nil_prefix
      have ends : (run (step g (.put piece)) []).buffer.cursor = g.buffer.cursor + piece.length := rfl
      have same : (run (step g (.put piece)) []).capacity = g.capacity := rfl
      rw [ends, same] at room
      simp only [step, append, Op.piece]
      rw [List.take_of_length_le (by omega)]

/-! ### How far it grows -/

section Growth

variable {base room : Nat}

/-- The capacity is the least doubling of `base` that was called for. -/
structure Grown (base room slack : Nat) (g : Growing α) : Prop where
  inside : g.buffer.cursor + slack ≤ g.capacity
  doubled : ∃ m, g.capacity = base * 2 ^ m
  least : ∀ m, base * 2 ^ m < g.capacity → base * 2 ^ m < g.buffer.cursor + room

/-- Each capacity that leaves the room behind the start of a record holds the record, and behind the
last one the tail. -/
def Holds (base room slack start : Nat) (records tail : List (List α)) : Prop :=
  ∀ before r after, records = before ++ r :: after →
    ∀ m, start + before.flatten.length + room ≤ base * 2 ^ m →
      start + before.flatten.length + r.length + (if after = [] then tail.flatten.length else 0) +
        slack ≤ base * 2 ^ m

theorem reserve_grown (grown : Grown base room slack g) (enough : room ≤ base) :
    Grown base room slack (step g (.reserve room)) ∧
      (step g (.reserve room)).buffer = g.buffer ∧
      g.buffer.cursor + room ≤ (step g (.reserve room)).capacity := by
  obtain ⟨inside, ⟨m, doubled⟩, least⟩ := grown
  have atLeast : base ≤ g.capacity := by
    rw [doubled]
    exact Nat.le_mul_of_pos_right base (Nat.two_pow_pos m)
  rw [step]
  split
  next short =>
    refine ⟨⟨by simp only; omega, ⟨m + 1, ?_⟩, fun k below => ?_⟩, rfl, by simp only; omega⟩
    next =>
      dsimp only
      rw [doubled, Nat.pow_succ, Nat.mul_comm 2, Nat.mul_assoc]
    next =>
      have notMore : base * 2 ^ k ≤ base * 2 ^ m := by
        by_contra more
        have next : m + 1 ≤ k := by
          by_contra few
          exact more (Nat.mul_le_mul_left base (Nat.pow_le_pow_right (by decide) (by omega)))
        have reached : base * 2 ^ (m + 1) ≤ base * 2 ^ k :=
          Nat.mul_le_mul_left base (Nat.pow_le_pow_right (by decide) next)
        rw [Nat.pow_succ, ← Nat.mul_assoc] at reached
        simp only [doubled] at below
        omega
      simp only
      omega
  next long => exact ⟨⟨inside, ⟨m, doubled⟩, least⟩, rfl, by omega⟩

/-- What fits every capacity with the room fits this one. -/
theorem Grown.least_iff (grown : Grown base room slack g)
    (space : g.buffer.cursor + room ≤ g.capacity) {x : Nat} :
    (∀ m, g.buffer.cursor + room ≤ base * 2 ^ m → x ≤ base * 2 ^ m) ↔ x ≤ g.capacity := by
  constructor
  next =>
    intro all
    obtain ⟨m, doubled⟩ := grown.doubled
    rw [doubled] at space ⊢
    exact all m space
  next =>
    intro fits m enough
    by_contra long
    have less := grown.least m (by omega)
    omega

theorem holds_cons {start : Nat} {r : List α} {records tail : List (List α)} :
    Holds base room slack start (r :: records) tail ↔
      (∀ m, start + room ≤ base * 2 ^ m →
        start + r.length + (if records = [] then tail.flatten.length else 0) + slack ≤ base * 2 ^ m) ∧
      Holds base room slack (start + r.length) records tail := by
  constructor
  next =>
    intro holds
    refine ⟨fun m => by simpa using holds [] r records rfl m, fun before u after split m enough => ?_⟩
    have later := holds (r :: before) u after (by rw [split, List.cons_append]) m
    rw [List.flatten_cons, List.length_append, ← Nat.add_assoc] at later
    exact later enough
  next =>
    rintro ⟨first, later⟩ before u after split m enough
    cases before with
    | nil =>
      obtain ⟨rfl, rfl⟩ := List.cons.inj split
      simpa using first m (by simpa using enough)
    | cons v before =>
      obtain ⟨rfl, rest⟩ := List.cons.inj split
      rw [List.flatten_cons, List.length_append, ← Nat.add_assoc] at enough ⊢
      exact later before u after rest m enough

theorem within_iff {records tail : List (List α)} (grown : Grown base room slack g)
    (enough : room ≤ base) :
    Within slack g (recordOps room records ++ tail.map .put) ↔
      (records = [] → g.buffer.cursor + tail.flatten.length + slack ≤ g.capacity) ∧
        Holds base room slack g.buffer.cursor records tail := by
  induction records generalizing g with
  | nil =>
    have none : Holds base room slack g.buffer.cursor [] tail := by
      intro before r after split
      simp at split
    simpa [recordOps, none] using within_puts
  | cons r records ih =>
    obtain ⟨reserved, same, space⟩ := reserve_grown grown enough
    have atStart : (step (step g (.reserve room)) (.put r)).buffer.cursor =
        g.buffer.cursor + r.length := by
      rw [← same]
      rfl
    have capacity : (step (step g (.reserve room)) (.put r)).capacity =
        (step g (.reserve room)).capacity := rfl
    have ops : recordOps room (r :: records) ++ tail.map .put =
        .reserve room :: .put r :: (recordOps room records ++ tail.map .put) := rfl
    have first := reserved.least_iff (by rwa [same])
      (x := g.buffer.cursor + r.length + (if records = [] then tail.flatten.length else 0) + slack)
    rw [same] at first
    rw [ops, within_cons, within_cons, same, holds_cons, first]
    have begun : g.buffer.cursor + slack ≤ (step g (.reserve room)).capacity := by
      have inside := reserved.inside
      rwa [same] at inside
    by_cases fits : g.buffer.cursor + r.length + slack ≤ (step g (.reserve room)).capacity
    next =>
      have grownOn : Grown base room slack (step (step g (.reserve room)) (.put r)) := by
        refine ⟨by rwa [atStart, capacity], reserved.doubled, fun m below => ?_⟩
        have less := reserved.least m below
        rw [same] at less
        rw [atStart]
        omega
      rw [ih grownOn, atStart, capacity]
      by_cases last : records = []
      next =>
        simp only [last, if_true, true_implies]
        constructor
        next =>
          rintro ⟨-, -, tailFits, later⟩
          exact ⟨by simp, tailFits, later⟩
        next =>
          rintro ⟨-, tailFits, later⟩
          exact ⟨grown.inside, begun, tailFits, later⟩
      next =>
        simp only [last, if_false, false_implies, true_and, Nat.add_zero]
        constructor
        next =>
          rintro ⟨-, -, later⟩
          exact ⟨by simp, fits, later⟩
        next =>
          rintro ⟨-, -, later⟩
          exact ⟨grown.inside, begun, later⟩
    next =>
      constructor
      next =>
        rintro ⟨-, -, within⟩
        have here := within [] List.nil_prefix
        rw [run, List.foldl_nil, atStart, capacity] at here
        exact absurd here fits
      next =>
        rintro ⟨-, short, -⟩
        exact absurd (by omega) fits

end Growth

end GrowingBuffer
