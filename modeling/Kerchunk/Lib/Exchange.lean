import Mathlib.Data.List.TakeWhile
import Mathlib.Tactic.Common

set_option autoImplicit false

/-!
# Questions and answers in a log that forgets

A message may ask for answers, each under a key of its own; the answers stand behind it. The log
drops its oldest message for a new one once it is full.
-/

namespace Exchange

/-! ## A full log -/

section Log

variable {M : Type} (limit : Nat)

def push (log : List M) (m : M) : List M :=
  (if limit ≤ log.length then log.tail else log) ++ [m]

def pushes (log added : List M) : List M :=
  added.foldl (push limit) log

variable {limit}

theorem push_eq {log : List M} (bounded : log.length ≤ limit) (positive : 0 < limit) (m : M) :
    push limit log m = (log ++ [m]).drop (log.length + 1 - limit) := by
  unfold push
  split
  next full =>
    have one : log.length + 1 - limit = 1 := by omega
    cases log with
    | nil => simp at full; omega
    | cons head tail => simp only [one, List.tail_cons, List.cons_append, List.drop_succ_cons, List.drop_zero]
  next room =>
    have none : log.length + 1 - limit = 0 := by omega
    simp [none]

theorem length_push {log : List M} (bounded : log.length ≤ limit) (positive : 0 < limit) (m : M) :
    (push limit log m).length ≤ limit := by
  rw [push_eq bounded positive]
  simp
  omega

theorem pushes_eq {log : List M} (bounded : log.length ≤ limit) (positive : 0 < limit)
    (added : List M) :
    pushes limit log added = (log ++ added).drop (log.length + added.length - limit) := by
  -- Dropping one at a time drops the oldest of all.
  induction added generalizing log with
  | nil =>
    have none : log.length - limit = 0 := by omega
    simp [pushes, none]
  | cons m rest ih =>
    have step : pushes limit log (m :: rest) = pushes limit (push limit log m) rest := rfl
    have within := length_push bounded positive m
    rw [step, ih within, push_eq bounded positive, ← List.drop_append_of_le_length (by simp),
      List.drop_drop, List.append_assoc, List.singleton_append]
    congr 1
    simp
    omega

theorem length_pushes {log : List M} (bounded : log.length ≤ limit) (positive : 0 < limit)
    (added : List M) : (pushes limit log added).length ≤ limit := by
  rw [pushes_eq bounded positive]
  simp
  omega

theorem pushes_suffix {log whole : List M} (within : log <:+ whole) (added : List M) :
    pushes limit log added <:+ whole ++ added := by
  induction added generalizing log whole with
  | nil => simpa [pushes] using within
  | cons m rest ih =>
    have first : push limit log m <:+ whole ++ [m] := by
      have kept : (if limit ≤ log.length then log.tail else log) <:+ whole := by
        split
        next => exact (List.tail_suffix log).trans within
        next => exact within
      obtain ⟨front, split_⟩ := kept
      exact ⟨front, by rw [push, ← List.append_assoc, split_]⟩
    simpa [pushes] using ih first

theorem pushes_ne_nil {log added : List M} (some : added ≠ []) : pushes limit log added ≠ [] := by
  induction added generalizing log with
  | nil => exact absurd rfl some
  | cons m rest ih =>
    cases rest with
    | nil => simp [pushes, push]
    | cons next more => exact ih (List.cons_ne_nil next more)

end Log

/-! ## Groups -/

variable {M I : Type} (answer : M → Bool) (calls : M → List (Option I)) (key : M → Option I)

/-- Each answer stands behind a message that asks for it, and what a message asks for is answered
before the next message that is no answer. -/
structure WellFormed (log : List M) : Prop where
  preceded : ∀ before m after, log = before ++ m :: after → answer m = true →
    ∃ id, key m = some id ∧ ∃ a ∈ before, some id ∈ calls a
  answered : ∀ before m after, log = before ++ m :: after → ∀ call ∈ calls m,
    ∃ id, call = some id ∧ ∃ t ∈ after.takeWhile answer, key t = some id

/-- The answers to a message. -/
structure Answers (m : M) (answers : List M) : Prop where
  asks : answer m = false
  fits : ∀ t ∈ answers, answer t = true ∧ calls t = [] ∧ ∃ id, key t = some id ∧ some id ∈ calls m
  complete : ∀ call ∈ calls m, ∃ id, call = some id ∧ ∃ t ∈ answers, key t = some id

inductive Grouped : List M → Prop
  | nil : Grouped []
  | group {m : M} {answers rest : List M} (group : Answers answer calls key m answers)
      (later : Grouped rest) : Grouped (m :: (answers ++ rest))

variable {answer calls key}

theorem answers_plain {m : M} (asks : answer m = false) (silent : calls m = []) :
    Answers answer calls key m [] where
  asks := asks
  fits := by simp
  complete := by simp [silent]

theorem Grouped.append {first second : List M} (grouped : Grouped answer calls key first)
    (later : Grouped answer calls key second) : Grouped answer calls key (first ++ second) := by
  induction grouped with
  | nil => exact later
  | group group _ ih =>
    rw [List.cons_append, List.append_assoc]
    exact .group group ih

theorem Grouped.single {m : M} {answers : List M} (group : Answers answer calls key m answers) :
    Grouped answer calls key (m :: answers) := by
  simpa using Grouped.group group .nil

theorem Grouped.drop {log : List M} (grouped : Grouped answer calls key log) (n : Nat)
    (boundary : ∀ m ∈ (log.drop n).head?, answer m = false) :
    Grouped answer calls key (log.drop n) := by
  -- What is dropped ends where a group ends.
  induction grouped generalizing n with
  | nil => simpa using Grouped.nil
  | @group m answers rest group later ih =>
    cases n with
    | zero => exact .group group later
    | succ n =>
      rw [List.drop_succ_cons, List.drop_append] at boundary ⊢
      by_cases inside : n < answers.length
      next =>
        have first : ∃ t tail, answers.drop n = t :: tail ∧ t ∈ answers :=
          ⟨answers[n], answers.drop (n + 1), List.drop_eq_getElem_cons inside,
            List.getElem_mem inside⟩
        obtain ⟨t, tail, split, member⟩ := first
        have asks := boundary t (by simp [split])
        rw [(group.fits t member).1] at asks
        cases asks
      next =>
        have gone : answers.drop n = [] := List.drop_eq_nil_of_le (by omega)
        rw [gone, List.nil_append] at boundary ⊢
        exact ih (n - answers.length) boundary

theorem Grouped.wellFormed {log : List M} (grouped : Grouped answer calls key log) :
    WellFormed answer calls key log := by
  induction grouped with
  | nil => constructor <;> simp
  | @group asker answers rest group later ih =>
    constructor
    next =>
      intro before m after split answers?
      cases before with
      | nil =>
        have same : asker = m := (List.cons.inj split).1
        rw [← same, group.asks] at answers?
        cases answers?
      | cons head before =>
        obtain ⟨rfl, behind⟩ := List.cons.inj split
        rcases List.append_eq_append_iff.mp behind with ⟨between, rfl, later⟩ | ⟨between, inside, _⟩
        next =>
          obtain ⟨id, found, a, member, asks⟩ := ih.preceded between m after later answers?
          exact ⟨id, found, a, by simp [member], asks⟩
        next =>
          cases between with
          | nil =>
            obtain ⟨id, found, a, member, _⟩ :=
              ih.preceded [] m after (by simp_all) answers?
            cases member
          | cons t between =>
            have member : m ∈ answers := by simp_all
            obtain ⟨-, -, id, found, asked⟩ := group.fits m member
            exact ⟨id, found, asker, by simp, asked⟩
    next =>
      intro before m after split call asked
      cases before with
      | nil =>
        obtain ⟨rfl, rfl⟩ := List.cons.inj split
        obtain ⟨id, same, t, member, found⟩ := group.complete call asked
        refine ⟨id, same, t, ?_, found⟩
        rw [List.takeWhile_append_of_pos fun t member => (group.fits t member).1]
        exact List.mem_append_left _ member
      | cons head before =>
        obtain ⟨rfl, behind⟩ := List.cons.inj split
        rcases List.append_eq_append_iff.mp behind with ⟨between, rfl, later⟩ | ⟨between, inside, _⟩
        next => exact ih.answered between m after later call asked
        next =>
          cases between with
          | nil => exact ih.answered [] m after (by simp_all) call asked
          | cons t between =>
            have member : m ∈ answers := by simp_all
            rw [(group.fits m member).2.1] at asked
            cases asked

end Exchange
