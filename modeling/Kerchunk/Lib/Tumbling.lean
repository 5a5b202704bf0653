import Kerchunk.Lib.Machine
import Mathlib.Data.List.Basic
import Mathlib.Algebra.Order.Ring.Int

set_option autoImplicit false

/-!
# Counting events in windows that follow each other

A counter that starts a new window with the first event after the last one has run out, against the
windows that slide: any span of the length. The clock never goes back, so an event is given by the
time since the one before it.
-/

namespace Tumbling

/-- The window in force, and every event so far with the oldest first. `began` events came before the
window. -/
structure Log where
  start : Int
  began : Nat
  times : List Int

def init : Log :=
  ⟨0, 0, []⟩

variable (length : Int) (threshold : Nat)

namespace Log

def now (w : Log) (gap : Nat) : Int :=
  w.times.getLastD 0 + gap

def opened (w : Log) (now : Int) : Log :=
  if length < now - w.start then { w with start := now, began := w.times.length } else w

def count (w : Log) : Nat :=
  w.times.length - w.began

def trips (w : Log) (now : Int) : Bool :=
  decide (threshold < (w.opened length now).count + 1)

def note (restarts : Bool) (w : Log) (now : Int) : Log :=
  if restarts && w.trips length threshold now then
    ⟨now, w.times.length + 1, w.times ++ [now]⟩
  else { w.opened length now with times := w.times ++ [now] }

end Log

/-! ## Windows that slide -/

def held (a : Int) (times : List Int) : Nat :=
  times.countP fun t => decide (a ≤ t ∧ t ≤ a + length)

/-- The event that takes some window past the threshold. -/
def Exceeds (times : List Int) (now : Int) : Prop :=
  ∃ a, a ≤ now ∧ now ≤ a + length ∧ held length a times = threshold

/-- What a verdict on an event has to be. -/
structure Slides (times : List Int) (now : Int) (verdict : Bool) : Prop where
  exceeds : Exceeds length threshold times now → verdict = true
  within : verdict = true → ∃ a, a ≤ now ∧ now ≤ a + length ∧
    threshold < held length a (times ++ [now])

/-- No window has begun since the event that is `threshold` events before this one. -/
def Unbroken (w : Log) (now : Int) : Prop :=
  Exceeds length threshold w.times now → (w.opened length now).began + threshold ≤ w.times.length

/-! ## The invariant -/

structure Sound (w : Log) : Prop where
  began : w.began ≤ w.times.length
  past : w.start ≤ w.times.getLastD 0
  inside : ∀ t ∈ w.times.drop w.began, w.start ≤ t ∧ t ≤ w.start + length

variable {length threshold}

theorem init_sound : Sound length init where
  began := Nat.le_refl _
  past := Int.le_refl 0
  inside t member := by cases member

theorem now_le (w : Log) (gap : Nat) : w.times.getLastD 0 ≤ w.now gap :=
  Int.le_add_of_nonneg_right (Int.natCast_nonneg gap)

/-- The window that an event is counted in, and what has been counted in it before. -/
theorem opened_sound {w : Log} (sound : Sound length w) (span : 0 ≤ length) (gap : Nat) :
    let o := w.opened length (w.now gap)
    o.times = w.times ∧ o.began ≤ w.times.length ∧
      o.start ≤ w.now gap ∧ w.now gap ≤ o.start + length ∧
      ∀ t ∈ w.times.drop o.began, o.start ≤ t ∧ t ≤ o.start + length := by
  have later := now_le w gap
  have past := sound.past
  intro o
  by_cases expired : length < w.now gap - w.start
  next =>
    have fresh : o = { w with start := w.now gap, began := w.times.length } := if_pos expired
    rw [fresh]
    refine ⟨rfl, Nat.le_refl _, Int.le_refl _, Int.le_add_of_nonneg_right span, ?_⟩
    simp
  next =>
    have same : o = w := if_neg expired
    rw [same]
    exact ⟨rfl, sound.began, by omega, by omega, sound.inside⟩

theorem note_sound {w : Log} (sound : Sound length w) (span : 0 ≤ length) (restarts : Bool)
    (gap : Nat) : Sound length (w.note length threshold restarts (w.now gap)) := by
  obtain ⟨_, began, start, near, inside⟩ := opened_sound sound span gap
  rw [Log.note]
  split
  next =>
    constructor
    case began => simp
    case past => simp
    case inside =>
      have none : (w.times ++ [w.now gap]).drop (w.times.length + 1) = [] := by simp
      simp [none]
  next =>
    constructor
    case began => simpa using Nat.le_succ_of_le began
    case past => simpa using start
    case inside =>
      intro t member
      rw [List.drop_append_of_le_length began, List.mem_append, List.mem_singleton] at member
      rcases member with old | rfl
      next => exact inside t old
      next => exact ⟨start, near⟩

/-! ## When the counter slides -/

theorem trips_iff {w : Log} (sound : Sound length w) (span : 0 ≤ length) (gap : Nat) :
    w.trips length threshold (w.now gap) = true ↔
      (w.opened length (w.now gap)).began + threshold ≤ w.times.length := by
  obtain ⟨times, began, _⟩ := opened_sound sound span gap
  rw [Log.trips, decide_eq_true_iff, Log.count, times]
  omega

/-- A window that trips holds more than the threshold. -/
theorem trips_within {w : Log} (sound : Sound length w) (span : 0 ≤ length) {gap : Nat}
    (trips : w.trips length threshold (w.now gap) = true) :
    ∃ a, a ≤ w.now gap ∧ w.now gap ≤ a + length ∧
      threshold < held length a (w.times ++ [w.now gap]) := by
  have enough := (trips_iff sound span gap).mp trips
  obtain ⟨_, began, start, near, inside⟩ := opened_sound sound span gap
  generalize w.opened length (w.now gap) = o at *
  refine ⟨o.start, start, near, ?_⟩
  have counted : (w.times.drop o.began ++ [w.now gap]).countP
      (fun t => decide (o.start ≤ t ∧ t ≤ o.start + length)) =
        (w.times.drop o.began ++ [w.now gap]).length := by
    rw [List.countP_eq_length]
    intro t member
    rw [List.mem_append, List.mem_singleton] at member
    rcases member with old | rfl
    next => simpa using inside t old
    next => simpa using ⟨start, near⟩
  have part : (w.times.drop o.began ++ [w.now gap]).Sublist (w.times ++ [w.now gap]) :=
    (List.drop_sublist _ _).append_right _
  have more := part.countP_le (p := fun t => decide (o.start ≤ t ∧ t ≤ o.start + length))
  rw [counted] at more
  rw [held]
  simp only [List.length_append, List.length_drop, List.length_singleton] at more
  omega

theorem slides_iff {w : Log} (sound : Sound length w) (span : 0 ≤ length) (gap : Nat) :
    Slides length threshold w.times (w.now gap) (w.trips length threshold (w.now gap)) ↔
      Unbroken length threshold w (w.now gap) := by
  have exact_ := @trips_iff length threshold w sound span gap
  constructor
  next => exact fun slides exceeds => exact_.mp (slides.exceeds exceeds)
  next =>
    intro unbroken
    exact ⟨fun exceeds => exact_.mpr (unbroken exceeds), trips_within sound span⟩

/-! ## A counter as it is programmed -/

section

variable {S : Type} (note : S → Int → S × Bool) (restarts : Bool)

/-- What an event does to a counter that counts `n` events in a window from `start` on. -/
structure Takes (threshold : Nat) (reads : S → Int → Nat → Prop) (s : S) (now start : Int) (n : Nat) :
    Prop where
  verdict : (note s now).2 = decide (threshold < n + 1)
  reads : reads (note s now).1 (if restarts && (note s now).2 then now else start)
    (if restarts && (note s now).2 then 0 else n + 1)

/-- `reads s start n` says that `s` counts `n` events in a window from `start` on. -/
structure Counts (length : Int) (threshold : Nat) (reads : S → Int → Nat → Prop) : Prop where
  expired : ∀ s now start n, reads s start n → length < now - start →
    Takes note restarts threshold reads s now now 0
  continues : ∀ s now start n, reads s start n → ¬ length < now - start →
    Takes note restarts threshold reads s now start n

structure Run (S : Type) where
  state : S
  log : Log

def Run.step (length : Int) (threshold : Nat) (r : Run S) (gap : Nat) : Run S where
  state := (note r.state (r.log.now gap)).1
  log := r.log.note length threshold restarts (r.log.now gap)

variable {note restarts} {reads : S → Int → Nat → Prop}

theorem takes_opened (counts : Counts note restarts length threshold reads) {r : Run S}
    (same : reads r.state r.log.start r.log.count) (now : Int) :
    Takes note restarts threshold reads r.state now (r.log.opened length now).start
      (r.log.opened length now).count := by
  by_cases expired : length < now - r.log.start
  next =>
    have fresh : r.log.opened length now = ⟨now, r.log.times.length, r.log.times⟩ :=
      if_pos expired
    rw [fresh, Log.count, Nat.sub_self]
    exact counts.expired _ _ _ _ same expired
  next =>
    have kept : r.log.opened length now = r.log := if_neg expired
    rw [kept]
    exact counts.continues _ _ _ _ same expired

/-- The program gives the log's verdict, and reads what the log counts. -/
theorem counts_step (counts : Counts note restarts length threshold reads) (span : 0 ≤ length)
    {r : Run S} (sound : Sound length r.log) (same : reads r.state r.log.start r.log.count)
    (gap : Nat) :
    (note r.state (r.log.now gap)).2 = r.log.trips length threshold (r.log.now gap) ∧
      reads (r.step note restarts length threshold gap).state
        (r.step note restarts length threshold gap).log.start
        (r.step note restarts length threshold gap).log.count := by
  have takes := takes_opened counts same (r.log.now gap)
  obtain ⟨times, began, _⟩ := opened_sound sound span gap
  have verdict : (note r.state (r.log.now gap)).2 =
      r.log.trips length threshold (r.log.now gap) := takes.verdict
  refine ⟨verdict, ?_⟩
  have reads := takes.reads
  simp only [Run.step, Log.note]
  rw [verdict] at reads
  split
  next tripped =>
    rw [if_pos tripped, if_pos tripped] at reads
    simpa [Log.count] using reads
  next calm =>
    rw [if_neg calm, if_neg calm] at reads
    have more : (r.log.times ++ [r.log.now gap]).length -
        (r.log.opened length (r.log.now gap)).began =
          (r.log.opened length (r.log.now gap)).count + 1 := by
      rw [Log.count, times, List.length_append, List.length_singleton]
      omega
    rw [Log.count, more]
    exact reads

/-- A counter gives the verdict of the sliding windows at every event of a run if and only if no window
has begun among the last events when one exceeds the threshold. -/
theorem run_slides (counts : Counts note restarts length threshold reads) (span : 0 ≤ length)
    {s : S} (fresh : reads s 0 0) (gaps : List Nat) :
    Machine.Guarded (Run.step note restarts length threshold)
        (fun r gap => Slides length threshold r.log.times (r.log.now gap)
          (note r.state (r.log.now gap)).2) ⟨s, init⟩ gaps ↔
      Machine.Guarded (Run.step note restarts length threshold)
        (fun r gap => Unbroken length threshold r.log (r.log.now gap)) ⟨s, init⟩ gaps := by
  have keeps (r : Run S) (gap : Nat)
      (held : Sound length r.log ∧ reads r.state r.log.start r.log.count) :
      Sound length (r.step note restarts length threshold gap).log ∧
        reads (r.step note restarts length threshold gap).state
          (r.step note restarts length threshold gap).log.start
          (r.step note restarts length threshold gap).log.count :=
    ⟨note_sound held.1 span restarts gap, (counts_step counts span held.1 held.2 gap).2⟩
  refine Machine.guarded_iff_of_invariant _ ?_ (fun r gap held _ => keeps r gap held)
    ⟨init_sound, fresh⟩
  intro r gap held
  rw [(counts_step counts span held.1 held.2 gap).1]
  exact slides_iff held.1 span gap

end

end Tumbling
