import Kerchunk.Lib.Machine
import Kerchunk.Stats.Rrd

set_option autoImplicit false

/-!
# Whether every event is counted once

A run is followed together with the number of the minute, hour and day that is current in the rings,
and a log of the events with the periods in which they were recorded. Periods are counted from one
full round of each ring.
-/

namespace Kerchunk.Stats

open RoundRobin
open Machine (Guarded run)

/-! ## Runs with a log -/

structure Recorded where
  event : Event
  minute : Nat
  hour : Nat
  day : Nat

def Recorded.weight (e : Recorded) : Slot :=
  e.event.slot

structure Traced where
  state : State
  minute : Nat
  hour : Nat
  day : Nat
  log : List Recorded

def begin (now : Int) : Traced where
  state := start now
  minute := rrdMinutes
  hour := rrdHours
  day := rrdDays
  log := []

def follow (t : Traced) (i : Input) : Traced :=
  let after := { t with state := step t.state i }
  if !t.state.opened then after
  else
    match i with
    | .tick now =>
      { after with
        minute := t.minute + t.state.file.minutesElapsed now
        hour := t.hour + t.state.file.hoursElapsed now
        day := t.day + t.state.file.daysElapsed now }
    | .record e _ =>
      { after with log := t.log ++ [{ event := e, minute := t.minute, hour := t.hour, day := t.day }] }
    | _ => after

theorem follow_state (t : Traced) (i : Input) : (follow t i).state = step t.state i := by
  unfold follow
  cases t.state.opened <;> cases i <;> rfl

theorem run_follow (t : Traced) (inputs : List Input) :
    (run follow t inputs).state = run step t.state inputs := by
  induction inputs generalizing t with
  | nil => rfl
  | cons i rest ih => rw [Machine.run_cons, Machine.run_cons, ih, follow_state]

/-- Each slot that is still in a ring has the events of its period, once each. The current hour and
day are not counted yet. -/
structure Conserved (t : Traced) : Prop where
  minutes : Shows t.state.file.minutes (share Recorded.minute Recorded.weight t.log) t.minute
  hours : Shows t.state.file.hours (ended (share Recorded.hour Recorded.weight t.log) t.hour) t.hour
  days : Shows t.state.file.days (ended (share Recorded.day Recorded.weight t.log) t.day) t.day

/-! ## Ticks that add up the right periods -/

/-- A ring in which these events are live is added up for the period that ends: they are the events
of that period, and there is only one such period unless there are no events. -/
def Sorted (log : List Recorded) (live : Recorded → Prop) (period : Recorded → Nat)
    (now ends : Nat) : Prop :=
  ends = 0 ∨ (∀ e ∈ log, live e ↔ period e = now) ∧ (ends = 1 ∨ ∀ e ∈ log, ¬ live e)

instance instDecidableSorted (log : List Recorded) (live : Recorded → Prop) [DecidablePred live]
    (period : Recorded → Nat) (now ends : Nat) : Decidable (Sorted log live period now ends) :=
  inferInstanceAs (Decidable (_ ∨ _ ∧ (_ ∨ _)))

def MinuteLive (now : Nat) (e : Recorded) : Prop :=
  -- The event's minute is in the ring of the minute `now`.
  now < e.minute + rrdMinutes

def HourLive (now : Nat) (e : Recorded) : Prop :=
  -- The event's hour has ended and is in the ring of the hour `now`.
  e.hour < now ∧ now < e.hour + rrdHours

instance instDecidableMinuteLive (now : Nat) : DecidablePred (MinuteLive now) := fun _ =>
  inferInstanceAs (Decidable (_ < _))

instance instDecidableHourLive (now : Nat) : DecidablePred (HourLive now) := fun _ =>
  inferInstanceAs (Decidable (_ ∧ _))

def TickSorts (t : Traced) (now : Int) : Prop :=
  let d := t.state.file
  Sorted t.log (MinuteLive (t.minute + d.minutesElapsed now)) Recorded.hour t.hour
      (d.hoursElapsed now) ∧
    Sorted t.log (HourLive (t.hour + d.hoursElapsed now)) Recorded.day t.day (d.daysElapsed now)

def Sorts (t : Traced) : Input → Prop
  | .tick now => t.state.opened = true → TickSorts t now
  | _ => True

instance instDecidableSorts (t : Traced) (i : Input) : Decidable (Sorts t i) :=
  match i with
  | .tick _ => inferInstanceAs (Decidable (_ → _ ∧ _))
  | .openFile _ => inferInstanceAs (Decidable True)
  | .closeFile => inferInstanceAs (Decidable True)
  | .record _ _ => inferInstanceAs (Decidable True)

/-! ## Steps -/

def Past (t : Traced) : Prop :=
  -- No event is of a period to come.
  ∀ e ∈ t.log, e.minute ≤ t.minute ∧ e.hour ≤ t.hour ∧ e.day ≤ t.day

theorem sum_of_sorted {log : List Recorded} {live : Recorded → Prop} [DecidablePred live]
    {period : Recorded → Nat} {now ends : Nat} (sorted : Sorted log live period now ends)
    (past : ∀ e ∈ log, period e ≤ now) {i : Nat} (inTime : i < ends) :
    ((log.filter fun e => live e).map Recorded.weight).sum =
      share period Recorded.weight log (now + i) := by
  rcases sorted with zero | ⟨same, ended⟩
  next => omega
  next =>
    by_cases first : i = 0
    next =>
      rw [first, Nat.add_zero, share]
      congr 2
      exact List.filter_congr fun e member => decide_eq_decide.mpr (same e member)
    next =>
      have none : log.filter (fun e => live e) = [] := by
        rcases ended with one | none
        next => omega
        next => exact List.filter_eq_nil_iff.mpr fun e member => by simpa using none e member
      rw [none, share_none fun e member => ?_]
      next => rfl
      next =>
        have := past e member
        omega

theorem minutes_total {r : Ring Slot rrdMinutes} {log : List Recorded} {now : Nat}
    (shows : Shows r (share Recorded.minute Recorded.weight log) now)
    (past : ∀ e ∈ log, e.minute ≤ now) :
    r.total = ((log.filter fun e => MinuteLive now e).map Recorded.weight).sum := by
  rw [shows.total, sum_share]
  congr 2
  refine List.filter_congr fun e member => decide_eq_decide.mpr ?_
  have := past e member
  have := shows.round
  simp only [Finset.mem_Ioc, MinuteLive]
  omega

theorem hours_total {r : Ring Slot rrdHours} {log : List Recorded} {now : Nat}
    (shows : Shows r (ended (share Recorded.hour Recorded.weight log) now) now) :
    r.total = ((log.filter fun e => HourLive now e).map Recorded.weight).sum := by
  have window : ∀ k ∈ Finset.Ioc (now - rrdHours) now,
      ended (share Recorded.hour Recorded.weight log) now k =
        if k ∈ Finset.Ioo (now - rrdHours) now then share Recorded.hour Recorded.weight log k
        else 0 := by
    intro k inWindow
    have bounds := Finset.mem_Ioc.mp inWindow
    have same : k < now ↔ k ∈ Finset.Ioo (now - rrdHours) now := by
      rw [Finset.mem_Ioo]
      omega
    simp only [ended, same]
  have subset : (Finset.Ioc (now - rrdHours) now).filter (· ∈ Finset.Ioo (now - rrdHours) now) =
      Finset.Ioo (now - rrdHours) now := by
    ext k
    simp only [Finset.mem_filter, Finset.mem_Ioc, Finset.mem_Ioo]
    omega
  rw [shows.total, Finset.sum_congr rfl window, ← Finset.sum_filter, subset, sum_share]
  congr 2
  refine List.filter_congr fun e _ => decide_eq_decide.mpr ?_
  have := shows.round
  simp only [Finset.mem_Ioo, HourLive]
  omega

theorem conserved_tick {t : Traced} (conserved : Conserved t) (past : Past t) {now : Int}
    (isOpen : t.state.opened = true) (sorts : TickSorts t now) :
    Conserved (follow t (.tick now)) := by
  -- A tick that sorts keeps the rings.
  obtain ⟨minutes, hours, days⟩ := conserved
  obtain ⟨sortsMinutes, sortsHours⟩ := sorts
  have rotated : Shows (t.state.file.minutes.rotate (t.state.file.minutesElapsed now))
      (share Recorded.minute Recorded.weight t.log)
      (t.minute + t.state.file.minutesElapsed now) := by
    refine shows_rotate minutes fun k later => share_none fun e member => ?_
    have := (past e member).1
    omega
  have closedHours := shows_close hours fun i inTime =>
    (minutes_total rotated fun e member => Nat.le_add_right_of_le (past e member).1).trans
      (sum_of_sorted sortsMinutes (fun e member => (past e member).2.1) inTime)
  have closedDays := shows_close days fun i inTime =>
    (hours_total closedHours).trans
      (sum_of_sorted sortsHours (fun e member => (past e member).2.2) inTime)
  have followed : follow t (.tick now) =
      { state := { t.state with file := t.state.file.tick now }
        minute := t.minute + t.state.file.minutesElapsed now
        hour := t.hour + t.state.file.hoursElapsed now
        day := t.day + t.state.file.daysElapsed now
        log := t.log } := by
    simp only [follow, step, isOpen]
    rfl
  rw [followed]
  exact ⟨rotated, closedHours, closedDays⟩

theorem record_rings (d : RrdFile) (e : Event) (now : Int) :
    (d.record e now).minutes = d.minutes.write (d.minutes.current + e.slot) ∧
      (d.record e now).hours = d.hours ∧ (d.record e now).days = d.days := by
  cases e <;> exact ⟨rfl, rfl, rfl⟩

theorem conserved_record {t : Traced} (conserved : Conserved t) {e : Event} {now : Int}
    (isOpen : t.state.opened = true) : Conserved (follow t (.record e now)) := by
  obtain ⟨minutes, hours, days⟩ := conserved
  obtain ⟨newMinutes, sameHours, sameDays⟩ := record_rings t.state.file e now
  have followed : follow t (.record e now) =
      { t with
        state := { t.state with file := t.state.file.record e now }
        log := t.log ++ [{ event := e, minute := t.minute, hour := t.hour, day := t.day }] } := by
    simp only [follow, step, isOpen]
    rfl
  rw [followed]
  constructor
  next =>
    dsimp only
    rw [newMinutes, minutes.current]
    refine (shows_write minutes _).congr fun k _ _ => ?_
    rw [share_append]
    by_cases here : k = t.minute
    next => rw [here, Function.update_self, if_pos rfl]; rfl
    next => rw [Function.update_of_ne here, if_neg (Ne.symm here), add_zero]
  next =>
    dsimp only
    rw [sameHours]
    refine hours.congr fun k _ _ => ?_
    by_cases before : k < t.hour
    next => simp only [ended, before, if_true, share_append, (Nat.ne_of_lt before).symm, if_false,
      add_zero]
    next => simp only [ended, before, if_false]
  next =>
    dsimp only
    rw [sameDays]
    refine days.congr fun k _ _ => ?_
    by_cases before : k < t.day
    next => simp only [ended, before, if_true, share_append, (Nat.ne_of_lt before).symm, if_false,
      add_zero]
    next => simp only [ended, before, if_false]

theorem past_follow {t : Traced} (past : Past t) (i : Input) : Past (follow t i) := by
  unfold follow
  split
  next => exact past
  next =>
    cases i with
    | tick now =>
      intro e member
      obtain ⟨minute, hour, day⟩ := past e member
      exact ⟨Nat.le_add_right_of_le minute, Nat.le_add_right_of_le hour,
        Nat.le_add_right_of_le day⟩
    | record event now =>
      intro e member
      rcases List.mem_append.mp member with old | new
      next => exact past e old
      next =>
        rw [List.mem_singleton.mp new]
        exact ⟨Nat.le_refl _, Nat.le_refl _, Nat.le_refl _⟩
    | openFile now => exact past
    | closeFile => exact past

theorem conserved_follow {t : Traced} (conserved : Conserved t) (past : Past t) {i : Input}
    (sorts : Sorts t i) : Conserved (follow t i) := by
  obtain ⟨minutes, hours, days⟩ := conserved
  cases isOpen : t.state.opened with
  | true =>
    cases i with
    | tick now => exact conserved_tick ⟨minutes, hours, days⟩ past isOpen (sorts isOpen)
    | record e now => exact conserved_record ⟨minutes, hours, days⟩ isOpen
    | openFile now => simpa only [follow, isOpen] using ⟨minutes, hours, days⟩
    | closeFile => simpa only [follow, isOpen] using ⟨minutes, hours, days⟩
  | false =>
    -- Only the timestamps of the file change while it is closed.
    have closed : follow t i = { t with state := step t.state i } := by simp [follow, isOpen]
    rw [closed]
    cases i with
    | openFile now => exact ⟨minutes, hours, days⟩
    | closeFile => exact ⟨minutes, hours, days⟩
    | tick now => rw [step, if_neg (by simp [isOpen])]; exact ⟨minutes, hours, days⟩
    | record e now => rw [step, if_neg (by simp [isOpen])]; exact ⟨minutes, hours, days⟩

theorem conserved_begin (now : Int) : Conserved (begin now) := by
  have none (period : Recorded → Nat) (k : Nat) : share period Recorded.weight [] k = 0 := rfl
  constructor
  next => exact shows_empty
  next => exact shows_empty.congr fun k _ _ => by simp [ended, begin, none]
  next => exact shows_empty.congr fun k _ _ => by simp [ended, begin, none]

/-! ## Runs -/

theorem counted_once {now : Int} {inputs : List Input}
    (sorts : Guarded follow Sorts (begin now) inputs) :
    Conserved (run follow (begin now) inputs) :=
  (Machine.run_invariant follow (P := fun t => Conserved t ∧ Past t)
    (fun _ i holds allowed => ⟨conserved_follow holds.1 holds.2 allowed, past_follow holds.2 i⟩)
    ⟨conserved_begin now, by simp [Past, begin]⟩ sorts).1

def reception : Event :=
  .rx 5000 0

-- A reception in the second minute of the hour is still there when the hour ends.
theorem second_minute_counted :
    Conserved (run follow (begin 0) [.tick 60, .record reception 65, .tick 3600]) :=
  counted_once (by decide)

-- One in the first minute is cleared by the tick that ends the hour, before the hour is added up.
theorem first_minute_lost :
    ¬ Conserved (run follow (begin 0)
      (.record reception 5 :: (List.range 60).map fun i => .tick (60 * (i + 1)))) := by
  intro conserved
  have counted := conserved.hours.slots 24 (by decide +kernel) (by decide +kernel)
  exact absurd counted (by decide +kernel)

end Kerchunk.Stats
