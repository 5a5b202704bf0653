import Kerchunk.Core.Sched
import Kerchunk.Lib.NextPoint
import Mathlib.Algebra.Order.Ring.Int

set_option autoImplicit false

/-!
# The times of an aligned event (`src/kerchunk_sched.c`)

An event is due at the boundaries `offset_ms`, `offset_ms + align_ms`, ... of the epoch. Where its
callbacks are late, boundaries are passed over by design; here every tick comes on time.
-/

namespace Kerchunk.Core.Sched

open NextPoint (IsNext)

variable {C : Type}

def Timespec.ns (t : Timespec) : Int :=
  t.sec * 1000000000 + t.nsec

/-- What `clock_gettime` returns. -/
structure ClockTime where
  time : Timespec
  normal : 0 ≤ time.nsec ∧ time.nsec < 1000000000

def boundaries (align offset : Int) : Set Int :=
  {ms | align ∣ ms - offset}

/-- The boundaries on the clock, in nanoseconds. -/
def dueTimes (align offset : Int) : Set Int :=
  {t | ∃ ms ∈ boundaries align offset, t = ms * 1000000}

/-- The entry that `kerchunk_sched_aligned` makes. -/
def alignedEntry (s : State C) (alignMs offsetMs : Int) (repeats : Bool) (callback : C)
    (now : Timespec) : SchedEntry C :=
  computeNextBoundary
    { id := s.nextId
      round := 0
      repeats := repeats
      alignMs := alignMs
      offsetMs := offsetMs
      fireTime := ⟨0, 0⟩
      callback := callback } now

def rounds (e : SchedEntry C) : Nat → Option (SchedEntry C)
  -- The entry after each tick that comes at the time it is due.
  | 0 => some e
  | n + 1 => (rounds e n).bind fun e => e.pass e.fireTime e.fireTime

/-- The first due time after `now` is the one computed, and an event that repeats comes to all the
others, to each of them once. -/
structure OnEveryBoundary (now : ClockTime) (e : SchedEntry C) : Prop where
  first : IsNext (dueTimes e.alignMs e.offsetMs) now.time.ns e.fireTime.ns
  all : e.repeats = true → ∀ t ∈ dueTimes e.alignMs e.offsetMs, now.time.ns < t →
    ∃ n, (rounds e n).map (·.fireTime.ns) = some t ∧
      ∀ m, (rounds e m).map (·.fireTime.ns) = some t → m = n

/-! ## One boundary -/

section

variable {align : Int} (positive : 0 < align)

include positive

theorem advance_spec {epoch : Int} (turns : Nat) (next : Int) (enough : epoch < next + turns) :
    align ∣ advance align epoch turns next - next ∧ epoch < advance align epoch turns next ∧
      (advance align epoch turns next = next ∨ advance align epoch turns next ≤ epoch + align) := by
  induction turns generalizing next with
  | zero => exact ⟨by simp [advance], by simpa [advance] using enough, .inl rfl⟩
  | succ turns ih =>
    unfold advance
    split
    next early =>
      obtain ⟨whole, later, near⟩ := ih (next + align) (by push_cast at enough; omega)
      refine ⟨?_, later, .inr ?_⟩
      next =>
        rw [show ∀ x : Int, x - next = x - (next + align) + align by omega]
        exact Int.dvd_add whole (Int.dvd_refl align)
      next => rcases near with same | near <;> omega
    next later => exact ⟨by simp, by omega, .inl rfl⟩

omit positive in
theorem advance_done {epoch next : Int} (done : epoch < next) (turns : Nat) :
    advance align epoch turns next = next := by
  cases turns with
  | zero => rfl
  | succ turns => exact if_neg (Int.not_le.mpr done)

omit positive in
/-- The time that the loop starts with. -/
theorem boundary_start (offset epoch : Int) :
    (epoch.tdiv align + 1) * align + offset = epoch - epoch.tmod align + align + offset := by
  have divided := Int.tmod_add_mul_tdiv epoch align
  rw [Int.add_mul, Int.mul_comm (epoch.tdiv align)]
  omega

theorem nextBoundary_boundary (offset epoch : Int) :
    nextBoundary align offset epoch ∈ boundaries align offset := by
  have whole : align ∣ nextBoundary align offset epoch - _ :=
    (advance_spec positive _ ((epoch.tdiv align + 1) * align + offset) (by omega)).1
  have started : align ∣ (epoch.tdiv align + 1) * align + offset - offset := by
    rw [Int.add_sub_cancel]
    exact Int.dvd_mul_left ..
  have total := Int.dvd_add whole started
  rwa [sub_add_sub_cancel] at total

theorem nextBoundary_near (offset epoch : Int) :
    nextBoundary align offset epoch ≤ epoch + align ↔ offset ≤ epoch.tmod align := by
  have start := @boundary_start align offset epoch
  have spec (turns : Nat) (enough : epoch < (epoch.tdiv align + 1) * align + offset + turns) :=
    (advance_spec positive turns _ enough).2.2
  unfold nextBoundary
  by_cases done : epoch < (epoch.tdiv align + 1) * align + offset
  next =>
    rw [advance_done done]
    omega
  next =>
    rcases spec (epoch + 1 - ((epoch.tdiv align + 1) * align + offset)).toNat (by omega) with
      same | near
    next =>
      dsimp only
      omega
    next => exact iff_of_true near (by omega)

/-- The boundary that is computed is the next one if and only if it is no more than a period
away. -/
theorem nextBoundary_next (offset epoch : Int) :
    IsNext (boundaries align offset) epoch (nextBoundary align offset epoch) ↔
      offset ≤ epoch.tmod align := by
  have later := nextBoundary_later positive offset epoch
  have boundary := nextBoundary_boundary positive offset epoch
  rw [← nextBoundary_near positive]
  generalize nextBoundary align offset epoch = next at *
  constructor
  next =>
    intro least
    by_contra far
    have before : next - align ∈ boundaries align offset := by
      have stepped := Int.dvd_sub boundary (Int.dvd_refl align)
      rwa [show next - offset - align = next - align - offset by omega] at stepped
    have := least.2 ⟨before, by omega⟩
    omega
  next =>
    refine fun near => ⟨⟨boundary, later⟩, fun t ahead => ?_⟩
    by_contra earlier
    have apart := Int.dvd_sub boundary ahead.1
    rw [show next - offset - (t - offset) = next - t by omega] at apart
    have := Int.le_of_dvd (by omega) apart
    have := ahead.2
    omega

/-- From a boundary on, the next ones are found again. -/
theorem nextBoundary_keeps {offset epoch : Int} (meets : offset ≤ epoch.tmod align) :
    offset ≤ (nextBoundary align offset epoch).tmod align := by
  have later := nextBoundary_later positive offset epoch
  have boundary := nextBoundary_boundary positive offset epoch
  generalize nextBoundary align offset epoch = next at *
  have divided := Int.tmod_add_mul_tdiv next align
  have small := Int.tmod_lt_of_pos epoch positive
  by_contra less
  have whole : align ∣ offset - next.tmod align := by
    have parts := Int.dvd_sub (Int.dvd_mul_right align (next.tdiv align)) boundary
    rwa [show align * next.tdiv align - (next - offset) = offset - next.tmod align by omega] at parts
  have period := Int.le_of_dvd (by omega) whole
  by_cases early : offset ≤ 0
  next =>
    have := Int.lt_tmod_of_pos next positive
    omega
  next =>
    have ahead : 0 ≤ epoch := by
      by_contra negative
      have := Int.tmod_nonneg align (show 0 ≤ -epoch by omega)
      rw [Int.neg_tmod] at this
      omega
    have := Int.tmod_nonneg align (show 0 ≤ next by omega)
    omega

end

/-! ## The entry -/

variable {e : SchedEntry C}

theorem ns_boundary (e : SchedEntry C) (now : Timespec) :
    (computeNextBoundary e now).fireTime.ns =
      nextBoundary e.alignMs e.offsetMs (epochMs now) * 1000000 := by
  have divided := Int.tmod_add_mul_tdiv (nextBoundary e.alignMs e.offsetMs (epochMs now)) 1000
  unfold computeNextBoundary Timespec.ns
  dsimp only
  omega

theorem epochMs_boundary (e : SchedEntry C) (now : Timespec) :
    epochMs (computeNextBoundary e now).fireTime =
      nextBoundary e.alignMs e.offsetMs (epochMs now) := by
  have divided := Int.tmod_add_mul_tdiv (nextBoundary e.alignMs e.offsetMs (epochMs now)) 1000
  unfold computeNextBoundary
  dsimp only
  rw [epochMs, Int.mul_tdiv_cancel _ (by decide)]
  dsimp only
  omega

theorem ClockTime.before_iff (now : ClockTime) (ms : Int) :
    now.time.ns < ms * 1000000 ↔ epochMs now.time < ms := by
  obtain ⟨time, low, high⟩ := now
  simp only [Timespec.ns, epochMs, Int.tdiv_eq_ediv_of_nonneg low]
  omega

theorem pass_due (positive : 0 < e.alignMs) (again : e.repeats = true) :
    e.pass e.fireTime e.fireTime =
      some (computeNextBoundary { e with round := e.round + 1 } e.fireTime) := by
  have due : e.Due e.fireTime := by
    simp [SchedEntry.Due, tsCmp]
  simp only [SchedEntry.pass, due, again, positive, and_self, if_true]

/-- Each round fires at the boundary after the one before. -/
theorem rounds_fire (positive : 0 < e.alignMs) (again : e.repeats = true) (now : Timespec) (n : Nat) :
    ∃ f, rounds (computeNextBoundary e now) n = some f ∧ f.alignMs = e.alignMs ∧
      f.offsetMs = e.offsetMs ∧ f.repeats = true ∧
      epochMs f.fireTime = (nextBoundary e.alignMs e.offsetMs)^[n + 1] (epochMs now) ∧
      f.fireTime.ns = (nextBoundary e.alignMs e.offsetMs)^[n + 1] (epochMs now) * 1000000 := by
  induction n with
  | zero => exact ⟨_, rfl, rfl, rfl, again, epochMs_boundary e now, ns_boundary e now⟩
  | succ n ih =>
    obtain ⟨f, reached, align, offset, repeats, fires, _⟩ := ih
    refine ⟨computeNextBoundary { f with round := f.round + 1 } f.fireTime, ?_, align, offset,
      repeats, ?_, ?_⟩
    next =>
      rw [rounds, reached]
      exact pass_due (align ▸ positive) repeats
    next =>
      rw [epochMs_boundary, Function.iterate_succ_apply', ← fires]
      simp only [align, offset]
    next =>
      rw [ns_boundary, Function.iterate_succ_apply', ← fires]
      simp only [align, offset]

/-- The fire time is the next one of the clock if and only if it is the next boundary. -/
theorem first_iff (e : SchedEntry C) (now : ClockTime) :
    IsNext (dueTimes e.alignMs e.offsetMs) now.time.ns (computeNextBoundary e now.time).fireTime.ns ↔
      IsNext (boundaries e.alignMs e.offsetMs) (epochMs now.time)
        (nextBoundary e.alignMs e.offsetMs (epochMs now.time)) := by
  rw [ns_boundary]
  generalize nextBoundary e.alignMs e.offsetMs (epochMs now.time) = next
  constructor
  next =>
    rintro ⟨⟨⟨ms, boundary, same⟩, later⟩, least⟩
    obtain rfl : next = ms := by omega
    refine ⟨⟨boundary, (now.before_iff next).mp later⟩, fun t ahead => ?_⟩
    have := least ⟨⟨t, ahead.1, rfl⟩, (now.before_iff t).mpr ahead.2⟩
    omega
  next =>
    rintro ⟨⟨boundary, later⟩, least⟩
    refine ⟨⟨⟨next, boundary, rfl⟩, (now.before_iff next).mpr later⟩, ?_⟩
    rintro _ ⟨⟨ms, point, rfl⟩, ahead⟩
    have := least ⟨point, (now.before_iff ms).mp ahead⟩
    omega

theorem all_boundaries (positive : 0 < e.alignMs) (again : e.repeats = true) (now : ClockTime)
    (meets : e.offsetMs ≤ (epochMs now.time).tmod e.alignMs) {t : Int}
    (point : t ∈ dueTimes e.alignMs e.offsetMs) (ahead : now.time.ns < t) :
    ∃ n, (rounds (computeNextBoundary e now.time) n).map (·.fireTime.ns) = some t ∧
      ∀ m, (rounds (computeNextBoundary e now.time) m).map (·.fireTime.ns) = some t → m = n := by
  obtain ⟨ms, boundary, rfl⟩ := point
  obtain ⟨n, reached, once⟩ := NextPoint.visits (P := fun x => e.offsetMs ≤ x.tmod e.alignMs)
    (fun x meets => (nextBoundary_next positive e.offsetMs x).mpr meets)
    (fun x meets => nextBoundary_keeps positive meets) meets boundary ((now.before_iff ms).mp ahead)
  refine ⟨n, ?_, fun m again' => once m ?_⟩
  next =>
    obtain ⟨f, round, _, _, _, _, fires⟩ := rounds_fire positive again now.time n
    rw [round, Option.map_some, fires, reached]
  next =>
    obtain ⟨f, round, _, _, _, _, fires⟩ := rounds_fire positive again now.time m
    rw [round, Option.map_some, fires] at again'
    have := Option.some.inj again'
    omega

/-- An aligned event comes to the first boundary, and in the end to all of them, if and only if its
offset is not ahead of the time within the period. -/
theorem on_every_boundary_iff (s : State C) {alignMs : Int} (positive : 0 < alignMs)
    (offsetMs : Int) (repeats : Bool) (callback : C) (now : ClockTime) :
    OnEveryBoundary now (alignedEntry s alignMs offsetMs repeats callback now.time) ↔
      offsetMs ≤ (epochMs now.time).tmod alignMs := by
  constructor
  next =>
    intro exact
    exact (nextBoundary_next positive offsetMs _).mp ((first_iff _ now).mp exact.first)
  next =>
    refine fun meets => ⟨?_, fun again t point ahead => ?_⟩
    next => exact (first_iff _ now).mpr ((nextBoundary_next positive offsetMs _).mpr meets)
    next => exact all_boundaries positive again now meets point ahead

/-- An identification at every full ten minutes. -/
theorem ten_minutes_on_time :
    OnEveryBoundary ⟨⟨1699999800, 5⟩, by decide⟩
      (alignedEntry (schedInit : State Nat) 600000 0 true 1 ⟨1699999800, 5⟩) :=
  (on_every_boundary_iff schedInit (by decide) 0 true 1 ⟨⟨1699999800, 5⟩, by decide⟩).mpr (by decide)

/-- One minute past every full ten minutes: at a full ten minutes, the next time is passed over. -/
theorem minute_past_skipped :
    ¬ OnEveryBoundary ⟨⟨1699999800, 5⟩, by decide⟩
      (alignedEntry (schedInit : State Nat) 600000 60000 true 1 ⟨1699999800, 5⟩) := by
  intro exact
  have least := exact.first.2 ⟨⟨1699999860000, (by decide : (600000 : Int) ∣ 1699999800000), rfl⟩, by decide⟩
  exact absurd least (by decide)

end Kerchunk.Core.Sched
