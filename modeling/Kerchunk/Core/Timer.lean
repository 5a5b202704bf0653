import Mathlib.Data.Fin.Basic
import Mathlib.Logic.Function.Basic
import Mathlib.Tactic.Common

set_option autoImplicit false

/-!
# Module timers (`src/kerchunk_timer.c`)

`now` is the monotonic clock in microseconds, and `tickAt` what the scan in
progress read of it. A scan visits one slot after the other; callbacks run
between two visits.
-/

namespace Kerchunk.Core

def maxTimers : Nat := 128

abbrev Slot := Fin maxTimers

def firstSlot : Slot := ⟨0, by decide⟩

structure TimerEntry (C : Type) where
  id : Nat
  intervalMs : Nat
  repeats : Bool
  nextFireUs : Nat
  callback : C

/-- `scanned` records the slots that the scan in progress has passed. -/
structure TimerTable (C : Type) where
  slots : Slot → Option (TimerEntry C)
  nextId : Nat
  now : Nat
  tickAt : Nat
  scanned : Slot → Bool
  issued : ∀ i e, slots i = some e → e.id < nextId
  distinct : ∀ i j e f, slots i = some e → slots j = some f → e.id = f.id → i = j
  running : ∀ i e, slots i = some e → 0 < e.intervalMs
  swept : ∀ i e, slots i = some e → scanned i = true → tickAt < e.nextFireUs
  clock : tickAt ≤ now

namespace TimerTable

variable {C : Type}

def init : TimerTable C where
  -- `kerchunk_timer_init`
  slots := fun _ => none
  nextId := 1
  now := 0
  tickAt := 0
  scanned := fun _ => false
  issued := by simp
  distinct := by simp
  running := by simp
  swept := by simp
  clock := Nat.le_refl 0

def freeSlot (t : TimerTable C) : Option Slot :=
  (List.finRange maxTimers).find? fun i => (t.slots i).isNone

theorem freeSlot_empty {t : TimerTable C} {i : Slot} (found : t.freeSlot = some i) :
    t.slots i = none := by
  simpa using List.find?_some found

def HasRoom (t : TimerTable C) : Prop :=
  ∃ i, t.slots i = none

theorem hasRoom_iff {t : TimerTable C} : t.HasRoom ↔ ∃ i, t.freeSlot = some i := by
  constructor
  next =>
    rintro ⟨i, empty⟩
    refine Option.isSome_iff_exists.mp (List.find?_isSome.mpr ⟨i, List.mem_finRange i, ?_⟩)
    simp [empty]
  next =>
    rintro ⟨i, found⟩
    exact ⟨i, freeSlot_empty found⟩

instance (t : TimerTable C) : Decidable t.HasRoom :=
  decidable_of_iff (t.freeSlot.isSome = true) (by rw [hasRoom_iff, Option.isSome_iff_exists])

def fill (t : TimerTable C) (i : Slot) (ms : Nat) (positive : 0 < ms) (repeats : Bool)
    (callback : C) : TimerTable C where
  slots := Function.update t.slots i
    (some
      { id := t.nextId
        intervalMs := ms
        repeats := repeats
        nextFireUs := t.now + ms * 1000
        callback := callback })
  nextId := t.nextId + 1
  now := t.now
  tickAt := t.tickAt
  scanned := t.scanned
  issued := by
    intro j e present
    have := t.issued
    grind [Function.update_apply]
  distinct := by
    intro j k e f first second ids
    have := t.issued
    have := t.distinct
    grind [Function.update_apply]
  running := by
    intro j e present
    have := t.running
    grind [Function.update_apply]
  swept := by
    intro j e present passed
    have := t.swept
    have := t.clock
    grind [Function.update_apply]
  clock := t.clock

def create (t : TimerTable C) (ms : Int) (repeats : Bool) (callback : C) :
    Option Nat × TimerTable C :=
  -- `kerchunk_timer_create`: the new id, `none` for -1.
  if positive : 0 < ms then
    match t.freeSlot with
    | some i => (some t.nextId, t.fill i ms.toNat (by omega) repeats callback)
    | none => (none, t)
  else (none, t)

def drop (t : TimerTable C) (gone : TimerEntry C → Bool) : TimerTable C where
  slots := fun i => (t.slots i).filter fun e => !gone e
  nextId := t.nextId
  now := t.now
  tickAt := t.tickAt
  scanned := t.scanned
  issued := by
    intro i e present
    exact t.issued i e (Option.eq_some_of_filter_eq_some present)
  distinct := by
    intro i j e f first second
    exact t.distinct i j e f (Option.eq_some_of_filter_eq_some first)
      (Option.eq_some_of_filter_eq_some second)
  running := by
    intro i e present
    exact t.running i e (Option.eq_some_of_filter_eq_some present)
  swept := by
    intro i e present
    exact t.swept i e (Option.eq_some_of_filter_eq_some present)
  clock := t.clock

-- Ids are never used twice, so the source's stop at the first match makes no difference.
def cancel (t : TimerTable C) (timerId : Nat) : TimerTable C :=
  -- `kerchunk_timer_cancel`
  t.drop fun e => e.id = timerId

def cancelIf (t : TimerTable C) : Option Nat → TimerTable C
  -- `if (id >= 0) timer_cancel(id)`
  | some timerId => t.cancel timerId
  | none => t

@[simp] theorem cancelIf_none (t : TimerTable C) : t.cancelIf none = t := rfl

def elapse (t : TimerTable C) (us : Nat) : TimerTable C :=
  -- The clock moves on.
  { t with now := t.now + us, clock := Nat.le_trans t.clock (Nat.le_add_right ..) }

def beginTick (t : TimerTable C) : TimerTable C :=
  -- `kerchunk_timer_tick` reads the clock.
  { t with
    tickAt := t.now
    scanned := fun _ => false
    swept := by simp
    clock := Nat.le_refl _ }

def reschedule (t : TimerTable C) (e : TimerEntry C) : TimerEntry C :=
  { e with nextFireUs := t.tickAt + e.intervalMs * 1000 }

def pass (t : TimerTable C) (e : TimerEntry C) : Option (TimerEntry C) :=
  -- What the scan leaves of an entry.
  if t.tickAt < e.nextFireUs then some e
  else if e.repeats then some (t.reschedule e)
  else none

def due (t : TimerTable C) (i : Slot) : Option (TimerEntry C) :=
  -- The timer whose callback the scan runs when it comes to a slot.
  (t.slots i).filter fun e => e.nextFireUs ≤ t.tickAt

theorem pass_same {t : TimerTable C} {e f : TimerEntry C} (passed : t.pass e = some f) :
    f.id = e.id ∧ f.intervalMs = e.intervalMs ∧
      (0 < e.intervalMs → t.tickAt < f.nextFireUs) := by
  unfold pass reschedule at passed
  grind

def visit (t : TimerTable C) (i : Slot) : TimerTable C where
  -- The loop body of `kerchunk_timer_tick`, less the callback that it runs last.
  slots := Function.update t.slots i ((t.slots i).bind t.pass)
  nextId := t.nextId
  now := t.now
  tickAt := t.tickAt
  scanned := Function.update t.scanned i true
  issued := by
    intro j e present
    have := t.issued
    have := @pass_same C t
    grind [Function.update_apply, Option.bind_eq_some_iff]
  distinct := by
    intro j k e f first second ids
    have := t.distinct
    have := @pass_same C t
    grind [Function.update_apply, Option.bind_eq_some_iff]
  running := by
    intro j e present
    have := t.running
    have := @pass_same C t
    grind [Function.update_apply, Option.bind_eq_some_iff]
  swept := by
    intro j e present passed
    have := t.swept
    have := t.running
    have := @pass_same C t
    grind [Function.update_apply, Option.bind_eq_some_iff]
  clock := t.clock

/-! ## Which timers run -/

def Holds (t : TimerTable C) (e : TimerEntry C) : Prop :=
  ∃ i, t.slots i = some e

@[simp] theorem init_holds (e : TimerEntry C) : ¬ (init : TimerTable C).Holds e := by
  simp [Holds, init]

theorem create_holds (t : TimerTable C) (ms : Int) (repeats : Bool) (callback : C)
    (e : TimerEntry C) : (t.create ms repeats callback).2.Holds e ↔
      t.Holds e ∨ ((t.create ms repeats callback).1 = some e.id ∧
        e = ⟨t.nextId, ms.toNat, repeats, t.now + ms.toNat * 1000, callback⟩) := by
  unfold create
  by_cases positive : 0 < ms
  next =>
    cases room : t.freeSlot with
    | none => simp [positive]
    | some i =>
      have empty := freeSlot_empty room
      simp only [positive, dite_true, Holds, fill]
      constructor
      next =>
        rintro ⟨j, present⟩
        by_cases same : j = i
        next =>
          subst same
          simp only [Function.update_self, Option.some.injEq] at present
          subst present
          exact Or.inr ⟨rfl, rfl⟩
        next => exact Or.inl ⟨j, by simpa [same] using present⟩
      next =>
        rintro (⟨j, present⟩ | ⟨-, rfl⟩)
        next =>
          have other : j ≠ i := by
            rintro rfl
            simp [empty] at present
          exact ⟨j, by simpa [other] using present⟩
        next => exact ⟨i, by simp⟩
  next => simp [positive]

theorem drop_holds (t : TimerTable C) (gone : TimerEntry C → Bool) (e : TimerEntry C) :
    (t.drop gone).Holds e ↔ t.Holds e ∧ gone e = false := by
  simp [Holds, drop]

@[simp] theorem cancel_holds (t : TimerTable C) (timerId : Nat) (e : TimerEntry C) :
    (t.cancel timerId).Holds e ↔ t.Holds e ∧ e.id ≠ timerId := by
  simp [cancel, drop_holds]

theorem due_holds {t : TimerTable C} {i : Slot} {e : TimerEntry C} (found : t.due i = some e) :
    t.Holds e :=
  ⟨i, Option.eq_some_of_filter_eq_some found⟩

theorem due_fires {t : TimerTable C} {i : Slot} {e : TimerEntry C} (found : t.due i = some e) :
    e.nextFireUs ≤ t.tickAt := by
  simpa using (Option.filter_eq_some_iff.mp found).2

theorem visit_slots (t : TimerTable C) (i j : Slot) :
    (t.visit i).slots j = if j = i then (t.slots i).bind t.pass else t.slots j :=
  Function.update_apply ..

theorem pass_of_early {t : TimerTable C} {i : Slot} {e : TimerEntry C} (present : t.slots i = some e)
    (early : t.due i = none) : t.pass e = some e := by
  have early : t.tickAt < e.nextFireUs := by simpa [due, present] using early
  simp [pass, early]

theorem pass_of_due {t : TimerTable C} {i : Slot} {e : TimerEntry C} (found : t.due i = some e) :
    t.pass e = if e.repeats then some (t.reschedule e) else none := by
  have fires : ¬ t.tickAt < e.nextFireUs := by
    have := due_fires found
    omega
  simp [pass, fires]

theorem visit_holds (t : TimerTable C) (i : Slot) (e : TimerEntry C) :
    (t.visit i).Holds e ↔ (t.Holds e ∧ ∀ f, t.due i = some f → f.id ≠ e.id) ∨
      ∃ f, t.due i = some f ∧ f.repeats = true ∧ e = t.reschedule f := by
  unfold Holds
  simp only [visit_slots]
  constructor
  next =>
    rintro ⟨j, present⟩
    by_cases same : j = i
    next =>
      rw [if_pos same] at present
      obtain ⟨f, here, passed⟩ := Option.bind_eq_some_iff.mp present
      cases found : t.due i with
      | none =>
        rw [pass_of_early here found] at passed
        cases passed
        exact Or.inl ⟨⟨i, here⟩, by simp⟩
      | some g =>
        have : g = f := by
          simpa [here] using (Option.eq_some_of_filter_eq_some found).symm
        subst this
        rw [pass_of_due found] at passed
        split at passed
        next repeats => exact Or.inr ⟨g, rfl, repeats, (Option.some.inj passed).symm⟩
        next => cases passed
    next =>
      rw [if_neg same] at present
      refine Or.inl ⟨⟨j, present⟩, ?_⟩
      intro f found ids
      exact same (t.distinct j i e f present (Option.eq_some_of_filter_eq_some found) ids.symm)
  next =>
    rintro (⟨⟨j, present⟩, other⟩ | ⟨f, found, repeats, rfl⟩)
    next =>
      refine ⟨j, ?_⟩
      by_cases same : j = i
      next =>
        subst same
        have early : t.due j = none := by
          cases found : t.due j with
          | none => rfl
          | some f =>
            have := Option.eq_some_of_filter_eq_some found
            rw [present] at this
            cases this
            exact absurd rfl (other e found)
        simp [present, pass_of_early present early]
      next => simpa [same] using present
    next =>
      have here := Option.eq_some_of_filter_eq_some found
      refine ⟨i, ?_⟩
      simp [here, pass_of_due found, repeats]

theorem holds_unique {t : TimerTable C} {e f : TimerEntry C} (first : t.Holds e)
    (second : t.Holds f) (ids : e.id = f.id) : e = f := by
  obtain ⟨i, here⟩ := first
  obtain ⟨j, there⟩ := second
  obtain rfl := t.distinct i j e f here there ids
  exact Option.some.inj (here.symm.trans there)

def Swept (t : TimerTable C) : Prop :=
  -- The scan is over.
  ∀ i, t.scanned i = true

instance (t : TimerTable C) : Decidable t.Swept :=
  inferInstanceAs (Decidable (∀ i, t.scanned i = true))

theorem holds_swept {t : TimerTable C} {e : TimerEntry C} (past : t.Swept) (held : t.Holds e) :
    t.tickAt < e.nextFireUs := by
  obtain ⟨i, present⟩ := held
  exact t.swept i e present (past i)

def Runs (t : TimerTable C) (n : Nat) (repeats : Bool) (callback : C) : Prop :=
  -- The timer `n` is pending.
  ∃ e, t.Holds e ∧ e.id = n ∧ e.repeats = repeats ∧ e.callback = callback

def Pending (t : TimerTable C) (callback : C) : Prop :=
  ∃ e, t.Holds e ∧ e.callback = callback

theorem pending_iff {t : TimerTable C} {callback : C} :
    t.Pending callback ↔ ∃ n repeats, t.Runs n repeats callback := by
  constructor
  next =>
    rintro ⟨e, held, same⟩
    exact ⟨e.id, e.repeats, e, held, rfl, rfl, same⟩
  next =>
    rintro ⟨n, repeats, e, held, -, -, same⟩
    exact ⟨e, held, same⟩

@[simp] theorem init_runs (n : Nat) (repeats : Bool) (callback : C) :
    ¬ (init : TimerTable C).Runs n repeats callback := by
  simp [Runs]

theorem create_fst (t : TimerTable C) (ms : Int) (repeats : Bool) (callback : C) :
    (t.create ms repeats callback).1 = if 0 < ms ∧ t.HasRoom then some t.nextId else none := by
  simp only [hasRoom_iff]
  unfold create
  by_cases positive : 0 < ms
  next => cases room : t.freeSlot <;> simp [positive]
  next => simp [positive]

theorem create_id {t : TimerTable C} {ms : Int} {repeats : Bool} {callback : C} {n : Nat}
    (created : (t.create ms repeats callback).1 = some n) : n = t.nextId := by
  rw [create_fst] at created
  split at created
  next => exact (Option.some.inj created).symm
  next => cases created

@[simp] theorem create_runs (t : TimerTable C) (ms : Int) (repeats again : Bool) (made callback : C)
    (n : Nat) : (t.create ms repeats made).2.Runs n again callback ↔
      t.Runs n again callback ∨
        ((t.create ms repeats made).1 = some n ∧ again = repeats ∧ callback = made) := by
  simp only [Runs, create_holds]
  constructor
  next =>
    rintro ⟨e, held | ⟨created, rfl⟩, rfl, rfl, rfl⟩
    next => exact Or.inl ⟨e, held, rfl, rfl, rfl⟩
    next => exact Or.inr ⟨created, rfl, rfl⟩
  next =>
    rintro (⟨e, held, rfl, rfl, rfl⟩ | ⟨created, rfl, rfl⟩)
    next => exact ⟨e, Or.inl held, rfl, rfl, rfl⟩
    next =>
      obtain rfl := create_id created
      exact ⟨_, Or.inr ⟨created, rfl⟩, rfl, rfl, rfl⟩

@[simp] theorem cancel_runs (t : TimerTable C) (timerId n : Nat) (repeats : Bool) (callback : C) :
    (t.cancel timerId).Runs n repeats callback ↔ t.Runs n repeats callback ∧ n ≠ timerId := by
  simp only [Runs, cancel_holds]
  constructor
  next =>
    rintro ⟨e, ⟨held, other⟩, rfl, rfl, rfl⟩
    exact ⟨⟨e, held, rfl, rfl, rfl⟩, other⟩
  next =>
    rintro ⟨⟨e, held, rfl, rfl, rfl⟩, other⟩
    exact ⟨e, ⟨held, other⟩, rfl, rfl, rfl⟩

theorem visit_runs (t : TimerTable C) (i : Slot) (n : Nat) (repeats : Bool) (callback : C) :
    (t.visit i).Runs n repeats callback ↔ t.Runs n repeats callback ∧
      (repeats = true ∨ ∀ e, t.due i = some e → e.id ≠ n) := by
  -- A visit ends a timer that is due and does not repeat.
  simp only [Runs, visit_holds]
  constructor
  next =>
    rintro ⟨e, ⟨held, other⟩ | ⟨f, found, again, rfl⟩, rfl, rfl, rfl⟩
    next => exact ⟨⟨e, held, rfl, rfl, rfl⟩, Or.inr other⟩
    next => exact ⟨⟨f, due_holds found, rfl, rfl, rfl⟩, Or.inl again⟩
  next =>
    rintro ⟨⟨e, held, rfl, rfl, rfl⟩, left⟩
    by_cases fires : ∃ f, t.due i = some f ∧ f.id = e.id
    next =>
      obtain ⟨f, found, ids⟩ := fires
      obtain rfl := holds_unique (due_holds found) held ids
      have again : f.repeats = true := by
        rcases left with again | other
        next => exact again
        next => exact absurd rfl (other f found)
      exact ⟨t.reschedule f, Or.inr ⟨f, found, again, rfl⟩, rfl, rfl, rfl⟩
    next =>
      exact ⟨e, Or.inl ⟨held, fun f found ids => fires ⟨f, found, ids⟩⟩, rfl, rfl, rfl⟩

theorem runs_unique {t : TimerTable C} {n : Nat} {repeats again : Bool} {callback other : C}
    (first : t.Runs n repeats callback) (second : t.Runs n again other) :
    repeats = again ∧ callback = other := by
  obtain ⟨e, held, rfl, rfl, rfl⟩ := first
  obtain ⟨f, there, ids, rfl, rfl⟩ := second
  obtain rfl := holds_unique there held ids
  exact ⟨rfl, rfl⟩

theorem due_runs {t : TimerTable C} {i : Slot} {e : TimerEntry C} (found : t.due i = some e) :
    t.Runs e.id e.repeats e.callback :=
  ⟨e, due_holds found, rfl, rfl, rfl⟩

section Clock

variable (t : TimerTable C) (ms : Int) (repeats : Bool) (callback : C)

@[simp] theorem create_now : (t.create ms repeats callback).2.now = t.now := by
  unfold create
  split
  next => split <;> rfl
  next => rfl

@[simp] theorem create_tickAt : (t.create ms repeats callback).2.tickAt = t.tickAt := by
  unfold create
  split
  next => split <;> rfl
  next => rfl

@[simp] theorem create_scanned : (t.create ms repeats callback).2.scanned = t.scanned := by
  unfold create
  split
  next => split <;> rfl
  next => rfl

@[simp] theorem cancelIf_now (handle : Option Nat) : (t.cancelIf handle).now = t.now := by
  cases handle <;> rfl

@[simp] theorem cancelIf_tickAt (handle : Option Nat) :
    (t.cancelIf handle).tickAt = t.tickAt := by
  cases handle <;> rfl

@[simp] theorem cancelIf_scanned (handle : Option Nat) :
    (t.cancelIf handle).scanned = t.scanned := by
  cases handle <;> rfl

end Clock

/-! ## A handle on a timer -/

def Owns (t : TimerTable C) (handle : Option Nat) (callback : C) : Prop :=
  -- A module's variable holds the id of its timer with this callback, or -1 when there is none.
  ∀ n repeats, t.Runs n repeats callback ↔ repeats = false ∧ handle = some n

variable {t : TimerTable C} {handle other : Option Nat} {callback made : C}

theorem init_owns : (init : TimerTable C).Owns none callback := by
  simp [Owns]

theorem owns_pending (owns : t.Owns handle callback) : t.Pending callback ↔ handle ≠ none := by
  rw [pending_iff, Option.ne_none_iff_exists']
  constructor
  next =>
    rintro ⟨n, repeats, runs⟩
    exact ⟨n, ((owns n repeats).mp runs).2⟩
  next =>
    rintro ⟨n, held⟩
    exact ⟨n, false, (owns n false).mpr ⟨rfl, held⟩⟩

theorem elapse_owns (owns : t.Owns handle callback) (us : Nat) :
    (t.elapse us).Owns handle callback := owns

theorem beginTick_owns (owns : t.Owns handle callback) : t.beginTick.Owns handle callback := owns

theorem create_owns (owns : t.Owns none callback) (ms : Int) :
    (t.create ms false callback).2.Owns (t.create ms false callback).1 callback := by
  intro n repeats
  simp [owns n repeats, and_comm]

theorem create_owns_other (owns : t.Owns handle callback) (distinct : callback ≠ made) (ms : Int)
    (repeats : Bool) : (t.create ms repeats made).2.Owns handle callback := by
  intro n again
  simp [owns n again, distinct]

theorem cancel_owns (owns : t.Owns handle callback) :
    (t.cancelIf handle).Owns none callback := by
  intro n repeats
  cases handle with
  | none => simpa [cancelIf] using owns n repeats
  | some timerId => simp [cancelIf, owns n repeats, eq_comm]

theorem owns_apart (owns : t.Owns handle callback) (others : t.Owns other made)
    (distinct : callback ≠ made) {n : Nat} (held : handle = some n) : other ≠ some n := by
  intro same
  have first := (owns n false).mpr ⟨rfl, held⟩
  have second := (others n false).mpr ⟨rfl, same⟩
  exact distinct (runs_unique first second).2

theorem cancel_owns_other (owns : t.Owns handle callback) (others : t.Owns other made)
    (distinct : callback ≠ made) : (t.cancelIf other).Owns handle callback := by
  intro n repeats
  cases other with
  | none => exact owns n repeats
  | some timerId =>
    simp only [cancelIf, cancel_runs, owns n repeats, and_iff_left_iff_imp]
    rintro ⟨-, held⟩ rfl
    exact owns_apart owns others distinct held rfl

theorem drop_owns (owns : t.Owns handle callback) {gone : TimerEntry C → Bool}
    (spared : ∀ e, e.callback = callback → gone e = false) : (t.drop gone).Owns handle callback := by
  intro n repeats
  rw [← owns n repeats]
  simp only [Runs, Holds, drop, Option.filter_eq_some_iff]
  grind

theorem visit_owns_idle {i : Slot} (owns : t.Owns handle callback) (idle : t.due i = none) :
    (t.visit i).Owns handle callback := by
  intro n repeats
  simp [visit_runs, idle, owns n repeats]

theorem visit_owns_other {i : Slot} {e : TimerEntry C} (owns : t.Owns handle callback)
    (found : t.due i = some e) (distinct : e.callback ≠ callback) :
    (t.visit i).Owns handle callback := by
  intro n repeats
  rw [visit_runs, ← owns n repeats, and_iff_left_iff_imp]
  intro runs
  refine Or.inr ?_
  rintro f again rfl
  obtain rfl := Option.some.inj (found.symm.trans again)
  exact distinct (runs_unique (due_runs found) runs).2

theorem due_owned {i : Slot} {e : TimerEntry C} (owns : t.Owns handle e.callback)
    (found : t.due i = some e) : e.repeats = false ∧ handle = some e.id :=
  (owns e.id e.repeats).mp (due_runs found)

theorem visit_owns {i : Slot} {e : TimerEntry C} (owns : t.Owns handle e.callback)
    (found : t.due i = some e) : (t.visit i).Owns none e.callback := by
  intro n repeats
  have held := (due_owned owns found).2
  simp only [visit_runs, owns n repeats, found, held, Option.some.injEq]
  grind

theorem cancel_hasRoom (owns : t.Owns handle callback) (room : handle ≠ none ∨ t.HasRoom) :
    (t.cancelIf handle).HasRoom := by
  cases handle with
  | none => simpa using room
  | some n =>
    obtain ⟨e, ⟨i, present⟩, ids, -⟩ := (owns n false).mpr ⟨rfl, rfl⟩
    exact ⟨i, by simp [cancelIf, cancel, drop, present, ids]⟩

theorem visit_hasRoom {i : Slot} {e : TimerEntry C} (owns : t.Owns handle e.callback)
    (found : t.due i = some e) : (t.visit i).HasRoom := by
  have once := (due_owned owns found).1
  have present := Option.eq_some_of_filter_eq_some found
  exact ⟨i, by simp [visit_slots, present, pass_of_due found, once]⟩

theorem cancel_empties {home : Slot} {e : TimerEntry C} (present : t.slots home = some e) (i : Slot) :
    (t.cancel e.id).slots i = none ↔ t.slots i = none ∨ i = home := by
  constructor
  next =>
    intro empty
    cases entry : t.slots i with
    | none => exact .inl rfl
    | some f =>
        have same : f.id = e.id := by simpa [cancel, drop, entry] using empty
        exact .inr (t.distinct i home f e entry present same)
  next =>
    intro empty
    rcases empty with empty | rfl
    · simp [cancel, drop, empty]
    · simp [cancel, drop, present]

theorem create_leaves {ms : Int} (positive : 0 < ms) {i : Slot} (found : t.freeSlot = some i)
    (repeats : Bool) :
    (t.create ms repeats made).2.HasRoom ↔ ∃ j, j ≠ i ∧ t.slots j = none := by
  simp only [create, positive, dite_true, found, HasRoom, fill, Function.update_apply]
  constructor
  next =>
    rintro ⟨j, empty⟩
    split at empty
    · cases empty
    · next other => exact ⟨j, other, empty⟩
  next =>
    rintro ⟨j, other, empty⟩
    exact ⟨j, by rw [if_neg other, empty]⟩

theorem create_hasRoom (owns : t.Owns handle callback) (running : handle ≠ none) {ms : Int}
    (positive : 0 < ms) (repeats : Bool) :
    ((t.cancelIf handle).create ms repeats made).2.HasRoom ↔ t.HasRoom := by
  -- A timer made in the place of a cancelled one takes no room from the others.
  obtain ⟨n, rfl⟩ := Option.ne_none_iff_exists'.mp running
  obtain ⟨e, ⟨home, present⟩, rfl, -⟩ := (owns n false).mpr ⟨rfl, rfl⟩
  have gone := cancel_empties present
  have free : ((t.cancel e.id).freeSlot).isSome = true := by
    rw [freeSlot, List.find?_isSome]
    exact ⟨home, List.mem_finRange home, by simp [(gone home).mpr (.inr rfl)]⟩
  obtain ⟨i, found⟩ := Option.isSome_iff_exists.mp free
  have taken := freeSlot_empty found
  rw [cancelIf, create_leaves positive found]
  -- The new timer is in the place that was left or in one that was free before.
  constructor
  next =>
    rintro ⟨j, other, empty⟩
    rcases (gone j).mp empty with free | rfl
    · exact ⟨j, free⟩
    · rcases (gone i).mp taken with free | same
      · exact ⟨i, free⟩
      · exact absurd same.symm other
  next =>
    rintro ⟨k, empty⟩
    by_cases same : k = i
    next =>
      subst same
      refine ⟨home, ?_, (gone home).mpr (.inr rfl)⟩
      rintro rfl
      rw [empty] at present
      cases present
    next => exact ⟨k, same, (gone k).mpr (.inl empty)⟩

/-! ## Several handles -/

def OwnsEach (t : TimerTable C) (own : C → Prop) (handles : C → Option Nat) : Prop :=
  -- Each of a module's callbacks has the timer that its handle names.
  ∀ callback, own callback → t.Owns (handles callback) callback

section Each

variable {own : C → Prop} {handles : C → Option Nat}

theorem OwnsEach.create_other (each : t.OwnsEach own handles) (foreign : ¬ own made) (ms : Int)
    (repeats : Bool) : (t.create ms repeats made).2.OwnsEach own handles := by
  intro callback owned
  have distinct : callback ≠ made := fun same => foreign (same ▸ owned)
  exact create_owns_other (each callback owned) distinct ms repeats

theorem OwnsEach.drop (each : t.OwnsEach own handles) {gone : TimerEntry C → Bool}
    (spared : ∀ e, own e.callback → gone e = false) : (t.drop gone).OwnsEach own handles := by
  intro callback owned
  exact drop_owns (each callback owned) fun e same => spared e (same ▸ owned)

theorem OwnsEach.visit_idle {i : Slot} (each : t.OwnsEach own handles) (idle : t.due i = none) :
    (t.visit i).OwnsEach own handles :=
  fun callback owned => visit_owns_idle (each callback owned) idle

variable [DecidableEq C]

theorem OwnsEach.cancel (each : t.OwnsEach own handles) (made : C) (mine : own made) :
    (t.cancelIf (handles made)).OwnsEach own (Function.update handles made none) := by
  intro callback owned
  by_cases same : callback = made
  next =>
    subst same
    simpa using cancel_owns (each callback owned)
  next => simpa [same] using cancel_owns_other (each callback owned) (each made mine) same

theorem OwnsEach.create (each : t.OwnsEach own handles) (made : C) (free : handles made = none)
    (ms : Int) :
    (t.create ms false made).2.OwnsEach own
      (Function.update handles made (t.create ms false made).1) := by
  intro callback owned
  by_cases same : callback = made
  next =>
    subst same
    have none := each callback owned
    rw [free] at none
    simpa using create_owns none ms
  next => simpa [same] using create_owns_other (each callback owned) same ms false

theorem OwnsEach.visit {i : Slot} {e : TimerEntry C} (each : t.OwnsEach own handles)
    (found : t.due i = some e) :
    (t.visit i).OwnsEach own (Function.update handles e.callback none) := by
  intro callback owned
  by_cases same : callback = e.callback
  next =>
    subst same
    simpa using visit_owns (each _ owned) found
  next => simpa [same] using visit_owns_other (each callback owned) found (Ne.symm same)

end Each

end TimerTable

end Kerchunk.Core
