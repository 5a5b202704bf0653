import Kerchunk.Core.Timer
import Kerchunk.Lib.Machine
import Mathlib.Algebra.GroupWithZero.Nat
import Mathlib.Data.List.Chain

set_option autoImplicit false

/-!
# The life of a module timer

Runs of `kerchunk_timer_create`, `kerchunk_timer_cancel` and `kerchunk_timer_tick` in any order, with
the callbacks' own calls between the visits of a scan. The table numbers its timers without end; the
id that the callers hold is the `int` of that number, which wraps.
-/

namespace Kerchunk.Core.TimerLives

open TimerTable

variable {C : Type}

/-! ## Ids -/

/-- `g_next_id`, as two's complement counts on. -/
def timerId (number : Nat) : BitVec 32 :=
  BitVec.ofNat 32 number

def named (t : TimerTable C) (id : BitVec 32) : Option (TimerEntry C) :=
  -- The first slot of the table with this id.
  (List.finRange maxTimers).findSome? fun i => (t.slots i).filter fun e => timerId e.id = id

def cancelId (t : TimerTable C) (id : BitVec 32) : TimerTable C :=
  match named t id with
  | some e => t.cancel e.id
  | none => t

/-! ## Lives -/

/-- What has become of a timer since its creation: the ticks that have run it, and whether a cancel of
it has returned. -/
structure Life where
  dueUs : Nat
  intervalMs : Nat
  repeats : Bool
  runs : List Nat
  cancelled : Bool

def Life.nextDue (life : Life) : Option Nat :=
  -- From when on the timer has to run.
  if life.cancelled then none
  else
    match life.runs.getLast? with
    | none => some life.dueUs
    | some t => if life.repeats then some (t + life.intervalMs * 1000) else none

/-- A one-shot timer runs once. Between two runs of a repeating timer its interval passes. -/
structure Life.OnTime (life : Life) : Prop where
  once : life.repeats = false → life.runs.length ≤ 1
  first : ∀ t ∈ life.runs.head?, life.dueUs ≤ t
  spaced : life.runs.IsChain fun t t' => t + life.intervalMs * 1000 ≤ t'

/-- `scan` is the slot that the scan in progress comes to next. -/
structure Wheel (C : Type) where
  table : TimerTable C
  scan : Option Slot
  lives : Nat → Option Life

/-- The calls, the time that passes and the visits of a scan. A caller cancels with the id of the
timer of a number. -/
inductive Input (C : Type) where
  | create (ms : Int) (repeats : Bool) (callback : C)
  | cancel (number : Nat)
  | elapse (us : Nat)
  | tick
  | visit

def nextSlot (i : Slot) : Option Slot :=
  if more : i.val + 1 < maxTimers then some ⟨i.val + 1, more⟩ else none

namespace Wheel

def start : Wheel C :=
  ⟨.init, none, fun _ => none⟩

def create (w : Wheel C) (ms : Int) (repeats : Bool) (callback : C) : Wheel C :=
  match w.table.create ms repeats callback with
  | (some number, table) =>
    { w with
      table := table
      lives := Function.update w.lives number
        (some ⟨w.table.now + ms.toNat * 1000, ms.toNat, repeats, [], false⟩) }
  | (none, table) => { w with table := table }

def cancel (w : Wheel C) (number : Nat) : Wheel C :=
  { w with
    table := cancelId w.table (timerId number)
    lives := Function.update w.lives number
      ((w.lives number).map fun life => { life with cancelled := true }) }

def ran (w : Wheel C) (e : TimerEntry C) : Nat → Option Life :=
  Function.update w.lives e.id
    ((w.lives e.id).map fun life => { life with runs := life.runs ++ [w.table.tickAt] })

def visit (w : Wheel C) : Wheel C :=
  match w.scan with
  | none => w
  | some i =>
    { table := w.table.visit i
      scan := nextSlot i
      lives := match w.table.due i with
        | some e => w.ran e
        | none => w.lives }

def step (w : Wheel C) : Input C → Wheel C
  | .create ms repeats callback => w.create ms repeats callback
  | .cancel number => w.cancel number
  | .elapse us => { w with table := w.table.elapse us }
  | .tick =>
    match w.scan with
    | none => { w with table := w.table.beginTick, scan := some firstSlot }
    | some _ => w
  | .visit => w.visit

end Wheel

/-! ## What the timers promise -/

/-- What a step may do. `punctual` says of the end of a tick that every timer that was due has run: a
timer runs in the first tick at or after its time. -/
structure Lawful (w : Wheel C) (i : Input C) : Prop where
  onTime : ∀ number life, (w.step i).lives number = some life → life.OnTime
  punctual : (w.step i).scan = none → ∀ number life due, (w.step i).lives number = some life →
    life.nextDue = some due → (w.step i).table.tickAt < due
  silenced : ∀ number life life', w.lives number = some life → life.cancelled = true →
    (w.step i).lives number = some life' → life'.runs = life.runs
  spared : ∀ number, i = .cancel number → ∀ e, w.table.Holds e → e.id ≠ number →
    (w.step i).table.Holds e

/-- A cancel finds the timer that its caller means, if any. -/
def Resolves (w : Wheel C) (i : Input C) : Prop :=
  ∀ number, i = .cancel number → ∀ e, named w.table (timerId number) = some e → e.id = number

/-! ## The table keeps the lives -/

structure Agrees (w : Wheel C) : Prop where
  entries : ∀ e, w.table.Holds e → ∃ life, w.lives e.id = some life ∧
    life.nextDue = some e.nextFireUs ∧ life.intervalMs = e.intervalMs ∧ life.repeats = e.repeats
  live : ∀ number life due, w.lives number = some life → life.nextDue = some due →
    ∃ e, w.table.Holds e ∧ e.id = number
  issued : ∀ number life, w.lives number = some life → number < w.table.nextId
  onTime : ∀ number life, w.lives number = some life → life.OnTime
  scanned : ∀ i, w.scan = some i → ∀ j < i, w.table.scanned j = true
  rested : w.scan = none → ∀ e, w.table.Holds e → w.table.tickAt < e.nextFireUs

theorem start_agrees : Agrees (.start : Wheel C) := by
  constructor <;> simp [Wheel.start]

theorem Agrees.nextFire {w : Wheel C} (agrees : Agrees w) {number due : Nat} {life : Life}
    (known : w.lives number = some life) (pending : life.nextDue = some due) :
    ∃ e, w.table.Holds e ∧ e.id = number ∧ e.nextFireUs = due := by
  obtain ⟨e, held, rfl⟩ := agrees.live number life due known pending
  obtain ⟨same, at_, next, _⟩ := agrees.entries e held
  obtain rfl : same = life := Option.some.inj (at_.symm.trans known)
  exact ⟨e, held, rfl, Option.some.inj (next.symm.trans pending)⟩

theorem Agrees.punctual {w : Wheel C} (agrees : Agrees w) (ended : w.scan = none) {number due : Nat}
    {life : Life} (known : w.lives number = some life) (pending : life.nextDue = some due) :
    w.table.tickAt < due := by
  obtain ⟨e, held, _, rfl⟩ := agrees.nextFire known pending
  exact agrees.rested ended e held

/-! ## Creation -/

structure Created (t t' : TimerTable C) (e : TimerEntry C) : Prop where
  number : e.id = t.nextId
  later : t.tickAt < e.nextFireUs
  nextId : t'.nextId = t.nextId + 1
  tickAt : t'.tickAt = t.tickAt
  scanned : t'.scanned = t.scanned
  holds : ∀ f, t'.Holds f ↔ t.Holds f ∨ f = e

theorem create_cases (t : TimerTable C) (ms : Int) (repeats : Bool) (callback : C) :
    t.create ms repeats callback = (none, t) ∨
      ∃ t', t.create ms repeats callback = (some t.nextId, t') ∧
        Created t t' ⟨t.nextId, ms.toNat, repeats, t.now + ms.toNat * 1000, callback⟩ := by
  have holds := create_holds t ms repeats callback
  rw [create] at holds ⊢
  by_cases positive : 0 < ms
  next =>
    cases room : t.freeSlot with
    | none => simp [positive]
    | some i =>
      have clock := t.clock
      simp only [positive, dite_true, room] at holds ⊢
      refine .inr ⟨_, rfl, rfl, ?_, rfl, rfl, rfl, fun f => ?_⟩
      next =>
        simp only
        omega
      next =>
        rw [holds]
        exact or_congr_right ⟨fun made => made.2, fun made => ⟨by rw [made], made⟩⟩
  next => exact .inl (by simp [positive])

theorem create_agrees {w : Wheel C} (agrees : Agrees w) (ms : Int) (repeats : Bool) (callback : C) :
    Agrees (w.create ms repeats callback) := by
  rcases create_cases w.table ms repeats callback with failed | ⟨t', made, created⟩
  next =>
    rw [Wheel.create, failed]
    exact agrees
  next =>
    have older : ∀ e, w.table.Holds e → e.id ≠ w.table.nextId := by
      intro e held
      obtain ⟨i, present⟩ := held
      exact Nat.ne_of_lt (w.table.issued i e present)
    have unknown : w.lives w.table.nextId = none := by
      cases known : w.lives w.table.nextId with
      | none => rfl
      | some life => exact absurd (agrees.issued _ life known) (Nat.lt_irrefl _)
    rw [Wheel.create, made]
    constructor
    case entries =>
      intro e held
      rcases (created.holds e).mp held with old | rfl
      next =>
        simp only [Function.update_of_ne (older e old)]
        exact agrees.entries e old
      next => exact ⟨_, Function.update_self .., by simp [Life.nextDue], rfl, rfl⟩
    case live =>
      intro number life due known pending
      by_cases same : number = w.table.nextId
      next => exact ⟨_, (created.holds _).mpr (.inr rfl), same.symm⟩
      next =>
        simp only [Function.update_of_ne same] at known
        obtain ⟨e, held, number⟩ := agrees.live number life due known pending
        exact ⟨e, (created.holds e).mpr (.inl held), number⟩
    case issued =>
      intro number life known
      simp only [created.nextId]
      by_cases same : number = w.table.nextId
      next => exact same ▸ Nat.lt_succ_self _
      next =>
        simp only [Function.update_of_ne same] at known
        exact Nat.lt_succ_of_lt (agrees.issued number life known)
    case onTime =>
      intro number life known
      by_cases same : number = w.table.nextId
      next =>
        subst same
        simp only [Function.update_self, Option.some.injEq] at known
        subst known
        exact ⟨fun _ => Nat.zero_le 1, by simp, List.IsChain.nil⟩
      next =>
        simp only [Function.update_of_ne same] at known
        exact agrees.onTime number life known
    case scanned =>
      simp only [created.scanned]
      exact agrees.scanned
    case rested =>
      intro ended e held
      simp only [created.tickAt]
      rcases (created.holds e).mp held with old | rfl
      next => exact agrees.rested ended e old
      next => exact created.later

/-! ## Cancelling -/

theorem named_holds {t : TimerTable C} {id : BitVec 32} {e : TimerEntry C}
    (found : named t id = some e) : t.Holds e ∧ timerId e.id = id := by
  obtain ⟨i, _, here⟩ := List.exists_of_findSome?_eq_some found
  have present := Option.filter_eq_some_iff.mp here
  exact ⟨⟨i, present.1⟩, by simpa using present.2⟩

theorem named_none {t : TimerTable C} {id : BitVec 32} (missing : named t id = none)
    {e : TimerEntry C} (held : t.Holds e) : timerId e.id ≠ id := by
  obtain ⟨i, present⟩ := held
  intro same
  have nowhere := List.findSome?_eq_none_iff.mp missing i (List.mem_finRange i)
  simp [present, same] at nowhere

theorem cancelId_holds {t : TimerTable C} {number : Nat}
    (resolves : ∀ e, named t (timerId number) = some e → e.id = number) (e : TimerEntry C) :
    (cancelId t (timerId number)).Holds e ↔ t.Holds e ∧ e.id ≠ number := by
  rw [cancelId]
  cases found : named t (timerId number) with
  | some f => rw [cancel_holds, resolves f found]
  | none =>
    refine ⟨fun held => ⟨held, fun same => named_none found held (same ▸ rfl)⟩, And.left⟩

theorem cancelId_same (t : TimerTable C) (id : BitVec 32) :
    (cancelId t id).nextId = t.nextId ∧ (cancelId t id).tickAt = t.tickAt ∧
      (cancelId t id).scanned = t.scanned := by
  rw [cancelId]
  split <;> exact ⟨rfl, rfl, rfl⟩

theorem cancel_agrees {w : Wheel C} (agrees : Agrees w) {number : Nat}
    (resolves : ∀ e, named w.table (timerId number) = some e → e.id = number) :
    Agrees (w.cancel number) := by
  have holds := cancelId_holds resolves
  obtain ⟨nextId, tickAt, scanned⟩ := cancelId_same w.table (timerId number)
  have lives (other : Nat) (life : Life) (known : (w.cancel number).lives other = some life) :
      (other = number ∧ ∃ before, w.lives number = some before ∧
        life = { before with cancelled := true }) ∨ (other ≠ number ∧ w.lives other = some life) := by
    by_cases same : other = number
    next =>
      subst same
      simp only [Wheel.cancel, Function.update_self, Option.map_eq_some_iff] at known
      obtain ⟨before, known, rfl⟩ := known
      exact .inl ⟨rfl, before, known, rfl⟩
    next =>
      simp only [Wheel.cancel, Function.update_of_ne same] at known
      exact .inr ⟨same, known⟩
  constructor
  case entries =>
    intro e held
    obtain ⟨old, other⟩ := (holds e).mp held
    simp only [Wheel.cancel, Function.update_of_ne other]
    exact agrees.entries e old
  case live =>
    intro other life due known pending
    rcases lives other life known with ⟨_, before, _, rfl⟩ | ⟨different, known⟩
    next => simp [Life.nextDue] at pending
    next =>
      obtain ⟨e, held, rfl⟩ := agrees.live other life due known pending
      exact ⟨e, (holds e).mpr ⟨held, different⟩, rfl⟩
  case issued =>
    intro other life known
    simp only [Wheel.cancel, nextId]
    rcases lives other life known with ⟨rfl, before, known, _⟩ | ⟨_, known⟩
    next => exact agrees.issued _ before known
    next => exact agrees.issued _ life known
  case onTime =>
    intro other life known
    rcases lives other life known with ⟨_, before, earlier, rfl⟩ | ⟨_, known⟩
    next =>
      have before := agrees.onTime _ before earlier
      exact ⟨before.once, before.first, before.spaced⟩
    next => exact agrees.onTime _ life known
  case scanned =>
    simp only [Wheel.cancel, scanned]
    exact agrees.scanned
  case rested =>
    intro ended e held
    simp only [Wheel.cancel, tickAt]
    exact agrees.rested ended e ((holds e).mp held).1


/-! ## The scan -/

theorem elapse_agrees {w : Wheel C} (agrees : Agrees w) (us : Nat) :
    Agrees { w with table := w.table.elapse us } :=
  ⟨agrees.entries, agrees.live, agrees.issued, agrees.onTime, agrees.scanned, agrees.rested⟩

theorem beginTick_agrees {w : Wheel C} (agrees : Agrees w) :
    Agrees { w with table := w.table.beginTick, scan := some firstSlot } := by
  refine ⟨agrees.entries, agrees.live, agrees.issued, agrees.onTime, ?_, ?_⟩
  next =>
    intro i first j below
    obtain rfl := Option.some.inj first
    exact absurd below (Nat.not_lt_zero _)
  next =>
    intro ended
    cases ended

theorem Life.OnTime.run {life : Life} (before : life.OnTime) {due t : Nat}
    (pending : life.nextDue = some due) (late : due ≤ t) :
    ({ life with runs := life.runs ++ [t] } : Life).OnTime := by
  rw [Life.nextDue] at pending
  split at pending
  next => cases pending
  next =>
    split at pending
    next fresh =>
      have unused : life.runs = [] := List.getLast?_eq_none_iff.mp fresh
      obtain rfl := Option.some.inj pending
      constructor
      case once => simp [unused]
      case first => simpa [unused] using late
      case spaced => simp [unused]
    next last known =>
      split at pending
      next repeating =>
        obtain rfl := Option.some.inj pending
        constructor
        case once => simp [repeating]
        case first =>
          intro first leads
          refine before.first first ?_
          cases runs : life.runs with
          | nil => simp [runs] at known
          | cons head rest => simpa [runs] using leads
        case spaced =>
          refine List.isChain_append.mpr ⟨before.spaced, List.isChain_singleton _, ?_⟩
          intro a isLast b isNew
          simp only [known, Option.mem_def, Option.some.injEq] at isLast
          simp only [List.head?_cons, Option.mem_def, Option.some.injEq] at isNew
          simp only
          omega
      next => cases pending

theorem nextSlot_below {i k : Slot} (next : nextSlot i = some k) {j : Slot} (below : j < k) :
    j < i ∨ j = i := by
  rw [nextSlot] at next
  split at next
  next =>
    obtain rfl := Option.some.inj next
    simp only [Fin.lt_def, Fin.ext_iff] at below ⊢
    omega
  next => cases next

theorem nextSlot_last {i : Slot} (last : nextSlot i = none) (j : Slot) : j < i ∨ j = i := by
  rw [nextSlot] at last
  split at last
  next => cases last
  next full =>
    have bound := j.isLt
    simp only [Fin.lt_def, Fin.ext_iff]
    omega

theorem visit_scanned (t : TimerTable C) {i j : Slot} (passed : j < i → t.scanned j = true)
    (reached : j < i ∨ j = i) : (t.visit i).scanned j = true := by
  rcases reached with below | rfl
  next =>
    have other : j ≠ i := Fin.ne_of_lt below
    simpa [visit, other] using passed below
  next => simp [visit]

/-- What the entries and the lives of the table after a visit have to be for the scan to go on. -/
theorem visit_agrees_of {w : Wheel C} (agrees : Agrees w) {i : Slot} (here : w.scan = some i)
    {lives : Nat → Option Life}
    (entries : ∀ e, (w.table.visit i).Holds e → ∃ life, lives e.id = some life ∧
      life.nextDue = some e.nextFireUs ∧ life.intervalMs = e.intervalMs ∧ life.repeats = e.repeats)
    (live : ∀ number life due, lives number = some life → life.nextDue = some due →
      ∃ e, (w.table.visit i).Holds e ∧ e.id = number)
    (issued : ∀ number life, lives number = some life → number < w.table.nextId)
    (onTime : ∀ number life, lives number = some life → life.OnTime) :
    Agrees ⟨w.table.visit i, nextSlot i, lives⟩ := by
  refine ⟨entries, live, issued, onTime, ?_, ?_⟩
  next =>
    intro k next j below
    exact visit_scanned w.table (agrees.scanned i here j) (nextSlot_below next below)
  next =>
    intro last e held
    exact holds_swept
      (fun j => visit_scanned w.table (agrees.scanned i here j) (nextSlot_last last j)) held

theorem visit_agrees {w : Wheel C} (agrees : Agrees w) : Agrees w.visit := by
  rw [Wheel.visit]
  cases here : w.scan with
  | none => exact agrees
  | some i =>
    simp only
    cases found : w.table.due i with
    | none =>
      have holds (e : TimerEntry C) : (w.table.visit i).Holds e ↔ w.table.Holds e := by
        simp [visit_holds, found]
      refine visit_agrees_of agrees here ?_ ?_ agrees.issued agrees.onTime
      next =>
        intro e held
        exact agrees.entries e ((holds e).mp held)
      next =>
        intro number life due known pending
        obtain ⟨e, held, named⟩ := agrees.live number life due known pending
        exact ⟨e, (holds e).mpr held, named⟩
    | some f =>
      have holds (e : TimerEntry C) : (w.table.visit i).Holds e ↔
          (w.table.Holds e ∧ f.id ≠ e.id) ∨ (f.repeats = true ∧ e = w.table.reschedule f) := by
        simp [visit_holds, found]
      obtain ⟨life, known, pending, interval, repeats⟩ := agrees.entries f (due_holds found)
      have onTime := agrees.onTime f.id life known
      have late := due_fires found
      have active : life.cancelled = false := by
        by_contra off
        simp [Life.nextDue, off] at pending
      have other {number : Nat} (distinct : number ≠ f.id) :
          w.ran f number = w.lives number := Function.update_of_ne distinct ..
      have same : w.ran f f.id = some { life with runs := life.runs ++ [w.table.tickAt] } := by
        simp [Wheel.ran, known]
      change Agrees ⟨w.table.visit i, nextSlot i, w.ran f⟩
      refine visit_agrees_of agrees here ?_ ?_ ?_ ?_
      next =>
        intro e held
        rcases (holds e).mp held with ⟨old, distinct⟩ | ⟨again, rfl⟩
        next =>
          rw [other (Ne.symm distinct)]
          exact agrees.entries e old
        next =>
          refine ⟨_, same, ?_, interval, repeats⟩
          simp [Life.nextDue, active, repeats, again, interval, reschedule]
      next =>
        intro number life' due after next
        by_cases mine : number = f.id
        next =>
          subst mine
          obtain rfl := Option.some.inj (same.symm.trans after)
          have again : f.repeats = true ∧ w.table.tickAt + life.intervalMs * 1000 = due := by
            simpa [Life.nextDue, active, repeats] using next
          exact ⟨w.table.reschedule f, (holds _).mpr (.inr ⟨again.1, rfl⟩), rfl⟩
        next =>
          rw [other mine] at after
          obtain ⟨e, held, rfl⟩ := agrees.live number life' due after next
          exact ⟨e, (holds e).mpr (.inl ⟨held, Ne.symm mine⟩), rfl⟩
      next =>
        intro number life' after
        by_cases mine : number = f.id
        next => exact mine ▸ agrees.issued f.id life known
        next =>
          rw [other mine] at after
          exact agrees.issued number life' after
      next =>
        intro number life' after
        by_cases mine : number = f.id
        next =>
          subst mine
          obtain rfl := Option.some.inj (same.symm.trans after)
          exact onTime.run pending late
        next =>
          rw [other mine] at after
          exact agrees.onTime number life' after

theorem step_agrees {w : Wheel C} (agrees : Agrees w) {i : Input C} (resolves : Resolves w i) :
    Agrees (w.step i) := by
  cases i with
  | create ms repeats callback => exact create_agrees agrees ms repeats callback
  | cancel number => exact cancel_agrees agrees (resolves number rfl)
  | elapse us => exact elapse_agrees agrees us
  | tick =>
    rw [Wheel.step]
    cases w.scan with
    | none => exact beginTick_agrees agrees
    | some i => exact agrees
  | visit => exact visit_agrees agrees

/-! ## Lawful runs -/

theorem cancelled_stays {w : Wheel C} (agrees : Agrees w) (i : Input C) {number : Nat}
    {life life' : Life} (known : w.lives number = some life) (off : life.cancelled = true)
    (after : (w.step i).lives number = some life') : life'.runs = life.runs := by
  have unchanged (same : (w.step i).lives number = w.lives number) : life'.runs = life.runs := by
    rw [same, known] at after
    rw [Option.some.inj after]
  cases i with
  | create ms repeats callback =>
    refine unchanged ?_
    have older := Nat.ne_of_lt (agrees.issued number life known)
    rw [Wheel.step, Wheel.create]
    rcases create_cases w.table ms repeats callback with failed | ⟨t', made, _⟩
    next => rw [failed]
    next => simp [made, older]
  | cancel other =>
    by_cases same : number = other
    next =>
      subst same
      simp only [Wheel.step, Wheel.cancel, Function.update_self, known, Option.map_some,
        Option.some.injEq] at after
      rw [← after]
    next => exact unchanged (Function.update_of_ne same ..)
  | elapse us => exact unchanged rfl
  | tick =>
    refine unchanged ?_
    rw [Wheel.step]
    cases w.scan <;> rfl
  | visit =>
    refine unchanged ?_
    rw [Wheel.step, Wheel.visit]
    cases w.scan with
    | none => rfl
    | some i =>
      simp only
      cases found : w.table.due i with
      | none => rfl
      | some e =>
        have other : number ≠ e.id := by
          rintro rfl
          obtain ⟨same, at_, pending, _⟩ := agrees.entries e (due_holds found)
          obtain rfl := Option.some.inj (at_.symm.trans known)
          simp [Life.nextDue, off] at pending
        exact Function.update_of_ne other ..

theorem step_lawful {w : Wheel C} (agrees : Agrees w) (i : Input C) :
    Lawful w i ↔ Resolves w i := by
  constructor
  next =>
    -- A cancel that finds another timer takes it out of the table.
    rintro lawful number rfl e found
    by_contra other
    have held := lawful.spared number rfl e (named_holds found).1 other
    simp only [Wheel.step, Wheel.cancel, cancelId, found, cancel_holds] at held
    exact held.2 rfl
  next =>
    intro resolves
    have after := step_agrees agrees resolves
    constructor
    case onTime => exact after.onTime
    case punctual =>
      intro ended number life due known pending
      exact after.punctual ended known pending
    case silenced =>
      intro number life life' known off later
      exact cancelled_stays agrees i known off later
    case spared =>
      rintro number rfl e held other
      exact (cancelId_holds (resolves number rfl) e).mpr ⟨held, other⟩

/-- Every run of the timers is lawful if and only if no cancel in it finds a timer that was created a
multiple of 2^32 creations before or after the one it means. -/
theorem timers_lawful (inputs : List (Input C)) :
    Machine.Guarded Wheel.step Lawful .start inputs ↔
      Machine.Guarded Wheel.step Resolves .start inputs :=
  Machine.guarded_iff_of_invariant Wheel.step (P := Agrees) (fun _ i agrees => step_lawful agrees i)
    (fun _ _ agrees resolves => step_agrees agrees resolves) start_agrees

/-! ## A stale id -/

def rounds (callback : C) : Nat → List (Input C)
  -- A timer is created and cancelled, over and over.
  | 0 => []
  | n + 1 => rounds callback n ++ [.create 1 false callback, .cancel (n + 1)]

theorem create_alone {w : Wheel C} (empty : ∀ e, ¬ w.table.Holds e) (callback : C) :
    ∃ e, e.id = w.table.nextId ∧
      (w.create 1 false callback).table.nextId = w.table.nextId + 1 ∧
        ∀ f, (w.create 1 false callback).table.Holds f ↔ f = e := by
  have room : w.table.HasRoom := by
    refine ⟨firstSlot, ?_⟩
    cases present : w.table.slots firstSlot with
    | none => rfl
    | some e => exact absurd ⟨firstSlot, present⟩ (empty e)
  rcases create_cases w.table 1 false callback with failed | ⟨t', made, created⟩
  next =>
    have issued := create_fst w.table 1 false callback
    simp [failed, room] at issued
  next =>
    rw [Wheel.create, made]
    refine ⟨_, created.number, created.nextId, fun f => ?_⟩
    rw [created.holds, or_iff_right (empty f)]

theorem run_rounds (callback : C) (n : Nat) :
    (∀ e, ¬ (Machine.run Wheel.step .start (rounds callback n)).table.Holds e) ∧
      (Machine.run Wheel.step .start (rounds callback n)).table.nextId = n + 1 := by
  induction n with
  | zero => exact ⟨init_holds, rfl⟩
  | succ n ih =>
    obtain ⟨empty, next⟩ := ih
    rw [rounds, Machine.run_append]
    generalize Machine.run Wheel.step .start (rounds callback n) = w at empty next
    obtain ⟨e, number, later, alone⟩ := create_alone empty callback
    have resolves (f : TimerEntry C)
        (found : named (w.create 1 false callback).table (timerId (n + 1)) = some f) :
        f.id = n + 1 := by
      rw [(alone f).mp (named_holds found).1, number, next]
    simp only [Machine.run_cons, Machine.run_nil, Wheel.step]
    constructor
    next =>
      intro f held
      obtain ⟨old, other⟩ := (cancelId_holds resolves f).mp held
      refine other ?_
      rw [(alone f).mp old, number, next]
    next =>
      change (cancelId _ _).nextId = _
      rw [(cancelId_same _ _).1, later, next]

theorem stale_unlawful (callback : C) {n : Nat} (old : n ≠ 0) (wraps : timerId (n + 1) = timerId 1) :
    ¬ Machine.Guarded Wheel.step Lawful .start
      (rounds callback n ++ [.create 1 false callback, .cancel 1]) := by
  obtain ⟨empty, next⟩ := run_rounds callback n
  rw [Machine.guarded_append]
  generalize Machine.run Wheel.step .start (rounds callback n) = w at empty next
  obtain ⟨e, number, _, alone⟩ := create_alone empty callback
  rintro ⟨_, _, last, _⟩
  have held := (alone e).mpr rfl
  have stays := last.spared 1 rfl e held (by omega)
  -- The table holds no other timer, and the id of this one is that of the first.
  have only (f : TimerEntry C) (here : (w.create 1 false callback).table.Holds f) : f = e :=
    (alone f).mp here
  cases found : named (w.create 1 false callback).table (timerId 1) with
  | none =>
    refine named_none found held ?_
    rw [number, next, wraps]
  | some f =>
    have same := only f (named_holds found).1
    simp only [Wheel.step, Wheel.cancel, cancelId, found, cancel_holds] at stays
    exact stays.2 (by rw [same])

/-- After 2^32 creations the id of the first timer is given out again. -/
theorem stale_id_cancels :
    ¬ Machine.Guarded Wheel.step Lawful (.start : Wheel Unit)
      (rounds () (2 ^ 32) ++ [.create 1 false (), .cancel 1]) :=
  stale_unlawful () (by decide) (by decide)

end Kerchunk.Core.TimerLives
