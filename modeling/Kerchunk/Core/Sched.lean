import Kerchunk.Lib.Machine
import Kerchunk.Lib.Tables

set_option autoImplicit false

/-!
# Wall-clock schedules (`src/kerchunk_sched.c`)

A tick copies the entries that are due and then runs their callbacks, one after the other. What a
callback does, and what other threads do, comes between two of these steps. Event ids are not
bounded here, and the clock may be set back.
-/

namespace Kerchunk.Core.Sched

open SlotTable (occupied)

def maxSchedules : Nat := 64

structure Timespec where
  sec : Int
  nsec : Int
deriving DecidableEq

def tsCmp (a b : Timespec) : Int :=
  if a.sec ≠ b.sec then if a.sec < b.sec then -1 else 1
  else if a.nsec ≠ b.nsec then if a.nsec < b.nsec then -1 else 1
  else 0

variable {C : Type}

/-- `round` tells the due times of an event apart; the source does not have it. -/
structure SchedEntry (C : Type) where
  id : Nat
  round : Nat
  repeats : Bool
  alignMs : Int
  offsetMs : Int
  fireTime : Timespec
  callback : C
deriving DecidableEq

def epochMs (now : Timespec) : Int :=
  now.sec * 1000 + now.nsec.tdiv 1000000

def advance (align epoch : Int) : Nat → Int → Int
  -- `while (next <= epoch_ms) next += align`
  | 0, next => next
  | turns + 1, next => if next ≤ epoch then advance align epoch turns (next + align) else next

def nextBoundary (align offset epoch : Int) : Int :=
  let next := (epoch.tdiv align + 1) * align + offset
  advance align epoch (epoch + 1 - next).toNat next

def computeNextBoundary (e : SchedEntry C) (now : Timespec) : SchedEntry C :=
  let next := nextBoundary e.alignMs e.offsetMs (epochMs now)
  { e with fireTime := ⟨next.tdiv 1000, next.tmod 1000 * 1000000⟩ }

/-- `fire` is what the tick in progress has still to run. `due` notes the entries that ticks have
copied, `ran` those whose callback was called, `cancelled` the events that were cancelled and `late`
the calls after a cancel. `tickFrom` and `tickRan` are the next id at the start of the last tick and
what it has run. -/
structure State (C : Type) where
  slots : List (Option (SchedEntry C))
  nextId : Nat
  fire : List (SchedEntry C)
  due : List (SchedEntry C)
  ran : List (SchedEntry C)
  cancelled : List Nat
  late : List (SchedEntry C)
  tickFrom : Nat
  tickRan : List (SchedEntry C)
deriving DecidableEq

def schedInit : State C where
  slots := List.replicate maxSchedules none
  nextId := 1
  fire := []
  due := []
  ran := []
  cancelled := []
  late := []
  tickFrom := 1
  tickRan := []

def insert (s : State C) (e : SchedEntry C) : State C × Option Nat :=
  match SlotTable.add e s.slots with
  | none => (s, none)
  | some slots => ({ s with slots := slots, nextId := s.nextId + 1 }, some e.id)

def schedAt (s : State C) (when : Timespec) (callback : C) : State C × Option Nat :=
  insert s
    { id := s.nextId
      round := 0
      repeats := false
      alignMs := 0
      offsetMs := 0
      fireTime := when
      callback := callback }

def schedAligned (s : State C) (alignMs offsetMs : Int) (repeats : Bool) (callback : C)
    (now : Timespec) : State C × Option Nat :=
  if alignMs ≤ 0 then (s, none)
  else
    insert s
      (computeNextBoundary
        { id := s.nextId
          round := 0
          repeats := repeats
          alignMs := alignMs
          offsetMs := offsetMs
          fireTime := ⟨0, 0⟩
          callback := callback } now)

def schedCancel (s : State C) (id : Nat) : State C :=
  { s with
    slots := SlotTable.alter (fun e => e.id = id) (fun _ => none) s.slots
    cancelled := if id < s.nextId then s.cancelled ++ [id] else s.cancelled }

def SchedEntry.Due (now : Timespec) (e : SchedEntry C) : Prop :=
  tsCmp now e.fireTime ≥ 0

instance (now : Timespec) (e : SchedEntry C) : Decidable (e.Due now) :=
  inferInstanceAs (Decidable (_ ≥ _))

def SchedEntry.pass (now later : Timespec) (e : SchedEntry C) : Option (SchedEntry C) :=
  -- What the scan leaves of an entry; `later` is the clock when the next boundary is computed.
  if e.Due now then
    if e.repeats = true ∧ e.alignMs > 0 then
      some (computeNextBoundary { e with round := e.round + 1 } later)
    else none
  else some e

def State.active (s : State C) : List (SchedEntry C) :=
  occupied s.slots

def schedTick (s : State C) (now : Timespec) (later : Nat → Timespec) : State C :=
  -- Up to the unlock.
  let fire := s.active.filter fun e => e.Due now
  { s with
    slots := s.slots.map (·.bind fun e => e.pass now (later e.id))
    fire := fire
    due := s.due ++ fire
    tickFrom := s.nextId
    tickRan := [] }

def runNext (s : State C) : State C :=
  match s.fire with
  | [] => s
  | e :: rest =>
    { s with
      fire := rest
      ran := s.ran ++ [e]
      late := if e.id ∈ s.cancelled then s.late ++ [e] else s.late
      tickRan := s.tickRan ++ [e] }

inductive Input (C : Type) where
  | schedAt (when : Timespec) (callback : C)
  | aligned (alignMs offsetMs : Int) (repeats : Bool) (callback : C) (now : Timespec)
  | cancel (id : Nat)
  | tick (now : Timespec) (later : Nat → Timespec)
  | runNext
  | shutdown

def step (s : State C) : Input C → State C
  | .schedAt when callback => (schedAt s when callback).1
  | .aligned alignMs offsetMs repeats callback now =>
    (schedAligned s alignMs offsetMs repeats callback now).1
  | .cancel id => schedCancel s id
  -- A tick begins when the one before is over.
  | .tick now later => if s.fire = [] then schedTick s now later else s
  | .runNext => runNext s
  | .shutdown => { s with slots := s.slots.map fun _ => none }

/-! ## What is asked of it -/

def SchedEntry.occurrence (e : SchedEntry C) : Nat × Nat :=
  (e.id, e.round)

/-- Nothing runs after its cancel, everything due runs once, and a tick runs what was registered
before it, each event at most once. -/
structure Exact (s : State C) : Prop where
  cancelled : s.late = []
  complete : ∀ e ∈ s.due, e ∈ s.ran ∨ e ∈ s.fire
  founded : ∀ e ∈ s.ran, e ∈ s.due
  once : (s.ran.map SchedEntry.occurrence).Nodup
  earlier : ∀ e ∈ s.tickRan ++ s.fire, e.id < s.tickFrom
  tickOnce : ((s.tickRan ++ s.fire).map SchedEntry.id).Nodup

/-- A tick finds every entry that is due, and nothing else is added to those. -/
def Scans (s : State C) (i : Input C) : Prop :=
  match i with
  | .tick now _ => s.fire = [] → ∀ e, e ∈ (step s i).fire ↔ e ∈ s.active ∧ e.Due now
  | _ => ∀ e ∈ (step s i).fire, e ∈ s.fire

def Input.Proper (s : State C) : Input C → Prop
  -- No event is cancelled that the tick in progress has still to run.
  | .cancel id => ∀ e ∈ s.fire, e.id ≠ id
  | _ => True

instance (s : State C) (i : Input C) : Decidable (i.Proper s) := by
  unfold Input.Proper
  split <;> infer_instance

structure Sound (s : State C) : Prop where
  late : s.late = []
  due : s.due = s.ran ++ s.fire
  once : (s.due.map SchedEntry.occurrence).Nodup
  distinct : (s.active.map SchedEntry.id).Nodup
  issued : ∀ e, e ∈ s.active ∨ e ∈ s.due → e.id < s.nextId
  begun : s.tickFrom ≤ s.nextId
  known : ∀ id ∈ s.cancelled, id < s.nextId
  rounds : ∀ e ∈ s.active, ∀ d ∈ s.due, d.id = e.id → d.round < e.round
  standing : ∀ e, e ∈ s.active ∨ e ∈ s.fire → e.id ∉ s.cancelled
  earlier : ∀ e ∈ s.tickRan ++ s.fire, e.id < s.tickFrom
  tickOnce : ((s.tickRan ++ s.fire).map SchedEntry.id).Nodup

theorem Sound.exact {s : State C} (sound : Sound s) : Exact s where
  cancelled := sound.late
  complete := by
    intro e copied
    rw [sound.due] at copied
    exact List.mem_append.mp copied
  founded := by
    intro e ran
    rw [sound.due]
    exact List.mem_append_left _ ran
  once := by
    have once := sound.once
    rw [sound.due, List.map_append] at once
    exact (List.nodup_append.mp once).1
  earlier := sound.earlier
  tickOnce := sound.tickOnce

/-! ## The entries after an operation -/

theorem pass_cases {now later : Timespec} {e f : SchedEntry C} (passed : e.pass now later = some f) :
    f.id = e.id ∧ ((¬ e.Due now ∧ f = e) ∨ (e.Due now ∧ f.round = e.round + 1)) := by
  unfold SchedEntry.pass at passed
  split at passed
  next due =>
    split at passed
    next =>
      cases passed
      exact ⟨rfl, .inr ⟨due, rfl⟩⟩
    next => cases passed
  next early =>
    cases passed
    exact ⟨rfl, .inl ⟨early, rfl⟩⟩

theorem cancel_active {s : State C} (sound : Sound s) (id : Nat) :
    (schedCancel s id).active =
      s.active.filterMap fun e => if e.id = id then none else some e := by
  have here (e : SchedEntry C) : decide (e.id = id) = true ↔ e.id = id := decide_eq_true_iff
  refine (SlotTable.occupied_alter _ here sound.distinct).trans (List.filterMap_congr fun e _ => ?_)
  simp

theorem mem_cancel {s : State C} (sound : Sound s) {id : Nat} {e : SchedEntry C} :
    e ∈ (schedCancel s id).active ↔ e ∈ s.active ∧ e.id ≠ id := by
  rw [cancel_active sound, List.mem_filterMap]
  constructor
  next =>
    rintro ⟨f, listed, kept⟩
    split at kept
    next => cases kept
    next other =>
      cases kept
      exact ⟨listed, other⟩
  next =>
    rintro ⟨listed, other⟩
    exact ⟨e, listed, by simp [other]⟩

theorem tick_active (s : State C) (now : Timespec) (later : Nat → Timespec) :
    (schedTick s now later).active = s.active.filterMap fun e => e.pass now (later e.id) :=
  SlotTable.occupied_map ..

theorem mem_due {s : State C} {now : Timespec} {e : SchedEntry C} :
    (e ∈ s.active.filter fun e => e.Due now) ↔ e ∈ s.active ∧ e.Due now := by
  simp

/-! ## One operation -/

theorem insert_sound {s : State C} (sound : Sound s) {e : SchedEntry C} (new : e.id = s.nextId) :
    Sound (insert s e).1 := by
  unfold insert
  split
  next => exact sound
  next slots added =>
    have members (f : SchedEntry C) : f ∈ occupied slots ↔ f = e ∨ f ∈ s.active :=
      SlotTable.mem_add added
    constructor
    next => exact sound.late
    next => exact sound.due
    next => exact sound.once
    next =>
      refine ((SlotTable.add_perm added).map SchedEntry.id).nodup_iff.mpr
        (List.nodup_cons.mpr ⟨?_, sound.distinct⟩)
      intro listed
      obtain ⟨f, active, same⟩ := List.mem_map.mp listed
      have := sound.issued f (.inl active)
      omega
    next =>
      rintro f (active | copied)
      next =>
        rcases (members f).mp active with rfl | before
        next => exact Nat.lt_succ_of_le (Nat.le_of_eq new)
        next => exact Nat.lt_succ_of_lt (sound.issued f (.inl before))
      next => exact Nat.lt_succ_of_lt (sound.issued f (.inr copied))
    next => exact Nat.le_succ_of_le sound.begun
    next => exact fun id cancelled => Nat.lt_succ_of_lt (sound.known id cancelled)
    next =>
      intro f active d copied same
      rcases (members f).mp active with rfl | before
      next =>
        have := sound.issued d (.inr copied)
        omega
      next => exact sound.rounds f before d copied same
    next =>
      rintro f (active | waiting)
      next =>
        rcases (members f).mp active with rfl | before
        next =>
          intro cancelled
          have := sound.known _ cancelled
          omega
        next => exact sound.standing f (.inl before)
      next => exact sound.standing f (.inr waiting)
    next => exact sound.earlier
    next => exact sound.tickOnce

theorem cancel_sound {s : State C} (sound : Sound s) {id : Nat} (proper : ∀ e ∈ s.fire, e.id ≠ id) :
    Sound (schedCancel s id) := by
  have named (e : SchedEntry C) (other : e.id ≠ id) (standing : e.id ∉ s.cancelled) :
      e.id ∉ (schedCancel s id).cancelled := by
    simp only [schedCancel]
    split
    next => simp [standing, other]
    next => exact standing
  constructor
  next => exact sound.late
  next => exact sound.due
  next => exact sound.once
  next =>
    rw [cancel_active sound]
    refine sound.distinct.sublist (SlotTable.keys_filterMap _ ?_ _)
    intro a b kept
    split at kept <;> cases kept
    rfl
  next =>
    rintro e (active | copied)
    next => exact sound.issued e (.inl ((mem_cancel sound).mp active).1)
    next => exact sound.issued e (.inr copied)
  next => exact sound.begun
  next =>
    intro other cancelled
    simp only [schedCancel] at cancelled
    split at cancelled
    next fresh =>
      rcases List.mem_append.mp cancelled with before | now
      next => exact sound.known other before
      next => exact List.mem_singleton.mp now ▸ fresh
    next => exact sound.known other cancelled
  next => exact fun e active => sound.rounds e ((mem_cancel sound).mp active).1
  next =>
    rintro e (active | waiting)
    next =>
      have ⟨before, other⟩ := (mem_cancel sound).mp active
      exact named e other (sound.standing e (.inl before))
    next => exact named e (proper e waiting) (sound.standing e (.inr waiting))
  next => exact sound.earlier
  next => exact sound.tickOnce

theorem tick_sound {s : State C} (sound : Sound s) (ended : s.fire = []) (now : Timespec)
    (later : Nat → Timespec) : Sound (schedTick s now later) := by
  have kept (a b : SchedEntry C) (passed : a.pass now (later a.id) = some b) : b.id = a.id :=
    (pass_cases passed).1
  have found {e : SchedEntry C} (listed : e ∈ (schedTick s now later).fire) :
      e ∈ s.active ∧ e.Due now := mem_due.mp listed
  have fireOnce : ((schedTick s now later).fire.map SchedEntry.id).Nodup :=
    sound.distinct.sublist (List.filter_sublist.map _)
  constructor
  next => exact sound.late
  next => simp [schedTick, sound.due, ended]
  next =>
    -- The rounds of the new ones are later than those of the same events before.
    rw [schedTick, List.map_append, List.nodup_append]
    refine ⟨sound.once, ?_, ?_⟩
    next =>
      refine List.Nodup.of_map Prod.fst ?_
      rw [List.map_map]
      exact fireOnce
    next =>
      intro first before second after same
      obtain ⟨d, copied, rfl⟩ := List.mem_map.mp before
      obtain ⟨e, listed, rfl⟩ := List.mem_map.mp after
      obtain ⟨ids, rounds⟩ := Prod.mk.inj same
      have := sound.rounds e (found listed).1 d copied ids
      omega
  next =>
    rw [tick_active]
    exact sound.distinct.sublist (SlotTable.keys_filterMap _ kept _)
  next =>
    rintro e (active | copied)
    next =>
      rw [tick_active] at active
      obtain ⟨a, before, passed⟩ := List.mem_filterMap.mp active
      rw [kept a e passed]
      exact sound.issued a (.inl before)
    next =>
      rcases List.mem_append.mp copied with before | listed
      next => exact sound.issued e (.inr before)
      next => exact sound.issued e (.inl (found listed).1)
  next => exact Nat.le_refl _
  next => exact sound.known
  next =>
    intro e active d copied same
    rw [tick_active] at active
    obtain ⟨a, before, passed⟩ := List.mem_filterMap.mp active
    obtain ⟨ids, outcome⟩ := pass_cases passed
    rcases List.mem_append.mp copied with earlier | listed
    next =>
      have := sound.rounds a before d earlier (same.trans ids)
      rcases outcome with ⟨-, rfl⟩ | ⟨-, round⟩ <;> omega
    next =>
      have here := found listed
      obtain rfl : d = a := List.inj_on_of_nodup_map sound.distinct here.1 before (same.trans ids)
      rcases outcome with ⟨early, -⟩ | ⟨-, round⟩
      next => exact absurd here.2 early
      next => omega
  next =>
    rintro e (active | listed)
    next =>
      rw [tick_active] at active
      obtain ⟨a, before, passed⟩ := List.mem_filterMap.mp active
      rw [kept a e passed]
      exact sound.standing a (.inl before)
    next => exact sound.standing e (.inl (found listed).1)
  next => exact fun e listed => sound.issued e (.inl (found listed).1)
  next => exact fireOnce

theorem runNext_sound {s : State C} (sound : Sound s) : Sound (runNext s) := by
  unfold runNext
  split
  next => exact sound
  next e rest waiting =>
    have head : e ∈ s.fire := by simp [waiting]
    have tail {f : SchedEntry C} (left : f ∈ rest) : f ∈ s.fire := by simp [waiting, left]
    have same : (s.tickRan ++ [e]) ++ rest = s.tickRan ++ s.fire := by simp [waiting]
    constructor
    next => simp [sound.standing e (.inr head), sound.late]
    next => simp [sound.due, waiting]
    next => exact sound.once
    next => exact sound.distinct
    next => exact sound.issued
    next => exact sound.begun
    next => exact sound.known
    next => exact sound.rounds
    next => exact fun f cause => sound.standing f (cause.imp_right tail)
    next =>
      rw [same]
      exact sound.earlier
    next =>
      rw [same]
      exact sound.tickOnce

theorem shutdown_sound {s : State C} (sound : Sound s) : Sound (step s .shutdown) := by
  have empty : (step s .shutdown).active = [] := SlotTable.occupied_clear s.slots
  constructor
  next => exact sound.late
  next => exact sound.due
  next => exact sound.once
  next => simp [empty]
  next => exact fun e cause => sound.issued e (.inr (cause.resolve_left (by simp [empty])))
  next => exact sound.begun
  next => exact sound.known
  next => simp [empty]
  next => exact fun e cause => sound.standing e (.inr (cause.resolve_left (by simp [empty])))
  next => exact sound.earlier
  next => exact sound.tickOnce

theorem step_sound {s : State C} (sound : Sound s) {i : Input C} (proper : i.Proper s) :
    Sound (step s i) := by
  cases i with
  | schedAt time callback => exact insert_sound sound rfl
  | aligned alignMs offsetMs repeats callback now =>
    simp only [step, schedAligned]
    split
    next => exact sound
    next => exact insert_sound sound rfl
  | cancel id => exact cancel_sound sound proper
  | tick now later =>
    simp only [step]
    split
    next ended => exact tick_sound sound ended now later
    next => exact sound
  | runNext => exact runNext_sound sound
  | shutdown => exact shutdown_sound sound

theorem insert_fire (s : State C) (e : SchedEntry C) : (insert s e).1.fire = s.fire := by
  unfold insert
  split <;> rfl

theorem step_scans (s : State C) (i : Input C) : Scans s i := by
  cases i with
  | schedAt time callback => simp [Scans, step, schedAt, insert_fire]
  | aligned alignMs offsetMs repeats callback now =>
    simp only [Scans, step, schedAligned]
    split
    next => exact fun _ listed => listed
    next => simp [insert_fire]
  | cancel id => exact fun _ listed => listed
  | tick now later =>
    intro ended e
    simp [step, ended, schedTick]
  | runNext =>
    simp only [Scans, step, runNext]
    split
    next => exact fun _ listed => listed
    next waiting =>
      intro e left
      rw [waiting]
      exact List.mem_cons_of_mem _ left
  | shutdown => exact fun _ listed => listed

theorem init_sound : Sound (schedInit : State C) := by
  constructor <;> simp [schedInit, State.active]

/-- In every run that cancels nothing which the tick in progress has still to run, callbacks run
once for each due time and never after a cancel. -/
theorem sched_exact (inputs : List (Input C))
    (proper : Machine.Guarded step (fun s i => i.Proper s) schedInit inputs) :
    Machine.Guarded step (fun s i => Exact (step s i) ∧ Scans s i) schedInit inputs :=
  Machine.guarded_of_invariant step (P := Sound)
    (fun s i sound ok =>
      have after := step_sound sound ok
      ⟨after, after.exact, step_scans s i⟩) init_sound proper

/-- Two events at one time, and a reload between two ticks. -/
def reloads : List (Input Nat) :=
  [.schedAt ⟨10, 0⟩ 1, .aligned 1000 0 true 2 ⟨9, 500000000⟩, .tick ⟨10, 1⟩ fun _ => ⟨10, 2⟩,
    .runNext, .cancel 1, .schedAt ⟨10, 0⟩ 1, .runNext, .cancel 2,
    .aligned 2000 0 true 2 ⟨10, 3⟩, .tick ⟨12, 0⟩ fun _ => ⟨12, 1⟩, .runNext, .runNext]

theorem reloads_exact :
    Machine.Guarded step (fun s i => Exact (step s i) ∧ Scans s i) schedInit reloads :=
  sched_exact reloads (by decide)

/-- A callback that cancels another event of the same tick does not keep it from running. -/
theorem cancelled_runs :
    ¬ ∀ inputs : List (Input Nat),
      Machine.Guarded step (fun s i => Exact (step s i) ∧ Scans s i) schedInit inputs := by
  intro always
  have guarded := always
    [.schedAt ⟨10, 0⟩ 1, .schedAt ⟨10, 0⟩ 2, .tick ⟨10, 0⟩ fun _ => ⟨10, 0⟩, .runNext, .cancel 2,
      .runNext]
  have last := guarded.2.2.2.2.2.1.1.cancelled
  exact absurd last (by decide)

/-! ## Boundaries -/

theorem advance_later {align epoch : Int} (positive : 0 < align) (turns : Nat) (next : Int)
    (enough : epoch < next + turns) : epoch < advance align epoch turns next := by
  induction turns generalizing next with
  | zero => simpa [advance] using enough
  | succ turns ih =>
    unfold advance
    split
    next => exact ih (next + align) (by push_cast at enough; omega)
    next later => omega

theorem nextBoundary_later {align : Int} (positive : 0 < align) (offset epoch : Int) :
    epoch < nextBoundary align offset epoch := by
  refine advance_later positive _ _ ?_
  omega

end Kerchunk.Core.Sched
