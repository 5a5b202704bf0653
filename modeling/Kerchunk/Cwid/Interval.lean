import Kerchunk.Cwid.OnCall

set_option autoImplicit false

/-!
# The interval between two IDs of a conversation

A conversation begins when the repeater leaves IDLE, and ends when the timer for the final ID runs
out. `Talk` follows one.
-/

namespace Kerchunk.Cwid.OnCall

open Config (KerchunkConfig)
open Kerchunk.Core (Slot TimerEntry TimerTable firstSlot)
open Queue (Producer)
open Repeater (RptState)

variable (plcode : Plcode)

/-- `since` is when the last ID of the conversation was queued, or when it began. `counts` is when
the module's timer was last started or passed in vain, or an ID was queued or given up. -/
structure Talk where
  since : Nat
  counts : Nat
deriving DecidableEq

def runsOut (s : State) : Input → Bool
  -- The timer of a conversation in progress has run out.
  | .visit slot => (s.timers.due slot).any fun e => decide (e.callback = .activeTick)
  | _ => false

def restarts (s s' : State) : Bool :=
  decide (s.ocState ≠ .active) && decide (s'.ocState = .active)

def Talk.step (t : Talk) (s : State) (i : Input) (s' : State) : Talk :=
  let now := s'.timers.now
  let queued := newId s.sys.queue s'.sys.queue
  let lost := !s'.pending && (s.pending || runsOut s i)
  { since := if queued then now else t.since
    counts := if restarts s s' || queued || lost then now else t.counts }

def talkAfter (talk : Option Talk) (s : State) (i : Input) (s' : State) : Option Talk :=
  if s'.ocState = .idle then none
  else
    match talk with
    | none => some ⟨s'.timers.now, s'.timers.now⟩
    | some t => some (t.step s i s')

/-- The module and the conversation that it is in. -/
structure Followed where
  on : State
  talk : Option Talk

def Followed.step (f : Followed) (i : Input) : Followed :=
  let after := OnCall.step plcode f.on i
  { on := after, talk := talkAfter f.talk f.on i after }

def followed (rate : Nat) (hasTts : Bool) : Followed where
  on := start rate hasTts
  talk := none

def Enters (s : State) : Input → Prop
  -- The repeater enters its tail, or IDLE.
  | .tailStart => s.sys.rpt.state = .tailWait
  | .stateChange newState => newState = .idle ∧ s.sys.rpt.state ≠ .idle
  | _ => False

instance (s : State) : (i : Input) → Decidable (Enters s i)
  | .tailStart => inferInstanceAs (Decidable (_ = _))
  | .stateChange _ => inferInstanceAs (Decidable (_ ∧ _))
  | .elapse _ | .beginTick | .visit _ | .preempt | .cor _ | .ptt _ | .drain _ | .produce _
  | .hourPasses _ | .solarTimes _ _ | .schedule | .cwidNow | .configure _ | .otherTimer _ _
  | .otherCancel _ => .isFalse id

def passed (s : State) (since : Nat) : Prop :=
  -- `cwid_interval` has passed.
  (since : Int) + s.cfg.intervalMs * 1000 ≤ s.timers.now

instance (s : State) (since : Nat) : Decidable (passed s since) :=
  inferInstanceAs (Decidable (_ ≤ _))

def Due (f : Followed) : Prop :=
  f.on.cfg.mode = .onCall ∧ f.on.sys.isQuietHour = false ∧ ∃ t ∈ f.talk, passed f.on t.since

instance (f : Followed) : Decidable (Due f) :=
  have : Decidable (∃ t ∈ f.talk, passed f.on t.since) :=
    match f.talk with
    | none => .isFalse (by simp)
    | some t => decidable_of_iff (passed f.on t.since) (by simp)
  inferInstanceAs (Decidable (_ ∧ _ ∧ _))

def Identified (f : Followed) (i : Input) : Prop :=
  -- An ID that is due when the repeater enters its tail or IDLE is queued at that moment.
  Enters f.on i → Due f → newId f.on.sys.queue (OnCall.step plcode f.on i).sys.queue = true

instance (f : Followed) (i : Input) : Decidable (Identified plcode f i) :=
  inferInstanceAs (Decidable (_ → _ → _))

def Overdue (s : State) : Prop :=
  -- The module's timer waits to be scanned.
  ∃ e, s.timers.Holds e ∧ e.callback = .activeTick ∧ e.nextFireUs ≤ s.timers.now

def Rested (f : Followed) (i : Input) : Prop :=
  Enters f.on i → Due f → Able plcode f.on.sys ∧
    (f.on.pending = true ∨
      f.on.timerId ≠ none ∧ ¬Overdue f.on ∧ ∃ t ∈ f.talk, passed f.on t.counts)

/-! ## The timer -/

/-- The timer of a conversation runs out within the interval of the last time that it counts
from. -/
structure Good (f : Followed) : Prop where
  sound : Sound f.on.sys.queue
  mode : f.on.ocState ≠ .idle → f.on.cfg.mode = .onCall
  told : f.on.ocState = .tail → f.on.sys.rpt.state = .idle
  talking : f.talk = none ↔ f.on.ocState = .idle
  ticks : ∀ e, f.on.timers.Holds e → e.callback = .activeTick →
    f.on.timerId = some e.id ∧ f.on.ocState = .active
  expires : ∀ e, f.on.timers.Holds e → e.callback = .tailExpire →
    f.on.timerId = some e.id ∧ f.on.ocState = .tail ∧ e.repeats = false
  held : ∀ n, f.on.timerId = some n → ∃ e, f.on.timers.Holds e ∧ e.id = n ∧ e.callback ≠ .other
  interval : ∀ e, f.on.timers.Holds e → e.callback = .activeTick →
    e.intervalMs = f.on.cfg.intervalMs.toNat ∧ e.repeats = true ∧
      e.nextFireUs ≤ f.on.timers.now + e.intervalMs * 1000
  counts : ∀ t ∈ f.talk, ∀ e, f.on.timers.Holds e → e.callback = .activeTick →
    f.on.pending = true ∨ e.nextFireUs ≤ t.counts + e.intervalMs * 1000

theorem Good.next {f : Followed} {i : Input} {s' : State} (good : Good f)
    (sound : Sound s'.sys.queue) (mode : s'.ocState ≠ .idle → s'.cfg.mode = .onCall)
    (told : s'.ocState = .tail → s'.sys.rpt.state = .idle)
    (ticks : ∀ e, s'.timers.Holds e → e.callback = .activeTick →
      s'.timerId = some e.id ∧ s'.ocState = .active)
    (expires : ∀ e, s'.timers.Holds e → e.callback = .tailExpire →
      s'.timerId = some e.id ∧ s'.ocState = .tail ∧ e.repeats = false)
    (held : ∀ n, s'.timerId = some n → ∃ e, s'.timers.Holds e ∧ e.id = n ∧ e.callback ≠ .other)
    (interval : ∀ e, s'.timers.Holds e → e.callback = .activeTick →
      e.intervalMs = s'.cfg.intervalMs.toNat ∧ e.repeats = true ∧
        e.nextFireUs ≤ s'.timers.now + e.intervalMs * 1000)
    (older : ∀ e, s'.timers.Holds e → e.callback = .activeTick →
      f.on.timers.Holds e ∨ restarts f.on s' = true ∨ runsOut f.on i = true) :
    Good ⟨s', talkAfter f.talk f.on i s'⟩ where
  sound := sound
  mode := mode
  told := told
  talking := by
    unfold talkAfter
    split
    next idle => exact iff_of_true rfl idle
    next busy => cases f.talk <;> exact iff_of_false (by simp) busy
  ticks := ticks
  expires := expires
  held := held
  interval := interval
  counts := by
    intro t talk e holds tick
    have ahead := (interval e holds tick).2.2
    unfold talkAfter at talk
    split at talk
    next => cases talk
    next =>
      cases before : f.talk with
      | none =>
        rw [before] at talk
        cases talk
        exact .inr ahead
      | some t =>
        rw [before] at talk
        cases talk
        simp only [Talk.step]
        split
        next => exact .inr ahead
        next stays =>
          -- The timer has neither been started again nor passed in vain.
          simp only [Bool.or_eq_true, Bool.and_eq_true, Bool.not_eq_true', not_or, not_and,
            Bool.not_eq_true] at stays
          by_cases pending : s'.pending = true
          next => exact .inl pending
          next =>
            have kept := stays.2 (Bool.eq_false_iff.mpr pending)
            rcases older e holds tick with old | again | ran
            next =>
              rcases good.counts t before e old tick with was | within
              next => simp [was] at kept
              next => exact .inr within
            next => simp [again] at stays
            next => simp [ran] at kept

/-! ## Steps that leave the timer -/

/-- What most calls leave as it is. -/
structure Leaves (a b : Sys) : Prop where
  ocState : b.cwid.ocState = a.cwid.ocState
  mode : b.cwid.cfg.mode = a.cwid.cfg.mode
  interval : b.cwid.cfg.intervalMs = a.cwid.cfg.intervalMs
  sound : Sound a.queue → Sound b.queue

theorem Leaves.refl (s : Sys) : Leaves s s :=
  ⟨rfl, rfl, rfl, id⟩

theorem leaves_of_frame {a b : Sys} {pending : Bool} {rpt : Prop}
    (frame : b.cwid = { a.cwid with pending := pending } ∧ rpt)
    (sound : Sound a.queue → Sound b.queue) : Leaves a b := by
  rcases frame with ⟨cwid, -⟩
  exact ⟨by rw [cwid], by rw [cwid], by rw [cwid], sound⟩

theorem sendCwid_leaves (s : Sys) : Leaves s (s.sendCwid plcode) :=
  leaves_of_frame (sendCwid_frame plcode s) fun sound => (sendCwid_handles plcode sound).keeps.sound

theorem sendPending_leaves (s : Sys) : Leaves s (s.sendPending plcode) :=
  leaves_of_frame (sendPending_frame plcode s)
    fun sound => (sendPending_handles plcode sound).keeps.sound

theorem timerTick_leaves (s : Sys) : Leaves s (s.timerTick plcode) :=
  leaves_of_frame (timerTick_frame plcode s)
    fun sound => (timerTick_handles plcode sound).keeps.sound

theorem preempt_leaves (s : Sys) : Leaves s s.preemptQueue ∧ s.preemptQueue.rpt = s.rpt := by
  refine ⟨⟨?_, ?_, ?_, preemptQueue_sound⟩, ?_⟩
  all_goals
    simp only [Sys.preemptQueue, Sys.onQueuePreempted, Sys.setPending]
    split
    next =>
      split
      next => split <;> rfl
      next => rfl
    next => rfl

theorem othersCall_leaves (s : Sys) (request : Producer) :
    Leaves s (s.othersCall request) ∧ (s.othersCall request).rpt = s.rpt := by
  have same : s.othersCall request = { s with queue := (s.othersCall request).queue } := by
    cases request <;> simp only [Sys.othersCall]
    split <;> rfl
  rw [same]
  refine ⟨⟨rfl, rfl, rfl, fun sound => ?_⟩, rfl⟩
  by_cases flush : request = .flush
  next =>
    subst flush
    exact cleared_sound rfl rfl
  next => exact (othersCall_keeps sound flush).sound

theorem solarTimes_leaves (s : Sys) (sunrise sunset : Int) :
    Leaves s (Cwid.step plcode s (.solarTimes sunrise sunset)) ∧
      (Cwid.step plcode s (.solarTimes sunrise sunset)).rpt = s.rpt := by
  simp only [Cwid.step]
  split <;> exact ⟨⟨rfl, rfl, rfl, id⟩, rfl⟩

theorem schedule_leaves (s : Sys) :
    Leaves s (Cwid.step plcode s .schedule) ∧ (Cwid.step plcode s .schedule).rpt = s.rpt := by
  simp only [Cwid.step]
  split
  next => exact ⟨Leaves.refl s, rfl⟩
  next => exact ⟨timerTick_leaves plcode s, (timerTick_frame plcode s).2⟩

theorem Good.leaves {f : Followed} {i : Input} {s' : State} (good : Good f)
    (leaves : Leaves f.on.sys s'.sys) (told : f.on.ocState = .tail → s'.sys.rpt.state = .idle)
    (timerId : s'.timerId = f.on.timerId)
    (holds : ∀ e, e.callback ≠ .other → (s'.timers.Holds e ↔ f.on.timers.Holds e))
    (later : f.on.timers.now ≤ s'.timers.now) : Good ⟨s', talkAfter f.talk f.on i s'⟩ := by
  have oc : s'.ocState = f.on.ocState := leaves.ocState
  have mode : s'.cfg.mode = f.on.cfg.mode := leaves.mode
  have interval : s'.cfg.intervalMs = f.on.cfg.intervalMs := leaves.interval
  have tick (e : TimerEntry Callback) (now : s'.timers.Holds e) (tick : e.callback = .activeTick) :
      f.on.timers.Holds e := (holds e (by simp [tick])).mp now
  refine good.next (leaves.sound good.sound) ?_ ?_ ?_ ?_ ?_ ?_ ?_
  next =>
    rw [oc, mode]
    exact good.mode
  next =>
    rw [oc]
    exact told
  next =>
    rw [oc, timerId]
    exact fun e now same => good.ticks e (tick e now same) same
  next =>
    rw [oc, timerId]
    exact fun e now same => good.expires e ((holds e (by simp [same])).mp now) same
  next =>
    rw [timerId]
    intro n handle
    obtain ⟨e, held, id, own⟩ := good.held n handle
    exact ⟨e, (holds e own).mpr held, id, own⟩
  next =>
    rw [interval]
    intro e now same
    obtain ⟨ms, repeats, ahead⟩ := good.interval e (tick e now same) same
    exact ⟨ms, repeats, by omega⟩
  next => exact fun e now same => .inl (tick e now same)

/-! ## Starting the timer -/

def Idles (t : TimerTable Callback) : Prop :=
  -- No timer of the module runs.
  ∀ e, t.Holds e → e.callback = .other

theorem Good.owner {f : Followed} (good : Good f) {e : TimerEntry Callback}
    (holds : f.on.timers.Holds e) (mine : e.callback ≠ .other) : f.on.timerId = some e.id := by
  cases callback : e.callback with
  | activeTick => exact (good.ticks e holds callback).1
  | tailExpire => exact (good.expires e holds callback).1
  | other => exact absurd callback mine

theorem Good.cancelled {f : Followed} (good : Good f) : Idles f.on.ocCancelTimer.timers := by
  intro e holds
  by_contra mine
  simp only [State.ocCancelTimer] at holds
  cases handle : f.on.timerId with
  | none =>
    rw [handle] at holds
    rw [good.owner holds mine] at handle
    cases handle
  | some n =>
    rw [handle] at holds
    have kept := (TimerTable.cancel_holds _ n e).mp holds
    rw [good.owner kept.1 mine] at handle
    exact kept.2 (Option.some.inj handle)

section Starting

variable {s : State} {ms : Int} {repeats : Bool} {callback : Callback}

theorem startTimer_holds (idles : Idles s.timers) {e : TimerEntry Callback}
    (holds : (s.startTimer ms repeats callback).timers.Holds e) (mine : e.callback ≠ .other) :
    (s.startTimer ms repeats callback).timerId = some e.id ∧
      e = ⟨s.timers.nextId, ms.toNat, repeats, s.timers.now + ms.toNat * 1000, callback⟩ := by
  rcases (TimerTable.create_holds s.timers ms repeats callback e).mp holds with old | made
  next => exact absurd (idles e old) mine
  next => exact made

theorem startTimer_held {n : Nat} (made : (s.startTimer ms repeats callback).timerId = some n) :
    ∃ e, (s.startTimer ms repeats callback).timers.Holds e ∧ e.id = n ∧ e.callback = callback := by
  have number : n = s.timers.nextId := TimerTable.create_id made
  refine ⟨⟨s.timers.nextId, ms.toNat, repeats, s.timers.now + ms.toNat * 1000, callback⟩, ?_,
    number.symm, rfl⟩
  exact (TimerTable.create_holds ..).mpr (.inr ⟨number ▸ made, rfl⟩)

theorem startTimer_now : (s.startTimer ms repeats callback).timers.now = s.timers.now :=
  TimerTable.create_now ..

end Starting

section Entering

variable {f : Followed} (sys : Sys) (good : Good f) (i : Input) (sound : Sound sys.queue)
  (mode : sys.cwid.cfg.mode = .onCall)

include good sound mode

theorem enterActive_good (fromIdle : Bool) (elsewhere : f.on.ocState ≠ .active) :
    let s' := State.ocEnterActive { f.on with sys := sys } fromIdle
    Good ⟨s', talkAfter f.talk f.on i s'⟩ := by
  intro s'
  have idles := good.cancelled
  have started (e : TimerEntry Callback) (holds : s'.timers.Holds e)
      (mine : e.callback ≠ .other) := startTimer_holds idles holds mine
  refine good.next sound (fun _ => mode) ?_ ?_ ?_ ?_ ?_ ?_
  next => exact fun tail => by cases tail
  next =>
    intro e holds tick
    exact ⟨(started e holds (by simp [tick])).1, rfl⟩
  next =>
    intro e holds expire
    rw [(started e holds (by simp [expire])).2] at expire
    cases expire
  next =>
    intro n made
    obtain ⟨e, holds, id, callback⟩ := startTimer_held made
    exact ⟨e, holds, id, by simp [callback]⟩
  next =>
    intro e holds tick
    obtain ⟨-, rfl⟩ := started e holds (by simp [tick])
    refine ⟨rfl, rfl, ?_⟩
    show _ ≤ (State.startTimer _ _ _ _).timers.now + _
    rw [startTimer_now]
    exact Nat.le_refl _
  next =>
    intro e _ _
    have active : s'.ocState = .active := rfl
    exact .inr (.inl (by simp [restarts, elsewhere, active]))

theorem enterTail_good (idle : sys.rpt.state = .idle) :
    let s' := State.ocEnterTail { f.on with sys := sys }
    Good ⟨s', talkAfter f.talk f.on i s'⟩ := by
  intro s'
  have idles := good.cancelled
  have started (e : TimerEntry Callback) (holds : s'.timers.Holds e)
      (mine : e.callback ≠ .other) := startTimer_holds idles holds mine
  have never (e : TimerEntry Callback) (holds : s'.timers.Holds e) : e.callback ≠ .activeTick := by
    intro tick
    rw [(started e holds (by simp [tick])).2] at tick
    cases tick
  refine good.next sound (fun _ => mode) (fun _ => idle) ?_ ?_ ?_ ?_ ?_
  next => exact fun e holds tick => absurd tick (never e holds)
  next =>
    intro e holds expire
    obtain ⟨handle, made⟩ := started e holds (by simp [expire])
    exact ⟨handle, rfl, by rw [made]⟩
  next =>
    intro n made
    obtain ⟨e, holds, id, callback⟩ := startTimer_held made
    exact ⟨e, holds, id, by simp [callback]⟩
  next => exact fun e holds tick => absurd tick (never e holds)
  next => exact fun e holds tick => absurd tick (never e holds)

end Entering

/-! ## Steps -/

theorem Good.still {f : Followed} (good : Good f) (i : Input) {sys : Sys}
    (leaves : Leaves f.on.sys sys) (told : f.on.ocState = .tail → sys.rpt.state = .idle) :
    Good ⟨{ f.on with sys := sys }, talkAfter f.talk f.on i { f.on with sys := sys }⟩ :=
  good.leaves leaves told rfl (fun _ _ => Iff.rfl) (Nat.le_refl _)

theorem Good.apart {f : Followed} (good : Good f) (i : Input) {sys : Sys}
    (same : Leaves f.on.sys sys ∧ sys.rpt = f.on.sys.rpt) :
    Good ⟨{ f.on with sys := sys }, talkAfter f.talk f.on i { f.on with sys := sys }⟩ := by
  refine good.still i same.1 ?_
  rw [same.2]
  exact good.told

theorem stateChange_good {f : Followed} (good : Good f) (newState : RptState) :
    Good (f.step plcode (.stateChange newState)) := by
  suffices heard : ∀ s', s' = (f.on.told newState).onStateChange plcode newState →
      Good ⟨s', talkAfter f.talk f.on (.stateChange newState) s'⟩ from heard _ rfl
  intro s' heard
  have unmoved (still : s' = f.on.told newState) (told : f.on.ocState = .tail → newState = .idle) :
      Good ⟨s', talkAfter f.talk f.on (.stateChange newState) s'⟩ := by
    subst still
    exact good.still _ ⟨rfl, rfl, rfl, id⟩ told
  have sends := sendPending_leaves plcode (f.on.told newState).sys
  have sent : Leaves f.on.sys ((f.on.told newState).sys.sendPending plcode) :=
    ⟨sends.ocState, sends.mode, sends.interval, sends.sound⟩
  have frame := (sendPending_frame plcode (f.on.told newState).sys).2
  have oc : (f.on.told newState).ocState = f.on.ocState := rfl
  unfold State.onStateChange at heard
  cases mode : (f.on.told newState).cfg.mode with
  | always =>
    have resting : f.on.ocState = .idle := by
      by_contra busy
      have onCall := good.mode busy
      rw [show f.on.cfg.mode = .always from mode] at onCall
      cases onCall
    rw [mode] at heard
    dsimp only at heard
    split at heard
    next =>
      subst heard
      exact good.still _ sent (by simp [resting])
    next => exact unmoved heard (by simp [resting])
  | onCall =>
    rw [mode, oc] at heard
    cases was : f.on.ocState with
    | idle =>
      rw [was] at heard
      dsimp only at heard
      split at heard
      next =>
        subst heard
        exact enterActive_good (f.on.told newState).sys good _ good.sound mode true (by simp [was])
      next => exact unmoved heard (by simp [was])
    | active =>
      rw [was] at heard
      dsimp only at heard
      split at heard
      next idle =>
        subst heard
        refine enterTail_good _ good _ (sent.sound good.sound) (sent.mode.trans mode) ?_
        rw [frame]
        exact idle
      next => exact unmoved heard (by simp [was])
    | tail =>
      rw [was] at heard
      dsimp only at heard
      split at heard
      next =>
        subst heard
        exact enterActive_good (f.on.told newState).sys good _ good.sound mode false (by simp [was])
      next idle => exact unmoved heard fun _ => not_not.mp idle

theorem otherTimer_good {f : Followed} (good : Good f) (ms : Int) (repeats : Bool) :
    Good (f.step plcode (.otherTimer ms repeats)) := by
  refine good.leaves (Leaves.refl _) good.told rfl ?_ ?_
  next =>
    intro e mine
    refine (TimerTable.create_holds ..).trans (or_iff_left ?_)
    rintro ⟨-, rfl⟩
    exact mine rfl
  next => exact Nat.le_of_eq (TimerTable.create_now ..).symm

theorem otherCancel_good {f : Followed} (good : Good f) (timerId : Nat) :
    Good (f.step plcode (.otherCancel timerId)) := by
  refine good.leaves (Leaves.refl _) good.told rfl ?_ (Nat.le_refl _)
  intro e mine
  refine (TimerTable.drop_holds ..).trans (and_iff_left ?_)
  simp [mine]

theorem configure_good {f : Followed} (good : Good f) (cfg : KerchunkConfig) :
    Good (f.step plcode (.configure cfg)) := by
  have idles := good.cancelled
  have never (e : TimerEntry Callback) (holds : f.on.ocCancelTimer.timers.Holds e)
      (mine : e.callback ≠ .other) : False := mine (idles e holds)
  refine good.next good.sound (fun busy => absurd rfl busy) (fun tail => by cases tail) ?_ ?_
    (fun _ handle => by cases handle) ?_ ?_
  next => exact fun e holds tick => (never e holds (by simp [tick])).elim
  next => exact fun e holds tick => (never e holds (by simp [tick])).elim
  next => exact fun e holds tick => (never e holds (by simp [tick])).elim
  next => exact fun e holds tick => (never e holds (by simp [tick])).elim

theorem foreign_good {f : Followed} (good : Good f) {slot : Slot}
    (foreign : ∀ e, f.on.timers.due slot = some e → e.callback = .other) :
    Good (f.step plcode (.visit slot)) := by
  -- A visit that runs none of the module's callbacks.
  have same : f.on.visit plcode slot = { f.on with timers := f.on.timers.visit slot } := by
    unfold State.visit
    cases due : f.on.timers.due slot with
    | none => rfl
    | some e => simp [foreign e due, State.runCallback]
  show Good ⟨f.on.visit plcode slot, talkAfter f.talk f.on (.visit slot) (f.on.visit plcode slot)⟩
  rw [same]
  refine good.leaves (Leaves.refl _) good.told rfl ?_ (Nat.le_refl _)
  intro e mine
  refine (TimerTable.visit_holds ..).trans ⟨?_, ?_⟩
  next =>
    rintro (⟨holds, -⟩ | ⟨g, due, -, rfl⟩)
    next => exact holds
    next => exact absurd (foreign g due) mine
  next =>
    refine fun holds => .inl ⟨holds, fun g due same => mine ?_⟩
    rw [← TimerTable.holds_unique (TimerTable.due_holds due) holds same]
    exact foreign g due

theorem Good.alone {f : Followed} (good : Good f) {slot : Slot} {e g : TimerEntry Callback}
    (due : f.on.timers.due slot = some g) (own : g.callback ≠ .other)
    (holds : (f.on.timers.visit slot).Holds e) (mine : e.callback ≠ .other) :
    g.repeats = true ∧ e = f.on.timers.reschedule g := by
  -- When a timer of the module is due, no other one of it runs.
  rcases (TimerTable.visit_holds ..).mp holds with ⟨old, others⟩ | ⟨h, again, repeats, rfl⟩
  next =>
    have first := good.owner old mine
    rw [good.owner (TimerTable.due_holds due) own] at first
    exact absurd (Option.some.inj first) (others g due)
  next =>
    rw [due] at again
    cases again
    exact ⟨repeats, rfl⟩

theorem tick_good {f : Followed} (good : Good f) {slot : Slot} {g : TimerEntry Callback}
    (due : f.on.timers.due slot = some g) (tick : g.callback = .activeTick) :
    Good (f.step plcode (.visit slot)) := by
  have own : g.callback ≠ .other := by simp [tick]
  have held := TimerTable.due_holds due
  obtain ⟨handle, active⟩ := good.ticks g held tick
  obtain ⟨ms, repeats, -⟩ := good.interval g held tick
  have same : f.on.visit plcode slot =
      { f.on with timers := f.on.timers.visit slot, sys := f.on.sys.timerTick plcode } := by
    simp [State.visit, due, tick, State.runCallback]
  have leaves := timerTick_leaves plcode f.on.sys
  show Good ⟨f.on.visit plcode slot, talkAfter f.talk f.on (.visit slot) (f.on.visit plcode slot)⟩
  rw [same]
  have oc : (f.on.sys.timerTick plcode).cwid.ocState = .active := leaves.ocState.trans active
  refine good.next (leaves.sound good.sound) ?_ ?_ ?_ ?_ ?_ ?_ ?_
  next => exact fun _ => leaves.mode.trans (good.mode (by simp [active]))
  next =>
    intro tail
    cases oc.symm.trans tail
  next =>
    intro e holds _
    obtain ⟨-, rfl⟩ := good.alone due own holds (by simp_all)
    exact ⟨handle, oc⟩
  next =>
    intro e holds expire
    obtain ⟨-, rfl⟩ := good.alone due own holds (by simp [expire])
    exact absurd (tick.symm.trans expire) (by simp)
  next =>
    intro n same
    refine ⟨f.on.timers.reschedule g, ?_, Option.some.inj (handle.symm.trans same), own⟩
    exact (TimerTable.visit_holds ..).mpr (.inr ⟨g, due, repeats, rfl⟩)
  next =>
    intro e holds _
    obtain ⟨-, rfl⟩ := good.alone due own holds (by simp_all)
    refine ⟨ms.trans (congrArg Int.toNat leaves.interval.symm), repeats, ?_⟩
    exact Nat.add_le_add_right f.on.timers.clock _
  next => exact fun _ _ _ => .inr (.inr (by simp [runsOut, due, tick]))

theorem expire_good {f : Followed} (good : Good f) {slot : Slot} {g : TimerEntry Callback}
    (due : f.on.timers.due slot = some g) (expire : g.callback = .tailExpire) :
    Good (f.step plcode (.visit slot)) := by
  have own : g.callback ≠ .other := by simp [expire]
  have once := (good.expires g (TimerTable.due_holds due) expire).2.2
  have never (e : TimerEntry Callback) (holds : (f.on.timers.visit slot).Holds e)
      (mine : e.callback ≠ .other) : False := by
    have again := (good.alone due own holds mine).1
    rw [once] at again
    cases again
  have same : f.on.visit plcode slot =
      { f.on with
        timers := f.on.timers.visit slot
        timerId := none
        sys := f.on.sys.ocTailExpire plcode } := by
    simp [State.visit, due, expire, State.runCallback]
  have frame := (tailExpire_frame plcode f.on.sys).1
  have oc : (f.on.sys.ocTailExpire plcode).cwid.ocState = .idle := by rw [frame]
  show Good ⟨f.on.visit plcode slot, talkAfter f.talk f.on (.visit slot) (f.on.visit plcode slot)⟩
  rw [same]
  refine good.next (tailExpire_handles plcode good.sound).keeps.sound
    (fun busy => absurd oc busy) ?_ ?_ ?_ (fun _ handle => by cases handle) ?_ ?_
  next =>
    intro tail
    cases oc.symm.trans tail
  next => exact fun e holds tick => (never e holds (by simp [tick])).elim
  next => exact fun e holds tick => (never e holds (by simp [tick])).elim
  next => exact fun e holds tick => (never e holds (by simp [tick])).elim
  next => exact fun e holds tick => (never e holds (by simp [tick])).elim

theorem visit_good {f : Followed} (good : Good f) (slot : Slot) :
    Good (f.step plcode (.visit slot)) := by
  cases due : f.on.timers.due slot with
  | none => exact foreign_good plcode good fun e found => by simp [due] at found
  | some g =>
    cases callback : g.callback with
    | activeTick => exact tick_good plcode good due callback
    | tailExpire => exact expire_good plcode good due callback
    | other =>
      refine foreign_good plcode good fun e found => ?_
      rw [due] at found
      cases found
      exact callback

theorem step_good {f : Followed} (good : Good f) (i : Input) : Good (f.step plcode i) := by
  cases i with
  | elapse us =>
    exact good.leaves (Leaves.refl _) good.told rfl (fun _ _ => Iff.rfl) (Nat.le_add_right ..)
  | beginTick =>
    exact good.leaves (Leaves.refl _) good.told rfl (fun _ _ => Iff.rfl) (Nat.le_refl _)
  | visit slot => exact visit_good plcode good slot
  | stateChange newState => exact stateChange_good plcode good newState
  | tailStart =>
    exact good.apart _ ⟨sendPending_leaves plcode _, (sendPending_frame plcode _).2⟩
  | preempt => exact good.apart _ (preempt_leaves _)
  | cor active => exact good.apart _ ⟨⟨rfl, rfl, rfl, id⟩, rfl⟩
  | ptt call => exact good.still _ ⟨rfl, rfl, rfl, id⟩ good.told
  | drain maxN => exact good.apart _ ⟨⟨rfl, rfl, rfl, fun sound => drain_sound sound maxN⟩, rfl⟩
  | produce request => exact good.apart _ (othersCall_leaves _ request)
  | hourPasses hour => exact good.apart _ ⟨⟨rfl, rfl, rfl, id⟩, rfl⟩
  | solarTimes sunrise sunset => exact good.apart _ (solarTimes_leaves plcode _ sunrise sunset)
  | schedule => exact good.apart _ (schedule_leaves plcode _)
  | cwidNow => exact good.apart _ ⟨sendCwid_leaves plcode _, (sendCwid_frame plcode _).2⟩
  | configure cfg => exact configure_good plcode good cfg
  | otherTimer ms repeats => exact otherTimer_good plcode good ms repeats
  | otherCancel timerId => exact otherCancel_good plcode good timerId

/-! ## At the next opportunity -/

theorem sendPending_newId {s : Sys} (sound : Sound s.queue) (loud : s.isQuietHour = false) :
    newId s.queue (s.sendPending plcode).queue = true ↔ s.cwid.pending = true ∧ Able plcode s := by
  cases pending : s.cwid.pending with
  | false => simp [Sys.sendPending, pending, newId_same sound]
  | true => simp [Sys.sendPending, pending, loud, sendCwid_newId plcode sound]

theorem Good.attends {f : Followed} (good : Good f) {i : Input} (enters : Enters f.on i)
    (due : Due f) : f.on.ocState = .active := by
  -- In a conversation the module is ACTIVE while the repeater is not in IDLE.
  obtain ⟨-, -, t, talk, -⟩ := due
  have busy : f.on.sys.rpt.state ≠ .idle := by
    cases i with
    | tailStart =>
      rw [show f.on.sys.rpt.state = .tailWait from enters]
      simp
    | stateChange newState => exact enters.2
    | _ => cases enters
  cases oc : f.on.ocState with
  | idle =>
    rw [good.talking.mpr oc] at talk
    cases talk
  | active => rfl
  | tail => exact absurd (good.told oc) busy

theorem entry_queues {f : Followed} (good : Good f) {i : Input} (enters : Enters f.on i)
    (due : Due f) : newId f.on.sys.queue (step plcode f.on i).sys.queue = true ↔
      f.on.pending = true ∧ Able plcode f.on.sys := by
  have active := good.attends enters due
  cases i with
  | tailStart => exact sendPending_newId plcode good.sound due.2.1
  | stateChange newState =>
    obtain ⟨rfl, -⟩ := enters
    have moves : step plcode f.on (.stateChange .idle) =
        ((f.on.told .idle).sendPending plcode).ocEnterTail := by
      have mode : (f.on.told .idle).cfg.mode = .onCall := due.1
      have oc : (f.on.told .idle).ocState = .active := active
      simp [step, State.onStateChange, mode, oc]
    rw [moves]
    exact sendPending_newId plcode (s := (f.on.told .idle).sys) good.sound due.2.1
  | _ => cases enters

theorem Good.rested {f : Followed} (good : Good f) {i : Input} (enters : Enters f.on i)
    (due : Due f) (running : f.on.timerId ≠ none) (scanned : ¬Overdue f.on) {t : Talk}
    (talk : t ∈ f.talk) (rested : passed f.on t.counts) : f.on.pending = true := by
  -- The timer would have run out since, and it would be waiting for a scan.
  obtain ⟨n, handle⟩ := Option.ne_none_iff_exists'.mp running
  obtain ⟨e, holds, -, own⟩ := good.held n handle
  have active := good.attends enters due
  have tick : e.callback = .activeTick := by
    cases callback : e.callback with
    | activeTick => rfl
    | tailExpire =>
      have tail := (good.expires e holds callback).2.1
      rw [active] at tail
      cases tail
    | other => exact absurd callback own
  rcases good.counts t talk e holds tick with pending | within
  next => exact pending
  next =>
    refine absurd ⟨e, holds, tick, ?_⟩ scanned
    have ms := (good.interval e holds tick).1
    have positive : 0 < e.intervalMs := by
      obtain ⟨slot, present⟩ := holds
      exact f.on.timers.running slot e present
    unfold passed at rested
    omega

theorem identified_iff {f : Followed} (good : Good f) (i : Input) :
    Identified plcode f i ↔ Rested plcode f i := by
  refine forall_congr' fun enters => forall_congr' fun due => ?_
  refine (entry_queues plcode good enters due).trans ⟨?_, ?_⟩
  next => exact fun ⟨pending, able⟩ => ⟨able, .inl pending⟩
  next =>
    rintro ⟨able, pending | ⟨running, scanned, t, talk, rested⟩⟩
    next => exact ⟨pending, able⟩
    next => exact ⟨good.rested enters due running scanned talk rested, able⟩

theorem followed_good (rate : Nat) (hasTts : Bool) : Good (followed rate hasTts) where
  sound := init_sound rate
  mode busy := absurd rfl busy
  told tail := by cases tail
  talking := iff_of_true rfl rfl
  ticks e holds := absurd holds (TimerTable.init_holds e)
  expires e holds := absurd holds (TimerTable.init_holds e)
  held n handle := by cases handle
  interval e holds := absurd holds (TimerTable.init_holds e)
  counts t talk := by cases talk

theorem conversation_identified (rate : Nat) (hasTts : Bool) (inputs : List Input) :
    Machine.Guarded (Followed.step plcode) (Identified plcode) (followed rate hasTts) inputs ↔
      Machine.Guarded (Followed.step plcode) (Rested plcode) (followed rate hasTts) inputs :=
  Machine.guarded_iff_of_invariant (Followed.step plcode) (P := Good)
    (fun _ i good => identified_iff plcode good i) (fun _ i good _ => step_good plcode good i)
    (followed_good rate hasTts)

def onCallConfig : KerchunkConfig :=
  [{ sectionName := "general".toList, key := "callsign".toList, value := "WRDP519".toList },
   { sectionName := "repeater".toList, key := "cwid_mode".toList, value := "on_call".toList }]

def keyUp (seconds : Nat) : List Input :=
  -- A transmission after a pause: the state of the repeater until the tail starts.
  [.elapse (seconds * 1000000), .beginTick, .visit firstSlot, .cor true, .stateChange .receiving]

def unkey (seconds : Nat) : List Input :=
  [.elapse (seconds * 1000000), .beginTick, .visit firstSlot, .cor false, .stateChange .tailWait,
   .tailStart]

def tailEnds : List Input :=
  [.elapse 2000000, .stateChange .hangWait, .elapse 500000, .stateChange .idle]

/-- The first ID at ten seconds; 550 s of silence, and a key-up of 100 s. -/
def twoTurns : List Input :=
  [.configure onCallConfig] ++ keyUp 1 ++ unkey 9 ++ tailEnds ++ keyUp 550 ++ unkey 100

theorem rekey_postpones_id : ¬Machine.Guarded (Followed.step oneDash) (Identified oneDash)
    (followed 8000 false) twoTurns := by
  decide +kernel

end Kerchunk.Cwid.OnCall
