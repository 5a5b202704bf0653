import Kerchunk.Cwid.Identification

set_option autoImplicit false

/-!
# A conversation in on-call mode (`modules/mod_cwid.c`)

The module with its timer in the core's table. It hears the repeater's events, in any order and at
any time; what goes on beside it are further inputs.
-/

namespace Kerchunk.Cwid.OnCall

open Config (KerchunkConfig)
open Kerchunk.Core (PttCall Slot TimerEntry TimerTable)
open Queue (Producer addBuffer addSilence maxQueueDepth mem_place)
open Repeater (RptState)

inductive Callback where
  | activeTick
  | tailExpire
  | other
deriving DecidableEq

/-- `timerId` is `g_oc_timer_id`, and `sys.rpt.state` the state that the repeater told last. -/
structure State where
  sys : Sys
  timers : TimerTable Callback
  timerId : Option Nat

def start (rate : Nat) (hasTts : Bool) : State where
  sys := Cwid.start rate hasTts
  timers := TimerTable.init
  timerId := none

namespace State

variable (plcode : Plcode) (s : State)

def ocState : OcState :=
  s.sys.cwid.ocState

def pending : Bool :=
  s.sys.cwid.pending

def cfg : CwidConfig :=
  s.sys.cwid.cfg

def ocCancelTimer : State :=
  { s with timers := s.timers.cancelIf s.timerId, timerId := none }

def startTimer (ms : Int) (repeats : Bool) (callback : Callback) : State :=
  let made := s.timers.create ms repeats callback
  { s with timers := made.2, timerId := made.1 }

def ocEnterActive (fromIdle : Bool) : State :=
  let s : State := { s.ocCancelTimer with sys := s.sys.ocEnterActive fromIdle }
  s.startTimer s.cfg.intervalMs true .activeTick

def ocEnterTail : State :=
  let s : State := { s.ocCancelTimer with sys := s.sys.ocEnterTail }
  s.startTimer (if s.cfg.tailMs > 0 then s.cfg.tailMs else s.cfg.intervalMs) false .tailExpire

def sendPending : State :=
  { s with sys := s.sys.sendPending plcode }

def onStateChange (newState : RptState) : State :=
  match s.cfg.mode with
  | .always => if newState = .idle then s.sendPending plcode else s
  | .onCall =>
    match s.ocState with
    | .idle => if newState ≠ .idle then s.ocEnterActive true else s
    | .active => if newState = .idle then (s.sendPending plcode).ocEnterTail else s
    | .tail => if newState ≠ .idle then s.ocEnterActive false else s

def told (newState : RptState) : State :=
  { s with sys := { s.sys with rpt := { s.sys.rpt with state := newState } } }

def runCallback : Callback → State
  | .activeTick => { s with sys := s.sys.timerTick plcode }
  | .tailExpire => { s with timerId := none, sys := s.sys.ocTailExpire plcode }
  | .other => s

def visit (slot : Slot) : State :=
  let passed : State := { s with timers := s.timers.visit slot }
  match s.timers.due slot with
  | some e => passed.runCallback plcode e.callback
  | none => passed

def within (i : Cwid.Input) : State :=
  -- What does not concern the timer.
  { s with sys := Cwid.step plcode s.sys i }

def configure (cfg : KerchunkConfig) : State :=
  { s.ocCancelTimer with sys := { s.sys with cwid := s.sys.cwid.configure cfg } }

end State

/-- `preempt` is what the loop does to the queue at a key-up, and `cor` what `is_receiving` answers.
The last two are other modules' use of the timers. -/
inductive Input where
  | elapse (us : Nat)
  | beginTick
  | visit (slot : Slot)
  | stateChange (newState : RptState)
  | tailStart
  | preempt
  | cor (active : Bool)
  | ptt (call : PttCall)
  | drain (maxN : Nat)
  | produce (request : Producer)
  | hourPasses (hour : Nat)
  | solarTimes (sunrise sunset : Int)
  | schedule
  | cwidNow
  | configure (cfg : KerchunkConfig)
  | otherTimer (ms : Int) (repeats : Bool)
  | otherCancel (timerId : Nat)

variable (plcode : Plcode)

def step (s : State) : Input → State
  | .elapse us => { s with timers := s.timers.elapse us }
  | .beginTick => { s with timers := s.timers.beginTick }
  | .visit slot => s.visit plcode slot
  | .stateChange newState => (s.told newState).onStateChange plcode newState
  | .tailStart => s.sendPending plcode
  | .preempt => { s with sys := s.sys.preemptQueue }
  | .cor active => { s with sys := { s.sys with cor := active } }
  | .ptt call =>
    { s with sys := { s.sys with rpt := { s.sys.rpt with ptt := s.sys.rpt.ptt.call call } } }
  | .drain maxN => s.within plcode (.drain maxN)
  | .produce request => s.within plcode (.produce request)
  | .hourPasses hour => s.within plcode (.hourPasses hour)
  | .solarTimes sunrise sunset => s.within plcode (.solarTimes sunrise sunset)
  | .schedule => s.within plcode .schedule
  | .cwidNow => s.within plcode .cwidNow
  | .configure cfg => s.configure cfg
  | .otherTimer ms repeats => { s with timers := (s.timers.create ms repeats .other).2 }
  | .otherCancel timerId =>
    -- A module cancels only timers that it has started.
    { s with timers := s.timers.drop fun e => e.id = timerId ∧ e.callback = .other }

/-! ## An ID is queued -/

def newId (q q' : Queue.State) : Bool :=
  -- The list has an item of the module that was not there before.
  q'.head.any fun item => decide (q.nextId ≤ item.id) && decide (item.source = cwidTag)

theorem newId_iff {q q' : Queue.State} : newId q q' = true ↔
    ∃ item ∈ q'.head, q.nextId ≤ item.id ∧ item.source = cwidTag := by
  simp [newId]

theorem newId_same {q : Queue.State} (sound : Sound q) : newId q q = false := by
  rw [Bool.eq_false_iff]
  intro added
  obtain ⟨item, member, fresh, -⟩ := newId_iff.mp added
  exact absurd (sound.fresh item member) (Nat.not_lt.mpr fresh)

def AddsPlain (q q' : Queue.State) : Prop :=
  ∀ item ∈ q'.head, item ∈ q.head ∨ item.source = []

theorem AddsPlain.newId {q q' : Queue.State} (plain : AddsPlain q q') (sound : Sound q) :
    newId q q' = false := by
  rw [Bool.eq_false_iff]
  intro added
  obtain ⟨item, member, fresh, tagged⟩ := newId_iff.mp added
  rcases plain item member with old | untagged
  next => exact absurd (sound.fresh item old) (Nat.not_lt.mpr fresh)
  next => simp [untagged, cwidTag] at tagged

theorem AddsPlain.trans {a b c : Queue.State} (first : AddsPlain a b) (second : AddsPlain b c) :
    AddsPlain a c := by
  intro item member
  rcases second item member with old | untagged
  next => exact first item old
  next => exact .inr untagged

theorem addSilence_plain (q : Queue.State) (ms priority : Int) :
    AddsPlain q (addSilence q ms priority).2 := by
  intro item member
  unfold addSilence at member
  cases built : Queue.silenceItem q.rate ms priority with
  | none =>
    rw [built] at member
    exact .inl member
  | some made =>
    rw [built, Queue.addBuilt, Queue.addItem_eq] at member
    split at member
    next => exact .inl member
    next =>
      rcases mem_place.mp member with rfl | old
      next => exact .inr (Queue.silenceItem_plain built).untagged
      next => exact .inl old

theorem voiceGap_plain (s : Sys) : AddsPlain s.queue s.voiceGap := by
  unfold Sys.voiceGap
  split
  next => exact addSilence_plain s.queue 500 priLow
  next => exact fun _ member => .inl member

theorem full_plain {q : Queue.State} (full : ¬q.count + 1 < maxQueueDepth) (samples : List Int) :
    AddsPlain q (queueId q samples) := by
  -- Where the queue is full after the silence, the ID is turned away.
  have kept : maxQueueDepth ≤ (addSilence q 200 priLow).2.count := by
    have short : ¬((200 : Int) ≤ 0 ∨ (200 : Int) > 300000) := by omega
    simp only [addSilence, Queue.silenceItem, short, if_false, Queue.addBuilt, Queue.addItem_eq]
    split <;> dsimp only <;> omega
  have refused : tagAdded (addBuffer (addSilence q 200 priLow).2 samples priLow 0) =
      (addBuffer (addSilence q 200 priLow).2 samples priLow 0).2 ∧
      (addBuffer (addSilence q 200 priLow).2 samples priLow 0).2.head =
        (addSilence q 200 priLow).2.head := by
    unfold addBuffer tagAdded
    cases Queue.bufferItem samples priLow 0 with
    | none => exact ⟨rfl, rfl⟩
    | some made => simp [Queue.addBuilt, Queue.addItem_eq, kept]
  have first := addSilence_plain q 200 priLow
  simp only [queueId, refused.1]
  refine AddsPlain.trans ?_ (addSilence_plain _ 100 priLow)
  intro item member
  rw [refused.2] at member
  exact first item member

theorem sendCwid_newId {s : Sys} (sound : Sound s.queue) :
    newId s.queue (s.sendCwid plcode).queue = true ↔ Able plcode s := by
  constructor
  next =>
    intro added
    cases encoded : encode plcode s.queue.rate s.cwid.cfg with
    | none =>
      have same : s.sendCwid plcode = s := by simp [Sys.sendCwid, encoded]
      rw [same, newId_same sound] at added
      cases added
    | some samples =>
      by_contra unable
      refine absurd added (Bool.eq_false_iff.mp (AddsPlain.newId ?_ sound))
      simp only [Sys.sendCwid, encoded, Sys.setPending]
      split
      next => exact voiceGap_plain s
      next some =>
        have full : ¬s.queue.count + 1 < maxQueueDepth :=
          fun room => unable ⟨room, samples, encoded, some⟩
        exact (full_plain full samples).trans
          (voiceGap_plain { s with queue := queueId s.queue samples })
  next =>
    intro able
    obtain ⟨samples, -, ⟨item, member, id, tagged, -⟩, -⟩ := sendCwid_waits plcode sound able
    exact newId_iff.mpr ⟨item, member, by omega, tagged⟩

end Kerchunk.Cwid.OnCall
