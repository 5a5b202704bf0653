import Kerchunk.Cwid.Sending
import Kerchunk.Repeater.StateChanges

set_option autoImplicit false

/-!
# Requeuing an ID

What the module makes of the repeater's steps and of a key-up, and how it follows a conversation.
-/

namespace Kerchunk.Cwid

open Queue (preemptSource)
open Repeater (Output RptState Told heardEvent)

variable (plcode : Plcode)

theorem hearAll_filter (s : Sys) (events : List Output) :
    events.foldl (fun s o => s.hear plcode o) s =
      (events.filter heardEvent).foldl (fun s o => s.hear plcode o) s := by
  induction events generalizing s with
  | nil => rfl
  | cons o rest ih =>
    cases o <;> simp only [List.foldl_cons, List.filter_cons, heardEvent, if_true, Sys.hear,
      Bool.false_eq_true, if_false] <;> exact ih _

theorem repeats_eq (s : Sys) (i : Repeater.Input) :
    ∃ events, Told s.rpt.state (Repeater.step s.rpt i).state events ∧
      s.repeats plcode i = events.foldl (fun s o => s.hear plcode o)
        { s with rpt := Repeater.step s.rpt i } := by
  -- What the module hears of a step of the repeater.
  obtain ⟨news, out, told⟩ := Repeater.step_reports s.rpt i
  refine ⟨news.filter heardEvent, told, ?_⟩
  have fired : Sys.news s.rpt i = news := by simp [Sys.news, out]
  rw [Sys.repeats, fired, hearAll_filter]

/-! ## Requeuing -/

/-- The tail of a transmission starts, or the repeater returns to IDLE while the module follows
the conversation. -/
def Clears (s : Sys) (after : RptState) : Prop :=
  (s.rpt.state = .receiving ∧ after = .tailWait) ∨
    (s.rpt.state ≠ .idle ∧ after = .idle ∧
      (s.cwid.cfg.mode = .always ∨ s.cwid.ocState = .active))

theorem isQuietHour_same {s s' : Sys} (cfg : s'.cwid.cfg = s.cwid.cfg) (hour : s'.hour = s.hour) :
    s'.isQuietHour = s.isQuietHour := by
  simp [Sys.isQuietHour, cfg, hour]

theorem onStateChange_busy {s : Sys} (newState : RptState) (busy : newState ≠ .idle) :
    (s.onStateChange plcode newState).queue = s.queue ∧
      (s.cwid.pending = true → (s.onStateChange plcode newState).cwid.pending = true) := by
  -- A change to a busy state queues nothing.
  unfold Sys.onStateChange
  split
  next => simp [busy]
  next => split <;> simp [busy, Sys.ocEnterActive]

theorem onStateChange_idle {s : Sys} (sound : Sound s.queue) (able : Able plcode s)
    (pending : s.cwid.pending = true) (loud : s.isQuietHour = false)
    (follows : s.cwid.cfg.mode = .always ∨ s.cwid.ocState = .active) :
    Queued plcode s (s.onStateChange plcode .idle) ∧
      (s.onStateChange plcode .idle).cwid.pending = false := by
  have sent := sendPending_queues plcode sound able pending loud
  unfold Sys.onStateChange
  cases mode : s.cwid.cfg.mode with
  | always => simpa using sent
  | onCall =>
    have active : s.cwid.ocState = .active := by simpa [mode] using follows
    simpa [active, Queued, Sys.ocEnterTail, Awaits, Waiting, OnAir] using sent

theorem repeats_requeues {s : Sys} (sound : Sound s.queue) (able : Able plcode s)
    (pending : s.cwid.pending = true) (loud : s.isQuietHour = false) {i : Repeater.Input}
    (clears : Clears s (Repeater.step s.rpt i).state) :
    Queued plcode s (s.repeats plcode i) ∧ (s.repeats plcode i).cwid.pending = false := by
  obtain ⟨events, told, heard⟩ := repeats_eq plcode s i
  rw [heard]
  cases told with
  | same unmoved =>
    rw [← unmoved] at clears
    rcases clears with ⟨receiving, tail⟩ | ⟨busy, idle, _⟩
    next => simp [receiving] at tail
    next => exact absurd idle busy
  | moved moved elsewhere =>
    rcases clears with ⟨_, tail⟩ | ⟨_, idle, follows⟩
    next => exact absurd tail elsewhere
    next =>
      simp only [idle, List.foldl_cons, List.foldl_nil, Sys.hear]
      exact onStateChange_idle plcode (s := { s with rpt := Repeater.step s.rpt i }) sound able
        pending loud follows
  | tail =>
    -- The change to TAIL_WAIT leaves the ID to the tail, which follows at once.
    let entered : Sys := { s with rpt := Repeater.step s.rpt i }
    have busy := onStateChange_busy plcode (s := entered) .tailWait (by simp)
    have handled := onStateChange_handles plcode (s := entered) sound .tailWait
    have able' : Able plcode (entered.onStateChange plcode .tailWait) := by
      unfold Able
      rw [busy.1, handled.cfg]
      exact able
    have loud' : (entered.onStateChange plcode .tailWait).isQuietHour = false := by
      rw [isQuietHour_same handled.cfg handled.hour]
      exact loud
    obtain ⟨queued, cleared⟩ := sendPending_queues plcode handled.keeps.sound able'
      (busy.2 pending) loud'
    refine ⟨?_, cleared⟩
    unfold Queued at queued
    rw [busy.1, handled.cfg] at queued
    exact queued

/-! ## The loop -/

theorem corAssert_state (s : Repeater.State) :
    (Repeater.step s .corAssert).state = s.state ∨
      (Repeater.step s .corAssert).state = .receiving := by
  simp only [Repeater.step, Repeater.whenLoaded, Repeater.State.onCorAssert]
  split
  next =>
    split
    next idle =>
      split
      next =>
        left
        simp [Repeater.State.startDebounce, Repeater.State.cancelTimer]
      next => exact .inr (Repeater.startReceiving_state _)
    next => simp [Repeater.State.changeState_eq]
    next =>
      simp [Repeater.State.changeState_eq, Repeater.State.startTot, Repeater.State.cancelTimer]
    all_goals exact .inl rfl
  next => exact .inl rfl

theorem corAssert_pending {s : Sys} (pending : s.cwid.pending = true) :
    (s.repeats plcode .corAssert).cwid.pending = true := by
  obtain ⟨events, told, heard⟩ := repeats_eq plcode s .corAssert
  rw [heard]
  cases told with
  | same => exact pending
  | moved moved elsewhere =>
    have entered := (corAssert_state s.rpt).resolve_left fun same => moved same.symm
    simp only [entered, List.foldl_cons, List.foldl_nil, Sys.hear]
    exact (onStateChange_busy plcode .receiving (by simp)).2 pending
  | tail receiving tail =>
    rcases corAssert_state s.rpt with same | same
    next => rw [same, receiving] at tail; cases tail
    next => rw [same] at tail; cases tail

theorem preemptQueue_sound {s : Sys} (sound : Sound s.queue) : Sound s.preemptQueue.queue := by
  have cleared := Queue.preempt_cleared s.queue
  have after := cleared_sound cleared.head cleared.draining
  simp only [Sys.preemptQueue, Sys.onQueuePreempted]
  split
  next =>
    split
    next =>
      split
      next => exact after
      next => exact after
    next => exact after
  next => exact sound

theorem preemptQueue_pending {s : Sys} (pending : s.cwid.pending = true) :
    s.preemptQueue.cwid.pending = true := by
  simp only [Sys.preemptQueue, Sys.onQueuePreempted, Sys.setPending]
  split
  next =>
    split
    next => split <;> simp [pending]
    next => exact pending
  next => exact pending

theorem preemptQueue_reports {s : Sys} {id : Nat} {rest : List Int}
    (awaits : Awaits s.queue id rest) :
    Awaits s.preemptQueue.queue id rest ∨
      (preemptSource s.queue = cwidTag → s.preemptQueue.cwid.pending = true) := by
  have some : 0 < (Queue.preempt s.queue).2.1 := by
    rcases awaits with ⟨item, member, _⟩ | ⟨draining, _⟩
    next =>
      have := List.length_pos_of_mem member
      simp only [Queue.preempt]
      omega
    next => simp [Queue.preempt, draining]
  by_cases cuts : s.queue.draining ∨ Queue.depth s.queue > 0
  next =>
    right
    intro reported
    have source : (Queue.preempt s.queue).1 = cwidTag := reported
    simp [Sys.preemptQueue, cuts, some, Sys.onQueuePreempted, source, Sys.setPending]
  next =>
    left
    simpa [Sys.preemptQueue, cuts] using awaits

/-! ## On-call mode -/

def Attends (s : Sys) : Prop :=
  -- The module takes the conversation for active while the repeater is out of IDLE.
  s.cwid.cfg.mode = .onCall → s.rpt.state ≠ .idle → s.cwid.ocState = .active

def Paced (c : State) : Prop :=
  -- The timer for the final ID runs only in TAIL.
  ∀ ms, c.ocTimer = some (.tailExpire ms) → c.ocState = .tail

theorem sendCwid_frame (s : Sys) :
    ((s.sendCwid plcode).cwid = { s.cwid with pending := (s.sendCwid plcode).cwid.pending }) ∧
      (s.sendCwid plcode).rpt = s.rpt := by
  unfold Sys.sendCwid
  split
  next => exact ⟨rfl, rfl⟩
  next =>
    simp only [Sys.setPending]
    split <;> exact ⟨rfl, rfl⟩

theorem sendPending_frame (s : Sys) :
    ((s.sendPending plcode).cwid =
        { s.cwid with pending := (s.sendPending plcode).cwid.pending }) ∧
      (s.sendPending plcode).rpt = s.rpt := by
  unfold Sys.sendPending
  split
  next => exact sendCwid_frame plcode s
  next => exact ⟨rfl, rfl⟩

theorem onStateChange_attends {s : Sys} {newState : RptState} (busy : newState ≠ .idle)
    (mode : s.cwid.cfg.mode = .onCall) :
    (s.onStateChange plcode newState).cwid.ocState = .active := by
  unfold Sys.onStateChange
  cases oc : s.cwid.ocState <;> simp [mode, busy, Sys.ocEnterActive, oc]

theorem hear_paced {s : Sys} (paced : Paced s.cwid) (o : Output) :
    Paced (s.hear plcode o).cwid := by
  have sent : Paced (s.sendPending plcode).cwid := by
    rw [(sendPending_frame plcode s).1]
    exact paced
  unfold Sys.hear Sys.onTailStart Sys.onStateChange
  split
  next =>
    split
    next => split <;> assumption
    next =>
      split
      next => split <;> simp_all [Paced, Sys.ocEnterActive]
      next => split <;> simp_all [Paced, Sys.ocEnterTail]
      next => split <;> simp_all [Paced, Sys.ocEnterActive]
  next => exact sent
  next => exact paced

theorem repeats_paced {s : Sys} (paced : Paced s.cwid) (i : Repeater.Input) :
    Paced (s.repeats plcode i).cwid := by
  have folded : ∀ (events : List Output) (s : Sys), Paced s.cwid →
      Paced (events.foldl (fun s o => s.hear plcode o) s).cwid := by
    intro events
    induction events with
    | nil => exact fun _ paced => paced
    | cons o rest ih => exact fun s paced => ih _ (hear_paced plcode paced o)
  exact folded _ _ paced

theorem onStateChange_rpt (s : Sys) (newState : RptState) :
    (s.onStateChange plcode newState).rpt = s.rpt := by
  have sent := (sendPending_frame plcode s).2
  unfold Sys.onStateChange
  split
  next => split <;> simp [sent]
  next => split <;> split <;> simp [sent, Sys.ocEnterActive, Sys.ocEnterTail]

theorem repeats_rpt (s : Sys) (i : Repeater.Input) :
    (s.repeats plcode i).rpt = Repeater.step s.rpt i := by
  have folded : ∀ (events : List Output) (s : Sys),
      (events.foldl (fun s o => s.hear plcode o) s).rpt = s.rpt := by
    intro events
    induction events with
    | nil => exact fun _ => rfl
    | cons o rest ih =>
      intro s
      have first : (s.hear plcode o).rpt = s.rpt := by
        unfold Sys.hear
        split
        next => exact onStateChange_rpt plcode s _
        next => exact (sendPending_frame plcode s).2
        next => rfl
      exact (ih _).trans first
  exact folded _ _

theorem repeats_attends {s : Sys} (sound : Sound s.queue) (attends : Attends s)
    (i : Repeater.Input) : Attends (s.repeats plcode i) := by
  obtain ⟨events, told, heard⟩ := repeats_eq plcode s i
  let entered : Sys := { s with rpt := Repeater.step s.rpt i }
  have changed : ∀ newState, (Repeater.step s.rpt i).state = newState →
      Attends (entered.onStateChange plcode newState) := by
    intro newState reached mode busy
    rw [onStateChange_rpt] at busy
    have busy : newState ≠ .idle := reached ▸ busy
    rw [(onStateChange_handles plcode (s := entered) sound newState).cfg] at mode
    exact onStateChange_attends plcode busy mode
  rw [heard]
  cases told with
  | same unmoved =>
    intro mode busy
    exact attends mode (unmoved ▸ busy)
  | moved => exact changed _ rfl
  | tail _ tail =>
    have after := changed .tailWait tail
    have frame := sendPending_frame plcode (entered.onStateChange plcode .tailWait)
    intro mode busy
    simp only [List.foldl_cons, List.foldl_nil, Sys.hear, Sys.onTailStart] at mode busy ⊢
    rw [frame.2] at busy
    rw [frame.1] at mode ⊢
    exact after mode busy

end Kerchunk.Cwid
