import Kerchunk.Cwid.Requeue

set_option autoImplicit false

/-!
# A pending ID is sent

It stays pending until an ID is queued, and one is queued when the tail of a transmission starts
and when the repeater returns to IDLE, outside quiet hours.
-/

namespace Kerchunk.Cwid

open Config (KerchunkConfig)
open Queue (preemptSource)
open Repeater (RptState)

variable (plcode : Plcode)

/-! ## Runs -/

def Remains (s : Sys) (id : Nat) (rest : List Int) : Input → Prop
  -- What becomes of the samples of an ID that are still to come.
  | .drain maxN => Plays s.queue maxN id rest
  | .produce .flush => True
  | .txBegin =>
    Awaits (step plcode s .txBegin).queue id rest ∨
      (preemptSource s.queue = cwidTag → (step plcode s .txBegin).cwid.pending = true)
  | i => Awaits (step plcode s i).queue id rest

structure Identifies (s : Sys) (i : Input) : Prop where
  remains : ∀ id rest, Awaits s.queue id rest → Remains plcode s id rest i
  stays : s.cwid.pending = true → (step plcode s i).cwid.pending = true ∨
    (Able plcode s → Queued plcode s (step plcode s i))
  requeued : s.cwid.pending = true → s.isQuietHour = false → Able plcode s →
    Clears s (step plcode s i).rpt.state →
      Queued plcode s (step plcode s i) ∧ (step plcode s i).cwid.pending = false
  attends : (∀ cfg, i = .configure cfg → s.rpt.state = .idle) → Attends s →
    Attends (step plcode s i)

structure Ready (s : Sys) : Prop where
  sound : Sound s.queue
  paced : Paced s.cwid

theorem not_clears_same (s : Sys) : ¬Clears s s.rpt.state := by
  rintro (⟨receiving, tail⟩ | ⟨busy, idle, _⟩)
  next => simp [receiving] at tail
  next => exact busy idle

theorem Handles.stays {s s' : Sys} (handles : Handles plcode s s')
    (pending : s.cwid.pending = true) :
    s'.cwid.pending = true ∨ (Able plcode s → Queued plcode s s') :=
  handles.sends.imp (fun same => same.2 pending) id

theorem still_identifies {s : Sys} {i : Input} (rpt : (step plcode s i).rpt = s.rpt)
    (stays : s.cwid.pending = true → (step plcode s i).cwid.pending = true ∨
      (Able plcode s → Queued plcode s (step plcode s i)))
    (remains : ∀ id rest, Awaits s.queue id rest → Remains plcode s id rest i)
    (attends : Attends s → Attends (step plcode s i)) : Identifies plcode s i where
  -- A step in which the repeater does not move.
  remains := remains
  stays := stays
  requeued _ _ _ clears := by
    rw [rpt] at clears
    exact absurd clears (not_clears_same s)
  attends _ := attends

theorem repeats_identifies {s : Sys} {i : Input} {heard : Repeater.Input} (cor : Bool)
    (ready : Ready s) (same : step plcode s i = Sys.repeats plcode { s with cor := cor } heard)
    (remains : ∀ id rest, Awaits (step plcode s i).queue id rest → Remains plcode s id rest i) :
    Identifies plcode s i ∧ Ready (step plcode s i) := by
  have handles := repeats_handles plcode (s := { s with cor := cor }) ready.sound heard
  have paced := repeats_paced plcode (s := { s with cor := cor }) ready.paced heard
  have attends := repeats_attends plcode (s := { s with cor := cor }) ready.sound (i := heard)
  rw [same] at remains ⊢
  refine ⟨⟨?_, ?_, ?_, ?_⟩, ⟨handles.keeps.sound, paced⟩⟩
  next => exact fun id rest awaits => remains id rest (handles.keeps.awaits id rest awaits)
  next =>
    rw [same]
    exact handles.stays plcode
  next =>
    rw [same, repeats_rpt]
    intro pending loud able clears
    exact repeats_requeues plcode (s := { s with cor := cor }) ready.sound able pending loud clears
  next =>
    rw [same]
    exact fun _ attending => attends attending

theorem queue_identifies {s : Sys} {i : Input} {q : Queue.State} (ready : Ready s)
    (same : step plcode s i = { s with queue := q }) (sound : Sound q)
    (remains : ∀ id rest, Awaits s.queue id rest → Remains plcode s id rest i) :
    Identifies plcode s i ∧ Ready (step plcode s i) := by
  -- A step that works on the queue alone.
  refine ⟨still_identifies plcode ?_ ?_ remains ?_, ?_⟩
  all_goals rw [same]
  next => exact .inl
  next => exact id
  next => exact ⟨sound, ready.paced⟩

theorem nothing_identifies {s : Sys} {i : Input} (ready : Ready s) (same : step plcode s i = s)
    (remains : ∀ id rest, Awaits (step plcode s i).queue id rest → Remains plcode s id rest i) :
    Identifies plcode s i ∧ Ready (step plcode s i) := by
  rw [same] at remains
  exact queue_identifies plcode ready same ready.sound remains

theorem sends_identifies {s s' : Sys} {i : Input} (same : step plcode s i = s')
    (handles : Handles plcode s s') (paced : Paced s'.cwid) (rpt : s'.rpt = s.rpt)
    (attends : Attends s → Attends s')
    (remains : ∀ id rest, Awaits (step plcode s i).queue id rest → Remains plcode s id rest i) :
    Identifies plcode s i ∧ Ready (step plcode s i) := by
  -- A step in which the module sends an ID at most, or defers it.
  subst same
  exact ⟨still_identifies plcode rpt (handles.stays plcode)
    (fun id rest awaits => remains id rest (handles.keeps.awaits id rest awaits)) attends,
    handles.keeps.sound, paced⟩

theorem timerTick_frame (s : Sys) :
    ((s.timerTick plcode).cwid = { s.cwid with pending := (s.timerTick plcode).cwid.pending }) ∧
      (s.timerTick plcode).rpt = s.rpt := by
  unfold Sys.timerTick
  split
  next => exact ⟨rfl, rfl⟩
  next =>
    split
    next => exact ⟨rfl, rfl⟩
    next => exact sendCwid_frame plcode s

theorem tailExpire_frame (s : Sys) :
    ((s.ocTailExpire plcode).cwid =
        { s.cwid with
          pending := (s.ocTailExpire plcode).cwid.pending
          ocState := .idle
          ocTimer := none }) ∧
      (s.ocTailExpire plcode).rpt = s.rpt := by
  have sent := sendCwid_frame plcode { s with cwid := { s.cwid with ocTimer := none } }
  simp only [Sys.ocTailExpire]
  split
  next => exact ⟨rfl, rfl⟩
  next =>
    rw [sent.1]
    exact ⟨rfl, sent.2⟩

theorem pending_frame {s s' : Sys} {pending : Bool}
    (frame : s'.cwid = { s.cwid with pending := pending } ∧ s'.rpt = s.rpt) (paced : Paced s.cwid) :
    Paced s'.cwid ∧ (Attends s → Attends s') := by
  -- Where only what is pending changes, the conversation is followed as before.
  unfold Attends
  rw [frame.1, frame.2]
  exact ⟨paced, id⟩

theorem timer_identifies {s : Sys} {i : Input} (ready : Ready s)
    (same : step plcode s i = s.timerTick plcode)
    (remains : ∀ id rest, Awaits (step plcode s i).queue id rest → Remains plcode s id rest i) :
    Identifies plcode s i ∧ Ready (step plcode s i) := by
  have frame := timerTick_frame plcode s
  have followed := pending_frame frame ready.paced
  exact sends_identifies plcode same (timerTick_handles plcode ready.sound) followed.1 frame.2
    followed.2 remains

theorem txBegin_identifies {s : Sys} (ready : Ready s) :
    Identifies plcode s .txBegin ∧ Ready (step plcode s .txBegin) := by
  let cut : Sys := { s.preemptQueue with cor := true }
  have frame : s.preemptQueue.rpt = s.rpt ∧ s.preemptQueue.cwid.cfg = s.cwid.cfg ∧
      s.preemptQueue.cwid.ocState = s.cwid.ocState ∧
      s.preemptQueue.cwid.ocTimer = s.cwid.ocTimer := by
    simp only [Sys.preemptQueue, Sys.onQueuePreempted, Sys.setPending]
    split
    next =>
      split
      next => split <;> exact ⟨rfl, rfl, rfl, rfl⟩
      next => exact ⟨rfl, rfl, rfl, rfl⟩
    next => exact ⟨rfl, rfl, rfl, rfl⟩
  have sound : Sound cut.queue := preemptQueue_sound ready.sound
  have paced : Paced cut.cwid := by
    intro ms timer
    rw [show cut.cwid.ocState = s.cwid.ocState from frame.2.2.1]
    exact ready.paced ms (frame.2.2.2 ▸ timer)
  have handles := repeats_handles plcode sound .corAssert
  refine ⟨⟨?_, ?_, ?_, ?_⟩, handles.keeps.sound, repeats_paced plcode paced _⟩
  next =>
    intro id rest awaits
    rcases preemptQueue_reports awaits with kept | reported
    next => exact .inl (handles.keeps.awaits id rest kept)
    next => exact .inr fun source => corAssert_pending plcode (s := cut) (reported source)
  next =>
    intro pending
    exact .inl (corAssert_pending plcode (s := cut) (preemptQueue_pending pending))
  next =>
    -- A key-up neither starts a tail nor leads to IDLE.
    intro _ _ _ clears
    have entered : (step plcode s .txBegin).rpt = Repeater.step s.rpt .corAssert := by
      rw [← frame.1]
      exact repeats_rpt plcode cut .corAssert
    rw [entered] at clears
    rcases corAssert_state s.rpt with same | receiving
    next =>
      rw [same] at clears
      exact absurd clears (not_clears_same s)
    next => simp [Clears, receiving] at clears
  next =>
    intro _ attends
    refine repeats_attends plcode sound ?_ .corAssert
    intro mode busy
    show s.preemptQueue.cwid.ocState = .active
    rw [frame.2.2.1]
    exact attends (frame.2.1 ▸ mode) (frame.1 ▸ busy)

theorem ocTimer_identifies {s : Sys} (ready : Ready s) :
    Identifies plcode s .ocTimer ∧ Ready (step plcode s .ocTimer) := by
  cases timer : s.cwid.ocTimer with
  | none =>
    have same : step plcode s .ocTimer = s := by simp [step, timer]
    exact nothing_identifies plcode ready same fun _ _ awaits => awaits
  | some running =>
    cases running with
    | activeTick ms =>
      have same : step plcode s .ocTimer = s.timerTick plcode := by simp [step, timer]
      exact timer_identifies plcode ready same fun _ _ awaits => awaits
    | tailExpire ms =>
      have same : step plcode s .ocTimer = s.ocTailExpire plcode := by simp [step, timer]
      have frame := tailExpire_frame plcode s
      refine sends_identifies plcode same (tailExpire_handles plcode ready.sound) ?_ frame.2 ?_
        fun _ _ awaits => awaits
      next =>
        rw [frame.1]
        exact fun ms timer => by cases timer
      next =>
        -- The repeater is in IDLE, for the module would be ACTIVE otherwise.
        intro attends
        unfold Attends
        rw [frame.1, frame.2]
        intro mode busy
        have active := attends mode busy
        rw [ready.paced ms timer] at active
        cases active

theorem configure_identifies {s : Sys} (ready : Ready s) (cfg : KerchunkConfig) :
    Identifies plcode s (.configure cfg) ∧ Ready (step plcode s (.configure cfg)) := by
  have handles := repeats_handles plcode ready.sound (.configure cfg)
  have unmoved : (step plcode s (.configure cfg)).rpt.state = s.rpt.state := by
    show (s.repeats plcode (.configure cfg)).rpt.state = s.rpt.state
    rw [repeats_rpt]
    simp only [Repeater.step, Repeater.whenLoaded]
    split <;> rfl
  refine ⟨⟨?_, handles.stays plcode, ?_, ?_⟩, handles.keeps.sound, fun _ timer => by cases timer⟩
  next => exact fun id rest awaits => handles.keeps.awaits id rest awaits
  next =>
    intro _ _ _ clears
    rw [unmoved] at clears
    exact absurd clears (not_clears_same s)
  next =>
    intro idle _ _ busy
    rw [unmoved] at busy
    exact absurd (idle cfg rfl) busy

theorem step_identifies {s : Sys} (ready : Ready s) (i : Input) :
    Identifies plcode s i ∧ Ready (step plcode s i) := by
  cases i with
  | drain maxN =>
    exact queue_identifies plcode ready rfl (drain_sound ready.sound maxN)
      fun id rest awaits => drain_plays ready.sound maxN awaits
  | produce request =>
    have same : step plcode s (.produce request) =
        { s with queue := (s.othersCall request).queue } := by
      cases request <;> simp only [step, Sys.othersCall]
      split <;> rfl
    by_cases flush : request = .flush
    next =>
      subst flush
      exact queue_identifies plcode ready same (cleared_sound rfl rfl) fun _ _ _ => trivial
    next =>
      have keeps := othersCall_keeps ready.sound flush
      refine queue_identifies plcode ready same keeps.sound fun id rest awaits => ?_
      have stays := keeps.awaits id rest awaits
      cases request <;> first | exact absurd rfl flush | exact stays
  | rpt i => exact repeats_identifies plcode s.cor ready rfl fun _ _ awaits => awaits
  | txBegin => exact txBegin_identifies plcode ready
  | txEnd => exact repeats_identifies plcode false ready rfl fun _ _ awaits => awaits
  | simCor active => exact repeats_identifies plcode active ready rfl fun _ _ awaits => awaits
  | hourPasses hour =>
    exact ⟨still_identifies plcode rfl .inl (fun _ _ awaits => awaits) id, ready.sound,
      ready.paced⟩
  | solarTimes sunrise sunset =>
    by_cases solar : s.cwid.cfg.quietSolar
    next =>
      have same : step plcode s (.solarTimes sunrise sunset) =
          { s with cwid := { s.cwid with cfg := s.cwid.cfg.solarHours sunrise sunset } } := by
        simp [step, solar]
      refine ⟨still_identifies plcode ?_ ?_ ?_ ?_, ?_⟩
      all_goals simp only [Remains, same]
      next => exact .inl
      next => exact fun _ _ awaits => awaits
      next => exact id
      next => exact ⟨ready.sound, ready.paced⟩
    next =>
      have same : step plcode s (.solarTimes sunrise sunset) = s := by
        simp [step, solar]
      exact nothing_identifies plcode ready same fun _ _ awaits => awaits
  | schedule =>
    by_cases scheduled : s.cwid.scheduled = none
    next =>
      have same : step plcode s .schedule = s := by simp [step, scheduled]
      exact nothing_identifies plcode ready same fun _ _ awaits => awaits
    next =>
      have same : step plcode s .schedule = s.timerTick plcode := by simp [step, scheduled]
      exact timer_identifies plcode ready same fun _ _ awaits => awaits
  | ocTimer => exact ocTimer_identifies plcode ready
  | cwidNow =>
    have frame := sendCwid_frame plcode s
    have followed := pending_frame frame ready.paced
    exact sends_identifies plcode rfl (sendCwid_handles plcode ready.sound) followed.1 frame.2
      followed.2 fun _ _ awaits => awaits
  | configure cfg => exact configure_identifies plcode ready cfg

theorem start_ready (rate : Nat) (hasTts : Bool) : Ready (start rate hasTts) where
  sound := init_sound rate
  paced := fun _ timer => by cases timer

def oneDash : Plcode where
  -- An encoder that keys one dash: what is left of it.
  Enc := Nat
  create rate _ _ _ _ := some rate
  complete left := left = 0
  process left room :=
    (List.replicate (min left room) 4000 ++ List.replicate (room - left) 0, left - room)

def nightlyQuiet : KerchunkConfig :=
  [{ sectionName := "general".toList, key := "callsign".toList, value := "WRDP519".toList },
   { sectionName := "repeater".toList, key := "cor_debounce".toList, value := "0".toList },
   { sectionName := "repeater".toList, key := "quiet_start".toList, value := "22".toList },
   { sectionName := "repeater".toList, key := "quiet_end".toList, value := "6".toList }]

def lateCall : List Input :=
  -- The ID falls due during a call that lasts into the quiet hours.
  [.configure nightlyQuiet, .hourPasses 21, .txBegin, .schedule, .hourPasses 22]

def callEnds : List Input :=
  -- The call ends, and the tail and the hang time pass.
  [.txEnd, .rpt (.elapse 2000000), .rpt .beginTick, .rpt (.visit Core.firstSlot),
   .rpt (.elapse 500000), .rpt .beginTick, .rpt (.visit Core.firstSlot)]

end Kerchunk.Cwid
