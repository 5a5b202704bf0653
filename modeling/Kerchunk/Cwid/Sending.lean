import Kerchunk.Cwid.Playing

set_option autoImplicit false

/-!
# Sending an ID

Every handler of the module leaves the queue and what is pending, or it queues an ID.
-/

namespace Kerchunk.Cwid

open Queue (addBuffer addSilence bufferItem maxQueueDepth mem_place)
open Repeater (Output RptState)

variable (plcode : Plcode)

/-! ## Sending -/

variable {plcode} in
theorem render_some {enc : plcode.Enc} {room : Nat} (rounds : Nat)
    (more : plcode.complete enc = false) (free : 0 < room) :
    render plcode (rounds + 1) enc room ≠ [] := by
  have chunk : 0 < min room chunkMax := by
    simp only [chunkMax]
    omega
  intro empty
  have length := congrArg List.length empty
  simp only [render, more, Nat.ne_of_gt free, written, Bool.false_eq_true, or_self, if_false,
    List.length_append, List.length_take, List.length_replicate, List.length_nil] at length
  omega

def Able (s : Sys) : Prop :=
  -- There is room for an ID after its leading silence, and something to play.
  s.queue.count + 1 < maxQueueDepth ∧
    ∃ samples, encode plcode s.queue.rate s.cwid.cfg = some samples ∧ samples ≠ []

def Queued (s s' : Sys) : Prop :=
  -- A new ID has been queued, whole.
  ∃ id samples, encode plcode s.queue.rate s.cwid.cfg = some samples ∧ s.queue.nextId ≤ id ∧
    Awaits s'.queue id samples

theorem addSilence_full {q : Queue.State} (ms : Int) (short : 0 < ms ∧ ms ≤ 300000)
    (room : q.count + 1 < maxQueueDepth) :
    (addSilence q ms priLow).2.count = q.count + 1 ∧
      (addSilence q ms priLow).2.nextId = q.nextId + 1 := by
  have built : ¬(ms ≤ 0 ∨ ms > 300000) := by omega
  have free : ¬q.count ≥ maxQueueDepth := by omega
  simp [addSilence, Queue.silenceItem, built, Queue.addBuilt, Queue.addItem_eq, free]

theorem addSilence_waits {q : Queue.State} {id : Nat} {rest : List Int} (ms priority : Int)
    (waits : Waiting q id rest) : Waiting (addSilence q ms priority).2 id rest := by
  obtain ⟨item, member, waits⟩ := waits
  refine ⟨item, ?_, waits⟩
  unfold addSilence
  cases Queue.silenceItem q.rate ms priority with
  | none => exact member
  | some made =>
    rw [Queue.addBuilt, Queue.addItem_eq]
    split
    next => exact member
    next => exact mem_place.mpr (.inr member)

theorem tagAdded_waits {q : Queue.State} (sound : Sound q) {samples : List Int}
    (some : samples ≠ []) (room : q.count < maxQueueDepth) :
    Waiting (tagAdded (addBuffer q samples priLow 0)) q.nextId samples := by
  have free : ¬q.count ≥ maxQueueDepth := by omega
  have built : bufferItem samples priLow 0 =
      Option.some ⟨.audioBuffer, priLow, 0, 0, [], samples⟩ := by
    simp [bufferItem, some]
  have added := Queue.addItem_eq q ⟨.audioBuffer, priLow, 0, 0, [], samples⟩
  rw [if_neg free] at added
  simp only [tagAdded, addBuffer, Queue.addBuilt, built, added]
  refine ⟨_, tagFirst_tags (mem_place.mpr (.inl rfl)) rfl ?_, rfl, copySource_cwidTag, rfl⟩
  intro other member number
  rcases mem_place.mp member with rfl | old
  next => rfl
  next => exact absurd number (Nat.ne_of_lt (sound.fresh other old))

theorem tagAdded_keeps {q : Queue.State} (sound : Sound q) (samples : List Int) :
    Keeps q (tagAdded (addBuffer q samples priLow 0)) := by
  have added := addBuffer_keeps sound samples priLow 0
  unfold tagAdded
  split
  next id number =>
    -- The number is new, so the items that an ID waits in have others.
    refine added.trans (tagItem_keeps added.sound cwidTag ?_)
    intro item member tagged same
    unfold addBuffer at number member
    cases built : bufferItem samples priLow 0 with
    | none => simp [built, Queue.addBuilt] at number
    | some made =>
      rw [built, Queue.addBuilt, Queue.addItem_eq] at number member
      split at number
      next => cases number
      next free =>
        rw [if_neg free] at member
        rcases mem_place.mp member with rfl | old
        next => simp [(Queue.bufferItem_plain built).untagged, cwidTag] at tagged
        next =>
          have before := sound.fresh item old
          simp only [Option.some.injEq] at number
          omega
  next => exact added

theorem queueId_keeps {q : Queue.State} (sound : Sound q) (samples : List Int) :
    Keeps q (queueId q samples) := by
  have gap := addSilence_keeps sound 200 priLow
  have tagged := tagAdded_keeps gap.sound samples
  exact (gap.trans tagged).trans (addSilence_keeps tagged.sound 100 priLow)

theorem queueId_waits {q : Queue.State} (sound : Sound q) {samples : List Int}
    (some : samples ≠ []) (room : q.count + 1 < maxQueueDepth) :
    Waiting (queueId q samples) (q.nextId + 1) samples := by
  have gap := addSilence_keeps sound 200 priLow
  obtain ⟨count, nextId⟩ := addSilence_full 200 (by omega) room
  have waits := tagAdded_waits gap.sound some (by rw [count]; exact room)
  rw [nextId] at waits
  exact addSilence_waits 100 priLow waits

theorem voiceGap_waits {s : Sys} {id : Nat} {rest : List Int}
    (waits : Waiting s.queue id rest) : Waiting s.voiceGap id rest := by
  unfold Sys.voiceGap
  split
  next => exact addSilence_waits 500 priLow waits
  next => exact waits

theorem voiceGap_keeps {s : Sys} (sound : Sound s.queue) : Keeps s.queue s.voiceGap := by
  unfold Sys.voiceGap
  split
  next => exact addSilence_keeps sound 500 priLow
  next => exact Keeps.refl sound

structure Handles (s s' : Sys) : Prop where
  keeps : Keeps s.queue s'.queue
  cfg : s'.cwid.cfg = s.cwid.cfg
  hour : s'.hour = s.hour
  sends : (s'.queue = s.queue ∧ (s.cwid.pending = true → s'.cwid.pending = true)) ∨
    (Able plcode s → Queued plcode s s')

theorem handles_quietly {s s' : Sys} (sound : Sound s.queue) (queue : s'.queue = s.queue)
    (cfg : s'.cwid.cfg = s.cwid.cfg) (hour : s'.hour = s.hour)
    (pending : s.cwid.pending = true → s'.cwid.pending = true) : Handles plcode s s' where
  -- A handler that does not touch the queue.
  keeps := by
    rw [queue]
    exact Keeps.refl sound
  cfg := cfg
  hour := hour
  sends := .inl ⟨queue, pending⟩

theorem Handles.trans {a b c : Sys} (first : Handles plcode a b) (second : Handles plcode b c) :
    Handles plcode a c where
  keeps := first.keeps.trans second.keeps
  cfg := second.cfg.trans first.cfg
  hour := second.hour.trans first.hour
  sends := by
    rcases first.sends with ⟨same, pending⟩ | queued
    next =>
      rcases second.sends with ⟨same', pending'⟩ | queued
      next => exact .inl ⟨same'.trans same, fun held => pending' (pending held)⟩
      next =>
        right
        unfold Able Queued at queued ⊢
        rwa [same, first.cfg] at queued
    next =>
      right
      intro able
      obtain ⟨id, samples, encoded, fresh, awaits⟩ := queued able
      exact ⟨id, samples, encoded, fresh, second.keeps.awaits id samples awaits⟩

theorem sendCwid_waits {s : Sys} (sound : Sound s.queue) (able : Able plcode s) :
    ∃ samples, encode plcode s.queue.rate s.cwid.cfg = some samples ∧
      Waiting (s.sendCwid plcode).queue (s.queue.nextId + 1) samples ∧
      (s.sendCwid plcode).cwid.pending = false := by
  obtain ⟨room, samples, encoded, some⟩ := able
  refine ⟨samples, encoded, ?_⟩
  simp only [Sys.sendCwid, encoded, some, if_false]
  exact ⟨voiceGap_waits (s := { s with queue := queueId s.queue samples })
    (queueId_waits sound some room), rfl⟩

theorem sendCwid_queues {s : Sys} (sound : Sound s.queue) (able : Able plcode s) :
    Queued plcode s (s.sendCwid plcode) ∧ (s.sendCwid plcode).cwid.pending = false := by
  obtain ⟨samples, encoded, waits, sent⟩ := sendCwid_waits plcode sound able
  exact ⟨⟨s.queue.nextId + 1, samples, encoded, Nat.le_succ _, .inl waits⟩, sent⟩

theorem sendCwid_handles {s : Sys} (sound : Sound s.queue) :
    Handles plcode s (s.sendCwid plcode) := by
  cases encoded : encode plcode s.queue.rate s.cwid.cfg with
  | none =>
    have same : s.sendCwid plcode = s := by simp [Sys.sendCwid, encoded]
    rw [same]
    exact handles_quietly plcode sound rfl rfl rfl id
  | some samples =>
    refine ⟨?_, ?_, ?_, .inr fun able => (sendCwid_queues plcode sound able).1⟩
    next =>
      simp only [Sys.sendCwid, encoded, Sys.setPending]
      split
      next => exact voiceGap_keeps sound
      next =>
        have kept := queueId_keeps sound samples
        exact kept.trans (voiceGap_keeps (s := { s with queue := queueId s.queue samples })
          kept.sound)
    next =>
      simp only [Sys.sendCwid, encoded, Sys.setPending]
      split <;> rfl
    next =>
      simp only [Sys.sendCwid, encoded, Sys.setPending]
      split <;> rfl

/-! ## Handlers -/

theorem sendPending_handles {s : Sys} (sound : Sound s.queue) :
    Handles plcode s (s.sendPending plcode) := by
  unfold Sys.sendPending
  split
  next => exact sendCwid_handles plcode sound
  next => exact handles_quietly plcode sound rfl rfl rfl id

theorem sendPending_queues {s : Sys} (sound : Sound s.queue) (able : Able plcode s)
    (pending : s.cwid.pending = true) (loud : s.isQuietHour = false) :
    Queued plcode s (s.sendPending plcode) ∧ (s.sendPending plcode).cwid.pending = false := by
  have sends : s.sendPending plcode = s.sendCwid plcode := by
    simp [Sys.sendPending, pending, loud]
  rw [sends]
  exact sendCwid_queues plcode sound able

theorem timerTick_handles {s : Sys} (sound : Sound s.queue) :
    Handles plcode s (s.timerTick plcode) := by
  unfold Sys.timerTick
  split
  next => exact handles_quietly plcode sound rfl rfl rfl id
  next =>
    split
    next => exact handles_quietly plcode sound rfl rfl rfl fun _ => rfl
    next => exact sendCwid_handles plcode sound

theorem enterActive_handles {s : Sys} (sound : Sound s.queue) (fromIdle : Bool) :
    Handles plcode s (s.ocEnterActive fromIdle) :=
  handles_quietly plcode sound rfl rfl rfl fun pending => by simp [Sys.ocEnterActive, pending]

theorem tailExpire_handles {s : Sys} (sound : Sound s.queue) :
    Handles plcode s (s.ocTailExpire plcode) := by
  have stopped : Handles plcode s { s with cwid := { s.cwid with ocTimer := none } } :=
    handles_quietly plcode sound rfl rfl rfl id
  simp only [Sys.ocTailExpire]
  split
  next => exact ⟨stopped.keeps, stopped.cfg, stopped.hour, stopped.sends⟩
  next =>
    have sent := stopped.trans plcode (sendCwid_handles plcode stopped.keeps.sound)
    exact ⟨sent.keeps, sent.cfg, sent.hour, sent.sends⟩

theorem onStateChange_handles {s : Sys} (sound : Sound s.queue) (newState : RptState) :
    Handles plcode s (s.onStateChange plcode newState) := by
  have nothing : Handles plcode s s := handles_quietly plcode sound rfl rfl rfl id
  unfold Sys.onStateChange
  split
  next =>
    split
    next => exact sendPending_handles plcode sound
    next => exact nothing
  next =>
    split
    next =>
      split
      next => exact enterActive_handles plcode sound true
      next => exact nothing
    next =>
      split
      next =>
        have sent := sendPending_handles plcode sound
        exact ⟨sent.keeps, sent.cfg, sent.hour, sent.sends⟩
      next => exact nothing
    next =>
      split
      next => exact enterActive_handles plcode sound false
      next => exact nothing

theorem hear_handles {s : Sys} (sound : Sound s.queue) (o : Output) :
    Handles plcode s (s.hear plcode o) := by
  unfold Sys.hear
  split
  next => exact onStateChange_handles plcode sound _
  next => exact sendPending_handles plcode sound
  next => exact handles_quietly plcode sound rfl rfl rfl id

theorem hearAll_handles {s : Sys} (sound : Sound s.queue) (events : List Output) :
    Handles plcode s (events.foldl (fun s o => s.hear plcode o) s) := by
  induction events generalizing s with
  | nil => exact handles_quietly plcode sound rfl rfl rfl id
  | cons o rest ih =>
    have first := hear_handles plcode sound o
    exact first.trans plcode (ih first.keeps.sound)

theorem repeats_handles {s : Sys} (sound : Sound s.queue) (i : Repeater.Input) :
    Handles plcode s (s.repeats plcode i) := by
  have heard := hearAll_handles plcode (s := { s with rpt := Repeater.step s.rpt i }) sound
    (Sys.news s.rpt i)
  exact ⟨heard.keeps, heard.cfg, heard.hour, heard.sends⟩

end Kerchunk.Cwid
