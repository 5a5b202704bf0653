import Kerchunk.Courtesy.Tones
import Kerchunk.Lib.Machine

set_option autoImplicit false

/-!
# Courtesy tones that answer a transmission

A tone is queued when a transmission is complete. The module takes a completion for its own tone's
when it comes within 500 ms of queueing it.
-/

namespace Kerchunk.Courtesy

open AudioTick (Action Call)
open Config (KerchunkConfig Text)
open Queue (Item Producer)
open Shell (Sound)

variable (encoder : Nat → Int → Int → Option (Nat → Int))

/-- `further` counts the tones that have answered a completion since the last external event, and
`mark` the items that were taken from the queue up to the last completion. -/
structure Tally where
  further : Nat
  mark : Nat

structure Heard where
  sys : Sys
  tally : Tally

def external (s s' : Sys) : Input → Bool
  -- A COR, link or virtual COR drop, or an item that another module has queued.
  | .corDrop _ | .linkRxDrop _ | .vcorDrop .. => true
  | .produce _ => decide (s.shell.queue.head.length < s'.shell.queue.head.length)
  | _ => false

def completion (s : Sys) : Input → Bool
  | .act _ => s.shell.pc.completes
  | _ => false

def Tally.step (t : Tally) (s : Sys) (i : Input) (s' : Sys) : Tally where
  further :=
    if external s s' i then 0 else t.further + (s'.announced.length - s.announced.length)
  mark := if completion s i then s.shell.popped.length else t.mark

def Heard.step (h : Heard) (i : Input) : Heard :=
  let after := Courtesy.step encoder h.sys i
  { sys := after, tally := h.tally.step h.sys i after }

def heard (rate : Nat) : Heard where
  sys := start rate
  tally := ⟨0, 0⟩

def ours (item : Item) : Prop :=
  -- The module's own, or nothing to hear.
  item.source = courtesyTag ∨ item.buf = []

instance (item : Item) : Decidable (ours item) :=
  inferInstanceAs (Decidable (_ ∨ _))

def Heard.aired (h : Heard) : List Item :=
  -- The items of the transmission in progress.
  h.sys.shell.popped.drop h.tally.mark

def Heard.other (h : Heard) : Prop :=
  -- Other audio, without NO_TAIL.
  ∃ item ∈ h.aired, ¬ours item ∧ noTail item.flags = false

instance (h : Heard) : Decidable h.other :=
  inferInstanceAs (Decidable (∃ item ∈ h.aired, _))

def Courteous (h : Heard) (i : Input) : Prop :=
  (h.step encoder i).tally.further ≤ 1 ∧
    (completion h.sys i = true → h.sys.cfg.queueCourtesy = true → h.other →
      toneIn h.sys.shell.queue (Courtesy.step encoder h.sys i).shell.queue = true)

instance (h : Heard) (i : Input) : Decidable (Courteous encoder h i) :=
  inferInstanceAs (Decidable (_ ∧ (_ → _ → _ → _)))

/-- A completion after a tone has answered one, with nothing external since, comes within 500 ms of
that tone. One of other audio finds no tone remembered that is as recent, and the module able to
queue one. -/
structure Timed (h : Heard) : Prop where
  own : 1 ≤ h.tally.further → h.sys.cfg.enabled = true → h.sys.cfg.queueCourtesy = true →
    noTail h.sys.shell.queue.lastDrainFlags = false → h.sys.recent h.sys.stamp = true
  other : h.sys.cfg.queueCourtesy = true → h.other →
    h.sys.recent h.sys.stamp = false ∧ h.sys.cfg.enabled = true ∧
      noTail h.sys.shell.queue.lastDrainFlags = false ∧ Sounds h.sys

def Timely (h : Heard) (i : Input) : Prop :=
  completion h.sys i = true → Timed h

/-! ## What the module does -/

theorem queueTone_cases (s : Sys) (reason : Text) (now : UInt64) :
    (s.cfg.enabled = false ∧ s.queueTone encoder reason now = s) ∨
    (s.cfg.enabled = true ∧ s.queueTone encoder reason now =
      { s with
        shell := { s.shell with queue := s.toned encoder }
        last := now
        announced := s.announced ++ [reason] }) := by
  cases on : s.cfg.enabled with
  | false => exact .inl ⟨rfl, by simp [Sys.queueTone, on]⟩
  | true => exact .inr ⟨rfl, by simp [Sys.queueTone, on]⟩

def Sys.answers (s : Sys) : Prop :=
  -- A completion now is answered by a tone.
  s.cfg.enabled = true ∧ s.cfg.queueCourtesy = true ∧ s.recent s.stamp = false ∧
    noTail s.shell.queue.lastDrainFlags = false

theorem onQueueComplete_cases (s : Sys) (now : UInt64) :
    (s.answers ∧ s.onQueueComplete encoder s.stamp now =
      { s with
        shell := { s.shell with queue := s.toned encoder }
        last := now
        announced := s.announced ++ ["queue_complete".toList] }) ∨
    (¬s.answers ∧ s.onQueueComplete encoder s.stamp now = { s with last := 0 }) := by
  cases recent : s.recent s.stamp with
  | true =>
    refine .inr ⟨fun answers => ?_, by simp [Sys.onQueueComplete, recent]⟩
    have late := answers.2.2.1
    rw [recent] at late
    cases late
  | false =>
    by_cases asked : s.cfg.queueCourtesy = true ∧ noTail s.shell.queue.lastDrainFlags = false
    next =>
      rcases queueTone_cases encoder { s with last := 0 } "queue_complete".toList now with
        ⟨off, same⟩ | ⟨on, queued⟩
      next =>
        refine .inr ⟨fun answers => ?_, ?_⟩
        next => simp [answers.1] at off
        next => simpa [Sys.onQueueComplete, recent, asked] using same
      next =>
        refine .inl ⟨⟨on, asked.1, recent, asked.2⟩, ?_⟩
        have started : s.onQueueComplete encoder s.stamp now =
            Sys.queueTone encoder { s with last := 0 } "queue_complete".toList now := by
          simp [Sys.onQueueComplete, recent, asked]
        exact started.trans queued
    next =>
      refine .inr ⟨fun answers => asked ⟨answers.2.1, answers.2.2.2⟩, ?_⟩
      simp [Sys.onQueueComplete, recent, asked]

theorem othersCall_cases (s : Sys) (request : Producer) :
    s.othersCall request = s ∨
    (s.othersCall request = { s with shell := Shell.step s.shell (.produce request) } ∧
      ∀ id source, request = .tagItem id source →
        ∀ item ∈ s.shell.queue.head, item.id = id → item.source ≠ courtesyTag) := by
  cases request with
  | tagItem id source =>
    simp only [Sys.othersCall]
    split
    next => exact .inl rfl
    next foreign =>
      refine .inr ⟨rfl, fun number name same item member here mine => ?_⟩
      cases same
      exact foreign (.inr ⟨item, member, here, mine⟩)
  | _ => exact .inr ⟨rfl, fun _ _ same => by cases same⟩

/-- What a step does to the tones: a completion that is answered or not, a drop, or nothing. -/
inductive Tones (s : Sys) (i : Input) (s' : Sys) : Prop where
  | answered : completion s i = true → s.answers → s'.shell.queue = s.toned encoder →
      s'.announced = s.announced ++ ["queue_complete".toList] → Tones s i s'
  | unanswered : completion s i = true → ¬s.answers → s'.shell.queue = s.shell.queue →
      s'.announced = s.announced → Tones s i s'
  | dropped : completion s i = false → external s s' i = true →
      s'.shell.queue = s.shell.queue ∨ s'.shell.queue = s.toned encoder → Tones s i s'
  | other : completion s i = false → s'.announced = s.announced →
      Shell.Touched s.shell.queue s'.shell.queue → Tones s i s'

theorem queueTone_tones (s : Sys) (i : Input) (reason : Text) (now : UInt64)
    (incomplete : completion s i = false) (outside : ∀ s', external s s' i = true) :
    Tones encoder s i (s.queueTone encoder reason now) := by
  rcases queueTone_cases encoder s reason now with ⟨-, same⟩ | ⟨-, queued⟩
  next => exact .dropped incomplete (outside _) (.inl (by rw [same]))
  next => exact .dropped incomplete (outside _) (.inr (by rw [queued]))

theorem step_tones (s : Sys) (i : Input) : Tones encoder s i (step encoder s i) := by
  cases i with
  | corDrop now => exact queueTone_tones encoder s _ _ now rfl fun _ => rfl
  | linkRxDrop now => exact queueTone_tones encoder s _ _ now rfl fun _ => rfl
  | vcorDrop source now => exact queueTone_tones encoder s _ _ now rfl fun _ => rfl
  | callerIdentified userId => exact .other rfl rfl (.inl rfl)
  | callerCleared => exact .other rfl rfl (.inl rfl)
  | configure cfg => exact .other rfl rfl (.inl rfl)
  | produce request =>
    rcases othersCall_cases s request with same | ⟨called, -⟩
    next =>
      rw [step, same]
      exact .other rfl rfl (.inl rfl)
    next =>
      rw [step, called]
      exact .other rfl rfl (Shell.step_touches s.shell (.produce request))
  | readDepth => exact .other rfl rfl (Shell.step_touches s.shell .readDepth)
  | tick c =>
    unfold step
    dsimp only
    split
    next => exact .other rfl rfl (Shell.step_touches s.shell (.tick c))
    next => exact .other rfl rfl (.inl rfl)
  | act now =>
    cases fires : s.shell.pc.completes with
    | false =>
      have acted : step encoder s (.act now) = { s with shell := Shell.step s.shell .act } := by
        simp [step, fires]
      rw [acted]
      exact .other fires rfl (Shell.step_touches s.shell .act)
    | true =>
      obtain ⟨pc, moved⟩ := Shell.act_completes fires
      let done : Sys := { s with shell := { s.shell with pc := pc } }
      have acted : step encoder s (.act now) = done.onQueueComplete encoder done.stamp now := by
        simp [step, fires, Shell.step, moved, done]
      rw [acted]
      rcases onQueueComplete_cases encoder done now with ⟨answers, queued⟩ | ⟨silent, cleared⟩
      next =>
        rw [queued]
        exact .answered fires answers rfl rfl
      next =>
        rw [cleared]
        exact .unanswered fires silent rfl rfl

/-! ## A step, and a run -/

structure Good (h : Heard) : Prop where
  sound : Sound h.sys.shell.queue
  numbered : Numbered h.sys.shell.queue
  few : h.tally.further ≤ 1

theorem touched_fit {q q' : Queue.State} (touched : Shell.Touched q q') (sound : Sound q)
    (numbered : Numbered q) : Sound q' ∧ Numbered q' := by
  rcases touched with rfl | ⟨request, rfl⟩ | ⟨maxN, rfl⟩
  next => exact ⟨sound, numbered⟩
  next => exact ⟨Shell.sound_produce sound request, numbered_produce numbered request⟩
  next => exact ⟨Shell.sound_drain sound maxN, numbered_drain sound numbered maxN⟩

theorem step_fit {s : Sys} (sound : Sound s.shell.queue) (numbered : Numbered s.shell.queue)
    (i : Input) : Sound (step encoder s i).shell.queue ∧ Numbered (step encoder s i).shell.queue := by
  have adds : Adds s.shell.queue (s.toned encoder) := toned_adds encoder numbered sound
  cases step_tones encoder s i with
  | answered _ _ queued _ =>
    rw [queued]
    exact ⟨adds.sound, adds.numbered⟩
  | unanswered _ _ same _ =>
    rw [same]
    exact ⟨sound, numbered⟩
  | dropped _ _ either =>
    rcases either with same | queued
    next =>
      rw [same]
      exact ⟨sound, numbered⟩
    next =>
      rw [queued]
      exact ⟨adds.sound, adds.numbered⟩
  | other _ _ touched => exact touched_fit touched sound numbered

theorem further_silent {h : Heard} {i : Input} {s' : Sys} (silent : s'.announced = h.sys.announced)
    (few : h.tally.further ≤ 1) : (h.tally.step h.sys i s').further ≤ 1 := by
  simp only [Tally.step, silent, Nat.sub_self, Nat.add_zero]
  split
  next => exact Nat.zero_le 1
  next => exact few

theorem further_answered {h : Heard} {i : Input} {s' : Sys} (fires : completion h.sys i = true)
    (answered : s'.announced = h.sys.announced ++ ["queue_complete".toList]) :
    (h.tally.step h.sys i s').further = h.tally.further + 1 := by
  cases i with
  | act now => simp [Tally.step, external, answered]
  | _ => cases fires

theorem courteous_iff {h : Heard} (good : Good h) (i : Input) :
    Courteous encoder h i ↔ Timely h i := by
  unfold Courteous Timely Heard.step
  dsimp only
  cases step_tones encoder h.sys i with
  | answered fires answers queued announced =>
    obtain ⟨on, asked, late, tail⟩ := answers
    rw [further_answered fires announced, queued]
    refine ⟨fun ⟨first, owed⟩ _ => ⟨fun again => ?_, fun _ other => ?_⟩,
      fun timed => ⟨?_, fun _ _ other => ?_⟩⟩
    next => exact absurd again (by omega)
    next =>
      exact ⟨late, on, tail, toned_sounds good.sound good.numbered (owed fires asked other)⟩
    next =>
      by_contra again
      have recent := (timed fires).own (by omega) on asked tail
      rw [late] at recent
      cases recent
    next => exact toned_has encoder ((timed fires).other asked other).2.2.2
  | unanswered fires silent queued announced =>
    rw [queued, toneIn_same good.numbered]
    refine ⟨fun ⟨_, owed⟩ _ => ⟨fun _ on asked tail => ?_, fun asked other => ?_⟩,
      fun timed => ⟨further_silent announced good.few, fun _ asked other => ?_⟩⟩
    next =>
      by_contra late
      exact silent ⟨on, asked, Bool.eq_false_iff.mpr late, tail⟩
    next => cases owed fires asked other
    next =>
      obtain ⟨late, on, tail, -⟩ := (timed fires).other asked other
      exact absurd ⟨on, asked, late, tail⟩ silent
  | dropped incomplete outside _ =>
    refine ⟨fun _ fires => ?_, fun _ => ⟨?_, fun fires => ?_⟩⟩
    next => cases incomplete.symm.trans fires
    next => simp [Tally.step, outside]
    next => cases incomplete.symm.trans fires
  | other incomplete announced _ =>
    refine ⟨fun _ fires => ?_, fun _ => ⟨further_silent announced good.few, fun fires => ?_⟩⟩
    next => cases incomplete.symm.trans fires
    next => cases incomplete.symm.trans fires

theorem heard_good (rate : Nat) : Good (heard rate) where
  sound := ⟨fun _ member => by (cases member), rfl⟩
  numbered _ member := by cases member
  few := Nat.zero_le 1

theorem courtesy_tones_timed (rate : Nat) (inputs : List Input) :
    Machine.Guarded (Heard.step encoder) (Courteous encoder) (heard rate) inputs ↔
      Machine.Guarded (Heard.step encoder) Timely (heard rate) inputs := by
  refine Machine.guarded_iff_of_invariant (Heard.step encoder) (P := Good)
    (fun _ i good => courteous_iff encoder good i) (fun h i good timely => ?_) (heard_good rate)
  obtain ⟨sound, numbered⟩ := step_fit encoder good.sound good.numbered i
  exact ⟨sound, numbered, ((courteous_iff encoder good i).mpr timely).1⟩

def longTone : KerchunkConfig :=
  [{ sectionName := "courtesy".toList, key := "duration".toList, value := "500".toList },
   { sectionName := "courtesy".toList, key := "queue_courtesy".toList, value := "on".toList }]

def frameCall (ms : Nat) : Call where
  -- A tail of 200 ms, and no delay.
  sampleRate := 8000
  frameSamples := 160
  txDelayMs := 0
  txTailMs := 200
  relayDrain := 0
  inp := ⟨false, false, 0, false, 8000, 0, .ofNat (1000 * ms)⟩

def frame (ms : Nat) : List Input :=
  -- One turn of the audio thread's loop.
  [.readDepth, .tick (frameCall ms)] ++ List.replicate 5 (.act (.ofNat (1000 * ms)))

def steady (_ : Nat) (_ _ : Int) : Option (Nat → Int) :=
  some fun _ => 1

/-- An announcement of 20 ms, and the tone of 500 ms that answers it. -/
def answeredTwice : List Input :=
  [.configure longTone, .produce (.addBuffer (List.replicate 160 1) 2 0)] ++
    (List.range 32).flatMap fun k => frame (20 * (k + 1))

theorem long_tone_chains : ¬Machine.Guarded (Heard.step steady) (Courteous steady) (heard 8000)
    answeredTwice := by
  decide +kernel

end Kerchunk.Courtesy
