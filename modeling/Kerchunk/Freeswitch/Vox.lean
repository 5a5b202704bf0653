import Kerchunk.Freeswitch.Model
import Kerchunk.Lib.CircularWindow
import Kerchunk.Lib.Machine
import Mathlib.Algebra.Ring.Int.Defs
import Mathlib.Data.Nat.Sqrt

set_option autoImplicit false

/-!
# From the phone to the radio (`modules/mod_freeswitch.c`)

Frames of the call go to the queue while somebody speaks on the phone. A ring keeps the last frames,
which are replayed when PTT engages.
-/

namespace Kerchunk.Freeswitch

open CircularWindow (window)
open LossyRing (newest)

def frameMs : Int := 20
def prerollFrames : Nat := 10

abbrev Frame := List Int

/-! ## The voice detector -/

structure VadSettings where
  threshold : Int
  holdMs : Int
  attackFrames : Int

structure Vad where
  speechFrames : Int
  holdRemaining : Int
deriving DecidableEq

def computeRms (buf : Frame) : Nat :=
  Nat.sqrt ((buf.map fun sample => sample * sample).sum.toNat / buf.length)

def vadProcess (cfg : VadSettings) (vad : Vad) (held : Bool) (buf : Frame) : Vad × Bool :=
  if (computeRms buf : Int) ≥ cfg.threshold then
    let vad : Vad := { speechFrames := vad.speechFrames + 1, holdRemaining := cfg.holdMs }
    (vad, if vad.speechFrames ≥ cfg.attackFrames then true else held)
  else if vad.holdRemaining > 0 then
    let rest := vad.holdRemaining - frameMs
    ({ speechFrames := 0, holdRemaining := rest }, decide (rest > 0))
  else ({ vad with speechFrames := 0 }, false)

def vadReset : Vad where
  speechFrames := 0
  holdRemaining := 0

/-! ## The pre-roll -/

/-- `g_preroll`, `g_preroll_w`, `g_preroll_count` and `g_vox_ptt_held`. -/
structure Vox (F : Type) where
  preroll : Nat → F
  w : Nat
  count : Nat
  held : Bool

section Vox

variable {F : Type}

def Vox.init (zero : F) : Vox F where
  preroll := fun _ => zero
  w := 0
  count := 0
  held := false

def Vox.update (v : Vox F) (frame : F) : Vox F :=
  { v with
    preroll := Function.update v.preroll v.w frame
    w := (v.w + 1) % prerollFrames
    count := if v.count < prerollFrames then v.count + 1 else v.count }

def queuePreroll (v : Vox F) : List F :=
  -- The frames that it queues.
  window prerollFrames v.preroll ((v.w + prerollFrames - v.count) % prerollFrames) v.count

def voxProcessAndQueue (v : Vox F) (frame : F) (speaking : Bool) : Vox F × List F :=
  let v := v.update frame
  if speaking then
    if v.held then (v, [frame])
    else
      let v := { v with held := true, count := v.count - 1 }
      ({ v with count := 0 }, queuePreroll v ++ [frame])
  else ({ v with held := false }, [])

def Vox.callStarts (v : Vox F) : Vox F :=
  -- A new call finds the ring as the last one has left it.
  { v with held := false }

end Vox

/-! ## With the detector -/

structure Phone where
  vox : Vox Frame
  vad : Vad

def Phone.hears (cfg : VadSettings) (p : Phone) (frame : Frame) (got : Nat) : Vad × Bool :=
  -- `got` samples of the frame come from the jitter buffer, and silence fills the rest.
  if got > 0 then vadProcess cfg p.vad p.vox.held frame else (p.vad, false)

def Phone.tick (cfg : VadSettings) (p : Phone) (frame : Frame) (got : Nat) : Phone × List Frame :=
  let heard := p.hears cfg frame got
  let out := voxProcessAndQueue p.vox frame heard.2
  (⟨out.1, heard.1⟩, out.2)

/-- A tick leaves PTT as the model of the call has it. -/
theorem voxProcess_held (cfg : VadSettings) (p : Phone) (frame : Frame) (got : Nat) (s : State)
    (active : s.callActive = true) (inactive : s.corActive = false) :
    (p.tick cfg frame got).1.vox.held = (voxProcess s (p.hears cfg frame got).2).voxPttHeld := by
  simp only [Phone.tick, voxProcessAndQueue, voxProcess, active, inactive, and_self, if_true]
  cases (p.hears cfg frame got).2 with
  | true =>
    simp only [if_true]
    cases held : (p.vox.update frame).held <;> cases pressed : s.voxPttHeld <;> simp [held, pressed]
  | false =>
    simp only [Bool.false_eq_true, if_false]
    cases pressed : s.voxPttHeld <;> simp [pressed]

/-! ## Frames of a call -/

/-- A frame with the number of the tick that has read it. -/
abbrev Heard := Nat × Frame

/-- Beside the code, the frames of the call: all of them, those since the last one that was queued,
and the queued ones. -/
structure Line where
  vox : Vox Heard
  ticks : Nat
  received : List Heard
  pending : List Heard
  queued : List Heard

inductive LineInput where
  | call
  | frame (samples : Frame) (speaking : Bool)
deriving DecidableEq

namespace Line

def start : Line where
  vox := Vox.init (0, [])
  ticks := 0
  received := []
  pending := []
  queued := []

variable (l : Line)

def heard (samples : Frame) : Heard :=
  (l.ticks, samples)

def queues (samples : Frame) (speaking : Bool) : List Heard :=
  (voxProcessAndQueue l.vox (l.heard samples) speaking).2

def hear (samples : Frame) (speaking : Bool) : Line where
  vox := (voxProcessAndQueue l.vox (l.heard samples) speaking).1
  ticks := l.ticks + 1
  received := l.received ++ [l.heard samples]
  pending := if l.queues samples speaking = [] then l.pending ++ [l.heard samples] else []
  queued := l.queued ++ l.queues samples speaking

def step : LineInput → Line
  | .call => { l with vox := l.vox.callStarts, received := [], pending := [], queued := [] }
  | .frame samples speaking => l.hear samples speaking

def engages (speaking : Bool) : Bool :=
  speaking && !l.vox.held

/-- The radio gets frames of the call in their order and none twice; and when PTT engages, the last
ones that it has not had, with the current one at their end. -/
structure Lawful (samples : Frame) (speaking : Bool) : Prop where
  ordered : (l.hear samples speaking).queued.Sublist (l.hear samples speaking).received
  once : (l.hear samples speaking).queued.Nodup
  leading : l.engages speaking = true →
    l.queues samples speaking = newest prerollFrames (l.pending ++ [l.heard samples])

def Obeys : LineInput → Prop
  | .call => True
  | .frame samples speaking => l.Lawful samples speaking

def Fresh : LineInput → Prop
  -- PTT engages only with an empty ring.
  | .call => True
  | .frame _ speaking => l.engages speaking = true → l.vox.count = 0

/-! ## What the ring and the call have in common -/

structure Sound (l : Line) : Prop where
  inside : l.vox.w < prerollFrames
  few : l.vox.count ≤ prerollFrames
  old : ∀ f ∈ l.received, f.1 < l.ticks
  distinct : l.received.Nodup
  tail : ∃ before, l.received = before ++ l.pending ∧ l.queued.Sublist before
  empty : l.vox.count = 0 → l.pending = []

variable {l}

theorem sound_start : Sound start where
  inside := by decide
  few := Nat.zero_le _
  old := by simp [start]
  distinct := List.nodup_nil
  tail := ⟨[], rfl, List.Sublist.refl _⟩
  empty := fun _ => rfl

theorem update_count (sound : Sound l) (frame : Heard) :
    (l.vox.update frame).count = min (l.vox.count + 1) prerollFrames := by
  have few := sound.few
  by_cases room : l.vox.count < prerollFrames
  next =>
    simp only [Vox.update, room, if_true]
    omega
  next =>
    simp only [Vox.update, room, if_false]
    omega

theorem update_sound (sound : Sound l) (frame : Heard) :
    (l.vox.update frame).w < prerollFrames ∧ (l.vox.update frame).count ≤ prerollFrames ∧
      0 < (l.vox.update frame).count := by
  rw [update_count sound]
  exact ⟨Nat.mod_lt _ (by decide), Nat.min_le_right _ _, Nat.lt_min.mpr ⟨Nat.succ_pos _, by decide⟩⟩

theorem queues_held (held : l.vox.held = true) (samples : Frame) :
    l.queues samples true = [l.heard samples] := by
  simp [queues, voxProcessAndQueue, Vox.update, held]

/-- Where the ring was empty, nothing is replayed. -/
theorem queues_fresh (free : l.vox.held = false) (fresh : l.vox.count = 0) (samples : Frame) :
    l.queues samples true = [l.heard samples] := by
  simp [queues, voxProcessAndQueue, Vox.update, free, fresh, queuePreroll, prerollFrames]

theorem last_replayed {w n : Nat} (inside : w < prerollFrames) (some : 0 < n)
    (few : n < prerollFrames) :
    (((w + 1) % prerollFrames + prerollFrames - n) % prerollFrames + (n - 1)) % prerollFrames = w := by
  unfold prerollFrames at inside few ⊢
  omega

/-- What is replayed ends with the frame that is queued after it. -/
theorem replays_current (sound : Sound l) (free : l.vox.held = false) (some : l.vox.count ≠ 0)
    (samples : Frame) : ∃ lead, l.queues samples true = lead ++ [l.heard samples, l.heard samples] := by
  obtain ⟨-, most, -⟩ := update_sound sound (l.heard samples)
  have more : 1 < (l.vox.update (l.heard samples)).count := by
    rw [update_count sound, prerollFrames]
    omega
  obtain ⟨n, replayed⟩ : ∃ n, (l.vox.update (l.heard samples)).count - 1 = n + 1 :=
    ⟨(l.vox.update (l.heard samples)).count - 2, by omega⟩
  have place := last_replayed sound.inside (show 0 < n + 1 by omega)
    (show n + 1 < prerollFrames by omega)
  have free' : (l.vox.update (l.heard samples)).held = false := free
  refine ⟨window prerollFrames (l.vox.update (l.heard samples)).preroll
    (((l.vox.update (l.heard samples)).w + prerollFrames - (n + 1)) % prerollFrames) n, ?_⟩
  simp only [queues, voxProcessAndQueue, free', if_true, Bool.false_eq_true, if_false, queuePreroll,
    replayed, CircularWindow.window_succ, List.append_assoc, List.singleton_append]
  congr 2
  simp only [Vox.update] at place ⊢
  rw [Nat.add_sub_cancel] at place
  rw [place, Function.update_self]

theorem engages_iff {speaking : Bool} :
    l.engages speaking = true ↔ speaking = true ∧ l.vox.held = false := by
  simp [engages]

/-- Where the ring is empty when PTT engages, a tick queues nothing or the current frame. -/
theorem queues_cases {samples : Frame} {speaking : Bool} (fresh : l.Fresh (.frame samples speaking)) :
    l.queues samples speaking = [] ∧ speaking = false ∨
      l.queues samples speaking = [l.heard samples] ∧ speaking = true := by
  cases speaking with
  | false => exact .inl ⟨rfl, rfl⟩
  | true =>
    right
    cases held : l.vox.held with
    | true => exact ⟨queues_held held samples, rfl⟩
    | false => exact ⟨queues_fresh held (fresh (engages_iff.mpr ⟨rfl, held⟩)) samples, rfl⟩

theorem heard_new (sound : Sound l) (samples : Frame) : l.heard samples ∉ l.received :=
  fun member => Nat.lt_irrefl _ (sound.old _ member)

theorem received_distinct (sound : Sound l) (samples : Frame) :
    (l.received ++ [l.heard samples]).Nodup :=
  List.nodup_append.mpr ⟨sound.distinct, List.nodup_singleton _, fun _ member _ isNew same =>
    heard_new sound samples (List.mem_singleton.mp isNew ▸ same ▸ member)⟩

theorem obeys_of_fresh (sound : Sound l) {i : LineInput} (fresh : l.Fresh i) : l.Obeys i := by
  cases i with
  | call => trivial
  | frame samples speaking =>
    obtain ⟨before, split, kept⟩ := sound.tail
    have earlier : l.queued.Sublist l.received := by
      rw [split]
      exact kept.trans (List.sublist_append_left _ _)
    have ordered : (l.hear samples speaking).queued.Sublist (l.hear samples speaking).received := by
      rcases queues_cases fresh with ⟨silent, -⟩ | ⟨current, -⟩
      next =>
        simp only [hear, silent, List.append_nil]
        exact earlier.trans (List.sublist_append_left _ _)
      next =>
        simp only [hear, current]
        exact earlier.append (List.Sublist.refl _)
    refine ⟨ordered, (received_distinct sound samples).sublist ordered, ?_⟩
    intro engages
    have none_yet := sound.empty (fresh engages)
    obtain ⟨rfl, free⟩ := engages_iff.mp engages
    rw [queues_fresh free (fresh engages), none_yet]
    rfl

theorem fresh_of_obeys (sound : Sound l) {i : LineInput} (obeys : l.Obeys i) : l.Fresh i := by
  cases i with
  | call => trivial
  | frame samples speaking =>
    intro engages
    by_contra some
    obtain ⟨rfl, free⟩ := engages_iff.mp engages
    obtain ⟨lead, replayed⟩ := replays_current sound free some samples
    have once := obeys.once
    simp only [hear, replayed, ← List.append_assoc] at once
    have twice := (List.nodup_append.mp once).2.1
    simp at twice

theorem sound_step (sound : Sound l) {i : LineInput} (fresh : l.Fresh i) : Sound (l.step i) := by
  cases i with
  | call =>
    exact ⟨sound.inside, sound.few, by simp [step], List.nodup_nil, ⟨[], rfl, List.Sublist.refl _⟩,
      fun _ => rfl⟩
  | frame samples speaking =>
    obtain ⟨before, split, kept⟩ := sound.tail
    obtain ⟨inside, few, some⟩ := update_sound sound (l.heard samples)
    have ring : (l.hear samples speaking).vox.w = (l.vox.update (l.heard samples)).w ∧
        ((l.hear samples speaking).vox.count = 0 ∧ speaking = true ∨
          (l.hear samples speaking).vox.count = (l.vox.update (l.heard samples)).count) := by
      cases speaking with
      | false => exact ⟨rfl, .inr rfl⟩
      | true =>
        simp only [hear, voxProcessAndQueue, if_true]
        split
        next => exact ⟨rfl, .inr rfl⟩
        next => exact ⟨rfl, .inl ⟨rfl, trivial⟩⟩
    refine ⟨ring.1 ▸ inside, ?_, ?_, received_distinct sound samples, ?_, ?_⟩
    next => rcases ring.2 with ⟨none, -⟩ | same <;> simp only [step] <;> omega
    next =>
      intro f member
      rcases List.mem_append.mp member with old | new
      next => exact Nat.lt_succ_of_lt (sound.old f old)
      next =>
        rw [List.mem_singleton.mp new]
        exact Nat.lt_succ_self _
    next =>
      rcases queues_cases fresh with ⟨silent, -⟩ | ⟨current, -⟩
      next =>
        refine ⟨before, ?_, ?_⟩
        next => simp only [step, hear, silent, if_true, split, List.append_assoc]
        next => simpa only [step, hear, silent, List.append_nil] using kept
      next =>
        refine ⟨l.received ++ [l.heard samples], ?_, ?_⟩
        next => simp [step, hear, current]
        next =>
          simp only [step, hear, current, split]
          exact (kept.trans (List.sublist_append_left _ _)).append (List.Sublist.refl _)
    next =>
      intro none
      rcases ring.2 with ⟨-, speaks⟩ | same
      next =>
        rcases queues_cases fresh with ⟨-, silent⟩ | ⟨current, -⟩
        next => exact absurd (speaks.symm.trans silent) Bool.noConfusion
        next => simp [step, hear, current]
      next =>
        simp only [step] at none
        omega

theorem preroll_lawful_iff (inputs : List LineInput) :
    Machine.Guarded step Obeys start inputs ↔ Machine.Guarded step Fresh start inputs :=
  @Machine.guarded_iff_of_invariant _ _ step _ _ Sound
    (fun _ _ sound => ⟨fresh_of_obeys sound, obeys_of_fresh sound⟩)
    (fun _ _ sound fresh => sound_step sound fresh) _ _ sound_start

/-! ## An utterance -/

def loud : Frame :=
  List.replicate 160 1000

-- With five frames of attack the fifth loud one engages PTT.
def utterance : List LineInput :=
  List.replicate 4 (.frame loud false) ++ [.frame loud true]

theorem current_frame_doubled : ¬ Machine.Guarded step Obeys start utterance := by
  intro guarded
  exact absurd guarded.2.2.2.2.1.once (by decide +kernel)

end Line

end Kerchunk.Freeswitch
