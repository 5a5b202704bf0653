import Kerchunk.Lib.Machine
import Mathlib.Algebra.Order.BigOperators.Group.List
import Mathlib.Algebra.Order.Ring.Nat
import Mathlib.Data.Int.Order.Basic
import Mathlib.Tactic.Common

set_option autoImplicit false

/-!
# The parrot (`modules/mod_parrot.c`)

After the command the next transmission is recorded, played back, and its level reported.
-/

namespace Kerchunk.Parrot

open Machine (run)

/-- What the tap is given: samples of 16 bits. -/
structure Frame where
  samples : List Int
  some_ : samples ≠ []
  range : ∀ v ∈ samples, v.natAbs ≤ 32768

/-! ## Levels -/

/-- The loops of the source that count up to the root. -/
def rmsFrom (avg : Nat) : Nat → Nat → Nat
  | 0, rms => rms
  | fuel + 1, rms => if rms * rms < avg then rmsFrom avg fuel (rms + 1) else rms

def rmsOf (avg : Nat) : Nat :=
  rmsFrom avg avg 0

def sumOfSquares (samples : List Int) : Nat :=
  (samples.map fun v => v.natAbs * v.natAbs).sum

def peakOf (samples : List Int) : Nat :=
  samples.foldr (fun v peak => max v.natAbs peak) 0

def percent (level : Nat) : Nat :=
  level * 100 / 32767

def speechRmsGate : Nat := 327

theorem rmsFrom_least {avg : Nat} (fuel rms : Nat) (enough : avg ≤ rms + fuel)
    (below : ∀ q, avg ≤ q * q → rms ≤ q) :
    avg ≤ rmsFrom avg fuel rms * rmsFrom avg fuel rms ∧ ∀ q, avg ≤ q * q → rmsFrom avg fuel rms ≤ q := by
  induction fuel generalizing rms with
  | zero => exact ⟨enough.trans (Nat.le_mul_self rms), below⟩
  | succ fuel ih =>
    rw [rmsFrom]
    split
    next short =>
      refine ih (rms + 1) (by omega) fun q reaches => ?_
      have larger : rms < q := by
        by_contra atMost
        have square := Nat.mul_self_le_mul_self (Nat.not_lt.mp atMost)
        omega
      exact larger
    next reached => exact ⟨Nat.not_lt.mp reached, below⟩

/-- The root is rounded up. -/
theorem rmsOf_least (avg : Nat) :
    avg ≤ rmsOf avg * rmsOf avg ∧ ∀ q, avg ≤ q * q → rmsOf avg ≤ q :=
  rmsFrom_least avg 0 (by omega) fun q _ => Nat.zero_le q

theorem peakOf_append (first second : List Int) :
    peakOf (first ++ second) = max (peakOf first) (peakOf second) := by
  induction first with
  | nil => simp [peakOf]
  | cons v rest ih =>
    rw [List.cons_append, peakOf, List.foldr_cons, ← peakOf, ih, ← max_assoc]
    rfl

theorem peakOf_le {samples : List Int} {bound : Nat} (range : ∀ v ∈ samples, v.natAbs ≤ bound) :
    peakOf samples ≤ bound := by
  induction samples with
  | nil => exact Nat.zero_le bound
  | cons v rest ih =>
    obtain ⟨first, later⟩ := List.forall_mem_cons.mp range
    exact max_le first (ih later)

theorem natAbs_le_peakOf {samples : List Int} {v : Int} (member : v ∈ samples) : v.natAbs ≤ peakOf samples := by
  induction samples with
  | nil => cases member
  | cons first rest ih =>
    rcases List.mem_cons.mp member with rfl | later
    next => exact le_max_left ..
    next => exact (ih later).trans (le_max_right ..)

theorem sumOfSquares_le (samples : List Int) :
    sumOfSquares samples ≤ samples.length * (peakOf samples * peakOf samples) := by
  have each : ∀ square ∈ samples.map fun v => v.natAbs * v.natAbs, square ≤ peakOf samples * peakOf samples := by
    intro square member
    obtain ⟨v, sample, rfl⟩ := List.mem_map.mp member
    exact Nat.mul_self_le_mul_self (natAbs_le_peakOf sample)
  simpa [sumOfSquares] using List.sum_le_card_nsmul _ _ each

/-! ## The module -/

/-- `heard` is what the tap was given since the recording began and `limit` the most that it may take, as
long as that has not been configured anew; no code reads them. -/
structure Playback where
  samples : List Int
  avgPct : Nat
  peakPct : Nat
  reported : Bool
  heard : List Int
  limit : Option Nat

structure State where
  enabled : Bool
  maxDurationS : Nat
  audioReport : Bool
  armed : Bool
  recording : Bool
  buf : List Int
  cap : Nat
  sqActiveSum : Nat
  sqActiveCount : Nat
  sqPeakSample : Nat
  heard : List Int
  limit : Option Nat
  armings : Nat
  played : List Playback

def State.init : State where
  enabled := true
  maxDurationS := 10
  audioReport := true
  armed := false
  recording := false
  buf := []
  cap := 0
  sqActiveSum := 0
  sqActiveCount := 0
  sqPeakSample := 0
  heard := []
  limit := none
  armings := 0
  played := []

variable (rate : Nat)

def State.maxSamples (s : State) : Nat :=
  rate * s.maxDurationS

def newCap (cap need maxSamples : Nat) : Nat :=
  let wanted := if cap * 2 < need then need + rate else cap * 2
  if maxSamples < wanted then maxSamples else wanted

/-- The copy and the account of its level. -/
def State.take (s : State) (samples : List Int) : State :=
  let frameSum := sumOfSquares samples
  let speech := speechRmsGate ≤ rmsOf (frameSum / samples.length)
  { s with
    buf := s.buf ++ samples
    sqPeakSample := max s.sqPeakSample (peakOf samples)
    sqActiveSum := if speech then s.sqActiveSum + frameSum else s.sqActiveSum
    sqActiveCount := if speech then s.sqActiveCount + samples.length else s.sqActiveCount }

/-- `granted` is whether `realloc` finds memory. -/
def parrotAudioTap (s : State) (frame : Frame) (granted : Bool) : State :=
  if s.recording = false then s
  else
    let s := { s with heard := s.heard ++ frame.samples }
    if s.maxSamples rate ≤ s.buf.length then s
    else
      let n := min frame.samples.length (s.maxSamples rate - s.buf.length)
      if s.cap < s.buf.length + n then
        if granted then
          { s with cap := newCap rate s.cap (s.buf.length + n) (s.maxSamples rate) }.take (frame.samples.take n)
        else s
      else s.take (frame.samples.take n)

/-- `granted` is whether `malloc` finds memory. -/
def startRecording (s : State) (granted : Bool) : State :=
  if s.recording then s
  else
    let s := { s with buf := [], cap := s.maxSamples rate }
    if granted then
      { s with
        sqActiveSum := 0
        sqActiveCount := 0
        sqPeakSample := 0
        recording := true
        heard := []
        limit := some (s.maxSamples rate) }
    else s

def State.playback (s : State) : Playback where
  samples := s.buf
  avgPct := percent (if 0 < s.sqActiveCount then rmsOf (s.sqActiveSum / s.sqActiveCount) else 0)
  peakPct := percent s.sqPeakSample
  reported := s.audioReport
  heard := s.heard
  limit := s.limit

def stopAndPlayback (s : State) : State :=
  if s.recording then
    { s with
      recording := false
      played := if s.buf = [] then s.played else s.played ++ [s.playback]
      buf := []
      cap := 0 }
  else s

def onParrotCmd (s : State) : State :=
  if s.enabled then { s with armed := true, armings := s.armings + 1 } else s

def onCorAssert (s : State) (granted : Bool) : State :=
  if s.armed then startRecording rate { s with armed := false } granted else s

def onCorDrop (s : State) : State :=
  if s.recording then stopAndPlayback s else s

def parrotConfigure (s : State) (enabled audioReport : Bool) (maxDuration : Int) : State :=
  let seconds := if 30 < maxDuration then 30 else maxDuration
  { s with
    enabled := enabled
    maxDurationS := if seconds < 1 then 1 else seconds.toNat
    audioReport := audioReport
    limit := none }

inductive Input where
  | command
  | corAssert (granted : Bool)
  | frame (frame : Frame) (granted : Bool)
  | corDrop
  | configure (enabled audioReport : Bool) (maxDuration : Int)

def step (s : State) : Input → State
  | .command => onParrotCmd s
  | .corAssert granted => onCorAssert rate s granted
  | .frame frame granted => parrotAudioTap rate s frame granted
  | .corDrop => onCorDrop s
  | .configure enabled audioReport maxDuration => parrotConfigure s enabled audioReport maxDuration

/-! ## Recordings -/

structure Playback.Sound (p : Playback) : Prop where
  some_ : p.samples ≠ []
  fits : p.samples.length ≤ 30 * rate
  order : p.samples.Sublist p.heard
  whole : ∀ limit, p.limit = some limit → p.samples = p.heard.take limit
  peak : p.peakPct = percent (peakOf p.samples)
  level : p.avgPct ≤ p.peakPct
  scale : p.peakPct ≤ 100

/-- What holds while a recording runs. -/
structure State.Records (s : State) : Prop where
  range : peakOf s.buf ≤ 32768
  peak : s.sqPeakSample = peakOf s.buf
  speech : s.sqActiveSum ≤ s.sqActiveCount * (s.sqPeakSample * s.sqPeakSample)
  order : s.buf.Sublist s.heard
  whole : ∀ limit, s.limit = some limit →
    limit = s.maxSamples rate ∧ s.cap = limit ∧ s.buf = s.heard.take limit

structure State.Sound (s : State) : Prop where
  fits : s.buf.length ≤ s.cap
  bound : s.cap ≤ 30 * rate
  seconds : s.maxDurationS ≤ 30
  records : s.recording = true → s.Records rate
  once : s.played.length + s.recording.toNat + s.armed.toNat ≤ s.armings
  played : ∀ p ∈ s.played, p.Sound rate

variable {rate}

theorem percent_mono {low high : Nat} (le : low ≤ high) : percent low ≤ percent high :=
  Nat.div_le_div_right (Nat.mul_le_mul_right 100 le)

theorem State.Records.level {s : State} (records : s.Records rate) :
    s.playback.avgPct ≤ s.playback.peakPct := by
  refine percent_mono ?_
  split
  next some_ =>
    exact (rmsOf_least _).2 _ ((Nat.div_le_iff_le_mul_add_pred some_).mpr (by
      have speech := records.speech
      omega))
  next => exact Nat.zero_le _

theorem State.Records.playback {s : State} (records : s.Records rate) (some_ : s.buf ≠ [])
    (fits : s.buf.length ≤ 30 * rate) : s.playback.Sound rate where
  some_ := some_
  fits := fits
  order := records.order
  whole limit same := (records.whole limit same).2.2
  peak := congrArg percent records.peak
  level := records.level
  scale := by
    have range := records.range
    rw [← records.peak] at range
    exact (percent_mono range).trans (by decide)

theorem newCap_fits {cap need maxSamples : Nat} (within : need ≤ maxSamples) :
    need ≤ newCap rate cap need maxSamples ∧ newCap rate cap need maxSamples ≤ maxSamples := by
  unfold newCap
  simp only
  split <;> split <;> omega

theorem speech_take {s : State} (samples : List Int)
    (speech : s.sqActiveSum ≤ s.sqActiveCount * (s.sqPeakSample * s.sqPeakSample)) :
    (s.take samples).sqActiveSum ≤
      (s.take samples).sqActiveCount * ((s.take samples).sqPeakSample * (s.take samples).sqPeakSample) := by
  simp only [State.take]
  have before : s.sqPeakSample * s.sqPeakSample ≤
      max s.sqPeakSample (peakOf samples) * max s.sqPeakSample (peakOf samples) :=
    Nat.mul_self_le_mul_self (le_max_left ..)
  have now : peakOf samples * peakOf samples ≤
      max s.sqPeakSample (peakOf samples) * max s.sqPeakSample (peakOf samples) :=
    Nat.mul_self_le_mul_self (le_max_right ..)
  have kept := speech.trans (Nat.mul_le_mul_left s.sqActiveCount before)
  split
  next =>
    rw [Nat.add_mul]
    exact Nat.add_le_add kept ((sumOfSquares_le samples).trans (Nat.mul_le_mul_left _ now))
  next => exact kept

/-- What is left of the frame fills the buffer up to the limit. -/
theorem State.Records.take {s : State} (records : s.Records rate) (frame : Frame) {cap : Nat}
    (room : s.buf.length < s.maxSamples rate) (same : ∀ limit, s.limit = some limit → cap = limit) :
    State.Records rate (State.take { s with heard := s.heard ++ frame.samples, cap := cap }
      (frame.samples.take (min frame.samples.length (s.maxSamples rate - s.buf.length)))) where
  range := by
    refine (peakOf_append s.buf _).trans_le (max_le records.range (peakOf_le fun v member => ?_))
    exact frame.range v (List.mem_of_mem_take member)
  peak := by
    simp only [State.take, records.peak, peakOf_append]
  speech := speech_take _ records.speech
  order := records.order.append (List.take_sublist _ _)
  whole limit unchanged := by
    obtain ⟨most, -, first⟩ := records.whole limit unchanged
    refine ⟨most, same limit unchanged, ?_⟩
    have length := congrArg List.length first
    rw [List.length_take] at length
    have all : s.buf = s.heard := first.trans (List.take_of_length_le (by omega))
    have short : s.heard.length ≤ limit := by omega
    simp only [State.take]
    rw [List.take_append, List.take_of_length_le short, all, ← most, Nat.min_comm, ← List.take_eq_take_min]

theorem tap_records {s : State} (records : s.Records rate) (frame : Frame) (granted : Bool)
    (recording : s.recording = true) :
    (parrotAudioTap rate s frame granted).Records rate := by
  unfold parrotAudioTap
  rw [if_neg (by simp [recording])]
  simp only
  have later (unchanged : ∀ limit, s.limit = some limit → s.buf = (s.heard ++ frame.samples).take limit) :
      State.Records rate { s with heard := s.heard ++ frame.samples } :=
    { records with
      order := records.order.trans (List.sublist_append_left _ _)
      whole := fun limit same =>
        ⟨(records.whole limit same).1, (records.whole limit same).2.1, unchanged limit same⟩ }
  split
  next full =>
    refine later fun limit same => ?_
    obtain ⟨most, -, first⟩ := records.whole limit same
    have length := congrArg List.length first
    have full : s.maxSamples rate ≤ s.buf.length := full
    rw [List.length_take] at length
    rw [List.take_append_of_le_length (by omega)]
    exact first
  next room =>
    have room : s.buf.length < s.maxSamples rate := Nat.not_le.mp room
    split
    next grows =>
      -- The buffer holds the limit unless that was configured anew.
      have grows : s.cap < s.buf.length + min frame.samples.length (s.maxSamples rate - s.buf.length) := grows
      have changed (limit : Nat) (same : s.limit = some limit) : False := by
        obtain ⟨most, cap, -⟩ := records.whole limit same
        omega
      split
      next => exact records.take frame room fun limit same => (changed limit same).elim
      next => exact later fun limit same => (changed limit same).elim
    next => exact records.take frame room fun limit same => (records.whole limit same).2.1

theorem State.Sound.maxSamples_le {s : State} (sound : s.Sound rate) : s.maxSamples rate ≤ 30 * rate := by
  rw [State.maxSamples, Nat.mul_comm]
  exact Nat.mul_le_mul_right rate sound.seconds

/-- What the tap leaves alone, and that it copies into the memory it has. -/
structure Taps (rate : Nat) (s after : State) : Prop where
  fits : after.buf.length ≤ after.cap
  bound : after.cap ≤ 30 * rate
  seconds : after.maxDurationS = s.maxDurationS
  recording : after.recording = s.recording
  armed : after.armed = s.armed
  armings : after.armings = s.armings
  played : after.played = s.played

theorem tap_taps {s : State} (sound : s.Sound rate) (frame : Frame) (granted : Bool) :
    Taps rate s (parrotAudioTap rate s frame granted) := by
  have most := sound.maxSamples_le
  unfold parrotAudioTap
  split
  next => exact ⟨sound.fits, sound.bound, rfl, rfl, rfl, rfl, rfl⟩
  next =>
    simp only
    split
    next => exact ⟨sound.fits, sound.bound, rfl, rfl, rfl, rfl, rfl⟩
    next room =>
      have room : s.buf.length < s.maxSamples rate := Nat.not_le.mp room
      have copied : (s.buf ++ frame.samples.take (min frame.samples.length (s.maxSamples rate - s.buf.length))).length =
          s.buf.length + min frame.samples.length (s.maxSamples rate - s.buf.length) := by
        rw [List.length_append, List.length_take, Nat.min_eq_left (Nat.min_le_left ..)]
      split
      next =>
        split
        next =>
          have within : s.buf.length + min frame.samples.length (s.maxSamples rate - s.buf.length) ≤
              s.maxSamples rate := by omega
          exact ⟨copied.trans_le (newCap_fits within).1, (newCap_fits within).2.trans most, rfl, rfl, rfl, rfl, rfl⟩
        next => exact ⟨sound.fits, sound.bound, rfl, rfl, rfl, rfl, rfl⟩
      next enough =>
        exact ⟨copied.trans_le (Nat.not_lt.mp enough), sound.bound, rfl, rfl, rfl, rfl, rfl⟩

theorem State.Sound.tap {s : State} (sound : s.Sound rate) (frame : Frame) (granted : Bool) :
    (parrotAudioTap rate s frame granted).Sound rate := by
  have taps := tap_taps sound frame granted
  refine ⟨taps.fits, taps.bound, taps.seconds.trans_le sound.seconds, fun recording => ?_, ?_, ?_⟩
  next =>
    rw [taps.recording] at recording
    exact tap_records (sound.records recording) frame granted recording
  next =>
    rw [taps.played, taps.recording, taps.armed, taps.armings]
    exact sound.once
  next =>
    rw [taps.played]
    exact sound.played

theorem State.Sound.assert {s : State} (sound : s.Sound rate) (granted : Bool) :
    (onCorAssert rate s granted).Sound rate := by
  have most := sound.maxSamples_le
  have once := sound.once
  unfold onCorAssert startRecording
  split
  next armed =>
    rw [armed, Bool.toNat_true] at once
    simp only
    split
    next => exact ⟨sound.fits, sound.bound, sound.seconds, fun recording => { sound.records recording with },
        by simp only [Bool.toNat_false]; omega, sound.played⟩
    next idle =>
      rw [Bool.not_eq_true] at idle
      rw [idle, Bool.toNat_false] at once
      cases granted with
      | true =>
        refine ⟨Nat.zero_le _, most, sound.seconds, fun _ => ?_, ?_, sound.played⟩
        next =>
          exact
            { range := Nat.zero_le _, peak := rfl, speech := Nat.zero_le _, order := List.Sublist.refl _
              whole := fun limit same => by
                cases same
                exact ⟨rfl, rfl, List.take_nil.symm⟩ }
        next =>
          simp only [if_true, Bool.toNat_true, Bool.toNat_false]
          omega
      | false =>
        refine ⟨Nat.zero_le _, most, sound.seconds, fun recording => ?_, ?_, sound.played⟩
        next => simp [idle] at recording
        next =>
          simp only [Bool.false_eq_true, if_false, idle, Bool.toNat_false]
          omega
  next => exact sound

theorem State.Sound.stop {s : State} (sound : s.Sound rate) : (onCorDrop s).Sound rate := by
  have once := sound.once
  unfold onCorDrop stopAndPlayback
  split
  next recording =>
    have records := sound.records recording
    rw [recording, Bool.toNat_true] at once
    refine ⟨Nat.le_refl 0, Nat.zero_le _, sound.seconds, nofun, ?_, fun p member => ?_⟩
    next =>
      simp only [Bool.toNat_false]
      split
      next => omega
      next =>
        rw [List.length_append, List.length_singleton]
        omega
    next =>
      simp only at member
      split at member
      next => exact sound.played p member
      next some_ =>
        rcases List.mem_append.mp member with before | now
        next => exact sound.played p before
        next =>
          rw [List.mem_singleton.mp now]
          exact records.playback some_ (sound.fits.trans sound.bound)
  next => exact sound

theorem State.Sound.configure {s : State} (sound : s.Sound rate) (enabled audioReport : Bool) (maxDuration : Int) :
    (parrotConfigure s enabled audioReport maxDuration).Sound rate := by
  refine ⟨sound.fits, sound.bound, ?_, fun recording => ?_, sound.once, sound.played⟩
  next =>
    simp only [parrotConfigure]
    split <;> split <;> omega
  next =>
    have records := sound.records recording
    exact ⟨records.range, records.peak, records.speech, records.order, nofun⟩

theorem step_sound (s : State) (input : Input) (sound : s.Sound rate) : (step rate s input).Sound rate := by
  cases input with
  | command =>
    simp only [step, onParrotCmd]
    split
    next =>
      have once := sound.once
      have armed : s.armed.toNat ≤ 1 := Bool.toNat_le s.armed
      refine ⟨sound.fits, sound.bound, sound.seconds, fun recording => { sound.records recording with }, ?_,
        sound.played⟩
      simp only [Bool.toNat_true]
      omega
    next => exact sound
  | corAssert granted => exact sound.assert granted
  | frame frame granted => exact sound.tap frame granted
  | corDrop => exact sound.stop
  | configure enabled audioReport maxDuration => exact sound.configure enabled audioReport maxDuration

theorem init_sound : State.init.Sound rate where
  fits := Nat.le_refl 0
  bound := Nat.zero_le _
  seconds := by decide
  records := nofun
  once := Nat.le_refl 0
  played := nofun

end Kerchunk.Parrot
