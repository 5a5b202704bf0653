import Kerchunk.AudioTick.Rx

set_option autoImplicit false

/-!
# The drain after a COR drop

While a drain is on the queue waits. The count goes down only in a tick that relays its frame.
-/

namespace Kerchunk.AudioTick

/-! ## Runs -/

/-- One tick, with what a reload and the TX sub-tick have left in the state for it. -/
structure RxCall where
  softwareRelay : Bool
  relayDrainMs : Nat
  queuePtt : Bool
  inp : RxIn
deriving DecidableEq

def RxCall.prepare (c : RxCall) (s : RelayState) : RelayState :=
  { s with softwareRelay := c.softwareRelay, relayDrainMs := c.relayDrainMs, queuePtt := c.queuePtt }

/-- `length` is the drain that the last COR drop has begun. Of the ticks since then without relay,
`captured` counts the samples and `ticks` those that had any. -/
structure Draining (D : Type) where
  state : RelayState
  rx : RxTick D
  length : Int
  captured : Nat
  ticks : Nat

def falls (s : RelayState) (inp : RxIn) : Bool :=
  s.softwareRelay && s.relayWasActive && !inp.relayActive

variable {D : Type} (decoder : DtmfDecoder D)

def Draining.step (w : Draining D) (c : RxCall) : Draining D :=
  let s := c.prepare w.state
  let next := audioTickRx decoder s w.rx c.inp
  let fresh := falls s c.inp
  let counted := if c.inp.relayActive then 0 else c.inp.nread
  { state := next.1
    rx := next.2.1
    length := if fresh then c.inp.sampleRate * s.relayDrainMs / 1000 else w.length
    captured := (if fresh then 0 else w.captured) + counted
    ticks := (if fresh then 0 else w.ticks) + if 0 < counted then 1 else 0 }

def Draining.start (rx : RxTick D) : Draining D where
  state := { AudioState.init with softwareRelay := false, relayDrainMs := 0, relayWasActive := false }
  rx := rx
  length := 0
  captured := 0
  ticks := 0

def counting (w : Draining D) (c : RxCall) : Prop :=
  -- A tick that captures samples while a drain is on.
  c.inp.relayActive = false ∧ 0 < c.inp.nread ∧
    0 < (drained (c.prepare w.state) c.inp).relayDrain

def Progresses (w : Draining D) (c : RxCall) : Prop :=
  counting w c →
    (w.step decoder c).state.relayDrain < (drained (c.prepare w.state) c.inp).relayDrain

/-- The tick may relay: it still has the relay, somebody holds PTT for it and the ring has room. -/
def Passes (w : Draining D) (c : RxCall) : Prop :=
  counting w c → c.softwareRelay = true ∧ c.inp.pttHeld = true ∧ c.queuePtt = false ∧
    c.inp.nread ≤ c.inp.playWritable

/-! ## One tick -/

section

variable {decoder} (w : Draining D) (c : RxCall)

theorem step_relayDrain :
    (w.step decoder c).state.relayDrain =
      (if relays (drained (c.prepare w.state) c.inp) c.inp then
        countDrain (drained (c.prepare w.state) c.inp) c.inp
      else drained (c.prepare w.state) c.inp).relayDrain := rfl

theorem relays_iff (counts : counting w c) :
    relays (drained (c.prepare w.state) c.inp) c.inp = true ↔
      c.softwareRelay = true ∧ c.inp.pttHeld = true ∧ c.queuePtt = false ∧
        c.inp.nread ≤ c.inp.playWritable := by
  obtain ⟨inactive, captured, owed⟩ := counts
  have relay : (drained (c.prepare w.state) c.inp).softwareRelay = c.softwareRelay := by
    rw [drained, startDrain]
    split <;> rfl
  have ptt : (drained (c.prepare w.state) c.inp).queuePtt = c.queuePtt := by
    rw [drained, startDrain]
    split <;> rfl
  simp [relays, doRelay, relay, ptt, inactive, captured, owed, and_assoc]

/-- A tick that relays takes off the samples that it captured, or the whole drain. -/
theorem relayed_drain (counts : counting w c)
    (relayed : relays (drained (c.prepare w.state) c.inp) c.inp = true) :
    (w.step decoder c).state.relayDrain = 0 ∨
      (w.step decoder c).state.relayDrain =
        (drained (c.prepare w.state) c.inp).relayDrain - c.inp.nread := by
  obtain ⟨inactive, _, owed⟩ := counts
  rw [step_relayDrain, if_pos relayed, countDrain, inactive]
  simp only [Bool.not_false, Bool.true_and, decide_eq_true owed, if_true]
  split
  next => exact .inl rfl
  next => exact .inr rfl

theorem kept_drain (kept : relays (drained (c.prepare w.state) c.inp) c.inp = false) :
    (w.step decoder c).state.relayDrain = (drained (c.prepare w.state) c.inp).relayDrain := by
  rw [step_relayDrain, kept]
  rfl

theorem progresses_iff : Progresses decoder w c ↔ Passes w c := by
  rw [Progresses, Passes]
  refine imp_congr_right fun counts => ?_
  rw [← relays_iff w c counts]
  cases relayed : relays (drained (c.prepare w.state) c.inp) c.inp with
  | true =>
    have after := @relayed_drain D decoder w c counts relayed
    obtain ⟨_, captured, owed⟩ := counts
    simp only [iff_true]
    omega
  | false =>
    rw [kept_drain w c relayed]
    simp

theorem active_drain (active : c.inp.relayActive = true) :
    (w.step decoder c).state.relayDrain = w.state.relayDrain := by
  have same : (drained (c.prepare w.state) c.inp).relayDrain = w.state.relayDrain := by
    rw [drained, startDrain, active]
    simp [RxCall.prepare]
  rw [step_relayDrain, ← same]
  split
  next => simp [countDrain, active]
  next => rfl

end

/-! ## The drain of a whole run -/

/-- What is left of a drain, with what has been captured since it began, is within its length. -/
structure Within (n : Nat) (w : Draining D) : Prop where
  left : 0 < w.state.relayDrain → w.state.relayDrain + w.captured ≤ w.length
  ticks : w.ticks * n ≤ w.captured

def Fills (n : Nat) (c : RxCall) : Prop :=
  0 < c.inp.nread → n ≤ c.inp.nread

theorem drained_left (w : Draining D) (c : RxCall) :
    (drained (c.prepare w.state) c.inp).relayDrain =
      if falls (c.prepare w.state) c.inp then
        c.inp.sampleRate * (c.prepare w.state).relayDrainMs / 1000
      else w.state.relayDrain := by
  rw [drained, startDrain, falls]
  split <;> rfl

theorem idle_drain {w : Draining D} {c : RxCall}
    (ended : ¬ 0 < (drained (c.prepare w.state) c.inp).relayDrain) :
    (w.step decoder c).state.relayDrain = (drained (c.prepare w.state) c.inp).relayDrain := by
  rw [step_relayDrain]
  split
  next => simp [countDrain, ended]
  next => rfl

theorem step_within {n : Nat} {w : Draining D} {c : RxCall} (within : Within n w)
    (passes : Passes w c) (fills : Fills n c) : Within n (w.step decoder c) := by
  have ticks := within.ticks
  have fresh := drained_left w c
  constructor
  case left =>
    intro owes
    have earlier := within.left
    cases active : c.inp.relayActive with
    | true =>
      rw [active_drain w c active] at owes ⊢
      simpa [Draining.step, falls, active] using earlier owes
    | false =>
      by_cases owed : 0 < (drained (c.prepare w.state) c.inp).relayDrain
      next =>
        -- What the drain is when the tick comes to count it.
        have begun : (drained (c.prepare w.state) c.inp).relayDrain +
            (if falls (c.prepare w.state) c.inp then 0 else w.captured : Nat) ≤
            (w.step decoder c).length := by
          simp only [Draining.step, fresh]
          split at fresh
          next fell => simp [fell]
          next kept =>
            simp only [kept]
            exact earlier (fresh ▸ owed)
        have captured : (w.step decoder c).captured =
            (if falls (c.prepare w.state) c.inp then 0 else w.captured) + c.inp.nread := by
          simp [Draining.step, active]
        have moved : (w.step decoder c).state.relayDrain = 0 ∨
            (w.step decoder c).state.relayDrain =
              (drained (c.prepare w.state) c.inp).relayDrain - c.inp.nread := by
          by_cases caught : 0 < c.inp.nread
          next =>
            have counts : counting w c := ⟨active, caught, owed⟩
            exact relayed_drain w c counts ((relays_iff w c counts).mpr (passes counts))
          next =>
            have none : c.inp.nread = 0 := by omega
            have silent : relays (drained (c.prepare w.state) c.inp) c.inp = false := by
              simp [relays, none]
            rw [kept_drain w c silent, none]
            exact .inr (Int.sub_zero _).symm
        rw [captured]
        omega
      next =>
        rw [idle_drain decoder owed] at owes
        exact absurd owes owed
  case ticks =>
    simp only [Draining.step]
    cases falls (c.prepare w.state) c.inp <;> cases c.inp.relayActive <;>
      by_cases caught : 0 < c.inp.nread <;>
      simp [caught, Nat.add_mul] <;> grind [Fills]

/-- Every tick that captures samples brings the drain nearer to its end if and only if it may relay.
Where every tick may, and takes at least `n` samples, the queue waits for the drain no longer than its
length. -/
theorem relay_drain_progress (rx : RxTick D) (calls : List RxCall) :
    let step := Draining.step decoder
    (Machine.Guarded step (Progresses decoder) (.start rx) calls ↔
        Machine.Guarded step Passes (.start rx) calls) ∧
      (Machine.Guarded step Passes (.start rx) calls → ∀ n, (∀ c ∈ calls, Fills n c) →
        let w := Machine.run step (.start rx) calls
        ∀ inp, queuePaused w.state.toAudioState inp = true →
          inp.relayActive = true ∨ w.ticks * n < w.length) := by
  intro step
  constructor
  next => exact Machine.guarded_congr step (fun w c => progresses_iff w c) _ calls
  next =>
    intro passes n fills w inp paused
    have initial : Within n (.start rx : Draining D) := by
      constructor
      case left => exact fun owes => absurd owes (Int.lt_irrefl 0)
      case ticks => exact Nat.le_of_eq (Nat.zero_mul n)
    have filled : Machine.Guarded step (fun _ c => Fills n c) (.start rx) calls :=
      Machine.guarded_of_forall step (fun c member _ => fills c member) _
    have within : Within n w := Machine.run_invariant step
      (fun _ _ within ok => step_within decoder within ok.1 ok.2) initial
      (Machine.guarded_and step passes filled)
    cases active : inp.relayActive with
    | true => exact .inl rfl
    | false =>
      simp only [queuePaused, active, Bool.false_or, Bool.and_eq_true, decide_eq_true_eq] at paused
      have owed : 0 < w.state.relayDrain := paused.2
      have left := within.left owed
      have ticks := within.ticks
      exact .inr (by omega)

/-! ## A drain without PTT -/

def deafDecoder : DtmfDecoder Unit :=
  ⟨fun _ => (), fun _ _ => ((), none)⟩

def loudTick (relayActive pttHeld : Bool) : RxCall where
  softwareRelay := true
  relayDrainMs := 500
  queuePtt := false
  inp :=
    { frame := List.replicate 4 1000
      relayActive := relayActive
      pttHeld := pttHeld
      playWritable := 262143
      sampleRate := 48000 }

theorem unheld_drain_stuck :
    ¬ Machine.Guarded (Draining.step deafDecoder) (Progresses deafDecoder) (.start ⟨false, none⟩)
      [loudTick true true, loudTick false false] := by
  intro progresses
  exact absurd (progresses.2.1 ⟨by decide, by decide, by decide⟩) (by decide)

end Kerchunk.AudioTick
