import Kerchunk.Core.TxActivity
import Kerchunk.Repeater.Balance

set_option autoImplicit false

/-!
# COR polling and the software relay (the main loop of `src/main.c`)

The main loop polls COR only while PTT is not held, and the repeater holds PTT
while it relays. `kerchunk.conf.example`: "Software relay: kerchunkd captures RX audio
and retransmits it in software".
-/

namespace Kerchunk.Repeater

open Kerchunk.Core (Poll Ptt TxActivity TxactEvent)
open Kerchunk.Core.Polls (heard cosLevel quietStretch)
open Kerchunk.Config (KerchunkConfig atoiText configGet configGetDurationMs)

/-! ## The loop -/

def txActivityInit (cfg : KerchunkConfig) : TxActivity :=
  -- The settings are read once, before the loop.
  let duration (sectionName key : String) :=
    configGetDurationMs cfg sectionName.toList key.toList
  let endSilenceMs := duration "txactivity" "end_silence_ms" (-1)
  let endSilenceMs :=
    if endSilenceMs < 0 then duration "repeater" "cor_drop_hold" 300 else endSilenceMs
  let endSilenceMs := clamp 0 5000 endSilenceMs
  let endSilenceDtmfMs := duration "txactivity" "end_silence_dtmf_ms" 1000
  let endSilenceDtmfMs :=
    if endSilenceDtmfMs < endSilenceMs then endSilenceMs else endSilenceDtmfMs
  let endSilenceDtmfMs := if endSilenceDtmfMs > 5000 then 5000 else endSilenceDtmfMs
  let dtmfGraceMs := clamp 0 30000 (duration "txactivity" "dtmf_grace_ms" 3000)
  let trustCos :=
    match configGet cfg "txactivity".toList "trust_cos_bit".toList with
    | some value => atoiText value
    | none => 1
  TxActivity.init (endSilenceMs / 20) (endSilenceDtmfMs / 20) (dtmfGraceMs / 20) (trustCos ≠ 0)

/-- `hardware` is the level of the COR input, and `steady` that it has been active since the last
COR_ASSERT. `polls` has the newest poll first, and `since` counts those after COR_ASSERT. -/
structure Loop where
  tx : TxActivity
  rpt : State
  hardware : Bool
  polls : List Poll
  since : Option Nat
  steady : Bool

def loopStart (cfg : KerchunkConfig) (hasTts : Bool) : Loop where
  tx := txActivityInit cfg
  rpt := load hasTts
  hardware := false
  polls := []
  since := none
  steady := false

/-- `report` says whether the device has sent a report that was not read yet; its last one has the
level of the input. `rpt` is whatever else reaches the repeater or the PTT count between two polls,
`sim cor` of the console included. -/
inductive LoopInput where
  | hardware (active : Bool)
  | poll (report : Bool) (dtmf : Bool)
  | rpt (i : Input)

inductive CorEvent where
  | corAssert
  | corDrop
deriving DecidableEq

def CorEvent.input : CorEvent → Input
  | .corAssert => .corAssert
  | .corDrop => .corDrop

namespace Loop

variable (s : Loop)

def pollNow (report dtmf : Bool) : Poll where
  pttHeld := s.rpt.ptt.active
  reading := if report then some s.hardware else none
  dtmf := dtmf

def txTick (p : Poll) : TxactEvent × TxActivity :=
  s.tx.tick (p.cosRaw s.tx.trustCosBit) p.tone

def corEvent (p : Poll) : Option CorEvent :=
  -- The event that the main loop fires at a poll.
  match (s.txTick p).1 with
  | .txBegin => some .corAssert
  | .txEnd => some .corDrop
  | .noEdge => none

def polled (p : Poll) : Loop :=
  let edge := (s.txTick p).1
  { s with
    tx := (s.txTick p).2
    rpt :=
      match s.corEvent p with
      | some event => Repeater.step s.rpt event.input
      | none => s.rpt
    polls := p :: s.polls
    since := TxActivity.follow s.since edge
    steady := if edge = .txBegin then s.hardware else s.steady }

def step : LoopInput → Loop
  | .hardware active => { s with hardware := active, steady := s.steady && active }
  | .poll report dtmf => s.polled (s.pollNow report dtmf)
  | .rpt i => { s with rpt := Repeater.step s.rpt i }

end Loop

/-! ## What the relay should do -/

/-- COR_ASSERT has been fired, and the hardware input has been active ever since, with the relay
on. -/
def Loop.Relaying (s : Loop) : Prop :=
  s.rpt.cfg.softwareRelay = true ∧ s.steady = true ∧ s.since.isSome = true

instance (s : Loop) : Decidable s.Relaying :=
  inferInstanceAs (Decidable (_ ∧ _ ∧ _))

def KeepsInput (s : Loop) : LoopInput → Prop
  -- No COR_DROP while the loop relays.
  | .poll report dtmf => s.Relaying → s.corEvent (s.pollNow report dtmf) ≠ some .corDrop
  | .hardware _ | .rpt _ => True

/-- The polls in a row that bring neither input to the detector stay short of the silence that
ends a transmission: those while PTT is held, and those without a report or with the COS bit not
trusted, when no tone is heard. -/
def StillHeard (s : Loop) : LoopInput → Prop
  | .poll report dtmf => s.Relaying → ∀ n ∈ s.since,
      let polls := s.pollNow report dtmf :: s.polls
      quietStretch s.tx.trustCosBit polls < max 1 (s.tx.window (n + 1) polls)
  | .hardware _ | .rpt _ => True

instance (s : Loop) : (i : LoopInput) → Decidable (KeepsInput s i)
  | .poll report dtmf =>
    inferInstanceAs (Decidable (s.Relaying → s.corEvent (s.pollNow report dtmf) ≠ some .corDrop))
  | .hardware _ | .rpt _ => inferInstanceAs (Decidable True)

/-! ## Runs -/

/-- The detector's counters agree with the polls of the run. -/
structure Loop.Following (s : Loop) : Prop where
  tracks : s.tx.Tracks s.since s.polls
  ordered : s.tx.endSilenceTicks ≤ s.tx.endSilenceDtmfTicks

theorem clamp_le {low high : Int} (bounds : low ≤ high) (value : Int) :
    clamp low high value ≤ high := by
  unfold clamp
  split
  next => exact bounds
  next => split <;> omega

theorem loopStart_following (cfg : KerchunkConfig) (hasTts : Bool) :
    (loopStart cfg hasTts).Following where
  tracks := by
    refine TxActivity.init_tracks _ _ ?_ _
    have capped := clamp_le (show (0 : Int) ≤ 30000 by decide)
      (configGetDurationMs cfg "txactivity".toList "dtmf_grace_ms".toList 3000)
    simp only [TxActivity.longAgo]
    omega
  ordered := Nat.le_max_right ..

theorem polled_setting (s : Loop) (p : Poll) : TxActivity.SameSetting s.tx (s.polled p).tx :=
  TxActivity.tick_setting s.tx (p.cosRaw s.tx.trustCosBit) p.tone

theorem polled_following {s : Loop} (following : s.Following) (p : Poll) :
    (s.polled p).Following where
  tracks := TxActivity.tick_tracks following.tracks p
  ordered := by
    have same := polled_setting s p
    rw [same.endSilence, same.endSilenceDtmf]
    exact following.ordered

theorem step_following {s : Loop} (following : s.Following) (i : LoopInput) :
    (s.step i).Following := by
  cases i with
  | poll report dtmf => exact polled_following following _
  | hardware active => exact ⟨following.tracks, following.ordered⟩
  | rpt i => exact ⟨following.tracks, following.ordered⟩

theorem corEvent_drop_iff (s : Loop) (p : Poll) :
    s.corEvent p = some .corDrop ↔ (s.txTick p).1 = .txEnd := by
  unfold Loop.corEvent
  split <;> simp_all

theorem keepsInput_iff {s : Loop} (following : s.Following) (i : LoopInput) :
    KeepsInput s i ↔ StillHeard s i := by
  cases i with
  | hardware active => exact Iff.rfl
  | rpt i => exact Iff.rfl
  | poll report dtmf =>
    refine imp_congr_right fun relaying => ?_
    have ends := TxActivity.tick_ends_iff following.tracks (s.pollNow report dtmf)
    rw [Ne, corEvent_drop_iff, Loop.txTick, ends]
    cases live : s.since with
    | none => simp
    | some n =>
      by_cases reached : heard s.tx.trustCosBit (s.pollNow report dtmf) s.polls = true
      next => simp [reached, quietStretch]
      next => simp [reached, quietStretch]

theorem relay_keeps_input_iff (cfg : KerchunkConfig) (hasTts : Bool) (inputs : List LoopInput) :
    Machine.Guarded Loop.step KeepsInput (loopStart cfg hasTts) inputs ↔
      Machine.Guarded Loop.step StillHeard (loopStart cfg hasTts) inputs :=
  Machine.guarded_iff_of_invariant Loop.step (P := Loop.Following)
    (fun _ i following => keepsInput_iff following i)
    (fun _ i following _ => step_following following i) (loopStart_following cfg hasTts)

def relayAtOnce : KerchunkConfig :=
  -- The configuration `[repeater] software_relay = on` with `cor_debounce = 0`.
  { sectionName := "repeater".toList, key := "cor_debounce".toList, value := "0".toList } :: relayOn

def heldKey : List LoopInput :=
  -- COR comes up and stays up for 320 ms, with a report at every poll.
  [.rpt (.configure relayAtOnce), .hardware true] ++ List.replicate 16 (.poll true false)

theorem held_key_drops :
    ¬ Machine.Guarded Loop.step KeepsInput (loopStart relayAtOnce false) heldKey := by
  decide

/-! ## The relay's own key -/

theorem startReceiving_held {s : State} (relay : s.cfg.softwareRelay = true) :
    s.startReceiving.ptt.active = true := by
  have requested : s.requestRelay.ptt.active = true := by
    simp only [State.requestRelay, relay, if_true, State.requestPtt, Ptt.coreRequestPtt]
    split <;> simp_all
  have changed : (s.requestRelay.changeState .receiving).ptt = s.requestRelay.ptt := by
    unfold State.changeState
    split <;> rfl
  simp only [State.startReceiving]
  split <;> exact changed ▸ requested

-- While PTT is held nothing reaches the detector.
theorem held_not_heard {s : Loop} (held : s.rpt.ptt.active = true) (report dtmf : Bool) :
    heard s.tx.trustCosBit (s.pollNow report dtmf) s.polls = false := by
  simp [heard, cosLevel, Poll.cosRaw, Poll.tone, Loop.pollNow, held]

theorem window_le {tx : TxActivity} (ordered : tx.endSilenceTicks ≤ tx.endSilenceDtmfTicks)
    (since : Nat) (polls : List Poll) : tx.window since polls ≤ tx.endSilenceDtmfTicks := by
  unfold TxActivity.window
  split
  next => exact Nat.le_refl _
  next => exact ordered

/-- A poll under PTT that fires no event leaves the repeater as it is, and PTT held. -/
theorem held_poll {s : Loop} {n : Nat} (following : s.Following) (live : s.since = some n)
    (held : s.rpt.ptt.active = true) {report dtmf : Bool}
    (kept : s.corEvent (s.pollNow report dtmf) ≠ some .corDrop) :
    let after := s.polled (s.pollNow report dtmf)
    after.rpt = s.rpt ∧ after.since = some (n + 1) ∧ after.steady = s.steady := by
  have tracks := following.tracks
  rw [live] at tracks
  have quiet := TxActivity.tick_quiet tracks (s.pollNow report dtmf)
    (held_not_heard held report dtmf)
  have edge : (s.txTick (s.pollNow report dtmf)).1 = .noEdge := by
    rw [Ne, corEvent_drop_iff] at kept
    simp only [Loop.txTick, quiet] at kept ⊢
    split at kept
    next => exact absurd rfl kept
    next short => rw [if_neg short]
  simp [Loop.polled, Loop.corEvent, edge, TxActivity.follow, live]

theorem held_polls_short {s : Loop} (following : s.Following) (relaying : s.Relaying)
    (held : s.rpt.ptt.active = true) (polls : List (Bool × Bool))
    (guarded : Machine.Guarded Loop.step KeepsInput s (polls.map fun p => .poll p.1 p.2)) :
    polls = [] ∨
      quietStretch s.tx.trustCosBit s.polls + polls.length < max 1 s.tx.endSilenceDtmfTicks := by
  induction polls generalizing s with
  | nil => exact Or.inl rfl
  | cons p rest ih =>
    right
    obtain ⟨n, live⟩ := Option.isSome_iff_exists.mp relaying.2.2
    let now := s.pollNow p.1 p.2
    have still : quietStretch s.tx.trustCosBit (now :: s.polls) <
        max 1 (s.tx.window (n + 1) (now :: s.polls)) :=
      (keepsInput_iff following (.poll p.1 p.2)).mp guarded.1 relaying n live
    have stretch : quietStretch s.tx.trustCosBit (now :: s.polls) =
        quietStretch s.tx.trustCosBit s.polls + 1 := by
      simp [now, quietStretch, held_not_heard held p.1 p.2]
    have bound := window_le following.ordered (n + 1) (now :: s.polls)
    obtain ⟨same, later, steady⟩ := held_poll following live held (guarded.1 relaying)
    have setting := polled_setting s now
    have rest_short := ih (polled_following following now)
      ⟨by rw [same]; exact relaying.1, steady.trans relaying.2.1, by rw [later]; rfl⟩
      (by rw [same]; exact held) guarded.2
    rw [setting.trust, setting.endSilenceDtmf,
      show (s.polled now).polls = now :: s.polls from rfl, stretch] at rest_short
    rw [List.length_cons]
    rcases rest_short with done | short
    next =>
      rw [done, List.length_nil]
      omega
    next => omega

/-- Whatever the end-of-silence times: PTT held for the longer of them drops COR under a user who
still transmits. -/
theorem held_polls_drop {s : Loop} (following : s.Following) (relaying : s.Relaying)
    (held : s.rpt.ptt.active = true) (polls : List (Bool × Bool))
    (long : max 1 s.tx.endSilenceDtmfTicks ≤ polls.length) :
    ¬ Machine.Guarded Loop.step KeepsInput s (polls.map fun p => .poll p.1 p.2) := by
  intro guarded
  rcases held_polls_short following relaying held polls guarded with none_left | short
  next =>
    subst none_left
    simp at long
  next => omega

end Kerchunk.Repeater
