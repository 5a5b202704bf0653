import Mathlib.Data.List.Basic
import Mathlib.Algebra.GroupWithZero.Nat
import Mathlib.Algebra.Ring.Int.Defs
import Mathlib.Data.Int.Order.Basic
import Mathlib.Tactic.Common

set_option autoImplicit false

/-!
# The TX sub-tick of `kerchunk_audio_tick.c`

The audio thread owns the state; between two calls only the `*_ms` fields (a
reload) and `relayDrain` (the RX sub-tick) change. The products below stay
under 2^31 for the sample rates and delays that the loader admits.
-/

namespace Kerchunk.AudioTick

def txActionsMax : Nat := 8

structure AudioState where
  txDelayMs : Nat
  txTailMs : Nat
  relayDrain : Int
  queuePtt : Bool
  queueFiredDrain : Bool
  queueDrainStartUs : UInt64
  txDelayRem : Int
  txTailRem : Int
  pttHoldTicks : Nat
deriving DecidableEq

def AudioState.init : AudioState where
  txDelayMs := 0
  txTailMs := 0
  relayDrain := 0
  queuePtt := false
  queueFiredDrain := false
  queueDrainStartUs := 0
  txDelayRem := 0
  txTailRem := -1
  pttHoldTicks := 0

structure TxIn where
  relayActive : Bool
  pttHeld : Bool
  queueDepth : Int
  queueIsDraining : Bool
  playWritable : Nat
  playPending : Nat
  nowUs : UInt64
deriving DecidableEq

/-- Which of the two loops pushed a silence. The source does not record it. -/
inductive Purpose where
  | txDelay
  | txTail
deriving DecidableEq

inductive Action where
  | assertPtt
  | fireDrain
  | fireComplete (durationMs : UInt32)
  | silence (purpose : Purpose) (samples : Int)
  | drain (samples : Int)
  | releasePtt
deriving DecidableEq

/-- What the blocks of one call share. -/
structure Pass where
  state : AudioState
  actions : List Action
  playW : Int
deriving DecidableEq

structure TxOut where
  state : AudioState
  actions : List Action
  rerunThisTick : Bool
deriving DecidableEq

def pushAction (actions : List Action) (action : Action) : List Action :=
  if actions.length ≥ txActionsMax then actions else actions ++ [action]

def feed (frameSamples : Int) : Nat → Int → Int → List Int × Int × Int
  -- A silence loop: the chunks it pushes, what is left to feed and the space left to write.
  | 0, rem, playW => ([], rem, playW)
  | room + 1, rem, playW =>
      if rem > 0 ∧ playW ≥ frameSamples then
        let sn := if rem < frameSamples then rem else frameSamples
        let more := feed frameSamples room (rem - sn) (playW - sn)
        (sn :: more.1, more.2)
      else ([], rem, playW)

def room (actions : List Action) : Nat :=
  txActionsMax - actions.length

def hasWork (inp : TxIn) : Bool :=
  decide (inp.queueDepth > 0) || inp.queueIsDraining

def startPtt (inp : TxIn) (sampleRate : Int) (p : Pass) : Pass :=
  if !p.state.queuePtt && hasWork inp then
    { p with
      state :=
        { p.state with
          queuePtt := true
          queueFiredDrain := false
          txDelayRem := if inp.pttHeld then 0 else sampleRate * p.state.txDelayMs / 1000
          txTailRem := -1 }
      actions := pushAction p.actions .assertPtt }
  else p

def feedDelay (frameSamples : Int) (p : Pass) : Pass :=
  if p.state.queuePtt then
    let fed := feed frameSamples (room p.actions) p.state.txDelayRem p.playW
    { state := { p.state with txDelayRem := fed.2.1 }
      actions := p.actions ++ fed.1.map (.silence .txDelay)
      playW := fed.2.2 }
  else p

def drains (inp : TxIn) (p : Pass) : Bool :=
  p.state.queuePtt && decide (p.state.txDelayRem ≤ 0) &&
    !(inp.relayActive && !(p.state.queuePtt || inp.pttHeld)) && hasWork inp &&
    decide (p.actions.length < txActionsMax)

def fireDrain (inp : TxIn) (p : Pass) : Pass :=
  if !p.state.queueFiredDrain then
    { p with
      state := { p.state with queueFiredDrain := true, queueDrainStartUs := inp.nowUs }
      actions := pushAction p.actions .fireDrain }
  else p

def drainFrame (inp : TxIn) (frameSamples : Int) (p : Pass) : Pass :=
  let fired := fireDrain inp p
  { fired with
    actions := pushAction fired.actions (.drain frameSamples)
    playW := if fired.playW ≥ frameSamples then fired.playW - frameSamples else fired.playW }

def queueEmptied (inp : TxIn) (p : Pass) : Bool :=
  p.state.queuePtt && decide (p.state.txDelayRem ≤ 0) && decide (inp.queueDepth = 0) &&
    !inp.queueIsDraining

def feedTail (frameSamples : Int) (p : Pass) : Pass :=
  let fed := feed frameSamples (room p.actions) p.state.txTailRem p.playW
  { state := { p.state with txTailRem := fed.2.1 }
    actions := p.actions ++ fed.1.map (.silence .txTail)
    playW := fed.2.2 }

def release (inp : TxIn) (p : Pass) : Pass :=
  if p.state.txTailRem ≤ 0 ∧ inp.playPending = 0 then
    let held := p.state.pttHoldTicks + 1
    if held ≥ 3 ∧ p.actions.length < txActionsMax then
      { p with
        state := { p.state with queuePtt := false, txTailRem := -1, pttHoldTicks := 0 }
        actions := pushAction p.actions .releasePtt }
    else { p with state := { p.state with pttHoldTicks := held } }
  else { p with state := { p.state with pttHoldTicks := 0 } }

def startTail (sampleRate : Int) (p : Pass) : Pass :=
  -- Pass A: the tail starts.
  { p with state := { p.state with txTailRem := sampleRate * p.state.txTailMs / 1000 } }

def durationMs (inp : TxIn) (s : AudioState) : UInt32 :=
  ((inp.nowUs - s.queueDrainStartUs) / 1000).toUInt32

def complete (inp : TxIn) (p : Pass) : Pass :=
  { p with
    state := { p.state with queueFiredDrain := false }
    actions := pushAction p.actions (.fireComplete (durationMs inp p.state)) }

def endQueue (inp : TxIn) (sampleRate frameSamples : Int) (p : Pass) : Pass × Bool :=
  -- The second component is the early return that asks for a rerun.
  if p.state.txTailRem < 0 then
    let tail := startTail sampleRate p
    if tail.state.queueFiredDrain then (complete inp tail, true)
    else (release inp (feedTail frameSamples tail), false)
  else (release inp (feedTail frameSamples p), false)

def cancelTail (inp : TxIn) (p : Pass) : TxOut :=
  if p.state.queuePtt && decide (p.state.txTailRem > 0) && decide (inp.queueDepth > 0) then
    { state := { p.state with txTailRem := -1, queueFiredDrain := true, pttHoldTicks := 0 }
      actions := []
      rerunThisTick := true }
  else ⟨p.state, p.actions, false⟩

def queuePaused (s : AudioState) (inp : TxIn) : Bool :=
  !s.queuePtt && (inp.relayActive || decide (s.relayDrain > 0))

def openPass (s : AudioState) (inp : TxIn) (sampleRate frameSamples : Int) : Pass :=
  -- PTT and the delay silence, before the queue is looked at.
  feedDelay frameSamples (startPtt inp sampleRate ⟨s, [], inp.playWritable⟩)

def runPass (inp : TxIn) (sampleRate frameSamples : Int) (p : Pass) : TxOut :=
  if drains inp p then cancelTail inp (drainFrame inp frameSamples p)
  else if queueEmptied inp p then
    match endQueue inp sampleRate frameSamples p with
    | (p', true) => ⟨p'.state, p'.actions, true⟩
    | (p', false) => cancelTail inp p'
  else cancelTail inp p

def audioTickTx (s : AudioState) (inp : TxIn) (sampleRate frameSamples : Int) : TxOut :=
  if sampleRate ≤ 0 ∨ frameSamples ≤ 0 then ⟨s, [], false⟩
  -- Every block of the source is guarded by !queue_paused.
  else if queuePaused s inp then ⟨s, [], false⟩
  else runPass inp sampleRate frameSamples (openPass s inp sampleRate frameSamples)

end Kerchunk.AudioTick
