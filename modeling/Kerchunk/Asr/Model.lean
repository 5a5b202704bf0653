import Mathlib.Tactic.Common

set_option autoImplicit false

/-!
# Speech recognition (`modules/mod_asr.c`)

Who a transcript is said to be from. What virtual COR captures is left out, and so is the text.
-/

namespace Kerchunk.Asr

inductive Mode where
  | batch
  | streaming
deriving DecidableEq

/-- `isShort` says which numbers of samples last less than `min_duration`. -/
structure Config where
  mode : Mode
  maxSamples : Nat
  isShort : Nat → Bool

/-- What waits for the worker. -/
structure Request where
  samples : Nat
  callerId : Nat
deriving DecidableEq

structure State where
  callerId : Nat
  capturing : Bool
  capLen : Nat
  streamConn : Bool
  streamingActive : Bool
  streamSamples : Nat
  asrReq : Option Request
deriving DecidableEq

def init : State where
  callerId := 0
  capturing := false
  capLen := 0
  streamConn := false
  streamingActive := false
  streamSamples := 0
  asrReq := none

variable (cfg : Config) (s : State)

def onCallerIdentified (userId : Nat) : State :=
  { s with callerId := userId }

def onCorAssert (opened : Bool) : State :=
  -- `opened` says whether there is a buffer, or a stream.
  let s := { s with callerId := 0 }
  match cfg.mode with
  | .streaming =>
    if opened then { s with streamConn := true, streamSamples := 0, streamingActive := true }
    else { s with streamConn := false }
  | .batch => { s with capturing := opened, capLen := 0 }

def batchAudioTap (n : Nat) (grown : Bool) : State :=
  if !s.capturing || s.capLen ≥ cfg.maxSamples || !grown then s
  else { s with capLen := min (s.capLen + n) cfg.maxSamples }

def streamAudioTap (n : Nat) (sent : Bool) : State :=
  if !s.streamingActive || !s.streamConn || s.streamSamples ≥ cfg.maxSamples then s
  else if sent then { s with streamSamples := min (s.streamSamples + n) cfg.maxSamples }
  else { s with streamingActive := false }

def audioTap (n : Nat) (taken : Bool) : State :=
  match cfg.mode with
  | .streaming => streamAudioTap cfg s n taken
  | .batch => batchAudioTap cfg s n taken

def streamEnds : State :=
  { s with streamingActive := false, streamConn := false }

def isHeard (samples : Nat) : Bool :=
  samples ≠ 0 && !cfg.isShort samples

def onCorDrop (text : Bool) : State × Option Nat :=
  -- The module at the end of a transmission, and the caller that a transcript names now.
  match cfg.mode with
  | .streaming =>
    -- `text` says whether the service has answered with some.
    if s.streamConn && isHeard cfg s.streamSamples && text then
      (streamEnds s, some s.callerId)
    else (streamEnds s, none)
  | .batch =>
    if !s.capturing then (s, none)
    else
      let stopped := { s with capturing := false }
      if isHeard cfg s.capLen then
        ({ stopped with capLen := 0, asrReq := some ⟨s.capLen, s.callerId⟩ }, none)
      else (stopped, none)

def batchWorker (text : Bool) : State × Option Nat :=
  match s.asrReq with
  | none => (s, none)
  | some request => ({ s with asrReq := none }, if text then some request.callerId else none)

variable {cfg s}

theorem onCorAssert_callerId (opened : Bool) : (onCorAssert cfg s opened).callerId = 0 := by
  unfold onCorAssert
  split
  next => split <;> rfl
  next => rfl

theorem onCorAssert_asrReq (opened : Bool) : (onCorAssert cfg s opened).asrReq = s.asrReq := by
  unfold onCorAssert
  split
  next => split <;> rfl
  next => rfl

theorem onCorDrop_names (text : Bool) : ∀ id ∈ (onCorDrop cfg s text).2, id = s.callerId := by
  unfold onCorDrop
  split
  next => split <;> simp
  next =>
    dsimp only
    split_ifs <;> simp

def handsOver (cfg : Config) (s : State) : Bool :=
  -- The end of a transmission leaves a request.
  cfg.mode = .batch && s.capturing && isHeard cfg s.capLen

theorem onCorDrop_asrReq (text : Bool) : (onCorDrop cfg s text).1.asrReq =
    if handsOver cfg s then some ⟨s.capLen, s.callerId⟩ else s.asrReq := by
  unfold onCorDrop handsOver
  cases mode : cfg.mode with
  | streaming =>
    dsimp only
    split_ifs <;> simp_all [streamEnds]
  | batch =>
    dsimp only
    cases s.capturing <;> cases isHeard cfg s.capLen <;> simp

theorem audioTap_frame (n : Nat) (taken : Bool) :
    (audioTap cfg s n taken).callerId = s.callerId ∧ (audioTap cfg s n taken).asrReq = s.asrReq := by
  unfold audioTap streamAudioTap batchAudioTap
  split <;> split_ifs <;> trivial

theorem batchWorker_frame (text : Bool) :
    (batchWorker s text).1.callerId = s.callerId ∧ (batchWorker s text).1.asrReq = none := by
  unfold batchWorker
  cases request : s.asrReq with
  | none => exact ⟨rfl, request⟩
  | some r => exact ⟨rfl, rfl⟩

theorem batchWorker_names (text : Bool) : ∀ id ∈ (batchWorker s text).2,
    ∃ request ∈ s.asrReq, id = request.callerId := by
  unfold batchWorker
  cases s.asrReq with
  | none => simp
  | some r => cases text <;> simp

end Kerchunk.Asr
