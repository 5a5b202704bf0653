import Kerchunk.Cdr.Model
import Kerchunk.Config.Duration

set_option autoImplicit false

/-!
# The transmit side of the recorder (`src/modules/mod_recorder.c`)

The tap and the queue's events run on the audio thread, one after the other. Samples are only
copied, so their type is left open.
-/

namespace Kerchunk.Recorder

open Config (Text KerchunkConfig bounded configGet configGetDurationS)
open Cdr (intText)

/-- What `g_tx_vcor_user_id`, `g_tx_vcor_source` and `g_tx_vcor_username` hold. -/
structure Attribution where
  userId : Int
  source : Text
  username : Text
deriving DecidableEq

def nobody : Attribution where
  userId := 0
  source := []
  username := []

/-- A file that has been written. -/
structure Saved (α : Type) where
  path : Text
  who : Text
  samples : List α

structure State (α : Type) where
  enabled : Bool
  dir : Text
  maxDurationS : Int
  txActive : Bool
  txBuf : List α
  txCap : Nat
  txStartTime : Text
  txVcor : Attribution
  txVcorActive : Bool
  -- Set and cleared, and never read.
  txDrainToComplete : Bool

def maxDurationCap : Int := 300

def initial (α : Type) : State α where
  enabled := false
  dir := "recordings".toList
  maxDurationS := maxDurationCap
  txActive := false
  txBuf := []
  txCap := 0
  txStartTime := []
  txVcor := nobody
  txVcorActive := false
  txDrainToComplete := false

def nameChar (c : Char) : Bool :=
  ('A' ≤ c && c ≤ 'Z') || ('a' ≤ c && c ≤ 'z') || ('0' ≤ c && c ≤ '9') || c = '_' || c = '-'

def sanitizeName (max : Nat) (name : Text) : Text :=
  bounded max (name.filter nameChar)

def fallback (source rest : Text) : Text :=
  bounded 80 (source ++ '_' :: rest)

def txWho (users : Int → Option Text) (vcor : Attribution) : Text :=
  if vcor.username ≠ [] then
    if vcor.source ≠ [] then fallback vcor.source vcor.username else vcor.username
  else if 0 < vcor.userId then
    match users vcor.userId with
    | some (first :: name) => first :: name
    | _ =>
      if vcor.source ≠ [] then fallback vcor.source (intText vcor.userId)
      else "transmit".toList
  else if vcor.source ≠ [] then vcor.source
  else "transmit".toList

/-- The name in the file's name. -/
def label (users : Int → Option Text) (vcor : Attribution) : Text :=
  sanitizeName 32 (txWho users vcor)

namespace State

section

variable {α : Type} (s : State α)

def saveRecording (direction startTime safeWho : Text) (buf : List α) (written : Bool) :
    Option (Saved α) :=
  if buf = [] then none
  else if written then
    some
      { path :=
          s.dir ++ '/' :: (startTime ++ '_' :: (direction ++ '_' :: (safeWho ++ ".wav".toList)))
        who := safeWho
        samples := buf }
  else none

def maxSamples (rate : Nat) : Nat :=
  rate * s.maxDurationS.toNat

/-- The buffer may have to grow, for which `memory` says whether there is room. -/
def appendSamples (rate : Nat) (samples : List α) (memory : Bool) : State α :=
  let max := s.maxSamples rate
  let needed := s.txBuf.length + samples.length
  if max ≤ s.txBuf.length then s
  else if s.txCap < needed && !memory then s
  else
    let doubled := if 2 * s.txCap < needed then needed + rate else 2 * s.txCap
    { s with
      txBuf := s.txBuf ++ samples.take (max - s.txBuf.length)
      txCap := if s.txCap < needed then min doubled max else s.txCap }

def txPlaybackTap (rate : Nat) (samples : List α) (memory : Bool) : State α :=
  if s.txActive then s.appendSamples rate samples memory else s

def txStart (rate : Nat) (now : Text) (memory : Bool) : State α :=
  if s.txActive then s
  else if memory then
    { s with txActive := true, txBuf := [], txCap := rate * 30, txStartTime := now }
  else { s with txBuf := [], txCap := rate * 30 }

def txStop (users : Int → Option Text) (written : Bool) : State α × Option (Saved α) :=
  if s.txActive then
    ({ s with txActive := false, txBuf := [], txCap := 0, txVcor := nobody },
      s.saveRecording "TX".toList s.txStartTime (label users s.txVcor) s.txBuf written)
  else (s, none)

def onVcorAssert (userId : Int) (source username : Text) : State α :=
  { s with
    txVcor := ⟨userId, bounded 16 source, bounded 64 username⟩
    txVcorActive := true
    txDrainToComplete := false }

def onVcorDrop : State α :=
  { s with txVcorActive := false, txDrainToComplete := true }

/-- `src` is what `kerchunk_queue_drain_source` says, `now` the time as `fmt_timestamp` has it. -/
def onQueueDrain (rate : Nat) (src now : Text) (memory : Bool) : State α :=
  if !s.enabled then s
  else if src = "courtesy".toList then s
  else s.txStart rate now memory

def onQueueComplete (users : Int → Option Text) (written : Bool) : State α × Option (Saved α) :=
  if !s.enabled then (s, none)
  else if s.txVcorActive then (s, none)
  else
    let stopped := s.txStop users written
    ({ stopped.1 with txDrainToComplete := false }, stopped.2)

def configure (cfg : KerchunkConfig) : State α :=
  let seconds := configGetDurationS cfg "recording".toList "max_duration".toList maxDurationCap
  { s with
    enabled := configGet cfg "recording".toList "enabled".toList = some "on".toList
    dir :=
      match configGet cfg "recording".toList "directory".toList with
      | some dir => bounded 256 dir
      | none => s.dir
    maxDurationS := max 1 (min seconds maxDurationCap) }

end

end State

/-! ## What the handlers do -/

section

variable {α : Type} (r : State α)

theorem onQueueDrain_kept (rate : Nat) (src now : Text) (memory : Bool) :
    (r.onQueueDrain rate src now memory).txVcor = r.txVcor ∧
      (r.onQueueDrain rate src now memory).txVcorActive = r.txVcorActive := by
  rw [State.onQueueDrain, State.txStart]
  split_ifs <;> exact ⟨rfl, rfl⟩

theorem onQueueDrain_active {r : State α} (active : r.txActive = true) (rate : Nat)
    (src now : Text) (memory : Bool) : r.onQueueDrain rate src now memory = r := by
  rw [State.onQueueDrain, State.txStart, if_pos active]
  split_ifs <;> rfl

theorem onQueueDrain_empty {r : State α} (empty : r.txBuf = []) (rate : Nat) (src now : Text)
    (memory : Bool) :
    (r.onQueueDrain rate src now memory).txBuf = [] := by
  rw [State.onQueueDrain, State.txStart]
  split_ifs <;> first | exact empty | rfl

theorem txPlaybackTap_kept (rate : Nat) (samples : List α) (memory : Bool) :
    (r.txPlaybackTap rate samples memory).txActive = r.txActive ∧
      (r.txPlaybackTap rate samples memory).txVcor = r.txVcor ∧
      (r.txPlaybackTap rate samples memory).txVcorActive = r.txVcorActive := by
  rw [State.txPlaybackTap, State.appendSamples]
  split_ifs <;> exact ⟨rfl, rfl, rfl⟩

theorem txPlaybackTap_buf (rate : Nat) (samples : List α) (memory : Bool) :
    (r.txPlaybackTap rate samples memory).txBuf = r.txBuf ∨
      r.txActive = true ∧
        ∃ n, (r.txPlaybackTap rate samples memory).txBuf = r.txBuf ++ samples.take n := by
  rw [State.txPlaybackTap]
  split
  next active =>
    rw [State.appendSamples]
    simp only
    split
    next => exact .inl rfl
    next =>
      split
      next => exact .inl rfl
      next => exact .inr ⟨active, _, rfl⟩
  next => exact .inl rfl

theorem saveRecording_cases (direction startTime safeWho : Text) (buf : List α) (written : Bool) :
    ((buf = [] ∨ written = false) ∧
      r.saveRecording direction startTime safeWho buf written = none) ∨
    (buf ≠ [] ∧ written = true ∧ ∃ path,
      r.saveRecording direction startTime safeWho buf written = some ⟨path, safeWho, buf⟩) := by
  rw [State.saveRecording]
  split_ifs with silent wrote
  next => exact .inl ⟨.inl silent, rfl⟩
  next => exact .inr ⟨silent, wrote, _, rfl⟩
  next => exact .inl ⟨.inr (Bool.eq_false_iff.mpr wrote), rfl⟩

def closed : State α :=
  { r with
    txActive := false
    txBuf := []
    txCap := 0
    txVcor := nobody
    txDrainToComplete := false }

/-- What `on_queue_complete` may do. -/
inductive Completes (users : Int → Option Text) (written : Bool) :
    State α × Option (Saved α) → Prop where
  | ignored (why : r.enabled = false ∨ r.txVcorActive = true) : Completes users written (r, none)
  | idle (enabled : r.enabled = true) (ended : r.txVcorActive = false)
      (stopped : r.txActive = false) :
      Completes users written ({ r with txDrainToComplete := false }, none)
  | loses (enabled : r.enabled = true) (ended : r.txVcorActive = false)
      (active : r.txActive = true) (why : r.txBuf = [] ∨ written = false) :
      Completes users written (closed r, none)
  | stores (enabled : r.enabled = true) (ended : r.txVcorActive = false)
      (active : r.txActive = true) (heard : r.txBuf ≠ []) (wrote : written = true) (path : Text) :
      Completes users written (closed r, some ⟨path, label users r.txVcor, r.txBuf⟩)

theorem onQueueComplete_completes (users : Int → Option Text) (written : Bool) :
    Completes r users written (r.onQueueComplete users written) := by
  cases enabled : r.enabled with
  | false =>
    simp only [State.onQueueComplete, enabled, Bool.not_false, if_true]
    exact .ignored (.inl enabled)
  | true =>
    cases ended : r.txVcorActive with
    | true =>
      simp only [State.onQueueComplete, enabled, ended, Bool.not_true, Bool.false_eq_true, if_true,
        if_false]
      exact .ignored (.inr ended)
    | false =>
      simp only [State.onQueueComplete, enabled, ended, Bool.not_true, Bool.false_eq_true, if_false]
      rw [State.txStop]
      split
      next active =>
        rcases saveRecording_cases r "TX".toList r.txStartTime (label users r.txVcor) r.txBuf written
          with ⟨why, none⟩ | ⟨heard, wrote, path, saved⟩
        next =>
          rw [none]
          exact .loses enabled ended active why
        next =>
          rw [saved]
          exact .stores enabled ended active heard wrote path
      next running => exact .idle enabled ended (Bool.eq_false_iff.mpr running)

end

theorem label_nobody (users : Int → Option Text) : label users nobody = "transmit".toList := by
  rfl

end Kerchunk.Recorder
