import Kerchunk.AudioTick.Tx
import Kerchunk.Lib.Machine

set_option autoImplicit false

/-!
# The RX sub-tick of `kerchunk_audio_tick.c`

The DTMF decoder is a parameter. Between two ticks the TX sub-tick and a reload may change what the
RX sub-tick only reads.
-/

namespace Kerchunk.AudioTick

/-- `kerchunk_audio_state_t` with the fields of the relay. -/
structure RelayState extends AudioState where
  softwareRelay : Bool
  relayDrainMs : Nat
  relayWasActive : Bool
deriving DecidableEq

/-- The decoder's own state, and what it says of a frame: the digit that it hears. -/
structure DtmfDecoder (D : Type) where
  reset : D → D
  process : D → List Int → D × Option Char

structure RxTick (D : Type) where
  prevDtmf : Bool
  dec : Option D

/-- `frame` holds the `nread` samples that were captured. -/
structure RxIn where
  frame : List Int
  relayActive : Bool
  pttHeld : Bool
  playWritable : Nat
  sampleRate : Int
deriving DecidableEq

def RxIn.nread (inp : RxIn) : Nat :=
  inp.frame.length

inductive RxEvent where
  | noEvent
  | dtmfDigit (digit : Char)
  | dtmfEnd
deriving DecidableEq

structure RxOut where
  dtmfActive : Bool
  event : RxEvent
  relayWrite : Bool
deriving DecidableEq

variable {D : Type} (decoder : DtmfDecoder D)

def resetDecoder (s : RelayState) (inp : RxIn) (rx : RxTick D) : RxTick D :=
  if inp.relayActive && !s.relayWasActive then { rx with dec := rx.dec.map decoder.reset } else rx

def decodeDtmf (s : RelayState) (inp : RxIn) (rx : RxTick D) : RxTick D × Bool × RxEvent :=
  match rx.dec with
  | some dec =>
    if (inp.relayActive || decide (s.relayDrain > 0)) && decide (inp.nread > 0) then
      let heard := decoder.process dec inp.frame
      let event :=
        match heard.2, rx.prevDtmf with
        | some digit, false => .dtmfDigit digit
        | none, true => .dtmfEnd
        | _, _ => .noEvent
      (⟨heard.2.isSome, some heard.1⟩, heard.2.isSome, event)
    else ({ rx with prevDtmf := false }, false, if rx.prevDtmf then .dtmfEnd else .noEvent)
  | none => ({ rx with prevDtmf := false }, false, if rx.prevDtmf then .dtmfEnd else .noEvent)

def startDrain (s : RelayState) (inp : RxIn) : RelayState :=
  if s.softwareRelay && s.relayWasActive && !inp.relayActive then
    { s with relayDrain := inp.sampleRate * s.relayDrainMs / 1000 }
  else s

def doRelay (s : RelayState) (inp : RxIn) : Bool :=
  s.softwareRelay && inp.pttHeld && !s.queuePtt &&
    (inp.relayActive || decide (s.relayDrain > 0))

def power (frame : List Int) : Int :=
  (frame.map fun sample => sample * sample).sum / frame.length

def countDrain (s : RelayState) (inp : RxIn) : RelayState :=
  if !inp.relayActive && decide (s.relayDrain > 0) then
    -- Below the noise floor the speech has ended.
    { s with relayDrain := if power inp.frame < 200 * 200 then 0 else s.relayDrain - inp.nread }
  else s

def relays (s : RelayState) (inp : RxIn) : Bool :=
  doRelay s inp && decide (inp.nread > 0) && decide (inp.playWritable ≥ inp.nread)

def drained (s : RelayState) (inp : RxIn) : RelayState :=
  -- The state when the relay decision is made.
  { startDrain s inp with relayWasActive := inp.relayActive }

def audioTickRx (s : RelayState) (rx : RxTick D) (inp : RxIn) : RelayState × RxTick D × RxOut :=
  let (rx, dtmfActive, event) := decodeDtmf decoder s inp (resetDecoder decoder s inp rx)
  let s := drained s inp
  let relay := relays s inp
  (if relay then countDrain s inp else s, rx, ⟨dtmfActive, event, relay⟩)

end Kerchunk.AudioTick
