import Kerchunk.Cwid.Model
import Kerchunk.Shell.Model

set_option autoImplicit false

/-!
# Courtesy tones (`modules/mod_courtesy.c`)

The module beside the queue and the TX part of the audio thread. A handler is one step; `act` is the
audio thread's, and it runs the handler of QUEUE_COMPLETE.
-/

namespace Kerchunk.Courtesy

open AudioTick (Call)
open Config (KerchunkConfig Text configGet configGetDurationMs)
open Cwid (configGetInt int16)
open Queue (Producer addSilence addTone copySource tagItem)

structure Settings where
  enabled : Bool
  freq : Int
  dur : Int
  amp : Int
  queueCourtesy : Bool
deriving DecidableEq

def defaults : Settings where
  enabled := true
  freq := 800
  dur := 100
  amp := 4000
  queueCourtesy := false

def courtesyConfigure (cfg : KerchunkConfig) : Settings :=
  let value (key : String) := configGet cfg "courtesy".toList key.toList
  { enabled := decide (value "enabled" ≠ some "off".toList)
    freq := configGetInt cfg "courtesy".toList "freq".toList 800
    dur := configGetDurationMs cfg "courtesy".toList "duration".toList 100
    amp := int16 (configGetInt cfg "courtesy".toList "amplitude".toList 4000)
    queueCourtesy := decide (value "queue_courtesy" = some "on".toList) }

/-- `last` is `g_last_courtesy_us`, and `stamp` what the audio thread read of the clock for its pass.
`announced` are the descriptions of the announcements that the module has fired. -/
structure Sys where
  shell : Shell.System
  stamp : UInt64
  cfg : Settings
  callerId : Int
  last : UInt64
  announced : List Text

def start (rate : Nat) : Sys where
  shell := Shell.start rate
  stamp := 0
  cfg := defaults
  callerId := 0
  last := 0
  announced := []

/-! ## The handlers -/

def courtesyTag : List Char := "courtesy".toList

def priNormal : Int := 2

def noTail (flags : Int) : Bool :=
  -- `flags & QUEUE_FLAG_NO_TAIL`
  decide (flags % 2 = 1)

def tagAdded (added : Option Nat × Queue.State) : Queue.State :=
  match added.1 with
  | some id => tagItem added.2 id courtesyTag
  | none => added.2

namespace Sys

-- `encoder` is libplcode's tone encoder: of the rate, the frequency and the amplitude.
variable (encoder : Nat → Int → Int → Option (Nat → Int)) (s : Sys)

def silenced : Queue.State :=
  tagAdded (addSilence s.shell.queue 50 priNormal)

def toned : Queue.State :=
  tagAdded (addTone s.silenced s.cfg.freq s.cfg.dur
    (encoder s.silenced.rate s.cfg.freq s.cfg.amp) priNormal)

def queueTone (reason : Text) (now : UInt64) : Sys :=
  if s.cfg.enabled then
    { s with
      shell := { s.shell with queue := s.toned encoder }
      last := now
      announced := s.announced ++ [reason] }
  else s

def onCorDrop (now : UInt64) : Sys :=
  s.queueTone encoder (if s.callerId ≠ 0 then "cor_drop, caller" else "cor_drop").toList now

def onLinkRxDrop (now : UInt64) : Sys :=
  s.queueTone encoder "link_rx_drop".toList now

def onVcorDrop (source : Text) (now : UInt64) : Sys :=
  s.queueTone encoder
    (("vcor_drop:".toList ++ if source = [] then "?".toList else source).take 63) now

def recent (timestamp : UInt64) : Bool :=
  -- The completion comes within 500 ms of the tone that is remembered.
  decide (s.last > 0) && decide (timestamp - s.last < 500000)

def onQueueComplete (timestamp now : UInt64) : Sys :=
  let cleared : Sys := { s with last := 0 }
  if s.recent timestamp then cleared
  else if s.cfg.queueCourtesy ∧ ¬noTail s.shell.queue.lastDrainFlags then
    cleared.queueTone encoder "queue_complete".toList now
  else cleared

def othersCall : Producer → Sys
  -- Another module tags items of its own, and under its own name.
  | .tagItem id source =>
    if copySource source = courtesyTag ∨
        ∃ item ∈ s.shell.queue.head, item.id = id ∧ item.source = courtesyTag then s
    else { s with shell := Shell.step s.shell (.produce (.tagItem id source)) }
  | request => { s with shell := Shell.step s.shell (.produce request) }

end Sys

/-! ## Runs -/

inductive Input where
  | corDrop (now : UInt64)
  | linkRxDrop (now : UInt64)
  | vcorDrop (source : Text) (now : UInt64)
  | callerIdentified (userId : Int)
  | callerCleared
  | configure (cfg : KerchunkConfig)
  | produce (request : Producer)
  | readDepth
  | tick (c : Call)
  | act (now : UInt64)

variable (encoder : Nat → Int → Int → Option (Nat → Int))

def step (s : Sys) : Input → Sys
  | .corDrop now => s.onCorDrop encoder now
  | .linkRxDrop now => s.onLinkRxDrop encoder now
  | .vcorDrop source now => s.onVcorDrop encoder source now
  | .callerIdentified userId => { s with callerId := userId }
  | .callerCleared => { s with callerId := 0 }
  | .configure cfg => { s with cfg := courtesyConfigure cfg }
  | .produce request => s.othersCall request
  | .readDepth => { s with shell := Shell.step s.shell .readDepth }
  | .tick c =>
    match s.shell.pc with
    | .depthRead .. => { s with shell := Shell.step s.shell (.tick c), stamp := c.inp.nowUs }
    | _ => s
  | .act now =>
    let done : Sys := { s with shell := Shell.step s.shell .act }
    if s.shell.pc.completes then done.onQueueComplete encoder s.stamp now else done

end Kerchunk.Courtesy
