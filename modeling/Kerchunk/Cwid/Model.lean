import Kerchunk.Queue.History
import Kerchunk.Repeater.Model

set_option autoImplicit false

/-!
# CW identification (`modules/mod_cwid.c`)

The module beside what it works with: the outbound queue, the repeater whose events it hears,
and the loop that preempts the queue at a key-up (`main.c`).
-/

namespace Kerchunk.Cwid

open Config (KerchunkConfig Text atoiText configGet configGetDurationMs)
open Queue (Item Producer addBuffer addSilence tagItem)
open Repeater (Output RptState)

/-! ## Rendering -/

/-- The CW encoder of libplcode: `create` takes the sample rate, the callsign, the frequency, the
speed and the amplitude. -/
structure Plcode where
  Enc : Type
  create : Nat → Text → Int → Int → Int → Option Enc
  complete : Enc → Bool
  process : Enc → Nat → List Int × Enc

def chunkMax : Nat := 1600

def written (chunk : Nat) (samples : List Int) : List Int :=
  -- A chunk of the zeroed buffer after the encoder has written to it.
  (samples ++ List.replicate (chunk - samples.length) 0).take chunk

variable (plcode : Plcode)

-- Every chunk takes a sample of the room at least, so as many rounds as the room suffice.
def render : Nat → plcode.Enc → Nat → List Int
  | 0, _, _ => []
  | rounds + 1, enc, room =>
    if plcode.complete enc ∨ room = 0 then []
    else
      let chunk := min room chunkMax
      let made := plcode.process enc chunk
      written chunk made.1 ++ render rounds made.2 (room - chunk)

/-! ## The module's state -/

inductive CwidMode where
  | always
  | onCall
deriving DecidableEq

inductive OcState where
  | idle
  | active
  | tail
deriving DecidableEq

/-- `g_oc_timer_id`, with the time it was started for. -/
inductive OcTimer where
  | activeTick (ms : Int)
  | tailExpire (ms : Int)
deriving DecidableEq

structure CwidConfig where
  intervalMs : Int
  wpm : Int
  freq : Int
  amp : Int
  callsign : Text
  frequency : Text
  voiceId : Bool
  quietStart : Int
  quietEnd : Int
  quietSolar : Bool
  solarOffset : Int
  mode : CwidMode
  tailMs : Int
deriving DecidableEq

def defaultConfig : CwidConfig where
  intervalMs := 600000
  wpm := 20
  freq := 800
  amp := 4000
  callsign := []
  frequency := []
  voiceId := true
  quietStart := -1
  quietEnd := -1
  quietSolar := false
  solarOffset := 0
  mode := .always
  tailMs := 0

structure State where
  cfg : CwidConfig
  scheduled : Option Int
  pending : Bool
  ocState : OcState
  ocTimer : Option OcTimer
deriving DecidableEq

def load : State where
  cfg := defaultConfig
  scheduled := none
  pending := false
  ocState := .idle
  ocTimer := none

/-- The module and its surroundings: `cor` is what `is_receiving` answers, and the repeater's PTT
counter is the core's. -/
structure Sys where
  queue : Queue.State
  rpt : Repeater.State
  cor : Bool
  hour : Nat
  cwid : State

def start (rate : Nat) (hasTts : Bool) : Sys where
  queue := Queue.init rate
  rpt := Repeater.load hasTts
  cor := false
  hour := 0
  cwid := load

/-! ## Configuration -/

def configGetInt (cfg : KerchunkConfig) (sectionName key : Text) (value : Int) : Int :=
  match configGet cfg sectionName key with
  | some text => atoiText text
  | none => value

def copied (size : Nat) (value : Option Text) (before : Text) : Text :=
  -- `snprintf` into a buffer of `size` bytes, when there is a value.
  match value with
  | some text => text.take (size - 1)
  | none => before

def int16 (n : Int) : Int :=
  Int.bmod n 65536

def cwidSettings (old : CwidConfig) (cfg : KerchunkConfig) : CwidConfig :=
  let general (key : String) := configGet cfg "general".toList key.toList
  let repeater (key : String) := configGet cfg "repeater".toList key.toList
  let number (key : String) := configGetInt cfg "repeater".toList key.toList
  let duration (key : String) := configGetDurationMs cfg "repeater".toList key.toList
  let own := general "cwid_callsign"
  { intervalMs := min (duration "cwid_interval" 600000) 900000
    wpm := if number "cwid_wpm" 20 < 5 then 20 else number "cwid_wpm" 20
    freq := number "cwid_freq" 800
    amp := int16 (number "cwid_amplitude" 4000)
    callsign :=
      copied 16 (if own = none ∨ own = some [] then general "callsign" else own) old.callsign
    frequency := copied 16 (general "frequency") old.frequency
    voiceId :=
      match repeater "voice_id" with
      | some text => decide (text ≠ "off".toList)
      | none => old.voiceId
    quietStart := number "quiet_start" (-1)
    quietEnd := number "quiet_end" (-1)
    quietSolar := decide (repeater "quiet_mode" = some "solar".toList)
    solarOffset := number "solar_offset" 0
    mode := if repeater "cwid_mode" = some "on_call".toList then .onCall else .always
    tailMs := duration "cwid_tail" 0 }

-- A pending ID survives a reload; the conversation that the module was following does not.
def State.configure (c : State) (cfg : KerchunkConfig) : State :=
  let settings := cwidSettings c.cfg cfg
  { c with
    cfg := settings
    scheduled := if settings.mode = .always then some settings.intervalMs else none
    ocState := .idle
    ocTimer := none }

def CwidConfig.solarHours (c : CwidConfig) (sunrise sunset : Int) : CwidConfig :=
  -- What `fetch_solar_times` makes of the minutes of sunrise and sunset.
  let startMin := sunset + c.solarOffset
  let endMin := sunrise - c.solarOffset
  let endMin := if endMin < 0 then endMin + 1440 else endMin
  let startMin := if startMin ≥ 1440 then startMin - 1440 else startMin
  let endHour := (endMin + 59).tdiv 60
  { c with
    quietStart := startMin.tdiv 60
    quietEnd := if endHour ≥ 24 then endHour - 24 else endHour }

/-! ## Sending -/

def priLow : Int := 1

def cwidTag : List Char := "cwid".toList

def encode (rate : Nat) (cfg : CwidConfig) : Option (List Int) :=
  -- The buffer holds ten seconds. `none` when there is no callsign or no encoder for it.
  if cfg.callsign = [] then none
  else
    (plcode.create rate cfg.callsign cfg.freq cfg.wpm cfg.amp).map fun enc =>
      render plcode (rate * 10) enc (rate * 10)

def tagAdded (added : Option Nat × Queue.State) : Queue.State :=
  match added.1 with
  | some id => tagItem added.2 id cwidTag
  | none => added.2

def queueId (q : Queue.State) (samples : List Int) : Queue.State :=
  -- The audio thread plays the leading silence before it can reach the item that is tagged.
  let q := (addSilence q 200 priLow).2
  let q := tagAdded (addBuffer q samples priLow 0)
  (addSilence q 100 priLow).2

namespace Sys

variable (s : Sys)

def transmitting : Bool :=
  s.rpt.ptt.active

def busy : Bool :=
  s.cor || s.transmitting

def setPending (pending : Bool) : Sys :=
  { s with cwid := { s.cwid with pending := pending } }

def voiceGap : Queue.State :=
  -- The gap before the spoken ID; its audio comes later, from the TTS module.
  if s.cwid.cfg.voiceId ∧ s.rpt.hasTts ∧ s.cwid.cfg.frequency ≠ [] then
    (addSilence s.queue 500 priLow).2
  else s.queue

def sendCwid : Sys :=
  match encode plcode s.queue.rate s.cwid.cfg with
  | none => s
  | some samples =>
    let s : Sys := if samples = [] then s else { s with queue := queueId s.queue samples }
    let s : Sys := { s with queue := s.voiceGap }
    s.setPending false

def isQuietHour : Bool :=
  let c := s.cwid.cfg
  if c.quietStart < 0 ∨ c.quietEnd < 0 then false
  else if c.quietStart ≤ c.quietEnd then decide (c.quietStart ≤ s.hour ∧ s.hour < c.quietEnd)
  else decide (c.quietStart ≤ s.hour ∨ s.hour < c.quietEnd)

def sendPending : Sys :=
  -- `if (g_pending && !is_quiet_hour()) send_cwid();`
  if s.cwid.pending ∧ ¬s.isQuietHour then s.sendCwid plcode else s

def timerTick : Sys :=
  -- The body that `cwid_timer_cb` and `oc_active_tick` share.
  if s.isQuietHour then s
  else if s.busy then s.setPending true
  else s.sendCwid plcode

/-! ## On-call mode -/

def ocEnterActive (fromIdle : Bool) : Sys :=
  { s with
    cwid :=
      { s.cwid with
        ocState := .active
        pending := s.cwid.pending || fromIdle
        ocTimer := some (.activeTick s.cwid.cfg.intervalMs) } }

def ocEnterTail : Sys :=
  let c := s.cwid.cfg
  let ms := if c.tailMs > 0 then c.tailMs else c.intervalMs
  { s with cwid := { s.cwid with ocState := .tail, ocTimer := some (.tailExpire ms) } }

def ocTailExpire : Sys :=
  let s : Sys := { s with cwid := { s.cwid with ocTimer := none } }
  let s := if s.isQuietHour then s else s.sendCwid plcode
  { s with cwid := { s.cwid with ocState := .idle } }

/-! ## Event handlers -/

def onQueuePreempted (source : List Char) : Sys :=
  if source = cwidTag then s.setPending true else s

def onTailStart : Sys :=
  s.sendPending plcode

def onStateChange (newState : RptState) : Sys :=
  match s.cwid.cfg.mode with
  | .always => if newState = .idle then s.sendPending plcode else s
  | .onCall =>
    match s.cwid.ocState with
    | .idle => if newState ≠ .idle then s.ocEnterActive true else s
    | .active => if newState = .idle then (s.sendPending plcode).ocEnterTail else s
    | .tail => if newState ≠ .idle then s.ocEnterActive false else s

def hear : Output → Sys
  -- Events are handled as they are fired.
  | .rxStateChange _ newState => s.onStateChange plcode newState
  | .tailStart => s.onTailStart plcode
  | _ => s

def news (rpt : Repeater.State) (i : Repeater.Input) : List Output :=
  -- What the repeater does at an input, oldest first.
  (Repeater.step rpt i).out.drop rpt.out.length

def repeats (i : Repeater.Input) : Sys :=
  (news s.rpt i).foldl (fun s o => s.hear plcode o) { s with rpt := Repeater.step s.rpt i }

/-! ## The loop -/

def preemptQueue : Sys :=
  if s.queue.draining ∨ Queue.depth s.queue > 0 then
    let cut := Queue.preempt s.queue
    let s : Sys := { s with queue := cut.2.2 }
    if cut.2.1 > 0 then s.onQueuePreempted cut.1 else s
  else s

def txBegin : Sys :=
  Sys.repeats plcode { s.preemptQueue with cor := true } .corAssert

def simCor (active : Bool) : Sys :=
  -- `sim cor on` and `sim cor off`, which leave the queue alone.
  Sys.repeats plcode { s with cor := active } (if active then .corAssert else .corDrop)

def othersCall : Producer → Sys
  -- A module tags only items of its own, and only the loop preempts.
  | .tagItem id source =>
    if ∃ item ∈ s.queue.head, item.id = id ∧ item.source = cwidTag then s
    else { s with queue := tagItem s.queue id source }
  | .preempt => s
  | request => { s with queue := Queue.produce s.queue request }

end Sys

/-! ## Runs -/

/-- Timers may fire whenever they are pending, and key-ups come at any time: what the detector
lets through is not decided here. -/
inductive Input where
  | drain (maxN : Nat)
  | produce (request : Producer)
  | rpt (i : Repeater.Input)
  | txBegin
  | txEnd
  | simCor (active : Bool)
  | hourPasses (hour : Nat)
  | solarTimes (sunrise sunset : Int)
  | schedule
  | ocTimer
  | cwidNow
  | configure (cfg : KerchunkConfig)

def step (s : Sys) : Input → Sys
  | .drain maxN => { s with queue := (Queue.drain s.queue maxN).2 }
  | .produce request => s.othersCall request
  | .rpt i => s.repeats plcode i
  | .txBegin => s.txBegin plcode
  | .txEnd => s.simCor plcode false
  | .simCor active => s.simCor plcode active
  | .hourPasses hour => { s with hour := hour }
  | .solarTimes sunrise sunset =>
    if s.cwid.cfg.quietSolar then
      { s with cwid := { s.cwid with cfg := s.cwid.cfg.solarHours sunrise sunset } }
    else s
  | .schedule => if s.cwid.scheduled = none then s else s.timerTick plcode
  | .ocTimer =>
    match s.cwid.ocTimer with
    | some (.activeTick _) => s.timerTick plcode
    | some (.tailExpire _) => s.ocTailExpire plcode
    | none => s
  | .cwidNow => s.sendCwid plcode
  | .configure cfg =>
    let s := s.repeats plcode (.configure cfg)
    { s with cwid := s.cwid.configure cfg }

end Kerchunk.Cwid
