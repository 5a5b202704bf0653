import Kerchunk.Cwid.Model
import Kerchunk.Shell.Idle

set_option autoImplicit false

/-!
# The voice scrambler (`modules/mod_scrambler.c`)

The module beside the queue, the CW identification that it steps aside for, and the audio thread,
which asks it for every frame that it relays or drains (`main.c`).
-/

namespace Kerchunk.Scrambler

open AudioTick (Call)
open Config (KerchunkConfig Text atoiText configGet)
open Cwid (CwidConfig Plcode configGetInt cwidTag encode int16 priLow)
open Queue (Producer addBuffer addSilence tagItem)

/-! ## Signal processing -/

/-- What the module computes in floating point: the oscillator's sine, and the coefficients of the
filters and the oscillator's increment for a sample rate and a carrier. -/
structure Tables where
  sine : UInt32 → Int
  coefficients : Nat → Int → List Int
  increment : Nat → Int → UInt32

def firOrder : Nat := 31

structure ScramblerState where
  ncoPhase : UInt32
  ncoInc : UInt32
  delayIn : List Int
  delayOut : List Int
  posIn : Nat
  posOut : Nat
  dcPrevX : Int
  dcPrevY : Int
deriving DecidableEq

def cleared (ncoInc : UInt32) : ScramblerState where
  ncoPhase := 0
  ncoInc := ncoInc
  delayIn := List.replicate firOrder 0
  delayOut := List.replicate firOrder 0
  posIn := 0
  posOut := 0
  dcPrevX := 0
  dcPrevY := 0

def clamp16 (x : Int) : Int :=
  max (-32768) (min x 32767)

/-- The output of a filter, its delay line and the next position in it. -/
def firProcess (coeff delay : List Int) (pos : Nat) (input : Int) : Int × List Int × Nat :=
  let delay := delay.set pos input
  let tap (i : Nat) := delay.getD ((pos + firOrder - i) % firOrder) 0 * coeff.getD i 0
  (int16 (((List.range firOrder).map tap).sum / 2 ^ 15), delay, (pos + 1) % firOrder)

section Process

variable (tables : Tables) (coeff : List Int)

def scramblerSample (st : ScramblerState) (input : Int) : Int × ScramblerState :=
  let filtered := firProcess coeff st.delayIn st.posIn input
  let mixed := filtered.1 * tables.sine st.ncoPhase / 2 ^ 15
  let out := firProcess coeff st.delayOut st.posOut (int16 mixed)
  let dc := out.1 - st.dcPrevX + st.dcPrevY * 32604 / 2 ^ 15
  (clamp16 (dc * 2),
    { st with
      ncoPhase := st.ncoPhase + st.ncoInc
      delayIn := filtered.2.1
      delayOut := out.2.1
      posIn := filtered.2.2
      posOut := out.2.2
      dcPrevX := out.1
      dcPrevY := dc })

def scramblerProcess (st : ScramblerState) : List Int → List Int × ScramblerState
  | [] => ([], st)
  | input :: rest =>
    let first := scramblerSample tables coeff st input
    let later := scramblerProcess first.2 rest
    (first.1 :: later.1, later.2)

end Process

/-! ## The state -/

structure Module where
  enabled : Bool
  code : Int
  carrierHz : Int
  cwidBypass : Bool
  firCoeff : List Int
  rxState : ScramblerState
  txState : ScramblerState
deriving DecidableEq

def initial : Module where
  enabled := false
  code := 4
  carrierHz := 3000
  cwidBypass := false
  firCoeff := List.replicate firOrder 0
  rxState := cleared 0
  txState := cleared 0

/-- What a frame holds: received audio, audio of an ID, audio of another item, or the gap between
two items. -/
inductive Origin where
  | relayed
  | ident
  | item
  | gap
deriving DecidableEq

/-- A frame as it was given to the module and as it went to playback. It is `owed` the scrambler
while the module is enabled and there is no emergency. -/
structure Sent where
  origin : Origin
  samples : List Int
  onAir : List Int
  owed : Bool
  scrambled : Bool
deriving DecidableEq

inductive Entry where
  | announced (source : Text)
  | completed
  | sent (frame : Sent)
deriving DecidableEq

/-- What is left to do of a call of `send_cwid`. -/
inductive Part where
  | silence (ms : Int)
  | ident (samples : List Int)
  | tag
  | announce
deriving DecidableEq

/-- `hooks` are the core's two callbacks, `added` and `ids` the numbers of the last ID and of all of
them, and `hand` the frame that the audio thread is about to play. -/
structure Sys where
  shell : Shell.System
  scrambler : Module
  hooks : Bool
  emergency : Bool
  sending : List Part
  added : Option Nat
  ids : List Nat
  hand : Option (Origin × List Int)
  log : List Entry

def start (rate : Nat) : Sys where
  shell := Shell.start rate
  scrambler := initial
  hooks := false
  emergency := false
  sending := []
  added := none
  ids := []
  hand := none
  log := []

/-- A captured frame, with what the RX sub-tick reads beside it. -/
structure RxFrame where
  samples : List Int
  softwareRelay : Bool
  pttHeld : Bool
  relayActive : Bool
  relayDrain : Int
  playWritable : Nat

def sendParts (plcode : Plcode) (rate : Nat) (cfg : CwidConfig) (hasTts : Bool) : List Part :=
  match encode plcode rate cfg with
  | none => []
  | some samples =>
    (if samples = [] then [] else [.silence 200, .ident samples, .tag, .silence 100]) ++
      (if cfg.voiceId ∧ hasTts ∧ cfg.frequency ≠ [] then [.silence 500] else []) ++ [.announce]

variable (tables : Tables)

namespace Sys

variable (s : Sys)

def rate : Nat :=
  s.shell.queue.rate

def withQueue (queue : Queue.State) : Sys :=
  { s with shell := { s.shell with queue := queue } }

/-! ## The callbacks and the hooks -/

def rxScramblerCb (buf : List Int) : List Int × ScramblerState :=
  if s.emergency then (buf, s.scrambler.rxState)
  else scramblerProcess tables s.scrambler.firCoeff s.scrambler.rxState buf

def txScramblerCb (buf : List Int) : List Int × ScramblerState :=
  if s.emergency || s.scrambler.cwidBypass then (buf, s.scrambler.txState)
  else scramblerProcess tables s.scrambler.firCoeff s.scrambler.txState buf

def installHooks : Sys :=
  let fresh := cleared (tables.increment s.rate s.scrambler.carrierHz)
  { s with hooks := true, scrambler := { s.scrambler with rxState := fresh, txState := fresh } }

def removeHooks : Sys :=
  { s with hooks := false }

def setCarrier (carrierHz : Int) : Sys :=
  { s with
    scrambler :=
      { s.scrambler with
        carrierHz := carrierHz, firCoeff := tables.coefficients s.rate carrierHz } }

def applyCode (code : Int) : Sys :=
  let code := min (max code 1) 8
  Sys.setCarrier tables { s with scrambler := { s.scrambler with code := code } }
    (2600 + code * 100)

def setEnabled (enabled : Bool) : Sys :=
  let s : Sys := { s with scrambler := { s.scrambler with enabled := enabled } }
  if enabled then s.installHooks tables else s.removeHooks

/-! ## Events -/

def onAnnouncement (source : Text) : Sys :=
  if source = cwidTag then { s with scrambler := { s.scrambler with cwidBypass := true } } else s

def onQueueComplete : Sys :=
  { s with scrambler := { s.scrambler with cwidBypass := false } }

def announce (source : Text) : Sys :=
  Sys.onAnnouncement { s with log := s.log ++ [.announced source] } source

def commandArg (data : Option Text) : Int :=
  -- The trailing digits; -1 when there are none.
  match data with
  | some text => if text = [] then -1 else atoiText (text.take 7)
  | none => -1

def onScramblerCmd (data : Option Text) : Sys :=
  let arg := commandArg data
  let after :=
    if arg = 0 then s.setEnabled tables false
    else if 1 ≤ arg ∧ arg ≤ 8 then (s.applyCode tables arg).setEnabled tables true
    else s.setEnabled tables (!s.scrambler.enabled)
  after.announce "scrambler".toList

def configure (cfg : KerchunkConfig) : Sys :=
  let enabled := decide (configGet cfg "scrambler".toList "enabled".toList = some "on".toList)
  let coded := s.applyCode tables (configGetInt cfg "scrambler".toList "code".toList 4)
  let freq := configGetInt cfg "scrambler".toList "frequency".toList 0
  let tuned := if 2700 ≤ freq ∧ freq ≤ 3400 then coded.setCarrier tables freq else coded
  tuned.setEnabled tables enabled

def cliScrambler : List Text → Sys
  | _ :: word :: rest =>
    if word = "on".toList then s.setEnabled tables true
    else if word = "off".toList then s.setEnabled tables false
    else
      match rest with
      | number :: _ =>
        if word = "code".toList ∧ 1 ≤ atoiText number ∧ atoiText number ≤ 8 then
          let coded := s.applyCode tables (atoiText number)
          if coded.scrambler.enabled then coded.installHooks tables else coded
        else s
      | [] => s
  | _ => s

/-! ## Identification -/

def sendNext : Sys :=
  match s.sending with
  | [] => s
  | .silence ms :: rest =>
    { s.withQueue (addSilence s.shell.queue ms priLow).2 with sending := rest }
  | .ident samples :: rest =>
    let queued := addBuffer s.shell.queue samples priLow 0
    { s.withQueue queued.2 with
      sending := rest, added := queued.1, ids := s.ids ++ queued.1.toList }
  | .tag :: rest =>
    let tagged :=
      match s.added with
      | some id => tagItem s.shell.queue id cwidTag
      | none => s.shell.queue
    { s.withQueue tagged with sending := rest }
  | .announce :: rest => Sys.announce { s with sending := rest } cwidTag

/-! ## The audio thread -/

def relays (rx : RxFrame) : Bool :=
  rx.softwareRelay && rx.pttHeld && !s.shell.audio.queuePtt &&
    (rx.relayActive || decide (rx.relayDrain > 0)) &&
    !rx.samples.isEmpty && decide (rx.samples.length ≤ rx.playWritable)

def capture (rx : RxFrame) : Sys :=
  let received :=
    if s.hooks then s.rxScramblerCb tables rx.samples else (rx.samples, s.scrambler.rxState)
  { s with
    scrambler := { s.scrambler with rxState := received.2 }
    hand := if s.relays rx then some (.relayed, received.1) else none }

def drained (samples : Int) : Option (Origin × List Int) :=
  -- The frame that a drain has returned, which comes from one item at most.
  let out := Queue.drain s.shell.queue samples.toNat
  let origin : Origin :=
    if s.shell.queue.gapRemaining > 0 then .gap
    else if out.2.drainItemId ∈ s.ids then .ident else .item
  if out.1 = [] then none else some (origin, out.1)

def act : Sys :=
  let acted : Sys := { s with shell := Shell.step s.shell .act }
  match s.shell.pc with
  | .acting _ (.drain samples :: _) _ => { acted with hand := s.drained samples }
  | pc =>
    if pc.completes then Sys.onQueueComplete { acted with log := s.log ++ [.completed] } else acted

def transmitted (samples : List Int) : List Int × ScramblerState :=
  if s.hooks then s.txScramblerCb tables samples else (samples, s.scrambler.txState)

def frame (origin : Origin) (samples : List Int) : Sent where
  origin := origin
  samples := samples
  onAir := (s.transmitted tables samples).1
  owed := s.scrambler.enabled && !s.emergency
  scrambled := s.hooks && !(s.emergency || s.scrambler.cwidBypass)

def write : Sys :=
  match s.hand with
  | none => s
  | some (origin, samples) =>
    { s with
      scrambler := { s.scrambler with txState := (s.transmitted tables samples).2 }
      hand := none
      log := s.log ++ [.sent (s.frame tables origin samples)] }

end Sys

/-! ## Runs -/

inductive Input where
  | configure (cfg : KerchunkConfig)
  | command (data : Option Text)
  | cli (argv : List Text)
  | emergency (active : Bool)
  | announcement (source : Text)
  | sendCwid (cfg : CwidConfig) (hasTts : Bool)
  | sendNext
  | produce (request : Producer)
  | capture (rx : RxFrame)
  | readDepth
  | tick (c : Call)
  | act
  | write

variable (plcode : Plcode)

def step (s : Sys) : Input → Sys
  | .configure cfg => s.configure tables cfg
  | .command data => s.onScramblerCmd tables data
  | .cli argv => s.cliScrambler tables argv
  | .emergency active => { s with emergency := active }
  | .announcement source => s.announce source
  | .sendCwid cfg hasTts =>
    -- The main thread runs one call at a time.
    if s.sending = [] then { s with sending := sendParts plcode s.rate cfg hasTts } else s
  | .sendNext => s.sendNext
  | .produce request => s.withQueue (Queue.produce s.shell.queue request)
  | .capture rx =>
    -- Frames are captured before the TX passes.
    if s.hand = none ∧ s.shell.pc = .sampling 0 then s.capture tables rx else s
  | .readDepth =>
    if s.hand = none then { s with shell := Shell.step s.shell .readDepth } else s
  | .tick c => if s.hand = none then { s with shell := Shell.step s.shell (.tick c) } else s
  | .act => if s.hand = none then s.act else s
  | .write => s.write tables

end Kerchunk.Scrambler
