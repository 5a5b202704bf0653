import Kerchunk.Config.Duration
import Kerchunk.Core.Ptt
import Kerchunk.Core.Timer

set_option autoImplicit false

/-!
# The repeater state machine (`modules/mod_repeater.c`)

A handler is one step. No subscriber of an event that the repeater fires calls
it back, so these events only go to the log of what the module has done.
-/

namespace Kerchunk.Repeater

open Kerchunk.Core (Ptt PttCall Slot TimerTable)
open Kerchunk.Config (KerchunkConfig configGet configGetDurationMs)

inductive RptState where
  | idle
  | receiving
  | tailWait
  | hangWait
  | rxTimeout
  | bridging
deriving DecidableEq

/-- `other` stands for the timer callbacks of all further modules. -/
inductive Callback where
  | tailExpired
  | totExpired
  | debounceExpired
  | sessionTimeout
  | aniTimeout
  | other
deriving DecidableEq

def Callback.ofRepeater : Callback → Bool
  | .tailExpired | .totExpired | .debounceExpired => true
  | .sessionTimeout | .aniTimeout | .other => false

inductive Output where
  | rxStateChange (oldState newState : RptState)
  | tailStart
  | tailExpire
  | rxTimeout
  | ptt (c : PttCall)
  | queueTone (freqHz durationMs amplitude priority : Int)
  | ttsSpeak (text : String) (priority : Int)
deriving DecidableEq

structure RptConfig where
  tailTimeMs : Int
  hangTimeMs : Int
  totTimeMs : Int
  corDebounceMs : Int
  requireId : Bool
  softwareRelay : Bool
deriving DecidableEq

def defaultConfig : RptConfig where
  tailTimeMs := 2000
  hangTimeMs := 500
  totTimeMs := 180000
  corDebounceMs := 150
  requireId := false
  softwareRelay := false

def totWarnHz : Int := 440
def priHigh : Int := 4
def priCritical : Int := 10

/-- `enteredInEmergency` records whether emergency mode was on when the module last entered
RECEIVING, and `out` what the module has done. -/
structure State where
  timers : TimerTable Callback
  ptt : Ptt
  emergency : Bool
  hasTts : Bool
  cfg : RptConfig
  loaded : Bool
  state : RptState
  tailTimer : Option Nat
  hangTimer : Option Nat
  totTimer : Option Nat
  debounceTimer : Option Nat
  callerIdentified : Bool
  enteredInEmergency : Bool
  out : List Output

def load (hasTts : Bool) : State where
  -- `repeater_load`
  timers := TimerTable.init
  ptt := Ptt.init
  emergency := false
  hasTts := hasTts
  cfg := defaultConfig
  loaded := true
  state := .idle
  tailTimer := none
  hangTimer := none
  totTimer := none
  debounceTimer := none
  callerIdentified := false
  enteredInEmergency := false
  out := []

namespace State

variable (s : State)

def emit (o : Output) : State :=
  { s with out := s.out ++ [o] }

def changeState (newState : RptState) : State :=
  if newState = s.state then s
  else
    { s.emit (.rxStateChange s.state newState) with
      state := newState
      enteredInEmergency :=
        if newState = .receiving then s.emergency else s.enteredInEmergency }

def requestPtt : State :=
  { s.emit (.ptt (.request "repeater")) with ptt := s.ptt.coreRequestPtt }

def releasePtt : State :=
  { s.emit (.ptt (.release "repeater")) with ptt := s.ptt.coreReleasePtt }

def requestRelay : State :=
  -- `if (g_software_relay) request_ptt("repeater")`
  if s.cfg.softwareRelay then s.requestPtt else s

def releaseRelay : State :=
  -- `if (g_software_relay) release_ptt("repeater")`
  if s.cfg.softwareRelay then s.releasePtt else s

def startTail : State :=
  let made := s.timers.create s.cfg.tailTimeMs false .tailExpired
  { s with tailTimer := made.1, timers := made.2 }

-- The hang timer runs with the tail timer's callback.
def startHang : State :=
  let made := s.timers.create s.cfg.hangTimeMs false .tailExpired
  { s with hangTimer := made.1, timers := made.2 }

def startTot : State :=
  let made := s.timers.create s.cfg.totTimeMs false .totExpired
  { s with totTimer := made.1, timers := made.2 }

def startDebounce (debounce : Int) : State :=
  let made := s.timers.create debounce false .debounceExpired
  { s with debounceTimer := made.1, timers := made.2 }

def cancelTimer (timerId : Option Nat) : State :=
  { s with timers := s.timers.cancelIf timerId }

/-! ## Timer callbacks -/

def tailExpired : State :=
  let s : State := { s with tailTimer := none }
  match s.state with
  | .tailWait => ((s.emit .tailExpire).changeState .hangWait).startHang
  | .hangWait =>
    let s : State := { s with hangTimer := none }
    s.releaseRelay.changeState .idle
  | _ => s

def startReceiving : State :=
  let s := s.requestRelay.changeState .receiving
  if s.emergency then s else s.startTot

def denyAccess : State :=
  if s.hasTts then s.emit (.ttsSpeak "Access denied." priHigh)
  else s.emit (.queueTone 400 500 4000 priHigh)

def debounceExpired : State :=
  let s : State := { s with debounceTimer := none }
  if s.state ≠ .idle then s
  else if s.cfg.requireId ∧ ¬s.callerIdentified then s.denyAccess
  else s.startReceiving

def totExpired : State :=
  let s : State := { s with totTimer := none }
  if s.emergency then s
  else
    let s := s.emit (.queueTone totWarnHz 1000 8000 priCritical)
    (s.emit .rxTimeout).changeState .rxTimeout

/-! ## Event handlers -/

def debounceMs (cfg : RptConfig) : Int :=
  -- The debounce of a key-up, 0 for none.
  if cfg.requireId = true ∧ cfg.corDebounceMs < 500 then 500 else cfg.corDebounceMs

def onCorAssert : State :=
  match s.state with
  | .idle =>
    let s : State := { s with callerIdentified := false }
    if 0 < s.cfg.corDebounceMs ∨ s.cfg.requireId = true then
      (s.cancelTimer s.debounceTimer).startDebounce (debounceMs s.cfg)
    else s.startReceiving
  | .tailWait => { s.cancelTimer s.tailTimer with tailTimer := none }.changeState .receiving
  | .hangWait =>
    let s : State := { s.cancelTimer s.hangTimer with hangTimer := none }.changeState .receiving
    (s.cancelTimer s.totTimer).startTot
  | .receiving | .rxTimeout | .bridging => s

def onCorDrop : State :=
  match s.debounceTimer with
  | some n => { s.cancelTimer (some n) with debounceTimer := none }
  | none =>
    match s.state with
    | .receiving =>
      let s := { s.cancelTimer s.totTimer with totTimer := none }
      (s.changeState .tailWait).startTail.emit .tailStart
    | .rxTimeout => s.releaseRelay.changeState .idle
    | _ => s

def onLinkRxAssert : State :=
  if s.state = .idle then s.changeState .bridging else s

def onLinkRxDrop : State :=
  if s.state = .bridging then s.changeState .idle else s

def onCallerIdentified : State :=
  { s with callerIdentified := true }

-- Not cleared during an active session, only on a new COR cycle.
def onCallerCleared : State :=
  if s.state = .idle then { s with callerIdentified := false } else s

end State

/-! ## Module lifecycle -/

def clamp (low high value : Int) : Int :=
  if value < low then low else if value > high then high else value

def isOn (value : Option Config.Text) : Bool :=
  value = some "on".toList

def repeaterConfigure (cfg : KerchunkConfig) : RptConfig :=
  let duration (key : String) := configGetDurationMs cfg "repeater".toList key.toList
  let value (key : String) := configGet cfg "repeater".toList key.toList
  { tailTimeMs := clamp 0 30000 (duration "tail_time" 2000)
    hangTimeMs := clamp 0 10000 (duration "hang_time" 500)
    totTimeMs := clamp 10000 600000 (duration "timeout_time" 180000)
    corDebounceMs := clamp 0 5000 (duration "cor_debounce" 150)
    requireId := isOn (value "require_identification")
    softwareRelay := isOn (value "software_relay") }

def State.repeaterUnload (s : State) : State :=
  let s : State := { s with loaded := false }
  let s := (s.cancelTimer s.tailTimer).cancelTimer s.hangTimer
  let s := (s.cancelTimer s.totTimer).cancelTimer s.debounceTimer
  if s.state = .receiving ∨ s.state = .tailWait ∨ s.state = .hangWait then s.releaseRelay
  else s

/-! ## Runs -/

/-- `visit` is one round of the timer scan, with the callback that is due. `otherTimer`,
`otherCancel` and `otherPtt` are what further modules do with what they share with this one. -/
inductive Input where
  | elapse (us : Nat)
  | beginTick
  | visit (slot : Slot)
  | corAssert
  | corDrop
  | linkRxAssert
  | linkRxDrop
  | callerIdentified
  | callerCleared
  | setEmergency (active : Bool)
  | configure (cfg : KerchunkConfig)
  | unload
  | otherTimer (ms : Int) (repeats : Bool)
  | otherCancel (timerId : Nat)
  | otherPtt (c : PttCall)

def runCallback (s : State) : Callback → State
  | .tailExpired => s.tailExpired
  | .totExpired => s.totExpired
  | .debounceExpired => s.debounceExpired
  | .sessionTimeout | .aniTimeout | .other => s

def visit (s : State) (slot : Slot) : State :=
  let passed := { s with timers := s.timers.visit slot }
  match s.timers.due slot with
  | some e => runCallback passed e.callback
  | none => passed

def otherCancel (s : State) (timerId : Nat) : State :=
  -- A module cancels only timers that it has started.
  { s with timers := s.timers.drop fun e => e.id = timerId ∧ ¬e.callback.ofRepeater }

def whenLoaded (s : State) (handler : State → State) : State :=
  -- The handlers are subscribed while the module is loaded.
  if s.loaded then handler s else s

def step (s : State) : Input → State
  | .elapse us => { s with timers := s.timers.elapse us }
  | .beginTick => { s with timers := s.timers.beginTick }
  | .visit slot => visit s slot
  | .corAssert => whenLoaded s State.onCorAssert
  | .corDrop => whenLoaded s State.onCorDrop
  | .linkRxAssert => whenLoaded s State.onLinkRxAssert
  | .linkRxDrop => whenLoaded s State.onLinkRxDrop
  | .callerIdentified => whenLoaded s State.onCallerIdentified
  | .callerCleared => whenLoaded s State.onCallerCleared
  | .setEmergency active => { s with emergency := active }
  | .configure cfg => whenLoaded s fun s => { s with cfg := repeaterConfigure cfg }
  | .unload => whenLoaded s State.repeaterUnload
  | .otherTimer ms repeats => { s with timers := (s.timers.create ms repeats .other).2 }
  | .otherCancel timerId => otherCancel s timerId
  | .otherPtt c => { s with ptt := s.ptt.call c }

def timerTick : List Input :=
  -- `kerchunk_timer_tick`, when no callback of another module acts in between.
  .beginTick :: (List.finRange Core.maxTimers).map .visit

end Kerchunk.Repeater
