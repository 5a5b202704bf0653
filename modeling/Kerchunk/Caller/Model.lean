import Kerchunk.Core.Registry
import Kerchunk.Repeater.Model

set_option autoImplicit false

/-!
# Caller identification (`modules/mod_caller.c`) with the repeater

The two modules share the timer table and the event bus. What the module says
and publishes about a session is left out.
-/

namespace Kerchunk.Caller

open Kerchunk.Config (Text KerchunkConfig configGet configGetDurationMs bounded)
open Kerchunk.Core (Bus Slot maxDepth)
open Kerchunk.Repeater (Callback)

def maxAniLen : Nat := 8

/-- A loaded user; the ids count from 1. -/
structure User where
  id : Nat
  ani : Text
  dtmfLogin : Text
  numbered : 0 < id

inductive Method where
  | unknown
  | dtmfAni
  | dtmfLogin
deriving DecidableEq

/-- 0 stands for no user. -/
structure State where
  currentUserId : Nat
  currentMethod : Method
  aniActive : Bool
  aniBuf : Text
  aniTimer : Option Nat
  loginActive : Bool
  loginBuf : Text
  sessionUserId : Nat
  sessionTimer : Option Nat
deriving DecidableEq

def init : State where
  currentUserId := 0
  currentMethod := .unknown
  aniActive := false
  aniBuf := []
  aniTimer := none
  loginActive := false
  loginBuf := []
  sessionUserId := 0
  sessionTimer := none

inductive Evt where
  | corAssert
  | corDrop
  | dtmfDigit (digit : Char)
  | callerIdentified (userId : Nat) (method : Method)
  | callerCleared
deriving DecidableEq

/-- `monitor` notes what is fired. -/
inductive Module where
  | monitor
  | repeater
  | caller
deriving DecidableEq

/-- `identifiedSince` and `sessionAtAssert` are what the monitor notes: whether
CALLER_IDENTIFIED was fired since COR_ASSERT, and whether a session was active at COR_ASSERT. -/
structure System where
  rpt : Repeater.State
  caller : State
  identifiedSince : Bool
  sessionAtAssert : Bool

/-- The settings of the module, the users, and the order in which the two modules subscribed. -/
structure Station where
  aniWindowMs : Int
  loginTimeoutMs : Int
  logoutCode : Text
  users : List User
  corAssertOrder : List Module
  corDropOrder : List Module
  corAssertPerm : corAssertOrder.Perm [.repeater, .caller]
  corDropPerm : corDropOrder.Perm [.repeater, .caller]

namespace System

def setTimers (s : System) (timers : Core.TimerTable Callback) : System :=
  { s with rpt := { s.rpt with timers := timers } }

def cancelTimer (s : System) (timerId : Option Nat) : System :=
  -- `if (id >= 0) timer_cancel(id)`
  s.setTimers (s.rpt.timers.cancelIf timerId)

def startSession (s : System) (loginTimeoutMs : Int) : System :=
  let made := s.rpt.timers.create loginTimeoutMs false .sessionTimeout
  { s.setTimers made.2 with caller := { s.caller with sessionTimer := made.1 } }

def startAni (s : System) (aniWindowMs : Int) : System :=
  let made := s.rpt.timers.create aniWindowMs false .aniTimeout
  { s.setTimers made.2 with caller := { s.caller with aniTimer := made.1 } }

end System

section Handlers

variable (env : Station) (fire : Evt → System → System)

def lookupByAni (ani : Text) : Option User :=
  if ani = [] then none else env.users.find? fun u => u.ani ≠ [] ∧ u.ani = ani

def lookupByLogin (code : Text) : Option User :=
  env.users.find? fun u => u.dtmfLogin ≠ [] ∧ u.dtmfLogin = code

def fireIdentified (userId : Nat) (method : Method) (s : System) : System :=
  fire (.callerIdentified userId method)
    { s with caller := { s.caller with currentUserId := userId, currentMethod := method } }

def fireCleared (s : System) : System :=
  if s.caller.currentUserId = 0 then s
  else
    fire .callerCleared
      { s with caller := { s.caller with currentUserId := 0, currentMethod := .unknown } }

/-! ## Login sessions -/

def sessionTimeoutCb (s : System) : System :=
  let s := { s with caller := { s.caller with sessionTimer := none } }
  if 0 < s.caller.sessionUserId then
    let s := { s with caller := { s.caller with sessionUserId := 0 } }
    if 0 < s.caller.currentUserId ∧ s.caller.currentMethod = .dtmfLogin then fireCleared fire s
    else s
  else s

def sessionStart (userId : Nat) (s : System) : System :=
  let s := { s with caller := { s.caller with sessionUserId := userId } }
  (s.cancelTimer s.caller.sessionTimer).startSession env.loginTimeoutMs

def sessionRefresh (s : System) : System :=
  if s.caller.sessionUserId = 0 ∨ s.caller.sessionTimer = none then s
  else (s.cancelTimer s.caller.sessionTimer).startSession env.loginTimeoutMs

def sessionClear (s : System) : System :=
  let s := s.cancelTimer s.caller.sessionTimer
  { s with caller := { s.caller with sessionTimer := none, sessionUserId := 0 } }

def doLogout (s : System) : System :=
  if s.caller.sessionUserId = 0 then s
  else
    let s := sessionClear s
    if 0 < s.caller.currentUserId then fireCleared fire s else s

/-! ## ANI -/

def processAni (s : System) : System :=
  if s.caller.aniBuf = [] then s
  else
    match lookupByAni env s.caller.aniBuf with
    | some u => fireIdentified fire u.id .dtmfAni s
    | none => s

def aniTimeout (s : System) : System :=
  processAni env fire { s with caller := { s.caller with aniTimer := none, aniActive := false } }

/-! ## Event handlers -/

def armAni (s : System) : System :=
  -- Digits already captured stay.
  if s.caller.aniActive then s
  else { s with caller := { s.caller with aniActive := true, aniBuf := [] } }

def onCorAssert (s : System) : System :=
  -- If there's an active login session, re-identify on key-up.
  let s := armAni s
  if 0 < s.caller.sessionUserId then
    let s := sessionRefresh env s
    if s.caller.currentUserId ≠ s.caller.sessionUserId then
      fireIdentified fire s.caller.sessionUserId .dtmfLogin s
    else s
  else s

def cancelAni (s : System) : System :=
  let s := s.cancelTimer s.caller.aniTimer
  { s with caller := { s.caller with aniTimer := none, aniActive := false } }

def onCorDrop (s : System) : System :=
  let s := cancelAni s
  if s.caller.currentMethod = .dtmfLogin then
    fire .callerCleared
      { s with caller := { s.caller with currentUserId := 0, currentMethod := .unknown } }
  else fireCleared fire s

def captureAni (d : Char) (s : System) : System :=
  -- A digit of the ANI window, other than `*`.
  let s := if s.caller.aniBuf = [] ∧ s.caller.aniTimer = none then s.startAni env.aniWindowMs else s
  { s with caller := { s.caller with aniBuf := s.caller.aniBuf ++ [d] } }

def login (s : System) : System :=
  -- The code is complete.
  let code := s.caller.loginBuf
  let s := { s with caller := { s.caller with loginActive := false } }
  if 0 < s.caller.sessionUserId then
    if env.logoutCode ≠ [] ∧ code = env.logoutCode then doLogout fire s else s
  else
    match lookupByLogin env code with
    | some u => sessionStart env u.id (fireIdentified fire u.id .dtmfLogin s)
    | none => s

def loginDigit (d : Char) (s : System) : System :=
  if d = '*' then { s with caller := { s.caller with loginActive := true, loginBuf := [] } }
  else if s.caller.loginActive then
    if d = '#' then login env fire s
    else if s.caller.loginBuf.length < maxAniLen then
      { s with caller := { s.caller with loginBuf := s.caller.loginBuf ++ [d] } }
    else { s with caller := { s.caller with loginActive := false } }
  else s

def takesAni (c : State) (d : Char) : Bool :=
  -- The ANI window takes the digit.
  c.aniActive && c.aniBuf.length < maxAniLen && d ≠ '*'

def onDtmfDigit (d : Char) (s : System) : System :=
  if s.caller.aniActive ∧ s.caller.aniBuf.length < maxAniLen then
    -- A star starts a login sequence and closes the window.
    if d = '*' then loginDigit env fire d (processAni env fire (cancelAni s))
    else captureAni env d s
  else loginDigit env fire d s

end Handlers

/-! ## The bus -/

def monitor (evt : Evt) (s : System) : System :=
  match evt with
  | .corAssert =>
    { s with identifiedSince := false, sessionAtAssert := 0 < s.caller.sessionUserId }
  | .callerIdentified .. => { s with identifiedSince := true }
  | _ => s

-- Both modules stay loaded.
def onRepeater (s : System) (handler : Repeater.State → Repeater.State) : System :=
  { s with rpt := handler s.rpt }

def repeaterHandle (evt : Evt) (s : System) : System :=
  match evt with
  | .corAssert => onRepeater s Repeater.State.onCorAssert
  | .corDrop => onRepeater s Repeater.State.onCorDrop
  | .callerIdentified .. => onRepeater s Repeater.State.onCallerIdentified
  | .callerCleared => onRepeater s Repeater.State.onCallerCleared
  | .dtmfDigit _ => s

def callerHandle (env : Station) (fire : Evt → System → System) (evt : Evt) (s : System) : System :=
  match evt with
  | .corAssert => onCorAssert env fire s
  | .corDrop => onCorDrop fire s
  | .dtmfDigit d => onDtmfDigit env fire d s
  | .callerIdentified .. | .callerCleared => s

def bus (env : Station) : Bus System Evt Module where
  subscribers
    | .corAssert => .monitor :: env.corAssertOrder
    | .corDrop => env.corDropOrder
    | .dtmfDigit _ => [.caller]
    | .callerIdentified .. => [.monitor, .repeater]
    | .callerCleared => [.repeater]
  handle
    | .monitor, _, evt, s => monitor evt s
    | .repeater, _, evt, s => repeaterHandle evt s
    | .caller, fire, evt, s => callerHandle env fire evt s

/-! ## Runs -/

inductive Input where
  | elapse (us : Nat)
  | beginTick
  | visit (slot : Slot)
  | corAssert
  | corDrop
  | dtmfDigit (digit : Char)
  | logoutCommand
  | setEmergency (active : Bool)
  | otherTimer (ms : Int) (repeats : Bool)
  | otherCancel (timerId : Nat)
deriving DecidableEq

def visit (env : Station) (s : System) (slot : Slot) : System :=
  let passed := s.setTimers (s.rpt.timers.visit slot)
  match (s.rpt.timers.due slot).map Core.TimerEntry.callback with
  | some .sessionTimeout => sessionTimeoutCb ((bus env).fire maxDepth) passed
  | some .aniTimeout => aniTimeout env ((bus env).fire maxDepth) passed
  | _ => { s with rpt := Repeater.visit s.rpt slot }

def step (env : Station) (s : System) : Input → System
  | .visit slot => visit env s slot
  | .corAssert => (bus env).fire maxDepth .corAssert s
  | .corDrop => (bus env).fire maxDepth .corDrop s
  | .dtmfDigit d => (bus env).fire maxDepth (.dtmfDigit d) s
  | .logoutCommand => doLogout ((bus env).fire maxDepth) s
  | .elapse us => { s with rpt := Repeater.step s.rpt (.elapse us) }
  | .beginTick => { s with rpt := Repeater.step s.rpt .beginTick }
  | .setEmergency active => { s with rpt := Repeater.step s.rpt (.setEmergency active) }
  | .otherTimer ms repeats => { s with rpt := Repeater.step s.rpt (.otherTimer ms repeats) }
  | .otherCancel timerId =>
    -- Neither of the two modules started the timer.
    s.setTimers (s.rpt.timers.drop fun e => e.id = timerId ∧ e.callback = .other)

def start (file : KerchunkConfig) (hasTts : Bool) : System where
  -- Both modules have read the file.
  rpt := { Repeater.load hasTts with cfg := Repeater.repeaterConfigure file }
  caller := init
  identifiedSince := false
  sessionAtAssert := false

def callerConfigure (file : KerchunkConfig) (users : List User) (corAssertOrder corDropOrder : List Module)
    (corAssertPerm : corAssertOrder.Perm [.repeater, .caller])
    (corDropPerm : corDropOrder.Perm [.repeater, .caller]) : Station where
  -- `caller_configure`
  aniWindowMs := configGetDurationMs file "caller".toList "ani_window".toList 1000
  loginTimeoutMs := configGetDurationMs file "caller".toList "login_timeout".toList 1800000
  logoutCode :=
    bounded (maxAniLen + 1) ((configGet file "caller".toList "logout_code".toList).getD [])
  users := users
  corAssertOrder := corAssertOrder
  corDropOrder := corDropOrder
  corAssertPerm := corAssertPerm
  corDropPerm := corDropPerm

end Kerchunk.Caller
