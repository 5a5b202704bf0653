import Kerchunk.Core.Timer
import Kerchunk.Lib.Tables
import Kerchunk.Otp.Totp

set_option autoImplicit false

/-!
# Elevated sessions (`modules/mod_otp.c`) and the core's record of them

What the module logs and publishes is left out. The users, and whatever else sets timers, change
at any time.
-/

namespace Kerchunk.Otp

open Kerchunk.Core (Slot TimerTable)

def otpMaxFailures : Nat := 5
def otpLockoutS : Int := 300
def maxOtpSessions : Nat := 64
def maxOtpElevated : Nat := 64
def protectedUsers : Nat := 32

structure Lockout where
  failures : Nat
  lastFailure : Int
deriving DecidableEq

abbrev SessionSlot := Fin maxOtpSessions

structure Session where
  userId : Int
  active : Bool
  timerId : Option Nat
deriving DecidableEq

inductive Callback where
  | sessionExpire (slot : SessionSlot)
  | foreign
deriving DecidableEq

/-- `users` is what `user_lookup_by_id` finds: the secret of a user, the empty text for none. -/
structure State where
  sessionTimeoutMs : Int
  timeSkew : Int
  currentCallerId : Int
  lockout : DemandTable Int Lockout protectedUsers
  lastCounter : DemandTable Int Nat protectedUsers
  sessions : SessionSlot → Session
  elevated : DemandTable Int Bool maxOtpElevated
  timers : TimerTable Callback
  users : Int → Option String

def noSession : Session where
  userId := 0
  active := false
  timerId := none

def init (sessionTimeoutMs timeSkew : Int) (users : Int → Option String) : State where
  -- After `otp_load`, with nobody elevated.
  sessionTimeoutMs := sessionTimeoutMs
  timeSkew := timeSkew
  currentCallerId := 0
  lockout := DemandTable.empty
  lastCounter := DemandTable.empty
  sessions := fun _ => noSession
  elevated := DemandTable.empty
  timers := TimerTable.init
  users := users

/-! ## The core's table (`src/kerchunk_core.c`) -/

def coreSetOtpElevated (t : DemandTable Int Bool maxOtpElevated) (userId : Int) (elevated : Bool) :
    DemandTable Int Bool maxOtpElevated :=
  if userId ≤ 0 then t
  -- No slot is needed for clearing.
  else if t.find userId = none ∧ elevated = false then t
  else t.store userId false fun _ => elevated

def coreGetOtpElevated (t : DemandTable Int Bool maxOtpElevated) (userId : Int) : Bool :=
  if userId ≤ 0 then false else (t.find userId).getD false

/-! ## Sessions -/

def findSession (s : State) (userId : Int) : Option SessionSlot :=
  (List.finRange maxOtpSessions).find? fun i =>
    (s.sessions i).active = true ∧ (s.sessions i).userId = userId

def freeSession (s : State) : Option SessionSlot :=
  (List.finRange maxOtpSessions).find? fun i => (s.sessions i).active = false

def beginSession (s : State) (i : SessionSlot) (userId : Int) : State :=
  -- `session_start` from where it has its slot.
  let made := s.timers.create s.sessionTimeoutMs false (.sessionExpire i)
  { s with
    timers := made.2
    sessions :=
      Function.update s.sessions i { userId := userId, active := true, timerId := made.1 }
    elevated := coreSetOtpElevated s.elevated userId true }

def sessionStart (s : State) (userId : Int) : State :=
  match findSession s userId with
  | some i => beginSession { s with timers := s.timers.cancelIf (s.sessions i).timerId } i userId
  | none =>
    match freeSession s with
    | some i => beginSession s i userId
    | none => s

@[simp] theorem sessionStart_lockout (s : State) (userId : Int) :
    (sessionStart s userId).lockout = s.lockout := by
  grind [sessionStart, beginSession]

@[simp] theorem sessionStart_lastCounter (s : State) (userId : Int) :
    (sessionStart s userId).lastCounter = s.lastCounter := by
  grind [sessionStart, beginSession]

@[simp] theorem sessionStart_users (s : State) (userId : Int) :
    (sessionStart s userId).users = s.users := by
  grind [sessionStart, beginSession]

@[simp] theorem sessionStart_timeSkew (s : State) (userId : Int) :
    (sessionStart s userId).timeSkew = s.timeSkew := by
  grind [sessionStart, beginSession]

def sessionExpireCb (s : State) (i : SessionSlot) : State :=
  if (s.sessions i).active then
    { s with
      elevated := coreSetOtpElevated s.elevated (s.sessions i).userId false
      sessions :=
        Function.update s.sessions i { s.sessions i with active := false, timerId := none } }
  else s

/-! ## Authentication -/

/-- The event of `*68`, and what `time` answers at the lockout check, in `totp_verify` and where a
failure is recorded. -/
structure Command where
  data : Option (List Char)
  checkedAt : Int
  verifiedAt : Int
  failedAt : Int
deriving DecidableEq

inductive Outcome where
  | denied
  | notConfigured
  | invalid
  | lockedOut
  | replayed
  | accepted (counter : Nat)
  | failed
deriving DecidableEq

def Outcome.reply : Outcome → Option (String × String)
  -- What is spoken, and the description of the announcement event. A lockout is not revealed.
  | .denied => some ("Access denied. Please identify first.", "access denied")
  | .notConfigured => some ("OTP not configured for this user.", "not configured")
  | .invalid => some ("Invalid code.", "invalid code")
  | .lockedOut => none
  | .replayed => some ("Authentication failed.", "replay rejected")
  | .accepted _ => some ("Authentication successful. Elevated access granted.", "auth success")
  | .failed => some ("Authentication failed.", "auth failed")

def codeOf (data : Option (List Char)) : Option (List Char) :=
  data.bind fun d =>
    if d.length < 6 then none
    else if (d.take 6).all fun c => '0' ≤ c ∧ c ≤ '9' then some (d.take 6)
    else none

/-- What stands between the command and the lockout check: the secret and the code, or the answer
that ends it. -/
def credentials (s : State) (c : Command) : Except Outcome (String × List Char) :=
  if s.currentCallerId ≤ 0 then .error .denied
  else
    match s.users s.currentCallerId with
    | none => .error .notConfigured
    | some secret =>
      if secret = "" then .error .notConfigured
      else
        match codeOf c.data with
        | none => .error .invalid
        | some code => .ok (secret, code)

def lockedOut (s : State) (userId now : Int) : Bool :=
  match s.lockout.find userId with
  | some l => otpMaxFailures ≤ l.failures ∧ now - l.lastFailure < otpLockoutS
  | none => false

def resetLockout (s : State) (userId now : Int) : State :=
  -- The failures are forgotten once the last is old.
  { s with
    lockout := s.lockout.modify userId fun l =>
      if otpLockoutS ≤ now - l.lastFailure then { l with failures := 0 } else l }

def isReplay (s : State) (userId : Int) (counter : Nat) : Bool :=
  match s.lastCounter.find userId with
  | some last => counter ≤ last
  | none => false

def accept (s : State) (userId : Int) (counter : Nat) : State :=
  sessionStart
    { s with
      lastCounter := s.lastCounter.store userId 0 fun _ => counter
      lockout := s.lockout.modify userId fun l => { l with failures := 0 } }
    userId

def recordFailure (s : State) (userId now : Int) : State :=
  { s with
    lockout := s.lockout.store userId { failures := 0, lastFailure := 0 } fun l =>
      { failures := l.failures + 1, lastFailure := now } }

/-- `totp_verify`: secret, code, time and skew to the matched counter. -/
abbrev Verify := String → List Char → Int → Int → Option Nat

section Command

variable (verify : Verify)

def outcome (s : State) (c : Command) : Outcome :=
  match credentials s c with
  | .error answer => answer
  | .ok (secret, code) =>
    if lockedOut s s.currentCallerId c.checkedAt then .lockedOut
    else
      match verify secret code c.verifiedAt s.timeSkew with
      | none => .failed
      | some counter =>
        if isReplay s s.currentCallerId counter then .replayed else .accepted counter

def onOtpCommand (s : State) (c : Command) : State :=
  let checked := resetLockout s s.currentCallerId c.checkedAt
  match outcome verify s c with
  | .replayed => checked
  | .accepted counter => accept checked s.currentCallerId counter
  | .failed => recordFailure checked s.currentCallerId c.failedAt
  | _ => s

/-! ## The module's life -/

inductive Input where
  | callerIdentified (userId : Int)
  | command (c : Command)
  | configured (sessionTimeoutMs timeSkew : Int)
  | usersChanged (users : Int → Option String)
  | timerSet (ms : Int) (repeats : Bool)
  | timerCancelled (timerId : Nat)
  | elapse (us : Nat)
  | tick
  | visit (i : Slot)
  | unrelated

def visit (s : State) (i : Slot) : State :=
  -- One slot of `kerchunk_timer_tick`.
  let passed := { s with timers := s.timers.visit i }
  match s.timers.due i with
  | some { callback := .sessionExpire slot, .. } => sessionExpireCb passed slot
  | _ => passed

def step (s : State) : Input → State
  | .callerIdentified userId => { s with currentCallerId := userId }
  | .command c => onOtpCommand verify s c
  | .configured sessionTimeoutMs timeSkew =>
    { s with sessionTimeoutMs := sessionTimeoutMs, timeSkew := timeSkew }
  | .usersChanged users => { s with users := users }
  | .timerSet ms repeats => { s with timers := (s.timers.create ms repeats .foreign).2 }
  | .timerCancelled timerId => { s with timers := s.timers.cancel timerId }
  | .elapse us => { s with timers := s.timers.elapse us }
  | .tick => { s with timers := s.timers.beginTick }
  | .visit i => visit s i
  -- A logout, CALLER_CLEARED or idle time: the module subscribes to none of them.
  | .unrelated => s

end Command

end Kerchunk.Otp
