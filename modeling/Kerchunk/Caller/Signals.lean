import Kerchunk.Caller.Model

set_option autoImplicit false

/-!
# What the caller module signals (`modules/mod_caller.c`)

The module without the timer table. No handler fires more than one event, and what follows the event
reads nothing that its subscribers changed.
-/

namespace Kerchunk.Caller.Signals

open Kerchunk.Config (Text)

inductive Signal where
  | identified (userId : Nat) (method : Method)
  | cleared
deriving DecidableEq

structure Directory where
  users : List User
  logoutCode : Text

/-- The two timers are only known to run or not: when one runs out is up to the environment. A timer
that could not be created is one that never runs out. -/
structure Session where
  currentUserId : Nat
  currentMethod : Method
  aniActive : Bool
  aniBuf : Text
  aniTimer : Bool
  loginActive : Bool
  loginBuf : Text
  sessionUserId : Nat
  sessionTimer : Bool
deriving DecidableEq

def init : Session where
  currentUserId := 0
  currentMethod := .unknown
  aniActive := false
  aniBuf := []
  aniTimer := false
  loginActive := false
  loginBuf := []
  sessionUserId := 0
  sessionTimer := false

/-- The module after a handler, and the event that the handler fires. -/
structure Outcome where
  session : Session
  signal : Option Signal
deriving DecidableEq

def silent (s : Session) : Outcome := ⟨s, none⟩

variable (dir : Directory)

def lookupByAni (ani : Text) : Option User :=
  if ani = [] then none else dir.users.find? fun u => u.ani ≠ [] ∧ u.ani = ani

def lookupByLogin (code : Text) : Option User :=
  dir.users.find? fun u => u.dtmfLogin ≠ [] ∧ u.dtmfLogin = code

def fireIdentified (userId : Nat) (method : Method) (s : Session) : Outcome :=
  ⟨{ s with currentUserId := userId, currentMethod := method }, some (.identified userId method)⟩

def fireCleared (s : Session) : Outcome :=
  if s.currentUserId = 0 then silent s
  else ⟨{ s with currentUserId := 0, currentMethod := .unknown }, some .cleared⟩

/-! ## Login sessions -/

def sessionTimeoutCb (s : Session) : Outcome :=
  let s := { s with sessionTimer := false }
  if 0 < s.sessionUserId then
    let s := { s with sessionUserId := 0 }
    if 0 < s.currentUserId ∧ s.currentMethod = .dtmfLogin then fireCleared s else silent s
  else silent s

def sessionStart (userId : Nat) (s : Session) : Session :=
  { s with sessionUserId := userId, sessionTimer := true }

def sessionClear (s : Session) : Session :=
  { s with sessionTimer := false, sessionUserId := 0 }

def doLogout (s : Session) : Outcome :=
  if s.sessionUserId = 0 then silent s
  else
    let s := sessionClear s
    if 0 < s.currentUserId then fireCleared s else silent s

/-! ## ANI -/

def processAni (s : Session) : Outcome :=
  if s.aniBuf = [] then silent s
  else
    match lookupByAni dir s.aniBuf with
    | some u => fireIdentified u.id .dtmfAni s
    | none => silent s

def aniTimeout (s : Session) : Outcome :=
  processAni dir { s with aniTimer := false, aniActive := false }

/-! ## Event handlers -/

def armAni (s : Session) : Session :=
  -- Digits already captured stay.
  if s.aniActive then s else { s with aniActive := true, aniBuf := [] }

def onCorAssert (s : Session) : Outcome :=
  -- `session_refresh` only starts the session's timer again.
  let s := armAni s
  if 0 < s.sessionUserId ∧ s.currentUserId ≠ s.sessionUserId then
    fireIdentified s.sessionUserId .dtmfLogin s
  else silent s

def cancelAni (s : Session) : Session :=
  { s with aniTimer := false, aniActive := false }

def onCorDrop (s : Session) : Outcome :=
  let s := cancelAni s
  if s.currentMethod = .dtmfLogin then
    ⟨{ s with currentUserId := 0, currentMethod := .unknown }, some .cleared⟩
  else fireCleared s

def captureAni (d : Char) (s : Session) : Session :=
  -- A digit of the ANI window, other than `*`; the first starts the timer.
  { s with aniTimer := s.aniTimer || s.aniBuf = [], aniBuf := s.aniBuf ++ [d] }

def login (s : Session) : Outcome :=
  -- The code is complete.
  let code := s.loginBuf
  let s := { s with loginActive := false }
  if 0 < s.sessionUserId then
    if dir.logoutCode ≠ [] ∧ code = dir.logoutCode then doLogout s else silent s
  else
    match lookupByLogin dir code with
    | some u =>
      let identified := fireIdentified u.id .dtmfLogin s
      { identified with session := sessionStart u.id identified.session }
    | none => silent s

def loginDigit (d : Char) (s : Session) : Outcome :=
  if d = '*' then silent { s with loginActive := true, loginBuf := [] }
  else if s.loginActive then
    if d = '#' then login dir s
    else if s.loginBuf.length < maxAniLen then silent { s with loginBuf := s.loginBuf ++ [d] }
    else silent { s with loginActive := false }
  else silent s

def onDtmfDigit (d : Char) (s : Session) : Outcome :=
  if s.aniActive ∧ s.aniBuf.length < maxAniLen then
    if d = '*' then
      -- A star closes the window; then it starts a login sequence.
      let ani := processAni dir (cancelAni s)
      { ani with session := (loginDigit dir d ani.session).session }
    else silent (captureAni d s)
  else loginDigit dir d s

/-- What reaches the module besides COR. -/
inductive Input where
  | dtmfDigit (digit : Char)
  | aniTimeout
  | sessionTimeout
  | logoutCommand
deriving DecidableEq

def handle (s : Session) : Input → Outcome
  | .dtmfDigit d => onDtmfDigit dir d s
  | .aniTimeout => if s.aniTimer then aniTimeout dir s else silent s
  | .sessionTimeout => if s.sessionTimer then sessionTimeoutCb s else silent s
  | .logoutCommand => doLogout s

end Kerchunk.Caller.Signals
