import Kerchunk.Config.Ini
import Kerchunk.Core.Timer

set_option autoImplicit false

/-!
# AutoPatch calls (`modules/mod_freeswitch.c`)

What the module plays, logs and publishes is left out, and so are its attempts to reach FreeSWITCH
and the audio itself. Whether a command goes out and whether the UDP ports open is up to the
environment. Other modules set timers and register taps of their own.
-/

namespace Kerchunk.Freeswitch

open Kerchunk.Config (Text newline carriageReturn)
open Kerchunk.Core (Slot TimerTable)

/-! ## Events -/

def headerValue (size : Nat) (value : Text) : Text :=
  -- What `esl_parse_header` copies into a buffer of `size` bytes.
  let line := (value.dropWhile (· = ' ')).takeWhile (· ≠ newline)
  let line := if line.getLast? = some carriageReturn then line.dropLast else line
  line.take (size - 1)

def headerFrom (key : Text) (size : Nat) : Nat → Bool → Text → Option Text
  -- The search of `esl_parse_header` from a place that may begin a line.
  | 0, _, _ => none
  | _ + 1, _, [] => none
  | fuel + 1, lineStart, c :: rest =>
    if key.isPrefixOf (c :: rest) then
      let after := (c :: rest).drop key.length
      if lineStart = true ∧ after.head? = some ':' then some (headerValue size after.tail)
      else headerFrom key size fuel false after
    else headerFrom key size fuel (c = newline) rest

def parseHeader (block key : Text) : Option Text :=
  headerFrom key 64 (block.length + 1) true block

def mentions (block text : Text) : Bool :=
  -- `strstr` finds the text.
  block.tails.any fun rest => text.isPrefixOf rest

inductive EslEvent where
  | authRequest
  | accepted
  | answer (uuid : Text)
  | progress
  | hangup (uuid : Text)
  | other
deriving DecidableEq

def channelUuid (block : Text) : Text :=
  let uuid := (parseHeader block "Unique-ID".toList).getD []
  if uuid = [] then (parseHeader block "Channel-Call-UUID".toList).getD [] else uuid

def eslEvent (block : Text) : EslEvent :=
  if mentions block "auth/request".toList then .authRequest
  else if mentions block "command/reply".toList && mentions block "+OK".toList then .accepted
  else
    let name := (parseHeader block "Event-Name".toList).getD []
    if name = "CHANNEL_ANSWER".toList then .answer (channelUuid block)
    else if name = "CHANNEL_PROGRESS".toList then .progress
    else if name = "CHANNEL_HANGUP".toList then .hangup (channelUuid block)
    else .other

/-! ## The module -/

inductive CallState where
  | idle
  | dialing
  | ringing
  | connected
deriving DecidableEq

inductive EslCommand where
  | auth (password : Text)
  | subscribeEvents
  | originate (command : Text)
  | uuidKill (uuid : Text)
  | unicast (uuid host : Text) (basePort : Int)
deriving DecidableEq

inductive Callback where
  | call
  | dial
  | inactivity
  | foreign
deriving DecidableEq

/-- An entry of one of the core's two lists of taps; each list may hold one of this module's. -/
inductive Tap where
  | own
  | foreign (n : Nat)
deriving DecidableEq

def maxTaps : Nat := 8

structure Settings where
  enabled : Bool
  adminOnly : Bool
  fsHost : Text
  eslPassword : Text
  sipGateway : Text
  dialPrefix : Text
  dialWhitelist : Text
  udpBasePort : Int
  maxCallSecs : Int
  dialTimeoutMs : Int
  inactivityMs : Int

/-- `freeswitch_configure` bounds the call's duration and leaves the other two limits as they are
read. -/
def Settings.clamped (c : Settings) : Settings :=
  { c with maxCallSecs := min (max c.maxCallSecs 30) 3600 }

/-- `eslOpen` says whether the ESL socket is, `sent` what has gone out on it. `timers`, `taps` and
`playbackTaps` are the core's, and so are the `pttRequests` of the module that it has not released. -/
structure State where
  loaded : Bool
  settings : Settings
  callState : CallState
  callActive : Bool
  callUuid : Text
  callDigits : Text
  callTimer : Option Nat
  inactivityTimer : Option Nat
  dialTimer : Option Nat
  eslOpen : Bool
  eslAuthed : Bool
  udpRx : Bool
  udpTx : Bool
  corActive : Bool
  voxPttHeld : Bool
  timers : TimerTable Callback
  taps : List Tap
  playbackTaps : List Tap
  pttRequests : Nat
  sent : List EslCommand

def init (settings : Settings) : State where
  loaded := true
  settings := settings.clamped
  callState := .idle
  callActive := false
  callUuid := []
  callDigits := []
  callTimer := none
  inactivityTimer := none
  dialTimer := none
  eslOpen := false
  eslAuthed := false
  udpRx := false
  udpTx := false
  corActive := false
  voxPttHeld := false
  timers := TimerTable.init
  taps := []
  playbackTaps := []
  pttRequests := 0
  sent := []

/-- What happens outside while an input is handled. -/
structure Env where
  sends : EslCommand → Bool
  udpOpens : Bool

def goesOut (env : Env) (s : State) (command : EslCommand) : Bool :=
  -- Whether `esl_send` returns 0.
  s.eslOpen && env.sends command

def eslSend (env : Env) (s : State) (command : EslCommand) : State :=
  if goesOut env s command then { s with sent := s.sent ++ [command] } else s

def registerTap (taps : List Tap) (tap : Tap) : List Tap :=
  if taps.length ≥ maxTaps then taps else taps ++ [tap]

def isNumberAllowed (settings : Settings) (digits : Text) : Bool :=
  if digits = [] then false
  else if digits ∈ ["911".toList, "9911".toList, "1911".toList] then false
  else if digits.length < 3 then false
  else if digits.any fun c => ! c.isDigit then false
  else if settings.dialWhitelist ≠ [] then
    (settings.dialWhitelist.splitOn ',').any fun token =>
      let token := token.dropWhile (· = ' ')
      token ≠ [] ∧ token.isPrefixOf digits
  else true

def originateCommand (settings : Settings) (digits : Text) : Text :=
  -- The dial prefix goes before a number that does not begin with it.
  let country := if settings.dialPrefix.isPrefixOf digits then [] else settings.dialPrefix
  ("originate \x7bignore_early_media=false\x7dsofia/gateway/".toList ++ settings.sipGateway ++ '/' ::
    country ++ digits ++ " &park()".toList).take 511

def callTeardown (s : State) : State :=
  { s with
    timers := ((s.timers.cancelIf s.callTimer).cancelIf s.dialTimer).cancelIf s.inactivityTimer
    callTimer := none
    dialTimer := none
    inactivityTimer := none
    callActive := false
    taps := s.taps.erase .own
    playbackTaps := s.playbackTaps.erase .own
    udpRx := false
    udpTx := false
    pttRequests := if s.voxPttHeld then s.pttRequests - 1 else s.pttRequests
    voxPttHeld := false
    callState := .idle
    callUuid := []
    callDigits := [] }

def killCall (env : Env) (s : State) : State :=
  -- `if (g_call_uuid[0] != '\0') esl_api("uuid_kill ...")`
  if s.callUuid = [] then s else eslSend env s (.uuidKill s.callUuid)

def autopatchHangup (env : Env) (s : State) : State :=
  if s.callState = .idle then s else callTeardown (killCall env s)

def callSetupAudio (env : Env) (s : State) : State :=
  if env.udpOpens then
    let s := { s with udpRx := true, udpTx := true }
    let s := eslSend env s (.unicast s.callUuid s.settings.fsHost s.settings.udpBasePort)
    let (callTimer, timers) := (s.timers.cancelIf s.dialTimer).create
      (s.settings.maxCallSecs * 1000) false .call
    let (inactivityTimer, timers) := timers.create s.settings.inactivityMs false .inactivity
    { s with
      taps := registerTap s.taps .own
      playbackTaps := registerTap s.playbackTaps .own
      voxPttHeld := false
      callActive := true
      dialTimer := none
      callTimer := callTimer
      inactivityTimer := inactivityTimer
      timers := timers }
  else autopatchHangup env s

def mayDial (s : State) (digits : Text) : Bool :=
  -- The tests of `autopatch_dial` before it sends anything.
  s.settings.enabled ∧ s.callState = .idle ∧ s.eslAuthed ∧ s.settings.adminOnly = false ∧
    isNumberAllowed s.settings digits

def autopatchDial (env : Env) (s : State) (digits : Text) : State :=
  if mayDial s digits then
    let s := { s with callDigits := digits.take 31, callUuid := [] }
    let command := .originate (originateCommand s.settings digits)
    if goesOut env s command then
      let (dialTimer, timers) := s.timers.create s.settings.dialTimeoutMs false .dial
      { eslSend env s command with
        callState := .dialing
        dialTimer := dialTimer
        timers := timers }
    else s
  else s

def adopts (s : State) (uuid : Text) : Bool :=
  -- Whether a call is being set up that takes this channel for its own.
  (s.callState = .dialing ∨ s.callState = .ringing) ∧ (s.callUuid = [] ∨ uuid = s.callUuid)

def onAnswer (env : Env) (s : State) (uuid : Text) : State :=
  if adopts s uuid then
    callSetupAudio env
      { s with
        callUuid := if s.callUuid = [] then uuid else s.callUuid
        callState := .connected }
  else s

def handleEvent (env : Env) (s : State) : EslEvent → State
  -- `esl_handle_event`
  | .authRequest => eslSend env s (.auth s.settings.eslPassword)
  | .accepted =>
    if s.eslAuthed then s else eslSend env { s with eslAuthed := true } .subscribeEvents
  | .answer uuid => onAnswer env s uuid
  | .progress => if s.callState = .dialing then { s with callState := .ringing } else s
  | .hangup uuid =>
    if s.callState ≠ .idle ∧ (s.callUuid = [] ∨ uuid = s.callUuid) then callTeardown s else s
  | .other => s

def eslLost (s : State) : State :=
  -- `esl_disconnect`, and the end of the call with it.
  let s := { s with eslOpen := false, eslAuthed := false }
  if s.callState = .idle then s else callTeardown s

def onCallTimeout (env : Env) (s : State) : State :=
  callTeardown (killCall env { s with callTimer := none })

def onDialTimeout (env : Env) (s : State) : State :=
  callTeardown (killCall env { s with dialTimer := none })

def onInactivityTimeout (env : Env) (s : State) : State :=
  autopatchHangup env { s with inactivityTimer := none }

def onCorAssert (s : State) : State :=
  if s.callActive ∧ s.inactivityTimer ≠ none then
    let (inactivityTimer, timers) := (s.timers.cancelIf s.inactivityTimer).create
      s.settings.inactivityMs false .inactivity
    { s with corActive := true, inactivityTimer := inactivityTimer, timers := timers }
  else { s with corActive := true }

def voxProcess (s : State) (speaking : Bool) : State :=
  -- `vox_process_and_queue`, by what the voice detector says of the frame.
  if s.callActive ∧ s.corActive = false then
    if speaking then
      if s.voxPttHeld then s
      else { s with pttRequests := s.pttRequests + 1, voxPttHeld := true }
    else if s.voxPttHeld then { s with pttRequests := s.pttRequests - 1, voxPttHeld := false }
    else s
  else s

def onShutdown (env : Env) (s : State) : State :=
  if s.callState = .idle then s else autopatchHangup env s

def freeswitchUnload (s : State) : State :=
  let s := if s.callState = .idle then s else callTeardown s
  { s with eslOpen := false, eslAuthed := false, loaded := false }

/-! ## Inputs -/

/-- `autopatch` is the DTMF command, `dial` and `hangup` are the command line's. -/
inductive Action where
  | autopatch (arg : Text)
  | dial (digits : Text)
  | hangup
  | eslOpened
  | block (text : Text)
  | eslLost
  | frame (speaking : Bool)
  | corAssert
  | corDrop
  | shutdown
  | configure (settings : Settings)
  | unload
  | load (settings : Settings)
  | elapse (us : Nat)
  | tick
  | visit (i : Slot)
  | timerSet (ms : Int) (repeats : Bool)
  | timerCancelled (timerId : Nat)
  | tapAdded (playback : Bool) (n : Nat)
  | tapRemoved (playback : Bool) (n : Nat)

abbrev Input := Env × Action

def visit (env : Env) (s : State) (i : Slot) : State :=
  -- One slot of `kerchunk_timer_tick`.
  let passed := { s with timers := s.timers.visit i }
  match (s.timers.due i).map Core.TimerEntry.callback with
  | some .call => onCallTimeout env passed
  | some .dial => onDialTimeout env passed
  | some .inactivity => onInactivityTimeout env passed
  | _ => passed

def handle (env : Env) (s : State) : Action → State
  -- What reaches the module only while it is loaded.
  | .autopatch arg => if arg = [] then autopatchHangup env s else autopatchDial env s arg
  | .dial digits => autopatchDial env s digits
  | .hangup => autopatchHangup env s
  | .eslOpened =>
    if s.settings.enabled ∧ s.eslOpen = false then { s with eslOpen := true, eslAuthed := false }
    else s
  | .block text =>
    if s.settings.enabled ∧ s.eslOpen then handleEvent env s (eslEvent text) else s
  | .eslLost => if s.settings.enabled ∧ s.eslOpen then eslLost s else s
  | .frame speaking => if s.settings.enabled then voxProcess s speaking else s
  | .corAssert => onCorAssert s
  | .corDrop => { s with corActive := false }
  | .shutdown => onShutdown env s
  | .configure settings => { s with settings := settings.clamped }
  | .unload => freeswitchUnload s
  | _ => s

def step (s : State) (input : Input) : State :=
  match input.2 with
  | .load settings =>
    if s.loaded then s
    else { s with loaded := true, settings := settings.clamped, corActive := false }
  | .elapse us => { s with timers := s.timers.elapse us }
  | .tick => { s with timers := s.timers.beginTick }
  | .visit i => visit input.1 s i
  | .timerSet ms repeats => { s with timers := (s.timers.create ms repeats .foreign).2 }
  | .timerCancelled timerId =>
    { s with timers := s.timers.drop fun e => e.id = timerId ∧ e.callback = .foreign }
  | .tapAdded playback n =>
    if playback then { s with playbackTaps := registerTap s.playbackTaps (.foreign n) }
    else { s with taps := registerTap s.taps (.foreign n) }
  | .tapRemoved playback n =>
    if playback then { s with playbackTaps := s.playbackTaps.erase (.foreign n) }
    else { s with taps := s.taps.erase (.foreign n) }
  | action => if s.loaded then handle input.1 s action else s

end Kerchunk.Freeswitch
