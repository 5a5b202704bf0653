import Kerchunk.Config.Duration
import Kerchunk.Lib.Machine
import Kerchunk.Link.Client

set_option autoImplicit false

/-!
# Connection attempts and reloads of the client (`modules/mod_link.c`)

`LINK-PROTOCOL.md`: "Permanent codes move mod_link to `state:"stopped"`". The
background thread of `mod_link` makes every connection attempt, so what it has dialled
is kept beside the client, with the clock that it reads.
-/

namespace Kerchunk.Link

open Kerchunk.Config (Text)

/-! ## Configuration -/

/-- What `[link]` holds, a key that is absent being `none`. -/
structure LinkSection where
  enabled : Option Text
  nodeId : Option Text
  reflectorWs : Option Text
  presharedKeyHex : Option Text
  reconnectMinMs : Nat
  reconnectMaxMs : Nat

def pskBytes : Nat := 32
def defaultReconnectMinMs : Nat := 1000
def defaultReconnectMaxMs : Nat := 60000

def isHexDigit (c : Char) : Bool :=
  c.isDigit || ('a' ≤ c && c ≤ 'f') || ('A' ≤ c && c ≤ 'F')

def isEnabled (value : Option Text) : Bool :=
  value = some "on".toList || value = some "true".toList || value = some "yes".toList ||
    value = some "1".toList

/-- The node and its key, which does not depend on the case of its digits. -/
structure Credentials where
  nodeId : Text
  psk : Text
deriving DecidableEq

inductive Configured where
  | off
  | incomplete
  | badKey (nodeId reflectorWs : Text)
  | usable (reflectorWs : Text) (credentials : Credentials)

def LinkSection.configured (sec : LinkSection) : Configured :=
  if isEnabled sec.enabled then
    match sec.nodeId, sec.reflectorWs, sec.presharedKeyHex with
    | some nodeId, some url, some psk =>
        if psk.length = 2 * pskBytes ∧ psk.all isHexDigit = true then
          .usable (url.take 255) { nodeId := nodeId.take 63, psk := psk.map Char.toLower }
        else .badKey (nodeId.take 63) (url.take 255)
    | _, _, _ => .incomplete
  else .off

def Client.configure (cl : Client) (sec : LinkSection) : Client :=
  -- Every reload starts from the default times.
  let cfg := { cl.cfg with
    enabled := false
    reconnectMinMs := defaultReconnectMinMs
    reconnectMaxMs := defaultReconnectMaxMs }
  match sec.configured with
  | .off => { cl with cfg := cfg }.setState .disabled
  | .incomplete =>
      ({ cl with cfg := cfg }.setError
        "[link] requires node_id, reflector_ws, preshared_key_hex").setState .stopped
  | .badKey nodeId url =>
      let cfg := { cfg with nodeId := String.ofList nodeId, reflectorWs := String.ofList url }
      ({ cl with cfg := cfg }.setError "[link] preshared_key_hex must be 64 hex chars").setState
        .stopped
  | .usable url credentials =>
      { cl with cfg := {
          enabled := true
          nodeId := String.ofList credentials.nodeId
          reflectorWs := String.ofList url
          reconnectMinMs := sec.reconnectMinMs
          reconnectMaxMs := sec.reconnectMaxMs } }

/-! ## What else ends a session -/

def shutdownDelay (restartInS : Int) (rand : Nat) : Int :=
  -- The delay that the reflector asks for, with the jitter of `rand`.
  let base := restartInS * 1000
  base + Config.wrap ((rand : Int).tmod (base.tdiv 5 + 1) - base.tdiv 10)

def Client.onReflectorShutdown (cl : Client) (reason : String) (restartInS : Int) (now : Int)
    (rand : Nat) : Client :=
  { cl.setError ("reflector_shutdown(" ++ reason ++ ") — retry in " ++ toString restartInS ++ "s") with
    nextReconnectMs := now + shutdownDelay restartInS rand
    reconnectAttempt := 1 }.closeWs

def Client.onSrtpDrift (cl : Client) : Client :=
  -- More than a thousand packets in ten seconds have failed authentication.
  if cl.sessionActive then
    (cl.setError "SRTP auth fail > 1000/10s — reconnecting (key drift)").closeWs
  else cl

/-! ## The background thread -/

/-- `opened` says that the current connection has finished its handshake, and `deferred` that the
reflector has put off the next attempt over it. `attempts` are the times of the calls of
`mg_ws_connect`, and `credentials` those of the last configuration that was usable. -/
structure Bridge where
  client : Client
  clock : Nat
  opened : Bool
  deferred : Bool
  credentials : Option Credentials
  attempts : List Nat

def Bridge.load (clock : Nat) : Bridge where
  -- `load_`
  client := Client.init {
    enabled := false
    nodeId := ""
    reflectorWs := ""
    reconnectMinMs := defaultReconnectMinMs
    reconnectMaxMs := defaultReconnectMaxMs }
  clock := clock
  opened := false
  deferred := false
  credentials := none
  attempts := []

inductive BridgeInput where
  | elapse (ms : Nat)
  | wsOpen
  | msg (m : Msg) (rand : Nat) (hello : Client.HelloAnswer) (setup : Option Client.SetupFailure)
  | reflectorShutdown (reason : String) (restartInS : Int) (rand : Nat)
  | srtpDrift
  | error (text : String)
  | close (rand : Nat)
  | poll (lossPct : Option Rat) (dialled : Option Nat)
  | command (c : Client.Command)
  | reload (sec : LinkSection)

def Client.Dials (cl : Client) (now : Int) : Prop :=
  -- `mg_ws_connect` is called.
  cl.cfg.enabled = true ∧ cl.ws = none ∧ cl.state ≠ .stopped ∧ cl.nextReconnectMs ≤ now

instance (cl : Client) (now : Int) : Decidable (cl.Dials now) :=
  inferInstanceAs (Decidable (_ ∧ _ ∧ _ ∧ _))

def Client.asked (cl : Client) : Client :=
  -- The requests of the console come before the connection in a turn of `bg_main`.
  cl.pollClearAlarm.pollReconnect.pollSetTg.1

def defers : Msg → Bool
  -- A transient kick puts the next attempt off.
  | .kicked code _ => !linkErrIsPermanent code
  | _ => false

namespace Bridge

variable (b : Bridge)

def Hears : Prop :=
  b.client.ws.isSome = true ∧ b.opened = true

instance : Decidable b.Hears :=
  inferInstanceAs (Decidable (_ ∧ _))

def wsOpen : Bridge :=
  if b.client.ws.isSome = true ∧ b.opened = false then
    { b with client := b.client.onWsOpen, opened := true }
  else b

def msg (m : Msg) (answers : Client.Answers) : Bridge :=
  if b.Hears then
    { b with client := (b.client.onWsMsg m answers).1, deferred := b.deferred || defers m }
  else b

def reflectorShutdown (reason : String) (restartInS : Int) (rand : Nat) : Bridge :=
  if b.Hears then
    { b with
      client := b.client.onReflectorShutdown reason restartInS b.clock rand
      deferred := true }
  else b

def close (rand : Nat) : Bridge :=
  if b.client.ws.isSome then { b with client := b.client.onClose b.clock rand } else b

def poll (lossPct : Option Rat) (dialled : Option Nat) : Bridge :=
  let polled := { b with client := (b.client.poll b.clock lossPct dialled).1 }
  if b.client.asked.Dials b.clock then
    { polled with opened := false, deferred := false, attempts := b.attempts ++ [b.clock] }
  else polled

def reload (sec : LinkSection) : Bridge :=
  { b with
    client := b.client.configure sec
    credentials :=
      match sec.configured with
      | .usable _ credentials => some credentials
      | .off | .incomplete | .badKey _ _ => b.credentials }

def step : BridgeInput → Bridge
  | .elapse ms => { b with clock := b.clock + ms }
  | .wsOpen => b.wsOpen
  | .msg m rand hello setup =>
      b.msg m { now := b.clock, rand := rand, hello := hello, setup := setup }
  | .reflectorShutdown reason restartInS rand => b.reflectorShutdown reason restartInS rand
  | .srtpDrift => { b with client := b.client.onSrtpDrift }
  | .error text => { b with client := b.client.setError ("ws: " ++ text) }
  | .close rand => b.close rand
  | .poll lossPct dialled => b.poll lossPct dialled
  | .command c => { b with client := b.client.command c }
  | .reload sec => b.reload sec

end Bridge

/-! ## The policy -/

namespace Bridge

/-- No request for an attempt: neither the operator's commands, nor a reload that turns the link off
or changes the credentials, nor the reflector going on with the session that it has denied. -/
def Restrained (b : Bridge) : BridgeInput → Prop
  | .command c =>
      match c with
      | .tg _ => True
      | .reconnect | .clearAlarm => False
  | .msg m _ _ _ =>
      match m with
      | .hello .. | .loginOk _ => False
      | _ => True
  | .reload sec =>
      match sec.configured with
      | .off => False
      | .incomplete | .badKey _ _ => True
      | .usable _ credentials => b.credentials = some credentials
  | _ => True

def StaysStopped (b : Bridge) : Prop :=
  -- Once a permanent denial has stopped the client it dials no more.
  ∀ code text rand hello setup after, linkErrIsPermanent code = true → b.Hears →
    b.client.reqClearAlarm = false →
    let denied := b.step (.msg (.loginDenied code text) rand hello setup)
    Machine.Guarded Bridge.step Restrained denied after →
      (Machine.run Bridge.step denied after).attempts = b.attempts

def KeepsLink (_ : Bridge) : BridgeInput → Prop
  -- The link stays configured.
  | .reload sec =>
      match sec.configured with
      | .usable _ _ => True
      | .off | .incomplete | .badKey _ _ => False
  | _ => True

def NoReconnect (_ : Bridge) : BridgeInput → Prop
  | .command c =>
      match c with
      | .reconnect => False
      | .tg _ | .clearAlarm => True
  | _ => True

/-- While the link stays configured the client dials at the first turn from the deadline on if it
has not done so before, and it has not done so unless the operator has asked for it. -/
def DialsAt (b : Bridge) (deadline : Int) : Prop :=
  ∀ waits, Machine.Guarded Bridge.step KeepsLink b waits →
    let waited := Machine.run Bridge.step b waits
    (deadline ≤ waited.clock → ∀ lossPct dialled,
        b.attempts.length < (waited.step (.poll lossPct dialled)).attempts.length) ∧
      (waited.clock < deadline → b.client.reqReconnect = false →
        Machine.Guarded Bridge.step NoReconnect b waits → waited.attempts = b.attempts)

def backoffMs (b : Bridge) : Nat :=
  -- The configured backoff: the minimum, doubled with each attempt in a row up to the maximum.
  min (b.client.cfg.reconnectMinMs * Nat.pow 2 (b.client.reconnectAttempt - 1))
    b.client.cfg.reconnectMaxMs

/-- A lost session leads to another attempt: after the backoff, give or take a fifth of it, unless a
kick or a shutdown of the reflector has put it off until later. -/
def ResumesAfterLoss (b : Bridge) : Prop :=
  ∀ rand, b.client.ws.isSome = true → b.client.state ≠ .stopped → b.client.cfg.enabled = true →
    let lost := b.step (.close rand)
    let deadline := lost.client.nextReconnectMs
    lost.DialsAt deadline ∧
      (b.clock < b.client.nextReconnectMs → b.deferred = true ∧ deadline = b.client.nextReconnectMs) ∧
      (b.client.nextReconnectMs ≤ b.clock →
        b.clock + b.backoffMs - (b.backoffMs / 5 : Nat) ≤ deadline ∧
          deadline ≤ b.clock + b.backoffMs + (b.backoffMs / 5 : Nat))

def ResumesAfterFailure (b : Bridge) : Prop :=
  -- An attempt that gets no connection is made again after the minimum.
  ∀ lossPct, b.client.asked.Dials b.clock →
    (b.step (.poll lossPct none)).DialsAt (b.clock + b.client.cfg.reconnectMinMs)

/-- `clear-alarm` makes a stopped client dial at the next turn, or as after a lost session when the
connection of the denial is still to be closed. -/
def ResumesAfterClear (b : Bridge) : Prop :=
  ∀ ms lossPct dialled, b.client.state = .stopped → b.client.cfg.enabled = true →
    let cleared := Machine.run Bridge.step b
      [.command .clearAlarm, .elapse ms, .poll lossPct dialled]
    (b.client.ws = none → cleared.attempts = b.attempts ++ [b.clock + ms]) ∧
      (b.client.ws.isSome = true →
        cleared.client.ws.isSome = true ∧ cleared.client.state ≠ .stopped ∧
          cleared.client.cfg.enabled = true)

end Bridge

/-! ## What the handlers leave alone -/

/-- The connection, the configuration and the operator's requests. -/
structure SameLine (cl cl' : Client) : Prop where
  cfg : cl'.cfg = cl.cfg
  ws : cl'.ws = cl.ws
  reqClearAlarm : cl'.reqClearAlarm = cl.reqClearAlarm
  reqReconnect : cl'.reqReconnect = cl.reqReconnect

section

variable (cl : Client)

theorem onHello_line (challenge : List Nat) (answer : Client.HelloAnswer) :
    SameLine cl (cl.onHello challenge answer).1 ∧
      (cl.onHello challenge answer).1.nextReconnectMs = cl.nextReconnectMs := by
  unfold Client.onHello
  split
  next => exact ⟨⟨rfl, rfl, rfl, rfl⟩, rfl⟩
  next => cases answer <;> exact ⟨⟨rfl, rfl, rfl, rfl⟩, rfl⟩

theorem onLoginOk_line (body : LoginOk) (failure : Option Client.SetupFailure) :
    SameLine cl (cl.onLoginOk body failure) ∧
      (cl.onLoginOk body failure).nextReconnectMs = cl.nextReconnectMs := by
  by_cases malformed : body.srtpMasterKey.length ≠ Client.srtpKeyBytes ∨
      body.srtpMasterSalt.length ≠ Client.srtpSaltBytes ∨ body.ssrc = 0 ∨ body.reflectorSsrc = 0 ∨
      body.talkgroup = 0
  next =>
    simp only [Client.onLoginOk, Client.sessionSetup, if_pos malformed]
    exact ⟨⟨rfl, rfl, rfl, rfl⟩, rfl⟩
  next =>
    simp only [Client.onLoginOk, Client.sessionSetup, if_neg malformed]
    cases failure <;> exact ⟨⟨rfl, rfl, rfl, rfl⟩, rfl⟩

theorem onLoginDenied_line (code : ErrCode) (text : String) :
    SameLine cl (cl.onLoginDenied code text) ∧
      (cl.onLoginDenied code text).nextReconnectMs = cl.nextReconnectMs := by
  unfold Client.onLoginDenied
  cases linkErrIsPermanent code <;> exact ⟨⟨rfl, rfl, rfl, rfl⟩, rfl⟩

theorem onKicked_line (code : ErrCode) (text : String) (now : Int) (rand : Nat) :
    SameLine cl (cl.onKicked code text now rand) ∧
      (linkErrIsPermanent code = true →
        (cl.onKicked code text now rand).nextReconnectMs = cl.nextReconnectMs) := by
  unfold Client.onKicked
  cases linkErrIsPermanent code with
  | true => exact ⟨⟨rfl, rfl, rfl, rfl⟩, fun _ => rfl⟩
  | false => exact ⟨⟨rfl, rfl, rfl, rfl⟩, nofun⟩

theorem onWsMsg_line (m : Msg) (answers : Client.Answers) :
    SameLine cl (cl.onWsMsg m answers).1 ∧
      (defers m = false → (cl.onWsMsg m answers).1.nextReconnectMs = cl.nextReconnectMs) := by
  cases m with
  | hello challenge reflectorVersion minClientVersion proto =>
    exact (onHello_line cl challenge answers.hello).imp_right fun next _ => next
  | loginOk body => exact (onLoginOk_line cl body answers.setup).imp_right fun next _ => next
  | loginDenied code text => exact (onLoginDenied_line cl code text).imp_right fun next _ => next
  | kicked code text =>
    refine (onKicked_line cl code text answers.now answers.rand).imp_right fun next transient => ?_
    exact next (by simpa [defers] using transient)
  | tgOk tg name =>
    simp only [Client.onWsMsg, Client.onTgOk]
    split <;> exact ⟨⟨rfl, rfl, rfl, rfl⟩, fun _ => rfl⟩
  | floorRevoked tg code =>
    simp only [Client.onWsMsg, Client.onFloorRevoked]
    split <;> exact ⟨⟨rfl, rfl, rfl, rfl⟩, fun _ => rfl⟩
  | targetBitrate bps =>
    simp only [Client.onWsMsg, Client.onTargetBitrate]
    split <;> exact ⟨⟨rfl, rfl, rfl, rfl⟩, fun _ => rfl⟩
  | _ => exact ⟨⟨rfl, rfl, rfl, rfl⟩, fun _ => rfl⟩

theorem onSrtpDrift_line :
    SameLine cl cl.onSrtpDrift ∧ cl.onSrtpDrift.state = cl.state ∧
      cl.onSrtpDrift.nextReconnectMs = cl.nextReconnectMs := by
  unfold Client.onSrtpDrift
  split <;> exact ⟨⟨rfl, rfl, rfl, rfl⟩, rfl, rfl⟩

/-! ## A turn of the background thread -/

theorem pollClearAlarm_running (running : cl.state ≠ .stopped) :
    cl.pollClearAlarm = { cl with reqClearAlarm := false } := by
  unfold Client.pollClearAlarm
  split
  next => exact if_neg running
  next off =>
    cases cl
    simpa using off

theorem pollClearAlarm_alarmed (stopped : cl.state = .stopped) (alarmed : cl.reqClearAlarm = true) :
    cl.pollClearAlarm =
      { cl with
        state := .reconnecting, lastError := "", reconnectAttempt := 0, nextReconnectMs := 0,
        reqClearAlarm := false } := by
  simp [Client.pollClearAlarm, Client.setState, stopped, alarmed]

theorem pollClearAlarm_line :
    cl.pollClearAlarm.ws = cl.ws ∧ cl.pollClearAlarm.cfg = cl.cfg ∧
      (cl.pollClearAlarm.nextReconnectMs = cl.nextReconnectMs ∨
        cl.pollClearAlarm.nextReconnectMs = 0) := by
  simp only [Client.pollClearAlarm]
  split
  next =>
    split
    next => exact ⟨rfl, rfl, Or.inr rfl⟩
    next => exact ⟨rfl, rfl, Or.inl rfl⟩
  next => exact ⟨rfl, rfl, Or.inl rfl⟩

theorem pollReconnect_line :
    cl.pollReconnect.ws = cl.ws ∧ cl.pollReconnect.cfg = cl.cfg ∧
      cl.pollReconnect.state = cl.state ∧ cl.pollReconnect.reqClearAlarm = cl.reqClearAlarm ∧
      cl.pollReconnect.reqReconnect = false ∧
      cl.pollReconnect.nextReconnectMs =
        if cl.reqReconnect = true ∧ cl.ws = none then 0 else cl.nextReconnectMs := by
  -- `reconnect` tells only a client without a connection to dial at once.
  unfold Client.pollReconnect
  split
  next asked =>
    by_cases up : cl.ws.isSome = true
    next =>
      have some_ws : cl.ws ≠ none := Option.isSome_iff_ne_none.mp up
      rw [if_pos up, if_neg fun both => some_ws both.2]
      exact ⟨rfl, rfl, rfl, rfl, rfl, rfl⟩
    next =>
      have none_ws : cl.ws = none := Option.not_isSome_iff_eq_none.mp up
      rw [if_neg up, if_pos ⟨asked, none_ws⟩]
      exact ⟨rfl, rfl, rfl, rfl, rfl, rfl⟩
  next quiet =>
    rw [if_neg fun both => quiet both.1]
    exact ⟨rfl, rfl, rfl, rfl, Bool.eq_false_iff.mpr quiet, rfl⟩

theorem pollSetTg_line :
    SameLine cl cl.pollSetTg.1 ∧ cl.pollSetTg.1.state = cl.state ∧
      cl.pollSetTg.1.nextReconnectMs = cl.nextReconnectMs := by
  unfold Client.pollSetTg
  split <;> exact ⟨⟨rfl, rfl, rfl, rfl⟩, rfl, rfl⟩

theorem asked_of_cleared {cleared : Client} (clear : cl.pollClearAlarm = cleared) :
    cl.asked.ws = cleared.ws ∧ cl.asked.cfg = cleared.cfg ∧ cl.asked.state = cleared.state ∧
      cl.asked.reqClearAlarm = cleared.reqClearAlarm ∧ cl.asked.reqReconnect = false ∧
      cl.asked.nextReconnectMs =
        if cleared.reqReconnect = true ∧ cleared.ws = none then 0 else cleared.nextReconnectMs := by
  obtain ⟨ws, cfg, state, alarm, reconnect, next⟩ := pollReconnect_line cleared
  obtain ⟨line, state', next'⟩ := pollSetTg_line cleared.pollReconnect
  simp only [Client.asked, clear]
  exact ⟨line.ws.trans ws, line.cfg.trans cfg, state'.trans state,
    line.reqClearAlarm.trans alarm, line.reqReconnect.trans reconnect, next'.trans next⟩

theorem asked_line :
    cl.asked.ws = cl.ws ∧ cl.asked.cfg = cl.cfg ∧
      (cl.asked.nextReconnectMs = cl.nextReconnectMs ∨ cl.asked.nextReconnectMs = 0) := by
  obtain ⟨ws, cfg, next⟩ := pollClearAlarm_line cl
  obtain ⟨ws', cfg', -, -, -, next'⟩ := asked_of_cleared cl rfl
  refine ⟨ws'.trans ws, cfg'.trans cfg, ?_⟩
  rw [next']
  split
  next => exact Or.inr rfl
  next => exact next

theorem pollConnect_dials {now : Int} (dials : cl.Dials now) (dialled : Option Nat) :
    cl.pollConnect now dialled =
      match dialled with
      | some c => { cl.setState .connecting with ws := some c, isClosing := false }
      | none =>
          { (cl.setState .connecting).setError
              ("mg_ws_connect to " ++ cl.cfg.reflectorWs ++ " failed") with
            nextReconnectMs := now + cl.cfg.reconnectMinMs } :=
  if_pos dials

theorem pollConnect_waits {now : Int} (waits : ¬ cl.Dials now) (dialled : Option Nat) :
    cl.pollConnect now dialled = cl :=
  if_neg waits

end

/-! ## No attempt after a permanent denial -/

namespace Bridge

/-- The client is stopped, and no `clear-alarm` is waiting for it. -/
structure Halted (b : Bridge) : Prop where
  stopped : b.client.state = .stopped
  alarmed : b.client.reqClearAlarm = false
  opened : b.client.ws.isSome = true → b.opened = true

theorem poll_waits {b : Bridge} (waits : ¬ b.client.asked.Dials b.clock) (lossPct : Option Rat)
    (dialled : Option Nat) : b.poll lossPct dialled = { b with client := b.client.asked } := by
  simp only [poll, if_neg waits]
  exact congrArg (fun client => { b with client := client }) (pollConnect_waits _ waits dialled)

theorem poll_dials {b : Bridge} (dials : b.client.asked.Dials b.clock) (lossPct : Option Rat)
    (dialled : Option Nat) :
    b.poll lossPct dialled =
      { b with
        client := b.client.asked.pollConnect b.clock dialled
        opened := false
        deferred := false
        attempts := b.attempts ++ [b.clock] } := by
  simp only [poll, if_pos dials]
  rfl

theorem onWsMsg_stopped {cl : Client} (stopped : cl.state = .stopped) {m : Msg}
    (answers : Client.Answers)
    (denied : match m with | .hello .. | .loginOk _ => False | _ => True) :
    (cl.onWsMsg m answers).1.state = .stopped := by
  cases m with
  | hello | loginOk => exact denied.elim
  | loginDenied code text =>
    simp only [Client.onWsMsg, Client.onLoginDenied]
    cases linkErrIsPermanent code with
    | true => rfl
    | false => exact stopped
  | kicked code text =>
    simp only [Client.onWsMsg, Client.onKicked]
    cases linkErrIsPermanent code with
    | true => rfl
    | false => exact stopped
  | tgOk tg name =>
    simp only [Client.onWsMsg, Client.onTgOk]
    split <;> exact stopped
  | floorRevoked tg code =>
    simp only [Client.onWsMsg, Client.onFloorRevoked]
    split <;> exact stopped
  | targetBitrate bps =>
    simp only [Client.onWsMsg, Client.onTargetBitrate]
    split <;> exact stopped
  | _ => exact stopped

theorem configure_stopped {cl : Client} (stopped : cl.state = .stopped) {sec : LinkSection}
    (on : sec.configured ≠ .off) : (cl.configure sec).state = .stopped := by
  unfold Client.configure
  split
  next off => exact absurd off on
  next => rfl
  next => rfl
  next => exact stopped

theorem configure_line (cl : Client) (sec : LinkSection) :
    (cl.configure sec).ws = cl.ws ∧ (cl.configure sec).reqClearAlarm = cl.reqClearAlarm ∧
      (cl.configure sec).reqReconnect = cl.reqReconnect ∧
      (cl.configure sec).nextReconnectMs = cl.nextReconnectMs := by
  unfold Client.configure
  split <;> exact ⟨rfl, rfl, rfl, rfl⟩

theorem onClose_stopped {cl : Client} (stopped : cl.state = .stopped) (now : Int) (rand : Nat) :
    cl.onClose now rand = { cl with ws := none, isClosing := false }.sessionCleanup :=
  if_pos stopped

theorem halted_step {b : Bridge} (halted : b.Halted) {i : BridgeInput} (restrained : b.Restrained i) :
    (b.step i).Halted ∧ (b.step i).attempts = b.attempts := by
  obtain ⟨stopped, alarmed, opened⟩ := halted
  cases i with
  | elapse ms => exact ⟨⟨stopped, alarmed, opened⟩, rfl⟩
  | wsOpen =>
    -- The connection of the denial is open already.
    have open_already : ¬ (b.client.ws.isSome = true ∧ b.opened = false) := by
      rintro ⟨up, notYet⟩
      cases (opened up).symm.trans notYet
    simp only [step, wsOpen, if_neg open_already]
    exact ⟨⟨stopped, alarmed, opened⟩, trivial⟩
  | msg m rand hello setup =>
    simp only [step, msg]
    split
    next =>
      have line := (onWsMsg_line b.client m
        { now := b.clock, rand := rand, hello := hello, setup := setup }).1
      refine ⟨⟨?_, line.reqClearAlarm.trans alarmed, fun up => opened (line.ws ▸ up)⟩, rfl⟩
      refine onWsMsg_stopped stopped _ ?_
      cases m <;> exact restrained
    next => exact ⟨⟨stopped, alarmed, opened⟩, rfl⟩
  | reflectorShutdown reason restartInS rand =>
    simp only [step, reflectorShutdown]
    split <;> exact ⟨⟨stopped, alarmed, opened⟩, rfl⟩
  | srtpDrift =>
    obtain ⟨line, state, -⟩ := onSrtpDrift_line b.client
    exact ⟨⟨state.trans stopped, line.reqClearAlarm.trans alarmed,
      fun up => opened (line.ws ▸ up)⟩, rfl⟩
  | error text => exact ⟨⟨stopped, alarmed, opened⟩, rfl⟩
  | close rand =>
    simp only [step, close]
    split
    next =>
      rw [onClose_stopped stopped]
      exact ⟨⟨stopped, alarmed, nofun⟩, rfl⟩
    next => exact ⟨⟨stopped, alarmed, opened⟩, rfl⟩
  | poll lossPct dialled =>
    have clear : b.client.pollClearAlarm = b.client := if_neg (by simp [alarmed])
    obtain ⟨ws, -, state, alarm, -, -⟩ := asked_of_cleared b.client clear
    have waits : ¬ b.client.asked.Dials b.clock := fun dials =>
      dials.2.2.1 (state.trans stopped)
    simp only [step, poll_waits waits]
    exact ⟨⟨state.trans stopped, alarm.trans alarmed, fun up => opened (ws ▸ up)⟩, trivial⟩
  | command c =>
    cases c with
    | tg tg =>
      refine ⟨?_, rfl⟩
      simp only [step, Client.command]
      split <;> exact ⟨stopped, alarmed, opened⟩
    | reconnect | clearAlarm => exact restrained.elim
  | reload sec =>
    have on : sec.configured ≠ .off := by
      intro off
      simp only [Restrained, off] at restrained
    obtain ⟨ws, alarm, -, -⟩ := configure_line b.client sec
    exact ⟨⟨configure_stopped stopped on, alarm.trans alarmed, fun up => opened (ws ▸ up)⟩, rfl⟩

theorem halted_run {b : Bridge} (halted : b.Halted) {after : List BridgeInput}
    (restrained : Machine.Guarded step Restrained b after) :
    (Machine.run step b after).attempts = b.attempts := by
  have kept := Machine.run_invariant step
    (P := fun now => now.Halted ∧ now.attempts = b.attempts)
    (fun _ _ before allowed =>
      (halted_step before.1 allowed).imp_right fun same => same.trans before.2)
    ⟨halted, rfl⟩ restrained
  exact kept.2

theorem stays_stopped (b : Bridge) : b.StaysStopped := by
  intro code text rand hello setup after permanent hears quiet denied restrained
  have state : denied = { b with
      client := b.client.onLoginDenied code text, deferred := b.deferred || false } := by
    simp only [denied, step, msg, if_pos hears]
    rfl
  have line := (onLoginDenied_line b.client code text).1
  have halted : denied.Halted := by
    rw [state]
    refine ⟨?_, line.reqClearAlarm.trans quiet, fun _ => hears.2⟩
    simp only [Client.onLoginDenied, permanent]
    rfl
  rw [halted_run halted restrained, state]

/-! ## The next attempt -/

/-- Without a connection, and on its way to the next one. -/
structure Waiting (b : Bridge) : Prop where
  enabled : b.client.cfg.enabled = true
  down : b.client.ws = none
  running : b.client.state ≠ .stopped

theorem step_grows (b : Bridge) (i : BridgeInput) :
    b.clock ≤ (b.step i).clock ∧ b.attempts.length ≤ (b.step i).attempts.length := by
  -- Time goes on and no attempt is forgotten.
  have still {after : Bridge} (clock : after.clock = b.clock) (attempts : after.attempts = b.attempts) :
      b.clock ≤ after.clock ∧ b.attempts.length ≤ after.attempts.length := by
    simp [clock, attempts]
  cases i with
  | elapse ms => exact ⟨Nat.le_add_right .., Nat.le_refl _⟩
  | poll lossPct dialled =>
    by_cases dials : b.client.asked.Dials b.clock
    next => simp [step, poll_dials dials]
    next => simp [step, poll_waits dials]
  | wsOpen =>
    simp only [step, wsOpen]
    split <;> exact still rfl rfl
  | msg m rand hello setup =>
    simp only [step, msg]
    split <;> exact still rfl rfl
  | reflectorShutdown reason restartInS rand =>
    simp only [step, reflectorShutdown]
    split <;> exact still rfl rfl
  | close rand =>
    simp only [step, close]
    split <;> exact still rfl rfl
  | _ => exact still rfl rfl

theorem waiting_asked {b : Bridge} (waiting : b.Waiting) :
    b.client.asked.cfg.enabled = true ∧ b.client.asked.ws = none ∧
      b.client.asked.state ≠ .stopped ∧ b.client.asked.reqReconnect = false ∧
      b.client.asked.nextReconnectMs =
        if b.client.reqReconnect = true then 0 else b.client.nextReconnectMs := by
  -- What a waiting client dials on in this turn.
  obtain ⟨enabled, down, running⟩ := waiting
  obtain ⟨ws, cfg, state, -, reconnect, next⟩ :=
    asked_of_cleared b.client (pollClearAlarm_running b.client running)
  simp only [down, and_true] at ws next
  exact ⟨by rw [cfg]; exact enabled, ws, by rw [state]; exact running, reconnect, next⟩

/-- Apart from a turn that dials, a step leaves a waiting client waiting, and its deadline as it is
unless the operator asks for an attempt. -/
theorem waiting_step {b : Bridge} (waiting : b.Waiting) {i : BridgeInput} (keeps : b.KeepsLink i) :
    b.client.asked.Dials b.clock ∧ b.attempts.length < (b.step i).attempts.length ∨
      (b.step i).Waiting ∧ (b.step i).attempts = b.attempts ∧
        ((b.step i).client.nextReconnectMs = b.client.nextReconnectMs ∨
          b.client.reqReconnect = true ∧ (b.step i).client.nextReconnectMs = 0) ∧
        (b.NoReconnect i → b.client.reqReconnect = false →
          (b.step i).client.reqReconnect = false) := by
  obtain ⟨enabled, down, running⟩ := waiting
  have notUp : ¬ b.client.ws.isSome = true := by simp [down]
  have still : b.Waiting := ⟨enabled, down, running⟩
  have same (i : BridgeInput) (same : b.step i = b) :
      (b.step i).Waiting ∧ (b.step i).attempts = b.attempts ∧
        ((b.step i).client.nextReconnectMs = b.client.nextReconnectMs ∨
          b.client.reqReconnect = true ∧ (b.step i).client.nextReconnectMs = 0) ∧
        (b.NoReconnect i → b.client.reqReconnect = false →
          (b.step i).client.reqReconnect = false) := by
    rw [same]
    exact ⟨still, rfl, Or.inl rfl, fun _ quiet => quiet⟩
  cases i with
  | elapse ms => exact Or.inr ⟨⟨enabled, down, running⟩, rfl, Or.inl rfl, fun _ quiet => quiet⟩
  | wsOpen => exact Or.inr (same _ (if_neg fun both => notUp both.1))
  | msg m rand hello setup => exact Or.inr (same _ (if_neg fun both => notUp both.1))
  | reflectorShutdown reason restartInS rand =>
    exact Or.inr (same _ (if_neg fun both => notUp both.1))
  | close rand => exact Or.inr (same _ (if_neg notUp))
  | srtpDrift =>
    obtain ⟨line, state, next⟩ := onSrtpDrift_line b.client
    refine Or.inr ⟨⟨?_, line.ws.trans down, fun stopped => running (state.symm.trans stopped)⟩, rfl,
      Or.inl next, fun _ quiet => line.reqReconnect.trans quiet⟩
    exact (congrArg LinkCfg.enabled line.cfg).trans enabled
  | error text => exact Or.inr ⟨⟨enabled, down, running⟩, rfl, Or.inl rfl, fun _ quiet => quiet⟩
  | poll lossPct dialled =>
    obtain ⟨askedEnabled, askedDown, askedRunning, askedReconnect, askedNext⟩ := waiting_asked still
    by_cases dials : b.client.asked.Dials b.clock
    next => exact Or.inl ⟨dials, by simp [step, poll_dials dials]⟩
    next =>
      right
      simp only [step, poll_waits dials]
      refine ⟨⟨askedEnabled, askedDown, askedRunning⟩, trivial, ?_, fun _ _ => askedReconnect⟩
      by_cases told : b.client.reqReconnect = true
      next => exact Or.inr ⟨told, by rw [askedNext, if_pos told]⟩
      next => exact Or.inl (by rw [askedNext, if_neg told])
  | command c =>
    right
    cases c with
    | tg tg =>
      simp only [step, Client.command]
      split <;> exact ⟨⟨enabled, down, running⟩, trivial, Or.inl rfl, fun _ quiet => quiet⟩
    | reconnect => exact ⟨⟨enabled, down, running⟩, rfl, Or.inl rfl, fun none => none.elim⟩
    | clearAlarm => exact ⟨⟨enabled, down, running⟩, rfl, Or.inl rfl, fun _ quiet => quiet⟩
  | reload sec =>
    obtain ⟨ws, -, reconnect, next⟩ := configure_line b.client sec
    right
    simp only [KeepsLink] at keeps
    split at keeps
    next url credentials usable =>
      have configured : (b.client.configure sec).cfg.enabled = true ∧
          (b.client.configure sec).state = b.client.state := by
        simp only [Client.configure, usable, and_self]
      refine ⟨⟨configured.1, ws.trans down, ?_⟩, rfl, Or.inl next, fun _ quiet =>
        reconnect.trans quiet⟩
      intro stopped
      exact running (configured.2.symm.trans stopped)
    all_goals exact keeps.elim

theorem waiting_dials {b : Bridge} (waiting : b.Waiting) (due : b.client.nextReconnectMs ≤ b.clock) :
    b.client.asked.Dials b.clock := by
  obtain ⟨enabled, down, running, -, next⟩ := waiting_asked waiting
  refine ⟨enabled, down, running, ?_⟩
  rw [next]
  split <;> omega

theorem waiting_not_dials {b : Bridge} (waiting : b.Waiting)
    (early : b.clock < b.client.nextReconnectMs) (quiet : b.client.reqReconnect = false) :
    ¬ b.client.asked.Dials b.clock := by
  obtain ⟨-, -, -, -, next⟩ := waiting_asked waiting
  rw [quiet] at next
  intro dials
  have due := dials.2.2.2
  rw [next] at due
  simp only [Bool.false_eq_true, if_false] at due
  omega

/-- The client has dialled since, or it waits for a deadline that is no later. -/
theorem waiting_run {b : Bridge} (waiting : b.Waiting) {waits : List BridgeInput}
    (keeps : Machine.Guarded step KeepsLink b waits) :
    let waited := Machine.run step b waits
    b.attempts.length < waited.attempts.length ∨
      waited.Waiting ∧ waited.attempts = b.attempts ∧
        waited.client.nextReconnectMs ≤ max b.client.nextReconnectMs 0 := by
  refine Machine.run_invariant step (P := fun now => b.attempts.length < now.attempts.length ∨
    now.Waiting ∧ now.attempts = b.attempts ∧
      now.client.nextReconnectMs ≤ max b.client.nextReconnectMs 0) ?_
    (Or.inr ⟨waiting, rfl, Int.le_max_left ..⟩) keeps
  rintro now i (dialled | ⟨still, same, bound⟩) allowed
  next => exact Or.inl (Nat.lt_of_lt_of_le dialled (step_grows now i).2)
  next =>
    rcases waiting_step still allowed with ⟨-, dialled⟩ | ⟨after, sameAfter, next, -⟩
    next => exact Or.inl (same ▸ dialled)
    next =>
      refine Or.inr ⟨after, sameAfter.trans same, ?_⟩
      rcases next with kept | ⟨-, atOnce⟩ <;> omega

theorem waiting_run_early {b : Bridge} (waiting : b.Waiting) (quiet : b.client.reqReconnect = false)
    {waits : List BridgeInput} (keeps : Machine.Guarded step KeepsLink b waits)
    (unasked : Machine.Guarded step NoReconnect b waits)
    (early : (Machine.run step b waits).clock < b.client.nextReconnectMs) :
    (Machine.run step b waits).attempts = b.attempts := by
  have held := Machine.run_invariant step
    (P := fun now => now.clock < b.client.nextReconnectMs →
      now.Waiting ∧ now.attempts = b.attempts ∧
        now.client.nextReconnectMs = b.client.nextReconnectMs ∧ now.client.reqReconnect = false)
    ?_ (fun _ => ⟨waiting, rfl, rfl, quiet⟩) (Machine.guarded_and step keeps unasked)
  next => exact (held early).2.1
  next =>
    intro now i before allowed stillEarly
    have grows := (step_grows now i).1
    obtain ⟨still, same, deadline, notTold⟩ := before (by omega)
    rcases waiting_step still allowed.1 with ⟨dials, -⟩ | ⟨after, sameAfter, next, quietAfter⟩
    next => exact absurd dials (waiting_not_dials still (by omega) notTold)
    next =>
      refine ⟨after, sameAfter.trans same, ?_, quietAfter allowed.2 notTold⟩
      rcases next with kept | ⟨told, -⟩
      next => exact kept.trans deadline
      next => cases notTold.symm.trans told

theorem waiting_dialsAt {b : Bridge} (waiting : b.Waiting) :
    b.DialsAt b.client.nextReconnectMs := by
  intro waits keeps waited
  constructor
  next =>
    intro due lossPct dialled
    rcases waiting_run waiting keeps with before | ⟨still, same, bound⟩
    next => exact Nat.lt_of_lt_of_le before (step_grows _ _).2
    next =>
      have deadline : waited.client.nextReconnectMs ≤ max b.client.nextReconnectMs 0 := bound
      have sameNow : waited.attempts = b.attempts := same
      have dials : waited.client.asked.Dials waited.clock := waiting_dials still (by omega)
      simp [step, poll_dials dials, sameNow]
  next =>
    intro early quiet unasked
    exact waiting_run_early waiting quiet keeps unasked early

/-! ## Lost sessions -/

theorem backoff_doubles (maxMs times delay : Nat) :
    min (Client.backoff maxMs times delay) maxMs = min (delay * Nat.pow 2 times) maxMs := by
  induction times generalizing delay with
  | zero => simp [Client.backoff]
  | succ times ih =>
    have double : delay * Nat.pow 2 (times + 1) = 2 * delay * Nat.pow 2 times := by
      have power : Nat.pow 2 (times + 1) = Nat.pow 2 times * 2 := rfl
      rw [power, Nat.mul_comm (Nat.pow 2 times) 2, ← Nat.mul_assoc, Nat.mul_comm delay 2]
    simp only [Client.backoff]
    split
    next => rw [ih, double]
    next full =>
      have positive : 0 < Nat.pow 2 (times + 1) := Nat.two_pow_pos _
      have grown : delay ≤ delay * Nat.pow 2 (times + 1) := Nat.le_mul_of_pos_right _ positive
      omega

theorem jitter_fifth (base rand : Nat) :
    -((base / 5 : Nat) : Int) ≤ Client.jitter base rand ∧
      Client.jitter base rand ≤ (base / 5 : Nat) := by
  have under : rand % (base / 5 + 1) < base / 5 + 1 := Nat.mod_lt _ (Nat.succ_pos _)
  simp only [Client.jitter]
  omega

def Timely (b : Bridge) : Prop :=
  -- The reflector has put off the next attempt, or nothing stands against it.
  b.client.ws.isSome = true → b.deferred = true ∨ b.client.nextReconnectMs ≤ b.clock

theorem load_timely (clock : Nat) : (load clock).Timely :=
  nofun

theorem timely_step {b : Bridge} (timely : b.Timely) (i : BridgeInput) : (b.step i).Timely := by
  have same {cl : Client} (ws : cl.ws = b.client.ws)
      (next : cl.nextReconnectMs = b.client.nextReconnectMs) :
      Timely { b with client := cl } := by
    intro up
    rw [Timely, ← ws, ← next] at timely
    exact timely up
  cases i with
  | elapse ms =>
    intro up
    have later := (step_grows b (.elapse ms)).1
    rcases timely up with deferred | due
    next => exact Or.inl deferred
    next => exact Or.inr (Int.le_trans due (Int.ofNat_le.mpr later))
  | wsOpen =>
    simp only [step, wsOpen]
    split
    next => exact timely
    next => exact timely
  | msg m rand hello setup =>
    simp only [step, msg]
    split
    next =>
      obtain ⟨line, next⟩ := onWsMsg_line b.client m
        { now := b.clock, rand := rand, hello := hello, setup := setup }
      intro up
      cases putOff : defers m with
      | true => exact Or.inl (by simp)
      | false =>
        rcases timely (line.ws ▸ up) with deferred | due
        next => exact Or.inl (by simp [deferred])
        next => exact Or.inr ((next putOff).symm ▸ due)
    next => exact timely
  | reflectorShutdown reason restartInS rand =>
    simp only [step, reflectorShutdown]
    split
    next => exact fun _ => Or.inl rfl
    next => exact timely
  | srtpDrift =>
    obtain ⟨line, -, next⟩ := onSrtpDrift_line b.client
    exact same line.ws next
  | error text => exact timely
  | close rand =>
    simp only [step, close]
    split
    next =>
      -- The connection is gone.
      intro up
      simp only [Client.onClose] at up
      split at up
      next => cases up
      next => split at up <;> cases up
    next => exact timely
  | poll lossPct dialled =>
    obtain ⟨ws, -, next⟩ := asked_line b.client
    by_cases dials : b.client.asked.Dials b.clock
    next =>
      simp only [step, poll_dials dials, pollConnect_dials _ dials]
      cases dialled with
      | none =>
        intro up
        have down : b.client.asked.ws = none := dials.2.1
        simp [Client.setState, Client.setError, down] at up
      | some c => exact fun _ => Or.inr dials.2.2.2
    next =>
      simp only [step, poll_waits dials]
      intro up
      rcases next with kept | atOnce
      next => exact same ws kept up
      next => exact Or.inr (by simp [atOnce])
  | command c =>
    cases c with
    | tg tg =>
      simp only [step, Client.command]
      split <;> exact timely
    | reconnect | clearAlarm => exact timely
  | reload sec =>
    obtain ⟨ws, -, -, next⟩ := configure_line b.client sec
    exact same ws next

theorem onClose_running {cl : Client} (running : cl.state ≠ .stopped) (now : Int) (rand : Nat) :
    cl.onClose now rand =
      let waiting : Client :=
        { cl with
          ws := none, isClosing := false, sessionActive := false, currentTalker := "",
          currentTg := 0, state := .reconnecting }
      if cl.nextReconnectMs ≤ now then
        { waiting with
          nextReconnectMs := now + cl.reconnectDelay + Client.jitter cl.reconnectDelay rand
          reconnectAttempt := cl.reconnectAttempt + 1 }
      else waiting :=
  if_neg running

theorem resumes_after_loss {b : Bridge} (timely : b.Timely) : b.ResumesAfterLoss := by
  intro rand up running enabled lost deadline
  have closed : lost = { b with client := b.client.onClose b.clock rand } := if_pos up
  have delay : b.client.reconnectDelay = b.backoffMs := backoff_doubles ..
  have waiting : lost.Waiting := by
    rw [closed, onClose_running running]
    simp only
    split <;> exact ⟨enabled, rfl, nofun⟩
  refine ⟨waiting_dialsAt waiting, fun early => ?_, fun due => ?_⟩
  next =>
    have late : ¬ b.client.nextReconnectMs ≤ b.clock := by omega
    refine ⟨(timely up).resolve_right late, ?_⟩
    simp only [deadline, closed, onClose_running running, if_neg late]
  next =>
    have set : deadline = b.clock + b.backoffMs + Client.jitter b.backoffMs rand := by
      simp only [deadline, closed, onClose_running running, if_pos due, delay]
    obtain ⟨low, high⟩ := jitter_fifth b.backoffMs rand
    rw [set]
    omega

theorem resumes_after_failure (b : Bridge) : b.ResumesAfterFailure := by
  intro lossPct dials
  obtain ⟨-, cfg, -⟩ := asked_line b.client
  have failed : (b.step (.poll lossPct none)).client =
      { (b.client.asked.setState .connecting).setError
          ("mg_ws_connect to " ++ b.client.asked.cfg.reflectorWs ++ " failed") with
        nextReconnectMs := b.clock + b.client.asked.cfg.reconnectMinMs } := by
    simp only [step, poll_dials dials, pollConnect_dials _ dials]
  have waiting : (b.step (.poll lossPct none)).Waiting := by
    refine ⟨?_, ?_, ?_⟩ <;> rw [failed]
    next => exact dials.1
    next => exact dials.2.1
    next => exact nofun
  have dialsAt := waiting_dialsAt waiting
  rwa [failed, cfg] at dialsAt

theorem resumes_after_clear (b : Bridge) : b.ResumesAfterClear := by
  intro ms lossPct dialled stopped enabled cleared
  let told : Bridge :=
    { b with client := { b.client with reqClearAlarm := true }, clock := b.clock + ms }
  have ran : cleared = told.poll lossPct dialled := rfl
  obtain ⟨ws, cfg, state, -, -, next⟩ := asked_of_cleared told.client
    (pollClearAlarm_alarmed told.client stopped rfl)
  constructor
  next =>
    intro down
    have dials : told.client.asked.Dials told.clock := by
      refine ⟨by rw [cfg]; exact enabled, ws.trans down, by rw [state]; exact nofun, ?_⟩
      rw [next]
      split <;> exact Int.natCast_nonneg _
    rw [ran, poll_dials dials]
  next =>
    intro up
    have waits : ¬ told.client.asked.Dials told.clock := fun dials =>
      Option.isSome_iff_ne_none.mp up (ws.symm.trans dials.2.1)
    rw [ran, poll_waits waits]
    exact ⟨by rw [ws]; exact up, by rw [state]; exact nofun, by rw [cfg]; exact enabled⟩

/-- What the policy promises in every state that a run reaches. -/
structure Policy (b : Bridge) : Prop where
  stops : b.StaysStopped
  afterClear : b.ResumesAfterClear
  afterLoss : b.ResumesAfterLoss
  afterFailure : b.ResumesAfterFailure

def DelayWithin (b : Bridge) (rand : Nat) : Prop :=
  -- The configured minimum and maximum bound the delay after a lost session.
  let next := (b.step (.close rand)).client.nextReconnectMs
  b.clock + b.client.cfg.reconnectMinMs ≤ next ∧ next ≤ b.clock + b.client.cfg.reconnectMaxMs

instance (b : Bridge) (rand : Nat) : Decidable (b.DelayWithin rand) :=
  inferInstanceAs (Decidable (_ ∧ _))

def defaultTimes : LinkSection where
  enabled := some "on".toList
  nodeId := some "hub".toList
  reflectorWs := some "ws://reflector".toList
  presharedKeyHex := some (List.replicate 64 '0')
  reconnectMinMs := defaultReconnectMinMs
  reconnectMaxMs := defaultReconnectMaxMs

def firstAttempt : Bridge :=
  -- The first connection is being made.
  Machine.run step (load 0) [.reload defaultTimes, .poll none (some 1)]

end Bridge

end Kerchunk.Link
