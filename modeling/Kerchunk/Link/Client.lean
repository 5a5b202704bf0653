import Kerchunk.Link.Proto

set_option autoImplicit false

/-!
# The client's control plane (`modules/mod_link.c`)

The background thread's state machine: connection, login, the reflector's
messages and the operator's requests. What OpenSSL, libsrtp, opus, `rand` and
the sockets answer are arguments.
-/

namespace Kerchunk.Link

structure LinkCfg where
  enabled : Bool
  nodeId : String
  reflectorWs : String
  reconnectMinMs : Nat
  reconnectMaxMs : Nat

inductive LinkState where
  | disabled | connecting | awaitHello | awaitLoginOk | connected | reconnecting | stopped
deriving DecidableEq

structure Client where
  cfg : LinkCfg
  state : LinkState
  /-- `g_ws`, by the reflector's number for the connection. -/
  ws : Option Nat
  isClosing : Bool
  reconnectAttempt : Nat
  nextReconnectMs : Int
  lastError : String
  currentTalker : String
  currentTg : Nat
  tgMembers : List (String × Bool)
  sessionActive : Bool
  muted : Bool
  currentBitrate : Nat
  reqSetTg : Nat
  reqReconnect : Bool
  reqClearAlarm : Bool

def Client.init (cfg : LinkCfg) : Client where
  cfg := cfg
  state := .disabled
  ws := none
  isClosing := false
  reconnectAttempt := 0
  nextReconnectMs := 0
  lastError := ""
  currentTalker := ""
  currentTg := 0
  tgMembers := []
  sessionActive := false
  muted := false
  currentBitrate := 0
  reqSetTg := 0
  reqReconnect := false
  reqClearAlarm := false

namespace Client

def setState (cl : Client) (state : LinkState) : Client :=
  { cl with state := state }

def setError (cl : Client) (text : String) : Client :=
  { cl with lastError := text }

def closeWs (cl : Client) : Client :=
  -- Mongoose closes the connection after the handler.
  { cl with isClosing := cl.ws.isSome }

-- `g_muted` is not among what a session's end resets.
def sessionCleanup (cl : Client) : Client :=
  { cl with sessionActive := false, currentTalker := "", currentTg := 0 }

/-! ## Messages from the reflector -/

inductive HelloAnswer where
  | randFails
  | hmacFails
  | login (nonce keyHmac : String)

def challengeBytes : Nat := 16
def srtpKeyBytes : Nat := 16
def srtpSaltBytes : Nat := 14

def onHello (cl : Client) (challenge : List Nat) (answer : HelloAnswer) : Client × List Request :=
  if challenge.length ≠ challengeBytes then ((cl.setError "hello: bad challenge").closeWs, [])
  else
    match answer with
    | .randFails => ((cl.setError "RAND_bytes").closeWs, [])
    | .hmacFails => ((cl.setError "HMAC").closeWs, [])
    | .login nonce keyHmac =>
        (cl.setState .awaitLoginOk,
          [.login {
            nodeId := some cl.cfg.nodeId
            keyHmac := some keyHmac
            nonce := some nonce
            clientVersion := some "kerchunk 1.0" }])

/-- The step of the session's setup that fails. -/
inductive SetupFailure where
  | resolve
  | srtpIn
  | srtpOut
  | encoder (err : Int)
  | decoder (err : Int)
  | socket (err : String)

def SetupFailure.text (host : String) : SetupFailure → String
  | .resolve => "rtp_endpoint host '" ++ host ++ "' did not resolve"
  | .srtpIn => "srtp_create(in) failed"
  | .srtpOut => "srtp_create(out) failed"
  | .encoder err => "opus_encoder_create " ++ toString err
  | .decoder err => "opus_decoder_create " ++ toString err
  | .socket err => "socket: " ++ err

def SetupFailure.afterSrtp : SetupFailure → Bool
  -- Both SRTP contexts exist when it fails.
  | .resolve | .srtpIn | .srtpOut => false
  | .encoder _ | .decoder _ | .socket _ => true

def sessionSetup (cl : Client) (body : LoginOk) (failure : Option SetupFailure) : Client × Bool :=
  -- The session, and whether it is up. The talkgroup is stored before the steps that can fail.
  let stashed := { cl with tgMembers := body.tgMembers }
  if body.srtpMasterKey.length ≠ srtpKeyBytes ∨ body.srtpMasterSalt.length ≠ srtpSaltBytes ∨
      body.ssrc = 0 ∨ body.reflectorSsrc = 0 ∨ body.talkgroup = 0 then
    (stashed.setError "login_ok missing or malformed audio fields", false)
  else
    let tuned := { stashed with currentTg := body.talkgroup }
    match failure with
    | none => ({ tuned with sessionActive := true }, true)
    | some step =>
        ({ tuned with sessionActive := tuned.sessionActive || step.afterSrtp }.setError
          (step.text body.rtpHost), false)

def onLoginOk (cl : Client) (body : LoginOk) (failure : Option SetupFailure) : Client :=
  match cl.sessionSetup body failure with
  | (cl, false) => cl.closeWs
  | (cl, true) => { cl.setState .connected with reconnectAttempt := 0, lastError := "" }

def onLoginDenied (cl : Client) (code : ErrCode) (msg : String) : Client :=
  let told := cl.setError ("login_denied(" ++ code.text ++ "): " ++ msg)
  (if linkErrIsPermanent code then told.setState .stopped else told).closeWs

def onTgOk (cl : Client) (tg : Nat) : Client :=
  if tg = 0 ∨ 65535 < tg then cl else { cl with currentTg := tg }.setError ""

def onTgDenied (cl : Client) (tg : Int) (code : ErrCode) : Client :=
  cl.setError ("tg_denied(tg=" ++ toString tg ++ ", " ++ code.text ++ ")")

def onFloorRevoked (cl : Client) (code : ErrCode) : Client :=
  if code ≠ .leaseExpired then cl.setError ("floor_revoked(" ++ code.text ++ ")") else cl

def onMute (cl : Client) (reason : String) : Client :=
  { cl.setError ("muted by reflector (" ++ reason ++ ")") with muted := true }

def onUnmute (cl : Client) : Client :=
  { cl.setError "" with muted := false }

def onTargetBitrate (cl : Client) (bps : Nat) : Client :=
  if bps < 8000 ∨ 64000 < bps then cl else { cl with currentBitrate := bps }

def onTgMembershipChanged (cl : Client) (oldTg newTg : Nat) : Client :=
  { cl.setError ("TG changed by reflector: " ++ toString oldTg ++ " → " ++ toString newTg ++
      " (config_reload)") with currentTg := newTg }

def jitter (base rand : Nat) : Int :=
  -- A delay with up to a tenth more or less, from what `rand` returns.
  ((rand % (base / 5 + 1) : Nat) : Int) - (base / 10 : Nat)

def onKicked (cl : Client) (code : ErrCode) (msg : String) (now : Int) (rand : Nat) : Client :=
  let told := cl.setError ("kicked: " ++ code.text ++ (if msg = "" then "" else " — " ++ msg))
  (if linkErrIsPermanent code then told.setState .stopped
    else { told with nextReconnectMs := now + 30000 + jitter 30000 rand, reconnectAttempt := 1 }).closeWs

/-- What the system answers while a message is handled. -/
structure Answers where
  now : Int
  rand : Nat
  hello : HelloAnswer
  setup : Option SetupFailure

def onWsMsg (cl : Client) (m : Msg) (answers : Answers) : Client × List Request :=
  -- Only `hello` and `ping` are answered.
  match m with
  | .hello challenge _ _ _ => cl.onHello challenge answers.hello
  | .ping _ => (cl, [.pong])
  | .loginOk body => (cl.onLoginOk body answers.setup, [])
  | .loginDenied code msg => (cl.onLoginDenied code msg, [])
  | .kicked code msg => (cl.onKicked code msg answers.now answers.rand, [])
  | .tgOk tg _ => (cl.onTgOk tg, [])
  | .tgDenied tg code => (cl.onTgDenied tg code, [])
  | .tgMembershipChanged oldTg newTg => (cl.onTgMembershipChanged oldTg newTg, [])
  | .tgRoster _ members => ({ cl with tgMembers := members }, [])
  | .talker _ nodeId _ => ({ cl with currentTalker := nodeId.getD "" }, [])
  | .floorDenied _ currentTalker =>
      (cl.setError ("TG busy (current talker: " ++ currentTalker ++ ")"), [])
  | .floorRevoked _ code => (cl.onFloorRevoked code, [])
  | .mute reason _ => (cl.onMute reason, [])
  | .unmute => (cl.onUnmute, [])
  | .targetBitrate bps => (cl.onTargetBitrate bps, [])
  | .error _ _ | .pong _ => (cl, [])

/-! ## The connection and the background thread -/

def onWsOpen (cl : Client) : Client :=
  cl.setState .awaitHello

def backoff (maxMs : Nat) : Nat → Nat → Nat
  -- Double the delay up to `times` times, while it is under the maximum.
  | 0, delay => delay
  | times + 1, delay => if delay < maxMs then backoff maxMs times (2 * delay) else delay

def reconnectDelay (cl : Client) : Nat :=
  min (backoff cl.cfg.reconnectMaxMs (cl.reconnectAttempt - 1) cl.cfg.reconnectMinMs)
    cl.cfg.reconnectMaxMs

def onClose (cl : Client) (now : Int) (rand : Nat) : Client :=
  let ended := { cl with ws := none, isClosing := false }.sessionCleanup
  if ended.state = .stopped then ended
  else
    let waiting := ended.setState .reconnecting
    if waiting.nextReconnectMs ≤ now then
      let delay := waiting.reconnectDelay
      { waiting with
        nextReconnectMs := now + delay + jitter delay rand
        reconnectAttempt := waiting.reconnectAttempt + 1 }
    else waiting

inductive Command where
  | tg (tg : Int)
  | reconnect
  | clearAlarm

def command (cl : Client) : Command → Client
  -- `link tg`, the DTMF command and the rest of the command line leave their requests.
  | .tg tg => if tg ≤ 0 ∨ 65535 < tg then cl else { cl with reqSetTg := tg.toNat }
  | .reconnect => { cl with reqReconnect := true }
  | .clearAlarm => { cl with reqClearAlarm := true }

def pollClearAlarm (cl : Client) : Client :=
  if cl.reqClearAlarm then
    let cleared := { cl with reqClearAlarm := false }
    if cleared.state = .stopped then
      { cleared with lastError := "", reconnectAttempt := 0, nextReconnectMs := 0 }.setState
        .reconnecting
    else cleared
  else cl

def pollReconnect (cl : Client) : Client :=
  if cl.reqReconnect then
    let taken := { cl with reqReconnect := false }
    if cl.ws.isSome then taken.closeWs else { taken with nextReconnectMs := 0 }
  else cl

def pollSetTg (cl : Client) : Client × List Request :=
  if cl.reqSetTg ≠ 0 ∧ cl.ws.isSome ∧ cl.state = .connected then
    ({ cl with reqSetTg := 0 }, [.setTg cl.reqSetTg])
  else (cl, [])

def pollQuality (cl : Client) (lossPct : Option Rat) : List Request :=
  -- The quality report when its window ends, unless too few packets came in it.
  if cl.state = .connected ∧ cl.ws.isSome ∧ cl.sessionActive then
    (lossPct.map Request.quality).toList
  else []

def pollConnect (cl : Client) (now : Int) (dialled : Option Nat) : Client :=
  -- `dialled` is the connection that `mg_ws_connect` makes.
  if cl.cfg.enabled ∧ cl.ws = none ∧ cl.state ≠ .stopped ∧ cl.nextReconnectMs ≤ now then
    let connecting := cl.setState .connecting
    match dialled with
    | some c => { connecting with ws := some c, isClosing := false }
    | none =>
        { connecting.setError ("mg_ws_connect to " ++ cl.cfg.reflectorWs ++ " failed") with
          nextReconnectMs := now + cl.cfg.reconnectMinMs }
  else cl

def poll (cl : Client) (now : Int) (lossPct : Option Rat) (dialled : Option Nat) :
    Client × List Request :=
  -- One turn of `bg_main` after the network has been polled.
  let (asked, tgRequest) := cl.pollClearAlarm.pollReconnect.pollSetTg
  (asked.pollConnect now dialled, tgRequest ++ asked.pollQuality lossPct)

end Client

end Kerchunk.Link
