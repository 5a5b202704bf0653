import Kerchunk.Reflectd.Floor

set_option autoImplicit false

/-!
# Message handlers, admin actions, reload and close (`src/reflectd/main.c`)
-/

namespace Kerchunk.Reflectd

open Link (Msg ErrCode Login LoginOk Request)

/-! ## Login -/

def sendHello (s : State) (c : Nat) (challenge : Option (List Nat)) : State :=
  -- `none` when `RAND_bytes` fails.
  match challenge with
  | none => s.sendThenClose c (.error .internal "RAND_bytes")
  | some bytes =>
      let drawn := s.setConn c fun cs => { cs with challenge := bytes }
      (drawn.send c (.hello bytes "reflectd 0.7.0" s.cfg.minClientVersion Link.protoVersion)).setConn
        c fun cs => { cs with state := .awaitingLogin, lastTrafficMs := s.nowMs }

def stripName (version : List Char) : List Char :=
  if "kerchunk ".toList.isPrefixOf version then version.drop 9 else version

def versionAtLeast (clientVer : Option String) (minVer : String) : Bool :=
  -- `version_at_least` is not negative: the compare is lexical, and no minimum accepts all.
  if minVer = "" then true
  else
    match clientVer with
    | none => false
    | some version => !decide (stripName version.toList < stripName minVer.toList)

def isHexDigit (ch : Char) : Bool :=
  ('0' ≤ ch && ch ≤ '9') || ('a' ≤ ch && ch ≤ 'f') || ('A' ≤ ch && ch ≤ 'F')

def isHexOf (bytes : Nat) (text : String) : Bool :=
  text.toList.length = 2 * bytes && text.toList.all isHexDigit

structure SrtpMaterial where
  masterKey : List Nat
  masterSalt : List Nat
  nodeSsrc : Nat
  reflSsrc : Nat

/-- What OpenSSL and libsrtp answer during a login: whether the HMAC of the node's key over
challenge and nonce is the claimed one, the session keys unless `RAND_bytes` fails, and the first
sequence number and timestamp of the SRTP session unless its creation fails. -/
structure LoginDraw where
  hmacMatches : Bool
  srtp : Option SrtpMaterial
  rtpStart : Option (Nat × Nat)

structure Admission where
  nodeIdx : Nat
  tg : Nat
  srtp : SrtpMaterial
  audio : AudioNode

abbrev Denial := ErrCode × String

def refuse (cond : Bool) (code : ErrCode) (msg : String) : Except Denial Unit :=
  if cond then .error (code, msg) else .ok ()

def require {α : Type} (found : Option α) (code : ErrCode) (msg : String) : Except Denial α :=
  match found with
  | some a => .ok a
  | none => .error (code, msg)

def loginCheck (s : State) (body : Login) (draw : LoginDraw) : Except Denial Admission := do
  let nodeId ← require body.nodeId .protocolError "missing field"
  let keyHmac ← require body.keyHmac .protocolError "missing field"
  let nonce ← require body.nonce .protocolError "missing field"
  let idx ← require (rcfgNodeIdx s.cfg nodeId) .unknownNode "no such node"
  refuse (s.cfg.banned idx) .banned "operator-banned"
  refuse (s.nodeRt idx).connected .nodeBusy "already connected"
  refuse (!versionAtLeast body.clientVersion s.cfg.minClientVersion) .versionMismatch
    "client below min_client_version"
  refuse (!(isHexOf Link.nonceBytes nonce && isHexOf Link.hmacBytes keyHmac)) .protocolError
    "bad nonce/hmac"
  refuse (!draw.hmacMatches) .badKey "HMAC mismatch"
  let tg := s.cfg.initialTg idx
  refuse (!rcfgNodeAllowedOnTg s.cfg idx tg) .notAuthorized "no usable default talkgroup"
  let srtp ← require draw.srtp .internal "RAND_bytes"
  let (outSeq, outTs) ← require draw.rtpStart .internal "srtp setup"
  return {
    nodeIdx := idx
    tg := tg
    srtp := srtp
    audio :=
      { nodeSsrc := srtp.nodeSsrc, reflectorSsrc := srtp.reflSsrc
        outSeq := outSeq, outTs := outTs, rtpAddr := none } }

theorem require_bind {α β : Type} {found : Option α} {code : ErrCode} {msg : String}
    {next : α → Except Denial β} {b : β} :
    (require found code msg >>= next) = .ok b ↔ ∃ a, found = some a ∧ next a = .ok b := by
  cases found <;> simp [require, bind, Except.bind]

theorem refuse_bind {β : Type} {cond : Bool} {code : ErrCode} {msg : String}
    {next : Unit → Except Denial β} {b : β} :
    (refuse cond code msg >>= next) = .ok b ↔ cond = false ∧ next () = .ok b := by
  cases cond <;> simp [refuse, bind, Except.bind]

theorem loginCheck_ok {s : State} {body : Login} {draw : LoginDraw} {a : Admission}
    (accepted : loginCheck s body draw = .ok a) :
    a.nodeIdx < s.cfg.nodes.length ∧ body.nodeId.getD "" = s.cfg.nodeId a.nodeIdx ∧
      (s.nodeRt a.nodeIdx).session = none ∧ s.cfg.banned a.nodeIdx = false ∧
      rcfgNodeAllowedOnTg s.cfg a.nodeIdx a.tg = true := by
  -- What an accepted login was checked for.
  simp only [loginCheck, require_bind, refuse_bind] at accepted
  obtain ⟨nodeId, named, _, _, _, _, idx, found, notBanned, free, _, _, _, may, _, _, start, _, done⟩ :=
    accepted
  cases done
  obtain ⟨configured, same⟩ := rcfgNodeIdx_some found
  exact ⟨configured, by simp [named, same], by simpa [NodeRt.connected] using free, notBanned,
    by simpa using may⟩

theorem loginCheck_node {s : State} {body : Login} {draw : LoginDraw} {a : Admission}
    (accepted : loginCheck s body draw = .ok a) :
    ∃ nodeId, body.nodeId = some nodeId ∧ rcfgNodeIdx s.cfg nodeId = some a.nodeIdx := by
  simp only [loginCheck, require_bind, refuse_bind] at accepted
  obtain ⟨nodeId, named, _, _, _, _, idx, found, _, _, _, _, _, _, _, _, _, _, done⟩ := accepted
  cases done
  exact ⟨nodeId, named, found⟩

def NodeRt.login (n : NodeRt) (s : State) (c : Nat) (clientVersion : Option String)
    (a : Admission) : NodeRt :=
  { n with
    session := some { c := c, audio := a.audio }
    curTg := a.tg
    connectedAt := s.time
    lastPktAt := s.nowMs
    rtpIn := 0
    rtpOut := 0
    bytesIn := 0
    bytesOut := 0
    floorHolds := 0
    floorMs := 0
    lastLossPct := 0
    lossHistN := 0
    lossHist := List.replicate lossHistLen 0
    -- The reason is cleared, but `muted` is not.
    muteReason := ""
    clientVersion := clientVersion.getD "" }

def loginOk (s : State) (body : Login) (a : Admission) : LoginOk where
  nodeId := body.nodeId.getD ""
  talkgroup := a.tg
  keepaliveS := s.cfg.keepaliveS
  hangtimeMs := s.cfg.hangtimeMs
  proto := Link.protoVersion
  rtpHost := s.cfg.rtpAdvertiseHost
  rtpPort := s.cfg.rtpPort
  srtpMasterKey := a.srtp.masterKey
  srtpMasterSalt := a.srtp.masterSalt
  ssrc := a.srtp.nodeSsrc
  reflectorSsrc := a.srtp.reflSsrc
  tgMembers := ((rcfgTgIdx s.cfg a.tg).map (buildTgMembers s)).getD []

def broadcastRosterOf (s : State) (tg : Nat) : State :=
  match rcfgTgIdx s.cfg tg with
  | some tgIdx => broadcastTgRoster s tgIdx
  | none => s

def signOn (s : State) (c : Nat) (body : Login) (a : Admission) : State :=
  let seated := s.setConn c fun cs => { cs with state := .authenticated a.nodeIdx }
  let online :=
    (seated.setNode a.nodeIdx fun n => n.login s c body.clientVersion a).note (.login a.nodeIdx)
  broadcastRosterOf (online.send c (.loginOk (loginOk online body a))) a.tg

def handleLogin (s : State) (c : Nat) (body : Login) (draw : LoginDraw) : State :=
  match loginCheck s body draw with
  | .error (code, msg) => s.sendLoginDenied c code msg
  | .ok a => signOn s c body a

/-! ## Messages of an authenticated connection -/

def setTgCheck (s : State) (nodeIdx : Nat) (tg : Int) : Except ErrCode Nat :=
  if tg ≤ 0 ∨ 65535 < tg then .error .protocolError
  else
    match rcfgTgIdx s.cfg tg.toNat with
    | none => .error .unknownTg
    | some tgIdx =>
        if rcfgNodeAllowedOnTg s.cfg nodeIdx tg.toNat then .ok tgIdx else .error .notAuthorized

theorem setTgCheck_ok {s : State} {k j : Nat} {tg : Int} (accepted : setTgCheck s k tg = .ok j) :
    rcfgTgIdx s.cfg tg.toNat = some j ∧ rcfgNodeAllowedOnTg s.cfg k tg.toNat = true := by
  unfold setTgCheck at accepted
  split at accepted
  next => cases accepted
  next =>
    cases found : rcfgTgIdx s.cfg tg.toNat with
    | none => simp [found] at accepted
    | some i =>
        simp only [found] at accepted
        split at accepted
        next may =>
          cases accepted
          exact ⟨rfl, may⟩
        next => cases accepted

def holds (s : State) (nodeIdx tgIdx : Nat) : Bool :=
  (s.tgRt tgIdx).talkerNodeIdx = some nodeIdx

def releaseOldTg (s : State) (nodeIdx tg : Nat) : State :=
  -- Release the floor that the node holds on the talkgroup it is about to leave.
  let oldTg := (s.nodeRt nodeIdx).curTg
  if oldTg ≠ 0 ∧ oldTg ≠ tg then
    match rcfgTgIdx s.cfg oldTg with
    | some oldTgIdx => if holds s nodeIdx oldTgIdx then floorRelease s oldTgIdx none else s
    | none => s
  else s

def switchTg (s : State) (c nodeIdx tg tgIdx : Nat) : State :=
  let oldTg := (s.nodeRt nodeIdx).curTg
  let moved := (releaseOldTg s nodeIdx tg).setNode nodeIdx fun n => { n with curTg := tg }
  let told := moved.send c (.tgOk tg (s.cfg.tgName tgIdx))
  let left := if oldTg ≠ 0 ∧ oldTg ≠ tg then broadcastRosterOf told oldTg else told
  broadcastTgRoster left tgIdx

def handleSetTg (s : State) (c nodeIdx : Nat) (tg : Int) : State :=
  match setTgCheck s nodeIdx tg with
  | .error code => s.send c (.tgDenied tg code)
  | .ok tgIdx => switchTg s c nodeIdx tg.toNat tgIdx

def NodeRt.reportLoss (n : NodeRt) (time : Int) (lossPct : Rat) : NodeRt :=
  { n with
    lastLossPct := lossPct
    lastQualityAt := time
    lossHist := n.lossHist.drop 1 ++ [lossPct]
    lossHistN := if n.lossHistN < lossHistLen * 2 then n.lossHistN + 1 else n.lossHistN }

def NodeRt.tripsMute (n : NodeRt) (thresholdPct : Int) : Bool :=
  -- Enough of the last reports are over the threshold.
  !n.muted && decide (lossHistLen ≤ n.lossHistN) &&
    decide (lossHistTrip ≤ n.lossHist.countP fun loss => decide ((thresholdPct : Rat) < loss))

def mutesSender (s : State) (nodeIdx : Nat) (lossPct : Rat) : Bool :=
  -- Whether a loss report mutes the node that sends it.
  ((s.nodeRt nodeIdx).reportLoss s.time lossPct).tripsMute s.cfg.muteThresholdPct

def muteNode (s : State) (nodeIdx : Nat) (reason : String) : State :=
  s.setNode nodeIdx fun n => { n with muted := true, muteReason := reason }

def suggestBitrate (s : State) (nodeIdx : Nat) (lossPct : Rat) : State :=
  match rcfgTgIdx s.cfg (s.nodeRt nodeIdx).curTg with
  | none => s
  | some tgIdx =>
      s.sendNodes (s.cfg.members tgIdx) (.targetBitrate (if 5 < lossPct then 24000 else 32000))

def handleQuality (s : State) (c nodeIdx : Nat) (lossPct : Rat) : State :=
  let reported := s.setNode nodeIdx fun n => n.reportLoss s.time lossPct
  let judged :=
    if mutesSender s nodeIdx lossPct then
      (muteNode reported nodeIdx "loss_too_high").send c (.mute "loss_too_high" 60)
    else reported
  suggestBitrate judged nodeIdx lossPct

def handleSimulateTalkStart (s : State) (c nodeIdx : Nat) : State :=
  match rcfgTgIdx s.cfg (s.nodeRt nodeIdx).curTg with
  | none => s
  | some tgIdx =>
      match floorTryGrant s tgIdx nodeIdx with
      | some granted => granted
      | none => sendFloorDenied s c tgIdx

def handleSimulateTalkEnd (s : State) (nodeIdx : Nat) : State :=
  match rcfgTgIdx s.cfg (s.nodeRt nodeIdx).curTg with
  | none => s
  | some tgIdx => if holds s nodeIdx tgIdx then floorRelease s tgIdx none else s

/-! ## Dispatch -/

def Conn.heard (cs : Conn) (nowMs : Int) : Conn :=
  { cs with lastTrafficMs := nowMs, waitingPong := false }

def Conn.countBadMsg (cs : Conn) (nowMs : Int) : Conn :=
  -- Count a message without a type in its window of a minute.
  if 60000 < nowMs - cs.badMsgWindowStartMs then
    { cs with badMsgWindowStartMs := nowMs, badMsgCount := 1 }
  else { cs with badMsgCount := cs.badMsgCount + 1 }

def handleUntyped (s : State) (c : Nat) (cs : Conn) : State :=
  let counted := s.setConn c fun cs => cs.countBadMsg s.nowMs
  if 3 < (cs.countBadMsg s.nowMs).badMsgCount then
    counted.sendKicked c .protocolError "too many malformed messages"
  else counted.send c (.error .protocolError "no type")

def handleAuthenticated (s : State) (c nodeIdx : Nat) : Request → State
  | .ping seq => s.send c (.pong seq)
  | .setTg tg => handleSetTg s c nodeIdx tg
  | .quality lossPct => handleQuality s c nodeIdx lossPct
  | .simulateTalkStart => handleSimulateTalkStart s c nodeIdx
  | .simulateTalkEnd => handleSimulateTalkEnd s nodeIdx
  | _ => s

def handleMessage (s : State) (c : Nat) (cs : Conn) (request : Request) (draw : LoginDraw) : State :=
  let heard := s.setConn c fun cs => cs.heard s.nowMs
  match request, cs.state with
  | .untyped, _ => handleUntyped heard c cs
  | .login _, .authenticated _ => heard.sendLoginDenied c .protocolError "duplicate login"
  | .login body, .awaitingLogin => handleLogin heard c body draw
  | _, .awaitingLogin => heard.sendThenClose c (.error .protocolError "not authed")
  | request, .authenticated nodeIdx => handleAuthenticated heard c nodeIdx request

/-! ## Admin actions -/

inductive HttpReply where
  | ok
  | missingNodeId
  | unknownNode
  | unknownTg
deriving DecidableEq

inductive NodeAction where
  | kick (reason : Option String)
  | mute (retryInS : Int)
  | unmute

def actOnNode (s : State) (idx : Nat) : NodeAction → State
  | .kick reason =>
      match (s.nodeRt idx).session with
      | some session => s.sendKicked session.c .adminAction (reason.getD "operator kick")
      | none => s
  | .mute retryInS =>
      (muteNode s idx "admin_action").sendNode idx (.mute "admin_action" retryInS)
  | .unmute =>
      (s.setNode idx fun n => { n with muted := false, muteReason := "" }).sendNode idx .unmute

def adminNodeAction (s : State) (nodeId : Option String) (action : NodeAction) :
    State × HttpReply :=
  match nodeId with
  | none => (s, .missingNodeId)
  | some id =>
      match rcfgNodeIdx s.cfg id with
      | none => (s, .unknownNode)
      | some idx => (actOnNode s idx action, .ok)

def adminReleaseFloor (s : State) (tg : Int) : State × HttpReply :=
  -- The number is cast to `uint16_t`.
  match rcfgTgIdx s.cfg (tg % 65536).toNat with
  | none => (s, .unknownTg)
  | some tgIdx => (floorRelease s tgIdx (some .adminAction), .ok)

/-! ## Reload and close -/

/-- Kick a connected node that the new configuration lacks; move one off a talkgroup that it may no
longer use. -/
def reloadNode (newcfg : Rcfg) (s : State) (i : Nat) : State :=
  let n := s.nodeRt i
  match n.session, rcfgNodeIdx newcfg (s.cfg.nodeId i) with
  | none, _ => s
  | some session, none => s.sendKicked session.c .configReload "node removed from config"
  | some session, some newIdx =>
      if rcfgNodeAllowedOnTg newcfg newIdx n.curTg then s
      else
        let newTg := newcfg.initialTg newIdx
        (s.send session.c (.tgMembershipChanged n.curTg newTg)).setNode i fun n =>
          { n with curTg := newTg }

def doReload (s : State) (loaded : Option Rcfg) : State :=
  -- `none` when the file does not load. The runtime tables keep their places.
  match loaded with
  | none => s
  | some newcfg =>
      let told := (List.range s.cfg.nodes.length).foldl (reloadNode newcfg) s
      { told with cfg := newcfg, reloadCount := s.reloadCount + 1, lastReloadAt := s.time }

def releaseAllOf (s : State) (nodeIdx : Nat) : State :=
  (List.range s.cfg.tgs.length).foldl (fun s tgIdx =>
    if holds s nodeIdx tgIdx then floorRelease s tgIdx none else s) s

def leaveNode (s : State) (nodeIdx : Nat) : State :=
  let released := releaseAllOf s nodeIdx
  let gone := released.setNode nodeIdx fun n =>
    { n with session := none, connectedAt := 0, muted := false, muteReason := "" }
  broadcastRosterOf gone (s.nodeRt nodeIdx).curTg

def closeConn (s : State) (c : Nat) : State :=
  match s.conns c with
  | none => s
  | some cs =>
      let left := (cs.nodeIdx.map (leaveNode s)).getD s
      { left with conns := Function.update left.conns c none }

end Kerchunk.Reflectd
