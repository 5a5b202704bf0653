import Kerchunk.Reflectd.Daemon

set_option autoImplicit false

/-!
# Outboxes

What has been sent on a connection stays sent, until the connection is opened
anew.
-/

namespace Kerchunk.Reflectd

open Link (Msg ErrCode Login Request)

def Sends (c : Nat) (before after : State) : Prop :=
  -- On connection `c`, the later state has sent what the earlier one had, and maybe more.
  before.sent c <+: after.sent c

namespace Sends

variable {c : Nat} {r s t : State}

theorem refl (c : Nat) (s : State) : Sends c s s := List.prefix_rfl

theorem trans (first : Sends c r s) (second : Sends c s t) : Sends c r t :=
  List.IsPrefix.trans first second

theorem of_eq (same : t.sent = s.sent) : Sends c s t := by
  simp only [Sends, same, List.prefix_rfl]

theorem foldl {α : Type} {body : State → α → State} (each : ∀ s a, Sends c s (body s a))
    (s : State) (as : List α) : Sends c s (as.foldl body s) := by
  -- A loop of steps that only send only sends.
  induction as generalizing s with
  | nil => exact refl c s
  | cons a rest ih => exact (each s a).trans (ih (body s a))

end Sends

variable (c : Nat) (s : State)

theorem sends_send (d : Nat) (m : Msg) : Sends c s (s.send d m) := by
  unfold Sends State.send
  by_cases at_ : c = d
  · subst at_
    simp
  · simp [at_]

theorem sends_sendThenClose (d : Nat) (m : Msg) : Sends c s (s.sendThenClose d m) :=
  sends_send c s d m

theorem sends_sendNode (k : Nat) (m : Msg) : Sends c s (s.sendNode k m) := by
  unfold State.sendNode
  cases (s.nodeRt k).session with
  | none => exact Sends.refl c s
  | some session => exact sends_send c s session.c m

theorem sends_sendNodes (ks : List Nat) (m : Msg) : Sends c s (s.sendNodes ks m) :=
  Sends.foldl (fun s k => sends_sendNode c s k m) s ks

/-! ## Floor control -/

theorem sends_broadcastTalker (j : Nat) (talker except : Option Nat) :
    Sends c s (broadcastTalker s j talker except) :=
  sends_sendNodes c s _ _

theorem sends_broadcastRosterOf (tg : Nat) : Sends c s (broadcastRosterOf s tg) := by
  unfold broadcastRosterOf
  cases rcfgTgIdx s.cfg tg with
  | none => exact Sends.refl c s
  | some j => exact sends_sendNodes c s _ _

theorem sent_tally (j k : Nat) : (tally s j k).sent = s.sent := by
  unfold tally
  simp only
  split <;> rfl

theorem sends_floorRelease (j : Nat) (reason : Option ErrCode) :
    Sends c s (floorRelease s j reason) := by
  unfold floorRelease
  cases (s.tgRt j).talkerNodeIdx with
  | none => exact Sends.refl c s
  | some k =>
      have idle : Sends c s ((tally s j k).setTg j { talkerNodeIdx := none, leaseExpiresMs := 0 }) :=
        Sends.of_eq (sent_tally s j k)
      have told := idle.trans (sends_broadcastTalker c _ j none none)
      cases reason with
      | none => exact told
      | some code => exact told.trans (sends_sendNode c _ _ _)

theorem sends_floorTryGrant {s granted : State} {j k : Nat}
    (success : floorTryGrant s j k = some granted) : Sends c s granted := by
  unfold floorTryGrant at success
  simp only at success
  split at success
  next => cases success
  next =>
    split at success
    next =>
      cases success
      exact sends_broadcastTalker c (s.setTg j _) j (some k) none
    next =>
      cases success
      exact Sends.refl c s

theorem sends_releaseHeld (k j : Nat) :
    Sends c s (if holds s k j then floorRelease s j none else s) := by
  split
  next => exact sends_floorRelease c s j none
  next => exact Sends.refl c s

theorem sends_floorTick : Sends c s (floorTick s) := by
  refine Sends.foldl (fun s j => ?_) s _
  split
  next => exact sends_floorRelease c s j _
  next => exact Sends.refl c s

theorem sends_keepaliveTick : Sends c s (keepaliveTick s) := by
  unfold Sends keepaliveTick
  simp only
  split <;> simp

/-! ## Messages -/

theorem sends_handleLogin (d : Nat) (body : Login) (draw : LoginDraw) :
    Sends c s (handleLogin s d body draw) := by
  unfold handleLogin
  cases loginCheck s body draw with
  | error denial => exact sends_sendThenClose c s d _
  | ok a =>
      let seated := s.setConn d fun cs => { cs with state := .authenticated a.nodeIdx }
      let online :=
        (seated.setNode a.nodeIdx fun n => n.login s d body.clientVersion a).note (.login a.nodeIdx)
      have welcomed : Sends c s (online.send d (.loginOk (loginOk online body a))) :=
        sends_send c online d _
      exact welcomed.trans (sends_broadcastRosterOf c _ a.tg)

theorem sends_releaseOldTg (k tg : Nat) : Sends c s (releaseOldTg s k tg) := by
  unfold releaseOldTg
  simp only
  split
  next =>
    cases rcfgTgIdx s.cfg (s.nodeRt k).curTg with
    | none => exact Sends.refl c s
    | some j => exact sends_releaseHeld c s k j
  next => exact Sends.refl c s

theorem sends_handleSetTg (d k : Nat) (tg : Int) : Sends c s (handleSetTg s d k tg) := by
  unfold handleSetTg
  cases setTgCheck s k tg with
  | error code => exact sends_send c s d _
  | ok j =>
      let moved := (releaseOldTg s k tg.toNat).setNode k fun n => { n with curTg := tg.toNat }
      have told : Sends c s (moved.send d (.tgOk tg.toNat (s.cfg.tgName j))) :=
        (sends_releaseOldTg c s k tg.toNat).trans (sends_send c moved d _)
      simp only [switchTg]
      split
      next =>
        exact (told.trans (sends_broadcastRosterOf c _ _)).trans (sends_sendNodes c _ _ _)
      next => exact told.trans (sends_sendNodes c _ _ _)

theorem sends_handleQuality (d k : Nat) (lossPct : Rat) : Sends c s (handleQuality s d k lossPct) := by
  have bitrate : ∀ t, Sends c t (suggestBitrate t k lossPct) := by
    intro t
    unfold suggestBitrate
    cases rcfgTgIdx t.cfg (t.nodeRt k).curTg with
    | none => exact Sends.refl c t
    | some j => exact sends_sendNodes c t _ _
  unfold handleQuality
  simp only
  refine Sends.trans ?_ (bitrate _)
  split
  next => exact sends_send c (muteNode _ k "loss_too_high") d _
  next => exact Sends.refl c s

theorem sends_handleSimulateTalkStart (d k : Nat) :
    Sends c s (handleSimulateTalkStart s d k) := by
  unfold handleSimulateTalkStart
  cases rcfgTgIdx s.cfg (s.nodeRt k).curTg with
  | none => exact Sends.refl c s
  | some j =>
      simp only
      split
      next success => exact sends_floorTryGrant c success
      next => exact sends_send c s d _

theorem sends_handleAuthenticated (d k : Nat) (request : Request) :
    Sends c s (handleAuthenticated s d k request) := by
  cases request with
  | ping seq => exact sends_send c s d _
  | setTg tg => exact sends_handleSetTg c s d k tg
  | quality lossPct => exact sends_handleQuality c s d k lossPct
  | simulateTalkStart => exact sends_handleSimulateTalkStart c s d k
  | simulateTalkEnd =>
      simp only [handleAuthenticated, handleSimulateTalkEnd]
      cases rcfgTgIdx s.cfg (s.nodeRt k).curTg with
      | none => exact Sends.refl c s
      | some j => exact sends_releaseHeld c s k j
  | untyped | login | pong | unhandled => exact Sends.refl c s

theorem sends_handleUntyped (d : Nat) (cs : Conn) : Sends c s (handleUntyped s d cs) := by
  unfold handleUntyped
  simp only
  split
  next => exact sends_sendThenClose c (s.setConn d _) d _
  next => exact sends_send c (s.setConn d _) d _

theorem sends_handleMessage (d : Nat) (cs : Conn) (request : Request) (draw : LoginDraw) :
    Sends c s (handleMessage s d cs request draw) := by
  have heard : Sends c s (s.setConn d fun cs => cs.heard s.nowMs) := Sends.refl c s
  refine heard.trans ?_
  unfold handleMessage
  cases cs.state with
  | awaitingLogin =>
      cases request with
      | untyped => exact sends_handleUntyped c _ d cs
      | login body => exact sends_handleLogin c _ d body draw
      | _ => exact sends_sendThenClose c _ d _
  | authenticated k =>
      cases request with
      | untyped => exact sends_handleUntyped c _ d cs
      | login body => exact sends_sendThenClose c _ d _
      | _ => exact sends_handleAuthenticated c _ d k _

theorem sends_receive (d : Nat) (frame : Frame) (draw : LoginDraw) :
    Sends c s (receive s d frame draw) := by
  unfold receive
  cases s.conns d with
  | none => exact Sends.refl c s
  | some cs =>
      simp only
      split
      next => exact sends_sendThenClose c s d _
      next => exact sends_handleMessage c s d cs frame.request draw

/-! ## Audio -/

theorem sends_authFailure (src : Nat) : Sends c s (authFailure s src) := by
  unfold authFailure
  split
  next => exact Sends.refl c s
  next =>
    simp only
    split
    next =>
      split
      next => exact sends_sendThenClose c (s.setNode _ _) _ _
      next => exact Sends.refl c s
    next => exact Sends.refl c s

theorem sends_fanOut (j sender : Nat) (p : RtpPacket) (delivers : Nat → Bool) :
    Sends c s (fanOut s j sender p delivers) := by
  refine Sends.foldl (fun s peer => ?_) s _
  split
  next => exact Sends.refl c s
  next => exact Sends.refl c s

theorem sends_acceptAudio (k : Nat) (p : RtpPacket) (d : Datagram) :
    Sends c s (acceptAudio s k p d) := by
  unfold acceptAudio
  split
  next => exact Sends.refl c s
  next =>
    cases rcfgTgIdx s.cfg (s.nodeRt k).curTg with
    | none => exact Sends.refl c s
    | some j =>
        simp only
        split
        next =>
          unfold denyFloor
          repeat' split
          next session _ => exact sends_send c s session.c _
          all_goals exact Sends.refl c s
        next granted success =>
          have held : Sends c s granted := sends_floorTryGrant c success
          exact held.trans (sends_fanOut c (granted.setNode k _) j k p d.delivers)

theorem sends_audioPacket (d : Datagram) : Sends c s (audioPacket s d) := by
  unfold audioPacket
  split
  next =>
    split
    next => exact sends_authFailure c s d.src
    next k p _ =>
      simp only
      split
      next => exact Sends.refl c s
      next => exact sends_acceptAudio c (s.setNode k _) k p d
  next => exact Sends.refl c s

/-! ## Operators, reload and close -/

theorem sends_admin (nodeId : Option String) (action : NodeAction) :
    Sends c s (adminNodeAction s nodeId action).1 := by
  unfold adminNodeAction
  cases nodeId with
  | none => exact Sends.refl c s
  | some id =>
      simp only
      cases rcfgNodeIdx s.cfg id with
      | none => exact Sends.refl c s
      | some k =>
          cases action with
          | kick reason =>
              simp only [actOnNode]
              split
              next session _ => exact sends_sendThenClose c s session.c _
              next => exact Sends.refl c s
          | mute retryInS => exact sends_sendNode c (muteNode s k "admin_action") k _
          | unmute => exact sends_sendNode c (s.setNode k _) k _

theorem sends_adminReleaseFloor (tg : Int) : Sends c s (adminReleaseFloor s tg).1 := by
  unfold adminReleaseFloor
  cases rcfgTgIdx s.cfg (tg % 65536).toNat with
  | none => exact Sends.refl c s
  | some j => exact sends_floorRelease c s j _

theorem sends_doReload (loaded : Option Rcfg) : Sends c s (doReload s loaded) := by
  cases loaded with
  | none => exact Sends.refl c s
  | some newcfg =>
      have each : ∀ s i, Sends c s (reloadNode newcfg s i) := by
        intro s i
        unfold reloadNode
        simp only
        cases (s.nodeRt i).session with
        | none => exact Sends.refl c s
        | some session =>
            cases rcfgNodeIdx newcfg (s.cfg.nodeId i) with
            | none => exact sends_sendThenClose c s session.c _
            | some newIdx =>
                simp only
                split
                next => exact Sends.refl c s
                next => exact sends_send c s session.c _
      exact Sends.foldl each s (List.range s.cfg.nodes.length)

theorem sends_closeConn (d : Nat) : Sends c s (closeConn s d) := by
  unfold closeConn
  cases s.conns d with
  | none => exact Sends.refl c s
  | some cs =>
      cases nodeIdx : cs.nodeIdx with
      | none =>
          simp only [nodeIdx, Option.map_none, Option.getD_none]
          exact Sends.refl c s
      | some k =>
          have released : Sends c s (releaseAllOf s k) :=
            Sends.foldl (fun s j => sends_releaseHeld c s k j) s _
          have left : Sends c s (leaveNode s k) :=
            released.trans (sends_broadcastRosterOf c ((releaseAllOf s k).setNode k _) _)
          simp only [nodeIdx, Option.map_some, Option.getD_some]
          exact left

theorem sends_sendHello (d : Nat) (challenge : Option (List Nat)) :
    Sends c s (sendHello s d challenge) := by
  unfold sendHello
  cases challenge with
  | none => exact sends_sendThenClose c s d _
  | some bytes => exact sends_send c (s.setConn d _) d _

theorem sends_openConn {d : Nat} (other : c ≠ d) (challenge : Option (List Nat)) :
    Sends c s (openConn s d challenge) := by
  unfold openConn
  cases s.conns d with
  | some cs => exact Sends.refl c s
  | none =>
      have opened : Sends c s { s with
          conns := Function.update s.conns d (some Conn.fresh)
          sent := Function.update s.sent d [] } := by simp [Sends, other]
      exact opened.trans (sends_sendHello c _ d challenge)

theorem sends_step (timed : Moment × Event) (notOpen : ∀ challenge, timed.2 ≠ .wsOpen c challenge) :
    Sends c s (step s timed) := by
  obtain ⟨m, e⟩ := timed
  have clock : Sends c s (s.at m) := Sends.refl c s
  refine clock.trans ?_
  cases e with
  | wsOpen d challenge =>
      have other : c ≠ d := by
        rintro rfl
        exact notOpen challenge rfl
      exact sends_openConn c _ other challenge
  | wsMsg d frame draw => exact sends_receive c _ d frame draw
  | close d => exact sends_closeConn c _ d
  | datagram d => exact sends_audioPacket c _ d
  | floorTick => exact sends_floorTick c _
  | keepaliveTick => exact sends_keepaliveTick c _
  | reload loaded => exact sends_doReload c _ loaded
  | admin nodeId action => exact sends_admin c _ nodeId action
  | adminReleaseFloor tg => exact sends_adminReleaseFloor c _ tg

end Kerchunk.Reflectd
