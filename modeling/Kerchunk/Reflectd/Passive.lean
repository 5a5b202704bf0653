import Kerchunk.Reflectd.Daemon

set_option autoImplicit false

/-!
# What few handlers touch

A connection's keepalive and login look at its lifeline, and the muting of a node for loss at its
standing. What leaves both alone is shown once, for any relation between the states before and after.
-/

namespace Kerchunk.Reflectd

open Link (Msg ErrCode Login Request)

@[ext] structure Lifeline where
  challenge : List Nat
  lastTrafficMs : Int
  lastPingMs : Int
  waitingPong : Bool
  isClosing : Bool

def Conn.lifeline (cs : Conn) : Lifeline where
  challenge := cs.challenge
  lastTrafficMs := cs.lastTrafficMs
  lastPingMs := cs.lastPingMs
  waitingPong := cs.waitingPong
  isClosing := cs.isClosing

structure Standing where
  lossHist : List Rat
  lossHistN : Nat
  muted : Bool

def NodeRt.standing (n : NodeRt) : Standing where
  lossHist := n.lossHist
  lossHistN := n.lossHistN
  muted := n.muted

/-- A relation that only a change of a lifeline, of a standing or of the clock can break, or a connection
that stops draining. -/
structure Passive (R : State → State → Prop) : Prop where
  refl (s : State) : R s s
  trans {r s t : State} : R r s → R s t → R r t
  send (s : State) (c : Nat) (m : Msg) : R s (s.send c m)
  note (s : State) (n : Note) : R s (s.note n)
  setTg (s : State) (j : Nat) (t : TgRt) : R s (s.setTg j t)
  setConn (s : State) (c : Nat) {change : Conn → Conn} (keeps : ∀ cs, (change cs).lifeline = cs.lifeline)
    (drains : ∀ cs, cs.isDraining = true → (change cs).isDraining = true) : R s (s.setConn c change)
  setNode (s : State) (k : Nat) {change : NodeRt → NodeRt}
    (keeps : ∀ n, (change n).standing = n.standing) : R s (s.setNode k change)
  reconfigured (s : State) (cfg : Rcfg) (count : Nat) (time : Int) :
    R s { s with cfg := cfg, reloadCount := count, lastReloadAt := time }

namespace Passive

variable {R : State → State → Prop} (passive : Passive R) (s : State)

include passive

theorem foldl {α : Type} {body : State → α → State} (each : ∀ s a, R s (body s a)) (as : List α) :
    R s (as.foldl body s) := by
  induction as generalizing s with
  | nil => exact passive.refl s
  | cons a rest ih => exact passive.trans (each s a) (ih (body s a))

theorem sendThenClose (c : Nat) (m : Msg) : R s (s.sendThenClose c m) :=
  passive.trans (passive.send s c m) (passive.setConn _ c (fun _ => rfl) fun _ _ => rfl)

theorem sendNode (k : Nat) (m : Msg) : R s (s.sendNode k m) := by
  unfold State.sendNode
  cases (s.nodeRt k).session with
  | none => exact passive.refl s
  | some session => exact passive.send s session.c m

theorem sendNodes (ks : List Nat) (m : Msg) : R s (s.sendNodes ks m) :=
  passive.foldl s (fun s k => passive.sendNode s k m) ks

/-! ## Floor control -/

theorem broadcastTalker (j : Nat) (talker except : Option Nat) :
    R s (Reflectd.broadcastTalker s j talker except) :=
  passive.trans (passive.sendNodes s _ _) (passive.note _ _)

theorem broadcastRosterOf (tg : Nat) : R s (Reflectd.broadcastRosterOf s tg) := by
  unfold Reflectd.broadcastRosterOf
  cases rcfgTgIdx s.cfg tg with
  | none => exact passive.refl s
  | some j => exact passive.sendNodes s _ _

theorem tally (j k : Nat) : R s (Reflectd.tally s j k) := by
  unfold Reflectd.tally
  simp only
  split
  next =>
    refine passive.trans (passive.setNode s k ?_) (passive.note _ _)
    exact fun _ => rfl
  next => exact passive.refl s

theorem floorRelease (j : Nat) (reason : Option ErrCode) : R s (Reflectd.floorRelease s j reason) := by
  unfold Reflectd.floorRelease
  cases (s.tgRt j).talkerNodeIdx with
  | none => exact passive.refl s
  | some k =>
      have idle := passive.trans (passive.tally s j k)
        (passive.setTg _ j { talkerNodeIdx := none, leaseExpiresMs := 0 })
      have told := passive.trans idle (passive.broadcastTalker _ j none none)
      cases reason with
      | none => exact told
      | some code => exact passive.trans told (passive.sendNode _ _ _)

theorem floorTryGrant {s granted : State} {j k : Nat}
    (success : Reflectd.floorTryGrant s j k = some granted) : R s granted := by
  unfold Reflectd.floorTryGrant at success
  simp only at success
  split at success
  next => cases success
  next =>
    have held := passive.setTg s j
      { talkerNodeIdx := some k, leaseExpiresMs := s.nowMs + s.cfg.hangtimeMs }
    split at success
    next =>
      cases success
      exact passive.trans (passive.trans held (passive.broadcastTalker _ j (some k) none))
        (passive.setNode _ k fun _ => rfl)
    next =>
      cases success
      exact held

theorem releaseHeld (k j : Nat) : R s (if holds s k j then Reflectd.floorRelease s j none else s) := by
  split
  next => exact passive.floorRelease s j none
  next => exact passive.refl s

theorem floorTick : R s (Reflectd.floorTick s) := by
  refine passive.foldl s (fun s j => ?_) _
  split
  next => exact passive.floorRelease s j _
  next => exact passive.refl s

/-! ## Messages -/

theorem releaseOldTg (k tg : Nat) : R s (Reflectd.releaseOldTg s k tg) := by
  unfold Reflectd.releaseOldTg
  simp only
  split
  next =>
    cases rcfgTgIdx s.cfg (s.nodeRt k).curTg with
    | none => exact passive.refl s
    | some j => exact passive.releaseHeld s k j
  next => exact passive.refl s

theorem handleSetTg (c k : Nat) (tg : Int) : R s (Reflectd.handleSetTg s c k tg) := by
  unfold Reflectd.handleSetTg
  cases setTgCheck s k tg with
  | error code => exact passive.send s c _
  | ok j =>
      have moved : R s ((Reflectd.releaseOldTg s k tg.toNat).setNode k fun n => { n with curTg := tg.toNat }) :=
        passive.trans (passive.releaseOldTg s k tg.toNat) (passive.setNode _ k fun _ => rfl)
      have told := passive.trans moved (passive.send _ c (.tgOk tg.toNat (s.cfg.tgName j)))
      simp only [switchTg]
      split
      next => exact passive.trans (passive.trans told (passive.broadcastRosterOf _ _)) (passive.sendNodes _ _ _)
      next => exact passive.trans told (passive.sendNodes _ _ _)

theorem suggestBitrate (k : Nat) (lossPct : Rat) : R s (Reflectd.suggestBitrate s k lossPct) := by
  unfold Reflectd.suggestBitrate
  cases rcfgTgIdx s.cfg (s.nodeRt k).curTg with
  | none => exact passive.refl s
  | some j => exact passive.sendNodes s _ _

theorem handleSimulateTalkStart (c k : Nat) : R s (Reflectd.handleSimulateTalkStart s c k) := by
  unfold Reflectd.handleSimulateTalkStart
  cases rcfgTgIdx s.cfg (s.nodeRt k).curTg with
  | none => exact passive.refl s
  | some j =>
      simp only
      split
      next success => exact passive.floorTryGrant success
      next => exact passive.send s c _

theorem handleAuthenticated (c k : Nat) {request : Request} (quiet : ∀ lossPct, request ≠ .quality lossPct) :
    R s (Reflectd.handleAuthenticated s c k request) := by
  cases request with
  | setTg tg => exact passive.handleSetTg s c k tg
  | quality lossPct => exact absurd rfl (quiet lossPct)
  | simulateTalkStart => exact passive.handleSimulateTalkStart s c k
  | simulateTalkEnd =>
      simp only [Reflectd.handleAuthenticated, handleSimulateTalkEnd]
      cases rcfgTgIdx s.cfg (s.nodeRt k).curTg with
      | none => exact passive.refl s
      | some j => exact passive.releaseHeld s k j
  | ping seq => exact passive.send s c _
  | untyped | login | pong | unhandled => exact passive.refl s

theorem handleUntyped (c : Nat) (cs : Conn) : R s (Reflectd.handleUntyped s c cs) := by
  have counted : R s (s.setConn c fun cs => cs.countBadMsg s.nowMs) := by
    refine passive.setConn s c (fun cs => ?_) fun cs drains => ?_
    next =>
      unfold Conn.countBadMsg
      split <;> rfl
    next =>
      unfold Conn.countBadMsg
      split <;> exact drains
  unfold Reflectd.handleUntyped
  simp only
  split
  next => exact passive.trans counted (passive.sendThenClose _ c _)
  next => exact passive.trans counted (passive.send _ c _)

/-- What is not a loss report and logs nobody in. -/
theorem handleMessage (c : Nat) {cs : Conn} {request : Request} {draw : LoginDraw}
    (quiet : ∀ lossPct, request ≠ .quality lossPct)
    (refused : ∀ body, request = .login body → cs.state = .awaitingLogin →
      R (s.setConn c fun cs => cs.heard s.nowMs) (handleLogin (s.setConn c fun cs => cs.heard s.nowMs) c body draw)) :
    R (s.setConn c fun cs => cs.heard s.nowMs) (Reflectd.handleMessage s c cs request draw) := by
  unfold Reflectd.handleMessage
  cases state : cs.state with
  | awaitingLogin =>
      cases request with
      | untyped => exact passive.handleUntyped _ c cs
      | login body => exact refused body rfl state
      | _ => exact passive.sendThenClose _ c _
  | authenticated k =>
      cases request with
      | untyped => exact passive.handleUntyped _ c cs
      | login body => exact passive.sendThenClose _ c _
      | _ => exact passive.handleAuthenticated _ c k quiet

/-! ## Audio, operators and reloads -/

theorem authFailure (src : Nat) : R s (Reflectd.authFailure s src) := by
  have counted : ∀ k, R s (s.setNode k fun n => countAuthFail n s.nowMs) := by
    refine fun k => passive.setNode s k fun n => ?_
    unfold countAuthFail
    split <;> rfl
  unfold Reflectd.authFailure
  split
  next => exact passive.refl s
  next k _ =>
    simp only
    split
    next =>
      split
      next => exact passive.trans (counted k) (passive.sendThenClose _ _ _)
      next => exact counted k
    next => exact counted k

theorem denyFloor (j k : Nat) : R s (Reflectd.denyFloor s j k) := by
  unfold Reflectd.denyFloor
  split
  next =>
    split
    next => exact passive.trans (passive.send s _ _) (passive.setNode _ k fun _ => rfl)
    next => exact passive.refl s
  next => exact passive.refl s

theorem forward (j k peer : Nat) (p : RtpPacket) (delivered : Bool) :
    R s (Reflectd.forward s j k peer p delivered) := by
  refine passive.trans (passive.setNode s peer fun n => ?_) (passive.note _ _)
  cases delivered <;> rfl

theorem acceptAudio (k : Nat) (p : RtpPacket) (d : Datagram) : R s (Reflectd.acceptAudio s k p d) := by
  unfold Reflectd.acceptAudio
  split
  next => exact passive.refl s
  next =>
    cases rcfgTgIdx s.cfg (s.nodeRt k).curTg with
    | none => exact passive.refl s
    | some j =>
        simp only
        split
        next => exact passive.denyFloor s j k
        next granted success =>
          have counted : R granted (granted.setNode k fun n => n.received s.nowMs d.len) :=
            passive.setNode granted k fun _ => rfl
          refine passive.trans (passive.trans (passive.floorTryGrant success) counted)
            (passive.foldl _ (fun s peer => ?_) _)
          split
          next => exact passive.refl s
          next => exact passive.forward s j k peer p _

theorem audioPacket (d : Datagram) : R s (Reflectd.audioPacket s d) := by
  unfold Reflectd.audioPacket
  split
  next =>
    split
    next => exact passive.authFailure s d.src
    next k p _ =>
      have learned : R s (s.setNode k fun n => n.setAudio fun an => { an with rtpAddr := some d.src }) :=
        passive.setNode s k fun _ => rfl
      simp only
      split
      next => exact learned
      next => exact passive.trans learned (passive.acceptAudio _ k p d)
  next => exact passive.refl s

theorem adminReleaseFloor (tg : Int) : R s (Reflectd.adminReleaseFloor s tg).1 := by
  unfold Reflectd.adminReleaseFloor
  cases rcfgTgIdx s.cfg (tg % 65536).toNat with
  | none => exact passive.refl s
  | some j => exact passive.floorRelease s j (some .adminAction)

theorem doReload (loaded : Option Rcfg) : R s (Reflectd.doReload s loaded) := by
  cases loaded with
  | none => exact passive.refl s
  | some newcfg =>
      have each : ∀ s i, R s (reloadNode newcfg s i) := by
        intro s i
        unfold reloadNode
        simp only
        cases (s.nodeRt i).session with
        | none => exact passive.refl s
        | some session =>
            cases rcfgNodeIdx newcfg (s.cfg.nodeId i) with
            | none => exact passive.sendThenClose s session.c _
            | some newIdx =>
                simp only
                split
                next => exact passive.refl s
                next => exact passive.trans (passive.send s session.c _) (passive.setNode _ i fun _ => rfl)
      exact passive.trans (passive.foldl s each (List.range s.cfg.nodes.length))
        (passive.reconfigured _ _ _ _)

theorem releaseAllOf (k : Nat) : R s (Reflectd.releaseAllOf s k) :=
  passive.foldl s (fun s j => passive.releaseHeld s k j) _

end Passive

end Kerchunk.Reflectd
