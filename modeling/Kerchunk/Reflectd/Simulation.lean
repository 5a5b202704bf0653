import Kerchunk.Reflectd.Daemon
import Kerchunk.Reflectd.Hall

set_option autoImplicit false

/-!
# The daemon's steps as moves of the hall
-/

namespace Kerchunk.Reflectd

open Link (Msg ErrCode Login Request)

/-! ## The view of the hall -/

def told : Msg → Option Told
  | .loginOk body => some (.loggedIn body.nodeId body.talkgroup)
  | .tgOk tg _ => some (.tg tg)
  | .tgMembershipChanged _ newTg => some (.tg newTg)
  | .mute _ _ => some .muted
  | .unmute => some .unmuted
  | _ => none

def Note.ofFloor : Note → Bool
  | .forwarded _ _ _ => false
  | _ => true

def NodeRt.station (n : NodeRt) : Station where
  conn := n.session.map Session.c
  tg := n.curTg
  muted := n.muted
  since := n.floorStartedMs
  airtime := n.floorMs

def Conn.door (cs : Conn) : Door where
  seat := cs.nodeIdx
  draining := cs.isDraining

def hall (s : State) : Hall where
  cfg := s.cfg
  now := s.nowMs
  station := fun k => (s.nodeRt k).station
  floor := s.tgRt
  door := fun c => (s.conns c).map Conn.door
  told := fun c => (s.sent c).filterMap told
  log := s.log.filter Note.ofFloor

theorem hall_ext {g h : Hall} (cfg : g.cfg = h.cfg) (now : g.now = h.now)
    (station : ∀ k, g.station k = h.station k) (floor : ∀ j, g.floor j = h.floor j)
    (door : ∀ c, g.door c = h.door c) (told : ∀ c, g.told c = h.told c) (log : g.log = h.log) :
    g = h := by
  cases g
  cases h
  simp only [Hall.mk.injEq]
  exact ⟨cfg, now, funext station, funext floor, funext door, funext told, log⟩

/-! ## Primitive changes -/

theorem hall_setNode (s : State) (k : Nat) (change : NodeRt → NodeRt) (move : Station → Station)
    (same : (change (s.nodeRt k)).station = move (s.nodeRt k).station) :
    hall (s.setNode k change) = (hall s).setStation k move := by
  refine hall_ext rfl rfl (fun k' => ?_) (fun _ => rfl) (fun _ => rfl) (fun _ => rfl) rfl
  by_cases at_ : k' = k
  · subst at_
    simpa [hall, State.setNode, Hall.setStation] using same
  · simp [hall, State.setNode, Hall.setStation, at_]

theorem hall_setNode_quiet (s : State) (k : Nat) (change : NodeRt → NodeRt)
    (same : (change (s.nodeRt k)).station = (s.nodeRt k).station) :
    hall (s.setNode k change) = hall s := by
  rw [hall_setNode s k change id same]
  exact hall_ext rfl rfl (fun k' => by simp [Hall.setStation]) (fun _ => rfl) (fun _ => rfl)
    (fun _ => rfl) rfl

theorem hall_setConn (s : State) (c : Nat) (change : Conn → Conn) (move : Door → Door)
    (same : ∀ cs, (change cs).door = move cs.door) :
    hall (s.setConn c change) = (hall s).setDoor c move := by
  refine hall_ext rfl rfl (fun _ => rfl) (fun _ => rfl) (fun c' => ?_) (fun _ => rfl) rfl
  by_cases at_ : c' = c
  · subst at_
    simp [hall, State.setConn, Hall.setDoor, Function.comp_def, same]
  · simp [hall, State.setConn, Hall.setDoor, at_]

theorem hall_setConn_quiet (s : State) (c : Nat) (change : Conn → Conn)
    (same : ∀ cs, (change cs).door = cs.door) : hall (s.setConn c change) = hall s := by
  rw [hall_setConn s c change id same]
  exact hall_ext rfl rfl (fun _ => rfl) (fun _ => rfl) (fun c' => by simp [Hall.setDoor])
    (fun _ => rfl) rfl

theorem hall_send (s : State) (c : Nat) (m : Msg) {t : Told} (heard : told m = some t) :
    hall (s.send c m) = (hall s).tell (some c) t := by
  refine hall_ext rfl rfl (fun _ => rfl) (fun _ => rfl) (fun _ => rfl) (fun c' => ?_) rfl
  by_cases at_ : c' = c
  · subst at_
    simp [hall, State.send, Hall.tell, heard]
  · simp [hall, State.send, Hall.tell, at_]

theorem hall_send_quiet (s : State) (c : Nat) (m : Msg) (quiet : told m = none) :
    hall (s.send c m) = hall s := by
  refine hall_ext rfl rfl (fun _ => rfl) (fun _ => rfl) (fun _ => rfl) (fun c' => ?_) rfl
  by_cases at_ : c' = c
  · subst at_
    simp [hall, State.send, quiet]
  · simp [hall, State.send, at_]

theorem hall_sendNode (s : State) (k : Nat) (m : Msg) {t : Told} (heard : told m = some t) :
    hall (s.sendNode k m) = (hall s).tell ((hall s).station k).conn t := by
  have at_conn : ((hall s).station k).conn = (s.nodeRt k).session.map Session.c := rfl
  rw [at_conn]
  unfold State.sendNode
  cases (s.nodeRt k).session with
  | none => rfl
  | some session => exact hall_send s session.c m heard

theorem hall_sendNode_quiet (s : State) (k : Nat) (m : Msg) (quiet : told m = none) :
    hall (s.sendNode k m) = hall s := by
  unfold State.sendNode
  cases (s.nodeRt k).session with
  | none => rfl
  | some session => exact hall_send_quiet s session.c m quiet

theorem hall_sendNodes_quiet (s : State) (ks : List Nat) (m : Msg) (quiet : told m = none) :
    hall (s.sendNodes ks m) = hall s := by
  induction ks generalizing s with
  | nil => rfl
  | cons k rest ih => exact (ih (s.sendNode k m)).trans (hall_sendNode_quiet s k m quiet)

theorem hall_note (s : State) (n : Note) (floor : n.ofFloor = true) :
    hall (s.note n) = (hall s).note n := by
  refine hall_ext rfl rfl (fun _ => rfl) (fun _ => rfl) (fun _ => rfl) (fun _ => rfl) ?_
  simp [hall, State.note, Hall.note, floor]

theorem hall_note_quiet (s : State) (n : Note) (other : n.ofFloor = false) :
    hall (s.note n) = hall s := by
  refine hall_ext rfl rfl (fun _ => rfl) (fun _ => rfl) (fun _ => rfl) (fun _ => rfl) ?_
  simp [hall, State.note, other]

theorem hall_setTg (s : State) (j : Nat) (t : TgRt) :
    hall (s.setTg j t) = (hall s).setFloor j t := rfl

theorem hall_sendThenClose (s : State) (c : Nat) (m : Msg) (quiet : told m = none) :
    hall (s.sendThenClose c m) = (hall s).apply (.drain c) := by
  unfold State.sendThenClose
  rw [hall_setConn (s.send c m) c _ (fun d => { d with draining := true }) fun _ => rfl,
    hall_send_quiet s c m quiet]
  rfl

/-! ## Floor control -/

theorem hall_broadcastTgRoster (s : State) (j : Nat) : hall (broadcastTgRoster s j) = hall s :=
  hall_sendNodes_quiet _ _ _ rfl

theorem hall_broadcastRosterOf (s : State) (tg : Nat) : hall (broadcastRosterOf s tg) = hall s := by
  unfold broadcastRosterOf
  cases rcfgTgIdx s.cfg tg with
  | none => rfl
  | some j => exact hall_broadcastTgRoster s j

theorem hall_broadcastTalker (s : State) (j : Nat) (talker except : Option Nat) :
    hall (broadcastTalker s j talker except) = (hall s).announce j talker := by
  unfold broadcastTalker
  rw [hall_note _ _ rfl, hall_sendNodes_quiet _ _ _ rfl]
  rfl

theorem hall_tally (s : State) (j k : Nat) : hall (tally s j k) = (hall s).pay j k := by
  unfold tally Hall.pay
  by_cases running : 0 < (s.nodeRt k).floorStartedMs
  · have shown : 0 < ((hall s).station k).since := running
    simp only [running, if_true, shown]
    rw [hall_note _ _ rfl, hall_setNode s k _ (fun st =>
      { st with
        airtime := if 0 < s.nowMs - (s.nodeRt k).floorStartedMs then
            st.airtime + (s.nowMs - (s.nodeRt k).floorStartedMs)
          else st.airtime
        since := 0 }) rfl]
    rfl
  · have shown : ¬ 0 < ((hall s).station k).since := running
    simp only [running, if_false, shown]

theorem hall_floorRelease (s : State) (j : Nat) (reason : Option ErrCode) :
    hall (floorRelease s j reason) = (hall s).release j := by
  have same : (hall s).talker j = (s.tgRt j).talkerNodeIdx := rfl
  unfold floorRelease Hall.release
  rw [same]
  cases holds : (s.tgRt j).talkerNodeIdx with
  | none => rfl
  | some k =>
      have told : hall (broadcastTalker ((tally s j k).setTg j
            { talkerNodeIdx := none, leaseExpiresMs := 0 }) j none none) =
          (((hall s).pay j k).setFloor j { talkerNodeIdx := none, leaseExpiresMs := 0 }).announce
            j none := by
        rw [hall_broadcastTalker, hall_setTg, hall_tally]
      cases reason with
      | none => exact told
      | some code => exact (hall_sendNode_quiet _ _ _ rfl).trans told

theorem hall_startHold (s : State) (j k : Nat) :
    hall (startHold s j k) =
      ((hall s).announce j (some k)).setStation k fun st =>
        { st with since := s.nowMs } := by
  unfold startHold
  rw [hall_setNode _ _ _ (fun st => { st with since := s.nowMs }) rfl, hall_broadcastTalker]

theorem floorBusy_false {s : State} {j k holder : Nat} (free : floorBusy s j k = false)
    (holds : (hall s).talker j = some holder) (other : holder ≠ k) :
    ((hall s).floor j).leaseExpiresMs ≤ (hall s).now := by
  have held : (s.tgRt j).heldByOther k = true := by
    have shown : (s.tgRt j).talkerNodeIdx = some holder := holds
    simp [TgRt.heldByOther, shown, other]
  have late : (s.tgRt j).leaseExpiresMs ≤ s.nowMs := by simpa [floorBusy, held] using free
  exact late

theorem floorTryGrant_busy {s : State} {j k : Nat} (busy : floorBusy s j k = true) :
    floorTryGrant s j k = none := by
  simp [floorTryGrant, busy]

theorem floorTryGrant_free {s : State} {j k : Nat} (free : floorBusy s j k = false) :
    ∃ granted, floorTryGrant s j k = some granted ∧ hall granted = (hall s).grant j k := by
  have same : (hall s).talker j = (s.tgRt j).talkerNodeIdx := rfl
  let t : TgRt := { talkerNodeIdx := some k, leaseExpiresMs := s.nowMs + s.cfg.hangtimeMs }
  by_cases held : (s.tgRt j).talkerNodeIdx = some k
  · refine ⟨s.setTg j t, by simp [floorTryGrant, free, held, t], ?_⟩
    simp only [Hall.grant, same, held, if_true]
    rfl
  · refine ⟨startHold (s.setTg j t) j k, by simp [floorTryGrant, free, held, t], ?_⟩
    simp only [Hall.grant, same, held, if_false]
    exact hall_startHold _ _ _

/-! ## Moves of the handlers -/

def grantMoves (s : State) (j k : Nat) : List Move :=
  if floorBusy s j k then [] else [.grant j k]

def talkMoves (s : State) (k : Nat) : List Move :=
  -- A node tries to talk on the talkgroup it is on.
  match rcfgTgIdx s.cfg (s.nodeRt k).curTg with
  | none => []
  | some j => grantMoves s j k

def releaseMoves (s : State) (k j : Nat) : List Move :=
  if holds s k j then [.release j] else []

def releaseOldMoves (s : State) (k tg : Nat) : List Move :=
  if (s.nodeRt k).curTg ≠ 0 ∧ (s.nodeRt k).curTg ≠ tg then
    match rcfgTgIdx s.cfg (s.nodeRt k).curTg with
    | some j => releaseMoves s k j
    | none => []
  else []

def requestMoves (s : State) (c k : Nat) : Request → List Move
  | .setTg tg =>
      match setTgCheck s k tg with
      | .error _ => []
      | .ok _ => releaseOldMoves s k tg.toNat ++ [.tune c k tg.toNat]
  | .quality lossPct => if mutesSender s k lossPct then [.mute k (some c)] else []
  | .simulateTalkStart => talkMoves s k
  | .simulateTalkEnd =>
      match rcfgTgIdx s.cfg (s.nodeRt k).curTg with
      | none => []
      | some j => releaseMoves s k j
  | _ => []

def messageMoves (s : State) (c : Nat) (cs : Conn) (request : Request) (draw : LoginDraw) :
    List Move :=
  match request, cs.state with
  | .untyped, _ => if 3 < (cs.countBadMsg s.nowMs).badMsgCount then [.drain c] else []
  | .login _, .authenticated _ => [.drain c]
  | .login body, .awaitingLogin =>
      match loginCheck s body draw with
      | .error _ => [.drain c]
      | .ok a => [.join c a.nodeIdx a.tg]
  | _, .awaitingLogin => [.drain c]
  | request, .authenticated k => requestMoves s c k request

def openMoves (s : State) (c : Nat) (challenge : Option (List Nat)) : List Move :=
  if (s.conns c).isSome then []
  else .enter c :: (if challenge.isNone then [.drain c] else [])

def receiveMoves (s : State) (c : Nat) (frame : Frame) (draw : LoginDraw) : List Move :=
  match s.conns c with
  | none => []
  | some cs =>
      if Link.maxMsg < frame.len then [.drain c] else messageMoves s c cs frame.request draw

def authFailMoves (s : State) (src : Nat) : List Move :=
  match (List.range s.cfg.nodes.length).find? fun i => (s.nodeRt i).rtpAddr = some src with
  | none => []
  | some i =>
      match (s.nodeRt i).session with
      | some session =>
          if s.cfg.authFailKick < (countAuthFail (s.nodeRt i) s.nowMs).srtpFailCount then
            [.drain session.c]
          else []
      | none => []

def datagramMoves (s : State) (d : Datagram) : List Move :=
  if rtpOk d then
    match findSender s d with
    | none => authFailMoves s d.src
    | some (k, p) =>
        if (s.nodeRt k).muted ∨ p.payloadType = Link.rtpBootstrapPt then [] else talkMoves s k
  else []

def tickMoves (s : State) (j : Nat) : List Move :=
  if (s.tgRt j).expired s.nowMs then [.release j] else []

def closeMoves (s : State) (c : Nat) : List Move :=
  match s.conns c with
  | none => []
  | some cs =>
      match cs.state with
      | .awaitingLogin => [.leave c]
      | .authenticated k =>
          Machine.trace (fun s j => if holds s k j then floorRelease s j none else s)
            (fun s j => releaseMoves s k j) s (List.range s.cfg.tgs.length) ++ [.leave c]

def adminMoves (s : State) (nodeId : Option String) (action : NodeAction) : List Move :=
  match nodeId.bind (rcfgNodeIdx s.cfg) with
  | none => []
  | some k =>
      let c := (s.nodeRt k).session.map Session.c
      match action with
      | .kick _ => (c.map Move.drain).toList
      | .mute _ => [.mute k c]
      | .unmute => [.unmute k c]

def moves (s : State) : Event → List Move
  | .wsOpen c challenge => openMoves s c challenge
  | .wsMsg c frame draw => receiveMoves s c frame draw
  | .close c => closeMoves s c
  | .datagram d => datagramMoves s d
  | .floorTick =>
      Machine.trace
        (fun s j => if (s.tgRt j).expired s.nowMs then floorRelease s j (some .leaseExpired) else s)
        tickMoves s (List.range s.cfg.tgs.length)
  | .keepaliveTick => []
  | .reload loaded => (loaded.map Move.reload).toList
  | .admin nodeId action => adminMoves s nodeId action
  | .adminReleaseFloor tg => ((rcfgTgIdx s.cfg (tg % 65536).toNat).map Move.release).toList

def stepMoves (s : State) (timed : Moment × Event) : List Move :=
  .advance timed.1.elapsed :: moves (s.at timed.1) timed.2

/-! ## Simulation -/

open Machine (run run_nil run_cons)

theorem hall_sendHello (s : State) (c : Nat) (challenge : Option (List Nat))
    (waiting : ∀ cs, s.conns c = some cs → cs.state = .awaitingLogin) :
    hall (sendHello s c challenge) =
      run Hall.apply (hall s) (if challenge.isNone then [.drain c] else []) := by
  cases challenge with
  | none => exact hall_sendThenClose s c _ rfl
  | some bytes =>
      refine hall_ext rfl rfl (fun _ => rfl) (fun _ => rfl) (fun c' => ?_) (fun c' => ?_) rfl
      · by_cases at_ : c' = c
        · subst at_
          cases here : s.conns c' with
          | none => simp [sendHello, State.setConn, State.send, hall, here]
          | some cs =>
              simp [sendHello, State.setConn, State.send, hall, here, Conn.door, Conn.nodeIdx,
                waiting cs here]
        · simp [sendHello, State.setConn, State.send, hall, at_]
      · by_cases at_ : c' = c
        · subst at_
          simp [sendHello, State.setConn, State.send, hall, told]
        · simp [sendHello, State.setConn, State.send, hall, at_]

theorem hall_openConn (s : State) (c : Nat) (challenge : Option (List Nat)) :
    hall (openConn s c challenge) = run Hall.apply (hall s) (openMoves s c challenge) := by
  unfold openConn openMoves
  cases here : s.conns c with
  | some cs => simp
  | none =>
      simp only [Option.isSome_none, Bool.false_eq_true, if_false, run_cons]
      rw [hall_sendHello]
      · congr 1
        refine hall_ext rfl rfl (fun _ => rfl) (fun _ => rfl) (fun c' => ?_) (fun c' => ?_) rfl
        · by_cases at_ : c' = c
          · subst at_
            simp [hall, Hall.apply, Conn.fresh, Conn.door, Conn.nodeIdx]
          · simp [hall, Hall.apply, at_]
        · by_cases at_ : c' = c
          · subst at_
            simp [hall, Hall.apply]
          · simp [hall, Hall.apply, at_]
      · intro cs found
        simp only [Function.update_self, Option.some.injEq] at found
        subst found
        rfl

theorem hall_signOn (s : State) (c : Nat) (body : Login) (a : Admission)
    (named : body.nodeId.getD "" = s.cfg.nodeId a.nodeIdx) :
    hall (signOn s c body a) = (hall s).join c a.nodeIdx a.tg := by
  unfold signOn
  simp only
  rw [hall_broadcastRosterOf, hall_send _ _ _ (t := .loggedIn (body.nodeId.getD "") a.tg) rfl, hall_note _ _ rfl,
    hall_setNode _ _ _ (fun st => { st with conn := some c, tg := a.tg, airtime := 0 }) rfl,
    hall_setConn _ _ _ (fun d => { d with seat := some a.nodeIdx }) fun _ => rfl, named]
  rfl

theorem hall_handleLogin (s : State) (c : Nat) (body : Login) (draw : LoginDraw) :
    hall (handleLogin s c body draw) =
      run Hall.apply (hall s)
        (match loginCheck s body draw with
          | .error _ => [.drain c]
          | .ok a => [.join c a.nodeIdx a.tg]) := by
  unfold handleLogin
  cases checked : loginCheck s body draw with
  | error denial => exact hall_sendThenClose s c _ rfl
  | ok a => exact hall_signOn s c body a (loginCheck_ok checked).2.1

theorem hall_releaseHeld (s : State) (k j : Nat) :
    hall (if holds s k j then floorRelease s j none else s) =
      run Hall.apply (hall s) (releaseMoves s k j) := by
  unfold releaseMoves
  cases holds s k j with
  | true => exact hall_floorRelease s j none
  | false => rfl

theorem hall_releaseOldTg (s : State) (k tg : Nat) :
    hall (releaseOldTg s k tg) = run Hall.apply (hall s) (releaseOldMoves s k tg) := by
  unfold releaseOldTg releaseOldMoves
  simp only
  split
  next =>
    cases rcfgTgIdx s.cfg (s.nodeRt k).curTg with
    | none => rfl
    | some j => exact hall_releaseHeld s k j
  next => rfl

theorem hall_switchTg (s : State) (c k tg j : Nat) :
    hall (switchTg s c k tg j) =
      run Hall.apply (hall s) (releaseOldMoves s k tg ++ [.tune c k tg]) := by
  have tuned : hall (((releaseOldTg s k tg).setNode k fun n => { n with curTg := tg }).send c
      (.tgOk tg (s.cfg.tgName j))) =
        run Hall.apply (hall s) (releaseOldMoves s k tg ++ [.tune c k tg]) := by
    rw [Machine.run_append, ← hall_releaseOldTg, hall_send _ _ _ (t := .tg tg) rfl,
      hall_setNode _ _ _ (fun st => { st with tg := tg }) rfl]
    rfl
  unfold switchTg
  simp only
  rw [hall_broadcastTgRoster]
  split
  next => rw [hall_broadcastRosterOf, tuned]
  next => exact tuned

theorem hall_talk (s : State) (k : Nat) (denied : Nat → State)
    (quiet : ∀ j, hall (denied j) = hall s) :
    hall (match rcfgTgIdx s.cfg (s.nodeRt k).curTg with
      | none => s
      | some j =>
          match floorTryGrant s j k with
          | some granted => granted
          | none => denied j) = run Hall.apply (hall s) (talkMoves s k) := by
  unfold talkMoves grantMoves
  cases rcfgTgIdx s.cfg (s.nodeRt k).curTg with
  | none => rfl
  | some j =>
      cases busy : floorBusy s j k with
      | true => simpa [floorTryGrant_busy busy, busy] using quiet j
      | false =>
          obtain ⟨granted, success, shown⟩ := floorTryGrant_free busy
          simpa [success, busy, Hall.apply] using shown

theorem hall_handleQuality (s : State) (c k : Nat) (lossPct : Rat) :
    hall (handleQuality s c k lossPct) =
      run Hall.apply (hall s) (if mutesSender s k lossPct then [.mute k (some c)] else []) := by
  have bitrate : ∀ t : State, hall (suggestBitrate t k lossPct) = hall t := by
    intro t
    unfold suggestBitrate
    cases rcfgTgIdx t.cfg (t.nodeRt k).curTg with
    | none => rfl
    | some j => exact hall_sendNodes_quiet _ _ _ rfl
  unfold handleQuality
  simp only
  rw [bitrate]
  cases mutesSender s k lossPct with
  | false =>
      simp only [Bool.false_eq_true, if_false]
      exact hall_setNode_quiet _ _ _ rfl
  | true =>
      simp only [if_true]
      rw [hall_send _ _ _ (t := .muted) rfl, muteNode,
        hall_setNode _ _ _ (fun st => { st with muted := true }) rfl, hall_setNode_quiet _ _ _ rfl]
      rfl

theorem hall_handleAuthenticated (s : State) (c k : Nat) (request : Request) :
    hall (handleAuthenticated s c k request) =
      run Hall.apply (hall s) (requestMoves s c k request) := by
  cases request with
  | untyped => rfl
  | login body => rfl
  | pong => rfl
  | unhandled type => rfl
  | ping seq => exact hall_send_quiet _ _ _ rfl
  | setTg tg =>
      simp only [handleAuthenticated, handleSetTg, requestMoves]
      cases setTgCheck s k tg with
      | error code => exact hall_send_quiet _ _ _ rfl
      | ok j => exact hall_switchTg s c k tg.toNat j
  | quality lossPct => exact hall_handleQuality s c k lossPct
  | simulateTalkStart =>
      exact hall_talk s k (fun j => sendFloorDenied s c j) fun j => hall_send_quiet _ _ _ rfl
  | simulateTalkEnd =>
      simp only [handleAuthenticated, handleSimulateTalkEnd, requestMoves]
      cases rcfgTgIdx s.cfg (s.nodeRt k).curTg with
      | none => rfl
      | some j => exact hall_releaseHeld s k j

theorem hall_handleUntyped (s : State) (c : Nat) (cs : Conn) :
    hall (handleUntyped s c cs) =
      run Hall.apply (hall s)
        (if 3 < (cs.countBadMsg s.nowMs).badMsgCount then [.drain c] else []) := by
  have counted : hall (s.setConn c fun cs => cs.countBadMsg s.nowMs) = hall s := by
    refine hall_setConn_quiet _ _ _ fun cs => ?_
    unfold Conn.countBadMsg
    split <;> rfl
  unfold handleUntyped
  simp only
  split
  next => exact (hall_sendThenClose _ c _ rfl).trans (by rw [counted]; rfl)
  next => exact (hall_send_quiet _ _ _ rfl).trans counted

theorem hall_handleMessage (s : State) (c : Nat) (cs : Conn) (request : Request)
    (draw : LoginDraw) :
    hall (handleMessage s c cs request draw) =
      run Hall.apply (hall s) (messageMoves s c cs request draw) := by
  have heard : hall (s.setConn c fun cs => cs.heard s.nowMs) = hall s :=
    hall_setConn_quiet _ _ _ fun _ => rfl
  have drained : ∀ m, told m = none →
      hall ((s.setConn c fun cs => cs.heard s.nowMs).sendThenClose c m) =
        run Hall.apply (hall s) [.drain c] := fun m quiet =>
    (hall_sendThenClose _ c m quiet).trans (by rw [heard]; rfl)
  unfold handleMessage messageMoves
  cases at_ : cs.state with
  | awaitingLogin =>
      cases request with
      | untyped => exact (hall_handleUntyped _ c cs).trans (by rw [heard]; rfl)
      | login body => exact (hall_handleLogin _ c body draw).trans (by rw [heard]; rfl)
      | _ => exact drained _ rfl
  | authenticated k =>
      cases request with
      | untyped => exact (hall_handleUntyped _ c cs).trans (by rw [heard]; rfl)
      | login body => exact drained _ rfl
      | _ => exact (hall_handleAuthenticated _ c k _).trans (by rw [heard]; rfl)

theorem hall_receive (s : State) (c : Nat) (frame : Frame) (draw : LoginDraw) :
    hall (receive s c frame draw) = run Hall.apply (hall s) (receiveMoves s c frame draw) := by
  unfold receive receiveMoves
  cases s.conns c with
  | none => rfl
  | some cs =>
      simp only
      split
      next => exact hall_sendThenClose s c _ rfl
      next => exact hall_handleMessage s c cs frame.request draw

theorem hall_authFailure (s : State) (src : Nat) :
    hall (authFailure s src) = run Hall.apply (hall s) (authFailMoves s src) := by
  unfold authFailure authFailMoves
  cases (List.range s.cfg.nodes.length).find? fun i => (s.nodeRt i).rtpAddr = some src with
  | none => rfl
  | some i =>
      have counted : hall (s.setNode i fun n => countAuthFail n s.nowMs) = hall s := by
        refine hall_setNode_quiet _ _ _ ?_
        unfold countAuthFail
        split <;> rfl
      have same : (s.setNode i fun n => countAuthFail n s.nowMs).nodeRt i =
          countAuthFail (s.nodeRt i) s.nowMs := by simp [State.setNode]
      have session : (countAuthFail (s.nodeRt i) s.nowMs).session = (s.nodeRt i).session := by
        unfold countAuthFail
        split <;> rfl
      simp only [same, session]
      cases (s.nodeRt i).session with
      | none => exact counted
      | some session =>
          simp only
          split
          next => exact (hall_sendThenClose _ session.c _ rfl).trans (by rw [counted]; rfl)
          next => exact counted

theorem station_setAudio (n : NodeRt) (change : AudioNode → AudioNode) :
    (n.setAudio change).station = n.station := by
  simp [NodeRt.setAudio, NodeRt.station, Function.comp_def]

theorem hall_fanOut (s : State) (j sender : Nat) (p : RtpPacket) (delivers : Nat → Bool) :
    hall (fanOut s j sender p delivers) = hall s := by
  have one : ∀ (t : State) (peer : Nat) (delivered : Bool),
      hall (forward t j sender peer p delivered) = hall t := by
    intro t peer delivered
    unfold forward
    rw [hall_note_quiet _ _ rfl, hall_setNode_quiet]
    cases delivered <;> exact station_setAudio _ _
  unfold fanOut
  generalize s.cfg.members j = peers
  induction peers generalizing s with
  | nil => rfl
  | cons peer rest ih =>
      rw [List.foldl_cons, ih]
      split
      next => rfl
      next => exact one s peer _

theorem hall_denyFloor (s : State) (j sender : Nat) : hall (denyFloor s j sender) = hall s := by
  unfold denyFloor
  split
  next =>
    cases (s.nodeRt sender).session with
    | none => rfl
    | some session =>
        exact (hall_setNode_quiet _ _ _ rfl).trans (hall_send_quiet _ _ _ rfl)
  next => rfl

theorem hall_acceptAudio (s : State) (k : Nat) (p : RtpPacket) (d : Datagram) :
    hall (acceptAudio s k p d) =
      run Hall.apply (hall s)
        (if p.payloadType = Link.rtpBootstrapPt then [] else talkMoves s k) := by
  unfold acceptAudio talkMoves grantMoves
  split
  next => rfl
  next =>
    cases rcfgTgIdx s.cfg (s.nodeRt k).curTg with
    | none => rfl
    | some j =>
        cases busy : floorBusy s j k with
        | true => simpa [floorTryGrant_busy busy, busy] using hall_denyFloor s j k
        | false =>
            obtain ⟨granted, success, shown⟩ := floorTryGrant_free busy
            simp only [success, hall_fanOut]
            rw [hall_setNode_quiet _ _ _ rfl, shown, busy]
            rfl

theorem hall_audioPacket (s : State) (d : Datagram) :
    hall (audioPacket s d) = run Hall.apply (hall s) (datagramMoves s d) := by
  unfold audioPacket datagramMoves
  split
  next =>
    cases findSender s d with
    | none => exact hall_authFailure s d.src
    | some found =>
        obtain ⟨k, p⟩ := found
        have learned : hall (s.setNode k fun n =>
            n.setAudio fun an => { an with rtpAddr := some d.src }) = hall s :=
          hall_setNode_quiet _ _ _ (station_setAudio _ _)
        have tg : ((s.setNode k fun n =>
            n.setAudio fun an => { an with rtpAddr := some d.src }).nodeRt k).curTg =
              (s.nodeRt k).curTg := by simp [State.setNode, NodeRt.setAudio]
        by_cases muted : (s.nodeRt k).muted = true
        · simp only [muted, if_true, true_or]
          exact learned
        · simp only [muted, Bool.false_eq_true, if_false, false_or]
          rw [hall_acceptAudio, learned]
          unfold talkMoves
          rw [tg]
          rfl
  next => rfl

theorem hall_floorTick (s : State) :
    hall (floorTick s) = run Hall.apply (hall s) (moves s .floorTick) := by
  refine Machine.run_trace (fun s j => ?_) s _
  unfold tickMoves
  cases (s.tgRt j).expired s.nowMs with
  | true => exact hall_floorRelease s j (some .leaseExpired)
  | false => rfl

theorem hall_keepaliveTick (s : State) : hall (keepaliveTick s) = hall s := by
  have shut : ∀ (now kalive : Int) (cs : Conn), (keepaliveConn now kalive cs).1.door = cs.door := by
    intro now kalive cs
    unfold keepaliveConn
    repeat' split
    all_goals rfl
  refine hall_ext rfl rfl (fun _ => rfl) (fun _ => rfl) (fun c => ?_) (fun c => ?_) rfl
  · cases here : s.conns c <;> simp [hall, keepaliveTick, here, shut]
  · simp only [hall, keepaliveTick]
    split <;> simp [told]

theorem hall_actOnNode (s : State) (k : Nat) (action : NodeAction) :
    hall (actOnNode s k action) =
      run Hall.apply (hall s)
        (match action with
          | .kick _ => (((s.nodeRt k).session.map Session.c).map Move.drain).toList
          | .mute _ => [.mute k ((s.nodeRt k).session.map Session.c)]
          | .unmute => [.unmute k ((s.nodeRt k).session.map Session.c)]) := by
  cases action with
  | kick reason =>
      simp only [actOnNode]
      cases (s.nodeRt k).session with
      | none => rfl
      | some session => exact hall_sendThenClose s session.c _ rfl
  | mute retryInS =>
      have conn : ((hall (muteNode s k "admin_action")).station k).conn =
          (s.nodeRt k).session.map Session.c := by
        simp [muteNode, hall, State.setNode, NodeRt.station]
      refine (hall_sendNode _ k _ (t := .muted) rfl).trans ?_
      rw [conn, muteNode, hall_setNode _ _ _ (fun st => { st with muted := true }) rfl]
      rfl
  | unmute =>
      have conn : ((hall (s.setNode k fun n => { n with muted := false, muteReason := "" })).station
          k).conn = (s.nodeRt k).session.map Session.c := by
        simp [hall, State.setNode, NodeRt.station]
      refine (hall_sendNode _ k _ (t := .unmuted) rfl).trans ?_
      rw [conn, hall_setNode _ _ _ (fun st => { st with muted := false }) rfl]
      rfl

theorem hall_admin (s : State) (nodeId : Option String) (action : NodeAction) :
    hall (adminNodeAction s nodeId action).1 =
      run Hall.apply (hall s) (adminMoves s nodeId action) := by
  unfold adminNodeAction adminMoves
  cases nodeId with
  | none => rfl
  | some id =>
      simp only [Option.bind_some]
      cases rcfgNodeIdx s.cfg id with
      | none => rfl
      | some k => exact hall_actOnNode s k action

theorem hall_adminReleaseFloor (s : State) (tg : Int) :
    hall (adminReleaseFloor s tg).1 =
      run Hall.apply (hall s)
        ((rcfgTgIdx s.cfg (tg % 65536).toNat).map Move.release).toList := by
  unfold adminReleaseFloor
  cases rcfgTgIdx s.cfg (tg % 65536).toNat with
  | none => rfl
  | some j => exact hall_floorRelease s j _

theorem hall_reloadNode (newcfg : Rcfg) (s : State) (i : Nat) :
    hall (reloadNode newcfg s i) = Hall.reloadNode newcfg (hall s) i := by
  have conn : ((hall s).station i).conn = (s.nodeRt i).session.map Session.c := rfl
  have tg : ((hall s).station i).tg = (s.nodeRt i).curTg := rfl
  have cfg : (hall s).cfg = s.cfg := rfl
  unfold reloadNode Hall.reloadNode
  simp only [conn, tg, cfg]
  cases (s.nodeRt i).session with
  | none => rfl
  | some session =>
      cases rcfgNodeIdx newcfg (s.cfg.nodeId i) with
      | none => exact hall_sendThenClose s session.c _ rfl
      | some newIdx =>
          simp only [Option.map_some]
          split
          next => rfl
          next =>
            rw [hall_setNode _ _ _ (fun st => { st with tg := newcfg.initialTg newIdx }) rfl,
              hall_send _ _ _ (t := .tg (newcfg.initialTg newIdx)) rfl]

theorem hall_doReload (s : State) (loaded : Option Rcfg) :
    hall (doReload s loaded) =
      run Hall.apply (hall s) (loaded.map Move.reload).toList := by
  cases loaded with
  | none => rfl
  | some newcfg =>
      have visited : hall ((List.range s.cfg.nodes.length).foldl (reloadNode newcfg) s) =
          run (Hall.reloadNode newcfg) (hall s) (List.range s.cfg.nodes.length) := by
        generalize List.range s.cfg.nodes.length = is
        induction is generalizing s with
        | nil => rfl
        | cons i rest ih => rw [List.foldl_cons, ih, hall_reloadNode, run_cons]
      exact congrArg (fun h : Hall => { h with cfg := newcfg }) visited

theorem hall_releaseAllOf (s : State) (k : Nat) :
    hall (releaseAllOf s k) =
      run Hall.apply (hall s)
        (Machine.trace (fun s j => if holds s k j then floorRelease s j none else s)
          (fun s j => releaseMoves s k j) s (List.range s.cfg.tgs.length)) :=
  Machine.run_trace (fun s j => hall_releaseHeld s k j) s _

theorem door_releaseAllOf (s : State) (k : Nat) :
    (hall (releaseAllOf s k)).door = (hall s).door := by
  refine Machine.run_holds (P := fun t => (hall t).door = (hall s).door) _ (fun t j same => ?_) rfl
  rw [hall_releaseHeld]
  unfold releaseMoves
  cases holds t k j with
  | true => exact (Hall.release_places (hall t) j).door.trans same
  | false => exact same

theorem hall_leaveNode (s : State) (k : Nat) :
    hall (leaveNode s k) =
      (hall (releaseAllOf s k)).setStation k fun st => { st with conn := none, muted := false } := by
  unfold leaveNode
  rw [hall_broadcastRosterOf,
    hall_setNode _ _ _ (fun st => { st with conn := none, muted := false }) rfl]

theorem hall_dropConn (s : State) (c : Nat) :
    hall { s with conns := Function.update s.conns c none } =
      { hall s with door := Function.update (hall s).door c none } := by
  refine hall_ext rfl rfl (fun _ => rfl) (fun _ => rfl) (fun c' => ?_) (fun _ => rfl) rfl
  by_cases at_ : c' = c
  · subst at_
    simp [hall]
  · simp [hall, at_]

theorem hall_closeConn (s : State) (c : Nat) :
    hall (closeConn s c) = run Hall.apply (hall s) (closeMoves s c) := by
  unfold closeConn closeMoves
  cases here : s.conns c with
  | none => rfl
  | some cs =>
      simp only
      rw [hall_dropConn]
      have seat : (hall s).seat c = cs.nodeIdx := by simp [Hall.seat, hall, here, Conn.door]
      cases at_ : cs.state with
      | awaitingLogin =>
          have empty : cs.nodeIdx = none := by simp [Conn.nodeIdx, at_]
          simp only [empty, Option.map_none, Option.getD_none, run_cons, run_nil, Hall.apply,
            Hall.leave, seat]
      | authenticated k =>
          have taken : cs.nodeIdx = some k := by simp [Conn.nodeIdx, at_]
          have kept : (hall (releaseAllOf s k)).seat c = some k := by
            rw [Hall.seat, door_releaseAllOf, ← taken]
            exact seat
          simp only [taken, Option.map_some, Option.getD_some, Machine.run_append,
            ← hall_releaseAllOf, run_cons, run_nil, Hall.apply, Hall.leave, kept, hall_leaveNode]

theorem hall_at (s : State) (m : Moment) : hall (s.at m) = (hall s).apply (.advance m.elapsed) := rfl

theorem hall_handle (s : State) (e : Event) : hall (handle s e) = run Hall.apply (hall s) (moves s e) := by
  cases e with
  | wsOpen c challenge => exact hall_openConn s c challenge
  | wsMsg c frame draw => exact hall_receive s c frame draw
  | close c => exact hall_closeConn s c
  | datagram d => exact hall_audioPacket s d
  | floorTick => exact hall_floorTick s
  | keepaliveTick => exact hall_keepaliveTick s
  | reload loaded => exact hall_doReload s loaded
  | admin nodeId action => exact hall_admin s nodeId action
  | adminReleaseFloor tg => exact hall_adminReleaseFloor s tg

theorem hall_step (s : State) (timed : Moment × Event) :
    hall (step s timed) = run Hall.apply (hall s) (stepMoves s timed) := by
  -- A step of the daemon is a run of the hall.
  rw [stepMoves, run_cons, ← hall_at]
  exact hall_handle _ _

end Kerchunk.Reflectd
