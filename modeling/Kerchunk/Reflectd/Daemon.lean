import Kerchunk.Lib.Machine
import Kerchunk.Reflectd.Handlers

set_option autoImplicit false

/-!
# The audio plane and the event loop (`src/reflectd/main.c`, `audio.c`)

One event is one callback of the event loop, one received datagram, one tick or
one reload. The environment chooses the events, their times and what OpenSSL,
libsrtp and the sockets answer.
-/

namespace Kerchunk.Reflectd

open Link (Msg ErrCode Request)

/-! ## Audio -/

/-- What libsrtp leaves of a packet that authenticates: a whole RTP packet. -/
structure RtpPacket where
  len : Nat
  payloadType : Nat
  header : 12 ≤ len
  fits : len ≤ Link.rtpMaxPacket

/-- `unprotect i` is the packet that the session of node `i` makes of the datagram; `delivers p`
says whether re-encryption and `sendto` succeed for node `p`. -/
structure Datagram where
  src : Nat
  len : Nat
  rtpVersion : Nat
  unprotect : Nat → Option RtpPacket
  delivers : Nat → Bool

def rtpOk (d : Datagram) : Bool := decide (12 ≤ d.len) && d.rtpVersion == 2

def findSender (s : State) (d : Datagram) : Option (Nat × RtpPacket) :=
  (List.range s.cfg.nodes.length).findSome? fun i =>
    if (s.nodeRt i).connected then (d.unprotect i).map fun p => (i, p) else none

theorem findSender_some {s : State} {d : Datagram} {k : Nat} {p : RtpPacket}
    (found : findSender s d = some (k, p)) :
    k < s.cfg.nodes.length ∧ (s.nodeRt k).connected = true ∧ d.unprotect k = some p := by
  obtain ⟨i, member, tried⟩ := List.exists_of_findSome?_eq_some found
  split at tried
  next online =>
    obtain ⟨q, unprotected, same⟩ := Option.map_eq_some_iff.mp tried
    cases same
    exact ⟨List.mem_range.mp member, online, unprotected⟩
  next => cases tried

def NodeRt.setAudio (n : NodeRt) (change : AudioNode → AudioNode) : NodeRt :=
  { n with session := n.session.map fun session => { session with audio := change session.audio } }

def NodeRt.rtpAddr (n : NodeRt) : Option Nat :=
  n.session.bind fun session => session.audio.rtpAddr

def countAuthFail (n : NodeRt) (nowMs : Int) : NodeRt :=
  if 30000 < nowMs - n.srtpWindowStartMs then
    { n with srtpWindowStartMs := nowMs, srtpFailCount := 1 }
  else { n with srtpFailCount := n.srtpFailCount + 1 }

def authFailure (s : State) (src : Nat) : State :=
  -- A packet that no session authenticates counts against the node it seems to come from.
  match (List.range s.cfg.nodes.length).find? fun i => (s.nodeRt i).rtpAddr = some src with
  | none => s
  | some i =>
      let counted := s.setNode i fun n => countAuthFail n s.nowMs
      match ((counted.nodeRt i).session) with
      | some session =>
          if s.cfg.authFailKick < (counted.nodeRt i).srtpFailCount then
            counted.sendKicked session.c .authFailures "SRTP authentication failure threshold"
          else counted
      | none => counted

def AudioNode.advance (an : AudioNode) : AudioNode :=
  { an with
    outSeq := (an.outSeq + 1) % 65536
    outTs := (an.outTs + Link.rtpFrameTsTicks) % 4294967296 }

def forward (s : State) (tgIdx sender peer : Nat) (p : RtpPacket) (delivered : Bool) : State :=
  -- `audio_node_send_to`, for a peer whose return path is known.
  (s.setNode peer fun n =>
    let n := n.setAudio AudioNode.advance
    if delivered then { n with rtpOut := n.rtpOut + 1, bytesOut := n.bytesOut + p.len } else n).note
      (.forwarded tgIdx sender peer)

def fanOut (s : State) (tgIdx sender : Nat) (p : RtpPacket) (delivers : Nat → Bool) : State :=
  (s.cfg.members tgIdx).foldl (fun s peer =>
    if peer = sender ∨ (s.nodeRt peer).rtpAddr = none then s
    else forward s tgIdx sender peer p (delivers peer)) s

def denyFloor (s : State) (tgIdx sender : Nat) : State :=
  if 500 ≤ s.nowMs - (s.nodeRt sender).lastFloorDeniedMs then
    match (s.nodeRt sender).session with
    | some session =>
        (sendFloorDenied s session.c tgIdx).setNode sender fun n =>
          { n with lastFloorDeniedMs := s.nowMs }
    | none => s
  else s

def NodeRt.received (n : NodeRt) (nowMs : Int) (len : Nat) : NodeRt :=
  { n with rtpIn := n.rtpIn + 1, bytesIn := n.bytesIn + len, lastPktAt := nowMs }

def acceptAudio (s : State) (sender : Nat) (p : RtpPacket) (d : Datagram) : State :=
  -- A packet from an authenticated sender that is not muted.
  if p.payloadType = Link.rtpBootstrapPt then s
  else
    match rcfgTgIdx s.cfg (s.nodeRt sender).curTg with
    | none => s
    | some tgIdx =>
        match floorTryGrant s tgIdx sender with
        | none => denyFloor s tgIdx sender
        | some granted =>
            fanOut (granted.setNode sender fun n => n.received s.nowMs d.len) tgIdx sender p
              d.delivers

def audioPacket (s : State) (d : Datagram) : State :=
  -- One turn of `audio_drain_udp`.
  if rtpOk d then
    match findSender s d with
    | none => authFailure s d.src
    | some (sender, p) =>
        let learned := s.setNode sender fun n => n.setAudio fun an => { an with rtpAddr := some d.src }
        if (s.nodeRt sender).muted then learned else acceptAudio learned sender p d
  else s

/-! ## Events -/

structure Frame where
  len : Nat
  request : Request

inductive Event where
  | wsOpen (c : Nat) (challenge : Option (List Nat))
  | wsMsg (c : Nat) (frame : Frame) (draw : LoginDraw)
  | close (c : Nat)
  | datagram (d : Datagram)
  | floorTick
  | keepaliveTick
  | reload (loaded : Option Rcfg)
  | admin (nodeId : Option String) (action : NodeAction)
  | adminReleaseFloor (tg : Int)

def Event.conn : Event → Option Nat
  -- The connection that the event is about.
  | .wsOpen c _ | .wsMsg c _ _ | .close c => some c
  | _ => none

/-- The time since the last event, and the wall clock. -/
structure Moment where
  elapsed : Nat
  time : Int

def Conn.fresh : Conn where
  state := .awaitingLogin
  challenge := []
  lastTrafficMs := 0
  lastPingMs := 0
  waitingPong := false
  badMsgWindowStartMs := 0
  badMsgCount := 0
  isDraining := false
  isClosing := false

def openConn (s : State) (c : Nat) (challenge : Option (List Nat)) : State :=
  match s.conns c with
  | some _ => s
  | none =>
      sendHello
        { s with
          conns := Function.update s.conns c (some Conn.fresh)
          sent := Function.update s.sent c [] } c challenge

def receive (s : State) (c : Nat) (frame : Frame) (draw : LoginDraw) : State :=
  match s.conns c with
  | none => s
  | some cs =>
      if Link.maxMsg < frame.len then s.sendThenClose c (.error .protocolError "too long")
      else handleMessage s c cs frame.request draw

def State.at (s : State) (m : Moment) : State :=
  { s with nowMs := s.nowMs + m.elapsed, time := m.time }

def handle (s : State) : Event → State
  | .wsOpen c challenge => openConn s c challenge
  | .wsMsg c frame draw => receive s c frame draw
  | .close c => closeConn s c
  | .datagram d => audioPacket s d
  | .floorTick => floorTick s
  | .keepaliveTick => keepaliveTick s
  | .reload loaded => doReload s loaded
  | .admin nodeId action => (adminNodeAction s nodeId action).1
  | .adminReleaseFloor tg => (adminReleaseFloor s tg).1

def step (s : State) (timed : Moment × Event) : State :=
  handle (s.at timed.1) timed.2

end Kerchunk.Reflectd
