import Kerchunk.Link.Proto
import Kerchunk.Reflectd.Config
import Mathlib.Logic.Function.Basic

set_option autoImplicit false

/-!
# The reflector's runtime state (`src/reflectd/main.c`, `audio.c`)

Nodes and talkgroups are numbered by their place in the configuration, as the
runtime tables are. One step reads the clock once.
-/

namespace Kerchunk.Reflectd

open Link (Msg ErrCode)

structure AudioNode where
  nodeSsrc : Nat
  reflectorSsrc : Nat
  outSeq : Nat
  outTs : Nat
  rtpAddr : Option Nat

/-- `connected`, `c` and `audio` are set together by a login and cleared together by a close. -/
structure Session where
  c : Nat
  audio : AudioNode

def lossHistLen : Nat := 3
def lossHistTrip : Nat := 2

structure NodeRt where
  session : Option Session
  curTg : Nat
  lastFloorDeniedMs : Int
  srtpWindowStartMs : Int
  srtpFailCount : Int
  muted : Bool
  muteReason : String
  connectedAt : Int
  lastPktAt : Int
  rtpIn : Nat
  rtpOut : Nat
  bytesIn : Nat
  bytesOut : Nat
  floorHolds : Nat
  /-- The source's `floor_seconds`, in the milliseconds it is summed from. -/
  floorMs : Int
  floorStartedMs : Int
  lastLossPct : Rat
  lastQualityAt : Int
  lossHist : List Rat
  lossHistN : Nat
  clientVersion : String

def NodeRt.connected (n : NodeRt) : Bool := n.session.isSome

def NodeRt.zero : NodeRt where
  session := none
  curTg := 0
  lastFloorDeniedMs := 0
  srtpWindowStartMs := 0
  srtpFailCount := 0
  muted := false
  muteReason := ""
  connectedAt := 0
  lastPktAt := 0
  rtpIn := 0
  rtpOut := 0
  bytesIn := 0
  bytesOut := 0
  floorHolds := 0
  floorMs := 0
  floorStartedMs := 0
  lastLossPct := 0
  lastQualityAt := 0
  lossHist := List.replicate lossHistLen 0
  lossHistN := 0
  clientVersion := ""

structure TgRt where
  talkerNodeIdx : Option Nat
  leaseExpiresMs : Int

/-- `node_idx` is set exactly when the connection is authenticated. -/
inductive ConnState where
  | awaitingLogin
  | authenticated (nodeIdx : Nat)
deriving DecidableEq

structure Conn where
  state : ConnState
  challenge : List Nat
  lastTrafficMs : Int
  lastPingMs : Int
  waitingPong : Bool
  badMsgWindowStartMs : Int
  badMsgCount : Nat
  isDraining : Bool
  isClosing : Bool

def Conn.nodeIdx (cs : Conn) : Option Nat :=
  match cs.state with
  | .awaitingLogin => none
  | .authenticated nodeIdx => some nodeIdx

/-- What the daemon does beside sending control messages to single nodes. `talker` is a broadcast
with the number and the node id that it carries. -/
inductive Note where
  | talker (tgIdx : Nat) (node : Option Nat) (tg : Nat) (nodeId : Option String) (stamp : Int)
  | airtime (tgIdx node : Nat) (ms stamp : Int)
  | login (node : Nat)
  | forwarded (tgIdx sender peer : Nat)
deriving DecidableEq

structure State where
  cfg : Rcfg
  nodeRt : Nat → NodeRt
  tgRt : Nat → TgRt
  conns : Nat → Option Conn
  /-- The messages sent on each connection since it opened. -/
  sent : Nat → List Msg
  log : List Note
  nowMs : Int
  time : Int
  reloadCount : Nat
  lastReloadAt : Int

-- `main` marks the configured talkgroups idle; the other slots keep the zero of static storage.
def State.init (cfg : Rcfg) (bootMs : Nat) : State where
  cfg := cfg
  nodeRt := fun _ => NodeRt.zero
  tgRt := fun tgIdx =>
    { talkerNodeIdx := if tgIdx < cfg.tgs.length then none else some 0
      leaseExpiresMs := 0 }
  conns := fun _ => none
  sent := fun _ => []
  log := []
  nowMs := bootMs + 1
  time := 0
  reloadCount := 0
  lastReloadAt := 0

namespace State

def send (s : State) (c : Nat) (m : Msg) : State :=
  { s with sent := Function.update s.sent c (s.sent c ++ [m]) }

def setConn (s : State) (c : Nat) (change : Conn → Conn) : State :=
  { s with conns := Function.update s.conns c ((s.conns c).map change) }

def setNode (s : State) (nodeIdx : Nat) (change : NodeRt → NodeRt) : State :=
  { s with nodeRt := Function.update s.nodeRt nodeIdx (change (s.nodeRt nodeIdx)) }

def setTg (s : State) (tgIdx : Nat) (t : TgRt) : State :=
  { s with tgRt := Function.update s.tgRt tgIdx t }

def note (s : State) (n : Note) : State :=
  { s with log := s.log ++ [n] }

def sendThenClose (s : State) (c : Nat) (m : Msg) : State :=
  (s.send c m).setConn c fun cs => { cs with isDraining := true }

def sendKicked (s : State) (c : Nat) (code : ErrCode) (msg : String) : State :=
  s.sendThenClose c (.kicked code msg)

def sendLoginDenied (s : State) (c : Nat) (code : ErrCode) (msg : String) : State :=
  s.sendThenClose c (.loginDenied code msg)

def sendNode (s : State) (nodeIdx : Nat) (m : Msg) : State :=
  -- To a node's connection, when it has one.
  match (s.nodeRt nodeIdx).session with
  | some session => s.send session.c m
  | none => s

def sendNodes (s : State) (nodeIdxs : List Nat) (m : Msg) : State :=
  nodeIdxs.foldl (fun s nodeIdx => s.sendNode nodeIdx m) s

end State

end Kerchunk.Reflectd
