import Kerchunk.Link.Client
import Kerchunk.Reflectd.Daemon

set_option autoImplicit false

/-!
# A client and the reflector

One client over its connections, in order and without loss, with the reflector,
which has other clients too.
-/

namespace Kerchunk.Link

open Reflectd (Event LoginDraw Moment State)

/-- `mine` are the connections that the client has made. Of its current one, `accepted` says that
the reflector has taken it, and `delivered` counts the messages that have arrived. -/
structure Network where
  server : State
  client : Client
  mine : Nat → Bool
  accepted : Bool
  delivered : Nat
  requests : Nat → List Request

/-- `elsewhere` is any event of the reflector but a reload, away from the client's connections. -/
inductive Input where
  | elsewhere (timed : Moment × Event)
  | accept (m : Moment) (challenge : Option (List Nat))
  | upgraded
  | deliver (answers : Client.Answers)
  | serve (c : Nat) (m : Moment) (len : Nat) (draw : LoginDraw)
  | serverClose (c : Nat) (m : Moment)
  | clientClose (now : Int) (rand : Nat)
  | clientError (text : String)
  | poll (now : Int) (lossPct : Option Rat) (dialled : Option Nat)
  | command (command : Client.Command)

namespace Network

def init (server : Reflectd.Rcfg) (bootMs : Nat) (client : LinkCfg) : Network where
  server := State.init server bootMs
  client := Client.init client
  mine := fun _ => false
  accepted := false
  delivered := 0
  requests := fun _ => []

def isElsewhere (n : Network) : Event → Bool
  | .reload _ => false
  | e => e.conn.all fun c => !n.mine c

def sendRequests (n : Network) (sent : List Request) : Network :=
  -- What the client sends goes out on its connection.
  match n.client.ws with
  | none => n
  | some c => { n with requests := Function.update n.requests c (n.requests c ++ sent) }

def accept (n : Network) (m : Moment) (challenge : Option (List Nat)) : Network :=
  match n.client.ws with
  | none => n
  | some c =>
      if n.accepted then n
      else
        { n with
          server := Reflectd.step n.server (m, .wsOpen c challenge), accepted := true, delivered := 0 }

def deliver (n : Network) (answers : Client.Answers) : Network :=
  match n.client.ws with
  | none => n
  | some c =>
      if n.accepted ∧ n.client.state ≠ .connecting then
        match (n.server.sent c)[n.delivered]? with
        | none => n
        | some m =>
            let (heard, sent) := n.client.onWsMsg m answers
            { n.sendRequests sent with client := heard, delivered := n.delivered + 1 }
      else n

def serve (n : Network) (c : Nat) (m : Moment) (len : Nat) (draw : LoginDraw) : Network :=
  match n.requests c with
  | [] => n
  | request :: rest =>
      { n with
        server := Reflectd.step n.server (m, .wsMsg c { len := len, request := request } draw)
        requests := Function.update n.requests c rest }

def clientClose (n : Network) (now : Int) (rand : Nat) : Network :=
  match n.client.ws with
  | none => n
  | some _ => { n with client := n.client.onClose now rand, accepted := false, delivered := 0 }

def isFresh (n : Network) (c : Nat) : Bool :=
  -- A connection that the client makes is a new one.
  !n.mine c && (n.server.conns c).isNone && (n.requests c).isEmpty

def poll (n : Network) (now : Int) (lossPct : Option Rat) (dialled : Option Nat) : Network :=
  if dialled.all n.isFresh then
    let (polled, sent) := n.client.poll now lossPct dialled
    { n.sendRequests sent with
      client := polled, mine := fun c => n.mine c || decide (polled.ws = some c) }
  else n

def step (n : Network) : Input → Network
  | .elsewhere timed =>
      if n.isElsewhere timed.2 then { n with server := Reflectd.step n.server timed } else n
  | .accept m challenge => n.accept m challenge
  | .upgraded =>
      if n.accepted ∧ n.client.state = .connecting then { n with client := n.client.onWsOpen } else n
  | .deliver answers => n.deliver answers
  | .serve c m len draw => n.serve c m len draw
  | .serverClose c m =>
      if n.mine c then { n with server := Reflectd.step n.server (m, .close c) } else n
  | .clientClose now rand => n.clientClose now rand
  | .clientError text => { n with client := n.client.setError ("ws: " ++ text) }
  | .poll now lossPct dialled => n.poll now lossPct dialled
  | .command command => { n with client := n.client.command command }

/-! ## Agreement -/

def Quiet (n : Network) (c : Nat) : Prop :=
  -- Nothing is under way on the client's connection, its close included.
  (n.server.conns c).isSome ∧ n.delivered = (n.server.sent c).length ∧ n.requests c = []

def Agrees (n : Network) : Prop :=
  -- A connected client and the reflector agree on the client's node.
  n.client.state = .connected →
    ∃ c, n.client.ws = some c ∧ (n.Quiet c →
      ∃ k, Reflectd.rcfgNodeIdx n.server.cfg n.client.cfg.nodeId = some k ∧
        n.client.muted = (n.server.nodeRt k).muted ∧
        n.client.currentTg = (n.server.nodeRt k).curTg)

end Network

end Kerchunk.Link
