import Mathlib.Data.Rat.Defs
import Mathlib.Tactic.Common

set_option autoImplicit false

/-!
# The control plane between `kerchunk-reflectd` and `mod_link` (`kerchunk_link_proto.h`)

A message is the record that its JSON text carries.
-/

namespace Kerchunk.Link

def protoVersion : String := "1"
def nonceBytes : Nat := 16
def hmacBytes : Nat := 32
def rtpBootstrapPt : Nat := 99
def rtpFrameTsTicks : Nat := 48000 * 60 / 1000
def rtpMaxPacket : Nat := 1500
def maxMsg : Nat := 1024

inductive ErrCode where
  | badKey | unknownNode | banned | versionMismatch | notAuthorized | unknownTg | nodeBusy
  | leaseExpired | authFailures | adminAction | configReload | protocolError | internal
deriving DecidableEq

def ErrCode.text : ErrCode → String
  | .badKey => "bad_key"
  | .unknownNode => "unknown_node"
  | .banned => "banned"
  | .versionMismatch => "version_mismatch"
  | .notAuthorized => "not_authorized"
  | .unknownTg => "unknown_tg"
  | .nodeBusy => "node_busy"
  | .leaseExpired => "lease_expired"
  | .authFailures => "auth_failures"
  | .adminAction => "admin_action"
  | .configReload => "config_reload"
  | .protocolError => "protocol_error"
  | .internal => "internal"

def linkErrIsPermanent : ErrCode → Bool
  -- The client stops reconnecting on these.
  | .badKey | .unknownNode | .banned | .versionMismatch | .notAuthorized | .unknownTg => true
  | _ => false

structure LoginOk where
  nodeId : String
  talkgroup : Nat
  keepaliveS : Int
  hangtimeMs : Int
  proto : String
  rtpHost : String
  rtpPort : Int
  srtpMasterKey : List Nat
  srtpMasterSalt : List Nat
  ssrc : Nat
  reflectorSsrc : Nat
  tgMembers : List (String × Bool)
deriving DecidableEq

/-- From the reflector to a client. -/
inductive Msg where
  | hello (challenge : List Nat) (reflectorVersion minClientVersion proto : String)
  | loginOk (body : LoginOk)
  | loginDenied (code : ErrCode) (msg : String)
  | kicked (code : ErrCode) (msg : String)
  | error (code : ErrCode) (msg : String)
  | ping (seq : Int)
  | pong (seq : Int)
  | tgOk (tg : Nat) (name : String)
  | tgDenied (tg : Int) (code : ErrCode)
  | tgMembershipChanged (oldTg newTg : Nat)
  | tgRoster (tg : Nat) (members : List (String × Bool))
  | talker (tg : Nat) (nodeId : Option String) (since : Int)
  | floorDenied (tg : Nat) (currentTalker : String)
  | floorRevoked (tg : Nat) (code : ErrCode)
  | mute (reason : String) (retryInS : Int)
  | unmute
  | targetBitrate (bps : Nat)
deriving DecidableEq

structure Login where
  nodeId : Option String
  keyHmac : Option String
  nonce : Option String
  clientVersion : Option String
deriving DecidableEq

/-- From a client to the reflector, by the message's `type`. -/
inductive Request where
  | untyped
  | login (body : Login)
  | ping (seq : Int)
  | pong
  | setTg (tg : Int)
  | quality (lossPct : Rat)
  | simulateTalkStart
  | simulateTalkEnd
  | unhandled (type : String)
deriving DecidableEq

end Kerchunk.Link
