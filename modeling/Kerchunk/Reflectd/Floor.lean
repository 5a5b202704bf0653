import Kerchunk.Reflectd.State

set_option autoImplicit false

/-!
# Rosters and floor control (`src/reflectd/main.c`)
-/

namespace Kerchunk.Reflectd

open Link (Msg ErrCode)

def buildTgMembers (s : State) (tgIdx : Nat) : List (String × Bool) :=
  (s.cfg.members tgIdx).map fun p => (s.cfg.nodeId p, (s.nodeRt p).connected)

def broadcastTgRoster (s : State) (tgIdx : Nat) : State :=
  s.sendNodes (s.cfg.members tgIdx) (.tgRoster (s.cfg.tgNumber tgIdx) (buildTgMembers s tgIdx))

def broadcastTalker (s : State) (tgIdx : Nat) (talker except : Option Nat) : State :=
  (s.sendNodes ((s.cfg.members tgIdx).filter fun idx => decide (some idx ≠ except))
    (.talker (s.cfg.tgNumber tgIdx) (talker.map s.cfg.nodeId) s.time)).note
      (.talker tgIdx talker (s.cfg.tgNumber tgIdx) (talker.map s.cfg.nodeId) s.nowMs)

def TgRt.heldByOther (t : TgRt) (nodeIdx : Nat) : Bool :=
  t.talkerNodeIdx.any fun holder => holder != nodeIdx

def startHold (s : State) (tgIdx nodeIdx : Nat) : State :=
  (broadcastTalker s tgIdx (some nodeIdx) none).setNode nodeIdx fun n =>
    { n with floorHolds := n.floorHolds + 1, floorStartedMs := s.nowMs }

def floorBusy (s : State) (tgIdx nodeIdx : Nat) : Bool :=
  -- Someone else holds the floor, and its lease runs.
  (s.tgRt tgIdx).heldByOther nodeIdx && decide (s.nowMs < (s.tgRt tgIdx).leaseExpiresMs)

def floorTryGrant (s : State) (tgIdx nodeIdx : Nat) : Option State :=
  -- `none` when the floor is busy.
  let t := s.tgRt tgIdx
  if floorBusy s tgIdx nodeIdx then none
  else
    let granted := s.setTg tgIdx
      { talkerNodeIdx := some nodeIdx, leaseExpiresMs := s.nowMs + s.cfg.hangtimeMs }
    -- A holder whose lease has run out is replaced here without `floorRelease`.
    if t.talkerNodeIdx = none ∨ t.talkerNodeIdx ≠ some nodeIdx then
      some (startHold granted tgIdx nodeIdx)
    else some granted

def tally (s : State) (tgIdx holder : Nat) : State :=
  -- Credit the holder for the time since its grant.
  let started := (s.nodeRt holder).floorStartedMs
  if 0 < started then
    let ms := s.nowMs - started
    (s.setNode holder fun n =>
      { n with floorMs := if 0 < ms then n.floorMs + ms else n.floorMs, floorStartedMs := 0 }).note
        (.airtime tgIdx holder ms s.nowMs)
  else s

def floorRelease (s : State) (tgIdx : Nat) (reasonForRevoked : Option ErrCode) : State :=
  match (s.tgRt tgIdx).talkerNodeIdx with
  | none => s
  | some holder =>
      let idle := (tally s tgIdx holder).setTg tgIdx { talkerNodeIdx := none, leaseExpiresMs := 0 }
      let told := broadcastTalker idle tgIdx none none
      match reasonForRevoked with
      | none => told
      | some code => told.sendNode holder (.floorRevoked (s.cfg.tgNumber tgIdx) code)

def TgRt.expired (t : TgRt) (now : Int) : Bool :=
  t.talkerNodeIdx.isSome && decide (t.leaseExpiresMs ≤ now)

def floorTick (s : State) : State :=
  (List.range s.cfg.tgs.length).foldl (fun s tgIdx =>
    if (s.tgRt tgIdx).expired s.nowMs then floorRelease s tgIdx (some .leaseExpired) else s) s

def sendFloorDenied (s : State) (c tgIdx : Nat) : State :=
  let holder := ((s.tgRt tgIdx).talkerNodeIdx.map s.cfg.nodeId).getD "?"
  s.send c (.floorDenied (s.cfg.tgNumber tgIdx) holder)

def keepaliveConn (nowMs kaliveMs : Int) (cs : Conn) : Conn × Bool :=
  -- Ping a quiet connection; close one that did not answer the last ping.
  if cs.isClosing || cs.isDraining || cs.nodeIdx.isNone then (cs, false)
  else if cs.waitingPong then
    if kaliveMs < nowMs - cs.lastPingMs then ({ cs with isClosing := true }, false) else (cs, false)
  else if kaliveMs < nowMs - cs.lastTrafficMs then
    ({ cs with lastPingMs := nowMs, waitingPong := true }, true)
  else (cs, false)

def keepaliveTick (s : State) : State :=
  let visit := keepaliveConn s.nowMs (s.cfg.keepaliveS * 1000)
  { s with
    conns := fun c => (s.conns c).map fun cs => (visit cs).1
    sent := fun c =>
      if (s.conns c).any fun cs => (visit cs).2 then s.sent c ++ [.ping s.nowMs] else s.sent c }

end Kerchunk.Reflectd
