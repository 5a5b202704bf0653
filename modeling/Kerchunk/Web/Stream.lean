import Kerchunk.Events.Consumers
import Kerchunk.Lib.Machine

set_option autoImplicit false

/-!
# The event stream of the web server (`modules/mod_web.c`)

Any thread publishes snapshots and events; the web thread replays the cache to a client that connects
and sends on what is handed over to it. A publication goes through the cache before it is handed over,
and other threads may come between. Memory that runs out, and the server's start and end, are left
out.
-/

namespace Kerchunk.Web

open Events (Text Event EventData unsigned signed truth)

/-! ## Snapshots -/

structure Publication where
  type : Text
  payload : Text
  adminOnly : Bool
  nowUs : Nat
deriving DecidableEq

def Publication.line (p : Publication) : Text :=
  "\x7b\"type\":\"".toList ++ p.type ++ "\",\"data\":".toList ++ p.payload ++ ",\"ts\":".toList ++
    unsigned p.nowUs ++ "\x7d".toList

/-- A publication and the number of those before it. -/
structure Version where
  serial : Nat
  publication : Publication
deriving DecidableEq

def Version.type (v : Version) : Text :=
  v.publication.type

def Version.line (v : Version) : Text :=
  v.publication.line

def Version.adminOnly (v : Version) : Bool :=
  v.publication.adminOnly

def typeSize : Nat := 48

/-- `sse_snapshot_t`. The type was cut when the slot was made. -/
structure Slot where
  type : Text
  version : Version
deriving DecidableEq

def storeSnapshot (v : Version) : List Slot → List Slot
  -- Replace the slot with the same type, or append a new one.
  | [] => [{ type := v.type.take (typeSize - 1), version := v }]
  | slot :: rest =>
    if slot.type = v.type then { slot with version := v } :: rest
    else slot :: storeSnapshot v rest

/-! ## Clients -/

/-- A message for the web thread. -/
inductive Wakeup where
  | snapshot (v : Version)
  | event (isPublic : Bool) (text : Text)
deriving DecidableEq

def Wakeup.isPublic : Wakeup → Bool
  | .snapshot v => !v.adminOnly
  | .event isPublic _ => isPublic

def wakeupRoom : Nat := 16375

def Wakeup.payload : Wakeup → Text
  -- What is left of the message when it is read: the receive buffer has 16384 bytes, for the
  -- connection's id and the scope too.
  | .snapshot v => v.line.take wakeupRoom
  | .event _ text => text.take wakeupRoom

/-- What a client is sent: a version that it comes from, if any, and the text. -/
structure Heard where
  version : Option Version
  text : Text
deriving DecidableEq

def Wakeup.heard (w : Wakeup) : Heard where
  version :=
    match w with
    | .snapshot v => some v
    | .event _ _ => none
  text := w.payload

def dataLine (text : Text) : Text :=
  "data: ".toList ++ text ++ "\n\n".toList

/-- `joined` counts the publications in the cache when the client connected. -/
structure Client where
  admin : Bool
  joined : Nat
  heard : List Heard
deriving DecidableEq

def Client.bytes (c : Client) : Text :=
  c.heard.flatMap fun h => dataLine h.text

def Client.receive (w : Wakeup) (c : Client) : Client :=
  if c.admin || w.isPublic then { c with heard := c.heard ++ [w.heard] } else c

def replay (admin : Bool) (slot : Slot) : Option Heard :=
  -- One snapshot of `emit_snapshot_burst`.
  if slot.version.adminOnly && !admin then none
  else some { version := some slot.version, text := slot.version.line }

/-! ## The status image -/

/-- What `publish_status_snapshot` asks for. -/
structure StatusImage where
  rxState : Text
  txState : Text
  cor : Bool
  ptt : Bool
  emergency : Bool
  emergencyExpiresAt : Int
  queueDepth : Int
  audioListeners : Int
  sampleRate : Int
  registrationEnabled : Bool
deriving DecidableEq

def statusSize : Nat := 480

def StatusImage.payload (s : StatusImage) : Text :=
  "\x7b\"rx_state\":\"".toList ++ s.rxState ++ "\",\"tx_state\":\"".toList ++ s.txState ++
    "\",\"cor\":".toList ++ truth s.cor ++ ",\"ptt\":".toList ++ truth s.ptt ++
    ",\"emergency\":".toList ++ truth s.emergency ++ ",\"emergency_expires_at\":".toList ++
    signed s.emergencyExpiresAt ++ ",\"queue_depth\":".toList ++ signed s.queueDepth ++
    ",\"audio_listeners\":".toList ++ signed s.audioListeners ++ ",\"audio_sample_rate\":".toList ++
    signed s.sampleRate ++ ",\"audio_bitrate_kbps\":".toList ++
    signed ((s.sampleRate * 16).tdiv 1000) ++ ",\"registration_enabled\":".toList ++
    truth s.registrationEnabled ++ "\x7d".toList

def StatusImage.publication (s : StatusImage) (nowUs : Nat) : Option Publication :=
  if s.payload.length ≥ statusSize then none
  else some { type := "status".toList, payload := s.payload, adminOnly := false, nowUs := nowUs }

/-! ## Events -/

def isPublicSafeEvent : EventData → Bool
  | .corAssert | .corDrop | .vcorAssert _ | .vcorDrop _ | .pttAssert | .pttDrop
  | .rxStateChange _ _ | .txStateChange _ _ | .tailStart | .tailExpire | .rxTimeout | .queueDrain
  | .queueComplete _ | .announcement _ _ | .shutdown => true
  | _ => false

def refreshesStatus : EventData → Bool
  | .corAssert | .corDrop | .pttAssert | .pttDrop | .rxStateChange _ _ | .txStateChange _ _
  | .queueDrain | .queueComplete _ | .queuePreempted _ _ | .rxTimeout => true
  | .announcement source _ => source = some "emergency".toList
  | _ => false

/-! ## The stream -/

/-- `published` is what went into the cache so far, `pending` what of it is not handed over yet, and
`handling` the events that wait for the hand-over of theirs. -/
structure Stream where
  published : List Version
  cache : List Slot
  pending : List Version
  handling : List Event
  wakeups : List Wakeup
  clients : List Client
deriving DecidableEq

def start : Stream where
  published := []
  cache := []
  pending := []
  handling := []
  wakeups := []
  clients := []

/-- `taken` says whether the socket takes the message. -/
inductive Act where
  | update (p : Publication)
  | handOver (i : Nat) (taken : Bool)
  | event (evt : Event) (image : StatusImage) (nowUs : Nat)
  | broadcast (i : Nat) (taken : Bool)
  | connect (admin : Bool)
  | deliver
  | close (i : Nat)

def Stream.update (s : Stream) (p : Publication) : Stream :=
  -- `sse_publish_impl` up to the unlocking of the cache.
  if p.type = [] then s
  else
    let v : Version := { serial := s.published.length, publication := p }
    { s with
      published := s.published ++ [v]
      cache := storeSnapshot v s.cache
      pending := s.pending ++ [v] }

def Stream.wake (s : Stream) (taken : Bool) (w : Wakeup) : Stream :=
  -- Nothing is handed over while there are no clients.
  if s.clients.isEmpty || !taken then s else { s with wakeups := s.wakeups ++ [w] }

def Stream.handOver (s : Stream) (i : Nat) (taken : Bool) : Stream :=
  match s.pending[i]? with
  | none => s
  | some v => { s with pending := s.pending.eraseIdx i }.wake taken (.snapshot v)

def statusUpdate (evt : Event) (image : StatusImage) (nowUs : Nat) : Option Publication :=
  if refreshesStatus evt.data then image.publication nowUs else none

def Stream.event (s : Stream) (evt : Event) (image : StatusImage) (nowUs : Nat) : Stream :=
  -- `web_event_handler` up to the look at the number of clients.
  if !Events.webSubscribed evt.data then s
  else
    let s := ((statusUpdate evt image nowUs).map s.update).getD s
    { s with handling := s.handling ++ [evt] }

def Stream.broadcast (s : Stream) (i : Nat) (taken : Bool) : Stream :=
  match s.handling[i]? with
  | none => s
  | some evt =>
    let s := { s with handling := s.handling.eraseIdx i }
    match Events.webEvent evt with
    | none => s
    | some sent => s.wake taken (.event (isPublicSafeEvent evt.data) sent.text)

def Stream.connect (s : Stream) (admin : Bool) : Stream :=
  { s with
    clients := s.clients ++
      [{ admin := admin
         joined := s.published.length
         heard := s.cache.filterMap (replay admin) }] }

def Stream.deliver (s : Stream) : Stream :=
  match s.wakeups with
  | [] => s
  | w :: rest => { s with wakeups := rest, clients := s.clients.map (Client.receive w) }

def step (s : Stream) : Act → Stream
  | .update p => s.update p
  | .handOver i taken => s.handOver i taken
  | .event evt image nowUs => s.event evt image nowUs
  | .broadcast i taken => s.broadcast i taken
  | .connect admin => s.connect admin
  | .deliver => s.deliver
  | .close i => { s with clients := s.clients.eraseIdx i }

end Kerchunk.Web
