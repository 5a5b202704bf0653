import Kerchunk.Config.Ini
import Kerchunk.Lib.CircularWindow
import Kerchunk.Lib.Tables
import Kerchunk.Lib.Machine

set_option autoImplicit false

/-!
# Push tokens and the push worker (`modules/mod_poc_apns.c`)

What a mutex protects is one step, apart from `apns_push_all`, which keeps the token store locked
while it queues one job after the other.
-/

namespace Kerchunk.Push

open Kerchunk.Config (Text bounded)

abbrev Token := List UInt8

def maxTokens : Nat := 128
def apnsQueueSize : Nat := 64

structure ApnsConfig where
  enabled : Bool
  topic : Text
deriving DecidableEq

structure TokenEntry where
  uid : UInt32
  token : Token
  bundleId : Text
  registeredMs : Int
  lastSeenMs : Int
  connected : Bool
deriving DecidableEq

structure PushJob where
  uid : UInt32
  token : Token
  bundleId : Text
  talker : Text
  groupId : UInt32
  retried : Bool
deriving DecidableEq, Inhabited

/-- A call of `apns_push_all` in progress, and the entries it has not come to. -/
structure Pushing where
  left : List TokenEntry
  talker : Option Text
  groupId : UInt32
  excludeUid : UInt32
deriving DecidableEq

/-- Where the worker is: `attempts` counts the HTTP requests made for the job, and `http` is the
status that makes its token a dead one. -/
inductive Worker where
  | idle
  | trying (job : PushJob) (attempts : Nat)
  | evicting (job : PushJob) (attempts http : Nat)
  | ended
deriving DecidableEq

structure Finished where
  job : PushJob
  attempts : Nat
  sent : Bool
deriving DecidableEq

/-- The jobs that were accepted into the ring, taken from it and finished are noted besides, and so
are the registrations with a valid length and the replies to pushes. -/
structure State where
  cfg : ApnsConfig
  tokens : List TokenEntry
  pushing : Option Pushing
  ring : CountedRing PushJob
  worker : Worker
  stop : Bool
  sent : Nat
  failed : Nat
  dropped : Nat
  registered : List (UInt32 × Token)
  accepted : List PushJob
  taken : List PushJob
  replies : List (PushJob × Nat)
  finished : List Finished

def create (cfg : ApnsConfig) : State where
  cfg := cfg
  tokens := []
  pushing := none
  ring := CountedRing.empty
  worker := .idle
  stop := false
  sent := 0
  failed := 0
  dropped := 0
  registered := []
  accepted := []
  taken := []
  replies := []
  finished := []

/-! ## The token store -/

def findToken (tokens : List TokenEntry) (uid : UInt32) : Option TokenEntry :=
  KeyedArray.find TokenEntry.uid tokens uid

def validLength (token : Token) : Prop :=
  0 < token.length ∧ token.length ≤ 64

instance (token : Token) : Decidable (validLength token) :=
  inferInstanceAs (Decidable (_ ∧ _))

def TokenEntry.rebound (token : Token) (bundleId : Option Text) (now : Int) (e : TokenEntry) :
    TokenEntry :=
  { e with
    token := token
    bundleId := bounded 128 (bundleId.getD [])
    registeredMs := now
    lastSeenMs := now
    connected := true }

def TokenEntry.dormant (now : Int) (e : TokenEntry) : TokenEntry :=
  if e.connected then { e with connected := false, lastSeenMs := now } else e

def registerToken (s : State) (uid : UInt32) (token : Token) (bundleId : Option Text) (now : Int) :
    State :=
  if ¬ validLength token then s
  else
    let s := { s with registered := s.registered ++ [(uid, token)] }
    match findToken s.tokens uid with
    | some _ =>
      { s with
        tokens :=
          KeyedArray.replace TokenEntry.uid uid (TokenEntry.rebound token bundleId now) s.tokens }
    | none =>
      if s.tokens.length ≥ maxTokens then s
      else
        { s with
          tokens := s.tokens ++
            [{ uid := uid
               token := token
               bundleId := bounded 128 (bundleId.getD [])
               registeredMs := now
               lastSeenMs := now
               connected := true }] }

def markDormant (s : State) (uid : UInt32) (now : Int) : State :=
  { s with tokens := KeyedArray.replace TokenEntry.uid uid (TokenEntry.dormant now) s.tokens }

def evictTokenIfMatch (s : State) (uid : UInt32) (token : Token) : State :=
  -- Only the first entry of the user is looked at.
  match s.tokens.findIdx? fun e => e.uid = uid with
  | none => s
  | some i =>
    if (s.tokens[i]?.map TokenEntry.token) = some token then
      { s with tokens := KeyedArray.swapRemove s.tokens i, dropped := s.dropped + 1 }
    else s

/-! ## The worker -/

def buildTopic (cfg : ApnsConfig) (job : PushJob) : Option Text :=
  if cfg.topic ≠ [] then some (bounded 160 cfg.topic)
  else if job.bundleId ≠ [] then some (bounded 160 (job.bundleId ++ ".voip-ptt".toList))
  else none

def doPushOnce (cfg : ApnsConfig) (job : PushJob) (jwt : Bool) (reply : Nat) : Option Nat :=
  -- The status of the request that is made, 0 for a transport error; `none` when none is made.
  if jwt = false then none
  else
    match buildTopic cfg job with
    | none => none
    | some _ => some reply

def finish (s : State) (job : PushJob) (attempts : Nat) (sent : Bool) : State :=
  { s with
    worker := .idle
    sent := if sent then s.sent + 1 else s.sent
    failed := if sent then s.failed else s.failed + 1
    finished := s.finished ++ [⟨job, attempts, sent⟩] }

def PushJob.Retries (job : PushJob) (http : Nat) : Prop :=
  (http = 403 ∨ http = 429 ∨ (500 ≤ http ∧ http < 600)) ∧ job.retried = false

instance (job : PushJob) (http : Nat) : Decidable (job.Retries http) :=
  inferInstanceAs (Decidable (_ ∧ _))

def processJob (s : State) (job : PushJob) (attempts : Nat) (jwt : Bool) (reply : Nat) : State :=
  let posted := doPushOnce s.cfg job jwt reply
  let http := posted.getD 0
  let attempts := if posted.isSome then attempts + 1 else attempts
  let s := { s with replies := s.replies ++ (posted.map fun http => (job, http)).toList }
  if http = 200 then finish s job attempts true
  else if (http = 400 ∨ http = 410) ∧ job.retried = false then
    { s with worker := .evicting job attempts http }
  else if job.Retries http then { s with worker := .trying { job with retried := true } attempts }
  else finish s job attempts false

def takeJob (s : State) : State :=
  if s.stop then { s with worker := .ended }
  else
    match s.ring.pop apnsQueueSize with
    | none => s
    | some (job, ring) =>
      { s with ring := ring, worker := .trying job 0, taken := s.taken ++ [job] }

/-! ## Pushing to all -/

def pushAll (s : State) (talker : Option Text) (groupId excludeUid : UInt32) : State :=
  if s.cfg.enabled then { s with pushing := some ⟨s.tokens, talker, groupId, excludeUid⟩ } else s

def pushJob (p : Pushing) (e : TokenEntry) : PushJob where
  uid := e.uid
  token := e.token
  bundleId := bounded 128 e.bundleId
  talker := bounded 64 (p.talker.getD [])
  groupId := p.groupId
  retried := false

def pushNext (s : State) (p : Pushing) : State :=
  match p.left with
  | [] => { s with pushing := none }
  | e :: rest =>
    let s := { s with pushing := some { p with left := rest } }
    if e.uid = p.excludeUid then s
    else
      match s.ring.push apnsQueueSize (pushJob p e) with
      | none => s
      | some ring => { s with ring := ring, accepted := s.accepted ++ [pushJob p e] }

inductive Input where
  | register (uid : UInt32) (token : Token) (bundleId : Option Text) (now : Int)
  | markDormant (uid : UInt32) (now : Int)
  | pushAll (talker : Option Text) (groupId excludeUid : UInt32)
  | pushNext
  | work (jwt : Bool) (reply : Nat)
  | stop

def step (s : State) : Input → State
  -- Who needs the token store waits for the call that pushes to all.
  | .register uid token bundleId now =>
    if s.pushing.isSome then s else registerToken s uid token bundleId now
  | .markDormant uid now => if s.pushing.isSome then s else markDormant s uid now
  | .pushAll talker groupId excludeUid =>
    if s.pushing.isSome then s else pushAll s talker groupId excludeUid
  | .pushNext =>
    match s.pushing with
    | none => s
    | some p => pushNext s p
  | .work jwt reply =>
    match s.worker with
    | .idle => takeJob s
    | .trying job attempts => processJob s job attempts jwt reply
    | .evicting job attempts _ =>
      if s.pushing.isSome then s
      else finish (evictTokenIfMatch s job.uid job.token) job attempts false
    | .ended => s
  | .stop => { s with stop := true }

end Kerchunk.Push
