import Kerchunk.Config.Layout

set_option autoImplicit false

/-!
# Users and groups made over the web (`src/kerchunk_user.c`, `modules/mod_web.c`)

A request writes to the configuration at once. The tables of users and groups, in which it looks for
a free id, are read from the configuration again when the main loop reloads.
-/

namespace Kerchunk.Users

open Config

/-! ## The user database -/

def maxUserId : Nat := 9999
def maxGroups : Nat := 16

structure User where
  id : Nat
  name : Text
  username : Text
  dtmfLogin : Text
  ani : Text
deriving DecidableEq

structure Group where
  id : Nat
  name : Text
deriving DecidableEq

def decimal (n : Nat) : Text :=
  Nat.toDigits 10 n

inductive Kind where
  | user
  | group
deriving DecidableEq

def Kind.sectionName : Kind → Nat → Text
  | .user, id => "user.".toList ++ decimal id
  | .group, id => "group.".toList ++ decimal id

def Kind.maxId : Kind → Nat
  | .user => maxUserId
  | .group => maxGroups

def deriveUsername (name : Text) : Text :=
  (name.map fun c => if c = ' ' then '_' else c.toLower).take 31

def loadUser (cfg : KerchunkConfig) (id : Nat) : Option User :=
  let get (key : String) := configGet cfg (Kind.user.sectionName id) key.toList
  (get "name").map fun stored =>
    let name := bounded 32 stored
    { id := id
      name := name
      username :=
        match get "username" with
        | some (c :: rest) => bounded 32 (c :: rest)
        | _ => deriveUsername name
      dtmfLogin := bounded 8 ((get "dtmf_login").getD [])
      ani := bounded 16 ((get "ani").getD []) }

def loadGroup (cfg : KerchunkConfig) (id : Nat) : Option Group :=
  (configGet cfg (Kind.group.sectionName id) "name".toList).map fun stored =>
    { id := id, name := bounded 32 stored }

def userInit (cfg : KerchunkConfig) : List User :=
  -- The users that `kerchunk_user_init` finds.
  (List.range' 1 maxUserId).filterMap (loadUser cfg)

def groupInit (cfg : KerchunkConfig) : List Group :=
  (List.range' 1 maxGroups).filterMap (loadGroup cfg)

def lookupById (users : List User) (id : Nat) : Option User :=
  users.find? fun u => u.id = id

def lookupByAni (users : List User) (ani : Text) : Option User :=
  if ani = [] then none else users.find? fun u => u.ani ≠ [] ∧ u.ani = ani

-- `strcasecmp`
def lookupByUsername (users : List User) (username : Text) : Option User :=
  if username = [] then none
  else users.find? fun u => u.username.map Char.toLower = username.map Char.toLower

def groupById (groups : List Group) (id : Nat) : Option Group :=
  groups.find? fun g => g.id = id

/-! ## State -/

structure Peer where
  isIp6 : Bool
  ip : List UInt8
deriving DecidableEq

structure RateEntry where
  peer : Peer
  firstAttempt : Int
  count : Nat
deriving DecidableEq

def registerRateLimitS : Int := 10
def regRateLimitSize : Nat := 16
def regRateLimitWindow : Int := 3600
def regRateLimitMax : Nat := 5

def nobody : Peer where
  isIp6 := false
  ip := List.replicate 16 0

/-- What registration remembers between requests. -/
structure Registrar where
  enabled : Bool
  lastRegisterTime : Int
  regRate : List RateEntry
  regRateIdx : Nat

/-- `separate` says that users have a file of their own; `file` is the one users are kept in. -/
structure State where
  separate : Bool
  cfg : KerchunkConfig
  file : Text
  users : List User
  groups : List Group
  reload : Bool
  registrar : Registrar

/-- How a save ends. Writes that fail half way are not noticed. -/
inductive Save where
  | whole
  | refused
  | cut (bytes : Nat)

def Save.result (save : Save) (file new : Text) : Text :=
  match save with
  | .whole => new
  | .refused => file
  | .cut bytes => new.take bytes

/-! ## Records -/

/-- A record that a request makes: keys and values are set one after another. -/
structure Created where
  kind : Kind
  id : Nat
  /-- The generated login and ANI. -/
  codes : Option (Text × Text)
  fields : List (String × Text)

def Created.sectionName (r : Created) : Text :=
  r.kind.sectionName r.id

def Created.calls (r : Created) : List SetCall :=
  r.fields.map fun field =>
    { sectionName := r.sectionName, key := field.1.toList, value := field.2 }

inductive Reply where
  | refused (status : Nat) (error : String)
  | created (r : Created)

def State.store (s : State) (r : Created) (save : Save) : State :=
  -- Set, save and ask for a reload.
  let cfg := r.calls.foldl applySet s.cfg
  { s with
    cfg := cfg
    file := save.result s.file (configSave cfg)
    reload := true }

/-! ## Creating users and groups -/

/-- The strings and numbers that the request's JSON has. -/
structure UserBody where
  name : Option Text
  username : Option Text
  email : Option Text
  callsign : Option Text
  dtmfLogin : Option Text
  ani : Option Text
  access : Option Int
  voicemail : Option Int
  group : Option Int
  totpSecret : Option Text

def number (value : Option Int) (default : Int) : Text :=
  (toString (value.getD default)).toList

def optional (key : String) (value : Option Text) : List (String × Text) :=
  (value.map fun v => (key, v)).toList

def UserBody.fields (b : UserBody) (name : Text) : List (String × Text) :=
  [("name", name)] ++ optional "username" b.username ++ optional "email" b.email ++
    optional "callsign" (b.callsign.map (List.map Char.toUpper)) ++
    [("dtmf_login", b.dtmfLogin.getD []),
      ("ani", b.ani.getD []),
      ("access", number b.access 1),
      ("voicemail", number b.voicemail 0),
      ("group", number b.group 0),
      ("totp_secret", b.totpSecret.getD [])]

def nextUserId (users : List User) : Option Nat :=
  (List.range' 1 maxUserId).find? fun id => lookupById users id = none

def nextGroupId (groups : List Group) : Option Nat :=
  (List.range' 1 maxGroups).find? fun id => groupById groups id = none

def userCreate (s : State) (b : UserBody) : Reply :=
  match b.name with
  | none => .refused 400 "Missing name"
  | some name =>
    match nextUserId s.users with
    | none => .refused 400 "Max users reached"
    | some id => .created { kind := .user, id := id, codes := none, fields := b.fields name }

def groupCreate (s : State) (name : Option Text) : Reply :=
  match name with
  | none => .refused 400 "Missing name"
  | some name =>
    match nextGroupId s.groups with
    | none => .refused 400 "Max groups reached"
    | some id => .created { kind := .group, id := id, codes := none, fields := [("name", name)] }

/-! ## Registration -/

/-- A request to register, with the clock readings and what the random device gives. -/
structure Registration where
  peer : Peer
  now : Int
  username : Option Text
  name : Option Text
  email : Option Text
  callsign : Option Text
  loginDraws : Nat → Option Nat
  aniDraws : Nat → Option Nat
  later : Int

def secureRandomInt (min max : Nat) : Option Nat → Nat
  | none => min
  | some r => min + r % (max - min + 1)

def Peer.same (a b : Peer) : Bool :=
  a.isIp6 = b.isIp6 && a.ip.take (if b.isIp6 then 16 else 4) = b.ip.take (if b.isIp6 then 16 else 4)

def Registrar.admitPeer (reg : Registrar) (peer : Peer) (now : Int) : Option Registrar :=
  -- `none` when the address has registered too often.
  match reg.regRate.findIdx? fun e => e.peer.same peer with
  | some i =>
    match reg.regRate[i]? with
    | none => some reg
    | some e =>
      if now - e.firstAttempt < regRateLimitWindow then
        if e.count ≥ regRateLimitMax then none
        else some { reg with regRate := reg.regRate.set i { e with count := e.count + 1 } }
      else some { reg with regRate := reg.regRate.set i { e with firstAttempt := now, count := 1 } }
  | none =>
    some { reg with
      regRate := reg.regRate.set (reg.regRateIdx % regRateLimitSize)
        { peer := peer, firstAttempt := now, count := 1 }
      regRateIdx := reg.regRateIdx + 1 }

def generate (min max : Nat) (draws : Nat → Option Nat) (taken : Text → Bool) : Option Text :=
  -- The first of at most 100 drawn codes that is not taken.
  ((List.range 100).map fun i => decimal (secureRandomInt min max (draws i))).find? fun code =>
    !taken code

def nonEmpty (value : Option Text) : Option Text :=
  value.filter fun v => !(cstr v).isEmpty

def Registration.fields (q : Registration) (username login ani : Text) : List (String × Text) :=
  [("username", username), ("name", (nonEmpty q.name).getD username)] ++
    optional "email" (nonEmpty q.email) ++
    optional "callsign" ((nonEmpty q.callsign).map (List.map Char.toUpper)) ++
    [("dtmf_login", login), ("ani", ani), ("access", ['1']), ("voicemail", ['0']),
      ("group", ['0'])]

def register (users : List User) (q : Registration) : Reply :=
  -- The checks that follow the rate limits.
  let username := cstr (q.username.getD [])
  if username = [] then .refused 400 "Missing username"
  else if username.any fun c => c = ' ' || c ≠ c.toLower then
    .refused 400 "Username must be lowercase with no spaces"
  else
    let username := username.take 31
    if (lookupByUsername users username).isSome then .refused 409 "Username already taken"
    else
      match nextUserId users with
      | none => .refused 503 "No user slots available"
      | some id =>
        match generate 1000 9999 q.loginDraws fun code => users.any fun u => u.dtmfLogin = code with
        | none => .refused 503 "Could not generate unique DTMF login"
        | some login =>
          match generate 10000 99999 q.aniDraws fun code => (lookupByAni users code).isSome with
          | none => .refused 503 "Could not generate unique ANI"
          | some ani =>
            .created {
              kind := .user
              id := id
              codes := some (login, ani)
              fields := q.fields username login ani }

def apiRegister (s : State) (q : Registration) : Reply × Registrar :=
  -- The reply, and what registration remembers.
  if !s.registrar.enabled then (.refused 403 "Registration disabled", s.registrar)
  else if q.now - s.registrar.lastRegisterTime < registerRateLimitS then
    (.refused 429 "Too many requests, try again later", s.registrar)
  else
    match s.registrar.admitPeer q.peer q.now with
    | none => (.refused 429 "too many registrations, try again later", s.registrar)
    | some reg =>
      match register s.users q with
      | .refused status error => (.refused status error, reg)
      | .created r => (.created r, { reg with lastRegisterTime := q.later })

/-! ## Reloading -/

def reloaded (readable : Bool) (file : Text) : KerchunkConfig :=
  -- The table after `kerchunk_config_reload`: empty when the file cannot be opened.
  if readable then (fileEntries file).take maxEntries else []

def reloads (readable : Bool) (file : Text) : Bool :=
  readable && (parseFile file).isSome

def State.refresh (s : State) (cfg : KerchunkConfig) (registration : Bool) : State :=
  { s with
    cfg := cfg
    users := userInit cfg
    groups := groupInit cfg
    registrar := { s.registrar with enabled := registration } }

/-- The part of the main loop that reloads. `mainOk` says whether the main configuration reloads
when users have a file of their own, `registration` whether it then allows registering. -/
def mainTurn (s : State) (mainOk readable registration : Bool) : State :=
  if !s.reload then s
  else
    let cfg := reloaded readable s.file
    let s := { s with reload := false }
    if s.separate then
      if mainOk then s.refresh cfg registration else s
    else if reloads readable s.file then s.refresh cfg registration
    else { s with cfg := cfg }

/-! ## Steps -/

inductive Input where
  | createUser (b : UserBody) (save : Save)
  | createGroup (name : Option Text) (save : Save)
  | register (q : Registration) (save : Save)
  | hangup
  | turn (mainOk readable registration : Bool)

def reply (s : State) : Input → Option (Reply × Save)
  | .createUser b save => some (userCreate s b, save)
  | .createGroup name save => some (groupCreate s name, save)
  | .register q save => some ((apiRegister s q).1, save)
  | .hangup => none
  | .turn _ _ _ => none

def created (s : State) (i : Input) : Option (Created × Save) :=
  -- The record that an accepted request makes.
  match reply s i with
  | some (.created r, save) => some (r, save)
  | _ => none

def settle (s : State) : Input → State
  -- What a step changes beside storing a record.
  | .register q _ => { s with registrar := (apiRegister s q).2 }
  | .hangup => { s with reload := true }
  | .turn mainOk readable registration => mainTurn s mainOk readable registration
  | _ => s

def step (s : State) (i : Input) : State :=
  match created s i with
  | some (r, save) => (settle s i).store r save
  | none => settle s i

def idle (enabled : Bool) : Registrar where
  enabled := enabled
  lastRegisterTime := 0
  regRate := List.replicate regRateLimitSize { peer := nobody, firstAttempt := 0, count := 0 }
  regRateIdx := 0

def boot (separate enabled : Bool) (file : Text) : Option State :=
  -- The state after a start with this file of users.
  (parseFile file).map fun cfg =>
    { separate := separate
      cfg := cfg
      file := file
      users := userInit cfg
      groups := groupInit cfg
      reload := false
      registrar := idle enabled }

end Kerchunk.Users
