import Kerchunk.Lib.Machine
import Kerchunk.Lib.Rfc4648
import Kerchunk.Web.Acl
import Mathlib.Data.List.GetD
import Mathlib.Data.List.Infix
import Mathlib.Data.Nat.Bitwise

set_option autoImplicit false

/-!
# Routes (`modules/mod_web.c`, `vendor/mongoose.c`)

Which handler a request reaches, and who is let through. A character of a text is a byte of the
source's.
-/

namespace Kerchunk.Web.Routes

open Kerchunk.Config (Text)
open Acl (Address AclEntry checkAdminAcl)

def nul : Char := Char.ofNat 0

def printed (size : Nat) (text : Text) : Text :=
  -- `mg_snprintf` of `%.*s` into an array of `size`.
  (CString.read nul text).take (size - 1)

/-! ## `mg_match` -/

def wild (c : Char) : Bool :=
  c == '*' || c == '#'

def mgMatchLoop : Nat → Text → Text → Option (Text × Text) → Bool
  -- What is left of the pattern and of the string, and where the last wildcard stands and its match
  -- ends so far.
  | 0, _, _, _ => false
  | fuel + 1, p, s, last =>
    if p = [] ∧ s = [] then true
    else
      let again : Bool :=
        match last with
        | some (w, _ :: t) =>
          if w.head? = some '#' ∨ s.head? ≠ some '/' then mgMatchLoop fuel w t last else false
        | _ => false
      match p, s with
      | x :: q, y :: t =>
        if x = '?' ∨ (wild x = false ∧ y = x) then mgMatchLoop fuel q t last
        else if wild x then mgMatchLoop fuel q s (some (p, s))
        else again
      | x :: q, [] => if wild x then mgMatchLoop fuel q s (some (p, s)) else again
      | [], _ => again

def mgMatch (s p : Text) : Bool :=
  mgMatchLoop ((s.length + 2) * (p.length + 2)) p s none

/-! ## Credentials -/

/-- `token` is the `access_token` of the cookie and `queryToken` that of the query. -/
structure Request where
  method : Text
  uri : Text
  headers : List (Text × Text)
  token : Text
  queryToken : Text
  rem : Address

def maxHeaders : Nat := 30

def mgHttpGetHeader (r : Request) (name : Text) : Option Text :=
  (((r.headers.take maxHeaders).takeWhile fun h => h.1 ≠ []).find? fun h =>
    h.1.map Char.toLower = name.map Char.toLower).map Prod.snd

def mgBase64DecodeSingle (c : Char) : Option Nat :=
  if 'A' ≤ c ∧ c ≤ 'Z' then some (c.toNat - 65)
  else if 'a' ≤ c ∧ c ≤ 'z' then some (c.toNat + 26 - 97)
  else if '0' ≤ c ∧ c ≤ '9' then some (c.toNat + 52 - 48)
  else if c = '+' then some 62
  else if c = '/' then some 63
  else if c = '=' then some 64
  else none

def octet (n : Nat) : Char :=
  Char.ofNat (n % 256)

def mgBase64DecodeLoop : Text → Option Text
  | w :: x :: y :: z :: rest =>
    match mgBase64DecodeSingle w, mgBase64DecodeSingle x, mgBase64DecodeSingle y,
        mgBase64DecodeSingle z with
    | some a, some b, some c, some d =>
      if a = 64 ∨ b = 64 then none
      else
        let second := if y = '=' then [] else [octet (b <<< 4 ||| c >>> 2)]
        let third := if y = '=' ∨ z = '=' then [] else [octet (c <<< 6 ||| d)]
        (mgBase64DecodeLoop rest).map fun later => octet (a <<< 2 ||| b >>> 4) :: second ++ third ++ later
    | _, _, _, _ => none
  | _ => some []

def mgBase64Decode (src : Text) (dl : Nat) : Text :=
  if dl < src.length / 4 * 3 + 1 then [] else (mgBase64DecodeLoop src).getD []

def basicMark : Text := "Basic ".toList
def bearerMark : Text := "Bearer ".toList

def mgHttpCreds (r : Request) (userLen passLen : Nat) : Text × Text :=
  match mgHttpGetHeader r "Authorization".toList with
  | some v =>
    if 6 < v.length ∧ v.take 6 = basicMark then
      let buf := mgBase64Decode (v.drop 6) 256
      match buf.dropWhile (· ≠ ':') with
      | _ :: pass => (printed userLen (buf.takeWhile (· ≠ ':')), printed passLen pass)
      | [] => ([], [])
    else if 7 < v.length ∧ v.take 7 = bearerMark then ([], printed passLen (v.drop 7))
    else ([], tokenOf)
  | none => ([], tokenOf)
where
  tokenOf : Text :=
    if (mgHttpGetHeader r "Cookie".toList).isSome then printed passLen r.token
    else printed passLen r.queryToken

structure Settings where
  bind : Text
  authUser : Text
  authPassword : Text
  publicOnly : Bool
  adminAcl : List AclEntry
  staticDir : Text

def userSize : Nat := 64
def passwordSize : Nat := 128

def byteAt (text : Text) (i : Nat) : Nat :=
  (text.getD i nul).toNat

def ctCompare (a b : Text) (len : Nat) : Bool :=
  (List.range len).foldl (fun result i => result ||| (byteAt a i ^^^ byteAt b i)) 0 == 0

def checkBasicAuth (cfg : Settings) (r : Request) : Bool :=
  if cfg.authPassword = [] then
    cfg.bind = "127.0.0.1".toList || cfg.bind = "localhost".toList || cfg.bind = "::1".toList
  else
    let (user, pass) := mgHttpCreds r userSize passwordSize
    if user = [] ∧ pass = [] then false
    else
      let ucmp := min user.length cfg.authUser.length
      let pcmp := min pass.length cfg.authPassword.length
      let userOk :=
        user.length == cfg.authUser.length && ctCompare user cfg.authUser (if ucmp = 0 then 1 else ucmp)
      let passOk :=
        pass.length == cfg.authPassword.length &&
          ctCompare pass cfg.authPassword (if pcmp = 0 then 1 else pcmp)
      userOk && passOk

/-! ## Dispatch -/

/-- What a request makes the daemon do. A command has its arguments, and a change of a user or group
the path that says which. -/
inductive Action where
  | command (argv : List Text)
  | commands
  | adminStatus
  | publicStatus
  | adminEvents
  | publicEvents
  | configReload
  | configGet
  | configPut
  | bulletinGet
  | bulletinPut
  | sounds
  | cdrDays
  | cdr
  | recording
  | coveragePngGet
  | coveragePngPut
  | postCmd
  | users
  | userCreate
  | userUpdate (uri : Text)
  | userDelete (uri : Text)
  | groups
  | groupCreate
  | groupUpdate (uri : Text)
  | groupDelete (uri : Text)
  | register
  | upgrade (admin : Bool)
  | serveDir
deriving DecidableEq

inductive Outcome where
  | reply (status : Nat)
  | run (action : Action)
deriving DecidableEq

def is (text : Text) (pattern : String) : Bool :=
  mgMatch text pattern.toList

def publicApis : List String :=
  ["/api/status", "/api/weather", "/api/nws"]

def specialRoutes : List (String × List String) :=
  [("/api/tts", ["tts", "status"]), ("/api/modules", ["module", "list"])]

def handleApiGet (uri : Text) : Outcome :=
  match specialRoutes.find? fun route => is uri route.1 with
  | some route => .run (.command (route.2.map String.toList))
  | none =>
    if is uri "/api/commands" then .run .commands
    else if 5 < uri.length ∧ uri.take 5 = "/api/".toList ∧ '/' ∉ (uri.drop 5).take 63 then
      .run (.command [(uri.drop 5).take 63])
    else .reply 404

def methodOr (r : Request) (choices : List (String × Action)) : Outcome :=
  match choices.find? fun choice => is r.method choice.1 with
  | some choice => .run choice.2
  | none => .reply 405

def handleAdminApi (r : Request) : Outcome :=
  let get := is r.method "GET"
  let post := is r.method "POST"
  -- Without the first "/admin".
  let uri := r.uri.drop 6
  if is r.uri "/admin/api/status" && get then .run .adminStatus
  else if is r.uri "/admin/api/events" then .run .adminEvents
  else if post && is r.uri "/admin/api/config/reload" then .run .configReload
  else if is r.uri "/admin/api/config" then methodOr r [("GET", .configGet), ("PUT", .configPut)]
  else if is r.uri "/admin/api/bulletin" then methodOr r [("GET", .bulletinGet), ("PUT", .bulletinPut)]
  else if get && is r.uri "/admin/api/sounds" then .run .sounds
  else if get && is r.uri "/admin/api/cdr/days" then .run .cdrDays
  else if get && is r.uri "/admin/api/cdr" then .run .cdr
  else if get && is r.uri "/admin/api/recording" then .run .recording
  else if is r.uri "/admin/api/coverage-png" then methodOr r [("PUT", .coveragePngPut)]
  else if post && is r.uri "/admin/api/cmd" then .run .postCmd
  else if post && is r.uri "/admin/api/users" then .run .userCreate
  else if is r.uri "/admin/api/users/#" then
    methodOr r [("PUT", .userUpdate uri), ("DELETE", .userDelete uri)]
  else if post && is r.uri "/admin/api/groups" then .run .groupCreate
  else if is r.uri "/admin/api/groups/#" then
    methodOr r [("PUT", .groupUpdate uri), ("DELETE", .groupDelete uri)]
  else if is r.uri "/admin/api/groups" then .run .groups
  else if is r.uri "/admin/api/users" then .run .users
  else if is r.uri "/admin/api/commands" then .run .commands
  else if is r.uri "/admin/api/audio" then .run (.upgrade true)
  else if 11 < r.uri.length ∧ r.uri.take 11 = "/admin/api/".toList then handleApiGet uri
  else .reply 404

def serveStatic (cfg : Settings) (r : Request) : Outcome :=
  if cfg.staticDir = [] then .reply 404
  else if "..".toList <:+: r.uri then .reply 403
  else .run .serveDir

def handleAdmin (cfg : Settings) (r : Request) : Outcome :=
  if !checkAdminAcl cfg.adminAcl r.rem then .reply 404
  else if cfg.publicOnly then .reply 403
  else if !checkBasicAuth cfg r then .reply 401
  else if is r.uri "/admin/api/#" then handleAdminApi r
  else serveStatic cfg r

def handlePublicApi (r : Request) : Outcome :=
  let get := is r.method "GET"
  if get && is r.uri "/api/status" then .run .publicStatus
  else if get && publicApis.any (is r.uri) then handleApiGet r.uri
  else if is r.method "POST" && is r.uri "/api/register" then .run .register
  else if is r.uri "/api/audio" then .run (.upgrade false)
  else if is r.uri "/api/bulletin" && get then .run .bulletinGet
  else if is r.uri "/api/events" then .run .publicEvents
  else .reply 404

def evHttpMsg (cfg : Settings) (r : Request) (coverage : Bool) : Outcome :=
  -- `coverage` is whether there is a regular file at `coverage_png_path`.
  if is r.method "OPTIONS" then .reply 204
  else if is r.uri "/admin/#" || is r.uri "/admin" then handleAdmin cfg r
  else if is r.uri "/api/#" then handlePublicApi r
  else if is r.uri "/coverage.png" && is r.method "GET" && coverage then .run .coveragePngGet
  else serveStatic cfg r

/-! ## Connections -/

/-- `marked` is `data[1]`, `events` what `data[0]` makes of the connection, `true` for an admin's, and
`socket` the kind of its WebSocket. `http` ends with an upgrade, done or refused. -/
structure Conn where
  marked : Bool
  events : Option Bool
  socket : Option Bool
  http : Bool
deriving DecidableEq

def Conn.fresh : Conn where
  marked := false
  events := none
  socket := none
  http := true

/-- A request that came to its connection, under the settings of the time. -/
structure Served where
  conn : Nat
  cfg : Settings
  request : Request
  outcome : Outcome

structure Server where
  cfg : Settings
  accepted : Nat
  conns : Nat → Option Conn
  served : List Served

def Server.init (cfg : Settings) : Server where
  cfg := cfg
  accepted := 0
  conns := fun _ => none
  served := []

inductive Input where
  | accept
  | request (c : Nat) (r : Request) (coverage : Bool)
  | close (c : Nat)
  | configure (cfg : Settings)

def Conn.after (conn : Conn) (key : Bool) : Outcome → Conn
  | .run (.upgrade admin) =>
    -- `key` is whether there is a `Sec-WebSocket-Key`.
    let marked := conn.marked || admin
    { conn with marked := marked, socket := if key then some marked else none, http := false }
  | .run .adminEvents => { conn with events := some true }
  | .run .publicEvents => { conn with events := some false }
  | _ => conn

def step (w : Server) : Input → Server
  | .accept =>
    { w with accepted := w.accepted + 1, conns := Function.update w.conns w.accepted (some .fresh) }
  | .request c r coverage =>
    match w.conns c with
    | none => w
    | some conn =>
      if conn.http then
        let outcome := evHttpMsg w.cfg r coverage
        let key := (mgHttpGetHeader r "Sec-WebSocket-Key".toList).isSome
        { w with
          conns := Function.update w.conns c (some (conn.after key outcome))
          served := w.served ++ [⟨c, w.cfg, r, outcome⟩] }
      else w
  | .close c => { w with conns := Function.update w.conns c none }
  | .configure cfg => { w with cfg := cfg }

/-! ## Who is let through -/

/-- The gates before everything under `/admin`. -/
structure Admitted (cfg : Settings) (r : Request) : Prop where
  listed : checkAdminAcl cfg.adminAcl r.rem = true
  open_ : cfg.publicOnly = false
  known : checkBasicAuth cfg r = true

def Action.isPublic : Action → Bool
  | .command [name] => name = "weather".toList || name = "nws".toList
  | .publicStatus | .bulletinGet | .publicEvents | .coveragePngGet | .register | .serveDir => true
  | .upgrade admin => !admin
  | _ => false

/-! ## Patterns -/

def literal (p : Text) : Bool :=
  p.all fun c => !wild c && c != '?'

theorem mgMatchLoop_literal {p : Text} (plain : literal p = true) (s : Text) {fuel : Nat}
    (enough : p.length < fuel) : mgMatchLoop fuel p s none = decide (s = p) := by
  induction p generalizing s fuel with
  | nil =>
    obtain ⟨fuel, rfl⟩ := Nat.exists_eq_succ_of_ne_zero (Nat.ne_of_gt enough)
    cases s <;> simp [mgMatchLoop]
  | cons x q ih =>
    obtain ⟨fuel, rfl⟩ := Nat.exists_eq_succ_of_ne_zero (Nat.ne_of_gt (Nat.zero_lt_of_lt enough))
    simp only [literal, List.all_cons, Bool.and_eq_true, Bool.not_eq_true', bne_iff_ne] at plain
    obtain ⟨⟨tame, other⟩, rest⟩ := plain
    cases s with
    | nil => simp [mgMatchLoop, tame]
    | cons y t =>
      by_cases same : y = x
      next =>
        subst same
        simp [mgMatchLoop, tame, ih rest t (Nat.lt_of_succ_lt_succ enough)]
      next => simp [mgMatchLoop, tame, same, other]

theorem mgMatch_literal {p : Text} (plain : literal p = true) (s : Text) : mgMatch s p = decide (s = p) :=
  mgMatchLoop_literal plain s
    (Nat.lt_of_lt_of_le (by omega) (Nat.le_mul_of_pos_left (p.length + 2) (Nat.succ_pos (s.length + 1))))

theorem mgMatchLoop_rest (s : Text) (last : Option (Text × Text)) {fuel : Nat}
    (enough : 2 * s.length + 2 ≤ fuel) : mgMatchLoop fuel ['#'] s last = true := by
  induction s generalizing last fuel with
  | nil =>
    obtain ⟨fuel, rfl⟩ : ∃ more, fuel = more + 2 := ⟨fuel - 2, by simp at enough; omega⟩
    simp [mgMatchLoop, wild]
  | cons y t ih =>
    obtain ⟨fuel, rfl⟩ : ∃ more, fuel = more + 2 := ⟨fuel - 2, by simp at enough; omega⟩
    have later : mgMatchLoop fuel ['#'] t (some (['#'], y :: t)) = true :=
      ih _ (by simp at enough; omega)
    simp [mgMatchLoop, wild, later]

theorem mgMatchLoop_below {p : Text} (plain : literal p = true) (s : Text) {fuel : Nat}
    (enough : p.length + 2 * s.length + 2 ≤ fuel) :
    mgMatchLoop fuel (p ++ ['#']) s none = decide (p <+: s) := by
  induction p generalizing s fuel with
  | nil => simpa using mgMatchLoop_rest s none (by simpa using enough)
  | cons x q ih =>
    obtain ⟨fuel, rfl⟩ : ∃ more, fuel = more + 1 := ⟨fuel - 1, by simp at enough; omega⟩
    simp only [literal, List.all_cons, Bool.and_eq_true, Bool.not_eq_true', bne_iff_ne] at plain
    obtain ⟨⟨tame, other⟩, rest⟩ := plain
    cases s with
    | nil => simp [mgMatchLoop, tame]
    | cons y t =>
      by_cases same : y = x
      next =>
        subst same
        have later : mgMatchLoop fuel (q ++ ['#']) t none = decide (q <+: t) :=
          ih rest t (by simp at enough; omega)
        simp [mgMatchLoop, tame, later]
      next =>
        have apart : ¬ x = y := fun eq => same eq.symm
        simp [mgMatchLoop, tame, same, other, apart]

theorem mgMatch_below {p : Text} (plain : literal p = true) (s : Text) :
    mgMatch s (p ++ ['#']) = decide (p <+: s) := by
  refine mgMatchLoop_below plain s ?_
  have long : p.length + 1 ≤ (s.length + 2) * (p.length + 1) := Nat.le_mul_of_pos_left _ (Nat.succ_pos _)
  have split : (s.length + 2) * ((p ++ ['#']).length + 2) =
      (s.length + 2) * (p.length + 1) + (s.length + 2) * 2 := by
    rw [← Nat.mul_add, List.length_append, List.length_singleton]
  omega

/-! ## Basic authentication -/

theorem orAll_eq_zero (f : Nat → Nat) (is : List Nat) (start : Nat) :
    is.foldl (fun result i => result ||| f i) start = 0 ↔ start = 0 ∧ ∀ i ∈ is, f i = 0 := by
  induction is generalizing start with
  | nil => simp
  | cons i rest ih => simp [ih, Nat.or_eq_zero_iff, and_assoc]

theorem ctCompare_iff (a b : Text) (len : Nat) :
    ctCompare a b len = true ↔ ∀ i < len, a.getD i nul = b.getD i nul := by
  simp only [ctCompare, beq_iff_eq, orAll_eq_zero, true_and, List.mem_range]
  refine forall₂_congr fun i _ => ?_
  rw [← Nat.xor_self (byteAt b i), Nat.xor_left_inj]
  exact Char.toNat_inj

theorem sameText_iff (a b : Text) :
    (a.length == b.length && ctCompare a b (if min a.length b.length = 0 then 1 else min a.length b.length)) =
      true ↔ a = b := by
  rw [Bool.and_eq_true, beq_iff_eq, ctCompare_iff]
  constructor
  next =>
    rintro ⟨length, cells⟩
    refine List.ext_getElem length fun i left right => ?_
    have same := cells i (by split <;> omega)
    rwa [List.getD_eq_getElem _ _ left, List.getD_eq_getElem _ _ right] at same
  next =>
    rintro rfl
    exact ⟨rfl, fun _ _ => rfl⟩

def Settings.isLocal (cfg : Settings) : Prop :=
  cfg.bind = "127.0.0.1".toList ∨ cfg.bind = "localhost".toList ∨ cfg.bind = "::1".toList

/-- With a password the credentials of the request are those configured; without one nothing but a
local address lets anyone in. -/
theorem checkBasicAuth_iff (cfg : Settings) (r : Request) :
    checkBasicAuth cfg r = true ↔
      if cfg.authPassword = [] then cfg.isLocal
      else mgHttpCreds r userSize passwordSize = (cfg.authUser, cfg.authPassword) := by
  unfold checkBasicAuth
  by_cases empty : cfg.authPassword = []
  next =>
    simp only [if_pos empty, Settings.isLocal, Bool.or_eq_true, decide_eq_true_eq, or_assoc]
  next =>
    rw [if_neg empty, if_neg empty]
    obtain ⟨user, pass⟩ := mgHttpCreds r userSize passwordSize
    dsimp only
    by_cases none : user = [] ∧ pass = []
    next =>
      obtain ⟨rfl, rfl⟩ := none
      simp [Ne.symm empty]
    next => rw [if_neg none, Bool.and_eq_true, sameText_iff, sameText_iff, Prod.mk.injEq]

/-! ## What a browser sends -/

theorem single_digit : ∀ n < 64, mgBase64DecodeSingle (Rfc4648.digit64 n) = some n ∧ Rfc4648.digit64 n ≠ '=' := by
  decide

theorem single_pad : mgBase64DecodeSingle '=' = some 64 := by decide

theorem octet_join {x y k o : Nat} (small : y < 2 ^ k) (whole : (x * 2 ^ k + y) % 256 = o) :
    octet (x <<< k ||| y) = Char.ofNat o := by
  rw [octet, ← Nat.shiftLeft_add_eq_or_of_lt small, Nat.shiftLeft_eq, whole]

theorem octet_first {a r : Nat} (small : a < 256) (rest : r < 16) :
    octet ((a / 4) <<< 2 ||| (a % 4 * 16 + r) >>> 4) = Char.ofNat a := by
  rw [Nat.shiftRight_eq_div_pow]
  exact octet_join (by omega) (by omega)

theorem octet_second {a b r : Nat} (small : b < 256) (rest : r < 4) :
    octet ((a % 4 * 16 + b / 16) <<< 4 ||| (b % 16 * 4 + r) >>> 2) = Char.ofNat b := by
  rw [Nat.shiftRight_eq_div_pow]
  exact octet_join (by omega) (by omega)

theorem decode_encode (octets : List Nat) (small : ∀ o ∈ octets, o < 256) :
    mgBase64DecodeLoop (Rfc4648.encode64 octets) = some (octets.map Char.ofNat) := by
  induction octets using Rfc4648.encode64.induct with
  | case1 a b c rest ih =>
    simp only [List.forall_mem_cons] at small
    obtain ⟨left, middle, right, later⟩ := small
    obtain ⟨first, -⟩ := single_digit (a / 4) (by omega)
    obtain ⟨second, -⟩ := single_digit (a % 4 * 16 + b / 16) (by omega)
    obtain ⟨third, solid⟩ := single_digit (b % 16 * 4 + c / 64) (by omega)
    obtain ⟨fourth, solid'⟩ := single_digit (c % 64) (by omega)
    have digits : ¬ (a / 4 = 64 ∨ a % 4 * 16 + b / 16 = 64) := by omega
    have one := octet_first (r := b / 16) left (by omega)
    have two := octet_second (a := a) (r := c / 64) middle (by omega)
    have three : octet ((b % 16 * 4 + c / 64) <<< 6 ||| c % 64) = Char.ofNat c :=
      octet_join (by omega) (by omega)
    simp only [Rfc4648.encode64, mgBase64DecodeLoop, first, second, third, fourth, if_neg digits, solid,
      solid', or_self, if_false, ih later, one, two, three]
    rfl
  | case2 a b =>
    simp only [List.forall_mem_cons] at small
    obtain ⟨left, middle, -⟩ := small
    obtain ⟨first, -⟩ := single_digit (a / 4) (by omega)
    obtain ⟨second, -⟩ := single_digit (a % 4 * 16 + b / 16) (by omega)
    obtain ⟨third, solid⟩ := single_digit (b % 16 * 4) (by omega)
    have digits : ¬ (a / 4 = 64 ∨ a % 4 * 16 + b / 16 = 64) := by omega
    have one := octet_first (r := b / 16) left (by omega)
    have two := octet_second (a := a) (r := 0) middle (by decide)
    rw [Nat.add_zero] at two
    simp only [Rfc4648.encode64, mgBase64DecodeLoop, first, second, third, single_pad, if_neg digits, solid,
      or_true, if_true, if_false, one, two]
    rfl
  | case3 a =>
    have left := small a (List.mem_singleton_self a)
    obtain ⟨first, -⟩ := single_digit (a / 4) (by omega)
    obtain ⟨second, -⟩ := single_digit (a % 4 * 16) (by omega)
    have digits : ¬ (a / 4 = 64 ∨ a % 4 * 16 = 64) := by omega
    have one := octet_first (r := 0) left (by decide)
    rw [Nat.add_zero] at one
    simp only [Rfc4648.encode64, mgBase64DecodeLoop, first, second, single_pad, if_neg digits, or_true,
      if_true, one]
    rfl
  | case4 => rfl

/-- The header of RFC 7617. -/
def basicHeader (user pass : Text) : Text :=
  basicMark ++ Rfc4648.encode64 ((user ++ ':' :: pass).map Char.toNat)

theorem mgBase64Decode_text {text : Text} (bytes : ∀ c ∈ text, c.toNat < 256) (short : text.length ≤ 255) :
    mgBase64Decode (Rfc4648.encode64 (text.map Char.toNat)) 256 = text := by
  have back : (text.map Char.toNat).map Char.ofNat = text := by
    simp [Function.comp_def]
  have room : ¬ 256 < (Rfc4648.encode64 (text.map Char.toNat)).length / 4 * 3 + 1 := by
    rw [Rfc4648.encode64_length, List.length_map]
    omega
  rw [mgBase64Decode, if_neg room, decode_encode _ (by simpa using bytes), Option.getD_some, back]

theorem browser_creds {r : Request} {user pass : Text}
    (header : mgHttpGetHeader r "Authorization".toList = some (basicHeader user pass))
    (colon : ':' ∉ user) (bytes : ∀ c ∈ user ++ pass, c.toNat < 256)
    (short : user.length + pass.length < 255) (userLen passLen : Nat) :
    mgHttpCreds r userLen passLen = (printed userLen user, printed passLen pass) := by
  have all : ∀ c ∈ user ++ ':' :: pass, c.toNat < 256 := by
    intro c member
    rcases List.mem_append.mp member with left | right
    next => exact bytes c (List.mem_append_left _ left)
    next =>
      rcases List.mem_cons.mp right with rfl | right
      next => decide
      next => exact bytes c (List.mem_append_right _ right)
  have decoded := mgBase64Decode_text all (by simp; omega)
  have long : 6 < (basicHeader user pass).length := by
    rw [basicHeader, List.length_append, Rfc4648.encode64_length]
    simp [basicMark]
    omega
  have mark : (basicHeader user pass).take 6 = basicMark := List.take_left' rfl
  have rest : (basicHeader user pass).drop 6 = Rfc4648.encode64 ((user ++ ':' :: pass).map Char.toNat) :=
    List.drop_left' rfl
  have solid : ∀ c ∈ user, decide (c ≠ ':') = true := by
    intro c member
    have apart : c ≠ ':' := fun same => colon (same ▸ member)
    simpa using apart
  simp only [mgHttpCreds, header, if_pos (And.intro long mark), rest, decoded,
    List.dropWhile_append_of_pos solid, List.takeWhile_append_of_pos solid]
  simp

/-- A browser is let in by what it sends if and only if this is the user and the password, each as far
as the daemon's buffer holds it. -/
theorem browser_admitted_iff (cfg : Settings) (r : Request) (user pass : Text)
    (set : cfg.authPassword ≠ []) (colon : ':' ∉ user) (bytes : ∀ c ∈ user ++ pass, c.toNat < 256)
    (short : user.length + pass.length < 255)
    (header : mgHttpGetHeader r "Authorization".toList = some (basicHeader user pass)) :
    checkBasicAuth cfg r = true ↔
      printed userSize user = cfg.authUser ∧ printed passwordSize pass = cfg.authPassword := by
  rw [checkBasicAuth_iff, if_neg set, browser_creds header colon bytes short, Prod.mk.injEq]

def keeper : Settings :=
  ⟨"0.0.0.0".toList, "admin".toList, "s3cret".toList, false, [], []⟩

def visitor (pass : String) : Request :=
  ⟨"GET".toList, "/admin/api/users".toList,
    [("authorization".toList, basicHeader "admin".toList pass.toList)], [], [],
    .ip4 ⟨#[10, 0, 0, 1], rfl⟩⟩

theorem visitor_admitted :
    checkBasicAuth keeper (visitor "s3cret") = true ∧
      evHttpMsg keeper (visitor "s3cret") false = .run .users ∧
      evHttpMsg keeper (visitor "guess") false = .reply 401 :=
  ⟨(browser_admitted_iff keeper (visitor "s3cret") "admin".toList "s3cret".toList (by decide) (by decide)
    (by simp) (by decide) (by decide)).mpr (by decide), by decide, by decide⟩

/-! ## What runs without the gates -/

theorem is_literal {text : Text} {pattern : String} (plain : literal pattern.toList = true)
    (found : is text pattern = true) : text = pattern.toList := by
  rw [is, mgMatch_literal plain] at found
  exact of_decide_eq_true found

theorem publicApi_public {r : Request} {action : Action} (runs : handlePublicApi r = .run action) :
    action.isPublic = true := by
  unfold handlePublicApi at runs
  dsimp only at runs
  split at runs
  next =>
    cases runs
    rfl
  next other =>
    split at runs
    next listed =>
      rw [Bool.and_eq_true] at listed other
      obtain ⟨get, any⟩ := listed
      -- The first of the list is answered before.
      have left : is r.uri "/api/weather" = true ∨ is r.uri "/api/nws" = true := by
        simpa [publicApis, get, (Bool.eq_false_iff.mpr fun status => other ⟨get, status⟩ :
          is r.uri "/api/status" = false)] using any
      rcases left with weather | nws
      next =>
        rw [is_literal (by decide) weather] at runs
        have command : handleApiGet "/api/weather".toList = .run (.command ["weather".toList]) := by decide
        rw [command] at runs
        cases runs
        decide
      next =>
        rw [is_literal (by decide) nws] at runs
        have command : handleApiGet "/api/nws".toList = .run (.command ["nws".toList]) := by decide
        rw [command] at runs
        cases runs
        decide
    next =>
      repeat' split at runs
      all_goals cases runs
      all_goals rfl

theorem static_public {cfg : Settings} {r : Request} {action : Action}
    (runs : serveStatic cfg r = .run action) : action.isPublic = true := by
  unfold serveStatic at runs
  repeat' split at runs
  all_goals cases runs
  rfl

theorem handleAdmin_admitted {cfg : Settings} {r : Request} {action : Action}
    (runs : handleAdmin cfg r = .run action) : Admitted cfg r := by
  unfold handleAdmin at runs
  split at runs
  next => cases runs
  next listed =>
    split at runs
    next => cases runs
    next shut =>
      split at runs
      next => cases runs
      next known => exact ⟨by simpa using listed, by simpa using shut, by simpa using known⟩

/-- What is not public runs behind all the gates. -/
theorem private_admitted {cfg : Settings} {r : Request} {coverage : Bool} {action : Action}
    (runs : evHttpMsg cfg r coverage = .run action) (hidden : action.isPublic = false) :
    Admitted cfg r := by
  have exposed (shown : action.isPublic = true) : Admitted cfg r := by simp [hidden] at shown
  unfold evHttpMsg at runs
  split at runs
  next => cases runs
  next =>
    split at runs
    next => exact handleAdmin_admitted runs
    next =>
      split at runs
      next => exact exposed (publicApi_public runs)
      next =>
        split at runs
        next =>
          cases runs
          exact exposed rfl
        next => exact exposed (static_public runs)

def underAdmin (uri : Text) : Prop :=
  uri = "/admin".toList ∨ "/admin/".toList <+: uri

theorem underAdmin_is {uri : Text} (under : underAdmin uri) :
    (is uri "/admin/#" || is uri "/admin") = true := by
  rcases under with rfl | below
  next => decide
  next =>
    have found : is uri "/admin/#" = true :=
      (mgMatch_below (p := "/admin/".toList) (by decide) uri).trans (decide_eq_true below)
    rw [found, Bool.true_or]

/-- Nothing runs for a path under `/admin` before all the gates. -/
theorem admin_gated {cfg : Settings} {r : Request} {coverage : Bool} {action : Action}
    (under : underAdmin r.uri) (runs : evHttpMsg cfg r coverage = .run action) : Admitted cfg r := by
  unfold evHttpMsg at runs
  split at runs
  next => cases runs
  next =>
    rw [if_pos (underAdmin_is under)] at runs
    exact handleAdmin_admitted runs

/-! ## Runs of the server -/

/-- An earlier request on the connection did this, and came through the gates. -/
def Server.Earned (w : Server) (c : Nat) (action : Action) : Prop :=
  ∃ s ∈ w.served, s.conn = c ∧ s.outcome = .run action ∧ Admitted s.cfg s.request

/-- Every handler that is not public, or for a path under `/admin`, ran for a request that came through
the gates of its time, and every connection that has an administrator's WebSocket or stream earned it
itself. -/
structure Kept (w : Server) : Prop where
  served : ∀ s ∈ w.served, ∀ action, s.outcome = .run action →
    action.isPublic = false ∨ underAdmin s.request.uri → Admitted s.cfg s.request
  sockets : ∀ c conn, w.conns c = some conn → conn.socket = some true → w.Earned c (.upgrade true)
  streams : ∀ c conn, w.conns c = some conn → conn.events = some true → w.Earned c .adminEvents

structure Sound (w : Server) : Prop where
  kept : Kept w
  marks : ∀ c conn, w.conns c = some conn → conn.marked = true → w.Earned c (.upgrade true)

theorem after_marked {conn : Conn} {key : Bool} {outcome : Outcome}
    (marked : (conn.after key outcome).marked = true) :
    conn.marked = true ∨ outcome = .run (.upgrade true) := by
  unfold Conn.after at marked
  split at marked
  next admin =>
    rcases Bool.or_eq_true_iff.mp marked with before | now
    next => exact .inl before
    next => exact .inr (by rw [now])
  all_goals exact .inl marked

theorem after_socket {conn : Conn} {key : Bool} {outcome : Outcome}
    (socket : (conn.after key outcome).socket = some true) :
    conn.socket = some true ∨ (conn.after key outcome).marked = true := by
  unfold Conn.after at socket ⊢
  split at socket
  next admin =>
    right
    split at socket
    next => exact Option.some.inj socket
    next => cases socket
  all_goals exact .inl socket

theorem after_events {conn : Conn} {key : Bool} {outcome : Outcome}
    (events : (conn.after key outcome).events = some true) :
    conn.events = some true ∨ outcome = .run .adminEvents := by
  unfold Conn.after at events
  split at events
  next => exact .inl events
  next => exact .inr rfl
  next => cases events
  next => exact .inl events

theorem Server.Earned.later {w : Server} {c : Nat} {action : Action} (earned : w.Earned c action)
    {t : Server} (kept : ∀ s ∈ w.served, s ∈ t.served) : t.Earned c action := by
  obtain ⟨s, member, rest⟩ := earned
  exact ⟨s, kept s member, rest⟩

/-- Connections that are as they were, or new. -/
theorem Sound.unserved {w t : Server} (sound : Sound w) (served : t.served = w.served)
    (conns : ∀ c conn, t.conns c = some conn → w.conns c = some conn ∨ conn = .fresh) : Sound t := by
  have earned {c : Nat} {action : Action} (was : w.Earned c action) : t.Earned c action :=
    was.later (served ▸ fun _ member => member)
  constructor
  next =>
    constructor
    next => exact served ▸ sound.kept.served
    next =>
      intro c conn there socket
      rcases conns c conn there with before | rfl
      next => exact earned (sound.kept.sockets c conn before socket)
      next => cases socket
    next =>
      intro c conn there events
      rcases conns c conn there with before | rfl
      next => exact earned (sound.kept.streams c conn before events)
      next => cases events
  next =>
    intro c conn there marked
    rcases conns c conn there with before | rfl
    next => exact earned (sound.marks c conn before marked)
    next => cases marked

theorem updated {conns : Nat → Option Conn} {c d : Nat} {conn other : Conn}
    (there : Function.update conns c (some conn) d = some other) :
    d = c ∧ other = conn ∨ conns d = some other := by
  rw [Function.update_apply] at there
  split at there
  next same => exact .inl ⟨same, (Option.some.inj there).symm⟩
  next => exact .inr there

theorem sound_request {w : Server} (sound : Sound w) (c : Nat) (r : Request) (coverage : Bool) :
    Sound (step w (.request c r coverage)) := by
  simp only [step]
  split
  next => exact sound
  next conn here =>
    split
    next =>
      have hidden : ∀ action, evHttpMsg w.cfg r coverage = .run action →
          action.isPublic = false ∨ underAdmin r.uri → Admitted w.cfg r := fun _ runs inside =>
        inside.elim (private_admitted runs) fun under => admin_gated under runs
      generalize evHttpMsg w.cfg r coverage = outcome at hidden
      have earned {d : Nat} {action : Action} (was : w.Earned d action) {t : Server}
          (more : t.served = w.served ++ [⟨c, w.cfg, r, outcome⟩]) : t.Earned d action :=
        was.later (more ▸ fun _ member => List.mem_append_left _ member)
      have now {action : Action} (runs : outcome = .run action) (inside : action.isPublic = false)
          {t : Server} (more : t.served = w.served ++ [⟨c, w.cfg, r, outcome⟩]) : t.Earned c action :=
        ⟨⟨c, w.cfg, r, outcome⟩, by simp [more], rfl, runs, hidden action runs (.inl inside)⟩
      have marks : ∀ d other, (Function.update w.conns c (some (conn.after
            (mgHttpGetHeader r "Sec-WebSocket-Key".toList).isSome outcome))) d = some other →
          other.marked = true → ∀ t : Server, t.served = w.served ++ [⟨c, w.cfg, r, outcome⟩] →
            t.Earned d (.upgrade true) := by
        intro d other there marked t more
        rcases updated there with ⟨rfl, rfl⟩ | there
        next =>
          rcases after_marked marked with before | runs
          next => exact earned (sound.marks d conn here before) more
          next => exact now runs rfl more
        next => exact earned (sound.marks d other there marked) more
      constructor
      next =>
        constructor
        next =>
          intro s member action runs inside
          rcases List.mem_append.mp member with before | added
          next => exact sound.kept.served s before action runs inside
          next =>
            cases List.mem_singleton.mp added
            exact hidden action runs inside
        next =>
          intro d other there socket
          rcases updated there with ⟨rfl, rfl⟩ | before
          next =>
            rcases after_socket socket with before | marked
            next => exact earned (sound.kept.sockets d conn here before) rfl
            next => exact marks d _ there marked _ rfl
          next => exact earned (sound.kept.sockets d other before socket) rfl
        next =>
          intro d other there events
          rcases updated there with ⟨rfl, rfl⟩ | there
          next =>
            rcases after_events events with before | runs
            next => exact earned (sound.kept.streams d conn here before) rfl
            next => exact now runs rfl rfl
          next => exact earned (sound.kept.streams d other there events) rfl
      next => exact fun d other there marked => marks d other there marked _ rfl
    next => exact sound

theorem sound_step {w : Server} (sound : Sound w) (i : Input) : Sound (step w i) := by
  cases i with
  | accept =>
    exact sound.unserved rfl fun c conn there => (updated there).symm.imp_right And.right
  | request c r coverage => exact sound_request sound c r coverage
  | close c =>
    refine sound.unserved rfl fun d conn there => ?_
    simp only [step, Function.update_apply] at there
    split at there
    next => cases there
    next => exact .inl there
  | configure cfg => exact sound.unserved rfl fun _ _ there => .inl there

/-- Over every run of connections, requests and reloads. -/
theorem admin_admitted (cfg : Settings) (inputs : List Input) :
    Kept (Machine.run step (Server.init cfg) inputs) := by
  refine (Machine.run_holds step (P := Sound) (fun _ i sound => sound_step sound i) ?_).kept
  exact ⟨⟨by simp [Server.init], by simp [Server.init], by simp [Server.init]⟩, by simp [Server.init]⟩

end Kerchunk.Web.Routes
