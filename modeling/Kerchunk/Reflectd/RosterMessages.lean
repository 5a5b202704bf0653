import Kerchunk.Config.Duration
import Kerchunk.Events.Json
import Kerchunk.Lib.Appends
import Kerchunk.Lib.JsonTree
import Kerchunk.Reflectd.Handlers
import Kerchunk.Reflectd.LoadConfig
import Mathlib.Data.List.Infix
import Mathlib.Data.Nat.Digits.Defs

set_option autoImplicit false

/-!
# The texts of rosters and login replies (`src/reflectd/main.c`)


-/

namespace Kerchunk.Reflectd

open Appends (Buffer append)
open Config (KerchunkConfig Text atoiText bounded intMax parseFile)
open Events (signed truth unsigned)
open Json (Tree)
open Link (Login LoginOk maxMsg)

def membersSize : Nat := 512
def rosterSize : Nat := 640

/-! ## Members -/

def memberItem (first : Bool) (m : String × Bool) : Text :=
  (if first then [] else ",".toList) ++ ("\x7b\"id\":\"".toList ++ m.1.toList ++
    "\",\"connected\":".toList ++ truth m.2 ++ "\x7d".toList)

def appendMembers : Bool → List (String × Bool) → Buffer Char → Buffer Char
  | _, [], b => b
  | first, m :: members, b =>
    if b.cursor + 80 < membersSize then
      appendMembers false members (append membersSize b (memberItem first m))
    else b

/-- A bracket in the last place leaves none for the terminator: the text goes on with what stands
behind the buffer. -/
def buildTgMembersJson (beyond : Text) (members : List (String × Bool)) : Text :=
  let b := appendMembers true members ⟨['['], 1, false⟩
  if b.cursor + 1 < membersSize then b.written ++ [']']
  else if b.cursor < membersSize then b.written ++ ']' :: beyond
  else b.written

def memberTree (m : String × Bool) : Tree :=
  .object [("id".toList, .string m.1.toList), ("connected".toList, .truth m.2)]

def rosterTree (members : List (String × Bool)) : Tree :=
  .array (members.map memberTree)

/-- The last member is begun within the guard's bounds, and the closed list has room. -/
structure RosterFits (members : List (String × Bool)) : Prop where
  begun : ((rosterTree members.dropLast).text id id).length ≤ 432
  closed : ((rosterTree members).text id id).length < membersSize

def memberItems : Bool → List (String × Bool) → Text
  | _, [] => []
  | first, m :: members => memberItem first m ++ memberItems false members

theorem memberItem_text (first : Bool) (m : String × Bool) :
    memberItem first m = (if first then [] else [',']) ++ (memberTree m).text id id := by
  rcases m with ⟨node, _ | _⟩ <;>
    simp [memberItem, memberTree, Tree.text, Json.fieldsText, Json.moreFields, Json.stringText,
      Json.trueWord, Json.falseWord, Json.openBrace, Json.closeBrace, truth]

theorem moreItems_members (members : List (String × Bool)) :
    Json.moreItems id id (members.map memberTree) = memberItems false members := by
  induction members with
  | nil => rfl
  | cons m members ih => simp [Json.moreItems, memberItems, memberItem_text, ih]

theorem rosterTree_text (members : List (String × Bool)) :
    (rosterTree members).text id id = '[' :: (memberItems true members ++ [']']) := by
  cases members with
  | nil => rfl
  | cons m members =>
    simp [rosterTree, Tree.text, Json.itemsText, memberItems, memberItem_text, moreItems_members]

theorem append_fits {b : Buffer Char} (sound : b.overrun = false) {piece : Text}
    (room : b.cursor + piece.length < membersSize) :
    append membersSize b piece =
      { written := b.written ++ piece, cursor := b.cursor + piece.length, overrun := false } := by
  have whole : piece.take (membersSize - b.cursor - 1) = piece :=
    List.take_of_length_le (by omega)
  have inside : ¬ membersSize < b.cursor := by omega
  simp [append, whole, sound, inside]

theorem appendMembers_fits (members : List (String × Bool)) (first : Bool) {b : Buffer Char}
    (sound : b.overrun = false)
    (begun : members ≠ [] → b.cursor + (memberItems first members.dropLast).length + 80 < membersSize)
    (room : b.cursor + (memberItems first members).length < membersSize) :
    appendMembers first members b =
      { written := b.written ++ memberItems first members
        cursor := b.cursor + (memberItems first members).length
        overrun := false } := by
  induction members generalizing first b with
  | nil => simp [appendMembers, memberItems, ← sound]
  | cons m members ih =>
    have guarded : b.cursor + 80 < membersSize := by
      have := begun (by simp)
      omega
    rw [memberItems, List.length_append] at room
    rw [appendMembers, if_pos guarded, append_fits sound (by omega), ih false rfl ?_ (by
      dsimp only
      omega)]
    next => simp [memberItems, Nat.add_assoc]
    next =>
      intro more
      have := begun (by simp)
      rw [List.dropLast_cons_of_ne_nil more, memberItems, List.length_append] at this
      dsimp only
      omega

theorem buildTgMembersJson_fits (beyond : Text) {members : List (String × Bool)}
    (fits : RosterFits members) :
    buildTgMembersJson beyond members = (rosterTree members).text id id := by
  obtain ⟨begun, closed⟩ := fits
  rw [rosterTree_text, List.length_cons, List.length_append, List.length_singleton] at begun closed
  have built := appendMembers_fits members true (b := ⟨['['], 1, false⟩) rfl
    (fun _ => by simp only [membersSize]; omega) (by simp only; omega)
  have room : 1 + (memberItems true members).length + 1 < membersSize := by omega
  rw [buildTgMembersJson, built]
  simp only [if_pos room, rosterTree_text]
  rfl

/-! ## Messages -/

def hexDigits : Text := "0123456789abcdef".toList

def hexDigit (n : Nat) : Char :=
  hexDigits[n]?.getD '0'

def bytesToHex (bytes : List Nat) : Text :=
  bytes.flatMap fun b => [hexDigit (b / 16), hexDigit (b % 16)]

/-- `snprintf` into the buffer that is sent. -/
def tgRosterText (beyond : Text) (tg : Nat) (members : List (String × Bool)) : Text :=
  bounded rosterSize
    ("\x7b\"type\":\"tg_roster\",\"tg\":".toList ++ unsigned tg ++ ",\"members\":".toList ++
      buildTgMembersJson beyond members ++ "\x7d".toList)

def loginOkText (beyond : Text) (m : LoginOk) : Text :=
  bounded maxMsg
    ("\x7b\"type\":\"login_ok\",\"node_id\":\"".toList ++ m.nodeId.toList ++
      "\",\"talkgroup\":".toList ++ unsigned m.talkgroup ++
      ",\"keepalive_s\":".toList ++ signed m.keepaliveS ++
      ",\"hangtime_ms\":".toList ++ signed m.hangtimeMs ++
      ",\"proto\":\"".toList ++ m.proto.toList ++
      "\",\"rtp_endpoint\":\"".toList ++ m.rtpHost.toList ++ ":".toList ++ signed m.rtpPort ++
      "\",\"srtp_master_key\":\"".toList ++ bytesToHex m.srtpMasterKey ++
      "\",\"srtp_master_salt\":\"".toList ++ bytesToHex m.srtpMasterSalt ++
      "\",\"ssrc\":".toList ++ unsigned m.ssrc ++
      ",\"reflector_ssrc\":".toList ++ unsigned m.reflectorSsrc ++
      ",\"tg_members\":".toList ++ buildTgMembersJson beyond m.tgMembers ++ "\x7d".toList)

def tgRosterTree (tg : Nat) (members : List (String × Bool)) : Tree :=
  .object
    [("type".toList, .string "tg_roster".toList), ("tg".toList, .number (unsigned tg)),
      ("members".toList, rosterTree members)]

def loginOkTree (m : LoginOk) : Tree :=
  .object
    [("type".toList, .string "login_ok".toList),
      ("node_id".toList, .string m.nodeId.toList),
      ("talkgroup".toList, .number (unsigned m.talkgroup)),
      ("keepalive_s".toList, .number (signed m.keepaliveS)),
      ("hangtime_ms".toList, .number (signed m.hangtimeMs)),
      ("proto".toList, .string m.proto.toList),
      ("rtp_endpoint".toList, .string (m.rtpHost.toList ++ ':' :: signed m.rtpPort)),
      ("srtp_master_key".toList, .string (bytesToHex m.srtpMasterKey)),
      ("srtp_master_salt".toList, .string (bytesToHex m.srtpMasterSalt)),
      ("ssrc".toList, .number (unsigned m.ssrc)),
      ("reflector_ssrc".toList, .number (unsigned m.reflectorSsrc)),
      ("tg_members".toList, rosterTree m.tgMembers)]

theorem tgRosterText_whole (beyond : Text) (tg : Nat) {members : List (String × Bool)}
    (fits : RosterFits members) :
    tgRosterText beyond tg members = bounded rosterSize ((tgRosterTree tg members).text id id) := by
  rw [tgRosterText, buildTgMembersJson_fits beyond fits]
  simp [tgRosterTree, Tree.text, Json.fieldsText, Json.moreFields, Json.stringText, Json.openBrace,
    Json.closeBrace]

set_option maxRecDepth 2000 in
theorem loginOkText_whole (beyond : Text) {m : LoginOk} (fits : RosterFits m.tgMembers) :
    loginOkText beyond m = bounded maxMsg ((loginOkTree m).text id id) := by
  rw [loginOkText, buildTgMembersJson_fits beyond fits]
  simp [loginOkTree, Tree.text, Json.fieldsText, Json.moreFields, Json.stringText, Json.openBrace,
    Json.closeBrace]

/-! ## Lengths -/

def IsInt (x : Int) : Prop :=
  -2147483648 ≤ x ∧ x ≤ intMax

instance (x : Int) : Decidable (IsInt x) :=
  inferInstanceAs (Decidable (_ ∧ _))

/-- What the reply is made of: texts of the configuration, `int`s, and the session's keys. -/
structure ReplyData (m : LoginOk) : Prop where
  nodeId : m.nodeId.toList.length < rcfgMaxNodeId
  talkgroup : m.talkgroup ≤ 65535
  keepaliveS : IsInt m.keepaliveS
  hangtimeMs : IsInt m.hangtimeMs
  proto : m.proto = Link.protoVersion
  rtpHost : m.rtpHost.toList.length < 64
  rtpPort : IsInt m.rtpPort
  srtpMasterKey : m.srtpMasterKey.length = 16
  srtpMasterSalt : m.srtpMasterSalt.length = 14
  ssrc : m.ssrc < 2 ^ 32
  reflectorSsrc : m.reflectorSsrc < 2 ^ 32

theorem unsigned_length {n : Nat} (places : Nat) (small : n < 10 ^ (places + 1)) :
    (unsigned n).length ≤ places + 1 :=
  Nat.toDigits_length 10 n (places + 1) (Nat.succ_pos places) small

theorem signed_length {x : Int} (isInt : IsInt x) : (signed x).length ≤ 11 := by
  obtain ⟨low, high⟩ := isInt
  simp only [intMax] at high
  cases x with
  | ofNat n =>
    have below : n < 10 ^ 10 := by
      rw [Int.ofNat_eq_natCast] at high
      omega
    exact Nat.le_succ_of_le (unsigned_length 9 below)
  | negSucc n =>
    have below : n + 1 < 10 ^ 10 := by omega
    exact Nat.succ_le_succ (unsigned_length 9 below)

theorem bytesToHex_length (bytes : List Nat) : (bytesToHex bytes).length = 2 * bytes.length := by
  induction bytes with
  | nil => rfl
  | cons b bytes ih =>
    have step : (bytesToHex (b :: bytes)).length = (bytesToHex bytes).length + 2 := rfl
    rw [step, ih, List.length_cons]
    omega

theorem tgRosterTree_length {tg : Nat} (numbered : tg ≤ 65535) {members : List (String × Bool)}
    (fits : RosterFits members) : ((tgRosterTree tg members).text id id).length < rosterSize := by
  have number : (unsigned tg).length ≤ 5 := unsigned_length 4 (by omega)
  have closed := fits.closed
  simp only [membersSize] at closed
  simp [tgRosterTree, Tree.text, Json.fieldsText, Json.moreFields, Json.stringText, rosterSize]
  omega

set_option maxRecDepth 2000 in
theorem loginOkTree_length {m : LoginOk} (data : ReplyData m) (fits : RosterFits m.tgMembers) :
    ((loginOkTree m).text id id).length < maxMsg := by
  have closed := fits.closed
  have nodeId := data.nodeId
  have talkgroup : (unsigned m.talkgroup).length ≤ 5 :=
    unsigned_length 4 (Nat.lt_of_le_of_lt data.talkgroup (by decide))
  have keepaliveS := signed_length data.keepaliveS
  have hangtimeMs := signed_length data.hangtimeMs
  have rtpHost := data.rtpHost
  have rtpPort := signed_length data.rtpPort
  have ssrc : (unsigned m.ssrc).length ≤ 10 :=
    unsigned_length 9 (Nat.lt_trans data.ssrc (by norm_num))
  have reflectorSsrc : (unsigned m.reflectorSsrc).length ≤ 10 :=
    unsigned_length 9 (Nat.lt_trans data.reflectorSsrc (by norm_num))
  simp only [membersSize, rcfgMaxNodeId] at closed nodeId
  simp [loginOkTree, Tree.text, Json.fieldsText, Json.moreFields, Json.stringText, maxMsg,
    bytesToHex_length, data.srtpMasterKey, data.srtpMasterSalt, data.proto, Link.protoVersion]
  omega

/-! ## Reading back -/

theorem unsigned_faithful (n : Nat) : (Tree.number (unsigned n)).Faithful id id :=
  Json.faithful_number (Events.regular_natural n)

theorem signed_faithful (x : Int) : (Tree.number (signed x)).Faithful id id :=
  Json.faithful_number (Events.regular_integer x)

theorem plain_append {a b : Text} (first : Json.Plain a) (second : Json.Plain b) :
    Json.Plain (a ++ b) := by
  intro c member
  exact (List.mem_append.mp member).elim (first c) (second c)

theorem plain_number {lexeme : Text} (all : lexeme.all Json.numberChar = true) : Json.Plain lexeme := by
  intro c member
  have isOne := List.all_eq_true.mp all c member
  have printable := Json.printable_number isOne
  refine Json.plainChar_iff.mpr ⟨(Json.numberChar_spec isOne).1, ?_, by omega⟩
  rintro rfl
  exact absurd isOne (by decide)

theorem plain_signed (x : Int) : Json.Plain (signed x) :=
  plain_number (Events.regular_integer x).2

theorem plain_hex (bytes : List Nat) : Json.Plain (bytesToHex bytes) := by
  have digit (n : Nat) : Json.plainChar (hexDigit n) = true := by
    have plain : hexDigits.all Json.plainChar = true := by decide
    rw [hexDigit]
    cases found : hexDigits[n]? with
    | none => decide
    | some c => exact List.all_eq_true.mp plain c (List.mem_of_getElem? found)
  intro c member
  obtain ⟨b, -, written⟩ := List.mem_flatMap.mp member
  simp only [List.mem_cons, List.not_mem_nil, or_false] at written
  rcases written with rfl | rfl <;> exact digit _

theorem rosterTree_faithful {members : List (String × Bool)}
    (plain : ∀ m ∈ members, Json.Plain m.1.toList) : (rosterTree members).Faithful id id := by
  refine Json.faithful_array.mpr fun t listed => ?_
  obtain ⟨m, member, rfl⟩ := List.mem_map.mp listed
  have connected : (Tree.truth m.2).Faithful id id := by
    unfold Tree.Faithful
    trivial
  refine (Json.faithful_record rfl).mpr ?_
  simpa using ⟨Json.faithful_plain (plain m member), connected⟩

theorem tgRosterTree_faithful (tg : Nat) {members : List (String × Bool)}
    (plain : ∀ m ∈ members, Json.Plain m.1.toList) : (tgRosterTree tg members).Faithful id id := by
  refine (Json.faithful_record rfl).mpr ?_
  simp only [List.forall_mem_cons]
  exact ⟨Json.faithful_plain (by decide), unsigned_faithful tg, rosterTree_faithful plain, by simp⟩

theorem loginOkTree_faithful {m : LoginOk} (node : Json.Plain m.nodeId.toList)
    (host : Json.Plain m.rtpHost.toList) (proto : m.proto = Link.protoVersion)
    (plain : ∀ member ∈ m.tgMembers, Json.Plain member.1.toList) : (loginOkTree m).Faithful id id := by
  have endpoint : Json.Plain (m.rtpHost.toList ++ ':' :: signed m.rtpPort) :=
    plain_append host (plain_append (a := [':']) (by decide) (plain_signed m.rtpPort))
  have version : Json.Plain m.proto.toList := by
    rw [proto]
    decide
  refine (Json.faithful_record rfl).mpr ?_
  simp only [List.forall_mem_cons]
  exact ⟨Json.faithful_plain (by decide), Json.faithful_plain node, unsigned_faithful _,
    signed_faithful _, signed_faithful _, Json.faithful_plain version, Json.faithful_plain endpoint,
    Json.faithful_plain (plain_hex _), Json.faithful_plain (plain_hex _), unsigned_faithful _,
    unsigned_faithful _, rosterTree_faithful plain, by simp⟩

theorem readJson_tgRoster (beyond : Text) {tg : Nat} (numbered : tg ≤ 65535)
    {members : List (String × Bool)} (fits : RosterFits members)
    (plain : ∀ m ∈ members, Json.Plain m.1.toList) :
    (tgRosterText beyond tg members).length < maxMsg ∧
      Json.readJson (tgRosterText beyond tg members) = some (tgRosterTree tg members) := by
  have short := tgRosterTree_length numbered fits
  have whole : tgRosterText beyond tg members = (tgRosterTree tg members).text id id := by
    rw [tgRosterText_whole beyond tg fits, bounded, List.take_of_length_le (by omega)]
  rw [whole]
  exact ⟨Nat.lt_trans short (by decide), Json.readJson_text (tgRosterTree_faithful tg plain)⟩

theorem readJson_loginOk (beyond : Text) {m : LoginOk} (data : ReplyData m)
    (fits : RosterFits m.tgMembers) (node : Json.Plain m.nodeId.toList)
    (host : Json.Plain m.rtpHost.toList)
    (plain : ∀ member ∈ m.tgMembers, Json.Plain member.1.toList) :
    (loginOkText beyond m).length < maxMsg ∧
      Json.readJson (loginOkText beyond m) = some (loginOkTree m) := by
  have short := loginOkTree_length data fits
  have whole : loginOkText beyond m = (loginOkTree m).text id id := by
    rw [loginOkText_whole beyond fits, bounded, List.take_of_length_le (by omega)]
  rw [whole]
  exact ⟨short, Json.readJson_text (loginOkTree_faithful node host data.proto plain)⟩

/-!
## Rosters and login replies of a loaded configuration

Whatever is loaded, the messages stay within the protocol's bound as long as the list of members has
room in its buffer.
-/

section Loaded

variable {cfg : KerchunkConfig} {c : RcfgLoaded}

theorem rcfgOfConfig_globals (loaded : rcfgOfConfig cfg = some c) :
    loadGlobals cfg = some c.globals := by
  unfold rcfgOfConfig at loaded
  split at loaded
  next => simp at loaded
  next globals read =>
    split at loaded
    next => simp at loaded
    next =>
      split at loaded
      next => simp at loaded
      next =>
        split at loaded
        next => simp at loaded
        next =>
          rw [← Option.some.inj loaded]
          exact read

theorem atoiText_int (text : Text) : IsInt (atoiText text) := by
  unfold atoiText
  split
  next => exact Config.wrap_bounds _
  next => exact Config.wrap_bounds _
  next => exact Config.wrap_bounds _

theorem configGetInt_int (sec key : Text) {default : Int} (isInt : IsInt default) :
    IsInt (Cwid.configGetInt cfg sec key default) := by
  unfold Cwid.configGetInt
  split
  next => exact atoiText_int _
  next => exact isInt

theorem loadGlobals_bounds {g : RcfgGlobals} (read : loadGlobals cfg = some g) :
    IsInt g.keepaliveS ∧ IsInt g.hangtimeMs ∧ IsInt g.rtpPort ∧
      g.rtpAdvertiseHost.toList.length < 64 := by
  unfold loadGlobals at read
  dsimp only at read
  split at read
  next => simp at read
  next =>
    split at read
    next => simp at read
    next =>
      rw [← Option.some.inj read]
      refine ⟨configGetInt_int _ _ (by decide), configGetInt_int _ _ (by decide),
        configGetInt_int _ _ (by decide), ?_⟩
      simp only [bounded, String.toList_ofList, List.length_take]
      omega

theorem nodeId_of {c : Rcfg} {P : Text → Prop} (empty : P []) (all : ∀ n ∈ c.nodes, P n.id.toList)
    (i : Nat) : P (c.nodeId i).toList := by
  rw [Rcfg.nodeId]
  cases found : c.nodes[i]? with
  | none => exact empty
  | some n => exact all n (List.mem_of_getElem? found)

theorem nodeId_length (loads : Loads cfg c) (i : Nat) :
    ((c.roster loads).nodeId i).toList.length < rcfgMaxNodeId := by
  refine nodeId_of (P := fun id => id.length < rcfgMaxNodeId) (by decide) (fun n member => ?_) i
  obtain ⟨sec, -, read⟩ := Loading.forall₂_mem loads.nodes member
  rw [readNode_id read]
  simp only [bounded, String.toList_ofList, List.length_take, rcfgMaxNodeId]
  omega

end Loaded

/-- The state in which the reply to an accepted login is written. -/
def signedOn (s : State) (c : Nat) (body : Login) (a : Admission) : State :=
  ((s.setConn c fun cs => { cs with state := .authenticated a.nodeIdx }).setNode a.nodeIdx fun n =>
    n.login s c body.clientVersion a).note (.login a.nodeIdx)

/-- What `RAND_bytes` fills. -/
structure SrtpMaterial.Drawn (material : SrtpMaterial) : Prop where
  masterKey : material.masterKey.length = 16
  masterSalt : material.masterSalt.length = 14
  nodeSsrc : material.nodeSsrc < 2 ^ 32
  reflSsrc : material.reflSsrc < 2 ^ 32

theorem loginCheck_srtp {s : State} {body : Login} {draw : LoginDraw} {a : Admission}
    (accepted : loginCheck s body draw = .ok a) : draw.srtp = some a.srtp := by
  simp only [loginCheck, require_bind, refuse_bind] at accepted
  obtain ⟨_, _, _, _, _, _, _, _, _, _, _, _, _, _, srtp, drawn, _, _, done⟩ := accepted
  cases done
  exact drawn

/-! ### Every loaded configuration -/

section Messages

variable {cfg : KerchunkConfig} {c : RcfgLoaded} {loads : Loads cfg c} {s : State}

theorem buildTgMembers_ids (s : State) (tgIdx : Nat) :
    (buildTgMembers s tgIdx).map Prod.fst = (s.cfg.members tgIdx).map s.cfg.nodeId := by
  simp [buildTgMembers]

/-- Different members have different ids. -/
theorem buildTgMembers_nodup (ids : (c.nodes.map RcfgNode.id).Nodup) (same : s.cfg = c.roster loads)
    {tgIdx : Nat} (distinct : (s.cfg.members tgIdx).Nodup) :
    ((buildTgMembers s tgIdx).map Prod.fst).Nodup := by
  rw [buildTgMembers_ids]
  have configured : ∀ p ∈ s.cfg.members tgIdx, p < c.nodes.length := by
    intro p member
    rw [same] at member
    unfold Rcfg.members at member
    cases found : (c.roster loads).tgs[tgIdx]? with
    | none => simp [found] at member
    | some t =>
      rw [found] at member
      exact members_configured loads t (List.mem_of_getElem? found) p member
  refine List.Nodup.map_on (fun p inP q inQ equal => ?_) distinct
  have idOf (i : Nat) : s.cfg.nodeId i = (c.nodes.map RcfgNode.id)[i]?.getD "" := by
    rw [same, List.getElem?_map]
    rfl
  have inRange (i : Nat) (below : i < c.nodes.length) : i < (c.nodes.map RcfgNode.id).length := by
    simpa using below
  have first := inRange p (configured p inP)
  have second := inRange q (configured q inQ)
  rw [idOf p, idOf q, List.getElem?_eq_getElem first, List.getElem?_eq_getElem second] at equal
  exact ids.getElem_inj_iff.mp equal

theorem buildTgMembers_plain (ids : ∀ n ∈ c.nodes, Json.Plain n.id.toList)
    (same : s.cfg = c.roster loads) (tgIdx : Nat) :
    ∀ m ∈ buildTgMembers s tgIdx, Json.Plain m.1.toList := by
  intro m member
  obtain ⟨p, -, rfl⟩ := List.mem_map.mp member
  rw [same]
  exact nodeId_of (P := Json.Plain) (by decide) ids p

theorem reply_data (globals : loadGlobals cfg = some c.globals) (same : s.cfg = c.roster loads)
    {body : Login} {draw : LoginDraw} {a : Admission} (accepted : loginCheck s body draw = .ok a)
    (drawn : ∀ material, draw.srtp = some material → material.Drawn) (i : Nat) :
    ReplyData (loginOk (signedOn s i body a) body a) := by
  obtain ⟨keepaliveS, hangtimeMs, rtpPort, rtpHost⟩ := loadGlobals_bounds globals
  obtain ⟨-, named, -, -, may⟩ := loginCheck_ok accepted
  have material := drawn a.srtp (loginCheck_srtp accepted)
  have online : (signedOn s i body a).cfg = c.roster loads := same
  exact
    { nodeId := by
        rw [loginOk, named, same]
        exact nodeId_length loads a.nodeIdx
      talkgroup := (allowed_range may).2
      keepaliveS := by
        rw [loginOk, online]
        exact keepaliveS
      hangtimeMs := by
        rw [loginOk, online]
        exact hangtimeMs
      proto := rfl
      rtpHost := by
        rw [loginOk, online]
        exact rtpHost
      rtpPort := by
        rw [loginOk, online]
        exact rtpPort
      srtpMasterKey := material.masterKey
      srtpMasterSalt := material.masterSalt
      ssrc := material.nodeSsrc
      reflectorSsrc := material.reflSsrc }

theorem admitted_node (same : s.cfg = c.roster loads) {body : Login} {draw : LoginDraw} {a : Admission}
    (accepted : loginCheck s body draw = .ok a) : ∃ n ∈ c.nodes, c.nodes[a.nodeIdx]? = some n := by
  have below : a.nodeIdx < s.cfg.nodes.length := (loginCheck_ok accepted).1
  rw [same] at below
  exact ⟨_, List.getElem_mem below, List.getElem?_eq_getElem below⟩

theorem reply_members {body : Login} {draw : LoginDraw} {a : Admission}
    (accepted : loginCheck s body draw = .ok a) (i : Nat) :
    ∃ tgIdx, rcfgTgIdx s.cfg a.tg = some tgIdx ∧
      (loginOk (signedOn s i body a) body a).tgMembers =
        buildTgMembers (signedOn s i body a) tgIdx := by
  obtain ⟨-, -, -, -, may⟩ := loginCheck_ok accepted
  unfold rcfgNodeAllowedOnTg at may
  split at may
  next tgIdx _ found =>
    refine ⟨tgIdx, found, ?_⟩
    have online : rcfgTgIdx (signedOn s i body a).cfg a.tg = some tgIdx := found
    rw [loginOk, online]
    rfl
  next => cases may

end Messages

/-- A roster and a login reply list the talkgroup's members in the order of its section, each once
where the section names each once. -/
theorem rosters_complete {file : Text} {c : RcfgLoaded} (loaded : rcfgLoad file = some c)
    (ids : ∀ n ∈ c.nodes, Json.Plain n.id.toList)
    (host : Json.Plain c.globals.rtpAdvertiseHost.toList) (beyond : Text) :
    ∃ (cfg : KerchunkConfig) (loads : Loads cfg c), parseFile file = some cfg ∧
      ∀ s : State, s.cfg = c.roster loads →
        (∀ tgIdx,
          (buildTgMembers s tgIdx).map Prod.fst = (s.cfg.members tgIdx).map s.cfg.nodeId ∧
          ((s.cfg.members tgIdx).Nodup → ((buildTgMembers s tgIdx).map Prod.fst).Nodup)) ∧
        (∀ tgIdx < c.tgs.length, RosterFits (buildTgMembers s tgIdx) →
          (tgRosterText beyond (s.cfg.tgNumber tgIdx) (buildTgMembers s tgIdx)).length < maxMsg ∧
          Json.readJson (tgRosterText beyond (s.cfg.tgNumber tgIdx) (buildTgMembers s tgIdx)) =
            some (tgRosterTree (s.cfg.tgNumber tgIdx) (buildTgMembers s tgIdx))) ∧
        ∀ (i : Nat) (body : Login) (draw : LoginDraw) (a : Admission),
          loginCheck s body draw = .ok a →
          (∀ material, draw.srtp = some material → material.Drawn) →
          ∃ tgIdx, rcfgTgIdx s.cfg a.tg = some tgIdx ∧
            (loginOk (signedOn s i body a) body a).tgMembers =
              buildTgMembers (signedOn s i body a) tgIdx ∧
            (RosterFits (buildTgMembers (signedOn s i body a) tgIdx) →
              (loginOkText beyond (loginOk (signedOn s i body a) body a)).length < maxMsg ∧
              Json.readJson (loginOkText beyond (loginOk (signedOn s i body a) body a)) =
                some (loginOkTree (loginOk (signedOn s i body a) body a))) := by
  obtain ⟨cfg, parsed, read⟩ := Option.bind_eq_some_iff.mp loaded
  have loads := rcfgOfConfig_loads read
  refine ⟨cfg, loads, parsed, fun s same => ⟨fun tgIdx => ?_, fun tgIdx below fits => ?_, ?_⟩⟩
  next =>
    exact ⟨buildTgMembers_ids s tgIdx, buildTgMembers_nodup (ids_nodup parsed loads) same⟩
  next =>
    have numbered : s.cfg.tgNumber tgIdx ≤ 65535 := by
      have found : (c.roster loads).tgs[tgIdx]? = some c.tgs[tgIdx] := List.getElem?_eq_getElem below
      rw [same, Rcfg.tgNumber, found]
      exact (tgs_numbered loads _ (List.getElem_mem below)).2
    exact readJson_tgRoster beyond numbered fits (buildTgMembers_plain ids same tgIdx)
  next =>
    intro i body draw a accepted drawn
    obtain ⟨tgIdx, found, members⟩ := reply_members accepted i
    refine ⟨tgIdx, found, members, fun fits => ?_⟩
    have online : (signedOn s i body a).cfg = c.roster loads := same
    have data := reply_data (rcfgOfConfig_globals read) same accepted drawn i
    obtain ⟨-, named, -, -, -⟩ := loginCheck_ok accepted
    refine readJson_loginOk beyond data (members ▸ fits) ?_ ?_ ?_
    next =>
      rw [loginOk, named, same]
      exact nodeId_of (P := Json.Plain) (by decide) ids a.nodeIdx
    next =>
      rw [loginOk, online]
      exact host
    next =>
      rw [members]
      exact buildTgMembers_plain ids online tgIdx

/-- A node that may be on two talkgroups, one of which is configured. -/
def twoAllowed : Text :=
  "[node.A]
preshared_key_hex=".toList ++ List.replicate 64 '0' ++
    "
allowed_tgs=1,4124
[talkgroup.1]
nodes=A
".toList

theorem parses_twoAllowed : (parseFile twoAllowed).isSome = true := by
  decide +kernel

def twoAllowedConfig : KerchunkConfig :=
  (parseFile twoAllowed).get parses_twoAllowed

theorem accepts_twoAllowed : (rcfgOfConfig twoAllowedConfig).isSome = true := by
  decide +kernel

def twoAllowedLoaded : RcfgLoaded :=
  (rcfgOfConfig twoAllowedConfig).get accepts_twoAllowed

theorem loads_twoAllowed : Loads twoAllowedConfig twoAllowedLoaded :=
  rcfgOfConfig_loads (Option.some_get accepts_twoAllowed).symm

theorem rcfgLoad_twoAllowed : rcfgLoad twoAllowed = some twoAllowedLoaded := by
  have parsed : parseFile twoAllowed = some twoAllowedConfig :=
    (Option.some_get parses_twoAllowed).symm
  rw [rcfgLoad, parsed, Option.bind_some]
  exact (Option.some_get accepts_twoAllowed).symm

def loginOfA : Login where
  nodeId := some "A"
  keyHmac := some (String.ofList (List.replicate 64 '0'))
  nonce := some (String.ofList (List.replicate 32 '0'))
  clientVersion := none

def drawOfA : LoginDraw where
  hmacMatches := true
  srtp := some ⟨List.replicate 16 0, List.replicate 14 0, 1, 2⟩
  rtpStart := some (0, 0)

def stateOfA : State :=
  State.init (twoAllowedLoaded.roster loads_twoAllowed) 0

theorem stateOfA_cfg : stateOfA.cfg = twoAllowedLoaded.roster loads_twoAllowed := rfl

/-- Who is listed in the reply to A, and whether the other talkgroup's number stands in it. -/
def replyToA : Option (List (String × Bool) × Bool) :=
  match loginCheck stateOfA loginOfA drawOfA with
  | .error _ => none
  | .ok a =>
    let reply := loginOk (signedOn stateOfA 0 loginOfA a) loginOfA a
    some (reply.tgMembers, decide ("4124".toList <:+: loginOkText [] reply))

theorem replyToA_alone : replyToA = some ([("A", true)], false) := by
  decide +kernel

theorem loginCheck_ofA : ∃ a, loginCheck stateOfA loginOfA drawOfA = .ok a ∧
    (loginOk (signedOn stateOfA 0 loginOfA a) loginOfA a).tgMembers = [("A", true)] ∧
    ¬ "4124".toList <:+: loginOkText [] (loginOk (signedOn stateOfA 0 loginOfA a) loginOfA a) := by
  have reply := replyToA_alone
  unfold replyToA at reply
  split at reply
  next => cases reply
  next a accepted =>
    obtain ⟨members, unlisted⟩ := Prod.mk.inj (Option.some.inj reply)
    exact ⟨a, accepted, members, of_decide_eq_false unlisted⟩

theorem drawOfA_drawn : ∀ material, drawOfA.srtp = some material → material.Drawn := by
  rintro material ⟨⟩
  exact ⟨rfl, rfl, by decide, by decide⟩

theorem rosters_complete_twoAllowed : ∃ a, loginCheck stateOfA loginOfA drawOfA = .ok a ∧
    Json.readJson (loginOkText [] (loginOk (signedOn stateOfA 0 loginOfA a) loginOfA a)) =
      some (loginOkTree (loginOk (signedOn stateOfA 0 loginOfA a) loginOfA a)) := by
  have ids : ∀ n ∈ twoAllowedLoaded.nodes, Json.Plain n.id.toList := by decide +kernel
  have host : Json.Plain twoAllowedLoaded.globals.rtpAdvertiseHost.toList := by decide +kernel
  obtain ⟨cfg, loads, parsed, all⟩ := rosters_complete rcfgLoad_twoAllowed ids host []
  obtain rfl : twoAllowedConfig = cfg :=
    Option.some.inj ((Option.some_get parses_twoAllowed).trans parsed)
  obtain ⟨a, accepted, members, -⟩ := loginCheck_ofA
  obtain ⟨tgIdx, -, built, reply⟩ := (all stateOfA stateOfA_cfg).2.2 0 loginOfA drawOfA a accepted drawOfA_drawn
  have fits : RosterFits [("A", true)] := ⟨by decide, by decide⟩
  exact ⟨a, accepted, (reply (built ▸ members ▸ fits)).2⟩

/-- The reply names no talkgroup but the one that the node is put on. -/
theorem allowed_unlisted :
    ¬ ∀ (file : Text) (c : RcfgLoaded) (cfg : KerchunkConfig) (loads : Loads cfg c) (s : State)
      (i : Nat) (body : Login) (draw : LoginDraw) (a : Admission) (n : RcfgNode) (beyond : Text),
      rcfgLoad file = some c → s.cfg = c.roster loads → loginCheck s body draw = .ok a →
      (∀ material, draw.srtp = some material → material.Drawn) → c.nodes[a.nodeIdx]? = some n →
      (loginOkText beyond (loginOk (signedOn s i body a) body a)).length < maxMsg ∧
      ∀ tg ∈ n.allowedTgs,
        Events.unsigned tg <:+: loginOkText beyond (loginOk (signedOn s i body a) body a) := by
  intro all
  obtain ⟨a, accepted, -, unlisted⟩ := loginCheck_ofA
  obtain ⟨n, member, node⟩ := admitted_node stateOfA_cfg accepted
  have allowed : ∀ n ∈ twoAllowedLoaded.nodes, 4124 ∈ n.allowedTgs := by decide +kernel
  have listed := all twoAllowed twoAllowedLoaded twoAllowedConfig loads_twoAllowed stateOfA 0 loginOfA
    drawOfA a n [] rcfgLoad_twoAllowed stateOfA_cfg accepted drawOfA_drawn node
  exact unlisted (listed.2 4124 (allowed n member))

end Kerchunk.Reflectd
