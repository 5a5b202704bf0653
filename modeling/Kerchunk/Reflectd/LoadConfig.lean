import Kerchunk.Config.Lookup
import Kerchunk.Cwid.Model
import Kerchunk.Lib.CString
import Kerchunk.Lib.Tables
import Kerchunk.Reflectd.Config
import Mathlib.Data.List.Nodup

set_option autoImplicit false

/-!
# Loading the reflector's configuration (`config.c`)

Nodes first, then talkgroups, whose members are looked up among the nodes.
-/

namespace Kerchunk.Reflectd

open Kerchunk.Config (Text KerchunkConfig atoiText bounded configGet doubleQuote parseFile sectionNames
  singleQuote)
open Cwid (configGetInt)

def rcfgMaxNodes : Nat := 256
def rcfgMaxTgs : Nat := 64
def rcfgMaxTgsPerNode : Nat := 32
def rcfgMaxNodeId : Nat := 64
def rcfgMaxTgName : Nat := 64

def isxdigit (c : Char) : Bool :=
  Config.isDigit c || ('a' ≤ c ∧ c ≤ 'f') || ('A' ≤ c ∧ c ≤ 'F')

def trimUnquote (s : Text) : Text :=
  let s := Config.trim s
  let quotedBy (quote : Char) : Bool := s.head? = some quote ∧ s.getLast? = some quote
  if 2 ≤ s.length ∧ (quotedBy doubleQuote ∨ quotedBy singleQuote) then s.tail.dropLast else s

def splitCsv (src : Text) (max : Nat) : List Text :=
  ((CString.tokens ',' src).take max).map trimUnquote

def tgNumberOf (v : Int) : Option Nat :=
  if v ≤ 0 ∨ 65535 < v then none else some v.toNat

def nodeIdx (nodes : List RcfgNode) (id : Text) : Option Nat :=
  -- `rcfg_node_idx`, while the nodes are loaded.
  nodes.findIdx? fun n => n.id == String.ofList id

/-! ## Nodes and talkgroups -/

def allowedList (cfg : KerchunkConfig) (sec : Text) : Option (List Nat) :=
  match configGet cfg sec "allowed_tgs".toList with
  | none => some []
  | some allowed =>
    (splitCsv (bounded 256 allowed) rcfgMaxTgsPerNode).mapM fun tok => tgNumberOf (atoiText tok)

def withDefault (allowed : List Nat) (defaultTg : Nat) : List Nat :=
  if defaultTg ≠ 0 ∧ defaultTg ∉ allowed ∧ allowed.length < rcfgMaxTgsPerNode then
    allowed ++ [defaultTg]
  else allowed

def readNode (cfg : KerchunkConfig) (sec : Text) : Option RcfgNode :=
  match configGet cfg sec "preshared_key_hex".toList with
  | none => none
  | some pskHex =>
    if pskHex.length ≠ 64 ∨ pskHex.all isxdigit = false then none
    else
      match allowedList cfg sec with
      | none => none
      | some allowed =>
        let defaultTg := (configGetInt cfg sec "default_tg".toList 0 % 65536).toNat
        some
          { id := String.ofList (bounded rcfgMaxNodeId (sec.drop "node.".length))
            allowedTgs := withDefault allowed defaultTg
            defaultTg := defaultTg
            banned := configGetInt cfg sec "banned".toList 0 ≠ 0 }

def loadNode (cfg : KerchunkConfig) (nodes : List RcfgNode) (sec : Text) : Option (List RcfgNode) :=
  if rcfgMaxNodes ≤ nodes.length then none
  else (readNode cfg sec).map fun n => nodes ++ [n]

def memberNames (cfg : KerchunkConfig) (sec : Text) : List Text :=
  match configGet cfg sec "nodes".toList with
  | none => []
  | some members => splitCsv (bounded 1024 members) rcfgMaxNodes

def nameOf (cfg : KerchunkConfig) (sec : Text) : Text :=
  match configGet cfg sec "name".toList with
  | none => []
  | some name => bounded rcfgMaxTgName (trimUnquote (bounded rcfgMaxTgName name))

def readTg (cfg : KerchunkConfig) (nodes : List RcfgNode) (sec : Text) : Option RcfgTg :=
  match tgNumberOf (atoiText (sec.drop "talkgroup.".length)) with
  | none => none
  | some number =>
    match (memberNames cfg sec).mapM (nodeIdx nodes) with
    | none => none
    | some members =>
      some
        { number := number
          name := String.ofList (nameOf cfg sec)
          memberNodeIdxs := members }

def loadTg (cfg : KerchunkConfig) (nodes : List RcfgNode) (tgs : List RcfgTg) (sec : Text) :
    Option (List RcfgTg) :=
  if rcfgMaxTgs ≤ tgs.length then none
  else (readTg cfg nodes sec).map fun t => tgs ++ [t]

/-! ## Globals -/

/-- The fields that the session code reads. -/
structure RcfgGlobals where
  keepaliveS : Int
  hangtimeMs : Int
  minClientVersion : String
  muteThresholdPct : Int
  authFailKick : Int
  rtpPort : Int
  rtpAdvertiseHost : String

def loadGlobals (cfg : KerchunkConfig) : Option RcfgGlobals :=
  let get (key : String) : Option Text := configGet cfg "reflector".toList key.toList
  let getInt (key : String) (default : Int) : Int :=
    configGetInt cfg "reflector".toList key.toList default
  let listenUrl := bounded 128 ((get "listen_url").getD "ws://0.0.0.0:8443".toList)
  let tlsCert := bounded 256 ((get "tls_cert").getD [])
  let tlsKey := bounded 256 ((get "tls_key").getD [])
  if (tlsCert ≠ [] ∧ tlsKey = []) ∨ (tlsCert = [] ∧ tlsKey ≠ []) then none
  else if "wss://".toList <+: listenUrl ∧ tlsCert = [] then none
  else
    some
      { keepaliveS := getInt "keepalive_s" 15
        hangtimeMs := getInt "hangtime_ms" 1500
        minClientVersion := String.ofList (bounded 32 ((get "min_client_version").getD []))
        muteThresholdPct := getInt "mute_threshold_pct" 15
        authFailKick := getInt "auth_fail_kick" 200
        rtpPort := getInt "rtp_port" 7878
        rtpAdvertiseHost :=
          String.ofList (bounded 64 ((get "rtp_advertise_host").getD "127.0.0.1".toList)) }

/-! ## The file -/

structure RcfgLoaded where
  globals : RcfgGlobals
  nodes : List RcfgNode
  tgs : List RcfgTg

def nodeSections (cfg : KerchunkConfig) : List Text :=
  (sectionNames cfg).filter fun sec => "node.".toList <+: sec

def tgSections (cfg : KerchunkConfig) : List Text :=
  (sectionNames cfg).filter fun sec => "talkgroup.".toList <+: sec

def rcfgOfConfig (cfg : KerchunkConfig) : Option RcfgLoaded :=
  match loadGlobals cfg with
  | none => none
  | some globals =>
    match (nodeSections cfg).foldlM (loadNode cfg) [] with
    | none => none
    | some nodes =>
      match (tgSections cfg).foldlM (loadTg cfg nodes) [] with
      | none => none
      | some tgs => if nodes = [] ∨ tgs = [] then none else some ⟨globals, nodes, tgs⟩

def rcfgLoad (file : Text) : Option RcfgLoaded :=
  (parseFile file).bind rcfgOfConfig

/-! ## What is loaded -/

/-- What loading a table of entries has done. -/
structure Loads (cfg : KerchunkConfig) (c : RcfgLoaded) : Prop where
  nodes : List.Forall₂ (fun sec n => readNode cfg sec = some n) (nodeSections cfg) c.nodes
  nodesFit : c.nodes.length ≤ rcfgMaxNodes
  tgs : List.Forall₂ (fun sec t => readTg cfg c.nodes sec = some t) (tgSections cfg) c.tgs
  tgsFit : c.tgs.length ≤ rcfgMaxTgs

theorem rcfgOfConfig_loads {cfg : KerchunkConfig} {c : RcfgLoaded}
    (loaded : rcfgOfConfig cfg = some c) : Loads cfg c := by
  unfold rcfgOfConfig at loaded
  split at loaded
  next => simp at loaded
  next globals _ =>
    split at loaded
    next => simp at loaded
    next nodes nodesLoaded =>
      split at loaded
      next => simp at loaded
      next tgs tgsLoaded =>
        split at loaded
        next => simp at loaded
        next =>
          obtain rfl := Option.some.inj loaded
          obtain ⟨nodesFit, nodes, rfl, fromNodes⟩ :=
            @Loading.foldlM_table _ _ _ rcfgMaxNodes _ (fun _ _ => rfl) _ _ _ nodesLoaded (Nat.zero_le _)
          obtain ⟨tgsFit, tgs, rfl, fromTgs⟩ :=
            @Loading.foldlM_table _ _ _ rcfgMaxTgs _ (fun _ _ => rfl) _ _ _ tgsLoaded (Nat.zero_le _)
          exact ⟨fromNodes, nodesFit, fromTgs, tgsFit⟩

section Nodes

theorem nodeIdx_some {nodes : List RcfgNode} {id : Text} {i : Nat} (found : nodeIdx nodes id = some i) :
    i < nodes.length ∧ nodes[i]?.map RcfgNode.id = some (String.ofList id) := by
  obtain ⟨bound, same, -⟩ := List.findIdx?_eq_some_iff_getElem.mp found
  exact ⟨bound, by simpa [bound] using same⟩

theorem ofList_inj {a b : Text} (same : String.ofList a = String.ofList b) : a = b := by
  simpa using congrArg String.toList same

theorem readNode_id {cfg : KerchunkConfig} {sec : Text} {n : RcfgNode}
    (read : readNode cfg sec = some n) :
    n.id = String.ofList (bounded rcfgMaxNodeId (sec.drop 5)) := by
  unfold readNode at read
  split at read
  next => simp at read
  next =>
    split at read
    next => simp at read
    next =>
      split at read
      next => simp at read
      next =>
        rw [← Option.some.inj read]
        rfl

theorem section_fits {file : Text} {cfg : KerchunkConfig} (parsed : parseFile file = some cfg)
    {sec : Text} (member : sec ∈ sectionNames cfg) : sec.length < 64 := by
  obtain ⟨e, held, rfl⟩ := Grouping.mem_keys.mp member
  exact ((Config.parseFile_loaded parsed).1 e held).fits.1

/-- Sections have different names, and a name that fits its buffer is no longer than an id. -/
theorem ids_nodup {file : Text} {cfg : KerchunkConfig} (parsed : parseFile file = some cfg)
    {c : RcfgLoaded} (loads : Loads cfg c) : (c.nodes.map RcfgNode.id).Nodup := by
  rw [Loading.forall₂_map (fun _ _ read => readNode_id read) loads.nodes]
  refine List.Nodup.map_on ?_ ((Grouping.keys_nodup cfg).filter _)
  intro a inA b inB same
  obtain ⟨heldA, prefixA⟩ := List.mem_filter.mp inA
  obtain ⟨heldB, prefixB⟩ := List.mem_filter.mp inB
  have whole (sec : Text) (fits : sec.length < 64) :
      bounded rcfgMaxNodeId (sec.drop 5) = sec.drop 5 :=
    List.take_of_length_le (by rw [List.length_drop]; simp only [rcfgMaxNodeId]; omega)
  have rest := ofList_inj same
  rw [whole a (section_fits parsed heldA), whole b (section_fits parsed heldB)] at rest
  obtain ⟨restA, rfl⟩ := of_decide_eq_true prefixA
  obtain ⟨restB, rfl⟩ := of_decide_eq_true prefixB
  simpa using rest

theorem withDefault_default (allowed : List Nat) (defaultTg : Nat) :
    defaultTg = 0 ∨ defaultTg ∈ withDefault allowed defaultTg ∨
      rcfgMaxTgsPerNode ≤ (withDefault allowed defaultTg).length := by
  unfold withDefault
  by_cases zero : defaultTg = 0
  next => exact .inl zero
  next =>
    by_cases listed : defaultTg ∈ allowed
    next =>
      rw [if_neg (by simp [listed])]
      exact .inr (.inl listed)
    next =>
      by_cases space : allowed.length < rcfgMaxTgsPerNode
      next =>
        rw [if_pos ⟨zero, listed, space⟩]
        exact .inr (.inl (by simp))
      next =>
        rw [if_neg (by simp [space])]
        exact .inr (.inr (Nat.not_lt.mp space))

theorem readNode_default {cfg : KerchunkConfig} {sec : Text} {n : RcfgNode}
    (read : readNode cfg sec = some n) :
    n.defaultTg = 0 ∨ n.defaultTg ∈ n.allowedTgs ∨ rcfgMaxTgsPerNode ≤ n.allowedTgs.length := by
  unfold readNode at read
  split at read
  next => simp at read
  next =>
    split at read
    next => simp at read
    next =>
      split at read
      next => simp at read
      next =>
        rw [← Option.some.inj read]
        exact withDefault_default _ _

end Nodes

section Talkgroups

def sectionNumber (sec : Text) : Nat :=
  (atoiText (sec.drop 10)).toNat

theorem readTg_spec {cfg : KerchunkConfig} {nodes : List RcfgNode} {sec : Text} {t : RcfgTg}
    (read : readTg cfg nodes sec = some t) :
    t.number = sectionNumber sec ∧ 0 < t.number ∧ t.number ≤ 65535 ∧
      List.Forall₂ (fun name i => nodeIdx nodes name = some i) (memberNames cfg sec)
        t.memberNodeIdxs := by
  unfold readTg at read
  split at read
  next => simp at read
  next number numbered =>
    split at read
    next => simp at read
    next members found =>
      obtain rfl := Option.some.inj read
      unfold tgNumberOf at numbered
      split at numbered
      next => simp at numbered
      next range =>
        obtain rfl := Option.some.inj numbered
        exact ⟨rfl, by dsimp only; omega, by dsimp only; omega, Loading.mapM_forall₂ found⟩

theorem nodeIdx_biUnique (nodes : List RcfgNode) :
    Relator.BiUnique fun name i => nodeIdx nodes name = some i := by
  refine ⟨fun a b i foundA foundB => ?_, fun name i j foundI foundJ => ?_⟩
  next =>
    have same := (nodeIdx_some foundA).2.symm.trans (nodeIdx_some foundB).2
    exact ofList_inj (Option.some.inj same)
  next => exact Option.some.inj (foundI.symm.trans foundJ)

end Talkgroups

section Roster

variable {cfg : KerchunkConfig} {c : RcfgLoaded}

theorem tgs_numbered (loads : Loads cfg c) : ∀ t ∈ c.tgs, 0 < t.number ∧ t.number ≤ 65535 := by
  intro t member
  obtain ⟨sec, -, read⟩ := Loading.forall₂_mem loads.tgs member
  exact ⟨(readTg_spec read).2.1, (readTg_spec read).2.2.1⟩

theorem members_configured (loads : Loads cfg c) :
    ∀ t ∈ c.tgs, ∀ i ∈ t.memberNodeIdxs, i < c.nodes.length := by
  intro t member i held
  obtain ⟨sec, -, read⟩ := Loading.forall₂_mem loads.tgs member
  obtain ⟨name, -, found⟩ := Loading.forall₂_mem (readTg_spec read).2.2.2 held
  exact (nodeIdx_some found).1

/-- The roster that the sessions work on. -/
def RcfgLoaded.roster (c : RcfgLoaded) (loads : Loads cfg c) : Rcfg where
  nodes := c.nodes
  tgs := c.tgs
  keepaliveS := c.globals.keepaliveS
  hangtimeMs := c.globals.hangtimeMs
  minClientVersion := c.globals.minClientVersion
  muteThresholdPct := c.globals.muteThresholdPct
  authFailKick := c.globals.authFailKick
  rtpPort := c.globals.rtpPort
  rtpAdvertiseHost := c.globals.rtpAdvertiseHost
  numbered := tgs_numbered loads
  membersConfigured := members_configured loads

theorem tg_numbers (loads : Loads cfg c) :
    c.tgs.map RcfgTg.number = (tgSections cfg).map sectionNumber :=
  Loading.forall₂_map (f := sectionNumber) (g := RcfgTg.number)
    (fun _ _ read => (readTg_spec read).1) loads.tgs

/-- A talkgroup has a member twice where its section names a node twice. -/
theorem members_nodup_iff (loads : Loads cfg c) :
    List.Forall₂ (fun sec t => t.memberNodeIdxs.Nodup ↔ (memberNames cfg sec).Nodup)
      (tgSections cfg) c.tgs :=
  loads.tgs.imp fun _ _ read =>
    (List.rel_nodup (nodeIdx_biUnique c.nodes) (readTg_spec read).2.2.2).symm

theorem default_listed (loads : Loads cfg c) : ∀ n ∈ c.nodes,
    n.defaultTg = 0 ∨ n.defaultTg ∈ n.allowedTgs ∨ rcfgMaxTgsPerNode ≤ n.allowedTgs.length := by
  intro n member
  obtain ⟨sec, -, read⟩ := Loading.forall₂_mem loads.nodes member
  exact readNode_default read

/-- Authorization takes both lists; one that stands alone gives none. -/
theorem allowed_both {c : Rcfg} {i tg : Nat} (allowed : rcfgNodeAllowedOnTg c i tg = true) :
    ∃ n t, c.nodes[i]? = some n ∧ t ∈ c.tgs ∧ t.number = tg ∧ i ∈ t.memberNodeIdxs ∧
      tg ∈ n.allowedTgs := by
  unfold rcfgNodeAllowedOnTg at allowed
  split at allowed
  next n tgIdx node found =>
    obtain ⟨bound, same, -⟩ := List.findIdx?_eq_some_iff_getElem.mp found
    rw [Bool.and_eq_true, List.contains_iff_mem, List.contains_iff_mem] at allowed
    refine ⟨n, c.tgs[tgIdx], node, List.getElem_mem bound, by simpa using same, ?_, allowed.2⟩
    simpa [Rcfg.members, bound] using allowed.1
  next => simp at allowed

theorem allowed_of_both {c : Rcfg} (distinct : (c.tgs.map RcfgTg.number).Nodup) {i : Nat}
    {n : RcfgNode} {t : RcfgTg} (node : c.nodes[i]? = some n) (tg : t ∈ c.tgs)
    (member : i ∈ t.memberNodeIdxs) (listed : t.number ∈ n.allowedTgs) :
    rcfgNodeAllowedOnTg c i t.number = true := by
  obtain ⟨k, below, rfl⟩ := List.getElem_of_mem tg
  have found : rcfgTgIdx c c.tgs[k].number = some k := by
    refine List.findIdx?_eq_some_iff_getElem.mpr ⟨below, by simp, fun j earlier same => ?_⟩
    have inRange (i : Nat) (bound : i < c.tgs.length) : i < (c.tgs.map RcfgTg.number).length := by
      simpa using bound
    have first := inRange j (by omega)
    have second := inRange k below
    have equal : (c.tgs.map RcfgTg.number)[j] = (c.tgs.map RcfgTg.number)[k] := by simpa using same
    exact absurd (distinct.getElem_inj_iff.mp equal) (by omega)
  simp only [rcfgNodeAllowedOnTg, node, found, Bool.and_eq_true, List.contains_iff_mem]
  exact ⟨by simpa [Rcfg.members, below] using member, listed⟩

end Roster

/-- What every file that is accepted comes to. -/
theorem rcfgLoad_wellFormed {file : Text} {c : RcfgLoaded} (loaded : rcfgLoad file = some c) :
    ∃ (cfg : KerchunkConfig) (loads : Loads cfg c),
      parseFile file = some cfg ∧
      (∀ t ∈ c.tgs, 0 < t.number ∧ t.number ≤ 65535 ∧ ∀ i ∈ t.memberNodeIdxs, i < c.nodes.length) ∧
      (c.nodes.map RcfgNode.id).Nodup ∧
      ((c.tgs.map RcfgTg.number).Nodup ↔ ((tgSections cfg).map sectionNumber).Nodup) ∧
      List.Forall₂ (fun sec t => t.memberNodeIdxs.Nodup ↔ (memberNames cfg sec).Nodup)
        (tgSections cfg) c.tgs ∧
      (∀ i tg, rcfgNodeAllowedOnTg (c.roster loads) i tg = true →
        ∃ n t, c.nodes[i]? = some n ∧ t ∈ c.tgs ∧ t.number = tg ∧ i ∈ t.memberNodeIdxs ∧
          tg ∈ n.allowedTgs) ∧
      ((c.tgs.map RcfgTg.number).Nodup → ∀ i n t, c.nodes[i]? = some n → t ∈ c.tgs →
        i ∈ t.memberNodeIdxs → t.number ∈ n.allowedTgs →
          rcfgNodeAllowedOnTg (c.roster loads) i t.number = true) ∧
      ∀ n ∈ c.nodes,
        n.defaultTg = 0 ∨ n.defaultTg ∈ n.allowedTgs ∨ rcfgMaxTgsPerNode ≤ n.allowedTgs.length := by
  obtain ⟨cfg, parsed, read⟩ := Option.bind_eq_some_iff.mp loaded
  have loads := rcfgOfConfig_loads read
  refine ⟨cfg, loads, parsed, fun t member => ?_, ids_nodup parsed loads, ?_,
    members_nodup_iff loads, fun i tg => allowed_both, fun distinct i n t => ?_, default_listed loads⟩
  next =>
    have numbered := tgs_numbered loads t member
    exact ⟨numbered.1, numbered.2, members_configured loads t member⟩
  next => rw [tg_numbers loads]
  next => exact allowed_of_both (c := c.roster loads) distinct

/-- One node and one talkgroup, which names the node twice; the node's own list is empty. -/
def twiceNamed : Text :=
  "[node.A]
preshared_key_hex=".toList ++ List.replicate 64 '0' ++
    "
[talkgroup.1]
nodes=A,A
".toList

theorem rcfgLoad_wellFormed_twice : ∃ c, rcfgLoad twiceNamed = some c ∧
    (c.nodes.map RcfgNode.id).Nodup := by
  have accepted : (rcfgLoad twiceNamed).isSome = true := by decide +kernel
  obtain ⟨c, loaded⟩ := Option.isSome_iff_exists.mp accepted
  obtain ⟨_, _, _, _, distinct, _⟩ := rcfgLoad_wellFormed loaded
  exact ⟨c, loaded, distinct⟩

/-- Members may stand twice, and neither list follows from the other. -/
theorem lists_disagree :
    ¬ ∀ (file : Text) (c : RcfgLoaded), rcfgLoad file = some c →
      (∀ t ∈ c.tgs, t.memberNodeIdxs.Nodup ∧ ∀ i ∈ t.memberNodeIdxs, i < c.nodes.length) ∧
      (c.tgs.map RcfgTg.number).Nodup ∧ (c.nodes.map RcfgNode.id).Nodup ∧
      (∀ (i : Nat) (n : RcfgNode), c.nodes[i]? = some n →
        ∀ t ∈ c.tgs, i ∈ t.memberNodeIdxs ↔ t.number ∈ n.allowedTgs) ∧
      ∀ n ∈ c.nodes, n.defaultTg = 0 ∨ n.defaultTg ∈ n.allowedTgs := by
  intro all
  have shape : (rcfgLoad twiceNamed).map (fun c => c.tgs.map RcfgTg.memberNodeIdxs) =
      some [[0, 0]] := by decide +kernel
  obtain ⟨c, loaded, members⟩ := Option.map_eq_some_iff.mp shape
  obtain ⟨t, member, twice⟩ := List.mem_map.mp (members ▸ List.mem_singleton_self [0, 0])
  have distinct := ((all twiceNamed c loaded).1 t member).1
  rw [twice] at distinct
  exact absurd distinct (by decide)

end Kerchunk.Reflectd
