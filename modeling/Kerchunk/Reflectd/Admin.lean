import Kerchunk.Lib.Machine
import Kerchunk.Reflectd.Handlers
import Mathlib.Data.List.AList

set_option autoImplicit false

/-!
# The roster editor (`src/reflectd/main.c`, `config.c`)

The configuration file is a store of sections, as editor and loader both see them. Requests change
the file at once; the roster in memory follows at the next reload.
-/

namespace Kerchunk.Reflectd.Admin

/-! ## The file and the roster -/

def rcfgMaxNodes : Nat := 256
def rcfgMaxTgs : Nat := 64
def rcfgMaxTgsPerNode : Nat := 32
def rcfgMaxNodeId : Nat := 64
def rcfgMaxTgName : Nat := 64
def pskBytes : Nat := 32

/-- The fields of a `[node.<id>]` section, numbers as `atoi` reads them. -/
structure NodeSection where
  presharedKeyHex : Option String
  allowedTgs : List Int
  defaultTg : Int
  banned : Bool
deriving DecidableEq

/-- A `[talkgroup.<suffix>]` section, with the number of its suffix. -/
structure TgSection where
  number : Int
  name : String
  nodes : List String
deriving DecidableEq

/-- `globals` says whether `load_globals` accepts the rest. -/
structure IniFile where
  nodes : AList fun _ : String => NodeSection
  talkgroups : AList fun _ : String => TgSection
  globals : Bool

/-- `rcfg_node_t`; the key is the text of its bytes. -/
structure NodeRecord where
  psk : String
  allowedTgs : List Nat
  defaultTg : Nat
  banned : Bool
deriving DecidableEq

/-- The nodes of `g_cfg`, by their ids. -/
structure Roster where
  node : String → Option NodeRecord

def lowerHex (hex : String) : String :=
  String.ofList (hex.toList.map Char.toLower)

def outOfRange (tg : Int) : Bool :=
  decide (tg ≤ 0) || decide (65535 < tg)

def loadNode (n : NodeSection) : Option NodeRecord :=
  match n.presharedKeyHex with
  | none => none
  | some hex =>
    if !isHexOf pskBytes hex then none
    else if (n.allowedTgs.take rcfgMaxTgsPerNode).any outOfRange then none
    else
      let allowed := (n.allowedTgs.take rcfgMaxTgsPerNode).map Int.toNat
      let defaultTg := (n.defaultTg % 65536).toNat
      some {
        psk := lowerHex hex
        allowedTgs :=
          if defaultTg ≠ 0 ∧ defaultTg ∉ allowed ∧ allowed.length < rcfgMaxTgsPerNode then
            allowed ++ [defaultTg]
          else allowed
        defaultTg := defaultTg
        banned := n.banned }

def loadTg (file : IniFile) (t : TgSection) : Bool :=
  !outOfRange t.number && (t.nodes.take rcfgMaxNodes).all fun id => (file.nodes.lookup id).isSome

def rcfgLoad (file : IniFile) : Option Roster :=
  if file.globals ∧
      (∀ n ∈ file.nodes.entries, (loadNode n.2).isSome) ∧
      (∀ t ∈ file.talkgroups.entries, loadTg file t.2 = true) ∧
      (0 < file.nodes.entries.length ∧ file.nodes.entries.length ≤ rcfgMaxNodes) ∧
      0 < file.talkgroups.entries.length ∧ file.talkgroups.entries.length ≤ rcfgMaxTgs then
    some { node := fun id => (file.nodes.lookup id).bind loadNode }
  else none

/-! ## Requests -/

def validNodeId : Option String → Bool
  | none => false
  | some id =>
    id ≠ "" && decide (id.length < rcfgMaxNodeId) &&
      id.toList.all fun c => c.isAlphanum || c = '_' || c = '-'

def reject (cond : Bool) (error : String) : Except String Unit :=
  if cond then .error error else .ok ()

/-- Numbers as `strtol` reads them, the default 0 when absent. -/
structure NodeBody where
  id : Option String
  presharedKeyHex : Option String
  allowedTgs : List Int
  defaultTg : Int
  banned : Bool

/-- A member is `none` when it is not a JSON string. -/
structure TgBody where
  tg : Int
  name : Option String
  nodes : List (Option String)

def nodeCheck (b : NodeBody) : Except String (String × NodeSection) := do
  reject (!validNodeId b.id) "bad id"
  reject (!b.presharedKeyHex.any (isHexOf pskBytes)) "preshared_key_hex must be 64 hex chars"
  reject (outOfRange b.defaultTg) "default_tg out of range"
  reject (b.allowedTgs.any outOfRange) "allowed_tgs must be an array of 1..65535"
  return (b.id.getD "",
    { presharedKeyHex := b.presharedKeyHex
      allowedTgs := if b.allowedTgs = [] then [b.defaultTg] else b.allowedTgs
      defaultTg := b.defaultTg
      banned := b.banned })

def safeName (name : Option String) : String :=
  -- Without the characters that would break the line or the quotes.
  String.ofList (((name.getD "").toList.filter fun c => c ≠ '\n' ∧ c ≠ '\r' ∧ c.toNat ≠ 34).take
    (rcfgMaxTgName - 1))

/-- `talkgroup.%ld`, without the word. -/
def tgSuffix (tg : Int) : String := toString tg

def tgCheck (b : TgBody) : Except String TgSection := do
  reject (outOfRange b.tg) "tg out of range"
  reject (!b.nodes.all validNodeId) "nodes must be an array of valid node ids"
  return { number := b.tg, name := safeName b.name, nodes := b.nodes.filterMap id }

def nodeIdCheck (id : Option String) : Except String String := do
  reject (!validNodeId id) "missing or bad id"
  return id.getD ""

def tgNumberCheck : Option Int → Except String Int
  | none => .error "missing tg"
  | some tg => do
    reject (outOfRange tg) "tg out of range"
    return tg

inductive Request where
  | nodeSave (body : NodeBody)
  | nodeDelete (id : Option String)
  | tgSave (body : TgBody)
  | tgDelete (tg : Option Int)

structure State where
  file : IniFile
  cfg : Roster
  reload : Bool

def NodeRecord.withTg (n : NodeRecord) (addTg : Int) : NodeSection where
  -- The section that keeps key, default and ban of the record and adds a talkgroup.
  presharedKeyHex := some n.psk
  allowedTgs := n.allowedTgs.map Int.ofNat ++ [addTg]
  defaultTg := n.defaultTg
  banned := n.banned

def extendNodeAllowedTgs (cfg : Roster) (id : String) (addTg : Int) (writes : Bool)
    (file : IniFile) : IniFile :=
  match cfg.node id with
  | none => file
  | some n =>
    if addTg.toNat ∈ n.allowedTgs then file
    else if writes then { file with nodes := file.nodes.insert id (n.withTg addTg) }
    else file

def extendMembers (cfg : Roster) (addTg : Int) : (Nat → Bool) → List String → IniFile → IniFile
  | _, [], file => file
  | writes, id :: rest, file =>
    extendMembers cfg addTg (fun i => writes (i + 1)) rest
      (extendNodeAllowedTgs cfg id addTg (writes 0) file)

def adminNodeSave (s : State) (b : NodeBody) (writes : Nat → Bool) : State × Except String Unit :=
  -- `writes i` says whether the file can be written the `i`-th time.
  match nodeCheck b with
  | .error error => (s, .error error)
  | .ok (id, n) =>
    if writes 0 then
      ({ s with file := { s.file with nodes := s.file.nodes.insert id n }, reload := true }, .ok ())
    else (s, .error "ini write failed")

def adminNodeDelete (s : State) (id : Option String) (writes : Nat → Bool) :
    State × Except String Unit :=
  match nodeIdCheck id with
  | .error error => (s, .error error)
  | .ok id =>
    if writes 0 then
      ({ s with file := { s.file with nodes := s.file.nodes.erase id }, reload := true }, .ok ())
    else (s, .error "ini remove failed")

def adminTgSave (s : State) (b : TgBody) (writes : Nat → Bool) : State × Except String Unit :=
  match tgCheck b with
  | .error error => (s, .error error)
  | .ok t =>
    if writes 0 then
      let saved := { s.file with talkgroups := s.file.talkgroups.insert (tgSuffix t.number) t }
      -- A member that cannot be written is only logged.
      ({ s with
          file := extendMembers s.cfg t.number (fun i => writes (i + 1)) t.nodes saved
          reload := true }, .ok ())
    else (s, .error "ini write failed")

def adminTgDelete (s : State) (tg : Option Int) (writes : Nat → Bool) :
    State × Except String Unit :=
  match tgNumberCheck tg with
  | .error error => (s, .error error)
  | .ok tg =>
    if writes 0 then
      ({ s with
          file := { s.file with talkgroups := s.file.talkgroups.erase (tgSuffix tg) }
          reload := true }, .ok ())
    else (s, .error "ini remove failed")

def serve (s : State) (r : Request) (writes : Nat → Bool) : State × Except String Unit :=
  match r with
  | .nodeSave body => adminNodeSave s body writes
  | .nodeDelete id => adminNodeDelete s id writes
  | .tgSave body => adminTgSave s body writes
  | .tgDelete tg => adminTgDelete s tg writes

def doReload (s : State) (readable : Bool) : State :=
  match if readable then rcfgLoad s.file else none with
  | none => s
  | some newcfg => { s with cfg := newcfg }

/-- A request, a signal, or the reload of one turn of the main loop. -/
inductive Input where
  | request (r : Request) (writes : Nat → Bool)
  | sighup
  | turn (readable : Bool)

def step (s : State) : Input → State
  | .request r writes => (serve s r writes).1
  | .sighup => { s with reload := true }
  | .turn readable => if s.reload then doReload { s with reload := false } readable else s

end Kerchunk.Reflectd.Admin
