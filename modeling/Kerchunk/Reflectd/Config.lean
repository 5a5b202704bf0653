import Mathlib.Data.List.Basic
import Mathlib.Tactic.Common

set_option autoImplicit false

/-!
# The reflector's roster (`config.h`, `config.c`)
-/

namespace Kerchunk.Reflectd

structure RcfgNode where
  id : String
  allowedTgs : List Nat
  defaultTg : Nat
  banned : Bool

structure RcfgTg where
  number : Nat
  name : String
  memberNodeIdxs : List Nat

/-- A loaded configuration. The last two fields are what `load_tg` refuses to load without. -/
structure Rcfg where
  nodes : List RcfgNode
  tgs : List RcfgTg
  keepaliveS : Int
  hangtimeMs : Int
  minClientVersion : String
  muteThresholdPct : Int
  authFailKick : Int
  rtpPort : Int
  rtpAdvertiseHost : String
  numbered : ∀ t ∈ tgs, 0 < t.number ∧ t.number ≤ 65535
  membersConfigured : ∀ t ∈ tgs, ∀ p ∈ t.memberNodeIdxs, p < nodes.length

namespace Rcfg

-- Entries past the counts are zero: `rcfg_load` clears the whole structure first.
def nodeId (c : Rcfg) (nodeIdx : Nat) : String :=
  (c.nodes[nodeIdx]?.map RcfgNode.id).getD ""

def banned (c : Rcfg) (nodeIdx : Nat) : Bool :=
  (c.nodes[nodeIdx]?.map RcfgNode.banned).getD false

def tgNumber (c : Rcfg) (tgIdx : Nat) : Nat :=
  (c.tgs[tgIdx]?.map RcfgTg.number).getD 0

def tgName (c : Rcfg) (tgIdx : Nat) : String :=
  (c.tgs[tgIdx]?.map RcfgTg.name).getD ""

def members (c : Rcfg) (tgIdx : Nat) : List Nat :=
  (c.tgs[tgIdx]?.map RcfgTg.memberNodeIdxs).getD []

def initialTg (c : Rcfg) (nodeIdx : Nat) : Nat :=
  -- The talkgroup a node is put on: its default, else the first it is allowed on.
  match c.nodes[nodeIdx]? with
  | none => 0
  | some n => if n.defaultTg = 0 then n.allowedTgs.headD 0 else n.defaultTg

end Rcfg

def rcfgNodeIdx (c : Rcfg) (id : String) : Option Nat :=
  c.nodes.findIdx? fun n => n.id == id

def rcfgTgIdx (c : Rcfg) (number : Nat) : Option Nat :=
  c.tgs.findIdx? fun t => t.number == number

def rcfgNodeAllowedOnTg (c : Rcfg) (nodeIdx tg : Nat) : Bool :=
  -- Both must agree: the node lists the talkgroup and the talkgroup lists the node.
  match c.nodes[nodeIdx]?, rcfgTgIdx c tg with
  | some n, some tgIdx => (c.members tgIdx).contains nodeIdx && n.allowedTgs.contains tg
  | _, _ => false

theorem rcfgTgIdx_some {c : Rcfg} {number tgIdx : Nat} (found : rcfgTgIdx c number = some tgIdx) :
    tgIdx < c.tgs.length ∧ c.tgNumber tgIdx = number := by
  obtain ⟨bound, same, _⟩ := List.findIdx?_eq_some_iff_getElem.mp found
  exact ⟨bound, by simpa [Rcfg.tgNumber, bound] using same⟩

theorem rcfgNodeIdx_some {c : Rcfg} {id : String} {nodeIdx : Nat}
    (found : rcfgNodeIdx c id = some nodeIdx) :
    nodeIdx < c.nodes.length ∧ c.nodeId nodeIdx = id := by
  obtain ⟨bound, same, _⟩ := List.findIdx?_eq_some_iff_getElem.mp found
  exact ⟨bound, by simpa [Rcfg.nodeId, bound] using same⟩

theorem rcfgTgIdx_zero (c : Rcfg) : rcfgTgIdx c 0 = none := by
  -- Zero is no talkgroup's number.
  refine List.findIdx?_eq_none_iff.mpr fun t member => ?_
  simpa using Nat.ne_of_gt (c.numbered t member).1

theorem rcfgTgIdx_range {c : Rcfg} {number tgIdx : Nat} (found : rcfgTgIdx c number = some tgIdx) :
    0 < number ∧ number ≤ 65535 := by
  obtain ⟨bound, same, _⟩ := List.findIdx?_eq_some_iff_getElem.mp found
  have numbered := c.numbered _ (List.getElem_mem bound)
  rwa [beq_iff_eq.mp same] at numbered

theorem allowed_range {c : Rcfg} {nodeIdx tg : Nat}
    (allowed : rcfgNodeAllowedOnTg c nodeIdx tg = true) : 0 < tg ∧ tg ≤ 65535 := by
  unfold rcfgNodeAllowedOnTg at allowed
  split at allowed
  next found => exact rcfgTgIdx_range found
  next => cases allowed

end Kerchunk.Reflectd
