import Kerchunk.Lib.Machine
import Kerchunk.Reflectd.State

set_option autoImplicit false

/-!
# The reflector as a hall

The abstract machine: who is connected on which talkgroup, who is muted, who has
each floor since when, and what the nodes and their operators are told of it.
-/

namespace Kerchunk.Reflectd

/-- The part of a control message that a client's mute and talkgroup follow. -/
inductive Told where
  | tg (number : Nat)
  | loggedIn (id : String) (number : Nat)
  | muted
  | unmuted
deriving DecidableEq

structure Station where
  conn : Option Nat
  tg : Nat
  muted : Bool
  since : Int
  airtime : Int

def Station.place (st : Station) : Option Nat × Nat × Bool :=
  -- Who a station is, apart from its account of talk time.
  (st.conn, st.tg, st.muted)

structure Door where
  seat : Option Nat
  draining : Bool

structure Hall where
  cfg : Rcfg
  now : Int
  station : Nat → Station
  floor : Nat → TgRt
  door : Nat → Option Door
  told : Nat → List Told
  log : List Note

/-- Only the account, the floor and the log differ. -/
structure SamePlaces (g h : Hall) : Prop where
  cfg : g.cfg = h.cfg
  now : g.now = h.now
  place : ∀ k, (g.station k).place = (h.station k).place
  door : g.door = h.door
  told : g.told = h.told

inductive Move where
  | advance (elapsed : Nat)
  | enter (c : Nat)
  | drain (c : Nat)
  | join (c node tg : Nat)
  | grant (tgIdx node : Nat)
  | release (tgIdx : Nat)
  | tune (c node tg : Nat)
  | mute (node : Nat) (c : Option Nat)
  | unmute (node : Nat) (c : Option Nat)
  | leave (c : Nat)
  | reload (cfg : Rcfg)

namespace Hall

def setStation (h : Hall) (node : Nat) (change : Station → Station) : Hall :=
  { h with station := Function.update h.station node (change (h.station node)) }

def setDoor (h : Hall) (c : Nat) (change : Door → Door) : Hall :=
  { h with door := Function.update h.door c ((h.door c).map change) }

def setFloor (h : Hall) (tgIdx : Nat) (t : TgRt) : Hall :=
  { h with floor := Function.update h.floor tgIdx t }

def note (h : Hall) (n : Note) : Hall :=
  { h with log := h.log ++ [n] }

def announce (h : Hall) (tgIdx : Nat) (node : Option Nat) : Hall :=
  -- Tell the talkgroup who talks.
  h.note (.talker tgIdx node (h.cfg.tgNumber tgIdx) (node.map h.cfg.nodeId) h.now)

def tell (h : Hall) (c : Option Nat) (t : Told) : Hall :=
  match c with
  | none => h
  | some c => { h with told := Function.update h.told c (h.told c ++ [t]) }

def seat (h : Hall) (c : Nat) : Option Nat :=
  (h.door c).bind Door.seat

def talker (h : Hall) (tgIdx : Nat) : Option Nat :=
  (h.floor tgIdx).talkerNodeIdx

def draining (h : Hall) (c : Nat) : Bool :=
  (h.door c).any Door.draining

def grant (h : Hall) (tgIdx node : Nat) : Hall :=
  let held := h.setFloor tgIdx
    { talkerNodeIdx := some node, leaseExpiresMs := h.now + h.cfg.hangtimeMs }
  if h.talker tgIdx = some node then held
  else
    (held.announce tgIdx (some node)).setStation node fun st =>
      { st with since := h.now }

def pay (h : Hall) (tgIdx node : Nat) : Hall :=
  let ms := h.now - (h.station node).since
  if 0 < (h.station node).since then
    (h.setStation node fun st =>
      { st with airtime := if 0 < ms then st.airtime + ms else st.airtime, since := 0 }).note
        (.airtime tgIdx node ms h.now)
  else h

def release (h : Hall) (tgIdx : Nat) : Hall :=
  match h.talker tgIdx with
  | none => h
  | some node =>
      ((h.pay tgIdx node).setFloor tgIdx { talkerNodeIdx := none, leaseExpiresMs := 0 }).announce
        tgIdx none

def join (h : Hall) (c node tg : Nat) : Hall :=
  let online := (h.setDoor c fun d => { d with seat := some node }).setStation node fun st =>
    { st with conn := some c, tg := tg, airtime := 0 }
  (online.note (.login node)).tell (some c) (.loggedIn (h.cfg.nodeId node) tg)

def tune (h : Hall) (c node tg : Nat) : Hall :=
  (h.setStation node fun st => { st with tg := tg }).tell (some c) (.tg tg)

def leave (h : Hall) (c : Nat) : Hall :=
  let left :=
    match h.seat c with
    | none => h
    | some node => h.setStation node fun st => { st with conn := none, muted := false }
  { left with door := Function.update left.door c none }

/-- A connected node that the new configuration lacks is shown out; one that may not stay on its
talkgroup is moved. -/
def reloadNode (cfg : Rcfg) (h : Hall) (node : Nat) : Hall :=
  match (h.station node).conn, rcfgNodeIdx cfg (h.cfg.nodeId node) with
  | none, _ => h
  | some c, none => h.setDoor c fun d => { d with draining := true }
  | some c, some newIdx =>
      if rcfgNodeAllowedOnTg cfg newIdx (h.station node).tg then h
      else
        let newTg := cfg.initialTg newIdx
        (h.tell (some c) (.tg newTg)).setStation node fun st => { st with tg := newTg }

def reload (h : Hall) (cfg : Rcfg) : Hall :=
  { Machine.run (reloadNode cfg) h (List.range h.cfg.nodes.length) with cfg := cfg }

def apply (h : Hall) : Move → Hall
  | .advance elapsed => { h with now := h.now + elapsed }
  | .enter c =>
      { h with
        door := Function.update h.door c (some { seat := none, draining := false })
        told := Function.update h.told c [] }
  | .drain c => h.setDoor c fun d => { d with draining := true }
  | .join c node tg => h.join c node tg
  | .grant tgIdx node => h.grant tgIdx node
  | .release tgIdx => h.release tgIdx
  | .tune c node tg => h.tune c node tg
  | .mute node c => (h.setStation node fun st => { st with muted := true }).tell c .muted
  | .unmute node c => (h.setStation node fun st => { st with muted := false }).tell c .unmuted
  | .leave c => h.leave c
  | .reload cfg => h.reload cfg

def Allowed (h : Hall) : Move → Prop
  -- What the daemon checks before each move.
  | .enter c => h.door c = none
  | .join c node tg =>
      (h.door c).isSome ∧ h.seat c = none ∧ (h.station node).conn = none ∧
        node < h.cfg.nodes.length ∧ rcfgNodeAllowedOnTg h.cfg node tg = true ∧
        h.cfg.banned node = false
  | .grant tgIdx node =>
      (h.station node).conn ≠ none ∧ rcfgTgIdx h.cfg (h.station node).tg = some tgIdx ∧
        ∀ holder, h.talker tgIdx = some holder → holder ≠ node →
          (h.floor tgIdx).leaseExpiresMs ≤ h.now
  | .release tgIdx => tgIdx < h.cfg.tgs.length
  | .tune c node tg =>
      h.seat c = some node ∧ rcfgNodeAllowedOnTg h.cfg node tg = true ∧
        ∀ tgIdx, h.talker tgIdx = some node →
          rcfgTgIdx h.cfg (h.station node).tg = some tgIdx → rcfgTgIdx h.cfg tg = some tgIdx
  | .mute node c | .unmute node c => c = (h.station node).conn
  | .leave c =>
      ∀ node, h.seat c = some node → ∀ tgIdx < h.cfg.tgs.length, h.talker tgIdx ≠ some node
  | _ => True

/-! ## What each move changes -/

theorem setStation_station (h : Hall) (node : Nat) (change : Station → Station) (k : Nat) :
    (h.setStation node change).station k =
      if k = node then change (h.station k) else h.station k := by
  by_cases at_ : k = node
  · subst at_
    simp [setStation]
  · simp [setStation, at_]

theorem setDoor_door (h : Hall) (c : Nat) (change : Door → Door) (d : Nat) :
    (h.setDoor c change).door d = if d = c then (h.door d).map change else h.door d := by
  by_cases at_ : d = c
  · subst at_
    simp [setDoor]
  · simp [setDoor, at_]

theorem tell_door (h : Hall) (c : Option Nat) (t : Told) : (h.tell c t).door = h.door := by
  cases c <;> rfl

theorem tell_station (h : Hall) (c : Option Nat) (t : Told) : (h.tell c t).station = h.station := by
  cases c <;> rfl

theorem tell_floor (h : Hall) (c : Option Nat) (t : Told) : (h.tell c t).floor = h.floor := by
  cases c <;> rfl

theorem tell_cfg (h : Hall) (c : Option Nat) (t : Told) : (h.tell c t).cfg = h.cfg := by
  cases c <;> rfl

theorem tell_log (h : Hall) (c : Option Nat) (t : Told) : (h.tell c t).log = h.log := by
  cases c <;> rfl

theorem pay_places (h : Hall) (tgIdx node : Nat) : SamePlaces (h.pay tgIdx node) h := by
  unfold pay
  simp only
  split
  next =>
    refine ⟨rfl, rfl, fun k => ?_, rfl, rfl⟩
    simp only [note, setStation_station]
    split <;> rfl
  next => exact ⟨rfl, rfl, fun _ => rfl, rfl, rfl⟩

theorem pay_floor (h : Hall) (tgIdx node : Nat) : (h.pay tgIdx node).floor = h.floor := by
  unfold pay
  simp only
  split <;> rfl

theorem release_places (h : Hall) (tgIdx : Nat) : SamePlaces (h.release tgIdx) h := by
  unfold release
  split
  next => exact ⟨rfl, rfl, fun _ => rfl, rfl, rfl⟩
  next node _ =>
    have paid := pay_places h tgIdx node
    exact ⟨paid.cfg, paid.now, paid.place, paid.door, paid.told⟩

theorem release_talker (h : Hall) (tgIdx j : Nat) :
    (h.release tgIdx).talker j = if j = tgIdx then none else h.talker j := by
  unfold release
  cases held : h.talker tgIdx with
  | none =>
      by_cases at_ : j = tgIdx
      · subst at_
        simp [held]
      · simp [at_]
  | some node =>
      by_cases at_ : j = tgIdx
      · subst at_
        simp [talker, announce, note, setFloor]
      · simp [talker, announce, note, setFloor, at_, pay_floor]

theorem release_floor (h : Hall) {tgIdx j : Nat} (other : j ≠ tgIdx) :
    (h.release tgIdx).floor j = h.floor j := by
  unfold release
  split
  next => rfl
  next => simp [announce, note, setFloor, other, pay_floor]

theorem grant_places (h : Hall) (tgIdx node : Nat) : SamePlaces (h.grant tgIdx node) h := by
  unfold grant
  simp only
  split
  next => exact ⟨rfl, rfl, fun _ => rfl, rfl, rfl⟩
  next =>
    refine ⟨rfl, rfl, fun k => ?_, rfl, rfl⟩
    simp only [announce, note, setFloor, setStation_station]
    split <;> rfl

theorem grant_talker (h : Hall) (tgIdx node j : Nat) :
    (h.grant tgIdx node).talker j = if j = tgIdx then some node else h.talker j := by
  have held : (h.grant tgIdx node).floor = Function.update h.floor tgIdx
      { talkerNodeIdx := some node, leaseExpiresMs := h.now + h.cfg.hangtimeMs } := by
    unfold grant
    simp only
    split <;> rfl
  by_cases at_ : j = tgIdx
  · subst at_
    simp [talker, held]
  · simp [talker, held, at_]

/-! ### Reload -/

def tgAfter (cfg : Rcfg) (h : Hall) (node : Nat) : Nat :=
  -- Where the new configuration leaves a connected node.
  match rcfgNodeIdx cfg (h.cfg.nodeId node) with
  | none => (h.station node).tg
  | some newIdx =>
      if rcfgNodeAllowedOnTg cfg newIdx (h.station node).tg then (h.station node).tg
      else cfg.initialTg newIdx

/-- Of the state, a visit to a node changes what is told, whether a connection drains, and that
node's talkgroup. -/
structure Visited (cfg : Rcfg) (h g : Hall) (nodes : List Nat) : Prop where
  sameCfg : g.cfg = h.cfg
  now : g.now = h.now
  floor : g.floor = h.floor
  log : g.log = h.log
  station : ∀ k, g.station k =
    if k ∈ nodes ∧ (h.station k).conn ≠ none then { h.station k with tg := tgAfter cfg h k }
    else h.station k
  seat : ∀ c, g.seat c = h.seat c
  opened : ∀ c, (g.door c).isSome = (h.door c).isSome
  draining : ∀ c, h.draining c = true → g.draining c = true
  shown : ∀ k ∈ nodes, ∀ c, (h.station k).conn = some c → (h.door c).isSome →
    rcfgNodeIdx cfg (h.cfg.nodeId k) = none → g.draining c = true
  told : ∀ c, ∃ more, g.told c = h.told c ++ more ∧ ∀ t ∈ more, ∃ number, t = .tg number

theorem visited_nil (cfg : Rcfg) (h : Hall) : Visited cfg h h [] where
  sameCfg := rfl
  now := rfl
  floor := rfl
  log := rfl
  station := by simp
  seat := fun _ => rfl
  opened := fun _ => rfl
  draining := fun _ drains => drains
  shown := by simp
  told := fun _ => ⟨[], by simp⟩

theorem tell_told (h : Hall) (c d : Nat) (t : Told) :
    (h.tell (some c) t).told d = if d = c then h.told d ++ [t] else h.told d := by
  by_cases at_ : d = c
  · subst at_
    simp [tell]
  · simp [tell, at_]

theorem seat_setDraining (h : Hall) (c d : Nat) :
    (h.setDoor c fun d => { d with draining := true }).seat d = h.seat d := by
  simp only [seat, setDoor_door]
  split
  next => cases h.door d <;> rfl
  next => rfl

theorem draining_setDraining (h : Hall) (c d : Nat) :
    (h.setDoor c fun d => { d with draining := true }).draining d =
      if d = c then (h.door d).isSome else h.draining d := by
  simp only [draining, setDoor_door]
  split
  next => cases h.door d <;> rfl
  next => rfl

theorem visited_one (cfg : Rcfg) (h : Hall) (i : Nat) : Visited cfg h (reloadNode cfg h i) [i] := by
  have still : tgAfter cfg h i = (h.station i).tg → ∀ k, h.station k =
      if k ∈ [i] ∧ (h.station k).conn ≠ none then { h.station k with tg := tgAfter cfg h k }
      else h.station k := by
    intro same k
    split
    next at_ =>
      have here : k = i := by simpa using at_.1
      rw [here, same]
    next => rfl
  unfold reloadNode
  cases conn : (h.station i).conn with
  | none =>
      refine { visited_nil cfg h with station := fun k => ?_, shown := ?_ }
      · by_cases at_ : k = i
        · simp [at_, conn]
        · simp [at_]
      · simp [conn]
  | some c =>
      cases new : rcfgNodeIdx cfg (h.cfg.nodeId i) with
      | none =>
          have opened : ∀ d, ((h.setDoor c fun d => { d with draining := true }).door d).isSome =
              (h.door d).isSome := by
            intro d
            rw [setDoor_door]
            split <;> simp
          refine ⟨rfl, rfl, rfl, rfl, still (by simp [tgAfter, new]), seat_setDraining h c, opened,
            fun d drains => ?_, fun k member d at_ isOpen _ => ?_, fun _ => ⟨[], by simp [setDoor]⟩⟩
          · rw [draining_setDraining]
            split
            next => exact Option.isSome_of_any drains
            next => exact drains
          · obtain rfl : k = i := by simpa using member
            obtain rfl : c = d := Option.some.inj (conn.symm.trans at_)
            simpa [draining_setDraining] using isOpen
      | some newIdx =>
          have gone : ∀ k ∈ [i], ∀ c, (h.station k).conn = some c → (h.door c).isSome →
              rcfgNodeIdx cfg (h.cfg.nodeId k) ≠ none := by
            intro k member _ _ _
            obtain rfl : k = i := by simpa using member
            simp [new]
          simp only
          split
          next may =>
            exact { visited_nil cfg h with
              station := still (by simp [tgAfter, new, may])
              shown := fun k member c at_ isOpen lost => absurd lost (gone k member c at_ isOpen) }
          next mayNot =>
            refine { visited_nil cfg h with
              station := fun k => ?_
              shown := fun k member c at_ isOpen lost => absurd lost (gone k member c at_ isOpen)
              told := fun d => ?_ }
            · rw [setStation_station, tell_station]
              by_cases at_ : k = i
              · subst at_
                simp [conn, tgAfter, new, mayNot]
              · simp [at_]
            · simp only [setStation, tell_told]
              split
              next => exact ⟨[.tg (cfg.initialTg newIdx)], rfl, by simp⟩
              next => exact ⟨[], by simp⟩

theorem visited_snoc {cfg : Rcfg} {h g g' : Hall} {nodes : List Nat} {i : Nat}
    (before : Visited cfg h g nodes) (fresh : i ∉ nodes) (visit : Visited cfg g g' [i]) :
    Visited cfg h g' (nodes ++ [i]) where
  sameCfg := visit.sameCfg.trans before.sameCfg
  now := visit.now.trans before.now
  floor := visit.floor.trans before.floor
  log := visit.log.trans before.log
  station := by
    intro k
    rw [visit.station]
    by_cases at_ : k = i
    · subst at_
      have here : g.station k = h.station k := by simp [before.station, fresh]
      simp [here, tgAfter, before.sameCfg]
    · simp [at_, before.station]
  seat := fun c => (visit.seat c).trans (before.seat c)
  opened := fun c => (visit.opened c).trans (before.opened c)
  draining := fun c drains => visit.draining c (before.draining c drains)
  shown := by
    intro k member c at_ isOpen lost
    by_cases earlier : k ∈ nodes
    · exact visit.draining c (before.shown k earlier c at_ isOpen lost)
    · obtain rfl : k = i := by simpa [earlier] using member
      have here : g.station k = h.station k := by simp [before.station, earlier]
      refine visit.shown k (by simp) c (by rw [here, at_]) (by rw [before.opened, isOpen]) ?_
      rw [before.sameCfg, lost]
  told := by
    intro c
    obtain ⟨first, same, only⟩ := before.told c
    obtain ⟨second, same', only'⟩ := visit.told c
    refine ⟨first ++ second, by rw [same', same, List.append_assoc], fun t member => ?_⟩
    exact (List.mem_append.mp member).elim (only t) (only' t)

theorem visited_all (cfg : Rcfg) (h : Hall) (n : Nat) :
    Visited cfg h (Machine.run (reloadNode cfg) h (List.range n)) (List.range n) := by
  induction n with
  | zero => exact visited_nil cfg h
  | succ n ih =>
      rw [List.range_succ, Machine.run_append]
      exact visited_snoc ih (by simp) (visited_one cfg _ n)

end Hall

end Kerchunk.Reflectd
