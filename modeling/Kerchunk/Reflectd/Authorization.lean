import Kerchunk.Reflectd.Identity

set_option autoImplicit false

/-!
# Authorization

Every connected node may be on its talkgroup under the configuration in force.
-/

namespace Kerchunk.Reflectd

open Machine (Guarded run)
open Hall (Seated Allowed Kept)

namespace Hall

def Entitled (h : Hall) (k _c : Nat) : Prop :=
  ((h.station k).tg = 0 ∨ rcfgNodeAllowedOnTg h.cfg k (h.station k).tg = true) ∧
    h.cfg.banned k = false

/-- A node that the new configuration keeps is not banned by it, and if it may not stay on its
talkgroup it has another one, or none, to go to. -/
def KeepsRights (h : Hall) (cfg : Rcfg) : Prop :=
  ∀ k < h.cfg.nodes.length, (h.station k).conn ≠ none →
    rcfgNodeIdx cfg (h.cfg.nodeId k) = some k → cfg.banned k = false ∧
      (rcfgNodeAllowedOnTg cfg k (h.station k).tg = true ∨ cfg.initialTg k = 0 ∨
        rcfgNodeAllowedOnTg cfg k (cfg.initialTg k) = true)

theorem entitled_same {g h : Hall} {k c : Nat} (entitled : Entitled h k c) (cfg : g.cfg = h.cfg)
    (tg : (g.station k).tg = (h.station k).tg) : Entitled g k c := by
  rw [Entitled, cfg, tg]
  exact entitled

theorem entitled_apply {h : Hall} {m : Move} (allowed : Allowed h m)
    (notReload : ∀ cfg, m ≠ .reload cfg) {k c : Nat} (at_ : (h.station k).conn = some c)
    (entitled : Entitled h k c) : Entitled (h.apply m) k c := by
  have cfg : (h.apply m).cfg = h.cfg := cfg_apply notReload
  cases m with
  | advance | enter | drain => exact entitled
  | grant j node => exact entitled_same entitled cfg ((grant_places h j node).tg k)
  | release j => exact entitled_same entitled cfg ((release_places h j).tg k)
  | join d node tg =>
      -- Only a node that is not connected joins.
      have other : k ≠ node := by
        rintro rfl
        exact absurd allowed.2.2.1 (by simp [at_])
      refine entitled_same entitled cfg ?_
      rw [apply, join_station, if_neg other]
  | tune d node tg =>
      obtain ⟨_, may, _⟩ := allowed
      by_cases here : k = node
      · subst here
        have tuned : ((h.apply (.tune d k tg)).station k).tg = tg := by
          simp [apply, tune, tell_station, setStation_station]
        rw [Entitled, cfg, tuned]
        exact ⟨Or.inr may, entitled.2⟩
      · refine entitled_same entitled cfg ?_
        simp [apply, tune, tell_station, setStation_station, here]
  | mute node d | unmute node d =>
      refine entitled_same entitled cfg ?_
      simp only [apply, tell_station, setStation_station]
      split <;> rfl
  | leave d =>
      refine entitled_same entitled cfg ?_
      rw [apply, leave_station]
      split <;> rfl
  | reload newcfg => exact absurd rfl (notReload newcfg)

theorem kept_entitled_apply {h : Hall} {m : Move} (seated : Seated h) (kept : Kept Entitled h)
    (allowed : Allowed h m)
    (reloads : ∀ cfg, m = .reload cfg → h.KeepsPlaces cfg ∧ h.KeepsRights cfg) :
    Kept Entitled (h.apply m) := by
  refine kept_apply seated kept allowed (fun cfg same => (reloads cfg same).1) ?_ ?_ ?_
  · exact fun notReload k c at_ entitled => entitled_apply allowed notReload at_ entitled
  · rintro c node tg rfl
    obtain ⟨_, _, _, _, may, notBanned⟩ := allowed
    have cfg : (h.apply (.join c node tg)).cfg = h.cfg := rfl
    rw [Entitled, cfg, apply, join_station, if_pos rfl]
    exact ⟨Or.inr may, notBanned⟩
  · rintro cfg rfl k c at_ bound same _
    obtain ⟨notBanned, place⟩ := (reloads cfg rfl).2 k bound (by simp [at_]) same
    have cfg' : (h.reload cfg).cfg = cfg := rfl
    rw [apply, Entitled, cfg', reload_station, if_pos ⟨bound, by simp [at_]⟩]
    refine ⟨?_, notBanned⟩
    simp only [tgAfter, same]
    split
    next may => exact Or.inr may
    next mayNot => exact (place.resolve_left mayNot)

end Hall

/-! ## Authorization of the daemon's nodes -/

/-- Each connected node may be where it is and is not banned, or the configuration has dropped it
and its connection is being closed. -/
def Authorized (s : State) : Prop :=
  ∀ k session, (s.nodeRt k).session = some session →
    k < s.cfg.nodes.length ∧
        ((s.nodeRt k).curTg = 0 ∨ rcfgNodeAllowedOnTg s.cfg k (s.nodeRt k).curTg = true) ∧
          s.cfg.banned k = false ∨
      s.cfg.nodes.length ≤ k ∧ isDraining s session.c = true

def KeepsRights (s : State) (newcfg : Rcfg) : Prop :=
  -- The reload bans no connected node, and moves none to a talkgroup that it may not use.
  ∀ k < s.cfg.nodes.length, (s.nodeRt k).connected = true →
    rcfgNodeIdx newcfg (s.cfg.nodeId k) = some k → newcfg.banned k = false ∧
      (rcfgNodeAllowedOnTg newcfg k (s.nodeRt k).curTg = true ∨ newcfg.initialTg k = 0 ∨
        rcfgNodeAllowedOnTg newcfg k (newcfg.initialTg k) = true)

instance (s : State) (newcfg : Rcfg) : Decidable (KeepsRights s newcfg) :=
  inferInstanceAs (Decidable (∀ k < s.cfg.nodes.length, _ → _ → _ ∧ _))

def ReloadsKeepRights (s : State) (timed : Moment × Event) : Prop :=
  ∀ newcfg ∈ timed.2.loaded, KeepsPlaces s newcfg ∧ KeepsRights s newcfg

instance (s : State) (timed : Moment × Event) : Decidable (ReloadsKeepRights s timed) :=
  inferInstanceAs (Decidable (∀ newcfg ∈ timed.2.loaded, _ ∧ _))

def RightsInv (s : State) : Prop :=
  Seated (hall s) ∧ Kept Hall.Entitled (hall s)

theorem rightsInv_step (s : State) (timed : Moment × Event) (inv : RightsInv s)
    (keeps : ReloadsKeepRights s timed) : RightsInv (step s timed) := by
  obtain ⟨seated, entitled⟩ := inv
  have reloads : Guarded Hall.apply
      (fun h m => ∀ cfg, m = .reload cfg → h.KeepsPlaces cfg ∧ h.KeepsRights cfg) (hall s)
      (stepMoves s timed) := by
    refine reload_alone fun newcfg loaded => ?_
    obtain ⟨places, rights⟩ := keeps newcfg loaded
    exact ⟨hall_keepsPlaces (s := s.at timed.1) places,
      fun k bound online => rights k bound (connected_iff.mpr online)⟩
  have both := Machine.guarded_and _ (stepMoves_allowed s timed seated) reloads
  unfold RightsInv
  rw [hall_step]
  refine Machine.run_invariant (P := fun h => Seated h ∧ Kept Hall.Entitled h) _ ?_
    ⟨seated, entitled⟩ both
  intro h m held ok
  exact ⟨Hall.seated_apply held.1 ok.1, Hall.kept_entitled_apply held.1 held.2 ok.1 ok.2⟩

theorem rightsInv_init (cfg : Rcfg) (bootMs : Nat) : RightsInv (State.init cfg bootMs) := by
  refine ⟨seated_init cfg bootMs, fun k c at_ => ?_⟩
  simp [hall, State.init, NodeRt.station, NodeRt.zero] at at_

theorem authorized_when_rights_kept (cfg : Rcfg) (bootMs : Nat) (inputs : List (Moment × Event))
    (kept : Guarded step ReloadsKeepRights (State.init cfg bootMs) inputs) :
    Authorized (run step (State.init cfg bootMs) inputs) := by
  obtain ⟨_, entitled⟩ :=
    Machine.run_invariant step rightsInv_step (rightsInv_init cfg bootMs) kept
  intro k session online
  have place := entitled k session.c (by simp [hall, NodeRt.station, online])
  rw [hall_draining] at place
  exact place

def rosterBanned : Rcfg :=
  -- The roster with its first node banned.
  site
    [{ id := "A", allowedTgs := [1, 2], defaultTg := 1, banned := true },
      { id := "B", allowedTgs := [1, 2], defaultTg := 1, banned := false }]
    roster.tgs (by decide) (by decide)

/-- A reload that bans a connected node leaves it connected. -/
theorem banned_node_stays :
    ¬ Authorized (run step (State.init roster 0)
      (signIn 0 "A" ++ [(after 100, .reload (some rosterBanned))])) := by
  intro authorized
  obtain ⟨session, online⟩ := Option.isSome_iff_exists.mp
    (show ((run step (State.init roster 0)
      (signIn 0 "A" ++ [(after 100, .reload (some rosterBanned))])).nodeRt 0).session.isSome = true
      by decide)
  rcases authorized 0 session online with ⟨_, _, notBanned⟩ | ⟨late, _⟩
  · exact absurd notBanned (by decide)
  · exact absurd late (by decide)

/-- A node loses its talkgroup to a reload and is moved to its other one. -/
theorem authorized_after_move :
    Authorized (run step (State.init roster 0)
      (signIn 0 "A" ++ signIn 1 "B" ++
        [(after 5, request 1 (.setTg 2)), (after 100, .reload (some rosterMoved))])) :=
  authorized_when_rights_kept roster 0 _ (by decide)

end Kerchunk.Reflectd
