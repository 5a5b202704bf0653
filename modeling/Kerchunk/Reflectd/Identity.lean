import Kerchunk.Reflectd.FloorSafety

set_option autoImplicit false

/-!
# Identity across reloads

A node is known by its place in the configuration. What a place meant is on
record in the messages: a connection's `login_ok` names its node, and the last
`talker` of a talkgroup names its number and the node that it was granted to.
-/

namespace Kerchunk.Reflectd

open Link (Msg Request)
open Machine (Guarded run)
open Hall (Seated Allowed)

def Told.loginId : Told → Option String
  | .loggedIn id _ => some id
  | _ => none

def Note.grantOf (j : Nat) : Note → Option (Option (Nat × String))
  -- For an announcement on slot `j`, what it says: nobody, or a number and a node id.
  | .talker i _ tg nodeId _ => if i = j then some (nodeId.map fun id => (tg, id)) else none
  | _ => none

def lastGrant (log : List Note) (j : Nat) : Option (Nat × String) :=
  (log.filterMap (Note.grantOf j)).getLast?.join

def lastLogin (told : List Told) : Option String :=
  (told.filterMap Told.loginId).getLast?

theorem lastGrant_snoc (log : List Note) (j : Nat) (n : Note) :
    lastGrant (log ++ [n]) j = ((n.grantOf j).getD (lastGrant log j)) := by
  unfold lastGrant
  cases said : n.grantOf j <;> simp [said]

theorem lastLogin_snoc (told : List Told) (t : Told) :
    lastLogin (told ++ [t]) = if t.loginId.isSome then t.loginId else lastLogin told := by
  unfold lastLogin
  cases said : t.loginId <;> simp [said]

namespace Hall

def Named (h : Hall) (k c : Nat) : Prop :=
  -- A node's connection logged in as what its place is still called.
  lastLogin (h.told c) = some (h.cfg.nodeId k)

def Granted (h : Hall) : Prop :=
  -- A holder was granted the floor under the number and the id that its place still has.
  ∀ j < h.cfg.tgs.length, ∀ k, h.talker j = some k →
    lastGrant h.log j = some (h.cfg.tgNumber j, h.cfg.nodeId k)

theorem lastLogin_tell (h : Hall) (c : Option Nat) (t : Told) (quiet : t.loginId = none) (d : Nat) :
    lastLogin ((h.tell c t).told d) = lastLogin (h.told d) := by
  cases c with
  | none => rfl
  | some c =>
      rw [tell_told]
      split
      next => simp [lastLogin_snoc, quiet]
      next => rfl

theorem lastLogin_apply {h : Hall} {m : Move} (seated : Seated h) (allowed : Allowed h m)
    (notReload : ∀ cfg, m ≠ .reload cfg) {k c : Nat} (at_ : (h.station k).conn = some c) :
    lastLogin ((h.apply m).told c) = lastLogin (h.told c) := by
  have seat := (seated c k).mpr at_
  cases m with
  | advance | drain => rfl
  | enter d =>
      have closed : h.door d = none := allowed
      have other : c ≠ d := by
        rintro rfl
        simp [Hall.seat, closed] at seat
      simp [apply, other]
  | grant j node => rw [apply, (grant_places h j node).told]
  | release j => rw [apply, (release_places h j).told]
  | join d node tg =>
      have other : c ≠ d := by
        rintro rfl
        have empty := allowed.2.1
        simp [seat] at empty
      simp [apply, join, tell_told, other, note, setStation, setDoor]
  | tune d node tg =>
      exact lastLogin_tell (h.setStation node fun st => { st with tg := tg }) (some d) (.tg tg) rfl c
  | mute node d | unmute node d => exact lastLogin_tell _ _ _ rfl c
  | leave d =>
      have told : (h.leave d).told = h.told := by
        unfold leave
        cases h.seat d <;> rfl
      rw [apply, told]
  | reload cfg => exact absurd rfl (notReload cfg)

theorem lastLogin_reload (h : Hall) (cfg : Rcfg) (c : Nat) :
    lastLogin ((h.reload cfg).told c) = lastLogin (h.told c) := by
  obtain ⟨more, same, only⟩ := (visited_all cfg h h.cfg.nodes.length).told c
  have told : (h.reload cfg).told c = h.told c ++ more := same
  have quiet : more.filterMap Told.loginId = [] := by
    refine List.filterMap_eq_nil_iff.mpr fun t member => ?_
    obtain ⟨number, rfl⟩ := only t member
    rfl
  rw [told, lastLogin, List.filterMap_append, quiet, List.append_nil, lastLogin]

theorem named_apply {h : Hall} {m : Move} (seated : Seated h) (named : Kept Named h)
    (allowed : Allowed h m) (reloads : ∀ cfg, m = .reload cfg → h.KeepsPlaces cfg) :
    Kept Named (h.apply m) := by
  refine kept_apply seated named allowed reloads ?_ ?_ ?_
  · intro notReload k c at_ said
    rw [Named, lastLogin_apply seated allowed notReload at_, cfg_apply notReload]
    exact said
  · rintro c node tg rfl
    simp [Named, apply, join, tell_told, lastLogin_snoc, Told.loginId, tell_cfg, note, setStation,
      setDoor]
  · rintro cfg rfl k c _ _ kept said
    have called : cfg.nodeId k = h.cfg.nodeId k := (rcfgNodeIdx_some kept).2
    have cfg' : (h.reload cfg).cfg = cfg := rfl
    rw [apply, Named, lastLogin_reload, cfg', called]
    exact said

def KeepsGrants (h : Hall) (cfg : Rcfg) : Prop :=
  -- Floors in use keep their places, their numbers and their holders' names.
  ∀ j < cfg.tgs.length, ∀ k, h.talker j = some k →
    j < h.cfg.tgs.length ∧ cfg.tgNumber j = h.cfg.tgNumber j ∧ cfg.nodeId k = h.cfg.nodeId k

theorem granted_same {g h : Hall} (granted : Granted h) (cfg : g.cfg = h.cfg)
    (talker : ∀ j k, g.talker j = some k → h.talker j = some k)
    (log : ∀ j k, g.talker j = some k → lastGrant g.log j = lastGrant h.log j) : Granted g := by
  intro j bound k talks
  rw [cfg] at bound ⊢
  rw [log j k talks]
  exact granted j bound k (talker j k talks)

theorem pay_lastGrant (h : Hall) (i k j : Nat) : lastGrant (h.pay i k).log j = lastGrant h.log j := by
  unfold pay
  simp only
  split
  next => simp [note, lastGrant_snoc, Note.grantOf, setStation]
  next => rfl

theorem release_lastGrant (h : Hall) {i j : Nat} (other : i ≠ j) :
    lastGrant (h.release j).log i = lastGrant h.log i := by
  unfold release
  split
  next => rfl
  next =>
    simp only [announce, note, lastGrant_snoc, Note.grantOf, setFloor, pay_lastGrant,
      if_neg (Ne.symm other), Option.getD_none]

theorem granted_apply {h : Hall} {m : Move} (granted : Granted h)
    (reloads : ∀ cfg, m = .reload cfg → h.KeepsGrants cfg) : Granted (h.apply m) := by
  cases m with
  | advance elapsed | enter c | drain c => exact granted
  | grant j k =>
      have places := grant_places h j k
      intro i bound holder talks
      rw [apply, places.cfg] at bound ⊢
      rw [apply, grant_talker] at talks
      unfold grant
      simp only
      split
      next held =>
        -- A refresh announces nothing.
        refine granted i bound holder ?_
        split at talks
        next at_ => rw [at_, held, ← talks]
        next => exact talks
      next =>
        simp only [setStation, announce, note, lastGrant_snoc, Note.grantOf, setFloor]
        split at talks
        next at_ =>
          cases talks
          simp [at_]
        next other =>
          rw [if_neg (Ne.symm other)]
          exact granted i bound holder talks
  | release j =>
      refine granted_same granted (release_places h j).cfg (fun i k talks => ?_) fun i k talks => ?_
      · rw [apply, release_talker] at talks
        split at talks
        next => cases talks
        next => exact talks
      · rw [apply, release_talker] at talks
        split at talks
        next => cases talks
        next other => exact release_lastGrant h other
  | join c node tg =>
      refine granted_same granted rfl (fun _ _ talks => talks) fun j k _ => ?_
      simp [apply, join, tell_log, note, lastGrant_snoc, Note.grantOf, setStation, setDoor]
  | tune c node tg =>
      exact granted_same granted rfl (fun _ _ talks => talks) fun j k _ => rfl
  | mute node c | unmute node c =>
      refine granted_same granted (tell_cfg _ _ _) (fun j k talks => ?_) fun j k _ => ?_
      · simpa only [apply, talker, tell_floor, setStation] using talks
      · simp only [apply, tell_log, setStation]
  | leave c =>
      have same : (h.leave c).floor = h.floor ∧ (h.leave c).cfg = h.cfg ∧ (h.leave c).log = h.log := by
        unfold leave
        cases h.seat c <;> exact ⟨rfl, rfl, rfl⟩
      refine granted_same granted same.2.1 (fun j k talks => ?_) fun j k _ => ?_
      · simpa only [apply, talker, same] using talks
      · rw [apply, same.2.2]
  | reload cfg =>
      have visited := visited_all cfg h h.cfg.nodes.length
      intro j bound k talks
      rw [apply, reload_talker] at talks
      obtain ⟨old, number, id⟩ := reloads cfg rfl j bound k talks
      have log : (h.reload cfg).log = h.log := visited.log
      have cfg' : (h.reload cfg).cfg = cfg := rfl
      rw [apply, log, cfg', number, id]
      exact granted j old k talks

end Hall

open Hall (Kept Named)

/-! ## Identity of the daemon's tables -/

def Msg.loginId : Msg → Option String
  | .loginOk body => some body.nodeId
  | _ => none

def loginId (s : State) (c : Nat) : Option String :=
  -- The node id that the connection's `login_ok` names.
  ((s.sent c).filterMap Msg.loginId).getLast?

/-- The number and the node id of the grant that the talkgroup was last told of, if it has not been
told of its end. -/
def grantedAs (s : State) (j : Nat) : Option (Nat × String) :=
  lastGrant s.log j

def isDraining (s : State) (c : Nat) : Bool :=
  (s.conns c).any Conn.isDraining

/-- The place is called what its node logged in as, or it is past the end and the connection is
being closed. -/
def SameNode (s : State) (c k : Nat) : Prop :=
  k < s.cfg.nodes.length ∧ loginId s c = some (s.cfg.nodeId k) ∨
    s.cfg.nodes.length ≤ k ∧ isDraining s c = true

structure Identified (s : State) : Prop where
  conn : ∀ c k, seatOf s c = some k → SameNode s c k
  node : ∀ k session, (s.nodeRt k).session = some session → SameNode s session.c k
  present : ∀ c k, seatOf s c = some k → isDraining s c = false →
    ∃ id, loginId s c = some id ∧ rcfgNodeIdx s.cfg id ≠ none
  floor : ∀ j < s.cfg.tgs.length, ∀ k, (s.tgRt j).talkerNodeIdx = some k →
    grantedAs s j = some (s.cfg.tgNumber j, s.cfg.nodeId k)

theorem hall_loginId (s : State) (c : Nat) : lastLogin ((hall s).told c) = loginId s c := by
  unfold lastLogin loginId
  simp only [hall, List.filterMap_filterMap]
  congr 2
  funext m
  cases m <;> rfl

theorem hall_grantedAs (s : State) (j : Nat) : lastGrant (hall s).log j = grantedAs s j := by
  unfold grantedAs lastGrant
  congr 2
  simp only [hall]
  induction s.log with
  | nil => rfl
  | cons n rest ih =>
      cases n <;> simp [Note.ofFloor, Note.grantOf, ih, List.filterMap_cons, List.filter_cons]

theorem hall_draining (s : State) (c : Nat) : (hall s).draining c = isDraining s c := by
  unfold Hall.draining isDraining
  cases here : s.conns c <;> simp [hall, here, Conn.door]

theorem hall_seat (s : State) (c : Nat) : (hall s).seat c = seatOf s c := by
  unfold Hall.seat seatOf
  cases here : s.conns c <;> simp [hall, here, Conn.door]

theorem sameNode_of_named {s : State} (named : Kept Named (hall s)) {c k : Nat}
    (at_ : ((hall s).station k).conn = some c) : SameNode s c k := by
  have place := named k c at_
  rw [Named, hall_loginId, hall_draining] at place
  exact place

theorem rcfgNodeIdx_known {cfg : Rcfg} {k : Nat} (bound : k < cfg.nodes.length) :
    rcfgNodeIdx cfg (cfg.nodeId k) ≠ none := by
  intro missing
  have other := List.findIdx?_eq_none_iff.mp missing _ (List.getElem_mem bound)
  simp [Rcfg.nodeId, bound] at other

theorem identified_of_hall {s : State} (seated : Seated (hall s)) (named : Kept Named (hall s))
    (granted : Hall.Granted (hall s)) : Identified s where
  conn := fun c k seat => sameNode_of_named named ((seated c k).mp ((hall_seat s c).trans seat))
  node := by
    intro k session online
    exact sameNode_of_named named (by simp [hall, NodeRt.station, online])
  present := by
    intro c k seat stays
    rcases sameNode_of_named named ((seated c k).mp ((hall_seat s c).trans seat)) with
      ⟨bound, said⟩ | ⟨_, drains⟩
    · exact ⟨_, said, rcfgNodeIdx_known bound⟩
    · simp [stays] at drains
  floor := by
    intro j bound k talks
    rw [← hall_grantedAs]
    exact granted j bound k talks

def KeepsPlaces (s : State) (newcfg : Rcfg) : Prop :=
  -- Connected nodes keep their places, or are removed from the end.
  (∀ k < s.cfg.nodes.length, (s.nodeRt k).connected = true →
    rcfgNodeIdx newcfg (s.cfg.nodeId k) = some k ∨
      rcfgNodeIdx newcfg (s.cfg.nodeId k) = none ∧ newcfg.nodes.length ≤ k) ∧
  ∀ k < newcfg.nodes.length, (s.nodeRt k).connected = true → k < s.cfg.nodes.length

instance (s : State) (newcfg : Rcfg) : Decidable (KeepsPlaces s newcfg) :=
  inferInstanceAs (Decidable (_ ∧ _))

def KeepsGrants (s : State) (newcfg : Rcfg) : Prop :=
  -- Each floor in use keeps its place, its number and its holder's name.
  ∀ j < newcfg.tgs.length, ∀ k ∈ (s.tgRt j).talkerNodeIdx,
    j < s.cfg.tgs.length ∧ newcfg.tgNumber j = s.cfg.tgNumber j ∧
      newcfg.nodeId k = s.cfg.nodeId k

instance (s : State) (newcfg : Rcfg) : Decidable (KeepsGrants s newcfg) :=
  inferInstanceAs (Decidable (∀ j < newcfg.tgs.length, ∀ k ∈ (s.tgRt j).talkerNodeIdx, _))

def ReloadsKeepNames (s : State) (timed : Moment × Event) : Prop :=
  -- Reloads keep the names of what is in use.
  ∀ newcfg ∈ timed.2.loaded, KeepsPlaces s newcfg ∧ KeepsGrants s newcfg

instance (s : State) (timed : Moment × Event) : Decidable (ReloadsKeepNames s timed) :=
  inferInstanceAs (Decidable (∀ newcfg ∈ timed.2.loaded, _ ∧ _))

theorem hall_keepsPlaces {s : State} {newcfg : Rcfg} (keeps : KeepsPlaces s newcfg) :
    (hall s).KeepsPlaces newcfg := by
  intro k online
  have connected := connected_iff.mpr online
  by_cases old : k < s.cfg.nodes.length
  · rcases keeps.1 k old connected with kept | ⟨removed, gone⟩
    · exact Or.inl ⟨old, kept⟩
    · exact Or.inr ⟨gone, fun _ => removed⟩
  · refine Or.inr ⟨?_, fun bound => absurd bound old⟩
    by_contra stays
    exact old (keeps.2 k (Nat.not_le.mp stays) connected)

def NameInv (s : State) : Prop :=
  Seated (hall s) ∧ Kept Named (hall s) ∧ Hall.Granted (hall s)

theorem nameInv_step (s : State) (timed : Moment × Event) (inv : NameInv s)
    (keeps : ReloadsKeepNames s timed) : NameInv (step s timed) := by
  obtain ⟨seated, named, granted⟩ := inv
  have reloads : Guarded Hall.apply
      (fun h m => ∀ cfg, m = .reload cfg → h.KeepsPlaces cfg ∧ h.KeepsGrants cfg) (hall s)
      (stepMoves s timed) :=
    reload_alone fun newcfg loaded =>
      ⟨hall_keepsPlaces (s := s.at timed.1) (keeps newcfg loaded).1, (keeps newcfg loaded).2⟩
  have both := Machine.guarded_and _ (stepMoves_allowed s timed seated) reloads
  unfold NameInv
  rw [hall_step]
  refine Machine.run_invariant (P := fun h => Seated h ∧ Kept Named h ∧ Hall.Granted h) _ ?_
    ⟨seated, named, granted⟩ both
  intro h m held ok
  exact ⟨Hall.seated_apply held.1 ok.1,
    Hall.named_apply held.1 held.2.1 ok.1 fun cfg same => (ok.2 cfg same).1,
    Hall.granted_apply held.2.2 fun cfg same => (ok.2 cfg same).2⟩

theorem nameInv_init (cfg : Rcfg) (bootMs : Nat) : NameInv (State.init cfg bootMs) := by
  refine ⟨seated_init cfg bootMs, fun k c at_ => ?_, fun j bound k talks => ?_⟩
  · simp [hall, State.init, NodeRt.station, NodeRt.zero] at at_
  · exact (idle_init cfg bootMs bound talks).elim

theorem identified_when_names_kept (cfg : Rcfg) (bootMs : Nat) (inputs : List (Moment × Event))
    (kept : Guarded step ReloadsKeepNames (State.init cfg bootMs) inputs) :
    Identified (run step (State.init cfg bootMs) inputs) := by
  obtain ⟨seated, named, granted⟩ :=
    Machine.run_invariant step nameInv_step (nameInv_init cfg bootMs) kept
  exact identified_of_hall seated named granted

def rosterGrown : Rcfg :=
  -- The roster with a third talkgroup.
  site roster.nodes
    [{ number := 1, name := "One", memberNodeIdxs := [0, 1] },
      { number := 2, name := "Two", memberNodeIdxs := [0, 1] },
      { number := 3, name := "Three", memberNodeIdxs := [0, 1] }] (by decide) (by decide)

/-- A reload that adds a talkgroup makes the first node its talker. -/
theorem added_talkgroup_has_talker :
    ¬ Identified (run step (State.init roster 0) [(after 0, .reload (some rosterGrown))]) := by
  intro identified
  have granted := identified.floor 2 (by decide) 0 (by decide)
  exact absurd granted (by decide)

def rosterShrunk : Rcfg :=
  -- The roster without its second node.
  site
    [{ id := "A", allowedTgs := [1, 2], defaultTg := 1, banned := false }]
    [{ number := 1, name := "One", memberNodeIdxs := [0] },
      { number := 2, name := "Two", memberNodeIdxs := [0] }] (by decide) (by decide)

/-- The first node keeps its floor while the second is removed and its connection closes. -/
theorem identified_after_removal :
    Identified (run step (State.init roster 0)
      (signIn 0 "A" ++ signIn 1 "B" ++
        [(after 100, packet 0 100), (after 0, .reload (some rosterShrunk)), (after 0, .close 1),
          (after 0, .reload (some roster))])) :=
  identified_when_names_kept roster 0 _ (by decide)

end Kerchunk.Reflectd
