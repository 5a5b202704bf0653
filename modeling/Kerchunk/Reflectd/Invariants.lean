import Kerchunk.Reflectd.Simulation

set_option autoImplicit false

/-!
# Seats

A connection that has logged in and the node it logged in as point at each
other. The daemon's checks before each move rest on that.
-/

namespace Kerchunk.Reflectd

open Link (Msg ErrCode Login Request)

theorem SamePlaces.refl (h : Hall) : SamePlaces h h := ⟨rfl, rfl, fun _ => rfl, rfl, rfl⟩

theorem SamePlaces.trans {f g h : Hall} (first : SamePlaces f g) (second : SamePlaces g h) :
    SamePlaces f h :=
  ⟨first.cfg.trans second.cfg, first.now.trans second.now,
    fun k => (first.place k).trans (second.place k), first.door.trans second.door,
    first.told.trans second.told⟩

theorem SamePlaces.conn {g h : Hall} (same : SamePlaces g h) (k : Nat) :
    (g.station k).conn = (h.station k).conn := congrArg Prod.fst (same.place k)

theorem SamePlaces.tg {g h : Hall} (same : SamePlaces g h) (k : Nat) :
    (g.station k).tg = (h.station k).tg := congrArg (fun p => p.2.1) (same.place k)

theorem SamePlaces.muted {g h : Hall} (same : SamePlaces g h) (k : Nat) :
    (g.station k).muted = (h.station k).muted := congrArg (fun p => p.2.2) (same.place k)

theorem SamePlaces.seat {g h : Hall} (same : SamePlaces g h) (c : Nat) : g.seat c = h.seat c := by
  simp [Hall.seat, same.door]

theorem SamePlaces.draining {g h : Hall} (same : SamePlaces g h) (c : Nat) :
    g.draining c = h.draining c := by
  simp [Hall.draining, same.door]

namespace Hall

def Seated (h : Hall) : Prop :=
  ∀ c k, h.seat c = some k ↔ (h.station k).conn = some c

theorem join_station (h : Hall) (c node tg k : Nat) :
    (h.join c node tg).station k =
      if k = node then { h.station k with conn := some c, tg := tg, airtime := 0 }
      else h.station k := by
  simp only [join, tell_station, note, setStation_station, setDoor]

theorem join_seat {h : Hall} {c : Nat} (opened : (h.door c).isSome) (node tg d : Nat) :
    (h.join c node tg).seat d = if d = c then some node else h.seat d := by
  simp only [seat, join, tell_door, note, setStation, setDoor_door]
  by_cases at_ : d = c
  · subst at_
    obtain ⟨door, found⟩ := Option.isSome_iff_exists.mp opened
    simp [found]
  · simp [at_]

theorem leave_station (h : Hall) (c k : Nat) :
    (h.leave c).station k =
      if h.seat c = some k then { h.station k with conn := none, muted := false }
      else h.station k := by
  unfold leave
  cases taken : h.seat c with
  | none => simp
  | some node =>
      simp only [setStation_station, Option.some.injEq]
      by_cases at_ : k = node
      · simp [at_]
      · simp [at_, Ne.symm at_]

theorem leave_seat (h : Hall) (c d : Nat) :
    (h.leave c).seat d = if d = c then none else h.seat d := by
  have door : (h.leave c).door = Function.update h.door c none := by
    unfold leave
    cases h.seat c <;> rfl
  by_cases at_ : d = c
  · simp [seat, door, at_]
  · simp [seat, door, at_]

theorem seated_same {g h : Hall} (seated : Seated h) (seat : ∀ c, g.seat c = h.seat c)
    (conn : ∀ k, (g.station k).conn = (h.station k).conn) : Seated g := by
  intro c k
  rw [seat, conn]
  exact seated c k

theorem reload_conn (h : Hall) (cfg : Rcfg) (k : Nat) :
    ((h.reload cfg).station k).conn = (h.station k).conn := by
  have visited := visited_all cfg h h.cfg.nodes.length
  refine (congrArg Station.conn (visited.station k)).trans ?_
  split <;> rfl

theorem seated_apply {h : Hall} {m : Move} (seated : Seated h) (allowed : Allowed h m) :
    Seated (h.apply m) := by
  cases m with
  | advance elapsed => exact seated
  | enter c =>
      have empty : h.seat c = none := by
        have none : h.door c = none := allowed
        simp [seat, none]
      refine seated_same seated (fun d => ?_) fun _ => rfl
      by_cases at_ : d = c
      · subst at_
        rw [empty]
        simp [seat, apply]
      · simp [seat, apply, at_]
  | drain c => exact seated_same seated (seat_setDraining h c) fun _ => rfl
  | grant j k => exact seated_same seated (grant_places h j k).seat (grant_places h j k).conn
  | release j => exact seated_same seated (release_places h j).seat (release_places h j).conn
  | join c node tg =>
      obtain ⟨opened, empty, offline, _⟩ := allowed
      intro d k
      simp only [apply, join_seat opened, join_station]
      have here := seated c k
      have there := seated d node
      have rest := seated d k
      by_cases door : d = c <;> by_cases at_ : k = node <;> grind
  | tune c node tg =>
      refine seated_same seated (fun d => ?_) fun k => ?_
      · simp [seat, apply, tune, tell_door, setStation]
      · simp only [apply, tune, tell_station, setStation_station]
        split <;> rfl
  | mute node c | unmute node c =>
      refine seated_same seated (fun d => ?_) fun k => ?_
      · simp [seat, apply, tell_door, setStation]
      · simp only [apply, tell_station, setStation_station]
        split <;> rfl
  | leave c =>
      intro d k
      simp only [apply, leave_seat, leave_station]
      have here := seated c k
      have rest := seated d k
      by_cases door : d = c <;> by_cases at_ : h.seat c = some k <;> grind
  | reload cfg =>
      exact seated_same seated (visited_all cfg h h.cfg.nodes.length).seat (reload_conn h cfg)

theorem cfg_apply {h : Hall} {m : Move} (notReload : ∀ cfg, m ≠ .reload cfg) :
    (h.apply m).cfg = h.cfg := by
  cases m with
  | advance | enter | drain | join | tune => rfl
  | grant j k => exact (grant_places h j k).cfg
  | release j => exact (release_places h j).cfg
  | mute node c | unmute node c => exact tell_cfg _ _ _
  | leave c =>
      simp only [apply, leave]
      cases h.seat c <;> rfl
  | reload cfg => exact absurd rfl (notReload cfg)

theorem draining_tell (h : Hall) (c : Option Nat) (t : Told) (d : Nat) :
    (h.tell c t).draining d = h.draining d := by
  simp [draining, tell_door]

/-- A node that is connected after a move was so before on the same connection, which does not stop
draining, or it has just joined. -/
theorem conn_apply {h : Hall} {m : Move} (seated : Seated h) (allowed : Allowed h m)
    (notReload : ∀ cfg, m ≠ .reload cfg) {k c : Nat}
    (at_ : ((h.apply m).station k).conn = some c) :
    (h.station k).conn = some c ∧ (h.draining c = true → (h.apply m).draining c = true) ∨
      ∃ tg, m = .join c k tg := by
  cases m with
  | advance elapsed => exact Or.inl ⟨at_, id⟩
  | enter d =>
      have closed : h.door d = none := allowed
      have other : c ≠ d := by
        rintro rfl
        have seat := (seated c k).mpr at_
        simp [Hall.seat, closed] at seat
      exact Or.inl ⟨at_, by simp [apply, draining, other]⟩
  | drain d =>
      refine Or.inl ⟨at_, fun drains => ?_⟩
      rw [apply, draining_setDraining]
      split
      next => exact Option.isSome_of_any drains
      next => exact drains
  | grant j node =>
      have places := grant_places h j node
      rw [apply, places.conn] at at_
      exact Or.inl ⟨at_, by rw [apply, places.draining]; exact id⟩
  | release j =>
      have places := release_places h j
      rw [apply, places.conn] at at_
      exact Or.inl ⟨at_, by rw [apply, places.draining]; exact id⟩
  | join d node tg =>
      rw [apply, join_station] at at_
      split at at_
      next same =>
        cases at_
        exact Or.inr ⟨tg, by rw [same]⟩
      next =>
        have other : c ≠ d := by
          rintro rfl
          have empty := allowed.2.1
          simp [(seated c k).mpr at_] at empty
        refine Or.inl ⟨at_, ?_⟩
        simp [apply, join, other, note, setStation, setDoor, draining, tell_door]
  | tune d node tg =>
      simp only [apply, tune, tell_station, setStation_station] at at_
      exact Or.inl ⟨by split at at_ <;> exact at_, id⟩
  | mute node d | unmute node d =>
      simp only [apply, tell_station, setStation_station] at at_
      refine Or.inl ⟨by split at at_ <;> exact at_, ?_⟩
      rw [apply, draining_tell]
      exact id
  | leave d =>
      rw [apply, leave_station] at at_
      split at at_
      next => cases at_
      next elsewhere =>
        have other : c ≠ d := by
          rintro rfl
          exact elsewhere ((seated c k).mpr at_)
        have door : (h.leave d).door = Function.update h.door d none := by
          unfold leave
          cases h.seat d <;> rfl
        exact Or.inl ⟨at_, by simp [apply, draining, door, other]⟩
  | reload cfg => exact absurd rfl (notReload cfg)

/-! ## Places across reloads -/

def Kept (ok : Hall → Nat → Nat → Prop) (h : Hall) : Prop :=
  -- Of each connected node, `ok` holds, or its place is past the end and it is being shown out.
  ∀ k c, (h.station k).conn = some c →
    k < h.cfg.nodes.length ∧ ok h k c ∨ h.cfg.nodes.length ≤ k ∧ h.draining c = true

def KeepsPlaces (h : Hall) (cfg : Rcfg) : Prop :=
  -- Connected nodes keep their places, or are removed from the end.
  ∀ k, (h.station k).conn ≠ none →
    k < h.cfg.nodes.length ∧ rcfgNodeIdx cfg (h.cfg.nodeId k) = some k ∨
      cfg.nodes.length ≤ k ∧ (k < h.cfg.nodes.length → rcfgNodeIdx cfg (h.cfg.nodeId k) = none)

theorem kept_apply {ok : Hall → Nat → Nat → Prop} {h : Hall} {m : Move} (seated : Seated h)
    (kept : Kept ok h) (allowed : Allowed h m)
    (reloads : ∀ cfg, m = .reload cfg → h.KeepsPlaces cfg)
    (stays : (∀ cfg, m ≠ .reload cfg) → ∀ k c, (h.station k).conn = some c → ok h k c →
      ok (h.apply m) k c)
    (joins : ∀ c node tg, m = .join c node tg → ok (h.apply m) node c)
    (carries : ∀ cfg, m = .reload cfg → ∀ k c, (h.station k).conn = some c →
      k < h.cfg.nodes.length → rcfgNodeIdx cfg (h.cfg.nodeId k) = some k → ok h k c →
        ok (h.apply m) k c) :
    Kept ok (h.apply m) := by
  intro k c at_
  by_cases reload : ∃ cfg, m = .reload cfg
  · obtain ⟨cfg, rfl⟩ := reload
    have visited := visited_all cfg h h.cfg.nodes.length
    rw [apply, reload_conn] at at_
    have place := kept k c at_
    rcases reloads cfg rfl k (by simp [at_]) with ⟨old, same⟩ | ⟨gone, removed⟩
    · rcases place with ⟨_, fine⟩ | ⟨late, _⟩
      · exact Or.inl ⟨(rcfgNodeIdx_some same).1, carries cfg rfl k c at_ old same fine⟩
      · omega
    · refine Or.inr ⟨gone, ?_⟩
      rcases place with ⟨old, _⟩ | ⟨_, drains⟩
      · have seat := (seated c k).mpr at_
        have opened : (h.door c).isSome := by
          cases door : h.door c with
          | none => simp [Hall.seat, door] at seat
          | some _ => rfl
        exact visited.shown k (List.mem_range.mpr old) c at_ opened (removed old)
      · exact visited.draining c drains
  · have notReload : ∀ cfg, m ≠ .reload cfg := fun cfg same => reload ⟨cfg, same⟩
    rw [cfg_apply notReload]
    rcases conn_apply seated allowed notReload at_ with ⟨before, drains⟩ | ⟨tg, rfl⟩
    · exact (kept k c before).imp (And.imp_right (stays notReload k c before))
        (And.imp_right drains)
    · exact Or.inl ⟨allowed.2.2.2.1, joins c k tg rfl⟩

end Hall

open Hall (Seated Allowed)
open Machine (Guarded run)

/-! ## Connections and their nodes -/

theorem seat_of_conn {s : State} {c k : Nat} {cs : Conn} (here : s.conns c = some cs)
    (state : cs.state = .authenticated k) : (hall s).seat c = some k := by
  simp [Hall.seat, hall, here, Conn.door, Conn.nodeIdx, state]

theorem conn_of_seat {s : State} (seated : Seated (hall s)) {c k : Nat}
    (seat : (hall s).seat c = some k) : (s.nodeRt k).session.map Session.c = some c :=
  (seated c k).mp seat

/-! ## Every step of the daemon makes only allowed moves -/

theorem allowed_talk {s : State} {k : Nat} (online : (s.nodeRt k).connected = true) :
    Guarded Hall.apply Allowed (hall s) (talkMoves s k) := by
  unfold talkMoves grantMoves
  cases onTg : rcfgTgIdx s.cfg (s.nodeRt k).curTg with
  | none => trivial
  | some j =>
      cases busy : floorBusy s j k with
      | true =>
          simp only [busy, if_true]
          trivial
      | false =>
          simp only [busy, Bool.false_eq_true, if_false]
          refine ⟨⟨?_, onTg, fun holder holds other => floorBusy_false busy holds other⟩, trivial⟩
          have session : (s.nodeRt k).session.isSome := online
          simpa [hall, NodeRt.station, Option.isSome_iff_ne_none] using session

theorem mem_releaseMoves {s : State} {k j : Nat} {m : Move} (member : m ∈ releaseMoves s k j) :
    m = .release j := by
  unfold releaseMoves at member
  split at member
  next => simpa using member
  next => cases member

def Releases (n : Nat) (ms : List Move) : Prop :=
  -- The moves release floors of the first `n` talkgroups, and do nothing else.
  ∀ m ∈ ms, ∃ j < n, m = .release j

theorem releases_held (s : State) (k : Nat) {n j : Nat} (bound : j < n) :
    Releases n (releaseMoves s k j) :=
  fun _ member => ⟨j, bound, mem_releaseMoves member⟩

theorem releases_old (s : State) (k tg : Nat) :
    Releases s.cfg.tgs.length (releaseOldMoves s k tg) := by
  unfold releaseOldMoves
  split
  next =>
    split
    next j onTg => exact releases_held s k (rcfgTgIdx_some onTg).1
    next => simp [Releases]
  next => simp [Releases]

theorem releases_allOf (s : State) (k n : Nat) :
    Releases n (Machine.trace (fun s j => if holds s k j then floorRelease s j none else s)
      (fun s j => releaseMoves s k j) s (List.range n)) := by
  intro m member
  obtain ⟨t, j, visited, issued⟩ := Machine.mem_trace member
  exact ⟨j, List.mem_range.mp visited, mem_releaseMoves issued⟩

theorem releases_tick (s : State) : Releases s.cfg.tgs.length (moves s .floorTick) := by
  intro m member
  obtain ⟨t, j, visited, issued⟩ := Machine.mem_trace member
  refine ⟨j, List.mem_range.mp visited, ?_⟩
  unfold tickMoves at issued
  split at issued
  next => simpa using issued
  next => cases issued

theorem allowed_releases {h : Hall} {ms : List Move} (only : Releases h.cfg.tgs.length ms) :
    Guarded Hall.apply Allowed h ms := by
  induction ms generalizing h with
  | nil => trivial
  | cons m rest ih =>
      obtain ⟨j, bound, rfl⟩ := only m (List.mem_cons_self ..)
      refine ⟨bound, ih fun m member => ?_⟩
      rw [Hall.apply, (Hall.release_places h j).cfg]
      exact only m (List.mem_cons_of_mem _ member)

theorem places_releases (h : Hall) {n : Nat} {ms : List Move} (only : Releases n ms) :
    SamePlaces (run Hall.apply h ms) h := by
  induction ms generalizing h with
  | nil => exact SamePlaces.refl h
  | cons m rest ih =>
      obtain ⟨j, _, rfl⟩ := only m (List.mem_cons_self ..)
      exact (ih (h.release j) fun m member => only m (List.mem_cons_of_mem _ member)).trans
        (Hall.release_places h j)

theorem talker_releases {h : Hall} {n : Nat} {ms : List Move} (only : Releases n ms) {j k : Nat}
    (talks : (run Hall.apply h ms).talker j = some k) : h.talker j = some k := by
  -- Releases only clear floors.
  induction ms generalizing h with
  | nil => exact talks
  | cons m rest ih =>
      obtain ⟨i, _, rfl⟩ := only m (List.mem_cons_self ..)
      have before := ih (fun m member => only m (List.mem_cons_of_mem _ member)) talks
      have cleared := Hall.release_talker h i j
      simp only [Hall.apply] at before
      rw [cleared] at before
      split at before
      next => cases before
      next => exact before

theorem holds_iff {s : State} {k j : Nat} : holds s k j = true ↔ (hall s).talker j = some k := by
  simp [holds, Hall.talker, hall]

theorem releaseMoves_clear {s : State} {k j : Nat} :
    (run Hall.apply (hall s) (releaseMoves s k j)).talker j ≠ some k := by
  unfold releaseMoves
  cases held : holds s k j with
  | true => simp [Hall.apply, Hall.release_talker]
  | false =>
      intro talks
      simp [holds_iff.mpr talks] at held

theorem releaseOldMoves_clear {s : State} {k tg j : Nat}
    (talks : (run Hall.apply (hall s) (releaseOldMoves s k tg)).talker j = some k)
    (onTg : rcfgTgIdx s.cfg (s.nodeRt k).curTg = some j) : rcfgTgIdx s.cfg tg = some j := by
  -- A node that leaves a talkgroup has given up its floor there.
  unfold releaseOldMoves at talks
  split at talks
  next =>
    rw [onTg] at talks
    exact absurd talks releaseMoves_clear
  next stays =>
    by_cases zero : (s.nodeRt k).curTg = 0
    · simp [zero, rcfgTgIdx_zero] at onTg
    · have same : (s.nodeRt k).curTg = tg := by
        by_contra other
        exact stays ⟨zero, other⟩
      rw [← same, onTg]

theorem releaseAllOf_clear (s : State) (k j : Nat) (bound : j < s.cfg.tgs.length) :
    (hall (releaseAllOf s k)).talker j ≠ some k := by
  have upTo : ∀ n, ∀ i < n, (hall ((List.range n).foldl (fun s j =>
      if holds s k j then floorRelease s j none else s) s)).talker i ≠ some k := by
    intro n
    induction n with
    | zero => intro i bound; cases bound
    | succ n ih =>
        intro i bound
        rw [List.range_succ, List.foldl_append, List.foldl_cons, List.foldl_nil, hall_releaseHeld]
        by_cases last : i = n
        · subst last
          exact releaseMoves_clear
        · intro talks
          exact ih i (by omega) (talker_releases (releases_held _ k (Nat.lt_succ_self n)) talks)
  exact upTo _ j bound

theorem allowed_request {s : State} (seated : Seated (hall s)) {c k : Nat}
    (seat : (hall s).seat c = some k) (request : Request) :
    Guarded Hall.apply Allowed (hall s) (requestMoves s c k request) := by
  have conn := conn_of_seat seated seat
  have online : (s.nodeRt k).connected = true := by
    cases at_ : (s.nodeRt k).session <;> simp [at_, NodeRt.connected] at conn ⊢
  cases request with
  | setTg tg =>
      simp only [requestMoves]
      cases checked : setTgCheck s k tg with
      | error code => trivial
      | ok j =>
          obtain ⟨_, may⟩ := setTgCheck_ok checked
          have only := releases_old s k tg.toNat
          have places := places_releases (hall s) only
          simp only
          rw [Machine.guarded_append]
          refine ⟨allowed_releases only, ⟨?_, ?_, fun i talks onTg => ?_⟩, trivial⟩
          · rw [places.seat, seat]
          · rw [places.cfg]
            exact may
          · rw [places.cfg] at onTg ⊢
            rw [places.tg] at onTg
            exact releaseOldMoves_clear talks onTg
  | quality lossPct =>
      simp only [requestMoves]
      split
      next => exact ⟨conn.symm, trivial⟩
      next => trivial
  | simulateTalkStart => exact allowed_talk online
  | simulateTalkEnd =>
      simp only [requestMoves]
      split
      next => trivial
      next j onTg => exact allowed_releases (releases_held s k (rcfgTgIdx_some onTg).1)
  | _ => trivial

theorem allowed_message {s : State} (seated : Seated (hall s)) {c : Nat} {cs : Conn}
    (here : s.conns c = some cs) (request : Request) (draw : LoginDraw) :
    Guarded Hall.apply Allowed (hall s) (messageMoves s c cs request draw) := by
  unfold messageMoves
  cases state : cs.state with
  | awaitingLogin =>
      cases request with
      | untyped =>
          simp only
          split <;> simp [Guarded, Allowed]
      | login body =>
          simp only
          cases checked : loginCheck s body draw with
          | error denial => exact ⟨trivial, trivial⟩
          | ok a =>
              obtain ⟨configured, _, offline, notBanned, may⟩ := loginCheck_ok checked
              refine ⟨⟨?_, ?_, ?_, configured, may, notBanned⟩, trivial⟩
              · simp [hall, here]
              · simp [Hall.seat, hall, here, Conn.door, Conn.nodeIdx, state]
              · simp [hall, NodeRt.station, offline]
      | _ => exact ⟨trivial, trivial⟩
  | authenticated k =>
      cases request with
      | untyped =>
          simp only
          split <;> simp [Guarded, Allowed]
      | login body => exact ⟨trivial, trivial⟩
      | _ => exact allowed_request seated (seat_of_conn here state) _

theorem allowed_close (s : State) (c : Nat) :
    Guarded Hall.apply Allowed (hall s) (closeMoves s c) := by
  unfold closeMoves
  cases here : s.conns c with
  | none => trivial
  | some cs =>
      cases state : cs.state with
      | awaitingLogin =>
          simp only [state]
          refine ⟨fun k seat => ?_, trivial⟩
          simp [Hall.seat, hall, here, Conn.door, Conn.nodeIdx, state] at seat
      | authenticated k =>
          have only := releases_allOf s k s.cfg.tgs.length
          simp only [state]
          rw [Machine.guarded_append]
          refine ⟨allowed_releases only, fun k' seat j bound talks => ?_, trivial⟩
          have places := places_releases (hall s) only
          rw [places.seat, seat_of_conn here state] at seat
          obtain rfl : k = k' := Option.some.inj seat
          rw [places.cfg] at bound
          rw [← hall_releaseAllOf] at talks
          exact releaseAllOf_clear s k j bound talks

theorem allowed_datagram (s : State) (d : Datagram) :
    Guarded Hall.apply Allowed (hall s) (datagramMoves s d) := by
  unfold datagramMoves
  split
  next =>
    cases found : findSender s d with
    | none =>
        simp only [authFailMoves]
        repeat' split
        all_goals simp [Guarded, Allowed]
    | some sender =>
        obtain ⟨k, p⟩ := sender
        simp only
        split
        next => trivial
        next => exact allowed_talk (findSender_some found).2.1
  next => trivial

theorem moves_allowed (s : State) (seated : Seated (hall s)) (e : Event) :
    Guarded Hall.apply Allowed (hall s) (moves s e) := by
  cases e with
  | wsOpen c challenge =>
      simp only [moves, openMoves]
      cases here : s.conns c with
      | some cs => trivial
      | none =>
          refine ⟨by simp [Allowed, hall, here], ?_⟩
          split <;> trivial
  | wsMsg c frame draw =>
      simp only [moves, receiveMoves]
      cases here : s.conns c with
      | none => trivial
      | some cs =>
          simp only
          split
          next => exact ⟨trivial, trivial⟩
          next => exact allowed_message seated here frame.request draw
  | close c => exact allowed_close s c
  | datagram d => exact allowed_datagram s d
  | floorTick => exact allowed_releases (releases_tick s)
  | keepaliveTick => trivial
  | reload loaded => cases loaded <;> trivial
  | admin nodeId action =>
      simp only [moves, adminMoves]
      split
      next => trivial
      next k _ =>
        cases action with
        | kick reason => cases (s.nodeRt k).session <;> trivial
        | mute retryInS => exact ⟨rfl, trivial⟩
        | unmute => exact ⟨rfl, trivial⟩
  | adminReleaseFloor tg =>
      simp only [moves]
      cases onTg : rcfgTgIdx s.cfg (tg % 65536).toNat with
      | none => trivial
      | some j => exact ⟨(rcfgTgIdx_some onTg).1, trivial⟩

theorem seated_step (s : State) (timed : Moment × Event) (seated : Seated (hall s)) :
    Seated (hall (step s timed)) := by
  rw [hall_step]
  exact Machine.run_invariant _ (fun _ _ => Hall.seated_apply) seated
    ⟨trivial, moves_allowed (s.at timed.1) seated timed.2⟩

theorem seated_init (cfg : Rcfg) (bootMs : Nat) : Seated (hall (State.init cfg bootMs)) := by
  intro c k
  simp [hall, State.init, Hall.seat, NodeRt.station, NodeRt.zero]

theorem stepMoves_allowed (s : State) (timed : Moment × Event) (seated : Seated (hall s)) :
    Guarded Hall.apply Allowed (hall s) (stepMoves s timed) :=
  -- Every step of the daemon makes moves that the hall allows.
  ⟨trivial, moves_allowed (s.at timed.1) seated timed.2⟩

/-! ## What an event can do beyond plain moves -/

def Move.plain : Move → Bool
  | .grant _ _ | .mute _ _ | .reload _ => false
  | _ => true

/-- The event is audio or a simulated start from node `k`, which the floor is granted to. -/
inductive Talks (s : State) : Event → Nat → Prop
  | audio {d : Datagram} {k : Nat} {p : RtpPacket} (wellFormed : rtpOk d = true)
      (sender : findSender s d = some (k, p)) (unmuted : (s.nodeRt k).muted = false)
      (voice : p.payloadType ≠ Link.rtpBootstrapPt) : Talks s (.datagram d) k
  | simulated {c k : Nat} {cs : Conn} {frame : Frame} {draw : LoginDraw}
      (here : s.conns c = some cs) (state : cs.state = .authenticated k)
      (fits : frame.len ≤ Link.maxMsg) (asks : frame.request = .simulateTalkStart) :
      Talks s (.wsMsg c frame draw) k

inductive Mutes (s : State) : Event → Nat → Prop
  | loss {c k : Nat} {cs : Conn} {frame : Frame} {draw : LoginDraw} {lossPct : Rat}
      (here : s.conns c = some cs) (state : cs.state = .authenticated k)
      (reports : frame.request = .quality lossPct) (trips : mutesSender s k lossPct = true) :
      Mutes s (.wsMsg c frame draw) k
  | operator {k : Nat} {id : String} {retryInS : Int} (known : rcfgNodeIdx s.cfg id = some k) :
      Mutes s (.admin (some id) (.mute retryInS)) k

inductive Shape (s : State) (e : Event) : List Move → Prop
  | plain {ms : List Move} (only : ∀ m ∈ ms, m.plain = true) : Shape s e ms
  | grant {j k : Nat} (talks : Talks s e k) (onTg : rcfgTgIdx s.cfg (s.nodeRt k).curTg = some j)
      (free : floorBusy s j k = false) : Shape s e [.grant j k]
  | mute {k : Nat} {c : Option Nat} (mutes : Mutes s e k) : Shape s e [.mute k c]
  | reload {cfg : Rcfg} (loaded : e = .reload (some cfg)) : Shape s e [.reload cfg]

theorem shape_talk {s : State} {e : Event} {k : Nat} (talks : Talks s e k) :
    Shape s e (talkMoves s k) := by
  unfold talkMoves grantMoves
  cases onTg : rcfgTgIdx s.cfg (s.nodeRt k).curTg with
  | none => exact .plain (by simp)
  | some j =>
      cases busy : floorBusy s j k with
      | true => exact .plain (by simp [busy])
      | false =>
          simp only [busy, Bool.false_eq_true, if_false]
          exact .grant talks onTg busy

theorem plain_releases {n : Nat} {ms : List Move} (only : Releases n ms) :
    ∀ m ∈ ms, m.plain = true := by
  intro m member
  obtain ⟨j, _, rfl⟩ := only m member
  rfl

theorem shape_message {s : State} {c : Nat} {cs : Conn} (here : s.conns c = some cs)
    {frame : Frame} (fits : frame.len ≤ Link.maxMsg) (draw : LoginDraw) :
    Shape s (.wsMsg c frame draw) (messageMoves s c cs frame.request draw) := by
  unfold messageMoves
  cases state : cs.state with
  | awaitingLogin =>
      refine .plain ?_
      cases frame.request with
      | untyped =>
          simp only
          split <;> simp [Move.plain]
      | login body =>
          simp only
          cases loginCheck s body draw <;> simp [Move.plain]
      | _ => simp [Move.plain]
  | authenticated k =>
      cases asked : frame.request with
      | untyped =>
          simp only
          split <;> exact .plain (by simp [Move.plain])
      | login body => exact .plain (by simp [Move.plain])
      | setTg tg =>
          refine .plain fun m member => ?_
          simp only [requestMoves] at member
          split at member
          next => cases member
          next =>
            rcases List.mem_append.mp member with released | tuned
            · exact plain_releases (releases_old s k tg.toNat) m released
            · obtain rfl := List.mem_singleton.mp tuned
              rfl
      | quality lossPct =>
          simp only [requestMoves]
          split
          next trips => exact .mute (.loss here state asked trips)
          next => exact .plain (by simp)
      | simulateTalkStart => exact shape_talk (.simulated here state fits asked)
      | simulateTalkEnd =>
          simp only [requestMoves]
          split
          next => exact .plain (by simp)
          next j onTg => exact .plain (plain_releases (releases_held s k (rcfgTgIdx_some onTg).1))
      | _ => exact .plain (by simp [requestMoves])

theorem plain_close (s : State) (c : Nat) : ∀ m ∈ closeMoves s c, m.plain = true := by
  intro m member
  unfold closeMoves at member
  split at member
  next => cases member
  next =>
    split at member
    next =>
      obtain rfl := List.mem_singleton.mp member
      rfl
    next =>
      rcases List.mem_append.mp member with released | left
      · exact plain_releases (releases_allOf s _ _) m released
      · obtain rfl := List.mem_singleton.mp left
        rfl

theorem moves_shape (s : State) (e : Event) : Shape s e (moves s e) := by
  -- Grants, mutes and reloads come alone, from the events that are for them.
  cases e with
  | wsOpen c challenge =>
      refine .plain ?_
      simp only [moves, openMoves]
      repeat' split
      all_goals simp [Move.plain]
  | wsMsg c frame draw =>
      simp only [moves, receiveMoves]
      cases here : s.conns c with
      | none => exact .plain (by simp)
      | some cs =>
          simp only
          split
          next => exact .plain (by simp [Move.plain])
          next fits => exact shape_message here (Nat.not_lt.mp fits) draw
  | close c => exact .plain (plain_close s c)
  | datagram d =>
      simp only [moves, datagramMoves]
      split
      next wellFormed =>
        cases found : findSender s d with
        | none =>
            refine .plain ?_
            simp only [authFailMoves]
            repeat' split
            all_goals simp [Move.plain]
        | some sender =>
            obtain ⟨k, p⟩ := sender
            simp only
            split
            next => exact .plain (by simp)
            next accepted =>
              obtain ⟨unmuted, voice⟩ := not_or.mp accepted
              exact shape_talk (.audio wellFormed found (by simpa using unmuted) voice)
      next => exact .plain (by simp)
  | floorTick => exact .plain (plain_releases (releases_tick s))
  | keepaliveTick => exact .plain (by simp [moves])
  | reload loaded =>
      cases loaded with
      | none => exact .plain (by simp [moves])
      | some cfg => exact .reload rfl
  | admin nodeId action =>
      simp only [moves, adminMoves]
      cases nodeId with
      | none => exact .plain (by simp)
      | some id =>
          simp only [Option.bind_some]
          cases known : rcfgNodeIdx s.cfg id with
          | none => exact .plain (by simp)
          | some k =>
              cases action with
              | kick reason =>
                  refine .plain ?_
                  cases (s.nodeRt k).session <;> simp [Move.plain]
              | mute retryInS => exact .mute (.operator known)
              | unmute => exact .plain (by simp [Move.plain])
  | adminReleaseFloor tg =>
      refine .plain ?_
      simp only [moves]
      cases rcfgTgIdx s.cfg (tg % 65536).toNat <;> simp [Move.plain]

def Event.loaded : Event → Option Rcfg
  | .reload loaded => loaded
  | _ => none

theorem reload_alone {s : State} {timed : Moment × Event} {ok : Hall → Rcfg → Prop}
    (fine : ∀ newcfg ∈ timed.2.loaded, ok (hall (s.at timed.1)) newcfg) :
    Guarded Hall.apply (fun h m => ∀ cfg, m = .reload cfg → ok h cfg) (hall s)
      (stepMoves s timed) := by
  -- In a step, the only reload is the one that the event asks for, of the state before it.
  refine ⟨(fun _ same => by cases same), ?_⟩
  obtain ⟨m, e⟩ := timed
  rw [← hall_at]
  generalize s.at m = t at *
  have shape := moves_shape t e
  generalize moves t e = ms at shape ⊢
  cases shape with
  | plain only =>
      refine Machine.guarded_of_forall _ (fun m member h cfg same => ?_) _
      subst same
      cases only _ member
  | grant => exact ⟨(fun _ same => by cases same), trivial⟩
  | mute => exact ⟨(fun _ same => by cases same), trivial⟩
  | reload loaded =>
      subst loaded
      refine ⟨fun cfg same => ?_, trivial⟩
      cases same
      exact fine _ rfl

theorem noReload_moves {s : State} {timed : Moment × Event} (noReload : timed.2.loaded = none) :
    Guarded Hall.apply (fun _ m => ∀ cfg, m ≠ .reload cfg) (hall s) (stepMoves s timed) :=
  reload_alone fun newcfg loaded => by simp [noReload] at loaded

theorem cfg_step {s : State} {timed : Moment × Event} (noReload : timed.2.loaded = none) :
    (step s timed).cfg = s.cfg := by
  have same : (hall (step s timed)).cfg = (hall s).cfg := by
    rw [hall_step]
    exact Machine.run_invariant (P := fun h => h.cfg = (hall s).cfg) _
      (fun h m held ok => (Hall.cfg_apply ok).trans held) rfl (noReload_moves noReload)
  exact same

theorem cfg_run {s : State} {inputs : List (Moment × Event)}
    (noReload : ∀ timed ∈ inputs, timed.2.loaded = none) : (run step s inputs).cfg = s.cfg := by
  induction inputs generalizing s with
  | nil => rfl
  | cons timed rest ih =>
      rw [Machine.run_cons, ih fun timed member => noReload timed (List.mem_cons_of_mem _ member)]
      exact cfg_step (noReload timed (List.mem_cons_self ..))

end Kerchunk.Reflectd
