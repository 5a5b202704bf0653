import Kerchunk.Reflectd.Identity
import Kerchunk.Reflectd.Outbox

set_option autoImplicit false

/-!
# What a connection is told

The messages on a connection account for every change of its node's talkgroup
and mute.
-/

namespace Kerchunk.Reflectd

open Link (Msg Login)
open Machine (Guarded run)
open Hall (Seated Allowed)

def Told.heard (view : Nat × Bool) : Told → Nat × Bool
  -- Talkgroup and mute, after hearing one more message. A `login_ok` says nothing of the mute.
  | .tg number | .loggedIn _ number => (number, view.2)
  | .muted => (view.1, true)
  | .unmuted => (view.1, false)

def Told.later : Told → Bool
  -- Not a login, and no talkgroup that a client would not take.
  | .loggedIn _ _ => false
  | .tg number => decide (0 < number ∧ number ≤ 65535)
  | .muted | .unmuted => true

def Station.view (st : Station) : Nat × Bool :=
  (st.tg, st.muted)

theorem SamePlaces.view {g h : Hall} (same : SamePlaces g h) (k : Nat) :
    (g.station k).view = (h.station k).view :=
  congrArg Prod.snd (same.place k)

def Move.conn : Move → Option Nat
  -- The connection that the move opens, seats or closes.
  | .enter c | .join c _ _ | .leave c => some c
  | _ => none

namespace Hall

/-- Connection `c` keeps its node, and is told of all that changes for it. -/
structure Follows (h g : Hall) (c k : Nat) : Prop where
  seat : g.seat c = some k
  told : ∃ more, g.told c = h.told c ++ more ∧ (∀ t ∈ more, t.later = true) ∧
    (g.station k).view = more.foldl Told.heard (h.station k).view

theorem Follows.trans {f g h : Hall} {c k : Nat} (first : Follows f g c k) (second : Follows g h c k) :
    Follows f h c k := by
  obtain ⟨more, told, later, view⟩ := first.told
  obtain ⟨more', told', later', view'⟩ := second.told
  refine ⟨second.seat, more ++ more', by rw [told', told, List.append_assoc], fun t member => ?_,
    by rw [view', view, List.foldl_append]⟩
  exact (List.mem_append.mp member).elim (later t) (later' t)

theorem follows_same {h g : Hall} {c k : Nat} (seat : g.seat c = some k) (told : g.told c = h.told c)
    (view : (g.station k).view = (h.station k).view) : Follows h g c k :=
  ⟨seat, [], by rw [told, List.append_nil], by simp, view⟩

theorem follows_setMuted {h : Hall} (seated : Seated h) {c k : Nat} (muted : Bool) (node : Nat)
    (seat : h.seat c = some k) :
    Follows h ((h.setStation node fun st => { st with muted := muted }).tell (h.station node).conn
      (if muted then .muted else .unmuted)) c k := by
  have conn := (seated c k).mp seat
  have seatKept : ((h.setStation node fun st => { st with muted := muted }).tell
      (h.station node).conn (if muted then .muted else .unmuted)).seat c = some k := by
    simpa [Hall.seat, tell_door, setStation] using seat
  by_cases here : k = node
  · subst here
    refine ⟨seatKept, [if muted then .muted else .unmuted], ?_, ?_, ?_⟩
    · rw [conn, tell_told, if_pos rfl]
      rfl
    · cases muted <;> simp [Told.later]
    · rw [tell_station, setStation_station, if_pos rfl]
      cases muted <;> rfl
  · refine follows_same seatKept ?_ ?_
    · cases at_ : (h.station node).conn with
      | none => rfl
      | some d =>
          have other : c ≠ d := by
            rintro rfl
            exact here (Option.some.inj (seat.symm.trans ((seated c node).mpr at_)))
          rw [tell_told, if_neg other]
          rfl
    · rw [tell_station, setStation_station, if_neg here]

theorem follows_apply {h : Hall} {m : Move} (seated : Seated h) (allowed : Allowed h m)
    (notReload : ∀ cfg, m ≠ .reload cfg) {c k : Nat} (stays : m ≠ .leave c)
    (seat : h.seat c = some k) : Follows h (h.apply m) c k := by
  have conn := (seated c k).mp seat
  cases m with
  | advance elapsed => exact follows_same seat rfl rfl
  | enter d =>
      have closed : h.door d = none := allowed
      have other : c ≠ d := by
        rintro rfl
        simp [Hall.seat, closed] at seat
      exact follows_same (by simpa [Hall.seat, apply, other] using seat) (by simp [apply, other]) rfl
  | drain d => exact follows_same ((seat_setDraining h d c).trans seat) rfl rfl
  | grant j node =>
      have places := grant_places h j node
      exact follows_same ((places.seat c).trans seat) (congrFun places.told c) (places.view k)
  | release j =>
      have places := release_places h j
      exact follows_same ((places.seat c).trans seat) (congrFun places.told c) (places.view k)
  | join d node tg =>
      obtain ⟨opened, empty, offline, _⟩ := allowed
      have other : c ≠ d := by
        rintro rfl
        simp [seat] at empty
      have other' : k ≠ node := by
        rintro rfl
        simp [conn] at offline
      refine follows_same ?_ ?_ ?_
      · rw [apply, join_seat opened, if_neg other]
        exact seat
      · simp [apply, join, tell_told, other, note, setStation, setDoor]
      · rw [apply, join_station, if_neg other']
  | tune d node tg =>
      obtain ⟨seat', may, _⟩ := allowed
      have seatKept : ((h.apply (.tune d node tg)).seat c) = some k := by
        simpa [Hall.seat, apply, tune, tell_door, setStation] using seat
      by_cases here : d = c
      · subst here
        obtain rfl : node = k := Option.some.inj (seat'.symm.trans seat)
        refine ⟨seatKept, [.tg tg], ?_, by simpa [Told.later] using allowed_range may, ?_⟩
        · simp [apply, tune, tell_told, setStation]
        · simp [apply, tune, tell_station, setStation_station, Station.view, Told.heard]
      · have other : k ≠ node := by
          rintro rfl
          have conn' := (seated d k).mp seat'
          exact here (Option.some.inj (conn'.symm.trans conn))
        refine follows_same seatKept ?_ ?_
        · simp [apply, tune, tell_told, setStation, Ne.symm here]
        · simp [apply, tune, tell_station, setStation_station, other]
  | mute node d =>
      obtain rfl : d = (h.station node).conn := allowed
      exact follows_setMuted seated true node seat
  | unmute node d =>
      obtain rfl : d = (h.station node).conn := allowed
      exact follows_setMuted seated false node seat
  | leave d =>
      have other : c ≠ d := by
        rintro rfl
        exact stays rfl
      have away : h.seat d ≠ some k := by
        intro seat'
        have conn' := (seated d k).mp seat'
        exact other (Option.some.inj (conn.symm.trans conn'))
      refine follows_same ?_ ?_ ?_
      · rw [apply, leave_seat, if_neg other]
        exact seat
      · simp only [apply, leave]
        cases h.seat d <;> rfl
      · rw [apply, leave_station, if_neg away]
  | reload cfg => exact absurd rfl (notReload cfg)

/-- An open connection that has not logged in has been told nothing. -/
structure Untold (h : Hall) (c : Nat) : Prop where
  opened : (h.door c).isSome
  seat : h.seat c = none
  told : h.told c = []

theorem untold_apply {h : Hall} {m : Move} (seated : Seated h) (allowed : Allowed h m)
    (notReload : ∀ cfg, m ≠ .reload cfg) {c : Nat} (elsewhere : m.conn ≠ some c)
    (untold : Untold h c) : Untold (h.apply m) c := by
  obtain ⟨opened, seat, told⟩ := untold
  cases m with
  | advance elapsed => exact ⟨opened, seat, told⟩
  | enter d =>
      have other : c ≠ d := fun same => elsewhere (same ▸ rfl)
      exact ⟨by simpa [apply, other] using opened, by simpa [Hall.seat, apply, other] using seat,
        by simpa [apply, other] using told⟩
  | drain d =>
      refine ⟨?_, (seat_setDraining h d c).trans seat, told⟩
      rw [apply, setDoor_door]
      split
      next => simpa using opened
      next => exact opened
  | grant j node =>
      have places := grant_places h j node
      exact ⟨by rw [apply, places.door]; exact opened, (places.seat c).trans seat,
        (congrFun places.told c).trans told⟩
  | release j =>
      have places := release_places h j
      exact ⟨by rw [apply, places.door]; exact opened, (places.seat c).trans seat,
        (congrFun places.told c).trans told⟩
  | join d node tg =>
      have other : c ≠ d := fun same => elsewhere (same ▸ rfl)
      refine ⟨?_, ?_, ?_⟩
      · simpa [apply, join, tell_door, note, setStation, setDoor, other] using opened
      · rw [apply, join_seat allowed.1, if_neg other]
        exact seat
      · simpa [apply, join, tell_told, other, note, setStation, setDoor] using told
  | tune d node tg =>
      have other : c ≠ d := by
        rintro rfl
        simp [allowed.1] at seat
      refine ⟨by simpa [apply, tune, tell_door, setStation] using opened,
        by simpa [Hall.seat, apply, tune, tell_door, setStation] using seat, ?_⟩
      simpa [apply, tune, tell_told, other, setStation] using told
  | mute node d | unmute node d =>
      have at_ : d = (h.station node).conn := allowed
      refine ⟨by simpa [apply, tell_door, setStation] using opened,
        by simpa [Hall.seat, apply, tell_door, setStation] using seat, ?_⟩
      cases d with
      | none => exact told
      | some d =>
          -- A node's connection has a seat.
          have other : c ≠ d := by
            rintro rfl
            simp [(seated c node).mpr at_.symm] at seat
          simpa [apply, tell_told, other, setStation] using told
  | leave d =>
      have other : c ≠ d := fun same => elsewhere (same ▸ rfl)
      have door : (h.leave d).door = Function.update h.door d none ∧ (h.leave d).told = h.told := by
        unfold leave
        cases h.seat d <;> exact ⟨rfl, rfl⟩
      refine ⟨by simpa [apply, door, other] using opened, ?_, by rw [apply, door.2]; exact told⟩
      rw [apply, leave_seat, if_neg other]
      exact seat
  | reload cfg => exact absurd rfl (notReload cfg)

end Hall

open Hall (Follows Untold)

/-! ## Moves of an event -/

theorem conn_releases {n : Nat} {ms : List Move} (only : Releases n ms) :
    ∀ m ∈ ms, m.conn = none := by
  intro m member
  obtain ⟨j, _, rfl⟩ := only m member
  rfl

theorem conn_talk (s : State) (k : Nat) : ∀ m ∈ talkMoves s k, m.conn = none := by
  intro m member
  unfold talkMoves grantMoves at member
  split at member
  next => cases member
  next =>
    split at member
    next => cases member
    next =>
      obtain rfl := List.mem_singleton.mp member
      rfl

theorem conn_authFail (s : State) (src : Nat) : ∀ m ∈ authFailMoves s src, m.conn = none := by
  intro m member
  unfold authFailMoves at member
  split at member
  next => cases member
  next =>
    split at member
    next =>
      split at member
      next =>
        obtain rfl := List.mem_singleton.mp member
        rfl
      next => cases member
    next => cases member

theorem conn_request (s : State) (c k : Nat) (request : Link.Request) :
    ∀ m ∈ requestMoves s c k request, m.conn = none := by
  intro m member
  cases request with
  | setTg tg =>
      simp only [requestMoves] at member
      split at member
      next => cases member
      next =>
        rcases List.mem_append.mp member with released | tuned
        · exact conn_releases (releases_old s k tg.toNat) m released
        · obtain rfl := List.mem_singleton.mp tuned
          rfl
  | quality lossPct =>
      simp only [requestMoves] at member
      split at member
      next =>
        obtain rfl := List.mem_singleton.mp member
        rfl
      next => cases member
  | simulateTalkStart => exact conn_talk s k m member
  | simulateTalkEnd =>
      simp only [requestMoves] at member
      split at member
      next => cases member
      next j onTg => exact conn_releases (releases_held s k (rcfgTgIdx_some onTg).1) m member
  | _ => cases member

theorem conn_message {s : State} {c : Nat} {cs : Conn} {request : Link.Request} {draw : LoginDraw}
    {m : Move} (member : m ∈ messageMoves s c cs request draw) :
    m.conn = none ∨
      ∃ body a, request = .login body ∧ cs.state = .awaitingLogin ∧
        loginCheck s body draw = .ok a ∧ m = .join c a.nodeIdx a.tg := by
  -- A message seats its connection only by a login that is accepted, and does not close it.
  unfold messageMoves at member
  cases state : cs.state with
  | awaitingLogin =>
      rw [state] at member
      cases request with
      | untyped =>
          refine Or.inl ?_
          simp only at member
          split at member
          next =>
            obtain rfl := List.mem_singleton.mp member
            rfl
          next => cases member
      | login body =>
          simp only at member
          cases checked : loginCheck s body draw with
          | error denial =>
              rw [checked] at member
              obtain rfl := List.mem_singleton.mp member
              exact Or.inl rfl
          | ok a =>
              rw [checked] at member
              obtain rfl := List.mem_singleton.mp member
              exact Or.inr ⟨body, a, rfl, rfl, checked, rfl⟩
      | _ =>
          obtain rfl := List.mem_singleton.mp member
          exact Or.inl rfl
  | authenticated k =>
      rw [state] at member
      refine Or.inl ?_
      cases request with
      | untyped =>
          simp only at member
          split at member
          next =>
            obtain rfl := List.mem_singleton.mp member
            rfl
          next => cases member
      | login body =>
          obtain rfl := List.mem_singleton.mp member
          rfl
      | _ => exact conn_request s c k _ m member

theorem conn_close (s : State) (c : Nat) : ∀ m ∈ closeMoves s c, m.conn = none ∨ m = .leave c := by
  intro m member
  unfold closeMoves at member
  split at member
  next => cases member
  next =>
    split at member
    next => exact Or.inr (List.mem_singleton.mp member)
    next =>
      rcases List.mem_append.mp member with released | left
      · exact Or.inl (conn_releases (releases_allOf s _ _) m released)
      · exact Or.inr (List.mem_singleton.mp left)

theorem conn_moves {s : State} {e : Event} {m : Move} (member : m ∈ moves s e) :
    m.conn = none ∨ m.conn = e.conn := by
  -- An event opens, seats and closes no connection but its own.
  cases e with
  | wsOpen c challenge =>
      simp only [moves, openMoves] at member
      split at member
      next => cases member
      next =>
        rcases List.mem_cons.mp member with rfl | drains
        · exact Or.inr rfl
        · split at drains
          next =>
            obtain rfl := List.mem_singleton.mp drains
            exact Or.inl rfl
          next => cases drains
  | wsMsg c frame draw =>
      simp only [moves, receiveMoves] at member
      split at member
      next => cases member
      next =>
        split at member
        next =>
          obtain rfl := List.mem_singleton.mp member
          exact Or.inl rfl
        next =>
          rcases conn_message member with none | ⟨_, _, _, _, _, rfl⟩
          · exact Or.inl none
          · exact Or.inr rfl
  | close c =>
      rcases conn_close s c m member with none | rfl
      · exact Or.inl none
      · exact Or.inr rfl
  | datagram d =>
      refine Or.inl ?_
      simp only [moves, datagramMoves] at member
      split at member
      next =>
        split at member
        next => exact conn_authFail s d.src m member
        next k p _ =>
          split at member
          next => cases member
          next => exact conn_talk s k m member
      next => cases member
  | floorTick => exact Or.inl (conn_releases (releases_tick s) m member)
  | keepaliveTick => cases member
  | reload loaded =>
      cases loaded with
      | none => cases member
      | some cfg =>
          obtain rfl := List.mem_singleton.mp member
          exact Or.inl rfl
  | admin nodeId action =>
      refine Or.inl ?_
      simp only [moves, adminMoves] at member
      split at member
      next => cases member
      next k _ =>
        cases action with
        | kick reason =>
            cases session : (s.nodeRt k).session with
            | none => simp [session] at member
            | some session' =>
                obtain rfl : m = .drain session'.c := by simpa [session] using member
                rfl
        | mute retryInS =>
            obtain rfl := List.mem_singleton.mp member
            rfl
        | unmute =>
            obtain rfl := List.mem_singleton.mp member
            rfl
  | adminReleaseFloor tg =>
      refine Or.inl ?_
      simp only [moves] at member
      cases onTg : rcfgTgIdx s.cfg (tg % 65536).toNat with
      | none => simp [onTg] at member
      | some j =>
          obtain rfl : m = .release j := by simpa [onTg] using member
          rfl

theorem close_of_leave {s : State} {e : Event} {c : Nat} (member : .leave c ∈ moves s e) :
    e = .close c := by
  rcases conn_moves member with none | same
  · cases none
  · cases e with
    | wsOpen d challenge =>
        simp only [moves, openMoves] at member
        repeat' split at member
        all_goals simp at member
    | wsMsg d frame draw =>
        simp only [moves, receiveMoves] at member
        split at member
        next => cases member
        next =>
          split at member
          next => simp at member
          next =>
            rcases conn_message member with none | ⟨_, _, _, _, _, other⟩
            · cases none
            · cases other
    | close d =>
        obtain rfl : c = d := Option.some.inj same
        rfl
    | _ => cases same

/-! ## Steps of the daemon -/

def nodeView (s : State) (k : Nat) : Nat × Bool :=
  -- The node's talkgroup and mute.
  ((s.nodeRt k).curTg, (s.nodeRt k).muted)

theorem guarded_moves (s : State) (timed : Moment × Event) {P : Move → Prop}
    (clock : P (.advance timed.1.elapsed)) (only : ∀ m ∈ moves (s.at timed.1) timed.2, P m) :
    Guarded Hall.apply (fun _ m => P m) (hall s) (stepMoves s timed) := by
  refine Machine.guarded_of_forall _ (fun m member _ => ?_) _
  rcases List.mem_cons.mp member with rfl | later
  · exact clock
  · exact only m later

theorem follows_step {s : State} (timed : Moment × Event) {c k : Nat} (seated : Seated (hall s))
    (noReload : timed.2.loaded = none) (stays : timed.2 ≠ .close c)
    (notOpen : ∀ challenge, timed.2 ≠ .wsOpen c challenge) (seat : seatOf s c = some k) :
    seatOf (step s timed) c = some k ∧
      ∃ more, (step s timed).sent c = s.sent c ++ more ∧
        (∀ t ∈ more.filterMap told, t.later = true) ∧
        nodeView (step s timed) k = (more.filterMap told).foldl Told.heard (nodeView s k) := by
  -- A node that stays connected is told of every change of its talkgroup and mute.
  have remains := guarded_moves s timed (P := fun m => m ≠ .leave c) (by simp)
    fun m member same => stays (close_of_leave (same ▸ member))
  have followed : Follows (hall s) (hall (step s timed)) c k := by
    rw [hall_step]
    refine (Machine.run_invariant (P := fun g => Seated g ∧ Follows (hall s) g c k) _ ?_
      ⟨seated, Hall.follows_same ((hall_seat s c).trans seat) rfl rfl⟩
      (Machine.guarded_and _ (stepMoves_allowed s timed seated)
        (Machine.guarded_and _ (noReload_moves noReload) remains))).2
    intro g m held ok
    exact ⟨Hall.seated_apply held.1 ok.1,
      held.2.trans (Hall.follows_apply held.1 ok.1 ok.2.1 ok.2.2 held.2.seat)⟩
  obtain ⟨more, grown⟩ := sends_step c s timed notOpen
  obtain ⟨heard, said, later, view⟩ := followed.told
  have same : more.filterMap told = heard := by
    have said : ((step s timed).sent c).filterMap told = (s.sent c).filterMap told ++ heard := said
    rw [← grown, List.filterMap_append] at said
    exact List.append_cancel_left said
  rw [← hall_seat]
  exact ⟨followed.seat, more, grown.symm, by rw [same]; exact later, by rw [same]; exact view⟩

theorem untold_step {s : State} {timed : Moment × Event} {c : Nat} (seated : Seated (hall s))
    (noReload : timed.2.loaded = none)
    (elsewhere : ∀ m ∈ moves (s.at timed.1) timed.2, m.conn ≠ some c)
    (untold : Untold (hall s) c) : Untold (hall (step s timed)) c := by
  have away := guarded_moves s timed (P := fun m => m.conn ≠ some c) (by simp [Move.conn])
    elsewhere
  rw [hall_step]
  refine (Machine.run_invariant (P := fun g => Seated g ∧ Untold g c) _ ?_ ⟨seated, untold⟩
    (Machine.guarded_and _ (stepMoves_allowed s timed seated)
      (Machine.guarded_and _ (noReload_moves noReload) away))).2
  intro g m held ok
  exact ⟨Hall.seated_apply held.1 ok.1, Hall.untold_apply held.1 ok.1 ok.2.1 ok.2.2 held.2⟩

/-- A message on a connection that has not logged in leaves it so, or is a login that is accepted,
of which the connection is told. -/
theorem login_step {s : State} (m : Moment) {c : Nat} (frame : Frame) (draw : LoginDraw)
    (seated : Seated (hall s)) (untold : Untold (hall s) c) :
    Untold (hall (step s (m, .wsMsg c frame draw))) c ∨
      ∃ body a id, frame.len ≤ Link.maxMsg ∧ frame.request = .login body ∧
        loginCheck (s.at m) body draw = .ok a ∧
        seatOf (step s (m, .wsMsg c frame draw)) c = some a.nodeIdx ∧
        ((step s (m, .wsMsg c frame draw)).sent c).filterMap told = [.loggedIn id a.tg] ∧
        nodeView (step s (m, .wsMsg c frame draw)) a.nodeIdx =
          (a.tg, (s.nodeRt a.nodeIdx).muted) := by
  by_cases elsewhere : ∀ move ∈ moves (s.at m) (.wsMsg c frame draw), move.conn ≠ some c
  · exact Or.inl (untold_step seated rfl elsewhere untold)
  · simp only [not_forall, not_not] at elsewhere
    obtain ⟨move, member, joins⟩ := elsewhere
    have asked := member
    simp only [moves, receiveMoves] at asked
    cases here : (s.at m).conns c with
    | none => simp [here] at asked
    | some cs =>
        by_cases long : Link.maxMsg < frame.len
        · simp only [here, long, if_true, List.mem_singleton] at asked
          rw [asked] at joins
          cases joins
        · simp only [here, long, if_false] at asked
          rcases conn_message asked with none | ⟨body, a, request, state, checked, _⟩
          · rw [none] at joins
            cases joins
          · have only : moves (s.at m) (.wsMsg c frame draw) = [.join c a.nodeIdx a.tg] := by
              simp only [moves, receiveMoves, here, long, if_false, messageMoves, request, state,
                checked]
            have joined : hall (step s (m, .wsMsg c frame draw)) =
                ((hall s).apply (.advance m.elapsed)).join c a.nodeIdx a.tg := by
              rw [hall_step, stepMoves, only]
              rfl
            have clocked : Untold ((hall s).apply (.advance m.elapsed)) c :=
              ⟨untold.opened, untold.seat, untold.told⟩
            refine Or.inr ⟨body, a, s.cfg.nodeId a.nodeIdx, Nat.not_lt.mp long, request, checked,
              ?_, ?_, ?_⟩
            · rw [← hall_seat, joined, Hall.join_seat clocked.opened, if_pos rfl]
            · have said : (hall (step s (m, .wsMsg c frame draw))).told c =
                  [.loggedIn (s.cfg.nodeId a.nodeIdx) a.tg] := by
                rw [joined]
                simp only [Hall.join, Hall.tell_told, if_true]
                change (hall s).told c ++ _ = _
                rw [untold.told]
                rfl
              exact said
            · have place := congrArg (fun h : Hall => (h.station a.nodeIdx).view) joined
              simp only [Hall.join_station, if_true] at place
              exact place

/-! ### Connections that are not open -/

theorem closed_apply {h : Hall} {m : Move} {c : Nat} (elsewhere : m.conn ≠ some c)
    (notReload : ∀ cfg, m ≠ .reload cfg) (closed : h.door c = none) : (h.apply m).door c = none := by
  cases m with
  | advance elapsed => exact closed
  | enter d | leave d =>
      have other : c ≠ d := fun same => elsewhere (same ▸ rfl)
      simp only [Hall.apply, Hall.leave]
      rw [Function.update_of_ne other]
      first
        | exact closed
        | (cases h.seat d <;> exact closed)
  | drain d =>
      rw [Hall.apply, Hall.setDoor_door]
      split <;> simp [closed]
  | grant j node => rw [Hall.apply, (Hall.grant_places h j node).door, closed]
  | release j => rw [Hall.apply, (Hall.release_places h j).door, closed]
  | join d node tg =>
      have other : c ≠ d := fun same => elsewhere (same ▸ rfl)
      simpa [Hall.apply, Hall.join, Hall.tell_door, Hall.note, Hall.setStation, Hall.setDoor, other]
        using closed
  | tune d node tg => simpa [Hall.apply, Hall.tune, Hall.tell_door, Hall.setStation] using closed
  | mute node d | unmute node d =>
      simpa [Hall.apply, Hall.tell_door, Hall.setStation] using closed
  | reload cfg => exact absurd rfl (notReload cfg)

theorem seat_apply {h : Hall} {m : Move} {c : Nat} (elsewhere : m.conn ≠ some c)
    (notReload : ∀ cfg, m ≠ .reload cfg) : (h.apply m).seat c = h.seat c := by
  cases m with
  | advance elapsed => rfl
  | enter d =>
      have other : c ≠ d := fun same => elsewhere (same ▸ rfl)
      simp [Hall.apply, Hall.seat, other]
  | drain d => exact Hall.seat_setDraining h d c
  | grant j node => exact (Hall.grant_places h j node).seat c
  | release j => exact (Hall.release_places h j).seat c
  | join d node tg =>
      have other : c ≠ d := fun same => elsewhere (same ▸ rfl)
      simp [Hall.apply, Hall.join, Hall.seat, Hall.tell_door, Hall.note, Hall.setStation, Hall.setDoor,
        other]
  | tune d node tg => simp [Hall.apply, Hall.tune, Hall.seat, Hall.tell_door, Hall.setStation]
  | mute node d | unmute node d => simp [Hall.apply, Hall.seat, Hall.tell_door, Hall.setStation]
  | leave d =>
      have other : c ≠ d := fun same => elsewhere (same ▸ rfl)
      rw [Hall.apply, Hall.leave_seat, if_neg other]
  | reload cfg => exact absurd rfl (notReload cfg)

def Silent (h : Hall) : Prop :=
  -- No open connection has been told anything before it logs in.
  ∀ c, (h.door c).isSome → h.seat c = none → h.told c = []

theorem silent_apply {h : Hall} {m : Move} (seated : Seated h) (silent : Silent h)
    (allowed : Allowed h m) (notReload : ∀ cfg, m ≠ .reload cfg) : Silent (h.apply m) := by
  intro c opened empty
  by_cases own : m.conn = some c
  · cases m with
    | enter d =>
        obtain rfl : d = c := Option.some.inj own
        simp [Hall.apply]
    | join d node tg =>
        obtain rfl : d = c := Option.some.inj own
        rw [Hall.apply, Hall.join_seat allowed.1, if_pos rfl] at empty
        cases empty
    | leave d =>
        obtain rfl : d = c := Option.some.inj own
        have gone : (h.leave d).door d = none := by
          unfold Hall.leave
          cases h.seat d <;> simp
        simp [Hall.apply, gone] at opened
    | _ => cases own
  · have before : (h.door c).isSome := by
      cases door : h.door c with
      | none => simp [closed_apply own notReload door] at opened
      | some _ => rfl
    rw [seat_apply own notReload] at empty
    exact (Hall.untold_apply seated allowed notReload own
      ⟨before, empty, silent c before empty⟩).told

theorem conns_none {s : State} {c : Nat} : (hall s).door c = none ↔ s.conns c = none := by
  simp [hall]

theorem closed_step {s : State} (timed : Moment × Event) {c : Nat}
    (noReload : timed.2.loaded = none)
    (elsewhere : ∀ m ∈ moves (s.at timed.1) timed.2, m.conn ≠ some c) (closed : s.conns c = none) :
    (step s timed).conns c = none := by
  rw [← conns_none, hall_step]
  have away := guarded_moves s timed (P := fun m => m.conn ≠ some c)
    (by simp [Move.conn]) elsewhere
  exact Machine.run_invariant (P := fun g => g.door c = none) _
    (fun g m held ok => closed_apply ok.1 ok.2 held) (conns_none.mpr closed)
    (Machine.guarded_and _ away (noReload_moves noReload))

theorem seat_step {s : State} {timed : Moment × Event} {c : Nat} (noReload : timed.2.loaded = none)
    (elsewhere : ∀ m ∈ moves (s.at timed.1) timed.2, m.conn ≠ some c) :
    seatOf (step s timed) c = seatOf s c := by
  rw [← hall_seat, ← hall_seat, hall_step]
  have away := guarded_moves s timed (P := fun m => m.conn ≠ some c)
    (by simp [Move.conn]) elsewhere
  exact Machine.run_invariant (P := fun g => g.seat c = (hall s).seat c) _
    (fun g m held ok => (seat_apply ok.1 ok.2).trans held) rfl
    (Machine.guarded_and _ away (noReload_moves noReload))

theorem silent_step {s : State} {timed : Moment × Event} (seated : Seated (hall s))
    (noReload : timed.2.loaded = none) (silent : Silent (hall s)) :
    Silent (hall (step s timed)) := by
  rw [hall_step]
  refine (Machine.run_invariant (P := fun g => Seated g ∧ Silent g) _ ?_ ⟨seated, silent⟩
    (Machine.guarded_and _ (stepMoves_allowed s timed seated) (noReload_moves noReload))).2
  intro g m held ok
  exact ⟨Hall.seated_apply held.1 ok.1, silent_apply held.1 held.2 ok.1 ok.2⟩

theorem elsewhere_moves {s : State} {e : Event} {c : Nat} (elsewhere : e.conn ≠ some c) :
    ∀ m ∈ moves s e, m.conn ≠ some c := by
  intro m member same
  rcases conn_moves member with none | own
  · rw [none] at same
    cases same
  · exact elsewhere (own.symm.trans same)

theorem closed_moves {s : State} {e : Event} {c : Nat} (closed : s.conns c = none)
    (notOpen : ∀ challenge, e ≠ .wsOpen c challenge) : ∀ m ∈ moves s e, m.conn ≠ some c := by
  -- A message or a close on a connection that is not open does nothing.
  by_cases own : e.conn = some c
  · cases e with
    | wsOpen d challenge =>
        obtain rfl : d = c := Option.some.inj own
        exact absurd rfl (notOpen challenge)
    | wsMsg d frame draw =>
        obtain rfl : d = c := Option.some.inj own
        simp [moves, receiveMoves, closed]
    | close d =>
        obtain rfl : d = c := Option.some.inj own
        simp [moves, closeMoves, closed]
    | _ => cases own
  · exact elsewhere_moves own

theorem open_step {s : State} {m : Moment} {c : Nat} (challenge : Option (List Nat))
    (closed : s.conns c = none) : Untold (hall (step s (m, .wsOpen c challenge))) c := by
  have closed' : (s.at m).conns c = none := closed
  rw [hall_step]
  simp only [stepMoves, moves, openMoves, closed', Option.isSome_none, Bool.false_eq_true, if_false,
    run, List.foldl_cons]
  have entered : Untold (((hall s).apply (.advance m.elapsed)).apply (.enter c)) c :=
    ⟨by simp [Hall.apply], by simp [Hall.apply, Hall.seat], by simp [Hall.apply]⟩
  cases challenge with
  | some bytes => exact entered
  | none =>
      obtain ⟨opened, seat, told⟩ := entered
      refine ⟨?_, (Hall.seat_setDraining _ c c).trans seat, told⟩
      rw [Option.isNone_none, if_pos rfl]
      change (Hall.setDoor _ c _).door c |>.isSome
      rw [Hall.setDoor_door, if_pos rfl]
      simpa using opened

theorem close_step {s : State} {m : Moment} {c : Nat} : (step s (m, .close c)).conns c = none := by
  change (closeConn (s.at m) c).conns c = none
  unfold closeConn
  cases here : (s.at m).conns c with
  | none => exact here
  | some cs => simp

end Kerchunk.Reflectd
