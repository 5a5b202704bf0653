import Kerchunk.Reflectd.Slots

set_option autoImplicit false

/-!
# The daemon's sessions are the session fields

The one session that `State` keeps of a node, and the one state of a connection, follow the fields of
`Slots` through every event.
-/

namespace Kerchunk.Reflectd

open Link (Msg ErrCode Login Request)
open Machine (run run_nil run_cons)

/-- Which connection each node has, and which node each open connection has logged in as. -/
@[ext] structure Seating where
  cfg : Rcfg
  conn : Nat → Option Nat
  door : Nat → Option (Option Nat)

def Hall.seating (h : Hall) : Seating where
  cfg := h.cfg
  conn := fun k => (h.station k).conn
  door := fun c => (h.door c).map Door.seat

def Slots.seating (t : Slots) : Seating where
  cfg := t.cfg
  conn := fun k => (t.node k).c
  door := fun c => (t.conn c).map Peer.nodeIdx

namespace Seating

def clear (v : Seating) : Option Nat → Seating
  | none => v
  | some node => { v with conn := Function.update v.conn node none }

def setDoor (v : Seating) (c : Nat) (door : Option (Option Nat)) : Seating :=
  { v with door := Function.update v.door c door }

def apply (v : Seating) : Move → Seating
  | .enter c => v.setDoor c (some none)
  | .join c node _ =>
      { v.setDoor c ((v.door c).map fun _ => some node) with
        conn := Function.update v.conn node (some c) }
  | .leave c => (v.clear (v.door c).join).setDoor c none
  | .reload cfg => { v with cfg := cfg }
  | _ => v

end Seating

/-- The move leaves everyone where they are. -/
def Move.seated : Move → Bool
  | .enter _ | .join _ _ _ | .leave _ | .reload _ => false
  | _ => true

theorem seating_samePlaces {g h : Hall} (same : SamePlaces g h) : g.seating = h.seating := by
  ext1
  next => exact same.cfg
  next => exact funext same.conn
  next => rw [Hall.seating, same.door, Hall.seating]

theorem seating_tell (h : Hall) (c : Option Nat) (t : Told) : (h.tell c t).seating = h.seating := by
  simp only [Hall.seating, Hall.tell_cfg, Hall.tell_station, Hall.tell_door]

theorem seating_setStation (h : Hall) (node : Nat) (change : Station → Station)
    (stays : ∀ st, (change st).conn = st.conn) : (h.setStation node change).seating = h.seating := by
  ext1
  next => rfl
  next =>
    funext k
    simp only [Hall.seating, Hall.setStation_station]
    split
    next => exact stays _
    next => rfl
  next => rfl

theorem seating_setDoor (h : Hall) (c : Nat) (change : Door → Door)
    (stays : ∀ d, (change d).seat = d.seat) : (h.setDoor c change).seating = h.seating := by
  ext1
  next => rfl
  next => rfl
  next =>
    funext d
    simp only [Hall.seating, Hall.setDoor_door]
    split
    next same =>
      rw [Option.map_map, same]
      exact congrFun (congrArg Option.map (funext stays)) _
    next => rfl

theorem seating_apply (h : Hall) (m : Move) : (h.apply m).seating = h.seating.apply m := by
  cases m with
  | advance elapsed => rfl
  | enter c =>
    ext1
    next => rfl
    next => rfl
    next =>
      funext d
      by_cases same : d = c <;>
        simp [Hall.seating, Hall.apply, Seating.apply, Seating.setDoor, same]
  | drain c => exact seating_setDoor h c _ fun _ => rfl
  | join c node tg =>
    ext1
    next => exact Hall.tell_cfg _ _ _
    next =>
      funext k
      simp only [Hall.seating, Hall.apply, Hall.join_station, Seating.apply, Function.update_apply]
      split <;> rfl
    next =>
      funext d
      by_cases same : d = c <;>
        simp [Hall.seating, Hall.apply, Hall.join, Hall.tell_door, Hall.note, Hall.setStation,
          Hall.setDoor_door, Seating.apply, Seating.setDoor, same, Function.comp_def]
  | grant j k => exact seating_samePlaces (Hall.grant_places h j k)
  | release j => exact seating_samePlaces (Hall.release_places h j)
  | tune c node tg => exact (seating_tell _ _ _).trans (seating_setStation h node _ fun _ => rfl)
  | mute node c | unmute node c =>
    exact (seating_tell _ _ _).trans (seating_setStation h node _ fun _ => rfl)
  | leave c =>
    have at_ : (h.seating.door c).join = h.seat c := by
      simp only [Hall.seating, Hall.seat]
      cases h.door c <;> rfl
    rw [Seating.apply, at_]
    ext1
    next =>
      rw [Hall.apply, Hall.leave]
      cases h.seat c <;> rfl
    next =>
      funext k
      simp only [Hall.seating, Hall.apply, Hall.leave_station, Seating.setDoor]
      cases h.seat c with
      | none => rfl
      | some node =>
        by_cases same : k = node
        next => simp [Seating.clear, same]
        next => simp [Seating.clear, same, Ne.symm same]
    next =>
      funext d
      rw [Hall.apply, Hall.leave]
      cases h.seat c <;> by_cases same : d = c <;>
        simp [Hall.seating, Seating.setDoor, Seating.clear, Hall.setStation, same]
  | reload cfg =>
    have visited := Hall.visited_all cfg h h.cfg.nodes.length
    ext1
    next => rfl
    next => exact funext (Hall.reload_conn h cfg)
    next =>
      funext c
      have seat : ((h.reload cfg).door c).bind Door.seat = (h.door c).bind Door.seat := visited.seat c
      have opened : ((h.reload cfg).door c).isSome = (h.door c).isSome := visited.opened c
      simp only [Hall.seating, Hall.apply, Seating.apply]
      cases after : (h.reload cfg).door c with
      | none =>
        rw [after] at opened
        cases before : h.door c with
        | none => rfl
        | some d => simp [before] at opened
      | some d =>
        rw [after] at opened seat
        cases before : h.door c with
        | none => simp [before] at opened
        | some d' =>
          rw [before] at seat
          exact congrArg some seat

theorem seating_run (h : Hall) (ms : List Move) :
    (run Hall.apply h ms).seating = run Seating.apply h.seating ms := by
  induction ms generalizing h with
  | nil => rfl
  | cons m rest ih => rw [run_cons, ih, seating_apply, run_cons]

theorem run_seated (v : Seating) {ms : List Move} (stays : ∀ m ∈ ms, m.seated = true) :
    run Seating.apply v ms = v := by
  induction ms with
  | nil => rfl
  | cons m rest ih =>
    have same : v.apply m = v := by
      have stay := stays m (List.mem_cons_self ..)
      cases m <;> first | rfl | cases stay
    rw [run_cons, same]
    exact ih fun m member => stays m (List.mem_cons_of_mem _ member)

/-! ## Moves that leave everyone where they are -/

theorem seated_releases {n : Nat} {ms : List Move} (only : Releases n ms) :
    ∀ m ∈ ms, m.seated = true := by
  intro m member
  obtain ⟨j, _, rfl⟩ := only m member
  rfl

theorem seated_talk (s : State) (k : Nat) : ∀ m ∈ talkMoves s k, m.seated = true := by
  rw [talkMoves]
  split
  next => simp
  next =>
    rw [grantMoves]
    split <;> simp [Move.seated]

theorem seated_request (s : State) (c k : Nat) (request : Request) :
    ∀ m ∈ requestMoves s c k request, m.seated = true := by
  cases request with
  | setTg tg =>
    rw [requestMoves]
    split
    next => simp
    next =>
      intro m member
      rcases List.mem_append.mp member with old | tune
      next => exact seated_releases (releases_old s k tg.toNat) m old
      next =>
        obtain rfl := List.mem_singleton.mp tune
        rfl
  | quality lossPct =>
    rw [requestMoves]
    split <;> simp [Move.seated]
  | simulateTalkStart => exact seated_talk s k
  | simulateTalkEnd =>
    rw [requestMoves]
    split
    next => simp
    next j onTg => exact seated_releases (releases_held s k (rcfgTgIdx_some onTg).1)
  | _ => simp [requestMoves]

theorem seated_datagram (s : State) (d : Datagram) : ∀ m ∈ datagramMoves s d, m.seated = true := by
  rw [datagramMoves]
  split
  next =>
    split
    next =>
      rw [authFailMoves]
      split
      next => simp
      next =>
        split
        next => split <;> simp [Move.seated]
        next => simp
    next k _ _ =>
      split
      next => simp
      next => exact seated_talk s k
  next => simp

theorem seated_admin (s : State) (nodeId : Option String) (action : NodeAction) :
    ∀ m ∈ adminMoves s nodeId action, m.seated = true := by
  rw [adminMoves]
  split
  next => simp
  next =>
    cases action with
    | kick reason => cases (s.nodeRt _).session <;> simp [Move.seated]
    | mute retryInS => simp [Move.seated]
    | unmute => simp [Move.seated]

/-! ## The fields follow -/

theorem seating_conn {s : State} {t : Slots} (same : t.seating = (hall s).seating) (c : Nat) :
    (t.conn c).map Peer.nodeIdx = (s.conns c).map Conn.nodeIdx := by
  have door := congrFun (congrArg Seating.door same) c
  simpa [Slots.seating, Hall.seating, hall, Option.map_map, Function.comp_def, Conn.door] using door

theorem loginCheck_seating {s : State} {t : Slots} (paired : t.Paired)
    (same : t.seating = (hall s).seating) (body : Login) (draw : LoginDraw) :
    t.loginCheck body draw = loginCheck s body draw := by
  have cfg : t.cfg = s.cfg := congrArg Seating.cfg same
  have connected (k : Nat) : (t.node k).connected = (s.nodeRt k).connected := by
    have conn : (t.node k).c = (s.nodeRt k).session.map Session.c :=
      congrFun (congrArg Seating.conn same) k
    rw [paired.marked, conn, Option.isSome_map, NodeRt.connected]
  rw [Slots.loginCheck, loginCheck]
  simp only [cfg, connected]

theorem seating_setConn (t : Slots) (c : Nat) (peer : Option Peer) :
    (t.setConn c peer).seating = t.seating.setDoor c (peer.map Peer.nodeIdx) := by
  ext1
  next => rfl
  next => rfl
  next =>
    funext d
    by_cases same : d = c <;> simp [Slots.seating, Slots.setConn, Seating.setDoor, same]

theorem seating_open {s : State} {t : Slots} (same : t.seating = (hall s).seating) (c : Nat)
    (challenge : Option (List Nat)) :
    (t.wsOpen c).seating = run Seating.apply t.seating (openMoves s c challenge) := by
  have conn := seating_conn same c
  rw [Slots.wsOpen, openMoves]
  cases here : t.conn c with
  | some cs =>
    rw [here, Option.map_some, eq_comm, Option.map_eq_some_iff] at conn
    obtain ⟨cs', there, _⟩ := conn
    rw [there]
    rfl
  | none =>
    rw [here, Option.map_none, eq_comm, Option.map_eq_none_iff] at conn
    simp only [conn, Option.isSome_none, Bool.false_eq_true, if_false, run_cons]
    rw [seating_setConn, run_seated]
    next => rfl
    next => split <;> simp [Move.seated]

theorem seating_login {s : State} {t : Slots} (paired : t.Paired)
    (same : t.seating = (hall s).seating) {c : Nat} {cs : Peer} (here : t.conn c = some cs)
    (body : Login) (draw : LoginDraw) :
    (t.handleLogin c body draw).seating = run Seating.apply t.seating
      (match loginCheck s body draw with
        | .error _ => [.drain c]
        | .ok a => [.join c a.nodeIdx a.tg]) := by
  rw [Slots.handleLogin, loginCheck_seating paired same]
  cases loginCheck s body draw with
  | error denial => rfl
  | ok a =>
    have door : t.seating.door c = some cs.nodeIdx := by simp [Slots.seating, here]
    simp only [run_cons, run_nil, Seating.apply, door, Option.map_some]
    ext1
    next => rfl
    next =>
      funext k
      simp only [Slots.seating, Slots.setNode_node, Function.update_apply]
      split <;> rfl
    next =>
      have door := congrArg Seating.door (seating_setConn t c (some ⟨.authenticated, some a.nodeIdx⟩))
      exact door

theorem seating_receive {s : State} {t : Slots} (paired : t.Paired)
    (same : t.seating = (hall s).seating) (c : Nat) (frame : Frame) (draw : LoginDraw) :
    (t.receive c frame draw).seating =
      run Seating.apply t.seating (receiveMoves s c frame draw) := by
  have conn := seating_conn same c
  rw [Slots.receive, receiveMoves]
  cases here : t.conn c with
  | none =>
    rw [here, Option.map_none, eq_comm, Option.map_eq_none_iff] at conn
    rw [conn]
    rfl
  | some cs =>
    rw [here, Option.map_some, eq_comm, Option.map_eq_some_iff] at conn
    obtain ⟨cs', there, index⟩ := conn
    have admitted := paired.admitted c cs here
    by_cases long : Link.maxMsg < frame.len
    next =>
      simp only [there, if_pos long]
      rfl
    next =>
      simp only [there, if_neg long]
      unfold messageMoves
      cases state : cs'.state with
      | awaitingLogin =>
        have waiting : cs.state = .awaitingLogin := by
          cases at_ : cs.state with
          | awaitingLogin => rfl
          | authenticated =>
            rw [← index] at admitted
            exact absurd (by simp [Conn.nodeIdx, state]) (admitted.mp at_)
        cases frame.request with
        | login body =>
          simp only [waiting]
          exact seating_login paired same here body draw
        | untyped =>
          simp only
          split <;> rfl
        | _ => rfl
      | authenticated k =>
        have seated : cs.state = .authenticated := by
          rw [← index] at admitted
          exact admitted.mpr (by simp [Conn.nodeIdx, state])
        cases frame.request with
        | login body => simp only [seated, run_cons, run_nil, Seating.apply]
        | untyped =>
          simp only
          split <;> rfl
        | _ =>
          simp only
          exact (run_seated t.seating (seated_request s c k _)).symm

theorem seating_close {s : State} {t : Slots} (same : t.seating = (hall s).seating) (c : Nat) :
    (t.close c).seating = run Seating.apply t.seating (closeMoves s c) := by
  have conn := seating_conn same c
  rw [Slots.close, closeMoves]
  cases here : t.conn c with
  | none =>
    rw [here, Option.map_none, eq_comm, Option.map_eq_none_iff] at conn
    rw [conn]
    rfl
  | some cs =>
    have left : ((t.clearNode cs.nodeIdx).setConn c none).seating = t.seating.apply (.leave c) := by
      have door : t.seating.door c = some cs.nodeIdx := by simp [Slots.seating, here]
      have cleared : (t.clearNode cs.nodeIdx).seating = t.seating.clear cs.nodeIdx := by
        cases cs.nodeIdx with
        | none => rfl
        | some idx =>
          ext1
          next => rfl
          next =>
            funext k
            simp only [Slots.seating, Slots.clearNode, Slots.setNode_node, Seating.clear,
              Function.update_apply]
            split <;> rfl
          next => rfl
      rw [seating_setConn, cleared, Seating.apply, door]
      rfl
    rw [here, Option.map_some, eq_comm, Option.map_eq_some_iff] at conn
    obtain ⟨cs', there, _⟩ := conn
    simp only [there]
    cases cs'.state with
    | awaitingLogin => exact left
    | authenticated k =>
      simp only
      rw [Machine.run_append, run_seated t.seating (seated_releases (releases_allOf s k _))]
      exact left

theorem seating_handle {s : State} {t : Slots} (paired : t.Paired)
    (same : t.seating = (hall s).seating) (e : Event) :
    (t.handle e).seating = (hall (handle s e)).seating := by
  rw [hall_handle, seating_run, ← same]
  cases e with
  | wsOpen c challenge => exact seating_open same c challenge
  | wsMsg c frame draw => exact seating_receive paired same c frame draw
  | close c => exact seating_close same c
  | datagram d => exact (run_seated t.seating (seated_datagram s d)).symm
  | floorTick => exact (run_seated t.seating (seated_releases (releases_tick s))).symm
  | keepaliveTick => rfl
  | reload loaded => cases loaded <;> rfl
  | admin nodeId action => exact (run_seated t.seating (seated_admin s nodeId action)).symm
  | adminReleaseFloor tg =>
    refine (run_seated t.seating ?_).symm
    cases rcfgTgIdx s.cfg (tg % 65536).toNat <;> simp [moves, Move.seated]

/-- The daemon's sessions are what the fields say, after every run, reloads included. -/
theorem sessions_follow (cfg : Rcfg) (bootMs : Nat) (inputs : List (Moment × Event)) :
    (run Slots.handle (.init cfg) (inputs.map Prod.snd)).seating =
      (hall (run step (.init cfg bootMs) inputs)).seating := by
  have follows : ∀ s t, t.Paired → t.seating = (hall s).seating →
      (run Slots.handle t (inputs.map Prod.snd)).seating = (hall (run step s inputs)).seating := by
    induction inputs with
    | nil => exact fun s t _ same => same
    | cons timed rest ih =>
      intro s t paired same
      have next := seating_handle (s := s.at timed.1) paired same timed.2
      exact ih (step s timed) (t.handle timed.2) (Slots.handle_paired paired timed.2) next
  exact follows _ _ (Slots.init_paired cfg) rfl

end Kerchunk.Reflectd
