import Kerchunk.Reflectd.Identity
import Kerchunk.Reflectd.Passive
import Kerchunk.Reflectd.Seating

set_option autoImplicit false

/-!
# Lifelines

What a connection's keepalive and its login look at, apart from its seat. Few events touch it.
-/

namespace Kerchunk.Reflectd

open Link (Msg ErrCode Login Request)
open Machine (run run_nil run_cons)

def lifelines (s : State) (c : Nat) : Option Lifeline :=
  (s.conns c).map Conn.lifeline

/-- Every lifeline and the clock stay as they are, and a connection that drains goes on draining. -/
def KeepsLines (before after : State) : Prop :=
  lifelines after = lifelines before ∧ after.nowMs = before.nowMs ∧
    ∀ c, isDraining before c = true → isDraining after c = true

namespace KeepsLines

variable {r s t : State}

theorem refl (s : State) : KeepsLines s s := ⟨rfl, rfl, fun _ => id⟩

theorem trans (first : KeepsLines r s) (second : KeepsLines s t) : KeepsLines r t :=
  ⟨second.1.trans first.1, second.2.1.trans first.2.1,
    fun c drains => second.2.2 c (first.2.2 c drains)⟩

end KeepsLines

variable (s : State)

theorem lines_setConn (d : Nat) {change : Conn → Conn}
    (keeps : ∀ cs, (change cs).lifeline = cs.lifeline)
    (drains : ∀ cs, cs.isDraining = true → (change cs).isDraining = true) :
    KeepsLines s (s.setConn d change) := by
  refine ⟨funext fun c => ?_, rfl, fun c => ?_⟩
  all_goals
    unfold State.setConn
    by_cases at_ : c = d
  next =>
    subst at_
    cases here : s.conns c <;> simp [lifelines, here, keeps]
  next => simp [lifelines, at_]
  next =>
    subst at_
    cases here : s.conns c with
    | none => simp [isDraining, here]
    | some cs => simpa [isDraining, here] using drains cs
  next => simp [isDraining, at_]

theorem lines : Passive KeepsLines where
  refl := KeepsLines.refl
  trans := KeepsLines.trans
  send s _ _ := KeepsLines.refl s
  note s _ := KeepsLines.refl s
  setTg s _ _ := KeepsLines.refl s
  setConn s c _ keeps drains := lines_setConn s c keeps drains
  setNode s _ _ _ := KeepsLines.refl s
  reconfigured s _ _ _ := KeepsLines.refl s

theorem lines_handleLogin (d : Nat) (body : Login) (draw : LoginDraw) :
    KeepsLines s (handleLogin s d body draw) := by
  unfold handleLogin
  cases loginCheck s body draw with
  | error denial => exact lines.sendThenClose s d _
  | ok a =>
      have seated : KeepsLines s (s.setConn d fun cs => { cs with state := .authenticated a.nodeIdx }) :=
        lines_setConn s d (fun _ => rfl) fun _ => id
      exact seated.trans (lines.broadcastRosterOf _ a.tg)

theorem lines_handleQuality (d k : Nat) (lossPct : Rat) :
    KeepsLines s (handleQuality s d k lossPct) := by
  unfold handleQuality
  simp only
  refine KeepsLines.trans ?_ (lines.suggestBitrate _ k lossPct)
  split <;> exact KeepsLines.refl s

/-- A message is traffic; what its handler does leaves the lifelines alone. -/
theorem lines_handleMessage (d : Nat) (cs : Conn) (request : Request) (draw : LoginDraw) :
    KeepsLines (s.setConn d fun cs => cs.heard s.nowMs) (handleMessage s d cs request draw) := by
  by_cases report : ∃ lossPct, request = .quality lossPct
  next =>
    obtain ⟨lossPct, rfl⟩ := report
    unfold handleMessage
    cases cs.state with
    | awaitingLogin => exact lines.sendThenClose _ d _
    | authenticated k => exact lines_handleQuality _ d k lossPct
  next =>
    exact lines.handleMessage s d (fun lossPct same => report ⟨lossPct, same⟩)
      fun body _ _ => lines_handleLogin _ d body draw

theorem lines_admin (nodeId : Option String) (action : NodeAction) :
    KeepsLines s (adminNodeAction s nodeId action).1 := by
  unfold adminNodeAction
  cases nodeId with
  | none => exact KeepsLines.refl s
  | some id =>
      simp only
      cases rcfgNodeIdx s.cfg id with
      | none => exact KeepsLines.refl s
      | some k =>
          cases action with
          | kick reason =>
              simp only [actOnNode]
              split
              next session _ => exact lines.sendThenClose s session.c _
              next => exact KeepsLines.refl s
          | mute retryInS => exact lines.sendNode (muteNode s k "admin_action") k _
          | unmute => exact lines.sendNode (s.setNode k _) k _

theorem lines_leaveNode (k : Nat) : KeepsLines s (leaveNode s k) :=
  KeepsLines.trans (lines.releaseAllOf s k) (lines.broadcastRosterOf ((releaseAllOf s k).setNode k _) _)

/-! ## One event -/

/-- What an event makes of the lifeline of connection `c`. -/
def Event.lifeline (nowMs kaliveMs : Int) (c : Nat) (conn : Option Conn) : Event → Option Lifeline
  | .wsOpen d challenge =>
      if d = c ∧ conn = none then
        some { Conn.fresh.lifeline with
          challenge := challenge.getD []
          lastTrafficMs := if challenge.isSome then nowMs else 0 }
      else conn.map Conn.lifeline
  | .wsMsg d frame _ =>
      if d = c ∧ frame.len ≤ Link.maxMsg then conn.map fun cs => (cs.heard nowMs).lifeline
      else conn.map Conn.lifeline
  | .close d => if d = c then none else conn.map Conn.lifeline
  | .keepaliveTick => conn.map fun cs => (keepaliveConn nowMs kaliveMs cs).1.lifeline
  | _ => conn.map Conn.lifeline

theorem lifeline_open (d : Nat) (challenge : Option (List Nat)) (c : Nat) :
    lifelines (openConn s d challenge) c =
      (Event.wsOpen d challenge).lifeline s.nowMs (s.cfg.keepaliveS * 1000) c (s.conns c) := by
  have other (here : s.conns d ≠ none) : ¬ (d = c ∧ s.conns c = none) := by
    rintro ⟨rfl, closed⟩
    exact here closed
  rw [openConn, Event.lifeline]
  cases here : s.conns d with
  | some cs => rw [if_neg (other (by simp [here])), lifelines]
  | none =>
    by_cases at_ : d = c
    next =>
      subst at_
      simp only [here, and_self, if_true]
      cases challenge <;>
        simp [lifelines, sendHello, State.sendThenClose, State.setConn, State.send, Conn.lifeline,
          Conn.fresh]
    next =>
      rw [if_neg (by simp [at_])]
      cases challenge <;>
        simp [lifelines, sendHello, State.sendThenClose, State.setConn, State.send, Ne.symm at_]

theorem lifeline_message (d : Nat) (frame : Frame) (draw : LoginDraw) (c : Nat) :
    lifelines (receive s d frame draw) c =
      (Event.wsMsg d frame draw).lifeline s.nowMs (s.cfg.keepaliveS * 1000) c (s.conns c) := by
  rw [receive, Event.lifeline]
  cases here : s.conns d with
  | none =>
    by_cases at_ : d = c
    next =>
      subst at_
      simp [lifelines, here]
    next => simp [lifelines, at_]
  | some cs =>
    by_cases long : Link.maxMsg < frame.len
    next =>
      simp only [if_pos long, Nat.not_le.mpr long, and_false, if_false]
      exact congrFun (lines.sendThenClose s d _).1 c
    next =>
      simp only [if_neg long, Nat.not_lt.mp long, and_true]
      refine (congrFun (lines_handleMessage s d cs frame.request draw).1 c).trans ?_
      by_cases at_ : d = c
      next =>
        subst at_
        simp [lifelines, State.setConn, here]
      next => simp [lifelines, State.setConn, at_, Ne.symm at_]

theorem lifeline_close (d c : Nat) :
    lifelines (closeConn s d) c =
      (Event.close d).lifeline s.nowMs (s.cfg.keepaliveS * 1000) c (s.conns c) := by
  rw [closeConn, Event.lifeline]
  cases here : s.conns d with
  | none =>
    by_cases at_ : d = c
    next =>
      subst at_
      simp [lifelines, here]
    next => simp [lifelines, at_]
  | some cs =>
    have left : KeepsLines s ((cs.nodeIdx.map (leaveNode s)).getD s) := by
      cases cs.nodeIdx with
      | none => exact KeepsLines.refl s
      | some k => exact lines_leaveNode s k
    by_cases at_ : d = c
    next =>
      subst at_
      simp [lifelines]
    next =>
      have same := congrFun left.1 c
      rw [if_neg at_]
      simpa [lifelines, Ne.symm at_] using same

/-- Opening, messages, closing and the keepalive are all that touches a lifeline. -/
theorem lifeline_step (timed : Moment × Event) (c : Nat) :
    lifelines (step s timed) c =
      timed.2.lifeline (s.nowMs + timed.1.elapsed) (s.cfg.keepaliveS * 1000) c (s.conns c) := by
  obtain ⟨m, e⟩ := timed
  cases e with
  | wsOpen d challenge => exact lifeline_open (s.at m) d challenge c
  | wsMsg d frame draw => exact lifeline_message (s.at m) d frame draw c
  | close d => exact lifeline_close (s.at m) d c
  | datagram d => exact congrFun (lines.audioPacket (s.at m) d).1 c
  | floorTick => exact congrFun (lines.floorTick (s.at m)).1 c
  | keepaliveTick =>
      simp [step, handle, keepaliveTick, lifelines, Event.lifeline, State.at, Function.comp_def]
  | reload loaded => exact congrFun (lines.doReload (s.at m) loaded).1 c
  | admin nodeId action => exact congrFun (lines_admin (s.at m) nodeId action).1 c
  | adminReleaseFloor tg => exact congrFun (lines.adminReleaseFloor (s.at m) tg).1 c

theorem conns_close (m : Moment) (c : Nat) : (step s (m, .close c)).conns c = none := by
  have shut := lifeline_step s (m, .close c) c
  rwa [Event.lifeline, if_pos rfl, lifelines, Option.map_eq_none_iff] at shut

theorem nowMs_step (timed : Moment × Event) :
    (step s timed).nowMs = s.nowMs + timed.1.elapsed := by
  obtain ⟨m, e⟩ := timed
  cases e with
  | wsOpen d challenge =>
    simp only [step, handle, openConn]
    cases (s.at m).conns d <;> cases challenge <;> rfl
  | wsMsg d frame draw =>
    simp only [step, handle, receive]
    split
    next => rfl
    next =>
      split
      next => rfl
      next => exact (lines_handleMessage (s.at m) d _ _ draw).2.1
  | close d =>
    simp only [step, handle, closeConn]
    split
    next => rfl
    next cs _ =>
      cases cs.nodeIdx with
      | none => rfl
      | some k => exact (lines_leaveNode (s.at m) k).2.1
  | datagram d => exact (lines.audioPacket (s.at m) d).2.1
  | floorTick => exact (lines.floorTick (s.at m)).2.1
  | keepaliveTick => rfl
  | reload loaded => exact (lines.doReload (s.at m) loaded).2.1
  | admin nodeId action => exact (lines_admin (s.at m) nodeId action).2.1
  | adminReleaseFloor tg => exact (lines.adminReleaseFloor (s.at m) tg).2.1

theorem drains_conn {s : State} {c : Nat} : isDraining s c = true ↔
    ∃ cs, s.conns c = some cs ∧ cs.isDraining = true := by
  simp [isDraining, Option.any_eq_true]

/-- A connection drains until it is closed. -/
theorem drains_step {s : State} {timed : Moment × Event} {c : Nat}
    (opened : (step s timed).conns c ≠ none) (drains : isDraining s c = true) :
    isDraining (step s timed) c = true := by
  obtain ⟨m, e⟩ := timed
  have start : isDraining (s.at m) c = true := drains
  obtain ⟨cs, here, draining⟩ := drains_conn.mp drains
  cases e with
  | wsOpen d challenge =>
    simp only [step, handle, openConn]
    cases there : (s.at m).conns d with
    | some _ => exact start
    | none =>
      have other : c ≠ d := by
        rintro rfl
        cases here.symm.trans there
      cases challenge <;>
        simpa [sendHello, State.sendThenClose, State.setConn, State.send, isDraining, other] using start
  | wsMsg d frame draw =>
    simp only [step, handle, receive]
    split
    next => exact start
    next =>
      split
      next => exact (lines.sendThenClose (s.at m) d _).2.2 c start
      next =>
        refine (lines_handleMessage (s.at m) d _ _ draw).2.2 c ?_
        by_cases at_ : c = d
        next =>
          subst at_
          have there : (s.at m).conns c = some cs := here
          simp [isDraining, State.setConn, there, Conn.heard, draining]
        next => simpa [isDraining, State.setConn, at_] using start
  | close d =>
    have other : c ≠ d := by
      rintro rfl
      exact opened (conns_close s m c)
    simp only [step, handle, closeConn]
    split
    next => exact start
    next cs' _ =>
      have left : isDraining ((cs'.nodeIdx.map (leaveNode (s.at m))).getD (s.at m)) c = true := by
        cases cs'.nodeIdx with
        | none => exact start
        | some k => exact (lines_leaveNode (s.at m) k).2.2 c start
      simpa [isDraining, other] using left
  | keepaliveTick =>
    refine drains_conn.mpr ⟨(keepaliveConn (s.at m).nowMs ((s.at m).cfg.keepaliveS * 1000) cs).1, ?_, ?_⟩
    next =>
      have there : (s.at m).conns c = some cs := here
      simp [step, handle, keepaliveTick, there]
    next => simp [keepaliveConn, draining]
  | datagram d => exact (lines.audioPacket (s.at m) d).2.2 c start
  | floorTick => exact (lines.floorTick (s.at m)).2.2 c start
  | reload loaded => exact (lines.doReload (s.at m) loaded).2.2 c start
  | admin nodeId action => exact (lines_admin (s.at m) nodeId action).2.2 c start
  | adminReleaseFloor tg => exact (lines.adminReleaseFloor (s.at m) tg).2.2 c start

/-! ## Seats change at logins -/

theorem seating_handle_eq (s : State) (timed : Moment × Event) :
    (hall (step s timed)).seating =
      run Seating.apply (hall s).seating (moves (s.at timed.1) timed.2) := by
  rw [hall_step, seating_run, stepMoves, run_cons]
  rfl

theorem seatOf_seating (s : State) (c : Nat) : seatOf s c = ((hall s).seating.door c).join := by
  rw [← hall_seat, Hall.seat, Hall.seating]
  cases here : (hall s).door c <;> simp [here]

theorem seatOf_closed {s : State} {c : Nat} (closed : s.conns c = none) : seatOf s c = none := by
  simp [seatOf, closed]

theorem seatOf_same (s : State) (m : Moment) (e : Event)
    (stays : ∀ move ∈ moves (s.at m) e, move.seated = true) (c : Nat) :
    seatOf (step s (m, e)) c = seatOf s c := by
  rw [seatOf_seating, seating_handle_eq, run_seated _ stays, ← seatOf_seating]

theorem seatOf_open (s : State) (m : Moment) (d : Nat) (drawn : Option (List Nat)) (c : Nat) :
    seatOf (step s (m, .wsOpen d drawn)) c = seatOf s c := by
  cases here : s.conns d with
  | some cs => exact seatOf_same s m _ (by simp [moves, openMoves, State.at, here]) c
  | none =>
    rw [seatOf_seating, seating_handle_eq]
    simp only [moves, openMoves, State.at, here, Option.isSome_none, Bool.false_eq_true, if_false,
      run_cons]
    rw [run_seated _ (by split <;> simp [Move.seated]), Seating.apply, seatOf_seating]
    by_cases at_ : c = d
    next =>
      subst at_
      simp [Seating.setDoor, Hall.seating, hall, here]
    next => simp [Seating.setDoor, at_]

theorem door_leave (v : Seating) {c d : Nat} (other : c ≠ d) :
    (v.apply (.leave d)).door c = v.door c := by
  simp only [Seating.apply, Seating.setDoor, Function.update_of_ne other]
  cases (v.door d).join <;> rfl

theorem seatOf_close (s : State) (m : Moment) {c d : Nat} (other : c ≠ d) :
    seatOf (step s (m, .close d)) c = seatOf s c := by
  rw [seatOf_seating, seating_handle_eq, seatOf_seating]
  cases here : s.conns d with
  | none => simp only [moves, closeMoves, State.at, here, run_nil]
  | some cs =>
    simp only [moves, closeMoves, State.at, here]
    cases state : cs.state with
    | awaitingLogin => simp only [run_cons, run_nil, door_leave _ other]
    | authenticated node =>
      have stays := seated_releases (releases_allOf (s.at m) node s.cfg.tgs.length)
      simp only [Machine.run_append, run_cons, run_nil, door_leave _ other]
      rw [run_seated]
      exact stays

/-- A message that is no login leaves the seats alone. -/
theorem seated_message {s : State} {d : Nat} {cs : Conn} {request : Request} {draw : LoginDraw}
    (stays : ∀ body a, request = .login body → cs.state = .awaitingLogin →
      loginCheck s body draw ≠ .ok a) :
    ∀ move ∈ messageMoves s d cs request draw, move.seated = true := by
  unfold messageMoves
  cases state : cs.state with
  | awaitingLogin =>
    cases request with
    | login body =>
      simp only
      split
      next => simp [Move.seated]
      next a accepted => exact absurd accepted (stays body a rfl state)
    | untyped =>
      simp only
      split <;> simp [Move.seated]
    | _ => simp [Move.seated]
  | authenticated node =>
    cases request with
    | login body => simp [Move.seated]
    | untyped =>
      simp only
      split <;> simp [Move.seated]
    | _ => exact seated_request s d node _

theorem seatOf_login {s : State} {m : Moment} {d : Nat} {cs : Conn} {frame : Frame} {draw : LoginDraw}
    {body : Login} {a : Admission} (here : s.conns d = some cs) (waiting : cs.state = .awaitingLogin)
    (asked : frame.request = .login body) (fits : frame.len ≤ Link.maxMsg)
    (accepted : loginCheck (s.at m) body draw = .ok a) (c : Nat) :
    seatOf (step s (m, .wsMsg d frame draw)) c = if d = c then some a.nodeIdx else seatOf s c := by
  have seated : seatOf (step s (m, .wsMsg d frame draw)) c =
      (((hall s).seating.apply (.join d a.nodeIdx a.tg)).door c).join := by
    have accepted' := accepted
    simp only [State.at] at accepted'
    rw [seatOf_seating, seating_handle_eq]
    simp only [moves, receiveMoves, State.at, here, if_neg (Nat.not_lt.mpr fits), messageMoves, asked,
      waiting, accepted', run_cons, run_nil]
  rw [seated, Seating.apply]
  split
  next at_ =>
    subst at_
    have door : (hall s).seating.door d = some none := by
      simp [Hall.seating, hall, here, Conn.door, Conn.nodeIdx, waiting]
    simp [door, Seating.setDoor]
  next other => simp [seatOf_seating, Seating.setDoor, Ne.symm other]

theorem seatOf_message (s : State) (m : Moment) (d : Nat) (frame : Frame) (draw : LoginDraw)
    (c : Nat) :
    seatOf (step s (m, .wsMsg d frame draw)) c = seatOf s c ∨
      d = c ∧ seatOf s c = none ∧ ∃ body a, frame.request = .login body ∧
        loginCheck (s.at m) body draw = .ok a ∧
          seatOf (step s (m, .wsMsg d frame draw)) c = some a.nodeIdx := by
  cases here : s.conns d with
  | none => exact Or.inl (seatOf_same s m _ (by simp [moves, receiveMoves, State.at, here]) c)
  | some cs =>
    by_cases joins : ∃ body a, frame.request = .login body ∧ cs.state = .awaitingLogin ∧
        loginCheck (s.at m) body draw = .ok a ∧ frame.len ≤ Link.maxMsg
    next =>
      obtain ⟨body, a, asked, waiting, accepted, fits⟩ := joins
      have seated := seatOf_login here waiting asked fits accepted c
      split at seated
      next at_ =>
        subst at_
        exact Or.inr ⟨rfl, by simp [seatOf, here, Conn.nodeIdx, waiting], body, a, asked, accepted, seated⟩
      next => exact Or.inl seated
    next =>
      refine Or.inl (seatOf_same s m _ ?_ c)
      simp only [moves, receiveMoves, State.at, here]
      split
      next => simp [Move.seated]
      next short =>
        exact seated_message fun body a asked waiting accepted =>
          joins ⟨body, a, asked, waiting, accepted, Nat.not_lt.mp short⟩

/-- A connection that stays open changes its seat only by logging in. -/
theorem seatOf_step {s : State} {m : Moment} {e : Event} {c : Nat}
    (opened : (step s (m, e)).conns c ≠ none) :
    seatOf (step s (m, e)) c = seatOf s c ∨ seatOf s c = none ∧ ∃ frame draw body a,
      e = .wsMsg c frame draw ∧ frame.request = .login body ∧ loginCheck (s.at m) body draw = .ok a ∧
        seatOf (step s (m, e)) c = some a.nodeIdx := by
  have quiet (stays : ∀ move ∈ moves (s.at m) e, move.seated = true) := seatOf_same s m e stays c
  cases e with
  | wsOpen d drawn => exact Or.inl (seatOf_open s m d drawn c)
  | close d =>
    have other : c ≠ d := by
      rintro rfl
      exact opened (conns_close s m c)
    exact Or.inl (seatOf_close s m other)
  | wsMsg d frame draw =>
    rcases seatOf_message s m d frame draw c with same | ⟨rfl, empty, body, a, asked, accepted, node⟩
    next => exact Or.inl same
    next => exact Or.inr ⟨empty, frame, draw, body, a, rfl, asked, accepted, node⟩
  | datagram d => exact Or.inl (quiet (seated_datagram (s.at m) d))
  | floorTick => exact Or.inl (quiet (seated_releases (releases_tick (s.at m))))
  | keepaliveTick => exact Or.inl (quiet (by simp [moves]))
  | reload loaded =>
    left
    rw [seatOf_seating, seating_handle_eq, seatOf_seating]
    cases loaded <;> rfl
  | admin nodeId action => exact Or.inl (quiet (seated_admin (s.at m) nodeId action))
  | adminReleaseFloor tg =>
    refine Or.inl (quiet ?_)
    simp only [moves]
    cases rcfgTgIdx (s.at m).cfg (tg % 65536).toNat <;> simp [Move.seated]

end Kerchunk.Reflectd
