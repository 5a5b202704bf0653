import Kerchunk.Caller.Access

set_option autoImplicit false

/-!
# Login sessions (`modules/mod_caller.c`)

The session of a user who logged in, over key-ups, digits on and off the air, logouts, expiry,
reloads of the configuration and of the module itself.
-/

namespace Kerchunk.Caller.Sessions

open Kerchunk.Config (KerchunkConfig)
open Kerchunk.Core (Bus Slot TimerEntry maxDepth firstSlot)
open Kerchunk.Core.TimerTable
open Kerchunk.Repeater (Callback)

/-- `receiving` is what the core was told of COR last. -/
structure Program where
  sys : System
  env : Station
  receiving : Bool
  loaded : Bool

inductive Input where
  | event (i : Caller.Input)
  | configure (file : KerchunkConfig) (users : List User)
  | unload
  | load

def detached (env : Station) : Bus System Evt Module :=
  -- The module has unsubscribed.
  { bus env with subscribers := fun evt => ((bus env).subscribers evt).filter (· ≠ .caller) }

def bare (p : Program) : Caller.Input → System
  | .corAssert => (detached p.env).fire maxDepth .corAssert p.sys
  | .corDrop => (detached p.env).fire maxDepth .corDrop p.sys
  -- The module's command went with it.
  | .dtmfDigit _ | .logoutCommand => p.sys
  | other => Caller.step p.env p.sys other

def event (p : Program) (i : Caller.Input) : System :=
  if p.loaded then Caller.step p.env p.sys i else bare p i

def receivingAfter (receiving : Bool) : Caller.Input → Bool
  | .corAssert => true
  | .corDrop => false
  | _ => receiving

def reconfigured (env : Station) (file : KerchunkConfig) (users : List User) : Station :=
  callerConfigure file users env.corAssertOrder env.corDropOrder env.corAssertPerm env.corDropPerm

theorem repeaterFirst : [Module.repeater, .caller].Perm [.repeater, .caller] :=
  List.Perm.refl _

def loadedLast (env : Station) : Station where
  -- The module subscribes after the repeater, and has read no configuration yet.
  aniWindowMs := 1000
  loginTimeoutMs := 1800000
  logoutCode := []
  users := env.users
  corAssertOrder := [.repeater, .caller]
  corDropOrder := [.repeater, .caller]
  corAssertPerm := repeaterFirst
  corDropPerm := repeaterFirst

def callerUnload (s : System) : System :=
  let s := sessionClear (s.cancelTimer s.caller.aniTimer)
  -- `dlclose` drops the module's variables.
  { s with caller := init }

def step (p : Program) : Input → Program
  | .event i => { p with sys := event p i, receiving := receivingAfter p.receiving i }
  | .configure file users =>
    { p with
      env := reconfigured p.env file users
      sys := onRepeater p.sys fun r => Repeater.step r (.configure file) }
  | .unload => if p.loaded then { p with sys := callerUnload p.sys, loaded := false } else p
  | .load => if p.loaded then p else { p with env := loadedLast p.env, loaded := true }

def boot (file : KerchunkConfig) (hasTts : Bool) (env : Station) : Program where
  sys := start file hasTts
  env := env
  receiving := false
  loaded := true

/-! ## What is asked for, and what it takes -/

def dialsLogin (env : Station) (c : State) (d : Char) (u : User) : Prop :=
  -- The digit completes the user's login code, and nobody is logged in.
  takesAni c d = false ∧ d = '#' ∧ c.loginActive = true ∧ c.sessionUserId = 0 ∧
    lookupByLogin env c.loginBuf = some u

/-- COR_ASSERT has the module fire CALLER_IDENTIFIED, once and last, whoever subscribed to it, for
the user of the session, who is the current caller from then on. -/
structure Reidentifies (env : Station) (s : System) : Prop where
  fires : ∀ t : System, t.caller = s.caller → ∃ before, ∀ fire,
    onCorAssert env fire t = fire (.callerIdentified s.caller.sessionUserId .dtmfLogin) before
  noted : (Caller.step env s .corAssert).identifiedSince = true
  current : (Caller.step env s .corAssert).caller.currentUserId = s.caller.sessionUserId

def Ends (p : Program) : Input → Prop
  -- A logout, the expiry of the session, or the end of the module.
  | .event (.dtmfDigit d) => dialsLogout p.env p.sys.caller d
  | .event .logoutCommand => True
  | .event (.visit slot) => ∃ e ∈ p.sys.rpt.timers.due slot, e.callback = .sessionTimeout
  | .unload => True
  | _ => False

/-- `through` and `renewed`: whoever is identified by a login has a session, and a session that
ended is followed by none but that of the next login. -/
structure Sound (p : Program) (i : Input) : Prop where
  lasts : 0 < (step p i).sys.caller.sessionUserId ↔
    (step p i).sys.rpt.timers.Pending .sessionTimeout
  identified : i = .event .corAssert → 0 < p.sys.caller.sessionUserId → Reidentifies p.env p.sys
  vacant : (step p i).receiving = false → (step p i).sys.caller.currentUserId = 0
  ended : Ends p i → (step p i).sys.caller.sessionUserId = 0
  through : (step p i).sys.caller.currentMethod = .dtmfLogin →
    0 < (step p i).sys.caller.sessionUserId ∧
      (step p i).sys.caller.currentUserId = (step p i).sys.caller.sessionUserId
  renewed : 0 < (step p i).sys.caller.sessionUserId →
    (step p i).sys.caller.sessionUserId = p.sys.caller.sessionUserId ∨
      ∃ d u, i = .event (.dtmfDigit d) ∧ dialsLogin p.env p.sys.caller d u ∧
        (step p i).sys.caller.sessionUserId = u.id

/-- A login comes in over the air, with a login timeout above 0 and a slot free for the timer; at a
key-up with a session the timeout is above 0 too, and the user is not yet the current caller. -/
def Proper (p : Program) : Input → Prop
  | .event (.dtmfDigit d) =>
    (∃ u, dialsLogin p.env p.sys.caller d u) →
      p.receiving = true ∧ 0 < p.env.loginTimeoutMs ∧ p.sys.rpt.timers.HasRoom
  | .event .corAssert =>
    0 < p.sys.caller.sessionUserId →
      0 < p.env.loginTimeoutMs ∧ p.sys.caller.currentUserId ≠ p.sys.caller.sessionUserId
  | _ => True

instance (env : Station) (c : State) (d : Char) : Decidable (∃ u, dialsLogin env c d u) :=
  decidable_of_iff (takesAni c d = false ∧ d = '#' ∧ c.loginActive = true ∧ c.sessionUserId = 0 ∧
      (lookupByLogin env c.loginBuf).isSome = true) (by
    simp only [dialsLogin, Option.isSome_iff_exists]
    grind)

instance (p : Program) : (i : Input) → Decidable (Proper p i)
  | .event (.dtmfDigit _) => inferInstanceAs (Decidable (_ → _))
  | .event .corAssert => inferInstanceAs (Decidable (_ → _))
  | .event .corDrop | .event (.elapse _) | .event .beginTick | .event (.visit _)
  | .event .logoutCommand | .event (.setEmergency _) | .event (.otherTimer ..)
  | .event (.otherCancel _) | .configure .. | .unload | .load => inferInstanceAs (Decidable True)

/-! ## The module's own variables -/

/-- The session has a timer, and whoever is identified by a login has the session. -/
structure Settled (c : State) : Prop where
  lasts : c.sessionTimer ≠ none ↔ 0 < c.sessionUserId
  through : c.currentMethod = .dtmfLogin →
    0 < c.sessionUserId ∧ c.currentUserId = c.sessionUserId

structure Vacant (c : State) : Prop where
  nobody : c.currentUserId = 0
  closed : c.aniActive = false
  stopped : c.aniTimer = none

theorem settled_init : Settled init where
  lasts := by simp [init]
  through := by simp [init]

theorem vacant_init : Vacant init :=
  ⟨rfl, rfl, rfl⟩

theorem settled_keeps {c c' : State} (settled : Settled c)
    (timer : c'.sessionTimer = c.sessionTimer) (session : c'.sessionUserId = c.sessionUserId)
    (current : c'.currentUserId = c.currentUserId) (method : c'.currentMethod = c.currentMethod) :
    Settled c' where
  lasts := by
    rw [timer, session]
    exact settled.lasts
  through := by
    rw [method, session, current]
    exact settled.through

theorem settled_nobody {c c' : State} (settled : Settled c)
    (timer : c'.sessionTimer = c.sessionTimer) (session : c'.sessionUserId = c.sessionUserId)
    (method : c'.currentMethod ≠ .dtmfLogin) : Settled c' where
  lasts := by
    rw [timer, session]
    exact settled.lasts
  through := fun login => absurd login method

/-- What the module does but for a key-up and a login. -/
structure Moves (c c' : State) : Prop where
  settled : Settled c → Settled c'
  vacant : Vacant c → Vacant c'
  session : c'.sessionUserId = c.sessionUserId ∨ c'.sessionUserId = 0

theorem Moves.refl (c : State) : Moves c c :=
  ⟨id, id, .inl rfl⟩

theorem Moves.trans {c d e : State} (first : Moves c d) (second : Moves d e) : Moves c e where
  settled := fun settled => second.settled (first.settled settled)
  vacant := fun vacant => second.vacant (first.vacant vacant)
  session := by
    have := first.session
    have := second.session
    omega

theorem moves_captured {c c' : State} (window : c.aniActive = true ∨ c.aniTimer ≠ none)
    (settled : Settled c → Settled c') (session : c'.sessionUserId = c.sessionUserId) :
    Moves c c' where
  settled := settled
  vacant := by
    -- ANI is taken on the air only.
    intro vacant
    rcases window with active | running
    next => exact absurd active (by simp [vacant.closed])
    next => exact absurd vacant.stopped running
  session := .inl session

@[simp] theorem heard_caller (s : System) : (heard s).caller = s.caller := rfl

@[simp] theorem withdrawn_caller (s : System) : (withdrawn s).caller = s.caller := by
  unfold withdrawn onRepeater
  rfl

section Handlers

variable {env : Station} {fire : Evt → System → System} (dispatches : Dispatches fire)
include dispatches

theorem fireIdentified_caller (userId : Nat) (method : Method) (s : System) :
    (fireIdentified fire userId method s).caller =
      { s.caller with currentUserId := userId, currentMethod := method } := by
  rw [fireIdentified, dispatches.identified, heard_caller]

theorem fireCleared_caller (s : System) :
    (fireCleared fire s).caller = s.caller ∧ s.caller.currentUserId = 0 ∨
      (fireCleared fire s).caller =
        { s.caller with currentUserId := 0, currentMethod := .unknown } := by
  unfold fireCleared
  split
  next nobody => exact .inl ⟨rfl, nobody⟩
  next =>
    rw [dispatches.cleared, withdrawn_caller]
    exact .inr rfl

theorem doLogout_moves (s : System) :
    Moves s.caller (doLogout fire s).caller ∧ (doLogout fire s).caller.sessionUserId = 0 := by
  unfold doLogout
  split
  next none => exact ⟨Moves.refl _, none⟩
  next some =>
    simp only
    split
    next current =>
      have positive : 0 < s.caller.currentUserId := current
      rcases fireCleared_caller dispatches (sessionClear s) with ⟨-, nobody⟩ | cleared
      next => exact absurd nobody (by simp [sessionClear]; omega)
      next =>
        rw [cleared]
        exact ⟨⟨fun _ => ⟨by simp [sessionClear], by simp⟩,
          fun vacant => ⟨rfl, vacant.closed, vacant.stopped⟩, .inr rfl⟩, rfl⟩
    next nobody =>
      have none : s.caller.currentUserId = 0 := Nat.eq_zero_of_not_pos nobody
      refine ⟨⟨fun settled => ⟨by simp [sessionClear], fun login => ?_⟩, fun vacant => ?_, .inr rfl⟩,
        rfl⟩
      next =>
        have through := settled.through login
        omega
      next => exact ⟨none, vacant.closed, vacant.stopped⟩

theorem processAni_caller (s : System) : (processAni env fire s).caller = s.caller ∨
    ∃ userId, (processAni env fire s).caller =
      { s.caller with currentUserId := userId, currentMethod := .dtmfAni } := by
  unfold processAni
  split
  next => exact .inl rfl
  next =>
    split
    next u found => exact .inr ⟨u.id, fireIdentified_caller dispatches u.id .dtmfAni s⟩
    next => exact .inl rfl

theorem processAni_session (s : System) :
    (processAni env fire s).caller.sessionUserId = s.caller.sessionUserId := by
  rcases @processAni_caller env _ dispatches s with same | ⟨userId, identified⟩
  next => rw [same]
  next => rw [identified]

theorem processAni_settled {s : System} (settled : Settled s.caller) :
    Settled (processAni env fire s).caller := by
  rcases @processAni_caller env _ dispatches s with same | ⟨userId, identified⟩
  next => exact same ▸ settled
  next =>
    rw [identified]
    exact settled_nobody settled rfl rfl (by simp)

theorem aniTimeout_moves {s : System} (running : s.caller.aniTimer ≠ none) :
    Moves s.caller (aniTimeout env fire s).caller := by
  refine moves_captured (.inr running) (fun settled => ?_) (processAni_session dispatches _)
  exact processAni_settled dispatches (settled_keeps settled rfl rfl rfl rfl)

theorem sessionTimeout_moves (s : System) : Moves s.caller (sessionTimeoutCb fire s).caller ∧
    (sessionTimeoutCb fire s).caller.sessionUserId = 0 := by
  unfold sessionTimeoutCb
  simp only
  split
  next session =>
    split
    next login =>
      rcases fireCleared_caller dispatches { s with caller :=
        { s.caller with sessionTimer := none, sessionUserId := 0 } } with ⟨-, nobody⟩ | cleared
      next => exact absurd nobody (Nat.ne_of_gt login.1)
      next =>
        rw [cleared]
        exact ⟨⟨fun _ => ⟨by simp, by simp⟩, fun vacant => ⟨rfl, vacant.closed, vacant.stopped⟩,
          .inr rfl⟩, rfl⟩
    next other =>
      refine ⟨⟨fun settled => ⟨by simp, fun login => ?_⟩, fun vacant => ?_, .inr rfl⟩, rfl⟩
      next =>
        have through := settled.through login
        have current : 0 < s.caller.currentUserId := by omega
        exact absurd ⟨current, login⟩ other
      next => exact ⟨vacant.nobody, vacant.closed, vacant.stopped⟩
  next none =>
    have none : s.caller.sessionUserId = 0 := Nat.eq_zero_of_not_pos none
    refine ⟨⟨fun settled => ⟨by simp [none], settled.through⟩, fun vacant => ?_, .inl rfl⟩, none⟩
    exact ⟨vacant.nobody, vacant.closed, vacant.stopped⟩

omit dispatches in
theorem captureAni_moves {s : System} (active : s.caller.aniActive = true) (d : Char) :
    Moves s.caller (captureAni env d s).caller := by
  refine moves_captured (.inl active) (fun settled => ?_) ?_
  next =>
    unfold captureAni
    split_ifs <;> exact settled_keeps settled rfl rfl rfl rfl
  next =>
    unfold captureAni
    split_ifs <;> rfl

/-! ## Logging in -/

omit dispatches in
theorem restart_timer {s : System} (owned : Owned s)
    (room : s.caller.sessionTimer ≠ none ∨ s.rpt.timers.HasRoom) {ms : Int} (positive : 0 < ms) :
    ((s.cancelTimer s.caller.sessionTimer).startSession ms).caller.sessionTimer ≠ none := by
  have free := cancel_hasRoom owned.session room
  simp [System.startSession, System.cancelTimer, System.setTimers, create_fst, positive, free]

omit dispatches in
theorem sessionStart_settled {s : System} (owned : Owned s)
    (room : s.caller.sessionTimer ≠ none ∨ s.rpt.timers.HasRoom) (positive : 0 < env.loginTimeoutMs)
    {u : User} (current : s.caller.currentUserId = u.id) :
    Settled (sessionStart env u.id s).caller where
  lasts := by
    have noted : Owned { s with caller := { s.caller with sessionUserId := u.id } } :=
      caller_owned owned rfl rfl
    have started := restart_timer noted room positive
    exact ⟨fun _ => u.numbered, fun _ => started⟩
  through := fun _ => ⟨u.numbered, current⟩

/-- A completed code: a logout, a login, or nothing that concerns the module. -/
theorem login_moves {s : System} (owned : Owned s)
    (room : s.caller.sessionUserId = 0 → (∃ u, lookupByLogin env s.caller.loginBuf = some u) →
      0 < env.loginTimeoutMs ∧ s.rpt.timers.HasRoom) :
    (Settled s.caller → Settled (login env fire s).caller) ∧
      (Moves s.caller (login env fire s).caller ∨
        ∃ u, s.caller.sessionUserId = 0 ∧ lookupByLogin env s.caller.loginBuf = some u ∧
          (login env fire s).caller.sessionUserId = u.id) := by
  unfold login
  have typed : Moves s.caller { s.caller with loginActive := false } :=
    ⟨fun settled => settled_keeps settled rfl rfl rfl rfl,
      fun vacant => ⟨vacant.nobody, vacant.closed, vacant.stopped⟩, .inl rfl⟩
  simp only
  split
  next session =>
    split
    next =>
      have moves := typed.trans (doLogout_moves dispatches
        { s with caller := { s.caller with loginActive := false } }).1
      exact ⟨moves.settled, .inl moves⟩
    next => exact ⟨typed.settled, .inl typed⟩
  next none =>
    have none : s.caller.sessionUserId = 0 := Nat.eq_zero_of_not_pos none
    split
    next u found =>
      obtain ⟨positive, free⟩ := room none ⟨u, found⟩
      have closed : Owned { s with caller := { s.caller with loginActive := false } } :=
        caller_owned owned rfl rfl
      have identified := fireIdentified_owned closed dispatches u.id .dtmfLogin
      have timers : (fireIdentified fire u.id .dtmfLogin
          { s with caller := { s.caller with loginActive := false } }).rpt.timers =
            s.rpt.timers := by
        rw [fireIdentified, dispatches.identified]
        rfl
      have current := fireIdentified_caller dispatches u.id .dtmfLogin
        { s with caller := { s.caller with loginActive := false } }
      have started := sessionStart_settled identified (.inr (timers ▸ free)) positive
        (u := u) (by rw [current])
      exact ⟨fun _ => started, .inr ⟨u, none, found, rfl⟩⟩
    next => exact ⟨typed.settled, .inl typed⟩

theorem loginDigit_moves {s : System} {d : Char} (owned : Owned s)
    (room : d = '#' → s.caller.loginActive = true → s.caller.sessionUserId = 0 →
      (∃ u, lookupByLogin env s.caller.loginBuf = some u) →
        0 < env.loginTimeoutMs ∧ s.rpt.timers.HasRoom) :
    (Settled s.caller → Settled (loginDigit env fire d s).caller) ∧
      (Moves s.caller (loginDigit env fire d s).caller ∨
        ∃ u, d = '#' ∧ s.caller.loginActive = true ∧ s.caller.sessionUserId = 0 ∧
          lookupByLogin env s.caller.loginBuf = some u ∧
          (loginDigit env fire d s).caller.sessionUserId = u.id) := by
  have typed {c : State} (same : c = { s.caller with
      loginActive := c.loginActive, loginBuf := c.loginBuf }) : Moves s.caller c := by
    rw [same]
    exact ⟨fun settled => settled_keeps settled rfl rfl rfl rfl,
      fun vacant => ⟨vacant.nobody, vacant.closed, vacant.stopped⟩, .inl rfl⟩
  unfold loginDigit
  split_ifs with star active hash short
  next => exact ⟨(typed rfl).settled, .inl (typed rfl)⟩
  next =>
    obtain ⟨settled, moves | ⟨u, none, found, user⟩⟩ := login_moves dispatches owned (room hash active)
    next => exact ⟨settled, .inl moves⟩
    next => exact ⟨settled, .inr ⟨u, hash, active, none, found, user⟩⟩
  next => exact ⟨(typed rfl).settled, .inl (typed rfl)⟩
  next => exact ⟨(typed rfl).settled, .inl (typed rfl)⟩
  next => exact ⟨id, .inl (Moves.refl _)⟩

theorem onDtmfDigit_moves {s : System} {d : Char} (owned : Owned s)
    (room : (∃ u, dialsLogin env s.caller d u) →
      0 < env.loginTimeoutMs ∧ s.rpt.timers.HasRoom) :
    (Settled s.caller → Settled (onDtmfDigit env fire d s).caller) ∧
      (Moves s.caller (onDtmfDigit env fire d s).caller ∨
        ∃ u, dialsLogin env s.caller d u ∧
          (onDtmfDigit env fire d s).caller.sessionUserId = u.id) := by
  unfold onDtmfDigit
  split_ifs with window star
  next =>
    have began (t : System) : loginDigit env fire d t =
        { t with caller := { t.caller with loginActive := true, loginBuf := [] } } := by
      simp [loginDigit, star]
    have moves : Moves s.caller
        (loginDigit env fire d (processAni env fire (cancelAni s))).caller := by
      rw [began]
      refine moves_captured (.inl window.1) (fun settled => ?_) (processAni_session dispatches _)
      have cancelled : Settled (cancelAni s).caller := settled_keeps settled rfl rfl rfl rfl
      have processed := @processAni_settled env _ dispatches _ cancelled
      exact settled_keeps processed rfl rfl rfl rfl
    exact ⟨moves.settled, .inl moves⟩
  next =>
    have moves := @captureAni_moves env _ window.1 d
    exact ⟨moves.settled, .inl moves⟩
  next =>
    have free : takesAni s.caller d = false := by
      simp only [takesAni, Bool.and_eq_false_iff]
      grind
    have roomy := fun hash active none (dialled : ∃ u, _) =>
      room (dialled.imp fun u found => ⟨free, hash, active, none, found⟩)
    obtain ⟨settled, moves | ⟨u, hash, active, none, found, user⟩⟩ :=
      loginDigit_moves dispatches owned roomy
    next => exact ⟨settled, .inl moves⟩
    next => exact ⟨settled, .inr ⟨u, ⟨free, hash, active, none, found⟩, user⟩⟩

/-! ## Keying up and unkeying -/

omit dispatches in
theorem armAni_settled {s : System} (settled : Settled s.caller) : Settled (armAni s).caller := by
  unfold armAni
  split
  next => exact settled
  next => exact settled_keeps settled rfl rfl rfl rfl

omit dispatches in
theorem sessionRefresh_settled {s : System} (owned : Owned s) (settled : Settled s.caller)
    (positive : 0 < env.loginTimeoutMs) : Settled (sessionRefresh env s).caller := by
  unfold sessionRefresh
  split_ifs with idle
  next => exact settled
  next =>
    have running : s.caller.sessionTimer ≠ none := fun stopped => idle (.inr stopped)
    have restarted := restart_timer owned (.inl running) positive
    have session := settled.lasts.mp running
    exact ⟨⟨fun _ => session, fun _ => restarted⟩, settled.through⟩

theorem onCorAssert_settled {s : System} (owned : Owned s) (settled : Settled s.caller)
    (positive : 0 < s.caller.sessionUserId → 0 < env.loginTimeoutMs) :
    Settled (onCorAssert env fire s).caller ∧
      (onCorAssert env fire s).caller.sessionUserId = s.caller.sessionUserId := by
  have users := armAni_users s
  have refreshed := sessionRefresh_users env (armAni s)
  have armed := armAni_settled settled
  unfold onCorAssert
  simp only
  split
  next session =>
    rw [users.1] at session
    have running := sessionRefresh_settled (armAni_owned owned) armed (positive session)
    split
    next =>
      rw [fireIdentified_caller dispatches]
      refine ⟨⟨running.lasts, fun _ => ⟨?_, rfl⟩⟩, refreshed.1.trans users.1⟩
      rw [refreshed.1, users.1]
      exact session
    next => exact ⟨running, refreshed.1.trans users.1⟩
  next => exact ⟨armed, users.1⟩

theorem onCorDrop_caller (s : System) :
    (Settled s.caller → Settled (onCorDrop fire s).caller) ∧ Vacant (onCorDrop fire s).caller ∧
      (onCorDrop fire s).caller.sessionUserId = s.caller.sessionUserId := by
  unfold onCorDrop
  simp only
  split
  next login =>
    rw [dispatches.cleared, withdrawn_caller]
    exact ⟨fun settled => ⟨settled.lasts, by simp⟩, ⟨rfl, rfl, rfl⟩, rfl⟩
  next other =>
    rcases fireCleared_caller dispatches (cancelAni s) with ⟨same, nobody⟩ | cleared
    next =>
      rw [same]
      exact ⟨fun settled => settled_keeps settled rfl rfl rfl rfl, ⟨nobody, rfl, rfl⟩, rfl⟩
    next =>
      rw [cleared]
      exact ⟨fun settled => ⟨settled.lasts, by simp⟩, ⟨rfl, rfl, rfl⟩, rfl⟩

end Handlers

theorem onCorAssert_fires {env : Station} {s : System} (session : 0 < s.caller.sessionUserId)
    (other : s.caller.currentUserId ≠ s.caller.sessionUserId) : ∃ before, ∀ fire,
      onCorAssert env fire s =
        fireIdentified fire s.caller.sessionUserId .dtmfLogin before := by
  have users := armAni_users s
  have refreshed := sessionRefresh_users env (armAni s)
  have changes : ¬ (sessionRefresh env (armAni s)).caller.currentUserId = s.caller.sessionUserId := by
    rw [refreshed.2, users.2]
    exact other
  simp only [onCorAssert, users.1, session, if_true, refreshed.1, ne_eq, changes,
    not_false_eq_true]
  exact ⟨_, fun _ => rfl⟩

theorem onCorAssert_named {env : Station} {fire : Evt → System → System}
    (dispatches : Dispatches fire) {s : System} (session : 0 < s.caller.sessionUserId)
    (other : s.caller.currentUserId ≠ s.caller.sessionUserId) :
    (onCorAssert env fire s).identifiedSince = true ∧
      (onCorAssert env fire s).caller.currentUserId = s.caller.sessionUserId := by
  obtain ⟨before, fires⟩ := @onCorAssert_fires env s session other
  rw [fires fire, fireIdentified_caller dispatches, fireIdentified, dispatches.identified]
  exact ⟨rfl, rfl⟩

theorem corAssert_reidentifies {env : Station} {s : System} (session : 0 < s.caller.sessionUserId)
    (other : s.caller.currentUserId ≠ s.caller.sessionUserId) : Reidentifies env s := by
  have fires (t : System) (same : t.caller = s.caller) : ∃ before, ∀ fire,
      onCorAssert env fire t =
        fire (.callerIdentified s.caller.sessionUserId .dtmfLogin) before := by
    rw [← same] at session other ⊢
    obtain ⟨before, fires⟩ := @onCorAssert_fires env t session other
    exact ⟨_, fires⟩
  have dispatches := nested_dispatches env
  rcases corAssert_perm env with order | order
  next =>
    obtain ⟨noted, current⟩ := @onCorAssert_named env _ dispatches
      (onRepeater (monitor .corAssert s) Repeater.State.onCorAssert) session other
    rw [← corAssert_repeater_first s order] at noted current
    exact ⟨fires, noted, current⟩
  next =>
    obtain ⟨noted, current⟩ :=
      @onCorAssert_named env _ dispatches (monitor .corAssert s) session other
    have asserted := corAssert_caller_first s order
    refine ⟨fires, ?_, ?_⟩ <;> rw [asserted]
    next => exact noted
    next => exact current

/-! ## Steps -/

structure Standing (p : Program) : Prop where
  owned : Owned p.sys
  settled : Settled p.sys.caller
  vacant : p.receiving = false → Vacant p.sys.caller
  gone : p.loaded = false → p.sys.caller = init

theorem boot_standing (file : KerchunkConfig) (hasTts : Bool) (env : Station) :
    Standing (boot file hasTts env) where
  owned := start_owned file hasTts
  settled := settled_init
  vacant := fun _ => vacant_init
  gone := by simp [boot]

theorem pending_iff_session {s : System} (owned : Owned s) (settled : Settled s.caller) :
    0 < s.caller.sessionUserId ↔ s.rpt.timers.Pending .sessionTimeout := by
  rw [← settled.lasts, pending_iff]
  constructor
  next =>
    intro running
    obtain ⟨n, held⟩ := Option.ne_none_iff_exists'.mp running
    exact ⟨n, false, (owned.session n false).mpr ⟨rfl, held⟩⟩
  next =>
    rintro ⟨n, repeats, runs⟩
    have held := ((owned.session n repeats).mp runs).2
    simp [held]

theorem standing_sound {p : Program} {i : Input} (after : Standing (step p i))
    (identified : i = .event .corAssert → 0 < p.sys.caller.sessionUserId →
      Reidentifies p.env p.sys)
    (ended : Ends p i → (step p i).sys.caller.sessionUserId = 0)
    (renewed : 0 < (step p i).sys.caller.sessionUserId →
      (step p i).sys.caller.sessionUserId = p.sys.caller.sessionUserId ∨
        ∃ d u, i = .event (.dtmfDigit d) ∧ dialsLogin p.env p.sys.caller d u ∧
          (step p i).sys.caller.sessionUserId = u.id) : Sound p i where
  lasts := pending_iff_session after.owned after.settled
  identified := identified
  vacant := fun quiet => (after.vacant quiet).nobody
  ended := ended
  through := after.settled.through
  renewed := renewed

theorem moves_step {p : Program} {i : Input} (standing : Standing p)
    (owned : Owned (step p i).sys) (moves : Moves p.sys.caller (step p i).sys.caller)
    (receiving : (step p i).receiving = p.receiving)
    (gone : (step p i).loaded = false → (step p i).sys.caller = init)
    (cor : i ≠ .event .corAssert)
    (ended : Ends p i → (step p i).sys.caller.sessionUserId = 0) :
    Standing (step p i) ∧ Sound p i := by
  have after : Standing (step p i) :=
    ⟨owned, moves.settled standing.settled,
      fun quiet => moves.vacant (standing.vacant (receiving ▸ quiet)), gone⟩
  refine ⟨after, standing_sound after (fun same => absurd same cor) ended fun active => ?_⟩
  rcases moves.session with same | ended
  next => exact .inl same
  next => omega

/-! ### The module loaded -/

theorem visit_moves {env : Station} {s : System} (owned : Owned s) (slot : Slot) :
    Owned (Caller.step env s (.visit slot)) ∧
      Moves s.caller (Caller.step env s (.visit slot)).caller ∧
      ((∃ e ∈ s.rpt.timers.due slot, e.callback = .sessionTimeout) →
        (Caller.step env s (.visit slot)).caller.sessionUserId = 0) := by
  have dispatches := fire_dispatches env 15
  by_cases mine : ∃ e ∈ s.rpt.timers.due slot,
      e.callback = .sessionTimeout ∨ e.callback = .aniTimeout
  next =>
    obtain ⟨e, found, session | ani⟩ := mine
    next =>
      have visited : Caller.step env s (.visit slot) =
          sessionTimeoutCb ((bus env).fire maxDepth) (s.setTimers (s.rpt.timers.visit slot)) := by
        simp [Caller.step, visit, Option.mem_def.mp found, session]
      have timeout := sessionTimeout_moves dispatches (s.setTimers (s.rpt.timers.visit slot))
      rw [visited]
      exact ⟨sessionTimeout_owned owned dispatches found session, timeout.1, fun _ => timeout.2⟩
    next =>
      have visited : Caller.step env s (.visit slot) =
          aniTimeout env ((bus env).fire maxDepth) (s.setTimers (s.rpt.timers.visit slot)) := by
        simp [Caller.step, visit, Option.mem_def.mp found, ani]
      have running : s.caller.aniTimer ≠ none := by
        simp [(due_owned (by simpa [ani] using owned.ani) found).2]
      rw [visited]
      refine ⟨processAni_owned (ani_due_owned owned found ani) dispatches,
        @aniTimeout_moves env _ dispatches (s.setTimers (s.rpt.timers.visit slot)) running, ?_⟩
      rintro ⟨f, again, session⟩
      obtain rfl := Option.some.inj (found.symm.trans again)
      rw [ani] at session
      cases session
  next =>
    have others : ∀ e ∈ s.rpt.timers.due slot,
        e.callback ≠ .sessionTimeout ∧ e.callback ≠ .aniTimeout :=
      fun e found => ⟨fun session => mine ⟨e, found, .inl session⟩,
        fun ani => mine ⟨e, found, .inr ani⟩⟩
    rw [repeater_visit others]
    refine ⟨repeaterVisit_owned owned others, Moves.refl _, ?_⟩
    rintro ⟨e, found, session⟩
    exact absurd session (others e found).1

theorem event_loaded {p : Program} (loaded : p.loaded = true) (i : Caller.Input) :
    (step p (.event i)).sys = Caller.step p.env p.sys i :=
  if_pos loaded

theorem corAssert_settled {env : Station} {s : System} (owned : Owned s) (settled : Settled s.caller)
    (positive : 0 < s.caller.sessionUserId → 0 < env.loginTimeoutMs) :
    Owned (Caller.step env s .corAssert) ∧ Settled (Caller.step env s .corAssert).caller ∧
      (Caller.step env s .corAssert).caller.sessionUserId = s.caller.sessionUserId := by
  have dispatches := nested_dispatches env
  have noted := monitor_owned owned .corAssert
  rcases corAssert_perm env with order | order
  next =>
    rw [corAssert_repeater_first s order]
    have asserted := repeaterAssert_owned noted
    exact ⟨onCorAssert_owned asserted dispatches,
      onCorAssert_settled dispatches asserted settled positive⟩
  next =>
    rw [corAssert_caller_first s order]
    exact ⟨repeaterAssert_owned (onCorAssert_owned noted dispatches),
      onCorAssert_settled dispatches noted settled positive⟩

theorem keyUp_step {p : Program} (standing : Standing p) (loaded : p.loaded = true)
    (proper : Proper p (.event .corAssert)) :
    Standing (step p (.event .corAssert)) ∧ Sound p (.event .corAssert) := by
  obtain ⟨owned, settled, session⟩ := corAssert_settled standing.owned standing.settled
    fun session => (proper session).1
  rw [← event_loaded loaded] at owned settled session
  have after : Standing (step p (.event .corAssert)) :=
    ⟨owned, settled, by simp [step, receivingAfter], by simp [step, loaded]⟩
  refine ⟨after, standing_sound after (fun _ active => ?_) False.elim fun _ => .inl session⟩
  exact corAssert_reidentifies active (proper active).2

theorem corDrop_settled {env : Station} {s : System} (owned : Owned s) (settled : Settled s.caller) :
    Owned (Caller.step env s .corDrop) ∧ Settled (Caller.step env s .corDrop).caller ∧
      Vacant (Caller.step env s .corDrop).caller ∧
      (Caller.step env s .corDrop).caller.sessionUserId = s.caller.sessionUserId := by
  have dispatches := nested_dispatches env
  rcases corDrop_orders env s with repeaterFirst | callerFirst
  next =>
    rw [repeaterFirst]
    have dropped := onCorDrop_caller dispatches (onRepeater s Repeater.State.onCorDrop)
    exact ⟨onCorDrop_owned (repeaterDrop_owned owned) dispatches, dropped.1 settled, dropped.2⟩
  next =>
    rw [callerFirst]
    have dropped := onCorDrop_caller dispatches s
    exact ⟨repeaterDrop_owned (onCorDrop_owned owned dispatches), dropped.1 settled, dropped.2⟩

theorem keyRelease_step {p : Program} (standing : Standing p) (loaded : p.loaded = true) :
    Standing (step p (.event .corDrop)) ∧ Sound p (.event .corDrop) := by
  obtain ⟨owned, settled, vacant, session⟩ :=
    @corDrop_settled p.env _ standing.owned standing.settled
  rw [← event_loaded loaded] at owned settled vacant session
  have after : Standing (step p (.event .corDrop)) :=
    ⟨owned, settled, fun _ => vacant, by simp [step, loaded]⟩
  exact ⟨after, standing_sound after (by simp) False.elim fun _ => .inl session⟩

theorem dialsLogout_ends {env : Station} {fire : Evt → System → System}
    (dispatches : Dispatches fire) {s : System} {d : Char} (dials : dialsLogout env s.caller d) :
    (onDtmfDigit env fire d s).caller.sessionUserId = 0 := by
  obtain ⟨free, rfl, active, session, code, matched⟩ := dials
  have window : ¬ (s.caller.aniActive = true ∧ s.caller.aniBuf.length < maxAniLen) := by
    simpa [takesAni] using free
  have plain : ('#' : Char) ≠ '*' := by decide
  simp only [onDtmfDigit, window, if_false, loginDigit, plain, active, if_true, login, session]
  rw [if_pos ⟨code, matched⟩]
  exact (doLogout_moves dispatches _).2

theorem digit_step {p : Program} {d : Char} (standing : Standing p) (loaded : p.loaded = true)
    (proper : Proper p (.event (.dtmfDigit d))) :
    Standing (step p (.event (.dtmfDigit d))) ∧ Sound p (.event (.dtmfDigit d)) := by
  have dispatches := nested_dispatches p.env
  have handled := (event_loaded loaded (.dtmfDigit d)).trans (dtmfDigit_handled p.env p.sys d)
  have owned := @onDtmfDigit_owned _ standing.owned p.env _ dispatches d
  have moved := onDtmfDigit_moves dispatches standing.owned fun dials => (proper dials).2
  have logout := @dialsLogout_ends p.env _ dispatches p.sys d
  rw [← handled] at owned moved logout
  obtain ⟨settled, moves | ⟨u, dials, user⟩⟩ := moved
  next => exact moves_step standing owned moves rfl (by simp [step, loaded]) (by simp) logout
  next =>
    -- A login, on the air.
    have onAir := (proper ⟨u, dials⟩).1
    have after : Standing (step p (.event (.dtmfDigit d))) :=
      ⟨owned, settled standing.settled, by simp [step, receivingAfter, onAir], by simp [step, loaded]⟩
    exact ⟨after, standing_sound after (by simp) logout fun _ => .inr ⟨d, u, rfl, dials, user⟩⟩

theorem loaded_step {p : Program} {i : Caller.Input} (standing : Standing p)
    (loaded : p.loaded = true) (proper : Proper p (.event i)) :
    Standing (step p (.event i)) ∧ Sound p (.event i) := by
  have handled := event_loaded loaded i
  have quiet (owned : Owned (Caller.step p.env p.sys i))
      (moves : Moves p.sys.caller (Caller.step p.env p.sys i).caller)
      (receiving : receivingAfter p.receiving i = p.receiving) (cor : i ≠ .corAssert)
      (ended : Ends p (.event i) → (Caller.step p.env p.sys i).caller.sessionUserId = 0) :
      Standing (step p (.event i)) ∧ Sound p (.event i) := by
    rw [← handled] at owned moves ended
    exact moves_step standing owned moves receiving (by simp [step, loaded]) (by simp [cor]) ended
  cases i with
  | corAssert => exact keyUp_step standing loaded proper
  | corDrop => exact keyRelease_step standing loaded
  | dtmfDigit d => exact digit_step standing loaded proper
  | logoutCommand =>
    have dispatches := fire_dispatches p.env 15
    have ended := doLogout_moves dispatches p.sys
    exact quiet (doLogout_owned standing.owned dispatches) ended.1 rfl (by simp) fun _ => ended.2
  | visit slot =>
    obtain ⟨owned, moves, ended⟩ := visit_moves standing.owned slot
    exact quiet owned moves rfl (by simp) ended
  | elapse us =>
    exact quiet (table_owned standing.owned fun _ _ _ owns => elapse_owns owns us) (Moves.refl _) rfl
      (by simp) False.elim
  | beginTick =>
    exact quiet (table_owned standing.owned fun _ _ _ owns => beginTick_owns owns) (Moves.refl _) rfl
      (by simp) False.elim
  | setEmergency active =>
    exact quiet (emergency_owned standing.owned active) (Moves.refl _) rfl (by simp) False.elim
  | otherTimer ms repeats =>
    exact quiet (table_owned standing.owned fun _ _ known owns =>
      create_owns_other owns known ms repeats) (Moves.refl _) rfl (by simp) False.elim
  | otherCancel timerId =>
    refine quiet (table_owned standing.owned fun handle callback known owns => drop_owns owns ?_)
      (Moves.refl _) rfl (by simp) False.elim
    rintro e rfl
    simp [known]

/-! ### The module gone, and back -/

theorem detached_corAssert (env : Station) (s : System) :
    (detached env).fire maxDepth .corAssert s =
      onRepeater (monitor .corAssert s) Repeater.State.onCorAssert := by
  have subscribers : (detached env).subscribers .corAssert = [.monitor, .repeater] := by
    rcases corAssert_perm env with order | order <;> simp [detached, bus, order]
  rw [maxDepth, Bus.fire_succ, subscribers]
  rfl

theorem detached_corDrop (env : Station) (s : System) :
    (detached env).fire maxDepth .corDrop s = onRepeater s Repeater.State.onCorDrop := by
  have subscribers : (detached env).subscribers .corDrop = [.repeater] := by
    rcases corDrop_perm env with order | order <;> simp [detached, bus, order]
  rw [maxDepth, Bus.fire_succ, subscribers]
  rfl

theorem visit_bare {env : Station} {s : System} (owned : Owned s) (gone : s.caller = init)
    (slot : Slot) : Caller.step env s (.visit slot) = { s with rpt := Repeater.visit s.rpt slot } ∧
      Owned { s with rpt := Repeater.visit s.rpt slot } := by
  have others : ∀ e ∈ s.rpt.timers.due slot,
      e.callback ≠ .sessionTimeout ∧ e.callback ≠ .aniTimeout := by
    intro e found
    constructor
    next =>
      intro session
      have held := (due_owned (by simpa [session] using owned.session) found).2
      simp [gone, init] at held
    next =>
      intro ani
      have held := (due_owned (by simpa [ani] using owned.ani) found).2
      simp [gone, init] at held
  exact ⟨repeater_visit others, repeaterVisit_owned owned others⟩

theorem event_bare {p : Program} {i : Caller.Input} (standing : Standing p)
    (unloaded : p.loaded = false) :
    Owned (step p (.event i)).sys ∧ (step p (.event i)).sys.caller = p.sys.caller := by
  have owned := standing.owned
  have handled : (step p (.event i)).sys = bare p i := if_neg (by simp [unloaded])
  rw [handled]
  cases i with
  | corAssert =>
    have asserted : bare p .corAssert = _ := detached_corAssert p.env p.sys
    rw [asserted]
    exact ⟨repeaterAssert_owned (monitor_owned owned .corAssert), rfl⟩
  | corDrop =>
    have dropped : bare p .corDrop = _ := detached_corDrop p.env p.sys
    rw [dropped]
    exact ⟨repeaterDrop_owned owned, rfl⟩
  | dtmfDigit d => exact ⟨owned, rfl⟩
  | logoutCommand => exact ⟨owned, rfl⟩
  | visit slot =>
    obtain ⟨visited, kept⟩ := @visit_bare p.env _ owned (standing.gone unloaded) slot
    have scanned : bare p (.visit slot) = _ := visited
    rw [scanned]
    exact ⟨kept, rfl⟩
  | elapse us => exact ⟨table_owned owned fun _ _ _ owns => elapse_owns owns us, rfl⟩
  | beginTick => exact ⟨table_owned owned fun _ _ _ owns => beginTick_owns owns, rfl⟩
  | setEmergency active => exact ⟨emergency_owned owned active, rfl⟩
  | otherTimer ms repeats =>
    exact ⟨table_owned owned fun _ _ known owns => create_owns_other owns known ms repeats, rfl⟩
  | otherCancel timerId =>
    refine ⟨table_owned owned fun handle callback known owns => drop_owns owns ?_, rfl⟩
    rintro e rfl
    simp [known]

theorem bare_step {p : Program} {i : Caller.Input} (standing : Standing p)
    (unloaded : p.loaded = false) : Standing (step p (.event i)) ∧ Sound p (.event i) := by
  obtain ⟨owned, same⟩ := @event_bare p i standing unloaded
  have gone : (step p (.event i)).sys.caller = init := same.trans (standing.gone unloaded)
  have idle : (step p (.event i)).sys.caller.sessionUserId = 0 := by
    rw [gone]
    rfl
  have after : Standing (step p (.event i)) :=
    ⟨owned, gone ▸ settled_init, fun _ => gone ▸ vacant_init, fun _ => gone⟩
  refine ⟨after, standing_sound after (fun _ session => ?_) (fun _ => idle) fun session => ?_⟩
  next =>
    rw [standing.gone unloaded] at session
    exact absurd session (Nat.lt_irrefl 0)
  next => omega

theorem unload_owned {s : System} (owned : Owned s) : Owned (callerUnload s) :=
  -- No timer of the module is left.
  caller_owned (sessionClear_owned (cancelAni_owned owned)) rfl rfl

theorem unload_step {p : Program} (standing : Standing p) :
    Standing (step p .unload) ∧ Sound p .unload := by
  by_cases loaded : p.loaded = true
  next =>
    have unloaded : step p .unload = { p with sys := callerUnload p.sys, loaded := false } := by
      simp [step, loaded]
    refine moves_step standing ?_ ?_ ?_ ?_ (by simp) ?_ <;> rw [unloaded]
    next => exact unload_owned standing.owned
    next => exact ⟨fun _ => settled_init, fun _ => vacant_init, .inr rfl⟩
    next => exact fun _ => rfl
    next => exact fun _ => rfl
  next =>
    have same : step p .unload = p := by simp [step, loaded]
    have gone := standing.gone (by simpa using loaded)
    refine moves_step standing ?_ ?_ ?_ ?_ (by simp) ?_ <;> rw [same]
    next => exact standing.owned
    next => exact Moves.refl _
    next => exact standing.gone
    next =>
      rw [gone]
      exact fun _ => rfl

theorem load_step {p : Program} (standing : Standing p) :
    Standing (step p .load) ∧ Sound p .load := by
  have same : (step p .load).sys = p.sys ∧ (step p .load).receiving = p.receiving := by
    simp only [step]
    split <;> exact ⟨rfl, rfl⟩
  have stays (unloaded : (step p .load).loaded = false) : p.loaded = false := by
    simp only [step] at unloaded
    split at unloaded
    next => exact unloaded
    next => cases unloaded
  refine moves_step standing ?_ ?_ same.2 ?_ (by simp) False.elim <;> rw [same.1]
  next => exact standing.owned
  next => exact Moves.refl _
  next => exact fun unloaded => standing.gone (stays unloaded)

theorem configure_owned {s : System} (owned : Owned s) (file : KerchunkConfig) :
    Owned (onRepeater s fun r => Repeater.step r (.configure file)) := by
  unfold onRepeater
  dsimp only [Repeater.step, Repeater.whenLoaded]
  split
  next =>
    exact ⟨timed_keeps owned.timed (fun _ _ _ owns => owns) rfl rfl rfl rfl rfl, owned.session,
      owned.ani⟩
  next => exact owned

theorem step_standing {p : Program} {i : Input} (standing : Standing p) (proper : Proper p i) :
    Standing (step p i) ∧ Sound p i := by
  cases i with
  | event i =>
    cases loaded : p.loaded with
    | true => exact loaded_step standing loaded proper
    | false => exact bare_step standing loaded
  | configure file users =>
    exact moves_step standing (configure_owned standing.owned file) (Moves.refl _) rfl standing.gone
      (by simp) False.elim
  | unload => exact unload_step standing
  | load => exact load_step standing

theorem sessions_sound (file : KerchunkConfig) (hasTts : Bool) (users : List User)
    (corAssertOrder corDropOrder : List Module)
    (corAssertPerm : corAssertOrder.Perm [.repeater, .caller])
    (corDropPerm : corDropOrder.Perm [.repeater, .caller]) (inputs : List Input) :
    let env := callerConfigure file users corAssertOrder corDropOrder corAssertPerm corDropPerm
    Machine.Guarded step Proper (boot file hasTts env) inputs →
      Machine.Guarded step Sound (boot file hasTts env) inputs := by
  intro env proper
  exact Machine.guarded_of_invariant step (P := Standing)
    (fun _ _ standing allowed => step_standing standing allowed) (boot_standing file hasTts env)
    proper

/-! ## A login, on the air and after it -/

def atHome : Station :=
  callerConfigure [] [member] [.repeater, .caller] [.repeater, .caller] repeaterFirst repeaterFirst

def logsInOnAir : List Caller.Input :=
  .corAssert :: "*123#".toList.map .dtmfDigit ++ [.corDrop, .corAssert, .corDrop]

theorem session_stands :
    Machine.Guarded step Sound (boot [] false atHome)
      (logsInOnAir.map .event ++ [.configure [] [], .unload, .load]) :=
  sessions_sound [] false [member] _ _ _ _ _ (by decide)

def logsInOffAir : List Caller.Input :=
  -- What the `#` completes, which is decoded after the key-release.
  .corAssert :: "*123".toList.map .dtmfDigit ++ [.corDrop]

theorem nobody_transmits :
    ¬ Machine.Guarded step Sound (boot [] false atHome)
      (logsInOffAir.map .event ++ [.event (.dtmfDigit '#')]) := by
  rw [Machine.guarded_append]
  rintro ⟨-, sound, -⟩
  exact absurd (sound.vacant (by decide)) (by decide)

end Kerchunk.Caller.Sessions
