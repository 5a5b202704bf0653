import Mathlib.Data.List.Permutation
import Kerchunk.Caller.Ownership

set_option autoImplicit false

/-!
# Access to a closed repeater

Who is admitted, for every order in which the repeater and the caller
identification subscribed to the event that they share.
-/

namespace Kerchunk.Caller

open Kerchunk.Core (Slot TimerEntry Bus maxDepth firstSlot)
open Kerchunk.Core.TimerTable
open Kerchunk.Repeater (RptState Timed Callback)

/-! ## What is asked for, and what it takes -/

/-- A key-up in IDLE starts a debounce. At its end the repeater enters RECEIVING exactly when
somebody was identified since COR came up, and a user whose session was active at COR_ASSERT, and
still is, gets in. Nobody gets from IDLE to RECEIVING without an identification since COR came up. -/
structure Access (env : Station) (s : System) (i : Input) : Prop where
  debounced : i = .corAssert → s.rpt.state = .idle →
    (step env s i).rpt.timers.Pending .debounceExpired
  decided : ∀ slot, i = .visit slot → ∀ e ∈ s.rpt.timers.due slot,
    e.callback = .debounceExpired → s.rpt.state = .idle →
      ((step env s i).rpt.state = .receiving ↔ s.identifiedSince = true) ∧
      (s.sessionAtAssert = true → 0 < s.caller.sessionUserId →
        (step env s i).rpt.state = .receiving)
  entered : s.rpt.state = .idle → (step env s i).rpt.state = .receiving →
    s.identifiedSince = true

def dialsLogout (env : Station) (c : State) (d : Char) : Prop :=
  -- The digit completes the logout code of the active session.
  takesAni c d = false ∧ d = '#' ∧ c.loginActive = true ∧ 0 < c.sessionUserId ∧
    env.logoutCode ≠ [] ∧ c.loginBuf = env.logoutCode

def LogsOut (env : Station) (s : System) : Input → Prop
  -- The step ends a session whose user is the current caller.
  | .dtmfDigit d => dialsLogout env s.caller d ∧ 0 < s.caller.currentUserId
  | .logoutCommand => 0 < s.caller.sessionUserId ∧ 0 < s.caller.currentUserId
  | .visit slot =>
    ∃ e ∈ s.rpt.timers.due slot, e.callback = .sessionTimeout ∧
      0 < s.caller.sessionUserId ∧ 0 < s.caller.currentUserId ∧
        s.caller.currentMethod = .dtmfLogin
  | _ => False

instance (env : Station) (s : System) : (i : Input) → Decidable (LogsOut env s i)
  | .dtmfDigit d =>
    inferInstanceAs (Decidable ((takesAni s.caller d = false ∧ d = '#' ∧ _ ∧ _ ∧ _ ∧ _) ∧ _))
  | .logoutCommand => inferInstanceAs (Decidable (_ ∧ _))
  | .visit slot =>
    inferInstanceAs (Decidable (∃ e ∈ s.rpt.timers.due slot, e.callback = .sessionTimeout ∧
      0 < s.caller.sessionUserId ∧ 0 < s.caller.currentUserId ∧
        s.caller.currentMethod = .dtmfLogin))
  | .elapse _ | .beginTick | .corAssert | .corDrop | .setEmergency _ | .otherTimer ..
  | .otherCancel _ => inferInstanceAs (Decidable False)

/-- At a key-up in IDLE a slot is free for the debounce timer, and a user with a session is not
yet the current caller and meets the repeater's handler first. No session of the current caller
ends while the debounce runs for an identified user. -/
def Admits (env : Station) (s : System) (i : Input) : Prop :=
  (i = .corAssert → s.rpt.state = .idle →
    (s.rpt.debounceTimer ≠ none ∨ s.rpt.timers.HasRoom) ∧
      (0 < s.caller.sessionUserId →
        s.caller.currentUserId ≠ s.caller.sessionUserId ∧
          env.corAssertOrder = [.repeater, .caller])) ∧
    (s.rpt.debounceTimer ≠ none → s.rpt.callerIdentified = true → ¬ LogsOut env s i)

instance (env : Station) (s : System) (i : Input) : Decidable (Admits env s i) :=
  inferInstanceAs (Decidable (_ ∧ _))

/-! ## What the caller's side leaves alone -/

structure Base (s : System) : Prop where
  on : s.rpt.loaded = true
  closed : s.rpt.cfg.requireId = true
  timed : Timed s.rpt
  session : s.rpt.timers.Owns s.caller.sessionTimer .sessionTimeout
  ani : s.rpt.timers.Owns s.caller.aniTimer .aniTimeout
  noLink : s.rpt.state ≠ .bridging

structure Beside (s s' : System) : Prop where
  base : Base s → Base s'
  state : s'.rpt.state = s.rpt.state
  debounce : s'.rpt.debounceTimer = s.rpt.debounceTimer
  atAssert : s'.sessionAtAssert = s.sessionAtAssert

structure Quiet (s s' : System) : Prop extends Beside s s' where
  flag : s'.rpt.callerIdentified = s.rpt.callerIdentified
  since : s'.identifiedSince = s.identifiedSince

/-- What the repeater remembers goes with what was fired. -/
structure Aside (s s' : System) : Prop extends Beside s s' where
  flags : s'.rpt.callerIdentified = s.rpt.callerIdentified ∧ s'.identifiedSince = s.identifiedSince ∨
    s'.rpt.callerIdentified = true ∧ s'.identifiedSince = true

structure Clearing (s s' : System) : Prop extends Beside s s' where
  since : s'.identifiedSince = s.identifiedSince
  flag : s'.rpt.callerIdentified = s.rpt.callerIdentified ∨ s'.rpt.callerIdentified = false

theorem Beside.trans {s t u : System} (first : Beside s t) (second : Beside t u) : Beside s u where
  base := fun base => second.base (first.base base)
  state := second.state.trans first.state
  debounce := second.debounce.trans first.debounce
  atAssert := second.atAssert.trans first.atAssert

theorem Quiet.refl (s : System) : Quiet s s :=
  ⟨⟨id, rfl, rfl, rfl⟩, rfl, rfl⟩

theorem Quiet.trans {s t u : System} (first : Quiet s t) (second : Quiet t u) : Quiet s u where
  toBeside := first.toBeside.trans second.toBeside
  flag := second.flag.trans first.flag
  since := second.since.trans first.since

theorem Quiet.aside {s t : System} (quiet : Quiet s t) : Aside s t where
  toBeside := quiet.toBeside
  flags := Or.inl ⟨quiet.flag, quiet.since⟩

theorem Quiet.clearing {s t : System} (quiet : Quiet s t) : Clearing s t where
  toBeside := quiet.toBeside
  since := quiet.since
  flag := Or.inl quiet.flag

theorem Aside.trans {s t u : System} (first : Aside s t) (second : Aside t u) : Aside s u where
  toBeside := first.toBeside.trans second.toBeside
  flags := by
    have := first.flags
    have := second.flags
    grind

theorem Clearing.trans {s t u : System} (first : Clearing s t) (second : Clearing t u) :
    Clearing s u where
  toBeside := first.toBeside.trans second.toBeside
  since := second.since.trans first.since
  flag := by
    have := first.flag
    have := second.flag
    grind

theorem Base.owned {s : System} (base : Base s) : Owned s :=
  ⟨base.timed, base.session, base.ani⟩

theorem Base.of_owned {s s' : System} (base : Base s) (owned : Owned s')
    (on : s'.rpt.loaded = s.rpt.loaded) (cfg : s'.rpt.cfg = s.rpt.cfg)
    (state : s'.rpt.state = s.rpt.state) : Base s' where
  on := on.trans base.on
  closed := by
    rw [cfg]
    exact base.closed
  timed := owned.timed
  session := owned.session
  ani := owned.ani
  noLink := by
    rw [state]
    exact base.noLink

theorem caller_quiet (s : System) {c : State} (session : c.sessionTimer = s.caller.sessionTimer)
    (ani : c.aniTimer = s.caller.aniTimer) : Quiet s { s with caller := c } where
  -- What the module notes for itself, apart from its timers.
  base := fun base => base.of_owned (caller_owned base.owned session ani) rfl rfl rfl
  state := rfl
  debounce := rfl
  atAssert := rfl
  flag := rfl
  since := rfl

theorem heard_aside (s : System) : Aside s (heard s) where
  base := fun base => base.of_owned (heard_owned base.owned) rfl rfl rfl
  state := rfl
  debounce := rfl
  atAssert := rfl
  flags := Or.inr ⟨rfl, rfl⟩

theorem withdrawn_clearing (s : System) : Clearing s (withdrawn s) := by
  have owned (base : Base s) := withdrawn_owned base.owned
  unfold withdrawn onRepeater Repeater.State.onCallerCleared at *
  split at owned
  next cleared =>
    rw [if_pos cleared]
    exact ⟨⟨fun base => base.of_owned (owned base) rfl rfl rfl, rfl, rfl, rfl⟩, rfl, Or.inr rfl⟩
  next other =>
    rw [if_neg other]
    exact (Quiet.refl s).clearing

/-! ## The handlers of the caller identification -/

theorem handles_quiet {s : System} {timers : Core.TimerTable Callback} {c : State}
    (owned : Owned s → Owned { s.setTimers timers with caller := c }) :
    Quiet s { s.setTimers timers with caller := c } :=
  ⟨⟨fun base => base.of_owned (owned base.owned) rfl rfl rfl, rfl, rfl, rfl⟩, rfl, rfl⟩

theorem sessionClear_quiet (s : System) : Quiet s (sessionClear s) :=
  handles_quiet sessionClear_owned

theorem cancelAni_quiet (s : System) : Quiet s (cancelAni s) :=
  handles_quiet cancelAni_owned

theorem restartSession_quiet (s : System) (ms : Int) :
    Quiet s ((s.cancelTimer s.caller.sessionTimer).startSession ms) :=
  handles_quiet fun owned => restartSession_owned owned ms

theorem startAni_quiet {s : System} (stopped : s.caller.aniTimer = none) (ms : Int) :
    Quiet s (s.startAni ms) :=
  handles_quiet fun owned => startAni_owned owned stopped ms

theorem doLogout_quiet {fire : Evt → System → System} {s : System}
    (nobody : ¬ (0 < s.caller.sessionUserId ∧ 0 < s.caller.currentUserId)) :
    Quiet s (doLogout fire s) := by
  -- Without a current caller a logout stays unnoticed.
  unfold doLogout
  split
  next => exact Quiet.refl s
  next session =>
    have current : ¬ 0 < (sessionClear s).caller.currentUserId := fun current =>
      nobody ⟨Nat.pos_of_ne_zero session, current⟩
    simp only [current, if_false]
    exact sessionClear_quiet s

theorem sessionStart_quiet (env : Station) (userId : Nat) (s : System) :
    Quiet s (sessionStart env userId s) := by
  unfold sessionStart
  refine Quiet.trans ?_ (restartSession_quiet _ _)
  exact caller_quiet s rfl rfl

theorem sessionRefresh_quiet (env : Station) (s : System) : Quiet s (sessionRefresh env s) := by
  unfold sessionRefresh
  split
  next => exact Quiet.refl s
  next => exact restartSession_quiet s env.loginTimeoutMs

theorem captureAni_quiet (env : Station) (d : Char) (s : System) : Quiet s (captureAni env d s) := by
  unfold captureAni
  simp only
  split
  next first =>
    refine (startAni_quiet first.2 env.aniWindowMs).trans ?_
    exact caller_quiet _ rfl rfl
  next => exact caller_quiet s rfl rfl

section Handlers

variable {env : Station} {fire : Evt → System → System} (dispatches : Dispatches fire)
include dispatches

theorem fireIdentified_aside (userId : Nat) (method : Method) (s : System) :
    Aside s (fireIdentified fire userId method s) := by
  unfold fireIdentified
  rw [dispatches.identified]
  refine Aside.trans (Quiet.aside ?_) (heard_aside _)
  exact caller_quiet s rfl rfl

theorem fireCleared_clearing (s : System) : Clearing s (fireCleared fire s) := by
  unfold fireCleared
  split
  next => exact (Quiet.refl s).clearing
  next =>
    rw [dispatches.cleared]
    refine Clearing.trans (Quiet.clearing ?_) (withdrawn_clearing _)
    exact caller_quiet s rfl rfl

theorem processAni_aside (env : Station) (s : System) : Aside s (processAni env fire s) := by
  unfold processAni
  split
  next => exact (Quiet.refl s).aside
  next =>
    split
    next u found => exact fireIdentified_aside dispatches u.id .dtmfAni s
    next => exact (Quiet.refl s).aside

theorem doLogout_clearing (s : System) : Clearing s (doLogout fire s) := by
  unfold doLogout
  split
  next => exact (Quiet.refl s).clearing
  next =>
    have cleared := (sessionClear_quiet s).clearing
    simp only
    split
    next => exact cleared.trans (fireCleared_clearing dispatches _)
    next => exact cleared

theorem login_aside {s : System}
    (stays : ¬ (0 < s.caller.sessionUserId ∧ env.logoutCode ≠ [] ∧
      s.caller.loginBuf = env.logoutCode ∧ 0 < s.caller.currentUserId)) :
    Aside s (login env fire s) := by
  unfold login
  have closed : Quiet s { s with caller := { s.caller with loginActive := false } } :=
    caller_quiet s rfl rfl
  simp only
  split
  next session =>
    split
    next matched =>
      refine (closed.trans (doLogout_quiet ?_)).aside
      rintro ⟨-, current⟩
      exact stays ⟨session, matched.1, matched.2, current⟩
    next => exact closed.aside
  next =>
    split
    next u found =>
      refine closed.aside.trans ((fireIdentified_aside dispatches u.id .dtmfLogin _).trans ?_)
      exact (sessionStart_quiet env u.id _).aside
    next => exact closed.aside

theorem login_clearing {s : System} (session : 0 < s.caller.sessionUserId) :
    Clearing s (login env fire s) := by
  unfold login
  have closed : Quiet s { s with caller := { s.caller with loginActive := false } } :=
    caller_quiet s rfl rfl
  simp only [session, if_true]
  split
  next => exact closed.clearing.trans (doLogout_clearing dispatches _)
  next => exact closed.clearing

theorem loginDigit_aside {s : System} {d : Char}
    (stays : d = '#' → s.caller.loginActive = true →
      ¬ (0 < s.caller.sessionUserId ∧ env.logoutCode ≠ [] ∧
        s.caller.loginBuf = env.logoutCode ∧ 0 < s.caller.currentUserId)) :
    Aside s (loginDigit env fire d s) := by
  unfold loginDigit
  split
  next =>
    refine Quiet.aside ?_
    exact caller_quiet s rfl rfl
  next =>
    split
    next active =>
      split
      next hash => exact login_aside dispatches (stays hash active)
      next =>
        refine Quiet.aside ?_
        split <;> exact caller_quiet s rfl rfl
    next => exact (Quiet.refl s).aside

theorem onDtmfDigit_aside {s : System} {d : Char}
    (stays : ¬ LogsOut env s (.dtmfDigit d)) : Aside s (onDtmfDigit env fire d s) := by
  unfold onDtmfDigit
  split
  next window =>
    split
    next star =>
      have processed := (cancelAni_quiet s).aside.trans (processAni_aside dispatches env _)
      refine processed.trans (loginDigit_aside dispatches ?_)
      intro hash
      rw [star] at hash
      cases hash
    next => exact (captureAni_quiet env d s).aside
  next window =>
    refine loginDigit_aside dispatches ?_
    rintro rfl active ⟨session, code, matched, current⟩
    refine stays ⟨⟨?_, rfl, active, session, code, matched⟩, current⟩
    simpa [takesAni] using window

theorem onDtmfDigit_clearing {s : System} {d : Char} (logsOut : dialsLogout env s.caller d) :
    Clearing s (onDtmfDigit env fire d s) := by
  obtain ⟨free, rfl, active, session, -, -⟩ := logsOut
  have window : ¬ (s.caller.aniActive = true ∧ s.caller.aniBuf.length < maxAniLen) := by
    simpa [takesAni] using free
  have plain : ('#' : Char) ≠ '*' := by decide
  simp only [onDtmfDigit, window, if_false, loginDigit, plain, active, if_true]
  exact login_clearing dispatches session

end Handlers

theorem session_due_quiet {s : System} {slot : Slot} {e : TimerEntry Callback}
    (found : s.rpt.timers.due slot = some e) (callback : e.callback = .sessionTimeout) :
    Quiet s { s.setTimers (s.rpt.timers.visit slot) with
      caller := { s.caller with sessionTimer := none } } :=
  handles_quiet fun owned => session_due_owned owned found callback

theorem ani_due_quiet {s : System} {slot : Slot} {e : TimerEntry Callback}
    (found : s.rpt.timers.due slot = some e) (callback : e.callback = .aniTimeout) :
    Quiet s { s.setTimers (s.rpt.timers.visit slot) with
      caller := { s.caller with aniTimer := none, aniActive := false } } :=
  handles_quiet fun owned => ani_due_owned owned found callback

/-! ## Key-up and unkeying -/

theorem armAni_quiet (s : System) : Quiet s (armAni s) := by
  unfold armAni
  split
  next => exact Quiet.refl s
  next => exact caller_quiet s rfl rfl

theorem armAni_rpt (s : System) : (armAni s).rpt = s.rpt := by
  unfold armAni
  split <;> rfl

theorem armAni_users (s : System) : (armAni s).caller.sessionUserId = s.caller.sessionUserId ∧
    (armAni s).caller.currentUserId = s.caller.currentUserId := by
  unfold armAni
  split <;> exact ⟨rfl, rfl⟩

theorem sessionRefresh_users (env : Station) (s : System) :
    (sessionRefresh env s).caller.sessionUserId = s.caller.sessionUserId ∧
      (sessionRefresh env s).caller.currentUserId = s.caller.currentUserId := by
  unfold sessionRefresh
  split <;> exact ⟨rfl, rfl⟩

section CorAssert

variable {env : Station} {fire : Evt → System → System} (dispatches : Dispatches fire)
include dispatches

theorem onCorAssert_aside (env : Station) (s : System) : Aside s (onCorAssert env fire s) := by
  unfold onCorAssert
  have armed := armAni_quiet s
  simp only
  split
  next =>
    have refreshed := armed.trans (sessionRefresh_quiet env _)
    split
    next => exact refreshed.aside.trans (fireIdentified_aside dispatches _ _ _)
    next => exact refreshed.aside
  next => exact armed.aside

theorem onCorAssert_identifies {s : System} (session : 0 < s.caller.sessionUserId)
    (other : s.caller.currentUserId ≠ s.caller.sessionUserId) :
    (onCorAssert env fire s).rpt.callerIdentified = true := by
  have users := armAni_users s
  have refreshed := sessionRefresh_users env (armAni s)
  have changes : (sessionRefresh env (armAni s)).caller.currentUserId ≠
      (sessionRefresh env (armAni s)).caller.sessionUserId := by
    rw [refreshed.1, refreshed.2, users.1, users.2]
    exact other
  simp only [onCorAssert, users.1, session, if_true, changes, ne_eq, not_false_eq_true,
    fireIdentified, dispatches.identified]
  rfl

omit dispatches in
theorem onCorAssert_nobody {s : System} (nobody : s.caller.sessionUserId = 0) :
    onCorAssert env fire s = armAni s := by
  simp [onCorAssert, armAni_users, nobody]

theorem onCorDrop_beside (s : System) : Beside s (onCorDrop fire s) := by
  have cancelled := (cancelAni_quiet s).clearing
  unfold onCorDrop
  simp only
  split
  next =>
    rw [dispatches.cleared]
    refine (cancelled.trans (Clearing.trans (Quiet.clearing ?_) (withdrawn_clearing _))).toBeside
    exact caller_quiet _ rfl rfl
  next => exact (cancelled.trans (fireCleared_clearing dispatches _)).toBeside

end CorAssert

/-! ## The handlers of the repeater -/

theorem repeaterAssert_base {s : System} (base : Base s) :
    Base (onRepeater s Repeater.State.onCorAssert) := by
  have setting := Repeater.onCorAssert_setting s.rpt
  refine ⟨setting.loaded.trans base.on, ?_, Repeater.onCorAssert_timed base.timed,
    Repeater.onCorAssert_foreign base.timed rfl base.session,
    Repeater.onCorAssert_foreign base.timed rfl base.ani, ?_⟩
  next =>
    simp only [onRepeater, setting.cfg]
    exact base.closed
  next =>
    by_cases idle : s.rpt.state = .idle
    next =>
      rw [onRepeater, Repeater.onCorAssert_closed idle base.closed]
      exact base.noLink
    next =>
      rcases (Repeater.onCorAssert_busy idle).2 with same | same
      next => exact same ▸ base.noLink
      next => simp [onRepeater, same]

theorem repeaterAssert_idle {s : System} (base : Base s) (idle : s.rpt.state = .idle)
    (room : s.rpt.debounceTimer ≠ none ∨ s.rpt.timers.HasRoom) :
    (onRepeater s Repeater.State.onCorAssert).rpt.state = .idle ∧
      (onRepeater s Repeater.State.onCorAssert).rpt.debounceTimer ≠ none ∧
      (onRepeater s Repeater.State.onCorAssert).rpt.callerIdentified = false := by
  have free := cancel_hasRoom base.timed.debounce room
  have positive : 0 < Repeater.State.debounceMs s.rpt.cfg := by
    unfold Repeater.State.debounceMs
    have := base.closed
    grind
  simp only [onRepeater, Repeater.onCorAssert_closed idle base.closed,
    Repeater.State.startDebounce, Repeater.State.cancelTimer]
  exact ⟨idle, by simp [create_fst, positive, free], trivial⟩

theorem repeaterDrop_base {s : System} (base : Base s) :
    Base (onRepeater s Repeater.State.onCorDrop) := by
  have setting := Repeater.onCorDrop_setting s.rpt
  refine ⟨setting.loaded.trans base.on, ?_, Repeater.onCorDrop_timed base.timed,
    Repeater.onCorDrop_foreign base.timed rfl base.session,
    Repeater.onCorDrop_foreign base.timed rfl base.ani, ?_⟩
  next =>
    simp only [onRepeater, setting.cfg]
    exact base.closed
  next =>
    rcases Repeater.onCorDrop_state s.rpt with same | same | same
    next => exact same ▸ base.noLink
    next => simp [onRepeater, same]
    next => simp [onRepeater, same]

/-- While a debounce runs, the repeater remembers what was fired since COR came up. -/
structure Remembers (s : System) : Prop where
  base : Base s
  deciding : s.rpt.debounceTimer ≠ none → s.rpt.state = .idle ∧
    s.rpt.callerIdentified = s.identifiedSince ∧
      (s.sessionAtAssert = true → s.rpt.callerIdentified = true)

theorem remembers_busy {s : System} (remembers : Remembers s) (busy : s.rpt.state ≠ .idle) :
    s.rpt.debounceTimer = none := by
  by_contra held
  exact busy (remembers.deciding held).1

theorem aside_remembers {s s' : System} (aside : Aside s s') (remembers : Remembers s) :
    Remembers s' where
  base := aside.base remembers.base
  deciding := by
    intro held
    rw [aside.debounce] at held
    obtain ⟨idle, flag, session⟩ := remembers.deciding held
    refine ⟨aside.state.trans idle, ?_⟩
    rw [aside.atAssert]
    rcases aside.flags with ⟨same, since⟩ | ⟨same, since⟩
    next => exact ⟨by rw [same, since, flag], same ▸ session⟩
    next => exact ⟨by rw [same, since], fun _ => same⟩

theorem clearing_remembers {s s' : System} (clearing : Clearing s s') (remembers : Remembers s)
    (stays : s.rpt.debounceTimer ≠ none → s.rpt.callerIdentified = false) : Remembers s' where
  base := clearing.base remembers.base
  deciding := by
    intro held
    rw [clearing.debounce] at held
    obtain ⟨idle, flag, session⟩ := remembers.deciding held
    have unknown := stays held
    have same : s'.rpt.callerIdentified = s.rpt.callerIdentified := by
      rcases clearing.flag with same | gone
      next => exact same
      next => rw [gone, unknown]
    refine ⟨clearing.state.trans idle, ?_⟩
    rw [clearing.atAssert, clearing.since, same]
    exact ⟨flag, session⟩

theorem access_of_state {env : Station} {s : System} {i : Input} (cor : i ≠ .corAssert)
    (quiet : ∀ slot, i = .visit slot → ∀ e ∈ s.rpt.timers.due slot,
      e.callback ≠ .debounceExpired)
    (same : (step env s i).rpt.state = s.rpt.state) : Access env s i where
  -- Nobody enters RECEIVING in a step that leaves the state alone.
  debounced := fun up => absurd up cor
  decided := fun slot visited e found callback => absurd callback (quiet slot visited e found)
  entered := by
    intro idle receiving
    rw [same, idle] at receiving
    cases receiving

theorem corAssert_perm (env : Station) :
    env.corAssertOrder = [.repeater, .caller] ∨ env.corAssertOrder = [.caller, .repeater] :=
  List.perm_pair.mp env.corAssertPerm

theorem corDrop_perm (env : Station) :
    env.corDropOrder = [.repeater, .caller] ∨ env.corDropOrder = [.caller, .repeater] :=
  List.perm_pair.mp env.corDropPerm

theorem monitor_base {s : System} (base : Base s) (evt : Evt) : Base (monitor evt s) := by
  cases evt <;> exact ⟨base.on, base.closed, base.timed, base.session, base.ani, base.noLink⟩

theorem fire_top (env : Station) (evt : Evt) (s : System) :
    (bus env).fire maxDepth evt s =
      ((bus env).subscribers evt).foldl (fun s h => (bus env).handle h (nested env) evt s) s :=
  Bus.fire_succ (bus env) 15 evt s

theorem corAssert_repeater_first {env : Station} (s : System)
    (order : env.corAssertOrder = [.repeater, .caller]) :
    step env s .corAssert = onCorAssert env (nested env)
      (onRepeater (monitor .corAssert s) Repeater.State.onCorAssert) := by
  have subscribers : (bus env).subscribers .corAssert = [.monitor, .repeater, .caller] :=
    congrArg (Module.monitor :: ·) order
  rw [step, fire_top, subscribers]
  rfl

theorem corAssert_caller_first {env : Station} (s : System)
    (order : env.corAssertOrder = [.caller, .repeater]) :
    step env s .corAssert = onRepeater (onCorAssert env (nested env) (monitor .corAssert s))
      Repeater.State.onCorAssert := by
  have subscribers : (bus env).subscribers .corAssert = [.monitor, .caller, .repeater] :=
    congrArg (Module.monitor :: ·) order
  rw [step, fire_top, subscribers]
  rfl

theorem corDrop_orders (env : Station) (s : System) :
    step env s .corDrop = onCorDrop (nested env) (onRepeater s Repeater.State.onCorDrop) ∨
      step env s .corDrop = onRepeater (onCorDrop (nested env) s) Repeater.State.onCorDrop := by
  rcases corDrop_perm env with order | order
  next =>
    have subscribers : (bus env).subscribers .corDrop = [.repeater, .caller] := order
    rw [step, fire_top, subscribers]
    exact Or.inl rfl
  next =>
    have subscribers : (bus env).subscribers .corDrop = [.caller, .repeater] := order
    rw [step, fire_top, subscribers]
    exact Or.inr rfl

theorem dtmfDigit_handled (env : Station) (s : System) (d : Char) :
    step env s (.dtmfDigit d) = onDtmfDigit env (nested env) d s := by
  rw [step, fire_top]
  rfl

/-! ## Steps -/

theorem corAssert_busy {env : Station} {s : System} (remembers : Remembers s)
    (busy : s.rpt.state ≠ .idle) : Remembers (step env s .corAssert) := by
  have base := monitor_base remembers.base .corAssert
  have none_held := remembers_busy remembers busy
  have dispatches := nested_dispatches env
  suffices after : Base (step env s .corAssert) ∧
      (step env s .corAssert).rpt.debounceTimer = none from
    ⟨after.1, fun held => absurd after.2 held⟩
  rcases corAssert_perm env with order | order
  next =>
    rw [corAssert_repeater_first s order]
    have aside := onCorAssert_aside dispatches env
      (onRepeater (monitor .corAssert s) Repeater.State.onCorAssert)
    have asserted : (onRepeater (monitor .corAssert s)
        Repeater.State.onCorAssert).rpt.debounceTimer = none :=
      (Repeater.onCorAssert_busy busy).1.trans none_held
    exact ⟨aside.base (repeaterAssert_base base), aside.debounce.trans asserted⟩
  next =>
    rw [corAssert_caller_first s order]
    have aside := onCorAssert_aside dispatches env (monitor .corAssert s)
    have still : (onCorAssert env (nested env) (monitor .corAssert s)).rpt.state ≠ .idle := by
      rw [aside.state]
      exact busy
    exact ⟨repeaterAssert_base (aside.base base),
      (Repeater.onCorAssert_busy still).1.trans (aside.debounce.trans none_held)⟩

theorem corAssert_idle {env : Station} {s : System} (remembers : Remembers s)
    (idle : s.rpt.state = .idle) (admits : Admits env s .corAssert) :
    Remembers (step env s .corAssert) ∧ (step env s .corAssert).rpt.debounceTimer ≠ none ∧
      (step env s .corAssert).rpt.state = .idle := by
  -- The key-up that starts a debounce.
  obtain ⟨room, known⟩ := admits.1 rfl idle
  have base := monitor_base remembers.base .corAssert
  have dispatches := nested_dispatches env
  rcases corAssert_perm env with order | order
  next =>
    rw [corAssert_repeater_first s order]
    obtain ⟨state, held, unknown⟩ := repeaterAssert_idle base idle room
    have aside := onCorAssert_aside dispatches env
      (onRepeater (monitor .corAssert s) Repeater.State.onCorAssert)
    have identifies : (monitor .corAssert s).sessionAtAssert = true →
        (onCorAssert env (nested env) (onRepeater (monitor .corAssert s)
          Repeater.State.onCorAssert)).rpt.callerIdentified = true := by
      intro active
      have session : 0 < s.caller.sessionUserId := by simpa [monitor] using active
      exact onCorAssert_identifies dispatches session (known session).1
    refine ⟨⟨aside.base (repeaterAssert_base base), fun _ => ⟨aside.state.trans state, ?_, ?_⟩⟩,
      by rwa [aside.debounce], aside.state.trans state⟩
    next =>
      rcases aside.flags with ⟨same, since⟩ | ⟨same, since⟩
      next =>
        rw [same, since, unknown]
        rfl
      next => rw [same, since]
    next =>
      rw [aside.atAssert]
      exact identifies
  next =>
    rw [corAssert_caller_first s order]
    -- The caller's handler comes first, so that there is no session.
    have nobody : s.caller.sessionUserId = 0 := by
      by_contra session
      have wrong := (known (Nat.pos_of_ne_zero session)).2
      rw [order] at wrong
      cases wrong
    have same : onCorAssert env (nested env) (monitor .corAssert s) =
        armAni (monitor .corAssert s) := onCorAssert_nobody nobody
    rw [same]
    have quiet := armAni_quiet (monitor .corAssert s)
    obtain ⟨state, held, unknown⟩ := repeaterAssert_idle (quiet.base base)
      (quiet.state.trans idle) (by rw [armAni_rpt]; exact room)
    refine ⟨⟨repeaterAssert_base (quiet.base base), fun _ => ⟨state, ?_, ?_⟩⟩, held, state⟩
    next =>
      rw [unknown]
      exact quiet.since.symm
    next =>
      intro active
      have session := quiet.atAssert.symm.trans active
      simp [monitor, nobody] at session

theorem corAssert_step {env : Station} {s : System} (remembers : Remembers s)
    (admits : Admits env s .corAssert) :
    Remembers (step env s .corAssert) ∧ Access env s .corAssert := by
  by_cases idle : s.rpt.state = .idle
  next =>
    obtain ⟨after, held, state⟩ := corAssert_idle remembers idle admits
    refine ⟨after, fun _ _ => (owns_pending after.base.timed.debounce).mpr held, by simp, ?_⟩
    intro _ receiving
    rw [state] at receiving
    cases receiving
  next => exact ⟨corAssert_busy remembers idle, fun _ up => absurd up idle, by simp,
      fun up => absurd up idle⟩

theorem corDrop_step {env : Station} {s : System} (remembers : Remembers s) :
    Remembers (step env s .corDrop) ∧ Access env s .corDrop := by
  have base := remembers.base
  have dispatches := nested_dispatches env
  suffices after : Base (step env s .corDrop) ∧ (step env s .corDrop).rpt.debounceTimer = none ∧
      (s.rpt.state = .idle → (step env s .corDrop).rpt.state ≠ .receiving) by
    obtain ⟨kept, dropped, entered⟩ := after
    exact ⟨⟨kept, fun held => absurd dropped held⟩, by simp, by simp,
      fun idle receiving => absurd receiving (entered idle)⟩
  have leaves : ∀ t : System, t.rpt.state = .idle →
      (onRepeater t Repeater.State.onCorDrop).rpt.state ≠ .receiving := by
    intro t idle
    rcases Repeater.onCorDrop_state t.rpt with same | same | same <;>
      simp [onRepeater, same, idle]
  rcases corDrop_orders env s with same | same
  next =>
    rw [same]
    have beside := onCorDrop_beside dispatches (onRepeater s Repeater.State.onCorDrop)
    exact ⟨beside.base (repeaterDrop_base base),
      beside.debounce.trans (Repeater.onCorDrop_debounce s.rpt),
      fun idle => beside.state ▸ leaves s idle⟩
  next =>
    rw [same]
    have beside := onCorDrop_beside dispatches s
    exact ⟨repeaterDrop_base (beside.base base), Repeater.onCorDrop_debounce _,
      fun idle => leaves _ (beside.state.trans idle)⟩

theorem beside_step {env : Station} {s : System} {i : Input} (remembers : Remembers s)
    (cor : i ≠ .corAssert)
    (quiet : ∀ slot, i = .visit slot → ∀ e ∈ s.rpt.timers.due slot, e.callback ≠ .debounceExpired)
    (aside : ¬ LogsOut env s i → Aside s (step env s i))
    (clearing : LogsOut env s i → Clearing s (step env s i)) (admits : Admits env s i) :
    Remembers (step env s i) ∧ Access env s i := by
  -- A step on the caller's side.
  by_cases logsOut : LogsOut env s i
  next =>
    have cleared := clearing logsOut
    refine ⟨clearing_remembers cleared remembers fun held => ?_,
      access_of_state cor quiet cleared.state⟩
    by_contra known
    exact admits.2 held (by simpa using known) logsOut
  next =>
    have kept := aside logsOut
    exact ⟨aside_remembers kept remembers, access_of_state cor quiet kept.state⟩

theorem dtmfDigit_step {env : Station} {s : System} {d : Char} (remembers : Remembers s)
    (admits : Admits env s (.dtmfDigit d)) :
    Remembers (step env s (.dtmfDigit d)) ∧ Access env s (.dtmfDigit d) := by
  refine beside_step remembers (by simp) (by simp) ?_ ?_ admits <;> rw [dtmfDigit_handled]
  next => exact onDtmfDigit_aside (nested_dispatches env)
  next => exact fun logsOut => onDtmfDigit_clearing (nested_dispatches env) logsOut.1

theorem logoutCommand_step {env : Station} {s : System} (remembers : Remembers s)
    (admits : Admits env s .logoutCommand) :
    Remembers (step env s .logoutCommand) ∧ Access env s .logoutCommand := by
  refine beside_step remembers (by simp) (by simp) ?_ ?_ admits
  next => exact fun stays => (doLogout_quiet stays).aside
  next => exact fun _ => doLogout_clearing (fire_dispatches env 15) s

theorem session_step {env : Station} {s : System} {slot : Slot} {e : TimerEntry Callback}
    (found : s.rpt.timers.due slot = some e) (callback : e.callback = .sessionTimeout)
    (remembers : Remembers s) (admits : Admits env s (.visit slot)) :
    Remembers (step env s (.visit slot)) ∧ Access env s (.visit slot) := by
  have expired := session_due_quiet found callback
  have dispatches := fire_dispatches env 15
  have fired : step env s (.visit slot) =
      sessionTimeoutCb ((bus env).fire maxDepth) (s.setTimers (s.rpt.timers.visit slot)) := by
    simp only [step, visit, found, callback, Option.map_some]
  refine beside_step remembers (by simp) ?_ ?_ ?_ admits
  next =>
    rintro slot' ⟨⟩ f again debounce
    obtain rfl := Option.some.inj (found.symm.trans again)
    rw [callback] at debounce
    cases debounce
  next =>
    intro stays
    rw [fired, sessionTimeoutCb]
    simp only
    split
    next session =>
      split
      next current => exact absurd ⟨e, found, callback, session, current⟩ stays
      next =>
        refine (expired.trans ?_).aside
        exact caller_quiet _ rfl rfl
    next => exact expired.aside
  next =>
    intro logsOut
    rw [fired, sessionTimeoutCb]
    simp only
    split
    next =>
      have closed : Quiet s { s.setTimers (s.rpt.timers.visit slot) with
          caller := { s.caller with sessionTimer := none, sessionUserId := 0 } } := by
        refine expired.trans ?_
        exact caller_quiet _ rfl rfl
      split
      next => exact closed.clearing.trans (fireCleared_clearing dispatches _)
      next => exact closed.clearing
    next => exact expired.clearing

theorem ani_step {env : Station} {s : System} {slot : Slot} {e : TimerEntry Callback}
    (found : s.rpt.timers.due slot = some e) (callback : e.callback = .aniTimeout)
    (remembers : Remembers s) (admits : Admits env s (.visit slot)) :
    Remembers (step env s (.visit slot)) ∧ Access env s (.visit slot) := by
  have fired : step env s (.visit slot) =
      aniTimeout env ((bus env).fire maxDepth) (s.setTimers (s.rpt.timers.visit slot)) := by
    simp only [step, visit, found, callback, Option.map_some]
  refine beside_step remembers (by simp) ?_ ?_ ?_ admits
  next =>
    rintro slot' ⟨⟩ f again debounce
    obtain rfl := Option.some.inj (found.symm.trans again)
    rw [callback] at debounce
    cases debounce
  next =>
    intro _
    rw [fired, aniTimeout]
    exact (ani_due_quiet found callback).aside.trans
      (processAni_aside (fire_dispatches env 15) env _)
  next =>
    rintro ⟨f, again, session, -⟩
    obtain rfl := Option.some.inj (found.symm.trans again)
    rw [callback] at session
    cases session

theorem repeater_visit {env : Station} {s : System} {slot : Slot}
    (others : ∀ e ∈ s.rpt.timers.due slot,
      e.callback ≠ .sessionTimeout ∧ e.callback ≠ .aniTimeout) :
    step env s (.visit slot) = { s with rpt := Repeater.visit s.rpt slot } := by
  -- The callback that is due, if any, is not the caller's.
  simp only [step, visit]
  cases found : s.rpt.timers.due slot with
  | none => rfl
  | some e =>
    obtain ⟨session, ani⟩ := others e found
    cases callback : e.callback with
    | sessionTimeout => exact absurd callback session
    | aniTimeout => exact absurd callback ani
    | tailExpired | totExpired | debounceExpired | other => simp [callback]

theorem repeater_visit_base {s : System} {slot : Slot} (base : Base s)
    (others : ∀ e ∈ s.rpt.timers.due slot,
      e.callback ≠ .sessionTimeout ∧ e.callback ≠ .aniTimeout)
    (noLink : (Repeater.visit s.rpt slot).state ≠ .bridging) :
    Base { s with rpt := Repeater.visit s.rpt slot } where
  on := (Repeater.visit_loaded s.rpt slot).trans base.on
  closed := by
    rw [(Repeater.visit_setting s.rpt slot).cfg]
    exact base.closed
  timed := Repeater.visit_timed base.timed slot
  session := Repeater.visit_foreign rfl base.session fun e found => (others e found).1
  ani := Repeater.visit_foreign rfl base.ani fun e found => (others e found).2
  noLink := noLink

theorem debounce_step {env : Station} {s : System} {slot : Slot} {e : TimerEntry Callback}
    (found : s.rpt.timers.due slot = some e) (callback : e.callback = .debounceExpired)
    (remembers : Remembers s) :
    Remembers (step env s (.visit slot)) ∧ Access env s (.visit slot) := by
  -- The decision.
  have base := remembers.base
  have others : ∀ f ∈ s.rpt.timers.due slot,
      f.callback ≠ .sessionTimeout ∧ f.callback ≠ .aniTimeout := by
    intro f again
    obtain rfl := Option.some.inj (found.symm.trans again)
    simp [callback]
  have held : s.rpt.debounceTimer ≠ none := by
    simp [(due_owned (by simpa [callback] using base.timed.debounce) found).2]
  obtain ⟨idle, flag, session⟩ := remembers.deciding held
  have visited : Repeater.visit s.rpt slot =
      Repeater.State.debounceExpired
        { s.rpt with timers := s.rpt.timers.visit slot } := by
    simp only [Repeater.visit, found, callback, Repeater.runCallback]
  have decides := Repeater.debounceExpired_closed
    (s := { s.rpt with timers := s.rpt.timers.visit slot }) idle base.closed
  have state : (Repeater.visit s.rpt slot).state = .receiving ↔ s.identifiedSince = true := by
    rw [visited, decides, ← flag]
  have dropped : (Repeater.visit s.rpt slot).debounceTimer = none := by
    rw [visited]
    exact Repeater.debounceExpired_debounce _
  have noLink : (Repeater.visit s.rpt slot).state ≠ .bridging := by
    rw [visited]
    exact Repeater.debounceExpired_noLink (by simp [idle])
  rw [repeater_visit others]
  refine ⟨⟨repeater_visit_base base others noLink, fun held' => absurd dropped held'⟩, by simp,
    ?_, ?_⟩ <;> rw [repeater_visit others]
  next =>
    rintro slot' ⟨⟩ _ _ _ _
    exact ⟨state, fun active _ => state.mpr (flag ▸ session active)⟩
  next => exact fun _ => state.mp

theorem other_step {env : Station} {s : System} {slot : Slot}
    (others : ∀ e ∈ s.rpt.timers.due slot,
      e.callback ≠ .sessionTimeout ∧ e.callback ≠ .aniTimeout)
    (quiet : ∀ e ∈ s.rpt.timers.due slot, e.callback ≠ .debounceExpired)
    (remembers : Remembers s) :
    Remembers (step env s (.visit slot)) ∧ Access env s (.visit slot) := by
  have base := remembers.base
  obtain ⟨debounce, flag, idle, noLink⟩ := Repeater.visit_busy base.timed slot quiet
  rw [repeater_visit others]
  refine ⟨⟨repeater_visit_base base others (noLink base.noLink), ?_⟩, by simp, ?_, ?_⟩
  next =>
    intro held
    obtain ⟨waits, same, session⟩ := remembers.deciding (debounce ▸ held)
    exact ⟨idle waits, flag ▸ same, flag ▸ session⟩
  next =>
    rintro slot' ⟨⟩ e found callback
    exact absurd callback (quiet e found)
  next =>
    intro waits receiving
    rw [repeater_visit others, idle waits] at receiving
    cases receiving

theorem visit_step {env : Station} {s : System} {slot : Slot} (remembers : Remembers s)
    (admits : Admits env s (.visit slot)) :
    Remembers (step env s (.visit slot)) ∧ Access env s (.visit slot) := by
  cases found : s.rpt.timers.due slot with
  | none => exact other_step (by simp [found]) (by simp [found]) remembers
  | some e =>
    cases callback : e.callback with
    | sessionTimeout => exact session_step found callback remembers admits
    | aniTimeout => exact ani_step found callback remembers admits
    | debounceExpired => exact debounce_step found callback remembers
    | tailExpired | totExpired | other =>
      exact other_step (by simp [found, callback]) (by simp [found, callback]) remembers

theorem table_step {env : Station} {s : System} {i : Input} (remembers : Remembers s)
    (quiet : Quiet s (step env s i)) (cor : i ≠ .corAssert) (visits : ∀ slot, i ≠ .visit slot) :
    Remembers (step env s i) ∧ Access env s i :=
  -- A step that touches no more than the clock, the timers of further modules, or emergency mode.
  ⟨aside_remembers quiet.aside remembers,
    access_of_state cor (fun slot visited => absurd visited (visits slot)) quiet.state⟩

theorem table_quiet {s : System} {timers : Core.TimerTable Callback}
    (keeps : ∀ handle callback, callback ≠ .other → s.rpt.timers.Owns handle callback →
      timers.Owns handle callback) : Quiet s (s.setTimers timers) :=
  handles_quiet fun owned => table_owned owned keeps

theorem step_access {env : Station} {s : System} {i : Input} (remembers : Remembers s)
    (admits : Admits env s i) : Remembers (step env s i) ∧ Access env s i := by
  cases i with
  | visit slot => exact visit_step remembers admits
  | corAssert => exact corAssert_step remembers admits
  | corDrop => exact corDrop_step remembers
  | dtmfDigit d => exact dtmfDigit_step remembers admits
  | logoutCommand => exact logoutCommand_step remembers admits
  | elapse us =>
    refine table_step remembers ?_ (by simp) (by simp)
    exact table_quiet fun _ _ _ owns => elapse_owns owns us
  | beginTick =>
    refine table_step remembers ?_ (by simp) (by simp)
    exact table_quiet fun _ _ _ owns => beginTick_owns owns
  | setEmergency active =>
    refine table_step remembers ?_ (by simp) (by simp)
    refine ⟨⟨fun base => ?_, rfl, rfl, rfl⟩, rfl, rfl⟩
    exact base.of_owned (emergency_owned base.owned active) rfl rfl rfl
  | otherTimer ms repeats =>
    refine table_step remembers ?_ (by simp) (by simp)
    exact table_quiet fun _ _ known owns => create_owns_other owns known ms repeats
  | otherCancel timerId =>
    refine table_step remembers ?_ (by simp) (by simp)
    refine table_quiet fun handle callback known owns => drop_owns owns ?_
    rintro e rfl
    simp [known]

theorem start_remembers {file : Config.KerchunkConfig}
    (closed : (Repeater.repeaterConfigure file).requireId = true) (hasTts : Bool) :
    Remembers (start file hasTts) where
  base := by
    have timed := Repeater.load_timed hasTts
    exact ⟨rfl, closed, ⟨timed.tail, timed.tot, timed.debounce, timed.inTail, timed.inHang,
      timed.inReceiving⟩, init_owns, init_owns, by simp [start, Repeater.load]⟩
  deciding := fun held => absurd rfl held

theorem closed_access (file : Config.KerchunkConfig)
    (closed : (Repeater.repeaterConfigure file).requireId = true) (hasTts : Bool)
    (users : List User) (corAssertOrder corDropOrder : List Module)
    (corAssertPerm : corAssertOrder.Perm [.repeater, .caller])
    (corDropPerm : corDropOrder.Perm [.repeater, .caller]) (inputs : List Input) :
    let env := callerConfigure file users corAssertOrder corDropOrder corAssertPerm corDropPerm
    Machine.Guarded (step env) (Admits env) (start file hasTts) inputs →
      Machine.Guarded (step env) (Access env) (start file hasTts) inputs := by
  intro env admits
  exact Machine.guarded_of_invariant (step env) (P := Remembers)
    (fun _ _ remembers allowed => step_access remembers allowed) (start_remembers closed hasTts)
    admits

/-! ## A login and the next key-up -/

def closedRepeater : Config.KerchunkConfig :=
  -- The configuration `[repeater] require_identification = on`.
  [{ sectionName := "repeater".toList
     key := "require_identification".toList
     value := "on".toList }]

def member : User where
  id := 1
  ani := []
  dtmfLogin := "123".toList
  numbered := Nat.one_pos

def loginThenKeyUp : List Input :=
  -- The member logs in, unkeys, and keys up again.
  .corAssert :: "*123#".toList.map .dtmfDigit ++
    [.corDrop, .corAssert, .elapse 500000, .beginTick]

def repeaterFirst : Station :=
  callerConfigure closedRepeater [member] [.repeater, .caller] [.repeater, .caller]
    (List.Perm.refl _) (List.Perm.refl _)

def callerFirst : Station :=
  callerConfigure closedRepeater [member] [.caller, .repeater] [.caller, .repeater]
    (List.Perm.swap ..) (List.Perm.swap ..)

def secondSlot : Slot := ⟨1, by decide⟩

theorem login_denied_when_caller_first :
    ¬ Machine.Guarded (step callerFirst) (Access callerFirst) (start closedRepeater false)
      (loginThenKeyUp ++ [.visit secondSlot]) := by
  rw [Machine.guarded_append]
  rintro ⟨-, access, -⟩
  have due : ((Machine.run (step callerFirst) (start closedRepeater false)
      loginThenKeyUp).rpt.timers.due secondSlot).any
        (fun e => e.callback = .debounceExpired) = true := by
    decide
  obtain ⟨e, found, debounce⟩ := (Option.any_eq_true ..).mp due
  have decided := access.decided secondSlot rfl e found (by simpa using debounce) (by decide)
  exact absurd (decided.1.mpr (by decide)) (by decide)

theorem login_admitted_when_repeater_first :
    Machine.Guarded (step repeaterFirst) (Access repeaterFirst) (start closedRepeater false)
      (loginThenKeyUp ++ [.visit firstSlot]) :=
  closed_access closedRepeater (by decide) false [member] _ _ _ _ _ (by decide)

end Kerchunk.Caller
