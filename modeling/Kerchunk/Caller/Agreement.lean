import Kerchunk.Caller.Access
import Kerchunk.Caller.Signals

set_option autoImplicit false

/-!
# The caller module with its timers, and without

Handler by handler, what the module does on the bus is what the smaller model of it says.
-/

namespace Kerchunk.Caller.Agreement

open Kerchunk.Caller.Signals (Directory Outcome Session)

/-- The session, with its two timers known to run or not. -/
def view (c : State) (aniRuns sessionRuns : Bool) : Session where
  currentUserId := c.currentUserId
  currentMethod := c.currentMethod
  aniActive := c.aniActive
  aniBuf := c.aniBuf
  aniTimer := aniRuns
  loginActive := c.loginActive
  loginBuf := c.loginBuf
  sessionUserId := c.sessionUserId
  sessionTimer := sessionRuns

/-- A timer that the table holds runs; one that could not be created may be said to run. -/
inductive Matches (c : State) : Session → Prop where
  | viewed (aniRuns sessionRuns : Bool) (ani : c.aniTimer ≠ none → aniRuns = true)
      (session : c.sessionTimer ≠ none → sessionRuns = true) : Matches c (view c aniRuns sessionRuns)

def identifies (o : Outcome) : Bool :=
  match o.signal with
  | some (.identified ..) => true
  | _ => false

/-- The session is as the outcome says, and CALLER_IDENTIFIED was fired if it says so. -/
structure Reflects (s after : System) (o : Outcome) : Prop where
  session : Matches after.caller o.session
  since : after.identifiedSince = (s.identifiedSince || identifies o)

def directory (env : Station) : Directory :=
  ⟨env.users, env.logoutCode⟩

variable {env : Station} {fire : Evt → System → System} {s : System} {q : Session}

theorem start_matches : Matches init Signals.init :=
  .viewed false false (absurd rfl) (absurd rfl)

theorem silent_reflects {after : System} {q : Session} (session : Matches after.caller q)
    (since : after.identifiedSince = s.identifiedSince) : Reflects s after (Signals.silent q) :=
  ⟨session, by simp [identifies, Signals.silent, since]⟩

theorem reflects_from {between after : System} {o : Outcome} (reflects : Reflects between after o)
    (since : between.identifiedSince = s.identifiedSince) : Reflects s after o :=
  ⟨reflects.session, since ▸ reflects.since⟩

theorem reflects_ite {p p' : Prop} [Decidable p] [Decidable p'] (same : p ↔ p')
    {yes no : System} {yes' no' : Outcome} (then_ : p → Reflects s yes yes')
    (else_ : ¬ p → Reflects s no no') :
    Reflects s (if p then yes else no) (if p' then yes' else no') := by
  by_cases holds : p
  next =>
    rw [if_pos holds, if_pos (same.mp holds)]
    exact then_ holds
  next =>
    rw [if_neg holds, if_neg fun other => holds (same.mpr other)]
    exact else_ holds

theorem fireIdentified_reflects (dispatches : Dispatches fire) (m : Matches s.caller q)
    (userId : Nat) (method : Method) :
    Reflects s (fireIdentified fire userId method s) (Signals.fireIdentified userId method q) := by
  obtain ⟨aniRuns, sessionRuns, ani, session⟩ := m
  unfold fireIdentified
  rw [dispatches.identified]
  refine ⟨.viewed aniRuns sessionRuns ani session, ?_⟩
  simp [heard, onRepeater, identifies, Signals.fireIdentified]

theorem cleared_reflects (dispatches : Dispatches fire) (m : Matches s.caller q) :
    Reflects s
      (fire .callerCleared
        { s with caller := { s.caller with currentUserId := 0, currentMethod := .unknown } })
      ⟨{ q with currentUserId := 0, currentMethod := .unknown }, some .cleared⟩ := by
  obtain ⟨aniRuns, sessionRuns, ani, session⟩ := m
  rw [dispatches.cleared]
  refine ⟨.viewed aniRuns sessionRuns ani session, ?_⟩
  simp [withdrawn, onRepeater, identifies]

theorem fireCleared_reflects (dispatches : Dispatches fire) (m : Matches s.caller q) :
    Reflects s (fireCleared fire s) (Signals.fireCleared q) := by
  have same : s.caller.currentUserId = 0 ↔ q.currentUserId = 0 := by
    cases m
    rfl
  exact reflects_ite same (fun _ => silent_reflects m rfl) fun _ => cleared_reflects dispatches m

/-! ## Login sessions -/

theorem sessionClear_matches (m : Matches s.caller q) :
    Matches (sessionClear s).caller (Signals.sessionClear q) := by
  obtain ⟨aniRuns, sessionRuns, ani, -⟩ := m
  exact .viewed aniRuns false ani (absurd rfl)

theorem sessionStart_matches (m : Matches s.caller q) (userId : Nat) :
    Matches (sessionStart env userId s).caller (Signals.sessionStart userId q) := by
  obtain ⟨aniRuns, sessionRuns, ani, -⟩ := m
  exact .viewed aniRuns true ani fun _ => rfl

theorem sessionRefresh_matches (m : Matches s.caller q) :
    Matches (sessionRefresh env s).caller q := by
  obtain ⟨aniRuns, sessionRuns, ani, session⟩ := m
  unfold sessionRefresh
  split_ifs with idle
  next => exact .viewed aniRuns sessionRuns ani session
  next =>
    have running : s.caller.sessionTimer ≠ none := fun none => idle (.inr none)
    exact .viewed aniRuns sessionRuns ani fun _ => session running

theorem doLogout_reflects (dispatches : Dispatches fire) (m : Matches s.caller q) :
    Reflects s (doLogout fire s) (Signals.doLogout q) := by
  have cleared := sessionClear_matches m
  have nobody : s.caller.sessionUserId = 0 ↔ q.sessionUserId = 0 := by
    cases m
    rfl
  have somebody : 0 < (sessionClear s).caller.currentUserId ↔
      0 < (Signals.sessionClear q).currentUserId := by
    cases m
    rfl
  refine reflects_ite nobody (fun _ => silent_reflects m rfl) fun _ => ?_
  exact reflects_ite somebody
    (fun _ => reflects_from (fireCleared_reflects dispatches cleared) rfl)
    fun _ => silent_reflects cleared rfl

theorem sessionTimeoutCb_reflects (dispatches : Dispatches fire) (m : Matches s.caller q) :
    Reflects s (sessionTimeoutCb fire s) (Signals.sessionTimeoutCb q) := by
  obtain ⟨aniRuns, sessionRuns, ani, -⟩ := m
  have ended : Matches { s.caller with sessionTimer := none, sessionUserId := 0 }
      { view s.caller aniRuns sessionRuns with sessionTimer := false, sessionUserId := 0 } :=
    .viewed aniRuns false ani (absurd rfl)
  refine reflects_ite Iff.rfl (fun _ => ?_) fun _ => ?_
  next =>
    refine reflects_ite Iff.rfl (fun _ => ?_) fun _ => silent_reflects ended rfl
    exact reflects_from (fireCleared_reflects dispatches ended) rfl
  next => exact silent_reflects (.viewed aniRuns false ani (absurd rfl)) rfl

/-! ## ANI -/

theorem processAni_reflects (dispatches : Dispatches fire) (m : Matches s.caller q) :
    Reflects s (processAni env fire s) (Signals.processAni (directory env) q) := by
  obtain ⟨aniRuns, sessionRuns, ani, session⟩ := m
  have same : Matches s.caller (view s.caller aniRuns sessionRuns) :=
    .viewed aniRuns sessionRuns ani session
  refine reflects_ite Iff.rfl (fun _ => silent_reflects same rfl) fun _ => ?_
  have found : Signals.lookupByAni (directory env) (view s.caller aniRuns sessionRuns).aniBuf =
      lookupByAni env s.caller.aniBuf := rfl
  rw [found]
  cases lookupByAni env s.caller.aniBuf with
  | some u => exact fireIdentified_reflects dispatches same u.id .dtmfAni
  | none => exact silent_reflects same rfl

theorem aniTimeout_reflects (dispatches : Dispatches fire) (m : Matches s.caller q) :
    Reflects s (aniTimeout env fire s) (Signals.aniTimeout (directory env) q) := by
  obtain ⟨aniRuns, sessionRuns, -, session⟩ := m
  have closed : Matches { s.caller with aniTimer := none, aniActive := false }
      { view s.caller aniRuns sessionRuns with aniTimer := false, aniActive := false } :=
    .viewed false sessionRuns (absurd rfl) session
  exact reflects_from (processAni_reflects dispatches closed) rfl

/-! ## Event handlers -/

theorem armAni_matches (m : Matches s.caller q) :
    Matches (armAni s).caller (Signals.armAni q) := by
  obtain ⟨aniRuns, sessionRuns, ani, session⟩ := m
  unfold armAni Signals.armAni
  by_cases open_ : s.caller.aniActive = true
  next =>
    rw [if_pos open_, if_pos (show (view s.caller _ _).aniActive = true from open_)]
    exact .viewed aniRuns sessionRuns ani session
  next =>
    rw [if_neg open_, if_neg (show ¬ (view s.caller _ _).aniActive = true from open_)]
    exact .viewed aniRuns sessionRuns ani session

theorem cancelAni_matches (m : Matches s.caller q) :
    Matches (cancelAni s).caller (Signals.cancelAni q) := by
  obtain ⟨aniRuns, sessionRuns, -, session⟩ := m
  exact .viewed false sessionRuns (absurd rfl) session

theorem onCorDrop_reflects (dispatches : Dispatches fire) (m : Matches s.caller q) :
    Reflects s (onCorDrop fire s) (Signals.onCorDrop q) := by
  have closed := cancelAni_matches m
  have login : (cancelAni s).caller.currentMethod = .dtmfLogin ↔
      (Signals.cancelAni q).currentMethod = .dtmfLogin := by
    cases m
    rfl
  refine reflects_ite login (fun _ => ?_) fun _ => ?_
  next => exact reflects_from (cleared_reflects dispatches closed) rfl
  next => exact reflects_from (fireCleared_reflects dispatches closed) rfl

theorem onCorAssert_reflects (dispatches : Dispatches fire) (m : Matches s.caller q) :
    Reflects s (onCorAssert env fire s) (Signals.onCorAssert q) := by
  have armed := armAni_matches m
  have quiet : (armAni s).identifiedSince = s.identifiedSince := by
    unfold armAni
    split_ifs <;> rfl
  obtain ⟨after, after_eq⟩ : ∃ after, Signals.armAni q = after := ⟨_, rfl⟩
  unfold onCorAssert Signals.onCorAssert
  dsimp only
  rw [after_eq] at armed ⊢
  by_cases session : 0 < (armAni s).caller.sessionUserId
  next =>
    have refreshed : Matches (sessionRefresh env (armAni s)).caller after :=
      sessionRefresh_matches armed
    have since : (sessionRefresh env (armAni s)).identifiedSince = s.identifiedSince := by
      unfold sessionRefresh
      split_ifs <;> exact quiet
    have same : (sessionRefresh env (armAni s)).caller.currentUserId ≠
        (sessionRefresh env (armAni s)).caller.sessionUserId ↔
          0 < after.sessionUserId ∧ after.currentUserId ≠ after.sessionUserId := by
      have signed : 0 < after.sessionUserId := by
        cases armed
        exact session
      rw [and_iff_right signed]
      cases refreshed
      rfl
    have user : after.sessionUserId =
        (sessionRefresh env (armAni s)).caller.sessionUserId := by
      cases refreshed
      rfl
    rw [if_pos session]
    refine reflects_ite same (fun _ => ?_) fun _ => silent_reflects refreshed since
    rw [user]
    exact reflects_from (fireIdentified_reflects dispatches refreshed _ _) since
  next =>
    have signed : ¬ (0 < after.sessionUserId ∧ after.currentUserId ≠ after.sessionUserId) := by
      cases armed
      exact fun both => session both.1
    rw [if_neg session, if_neg signed]
    exact silent_reflects armed quiet

theorem captureAni_reflects (m : Matches s.caller q) (d : Char) :
    Reflects s (captureAni env d s) (Signals.silent (Signals.captureAni d q)) := by
  obtain ⟨aniRuns, sessionRuns, ani, session⟩ := m
  let runs := aniRuns || decide (s.caller.aniBuf = [])
  unfold captureAni
  split_ifs with first
  next =>
    have started : runs = true := by simp [runs, first.1]
    exact silent_reflects (.viewed runs sessionRuns (fun _ => started) session) rfl
  next =>
    have kept (running : s.caller.aniTimer ≠ none) : runs = true := by simp [runs, ani running]
    exact silent_reflects (.viewed runs sessionRuns kept session) rfl

theorem login_reflects (dispatches : Dispatches fire) (m : Matches s.caller q) :
    Reflects s (login env fire s) (Signals.login (directory env) q) := by
  obtain ⟨aniRuns, sessionRuns, ani, session⟩ := m
  have typed : Matches { s.caller with loginActive := false }
      { view s.caller aniRuns sessionRuns with loginActive := false } :=
    .viewed aniRuns sessionRuns ani session
  refine reflects_ite Iff.rfl (fun _ => ?_) fun _ => ?_
  next =>
    refine reflects_ite Iff.rfl (fun _ => ?_) fun _ => silent_reflects typed rfl
    exact reflects_from (doLogout_reflects dispatches typed) rfl
  next =>
    have found : Signals.lookupByLogin (directory env) (view s.caller aniRuns sessionRuns).loginBuf =
        lookupByLogin env s.caller.loginBuf := rfl
    rw [found]
    cases lookupByLogin env s.caller.loginBuf with
    | some u =>
      have identified := @fireIdentified_reflects _
        { s with caller := { s.caller with loginActive := false } } _ dispatches typed u.id .dtmfLogin
      exact ⟨sessionStart_matches identified.session u.id, identified.since⟩
    | none => exact silent_reflects typed rfl

theorem loginDigit_reflects (dispatches : Dispatches fire) (m : Matches s.caller q) (d : Char) :
    Reflects s (loginDigit env fire d s) (Signals.loginDigit (directory env) d q) := by
  obtain ⟨aniRuns, sessionRuns, ani, session⟩ := m
  have same : Matches s.caller (view s.caller aniRuns sessionRuns) :=
    .viewed aniRuns sessionRuns ani session
  refine reflects_ite Iff.rfl (fun _ => ?_) fun _ => ?_
  next => exact silent_reflects (.viewed aniRuns sessionRuns ani session) rfl
  refine reflects_ite Iff.rfl (fun _ => ?_) fun _ => silent_reflects same rfl
  refine reflects_ite Iff.rfl (fun _ => login_reflects dispatches same) fun _ => ?_
  refine reflects_ite Iff.rfl (fun _ => ?_) fun _ => ?_
  next => exact silent_reflects (.viewed aniRuns sessionRuns ani session) rfl
  next => exact silent_reflects (.viewed aniRuns sessionRuns ani session) rfl

theorem onDtmfDigit_reflects (dispatches : Dispatches fire) (m : Matches s.caller q) (d : Char) :
    Reflects s (onDtmfDigit env fire d s) (Signals.onDtmfDigit (directory env) d q) := by
  have window : s.caller.aniActive = true ∧ s.caller.aniBuf.length < maxAniLen ↔
      q.aniActive = true ∧ q.aniBuf.length < maxAniLen := by
    cases m
    rfl
  refine reflects_ite window (fun _ => ?_) fun _ => loginDigit_reflects dispatches m d
  refine reflects_ite Iff.rfl (fun star => ?_) fun _ => captureAni_reflects m d
  have processed := @processAni_reflects env _ _ _ dispatches (cancelAni_matches m)
  have began := @loginDigit_reflects env _ _ _ dispatches processed.session d
  refine ⟨began.session, ?_⟩
  have quiet : identifies (Signals.loginDigit (directory env) d
      (Signals.processAni (directory env) (Signals.cancelAni q)).session) = false := by
    rw [star]
    rfl
  rw [began.since, quiet, Bool.or_false]
  exact processed.since

/-! ## Steps -/

/-- What reaches the module in a step. -/
inductive Event where
  | corAssert
  | corDrop
  | handled (i : Signals.Input)

def event (s : System) : Input → Option Event
  | .corAssert => some .corAssert
  | .corDrop => some .corDrop
  | .dtmfDigit d => some (.handled (.dtmfDigit d))
  | .logoutCommand => some (.handled .logoutCommand)
  | .visit slot =>
    match (s.rpt.timers.due slot).map Core.TimerEntry.callback with
    | some .sessionTimeout => some (.handled .sessionTimeout)
    | some .aniTimeout => some (.handled .aniTimeout)
    | _ => none
  | _ => none

def outcome (dir : Directory) (q : Session) : Option Event → Outcome
  | some .corAssert => Signals.onCorAssert q
  | some .corDrop => Signals.onCorDrop q
  | some (.handled i) => Signals.handle dir q i
  | none => Signals.silent q

def noted (s : System) : Input → System
  -- The monitor comes first at COR_ASSERT.
  | .corAssert => monitor .corAssert s
  | _ => s

theorem corAssert_reflects (m : Matches s.caller q) :
    Reflects (monitor .corAssert s) (step env s .corAssert) (Signals.onCorAssert q) := by
  rcases corAssert_perm env with order | order
  next =>
    have after : Matches (onRepeater (monitor .corAssert s) Repeater.State.onCorAssert).caller q := m
    rw [corAssert_repeater_first s order]
    exact reflects_from (onCorAssert_reflects (nested_dispatches env) after) rfl
  next =>
    have before : Matches (monitor .corAssert s).caller q := m
    obtain ⟨session, since⟩ := @onCorAssert_reflects env _ _ _ (nested_dispatches env) before
    rw [corAssert_caller_first s order]
    exact ⟨session, since⟩

theorem corDrop_reflects (m : Matches s.caller q) :
    Reflects s (step env s .corDrop) (Signals.onCorDrop q) := by
  rcases corDrop_orders env s with repeaterFirst | callerFirst
  next =>
    have after : Matches (onRepeater s Repeater.State.onCorDrop).caller q := m
    rw [repeaterFirst]
    exact reflects_from (onCorDrop_reflects (nested_dispatches env) after) rfl
  next =>
    obtain ⟨session, since⟩ := onCorDrop_reflects (nested_dispatches env) m
    rw [callerFirst]
    exact ⟨session, since⟩

theorem visit_reflects (m : Matches s.caller q) (slot : Core.Slot)
    (session : s.rpt.timers.Owns s.caller.sessionTimer .sessionTimeout)
    (ani : s.rpt.timers.Owns s.caller.aniTimer .aniTimeout) :
    Reflects s (visit env s slot) (outcome (directory env) q (event s (.visit slot))) := by
  have dispatches := fire_dispatches env 15
  have passed : Matches (s.setTimers (s.rpt.timers.visit slot)).caller q := m
  unfold visit event
  dsimp only
  cases found : s.rpt.timers.due slot with
  | none => exact silent_reflects m rfl
  | some e =>
    rw [Option.map_some]
    cases callback : e.callback with
    | sessionTimeout =>
      have running : q.sessionTimer = true := by
        rw [← callback] at session
        obtain ⟨aniRuns, sessionRuns, -, runs⟩ := m
        exact runs (by simp [(Core.TimerTable.due_owned session found).2])
      have handled : outcome (directory env) q (some (.handled .sessionTimeout)) =
          Signals.sessionTimeoutCb q := if_pos running
      rw [handled]
      exact reflects_from (sessionTimeoutCb_reflects dispatches passed) rfl
    | aniTimeout =>
      have running : q.aniTimer = true := by
        rw [← callback] at ani
        obtain ⟨aniRuns, sessionRuns, runs, -⟩ := m
        exact runs (by simp [(Core.TimerTable.due_owned ani found).2])
      have handled : outcome (directory env) q (some (.handled .aniTimeout)) =
          Signals.aniTimeout (directory env) q := if_pos running
      rw [handled]
      exact reflects_from (aniTimeout_reflects dispatches passed) rfl
    | _ => exact silent_reflects m rfl

/-- Each step does to the module what the smaller model says of what reaches it, and fires
CALLER_IDENTIFIED when that says so. -/
theorem step_reflects (m : Matches s.caller q) (i : Input)
    (session : s.rpt.timers.Owns s.caller.sessionTimer .sessionTimeout)
    (ani : s.rpt.timers.Owns s.caller.aniTimer .aniTimeout) :
    Reflects (noted s i) (step env s i) (outcome (directory env) q (event s i)) := by
  cases i with
  | corAssert => exact corAssert_reflects m
  | corDrop => exact corDrop_reflects m
  | dtmfDigit d =>
    rw [dtmfDigit_handled]
    exact onDtmfDigit_reflects (nested_dispatches env) m d
  | logoutCommand => exact doLogout_reflects (fire_dispatches env 15) m
  | visit slot => exact visit_reflects m slot session ani
  | elapse us => exact silent_reflects m rfl
  | beginTick => exact silent_reflects m rfl
  | setEmergency active => exact silent_reflects m rfl
  | otherTimer ms repeats => exact silent_reflects m rfl
  | otherCancel timerId => exact silent_reflects m rfl

end Kerchunk.Caller.Agreement
