import Kerchunk.Caller.Model
import Kerchunk.Repeater.Timers

set_option autoImplicit false

/-!
# The caller module's timers

The session timer and the ANI timer are pending exactly while the variable of each holds its id,
whatever happens to the module and to the repeater.
-/

namespace Kerchunk.Caller

open Kerchunk.Core (Slot TimerEntry maxDepth)
open Kerchunk.Core.TimerTable
open Kerchunk.Repeater (Timed Callback)

/-! ## Nested events -/

def heard (s : System) : System :=
  onRepeater { s with identifiedSince := true } Repeater.State.onCallerIdentified

def withdrawn (s : System) : System :=
  onRepeater s Repeater.State.onCallerCleared

/-- The events that a handler fires reach the repeater. -/
structure Dispatches (fire : Evt → System → System) : Prop where
  identified : ∀ userId method s, fire (.callerIdentified userId method) s = heard s
  cleared : ∀ s, fire .callerCleared s = withdrawn s

theorem fire_dispatches (env : Station) (depth : Nat) :
    Dispatches ((bus env).fire (depth + 1)) where
  identified := fun _ _ _ => rfl
  cleared := fun _ => rfl

def nested (env : Station) : Evt → System → System :=
  (bus env).fire 15

theorem nested_dispatches (env : Station) : Dispatches (nested env) :=
  fire_dispatches env 14

/-! ## Handles -/

structure Owned (s : System) : Prop where
  timed : Timed s.rpt
  session : s.rpt.timers.Owns s.caller.sessionTimer .sessionTimeout
  ani : s.rpt.timers.Owns s.caller.aniTimer .aniTimeout

theorem start_owned (file : Config.KerchunkConfig) (hasTts : Bool) : Owned (start file hasTts) := by
  have timed := Repeater.load_timed hasTts
  exact ⟨⟨timed.tail, timed.tot, timed.debounce, timed.inTail, timed.inHang, timed.inReceiving⟩,
    init_owns, init_owns⟩

theorem own_ne {callback made : Callback} (own : callback.ofRepeater = true)
    (foreign : made.ofRepeater = false) : callback ≠ made := by
  rintro rfl
  rw [own] at foreign
  cases foreign

theorem timed_keeps {r r' : Repeater.State} (timed : Timed r)
    (timers : ∀ handle callback, callback.ofRepeater = true →
      r.timers.Owns handle callback → r'.timers.Owns handle callback)
    (state : r'.state = r.state) (tail : r'.tailTimer = r.tailTimer)
    (hang : r'.hangTimer = r.hangTimer) (tot : r'.totTimer = r.totTimer)
    (debounce : r'.debounceTimer = r.debounceTimer) : Timed r' where
  tail := by
    rw [tail, hang]
    exact timers _ _ rfl timed.tail
  tot := by
    rw [tot]
    exact timers _ _ rfl timed.tot
  debounce := by
    rw [debounce]
    exact timers _ _ rfl timed.debounce
  inTail := by
    rw [tail, state]
    exact timed.inTail
  inHang := by
    rw [hang, state]
    exact timed.inHang
  inReceiving := by
    rw [tot, state]
    exact timed.inReceiving

theorem owned_handles {s : System} (owned : Owned s) {timers : Core.TimerTable Callback}
    {c : State} (own : ∀ handle callback, callback.ofRepeater = true →
      s.rpt.timers.Owns handle callback → timers.Owns handle callback)
    (session : timers.Owns c.sessionTimer .sessionTimeout)
    (ani : timers.Owns c.aniTimer .aniTimeout) :
    Owned { s.setTimers timers with caller := c } where
  timed := timed_keeps owned.timed own rfl rfl rfl rfl rfl
  session := session
  ani := ani

section Owned

variable {s : System} (owned : Owned s)
include owned

theorem caller_owned {c : State} (session : c.sessionTimer = s.caller.sessionTimer)
    (ani : c.aniTimer = s.caller.aniTimer) : Owned { s with caller := c } where
  -- What the module notes for itself, apart from its timers.
  timed := owned.timed
  session := session ▸ owned.session
  ani := ani ▸ owned.ani

theorem heard_owned : Owned (heard s) where
  timed := timed_keeps owned.timed (fun _ _ _ owns => owns) rfl rfl rfl rfl rfl
  session := owned.session
  ani := owned.ani

theorem withdrawn_owned : Owned (withdrawn s) := by
  unfold withdrawn onRepeater Repeater.State.onCallerCleared
  split
  next =>
    exact ⟨timed_keeps owned.timed (fun _ _ _ owns => owns) rfl rfl rfl rfl rfl, owned.session,
      owned.ani⟩
  next => exact owned

theorem table_owned {timers : Core.TimerTable Callback}
    (keeps : ∀ handle callback, callback ≠ .other → s.rpt.timers.Owns handle callback →
      timers.Owns handle callback) : Owned (s.setTimers timers) :=
  owned_handles owned (fun handle callback own => keeps handle callback (own_ne own rfl))
    (keeps _ _ (by decide) owned.session) (keeps _ _ (by decide) owned.ani)

/-! ## The module -/

theorem sessionClear_owned : Owned (sessionClear s) := by
  refine owned_handles owned ?_ ?_ ?_
  next =>
    intro handle callback own owns
    exact cancel_owns_other owns owned.session (own_ne own rfl)
  next => exact cancel_owns owned.session
  next => exact cancel_owns_other owned.ani owned.session (by decide)

theorem cancelAni_owned : Owned (cancelAni s) := by
  refine owned_handles owned ?_ ?_ ?_
  next =>
    intro handle callback own owns
    exact cancel_owns_other owns owned.ani (own_ne own rfl)
  next => exact cancel_owns_other owned.session owned.ani (by decide)
  next => exact cancel_owns owned.ani

theorem restartSession_owned (ms : Int) :
    Owned ((s.cancelTimer s.caller.sessionTimer).startSession ms) := by
  refine owned_handles owned ?_ ?_ ?_
  next =>
    intro handle callback own owns
    exact create_owns_other (cancel_owns_other owns owned.session (own_ne own rfl))
      (own_ne own rfl) _ _
  next => exact create_owns (cancel_owns owned.session) _
  next =>
    exact create_owns_other (cancel_owns_other owned.ani owned.session (by decide)) (by decide) _ _

theorem startAni_owned (stopped : s.caller.aniTimer = none) (ms : Int) : Owned (s.startAni ms) := by
  refine owned_handles owned ?_ ?_ ?_
  next =>
    intro handle callback own owns
    exact create_owns_other owns (own_ne own rfl) _ _
  next => exact create_owns_other owned.session (by decide) _ _
  next => exact create_owns (stopped ▸ owned.ani) _

theorem session_due_owned {slot : Slot} {e : TimerEntry Callback}
    (found : s.rpt.timers.due slot = some e) (callback : e.callback = .sessionTimeout) :
    Owned { s.setTimers (s.rpt.timers.visit slot) with
      caller := { s.caller with sessionTimer := none } } := by
  refine owned_handles owned ?_ ?_ ?_
  next =>
    intro handle made own owns
    refine visit_owns_other owns found ?_
    rw [callback]
    exact (own_ne own rfl).symm
  next =>
    have owns := owned.session
    rw [← callback] at owns ⊢
    exact visit_owns owns found
  next => exact visit_owns_other owned.ani found (by simp [callback])

theorem ani_due_owned {slot : Slot} {e : TimerEntry Callback}
    (found : s.rpt.timers.due slot = some e) (callback : e.callback = .aniTimeout) :
    Owned { s.setTimers (s.rpt.timers.visit slot) with
      caller := { s.caller with aniTimer := none, aniActive := false } } := by
  refine owned_handles owned ?_ ?_ ?_
  next =>
    intro handle made own owns
    refine visit_owns_other owns found ?_
    rw [callback]
    exact (own_ne own rfl).symm
  next => exact visit_owns_other owned.session found (by simp [callback])
  next =>
    have owns := owned.ani
    rw [← callback] at owns ⊢
    exact visit_owns owns found

theorem sessionStart_owned (env : Station) (userId : Nat) : Owned (sessionStart env userId s) := by
  have noted : Owned { s with caller := { s.caller with sessionUserId := userId } } :=
    caller_owned owned rfl rfl
  exact restartSession_owned noted env.loginTimeoutMs

theorem sessionRefresh_owned (env : Station) : Owned (sessionRefresh env s) := by
  unfold sessionRefresh
  split
  next => exact owned
  next => exact restartSession_owned owned env.loginTimeoutMs

theorem armAni_owned : Owned (armAni s) := by
  unfold armAni
  split
  next => exact owned
  next => exact caller_owned owned rfl rfl

theorem captureAni_owned (env : Station) (d : Char) : Owned (captureAni env d s) := by
  unfold captureAni
  simp only
  split
  next first =>
    have started := startAni_owned owned first.2 env.aniWindowMs
    exact caller_owned started rfl rfl
  next => exact caller_owned owned rfl rfl

section Handlers

variable {env : Station} {fire : Evt → System → System} (dispatches : Dispatches fire)
include dispatches

theorem fireIdentified_owned (userId : Nat) (method : Method) :
    Owned (fireIdentified fire userId method s) := by
  rw [fireIdentified, dispatches.identified]
  exact heard_owned (caller_owned owned rfl rfl)

theorem cleared_owned :
    Owned (fire .callerCleared
      { s with caller := { s.caller with currentUserId := 0, currentMethod := .unknown } }) := by
  rw [dispatches.cleared]
  exact withdrawn_owned (caller_owned owned rfl rfl)

theorem fireCleared_owned : Owned (fireCleared fire s) := by
  unfold fireCleared
  split
  next => exact owned
  next => exact cleared_owned owned dispatches

theorem processAni_owned : Owned (processAni env fire s) := by
  unfold processAni
  split
  next => exact owned
  next =>
    split
    next u found => exact fireIdentified_owned owned dispatches u.id .dtmfAni
    next => exact owned

theorem doLogout_owned : Owned (doLogout fire s) := by
  unfold doLogout
  have cleared := sessionClear_owned owned
  split
  next => exact owned
  next =>
    simp only
    split
    next => exact fireCleared_owned cleared dispatches
    next => exact cleared

theorem login_owned : Owned (login env fire s) := by
  unfold login
  have closed : Owned { s with caller := { s.caller with loginActive := false } } :=
    caller_owned owned rfl rfl
  simp only
  split
  next =>
    split
    next => exact doLogout_owned closed dispatches
    next => exact closed
  next =>
    split
    next u found =>
      exact sessionStart_owned (fireIdentified_owned closed dispatches u.id .dtmfLogin) env u.id
    next => exact closed

theorem loginDigit_owned (d : Char) : Owned (loginDigit env fire d s) := by
  unfold loginDigit
  split_ifs
  next => exact caller_owned owned rfl rfl
  next => exact login_owned owned dispatches
  next => exact caller_owned owned rfl rfl
  next => exact caller_owned owned rfl rfl
  next => exact owned

theorem onDtmfDigit_owned (d : Char) : Owned (onDtmfDigit env fire d s) := by
  unfold onDtmfDigit
  split_ifs
  next =>
    exact loginDigit_owned (processAni_owned (cancelAni_owned owned) dispatches) dispatches d
  next => exact captureAni_owned owned env d
  next => exact loginDigit_owned owned dispatches d

theorem onCorAssert_owned : Owned (onCorAssert env fire s) := by
  unfold onCorAssert
  have armed := armAni_owned owned
  simp only
  split
  next =>
    have refreshed := sessionRefresh_owned armed env
    split
    next => exact fireIdentified_owned refreshed dispatches _ _
    next => exact refreshed
  next => exact armed

theorem onCorDrop_owned : Owned (onCorDrop fire s) := by
  unfold onCorDrop
  have cancelled := cancelAni_owned owned
  simp only
  split
  next => exact cleared_owned cancelled dispatches
  next => exact fireCleared_owned cancelled dispatches

theorem sessionTimeout_owned {slot : Slot} {e : TimerEntry Callback}
    (found : s.rpt.timers.due slot = some e) (callback : e.callback = .sessionTimeout) :
    Owned (sessionTimeoutCb fire (s.setTimers (s.rpt.timers.visit slot))) := by
  have passed := session_due_owned owned found callback
  unfold sessionTimeoutCb
  simp only
  split
  next =>
    have ended := @caller_owned _ passed
      { s.caller with sessionTimer := none, sessionUserId := 0 } rfl rfl
    split
    next => exact fireCleared_owned ended dispatches
    next => exact ended
  next => exact passed

end Handlers

/-! ## The repeater -/

theorem repeaterAssert_owned : Owned (onRepeater s Repeater.State.onCorAssert) where
  timed := Repeater.onCorAssert_timed owned.timed
  session := Repeater.onCorAssert_foreign owned.timed rfl owned.session
  ani := Repeater.onCorAssert_foreign owned.timed rfl owned.ani

theorem repeaterDrop_owned : Owned (onRepeater s Repeater.State.onCorDrop) where
  timed := Repeater.onCorDrop_timed owned.timed
  session := Repeater.onCorDrop_foreign owned.timed rfl owned.session
  ani := Repeater.onCorDrop_foreign owned.timed rfl owned.ani

theorem repeaterVisit_owned {slot : Slot}
    (others : ∀ e ∈ s.rpt.timers.due slot,
      e.callback ≠ .sessionTimeout ∧ e.callback ≠ .aniTimeout) :
    Owned { s with rpt := Repeater.visit s.rpt slot } where
  timed := Repeater.visit_timed owned.timed slot
  session := Repeater.visit_foreign rfl owned.session fun e found => (others e found).1
  ani := Repeater.visit_foreign rfl owned.ani fun e found => (others e found).2

theorem emergency_owned (active : Bool) :
    Owned { s with rpt := Repeater.step s.rpt (.setEmergency active) } where
  timed := timed_keeps owned.timed (fun _ _ _ owns => owns) rfl rfl rfl rfl rfl
  session := owned.session
  ani := owned.ani

theorem monitor_owned (evt : Evt) : Owned (monitor evt s) := by
  cases evt <;> exact ⟨owned.timed, owned.session, owned.ani⟩

end Owned

end Kerchunk.Caller
