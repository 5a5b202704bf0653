import Kerchunk.Repeater.Model

set_option autoImplicit false

/-!
# The repeater's timers

Each timer of the module is pending exactly while the variable of it holds its
id, and only in the state that it belongs to.
-/

namespace Kerchunk.Repeater

open Kerchunk.Core (Slot TimerTable TimerEntry)
open Kerchunk.Core.TimerTable

theorem State.changeState_eq (s : State) (newState : RptState) :
    s.changeState newState =
      { s with
        state := newState
        enteredInEmergency :=
          if newState = .receiving ∧ newState ≠ s.state then s.emergency
          else s.enteredInEmergency
        out := if newState = s.state then s.out
          else s.out ++ [.rxStateChange s.state newState] } := by
  unfold State.changeState
  split
  next same => simp [same]
  next moved => simp [moved, State.emit]

theorem State.requestRelay_eq (s : State) :
    s.requestRelay =
      { s with
        ptt := if s.cfg.softwareRelay then s.ptt.coreRequestPtt else s.ptt
        out := if s.cfg.softwareRelay then s.out ++ [.ptt (.request "repeater")] else s.out } := by
  unfold State.requestRelay
  split <;> simp [*, State.requestPtt, State.emit]

theorem State.releaseRelay_eq (s : State) :
    s.releaseRelay =
      { s with
        ptt := if s.cfg.softwareRelay then s.ptt.coreReleasePtt else s.ptt
        out := if s.cfg.softwareRelay then s.out ++ [.ptt (.release "repeater")] else s.out } := by
  unfold State.releaseRelay
  split <;> simp [*, State.releasePtt, State.emit]

/-- The tail timer and the hang timer run with one callback, and never together. -/
structure Timed (s : State) : Prop where
  tail : s.timers.Owns (s.tailTimer <|> s.hangTimer) .tailExpired
  tot : s.timers.Owns s.totTimer .totExpired
  debounce : s.timers.Owns s.debounceTimer .debounceExpired
  inTail : s.tailTimer ≠ none → s.state = .tailWait
  inHang : s.hangTimer ≠ none → s.state = .hangWait
  inReceiving : s.totTimer ≠ none → s.state = .receiving

theorem load_timed (hasTts : Bool) : Timed (load hasTts) where
  tail := init_owns
  tot := init_owns
  debounce := init_owns
  inTail := by simp [load]
  inHang := by simp [load]
  inReceiving := by simp [load]

theorem timed_no_tot {s : State} (timed : Timed s) (elsewhere : s.state ≠ .receiving) :
    s.totTimer = none := by
  by_contra held
  exact elsewhere (timed.inReceiving held)

theorem timed_no_hang {s : State} (timed : Timed s) (elsewhere : s.state ≠ .hangWait) :
    s.hangTimer = none := by
  by_contra held
  exact elsewhere (timed.inHang held)

theorem timed_no_tail {s : State} (timed : Timed s) (elsewhere : s.state ≠ .tailWait) :
    s.tailTimer = none := by
  by_contra held
  exact elsewhere (timed.inTail held)

theorem startReceiving_state (s : State) : s.startReceiving.state = .receiving := by
  simp only [State.startReceiving, State.requestRelay_eq, State.changeState_eq]
  split <;> rfl

theorem startReceiving_timed {s : State} (timed : Timed s) (state : s.state = .idle) :
    Timed s.startReceiving := by
  have noTot := timed_no_tot timed (by simp [state])
  have noTail := timed_no_tail timed (by simp [state])
  have noHang := timed_no_hang timed (by simp [state])
  simp only [State.startReceiving, State.requestRelay_eq, State.changeState_eq]
  split
  next => exact ⟨timed.tail, timed.tot, timed.debounce, by simp [noTail], by simp [noHang], by simp⟩
  next =>
    exact ⟨create_owns_other timed.tail (by decide) _ _,
      create_owns (by simpa [noTot] using timed.tot) _,
      create_owns_other timed.debounce (by decide) _ _,
      by simp [State.startTot, noTail], by simp [State.startTot, noHang], by simp [State.startTot]⟩

theorem tailExpired_timed {s : State} (timed : Timed s) {i : Slot} {e : TimerEntry Callback}
    (found : s.timers.due i = some e) (callback : e.callback = .tailExpired) :
    Timed (State.tailExpired { s with timers := s.timers.visit i }) := by
  have tail : (s.timers.visit i).Owns none .tailExpired := by
    rw [← callback]
    exact visit_owns (by simpa [callback] using timed.tail) found
  have tot := visit_owns_other timed.tot found (by simp [callback])
  have debounce := visit_owns_other timed.debounce found (by simp [callback])
  unfold State.tailExpired
  cases state : s.state with
  | tailWait =>
    have noTot := timed_no_tot timed (by simp [state])
    simp only [State.changeState_eq, State.emit, State.startHang]
    exact ⟨create_owns tail _, create_owns_other tot (by decide) _ _,
      create_owns_other debounce (by decide) _ _, by simp, by simp, by simp [noTot]⟩
  | hangWait =>
    have noTot := timed_no_tot timed (by simp [state])
    simp only [State.releaseRelay_eq, State.changeState_eq]
    exact ⟨tail, tot, debounce, by simp, by simp, by simp [noTot]⟩
  | idle | receiving | rxTimeout | bridging =>
    have noHang := timed_no_hang timed (by simp [state])
    have receiving := timed.inReceiving
    rw [state] at receiving
    exact ⟨by simp [noHang, tail], tot, debounce, by simp, by simp [noHang], receiving⟩

theorem totExpired_timed {s : State} (timed : Timed s) {i : Slot} {e : TimerEntry Callback}
    (found : s.timers.due i = some e) (callback : e.callback = .totExpired) :
    Timed (State.totExpired { s with timers := s.timers.visit i }) := by
  have tail := visit_owns_other timed.tail found (by simp [callback])
  have tot : (s.timers.visit i).Owns none .totExpired := by
    rw [← callback]
    exact visit_owns (by simpa [callback] using timed.tot) found
  have debounce := visit_owns_other timed.debounce found (by simp [callback])
  have held := (due_owned (by simpa [callback] using timed.tot) found).2
  have state := timed.inReceiving (by simp [held])
  have noTail := timed_no_tail timed (by simp [state])
  have noHang := timed_no_hang timed (by simp [state])
  simp only [State.totExpired, State.emit, State.changeState_eq]
  split
  next => exact ⟨tail, tot, debounce, by simp [noTail], by simp [noHang], by simp⟩
  next => exact ⟨tail, tot, debounce, by simp [noTail], by simp [noHang], by simp⟩

theorem debounceExpired_timed {s : State} (timed : Timed s) {i : Slot} {e : TimerEntry Callback}
    (found : s.timers.due i = some e) (callback : e.callback = .debounceExpired) :
    Timed (State.debounceExpired { s with timers := s.timers.visit i }) := by
  have tail := visit_owns_other timed.tail found (by simp [callback])
  have tot := visit_owns_other timed.tot found (by simp [callback])
  have debounce : (s.timers.visit i).Owns none .debounceExpired := by
    rw [← callback]
    exact visit_owns (by simpa [callback] using timed.debounce) found
  have passed : Timed { s with timers := s.timers.visit i, debounceTimer := none } :=
    ⟨tail, tot, debounce, timed.inTail, timed.inHang, timed.inReceiving⟩
  simp only [State.debounceExpired]
  split
  next => exact passed
  next idle =>
    split
    next =>
      simp only [State.denyAccess, State.emit]
      split <;> exact ⟨tail, tot, debounce, timed.inTail, timed.inHang, timed.inReceiving⟩
    next => exact startReceiving_timed passed (by simpa using idle)

theorem visit_timed {s : State} (timed : Timed s) (i : Slot) : Timed (visit s i) := by
  unfold visit
  cases found : s.timers.due i with
  | none =>
    exact ⟨visit_owns_idle timed.tail found, visit_owns_idle timed.tot found,
      visit_owns_idle timed.debounce found, timed.inTail, timed.inHang, timed.inReceiving⟩
  | some e =>
    cases callback : e.callback with
    | tailExpired =>
      simp only [callback, runCallback]
      exact tailExpired_timed timed found callback
    | totExpired =>
      simp only [callback, runCallback]
      exact totExpired_timed timed found callback
    | debounceExpired =>
      simp only [callback, runCallback]
      exact debounceExpired_timed timed found callback
    | sessionTimeout | aniTimeout | other =>
      simp only [callback, runCallback]
      exact ⟨visit_owns_other timed.tail found (by simp [callback]),
        visit_owns_other timed.tot found (by simp [callback]),
        visit_owns_other timed.debounce found (by simp [callback]),
        timed.inTail, timed.inHang, timed.inReceiving⟩

theorem onCorAssert_timed {s : State} (timed : Timed s) : Timed s.onCorAssert := by
  unfold State.onCorAssert
  cases state : s.state with
  | idle =>
    have noTail := timed_no_tail timed (by simp [state])
    have noHang := timed_no_hang timed (by simp [state])
    have noTot := timed_no_tot timed (by simp [state])
    simp only
    split
    next =>
      exact ⟨create_owns_other (cancel_owns_other timed.tail timed.debounce (by decide))
          (by decide) _ _,
        create_owns_other (cancel_owns_other timed.tot timed.debounce (by decide)) (by decide) _ _,
        create_owns (cancel_owns timed.debounce) _,
        by simp [State.startDebounce, State.cancelTimer, noTail],
        by simp [State.startDebounce, State.cancelTimer, noHang],
        by simp [State.startDebounce, State.cancelTimer, noTot]⟩
    next =>
      refine startReceiving_timed ?_ rfl
      exact ⟨timed.tail, timed.tot, timed.debounce, by simp [noTail], by simp [noHang],
        by simp [noTot]⟩
  | tailWait =>
    have noHang := timed_no_hang timed (by simp [state])
    have tail : s.timers.Owns s.tailTimer .tailExpired := by simpa [noHang] using timed.tail
    simp only [State.changeState_eq, State.cancelTimer]
    exact ⟨by simpa [noHang] using cancel_owns tail, cancel_owns_other timed.tot tail (by decide),
      cancel_owns_other timed.debounce tail (by decide), by simp, by simp [noHang], by simp⟩
  | hangWait =>
    have noTail := timed_no_tail timed (by simp [state])
    have noTot := timed_no_tot timed (by simp [state])
    have hang : s.timers.Owns s.hangTimer .tailExpired := by simpa [noTail] using timed.tail
    have tot : s.timers.Owns none .totExpired := by simpa [noTot] using timed.tot
    simp only [State.changeState_eq, State.cancelTimer, State.startTot, noTot, cancelIf_none]
    exact ⟨create_owns_other (by simpa [noTail] using cancel_owns hang) (by decide) _ _,
      create_owns (cancel_owns_other tot hang (by decide)) _,
      create_owns_other (cancel_owns_other timed.debounce hang (by decide)) (by decide) _ _,
      by simp [noTail], by simp, by simp⟩
  | receiving | rxTimeout | bridging => exact timed

theorem onCorDrop_timed {s : State} (timed : Timed s) : Timed s.onCorDrop := by
  unfold State.onCorDrop
  cases held : s.debounceTimer with
  | some n =>
    have debounce : s.timers.Owns (some n) .debounceExpired := held ▸ timed.debounce
    exact ⟨cancel_owns_other timed.tail debounce (by decide),
      cancel_owns_other timed.tot debounce (by decide), cancel_owns debounce,
      timed.inTail, timed.inHang, timed.inReceiving⟩
  | none =>
    cases state : s.state with
    | receiving =>
      have noTail := timed_no_tail timed (by simp [state])
      have noHang := timed_no_hang timed (by simp [state])
      have tail : s.timers.Owns none .tailExpired := by simpa [noTail, noHang] using timed.tail
      simp only [State.changeState_eq, State.cancelTimer, State.startTail, State.emit]
      exact ⟨by simpa [noHang] using create_owns (cancel_owns_other tail timed.tot (by decide)) _,
        create_owns_other (cancel_owns timed.tot) (by decide) _ _,
        create_owns_other (cancel_owns_other timed.debounce timed.tot (by decide)) (by decide) _ _,
        by simp, by simp [noHang], by simp⟩
    | rxTimeout =>
      have noTail := timed_no_tail timed (by simp [state])
      have noHang := timed_no_hang timed (by simp [state])
      have noTot := timed_no_tot timed (by simp [state])
      simp only [State.releaseRelay_eq, State.changeState_eq]
      exact ⟨timed.tail, timed.tot, timed.debounce, by simp [noTail], by simp [noHang],
        by simp [noTot]⟩
    | idle | tailWait | hangWait | bridging => exact timed

theorem changeState_timed {s : State} (timed : Timed s) (newState : RptState)
    (noTail : s.tailTimer = none) (noHang : s.hangTimer = none) (noTot : s.totTimer = none) :
    Timed (s.changeState newState) := by
  rw [State.changeState_eq]
  exact ⟨timed.tail, timed.tot, timed.debounce, by simp [noTail], by simp [noHang], by simp [noTot]⟩

theorem onLinkRxAssert_timed {s : State} (timed : Timed s) : Timed s.onLinkRxAssert := by
  unfold State.onLinkRxAssert
  split
  next state =>
    exact changeState_timed timed _ (timed_no_tail timed (by simp [state]))
      (timed_no_hang timed (by simp [state])) (timed_no_tot timed (by simp [state]))
  next => exact timed

theorem onLinkRxDrop_timed {s : State} (timed : Timed s) : Timed s.onLinkRxDrop := by
  unfold State.onLinkRxDrop
  split
  next state =>
    exact changeState_timed timed _ (timed_no_tail timed (by simp [state]))
      (timed_no_hang timed (by simp [state])) (timed_no_tot timed (by simp [state]))
  next => exact timed

def Silent (s : State) : Prop :=
  -- Once the module is gone, none of its timers is pending.
  ∀ callback : Callback, callback.ofRepeater → s.timers.Owns none callback

theorem repeaterUnload_silent {s : State} (timed : Timed s) : Silent s.repeaterUnload := by
  obtain ⟨tail, tot, debounce, inTail, inHang, -⟩ := timed
  -- One of the two handles is empty, so that cancelling both cancels what the other holds.
  have both : (s.timers.cancelIf s.tailTimer).cancelIf s.hangTimer =
      s.timers.cancelIf (s.tailTimer <|> s.hangTimer) := by
    cases held : s.tailTimer with
    | none => simp
    | some n =>
      have noHang : s.hangTimer = none := by
        by_contra hang
        simp [inTail (by simp [held])] at inHang
        exact hang inHang
      simp [noHang]
  have table : s.repeaterUnload.timers =
      ((s.timers.cancelIf (s.tailTimer <|> s.hangTimer)).cancelIf s.totTimer).cancelIf
        s.debounceTimer := by
    rw [← both]
    simp only [State.repeaterUnload, State.releaseRelay_eq, State.cancelTimer]
    split <;> rfl
  have tot' := cancel_owns_other tot tail (by decide)
  have debounce' := cancel_owns_other debounce tail (by decide)
  have debounce'' := cancel_owns_other debounce' tot' (by decide)
  intro callback own
  rw [table]
  cases callback with
  | tailExpired =>
    exact cancel_owns_other (cancel_owns_other (cancel_owns tail) tot' (by decide)) debounce''
      (by decide)
  | totExpired => exact cancel_owns_other (cancel_owns tot') debounce'' (by decide)
  | debounceExpired => exact cancel_owns debounce''
  | sessionTimeout | aniTimeout | other => cases own

/-! ## The debounce of a closed repeater -/

theorem due_tail_state {s : State} (timed : Timed s) {i : Slot} {e : TimerEntry Callback}
    (found : s.timers.due i = some e) (callback : e.callback = .tailExpired) :
    s.state = .tailWait ∨ s.state = .hangWait := by
  by_contra elsewhere
  rw [not_or] at elsewhere
  have held := (due_owned (by simpa [callback] using timed.tail) found).2
  simp [timed_no_tail timed elsewhere.1, timed_no_hang timed elsewhere.2] at held

theorem due_tot_state {s : State} (timed : Timed s) {i : Slot} {e : TimerEntry Callback}
    (found : s.timers.due i = some e) (callback : e.callback = .totExpired) :
    s.state = .receiving := by
  have held := (due_owned (by simpa [callback] using timed.tot) found).2
  exact timed.inReceiving (by simp [held])

theorem onCorAssert_closed {s : State} (state : s.state = .idle) (closed : s.cfg.requireId = true) :
    s.onCorAssert =
      ({ s with callerIdentified := false }.cancelTimer s.debounceTimer).startDebounce
        (State.debounceMs s.cfg) := by
  simp only [State.onCorAssert, state, closed, or_true, if_true]

theorem onCorAssert_busy {s : State} (state : s.state ≠ .idle) :
    s.onCorAssert.debounceTimer = s.debounceTimer ∧
      (s.onCorAssert.state = s.state ∨ s.onCorAssert.state = .receiving) := by
  unfold State.onCorAssert
  cases here : s.state with
  | idle => exact absurd here state
  | tailWait =>
    simp [State.changeState_eq, State.cancelTimer]
  | hangWait =>
    simp [State.changeState_eq, State.cancelTimer, State.startTot]
  | receiving | rxTimeout | bridging => exact ⟨rfl, Or.inl here⟩

theorem onCorDrop_debounce (s : State) : s.onCorDrop.debounceTimer = none := by
  unfold State.onCorDrop
  cases held : s.debounceTimer with
  | some n => rfl
  | none =>
    cases state : s.state with
    | receiving =>
      simp only [State.changeState_eq, State.cancelTimer, State.startTail, State.emit]
      exact held
    | rxTimeout =>
      simp only [State.releaseRelay_eq, State.changeState_eq]
      exact held
    | idle | tailWait | hangWait | bridging => exact held

theorem onCorDrop_state (s : State) :
    s.onCorDrop.state = s.state ∨ s.onCorDrop.state = .tailWait ∨ s.onCorDrop.state = .idle := by
  unfold State.onCorDrop
  cases held : s.debounceTimer with
  | some n => exact Or.inl rfl
  | none =>
    cases state : s.state with
    | receiving =>
      simp [State.changeState_eq, State.cancelTimer, State.startTail, State.emit]
    | rxTimeout => simp [State.releaseRelay_eq, State.changeState_eq]
    | idle | tailWait | hangWait | bridging => exact Or.inl state

theorem debounceExpired_closed {s : State} (state : s.state = .idle)
    (closed : s.cfg.requireId = true) :
    s.debounceExpired.state = .receiving ↔ s.callerIdentified = true := by
  cases known : s.callerIdentified with
  | false =>
    simp only [State.debounceExpired, State.denyAccess, State.emit, state, closed, known]
    simp only [ne_eq, not_true_eq_false, if_false, Bool.false_eq_true, not_false_eq_true, and_self,
      if_true]
    split <;> simp
  | true =>
    simp only [State.debounceExpired, state, known, not_true_eq_false, and_false, if_false, ne_eq]
    simp [startReceiving_state]

theorem debounceExpired_debounce (s : State) : s.debounceExpired.debounceTimer = none := by
  simp only [State.debounceExpired, State.denyAccess, State.emit, State.startReceiving,
    State.requestRelay_eq, State.changeState_eq]
  split
  next => rfl
  next =>
    split
    next => split <;> rfl
    next => split <;> rfl

theorem debounceExpired_noLink {s : State} (noLink : s.state ≠ .bridging) :
    s.debounceExpired.state ≠ .bridging := by
  simp only [State.debounceExpired, State.denyAccess, State.emit]
  split
  next => exact noLink
  next =>
    split
    next => split <;> exact noLink
    next => simp [startReceiving_state]

theorem visit_busy {s : State} (timed : Timed s) (i : Slot)
    (quiet : ∀ e ∈ s.timers.due i, e.callback ≠ .debounceExpired) :
    (visit s i).debounceTimer = s.debounceTimer ∧
      (visit s i).callerIdentified = s.callerIdentified ∧
      (s.state = .idle → (visit s i).state = .idle) ∧
      (s.state ≠ .bridging → (visit s i).state ≠ .bridging) := by
  -- A visit that ends no debounce.
  unfold visit
  cases found : s.timers.due i with
  | none => exact ⟨rfl, rfl, id, id⟩
  | some e =>
    cases callback : e.callback with
    | tailExpired =>
      simp only [callback, runCallback, State.tailExpired]
      cases state : s.state <;>
        simp [State.changeState_eq, State.emit, State.startHang, State.releaseRelay_eq]
    | totExpired =>
      have state := due_tot_state timed found callback
      simp only [callback, runCallback, State.totExpired, State.emit, State.changeState_eq]
      split <;> simp [state]
    | debounceExpired => exact absurd callback (quiet e found)
    | sessionTimeout | aniTimeout | other =>
      simp only [callback, runCallback]
      exact ⟨trivial, trivial, id, id⟩

/-! ## The timers of other modules -/

section Foreign

variable {s : State} {handle : Option Nat} {callback : Callback}

theorem foreign_ne {made : Callback} (foreign : callback.ofRepeater = false)
    (own : made.ofRepeater = true) : callback ≠ made := by
  rintro rfl
  rw [own] at foreign
  cases foreign

theorem startReceiving_foreign (foreign : callback.ofRepeater = false)
    (owns : s.timers.Owns handle callback) : s.startReceiving.timers.Owns handle callback := by
  simp only [State.startReceiving, State.requestRelay_eq, State.changeState_eq]
  split
  next => exact owns
  next => exact create_owns_other owns (foreign_ne foreign rfl) _ _

theorem tailExpired_foreign (foreign : callback.ofRepeater = false)
    (owns : s.timers.Owns handle callback) : s.tailExpired.timers.Owns handle callback := by
  unfold State.tailExpired
  cases state : s.state with
  | tailWait =>
    simp only [State.changeState_eq, State.emit, State.startHang]
    exact create_owns_other owns (foreign_ne foreign rfl) _ _
  | hangWait =>
    simp only [State.releaseRelay_eq, State.changeState_eq]
    exact owns
  | idle | receiving | rxTimeout | bridging => exact owns

theorem totExpired_foreign (owns : s.timers.Owns handle callback) :
    s.totExpired.timers.Owns handle callback := by
  simp only [State.totExpired, State.emit, State.changeState_eq]
  split <;> exact owns

theorem debounceExpired_foreign (foreign : callback.ofRepeater = false)
    (owns : s.timers.Owns handle callback) : s.debounceExpired.timers.Owns handle callback := by
  simp only [State.debounceExpired, State.denyAccess, State.emit]
  split
  next => exact owns
  next =>
    split
    next => split <;> exact owns
    next => exact startReceiving_foreign foreign owns

theorem onCorAssert_foreign (timed : Timed s) (foreign : callback.ofRepeater = false)
    (owns : s.timers.Owns handle callback) : s.onCorAssert.timers.Owns handle callback := by
  unfold State.onCorAssert
  cases state : s.state with
  | idle =>
    simp only
    split
    next =>
      exact create_owns_other (cancel_owns_other owns timed.debounce (foreign_ne foreign rfl))
        (foreign_ne foreign rfl) _ _
    next => exact startReceiving_foreign foreign owns
  | tailWait =>
    have noHang := timed_no_hang timed (by simp [state])
    have tail : s.timers.Owns s.tailTimer .tailExpired := by simpa [noHang] using timed.tail
    simp only [State.changeState_eq, State.cancelTimer]
    exact cancel_owns_other owns tail (foreign_ne foreign rfl)
  | hangWait =>
    have noTail := timed_no_tail timed (by simp [state])
    have noTot := timed_no_tot timed (by simp [state])
    have hang : s.timers.Owns s.hangTimer .tailExpired := by simpa [noTail] using timed.tail
    simp only [State.changeState_eq, State.cancelTimer, State.startTot, noTot, cancelIf_none]
    exact create_owns_other (cancel_owns_other owns hang (foreign_ne foreign rfl))
      (foreign_ne foreign rfl) _ _
  | receiving | rxTimeout | bridging => exact owns

theorem onCorDrop_foreign (timed : Timed s) (foreign : callback.ofRepeater = false)
    (owns : s.timers.Owns handle callback) : s.onCorDrop.timers.Owns handle callback := by
  unfold State.onCorDrop
  cases held : s.debounceTimer with
  | some n =>
    have debounce : s.timers.Owns (some n) .debounceExpired := held ▸ timed.debounce
    exact cancel_owns_other owns debounce (foreign_ne foreign rfl)
  | none =>
    cases state : s.state with
    | receiving =>
      simp only [State.changeState_eq, State.cancelTimer, State.startTail, State.emit]
      exact create_owns_other (cancel_owns_other owns timed.tot (foreign_ne foreign rfl))
        (foreign_ne foreign rfl) _ _
    | rxTimeout =>
      simp only [State.releaseRelay_eq, State.changeState_eq]
      exact owns
    | idle | tailWait | hangWait | bridging => exact owns

-- Whatever the visit runs, it is not this timer.
theorem visit_foreign (foreign : callback.ofRepeater = false)
    (owns : s.timers.Owns handle callback) {i : Slot}
    (other : ∀ e ∈ s.timers.due i, e.callback ≠ callback) :
    (visit s i).timers.Owns handle callback := by
  unfold visit
  cases found : s.timers.due i with
  | none => exact visit_owns_idle owns found
  | some e =>
    have passed := visit_owns_other owns found (other e found)
    cases made : e.callback with
    | tailExpired =>
      simp only [made, runCallback]
      exact tailExpired_foreign foreign passed
    | totExpired =>
      simp only [made, runCallback]
      exact totExpired_foreign passed
    | debounceExpired =>
      simp only [made, runCallback]
      exact debounceExpired_foreign foreign passed
    | sessionTimeout | aniTimeout | other =>
      simp only [made, runCallback]
      exact passed

end Foreign

/-- What no handler but `repeater_unload` touches. -/
structure SameSetting (s s' : State) : Prop where
  loaded : s'.loaded = s.loaded
  cfg : s'.cfg = s.cfg
  emergency : s'.emergency = s.emergency
  now : s'.timers.now = s.timers.now
  tickAt : s'.timers.tickAt = s.timers.tickAt
  scanned : s'.timers.scanned = s.timers.scanned

theorem startReceiving_setting (s : State) : SameSetting s s.startReceiving := by
  simp only [State.startReceiving, State.requestRelay_eq, State.changeState_eq]
  split <;> constructor <;> simp [State.startTot]

theorem tailExpired_setting (s : State) : SameSetting s s.tailExpired := by
  unfold State.tailExpired
  cases state : s.state <;>
    simp only [State.changeState_eq, State.emit, State.startHang, State.releaseRelay_eq] <;>
    constructor <;> simp

theorem totExpired_setting (s : State) : SameSetting s s.totExpired := by
  simp only [State.totExpired, State.emit, State.changeState_eq]
  split <;> constructor <;> rfl

theorem debounceExpired_setting (s : State) : SameSetting s s.debounceExpired := by
  simp only [State.debounceExpired, State.denyAccess, State.emit]
  split
  next => constructor <;> rfl
  next =>
    split
    next => split <;> constructor <;> rfl
    next =>
      have started := startReceiving_setting { s with debounceTimer := none }
      exact ⟨started.1, started.2, started.3, started.4, started.5, started.6⟩

theorem onCorAssert_setting (s : State) : SameSetting s s.onCorAssert := by
  unfold State.onCorAssert
  cases state : s.state with
  | idle =>
    simp only
    split
    next => constructor <;> simp [State.startDebounce, State.cancelTimer]
    next =>
      have started :=
        startReceiving_setting { s with callerIdentified := false, state := .idle }
      exact ⟨started.1, started.2, started.3, started.4, started.5, started.6⟩
  | tailWait =>
    simp only [State.changeState_eq, State.cancelTimer]
    constructor <;> simp
  | hangWait =>
    simp only [State.changeState_eq, State.cancelTimer, State.startTot]
    constructor <;> simp
  | receiving | rxTimeout | bridging => constructor <;> rfl

theorem onCorDrop_setting (s : State) : SameSetting s s.onCorDrop := by
  unfold State.onCorDrop
  cases held : s.debounceTimer with
  | some n =>
    constructor <;> simp [State.cancelTimer]
  | none =>
    cases state : s.state with
    | receiving =>
      simp only [State.changeState_eq, State.cancelTimer, State.startTail, State.emit]
      constructor <;> simp
    | rxTimeout =>
      simp only [State.releaseRelay_eq, State.changeState_eq]
      constructor <;> rfl
    | idle | tailWait | hangWait | bridging => constructor <;> rfl

theorem onLinkRxAssert_setting (s : State) : SameSetting s s.onLinkRxAssert := by
  simp only [State.onLinkRxAssert, State.changeState_eq]
  split <;> constructor <;> rfl

theorem onLinkRxDrop_setting (s : State) : SameSetting s s.onLinkRxDrop := by
  simp only [State.onLinkRxDrop, State.changeState_eq]
  split <;> constructor <;> rfl

theorem onCallerCleared_setting (s : State) : SameSetting s s.onCallerCleared := by
  unfold State.onCallerCleared
  split <;> constructor <;> rfl

structure Sound (s : State) : Prop where
  timed : s.loaded = true → Timed s
  silent : s.loaded = false → Silent s

theorem load_sound (hasTts : Bool) : Sound (load hasTts) where
  timed := fun _ => load_timed hasTts
  silent := by simp [load]

theorem whenLoaded_sound {s : State} (sound : Sound s) {handler : State → State}
    (setting : SameSetting s (handler s)) (keeps : Timed s → Timed (handler s)) :
    Sound (whenLoaded s handler) := by
  unfold whenLoaded
  split
  next on => exact ⟨fun _ => keeps (sound.timed on), by simp [setting.loaded, on]⟩
  next => exact sound

theorem visit_setting (s : State) (i : Slot) :
    SameSetting { s with timers := s.timers.visit i } (visit s i) := by
  unfold visit
  cases found : s.timers.due i with
  | none => exact ⟨rfl, rfl, rfl, rfl, rfl, rfl⟩
  | some e =>
    cases callback : e.callback with
    | tailExpired =>
      simp only [callback, runCallback]
      exact tailExpired_setting _
    | totExpired =>
      simp only [callback, runCallback]
      exact totExpired_setting _
    | debounceExpired =>
      simp only [callback, runCallback]
      exact debounceExpired_setting _
    | sessionTimeout | aniTimeout | other =>
      simp only [callback, runCallback]
      exact ⟨rfl, rfl, rfl, rfl, rfl, rfl⟩

theorem visit_loaded (s : State) (i : Slot) : (visit s i).loaded = s.loaded :=
  (visit_setting s i).loaded

theorem whenLoaded_cfg {s : State} {handler : State → State}
    (same : (handler s).cfg = s.cfg) : (whenLoaded s handler).cfg = s.cfg := by
  unfold whenLoaded
  split
  next => exact same
  next => rfl

theorem repeaterUnload_cfg (s : State) : s.repeaterUnload.cfg = s.cfg := by
  simp only [State.repeaterUnload, State.releaseRelay_eq, State.cancelTimer]
  split <;> rfl

theorem repeaterUnload_loaded (s : State) : s.repeaterUnload.loaded = false := by
  simp only [State.repeaterUnload, State.releaseRelay_eq, State.cancelTimer]
  split <;> rfl

theorem step_cfg (s : State) (i : Input) :
    (step s i).cfg = s.cfg ∨ ∃ file, (step s i).cfg = repeaterConfigure file := by
  -- Only a reload changes the settings.
  cases i with
  | configure file =>
    simp only [step, whenLoaded]
    split
    next => exact Or.inr ⟨file, rfl⟩
    next => exact Or.inl rfl
  | visit slot => exact Or.inl (visit_setting s slot).cfg
  | corAssert => exact Or.inl (whenLoaded_cfg (onCorAssert_setting s).cfg)
  | corDrop => exact Or.inl (whenLoaded_cfg (onCorDrop_setting s).cfg)
  | linkRxAssert => exact Or.inl (whenLoaded_cfg (onLinkRxAssert_setting s).cfg)
  | linkRxDrop => exact Or.inl (whenLoaded_cfg (onLinkRxDrop_setting s).cfg)
  | callerCleared => exact Or.inl (whenLoaded_cfg (onCallerCleared_setting s).cfg)
  | callerIdentified => exact Or.inl (whenLoaded_cfg rfl)
  | unload => exact Or.inl (whenLoaded_cfg (repeaterUnload_cfg s))
  | elapse us | beginTick | setEmergency active | otherTimer ms repeats | otherCancel timerId
  | otherPtt c => exact Or.inl rfl

theorem whenLoaded_on {s : State} (on : s.loaded = true) (handler : State → State) :
    whenLoaded s handler = handler s := by
  simp [whenLoaded, on]

theorem step_loaded {s : State} {i : Input} (on : (step s i).loaded = true) : s.loaded = true := by
  by_contra off
  simp only [Bool.not_eq_true] at off
  cases i <;> simp [step, whenLoaded, off, visit_loaded, otherCancel] at on

theorem silent_due {s : State} (silent : Silent s) {i : Slot} {e : TimerEntry Callback}
    (found : s.timers.due i = some e) : ¬ e.callback.ofRepeater := by
  intro own
  cases (due_owned (silent e.callback own) found).2

theorem table_sound {s : State} (sound : Sound s) {table : TimerTable Callback}
    (keeps : ∀ handle callback, callback.ofRepeater → s.timers.Owns handle callback →
      table.Owns handle callback) : Sound { s with timers := table } where
  -- What happens to the table without this module keeps its timers.
  timed := by
    intro on
    have timed := sound.timed on
    exact ⟨keeps _ _ rfl timed.tail, keeps _ _ rfl timed.tot, keeps _ _ rfl timed.debounce,
      timed.inTail, timed.inHang, timed.inReceiving⟩
  silent := by
    intro off callback own
    exact keeps _ _ own (sound.silent off callback own)

theorem visit_silent {s : State} (silent : Silent s) (i : Slot) :
    visit s i = { s with timers := s.timers.visit i } := by
  unfold visit
  cases found : s.timers.due i with
  | none => rfl
  | some e =>
    have foreign := silent_due silent found
    cases callback : e.callback with
    | tailExpired | totExpired | debounceExpired => simp [callback, Callback.ofRepeater] at foreign
    | sessionTimeout | aniTimeout | other => simp only [callback, runCallback]

theorem visit_sound {s : State} (sound : Sound s) (i : Slot) : Sound (visit s i) where
  timed := by
    intro on
    exact visit_timed (sound.timed (visit_loaded s i ▸ on)) i
  silent := by
    intro off callback own
    have silent := sound.silent (visit_loaded s i ▸ off)
    rw [visit_silent silent]
    cases found : s.timers.due i with
    | none => exact visit_owns_idle (silent callback own) found
    | some e =>
      refine visit_owns_other (silent callback own) found ?_
      rintro rfl
      exact silent_due silent found own

theorem step_sound {s : State} (sound : Sound s) (i : Input) : Sound (step s i) := by
  cases i with
  | elapse us => exact table_sound sound fun _ _ _ owns => elapse_owns owns us
  | beginTick => exact table_sound sound fun _ _ _ owns => beginTick_owns owns
  | visit slot => exact visit_sound sound slot
  | corAssert => exact whenLoaded_sound sound (onCorAssert_setting s) onCorAssert_timed
  | corDrop => exact whenLoaded_sound sound (onCorDrop_setting s) onCorDrop_timed
  | linkRxAssert => exact whenLoaded_sound sound (onLinkRxAssert_setting s) onLinkRxAssert_timed
  | linkRxDrop => exact whenLoaded_sound sound (onLinkRxDrop_setting s) onLinkRxDrop_timed
  | callerIdentified =>
    refine whenLoaded_sound sound ⟨rfl, rfl, rfl, rfl, rfl, rfl⟩ fun timed => ?_
    exact ⟨timed.tail, timed.tot, timed.debounce, timed.inTail, timed.inHang, timed.inReceiving⟩
  | callerCleared =>
    refine whenLoaded_sound sound (onCallerCleared_setting s) fun timed => ?_
    unfold State.onCallerCleared
    split
    next =>
      exact ⟨timed.tail, timed.tot, timed.debounce, timed.inTail, timed.inHang, timed.inReceiving⟩
    next => exact timed
  | setEmergency active =>
    refine ⟨fun on => ?_, sound.silent⟩
    have timed := sound.timed on
    exact ⟨timed.tail, timed.tot, timed.debounce, timed.inTail, timed.inHang, timed.inReceiving⟩
  | configure cfg =>
    simp only [step, whenLoaded]
    split
    next on =>
      have timed := sound.timed on
      exact ⟨fun _ => ⟨timed.tail, timed.tot, timed.debounce, timed.inTail, timed.inHang,
        timed.inReceiving⟩, by simp [on]⟩
    next => exact sound
  | unload =>
    simp only [step, whenLoaded]
    split
    next on =>
      have off := repeaterUnload_loaded s
      exact ⟨by simp [off], fun _ => repeaterUnload_silent (sound.timed on)⟩
    next => exact sound
  | otherTimer ms repeats =>
    refine table_sound sound fun handle callback own owns => ?_
    exact create_owns_other owns (by rintro rfl; cases own) ms repeats
  | otherCancel timerId =>
    refine table_sound sound fun handle callback own owns => ?_
    refine drop_owns owns ?_
    rintro e rfl
    simp [own]
  | otherPtt c =>
    refine ⟨fun on => ?_, sound.silent⟩
    have timed := sound.timed on
    exact ⟨timed.tail, timed.tot, timed.debounce, timed.inTail, timed.inHang, timed.inReceiving⟩

theorem run_sound (hasTts : Bool) (inputs : List Input) :
    Sound (Machine.run step (load hasTts) inputs) :=
  Machine.run_holds step (P := Sound) (fun _ i sound => step_sound sound i) (load_sound hasTts)

theorem tot_stopped {s : State} (sound : Sound s) (elsewhere : s.state ≠ .receiving) :
    ¬ s.timers.Pending .totExpired := by
  intro pending
  by_cases on : s.loaded = true
  next =>
    have timed := sound.timed on
    exact elsewhere (timed.inReceiving ((owns_pending timed.tot).mp pending))
  next => exact (owns_pending (sound.silent (by simpa using on) _ rfl)).mp pending rfl

end Kerchunk.Repeater
