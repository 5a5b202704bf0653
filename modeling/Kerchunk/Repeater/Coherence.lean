import Kerchunk.Repeater.Timers

set_option autoImplicit false

/-!
# Timers and states of the repeater

Which timers are pending in which state, over whole runs.
-/

namespace Kerchunk.Repeater

open Kerchunk.Core (Slot TimerTable TimerEntry firstSlot)
open Kerchunk.Core.TimerTable

/-! ## The timeout timer -/

/-- A reception that did not begin in emergency mode will time out, and nothing else will. -/
structure TimeoutCoherent (s : State) : Prop where
  running : s.loaded = true → s.state = .receiving → s.enteredInEmergency = false →
    s.timers.Pending .totExpired
  stopped : s.state ≠ .receiving → ¬ s.timers.Pending .totExpired

/-- A key-up in TAIL_WAIT falls into an emergency; the timeout timer does not expire under an
emergency that was declared later; and a slot is free when the timer is started. -/
def KeepsTimeout (s : State) : Input → Prop
  | .corAssert =>
    (s.state = .tailWait → s.emergency = true) ∧
      (s.state = .hangWait → s.emergency = true ∨ s.hangTimer ≠ none ∨ s.timers.HasRoom) ∧
      (s.state = .idle → s.cfg.corDebounceMs ≤ 0 → s.cfg.requireId = false →
        s.emergency = true ∨ s.timers.HasRoom)
  | .visit slot =>
    ∀ e ∈ s.timers.due slot, e.callback = .totExpired → s.emergency = true →
      s.enteredInEmergency = true
  | _ => True

theorem clamp_low {low high : Int} (ordered : low ≤ high) (value : Int) :
    low ≤ clamp low high value := by
  unfold clamp
  split <;> omega

instance (s : State) : (i : Input) → Decidable (KeepsTimeout s i)
  | .corAssert => inferInstanceAs (Decidable (_ ∧ _ ∧ _))
  | .visit slot =>
    inferInstanceAs (Decidable (∀ e ∈ s.timers.due slot, e.callback = .totExpired →
      s.emergency = true → s.enteredInEmergency = true))
  | .elapse _ | .beginTick | .corDrop | .linkRxAssert | .linkRxDrop | .callerIdentified
  | .callerCleared | .setEmergency _ | .configure _ | .unload | .otherTimer .. | .otherCancel _
  | .otherPtt _ => inferInstanceAs (Decidable True)

def Counting (s : State) : Prop :=
  -- The handle of the timeout timer, as long as a reception counts.
  s.state = .receiving → s.enteredInEmergency = false → s.totTimer ≠ none

theorem startTot_held {s : State} (timeout : 0 < s.cfg.totTimeMs) (room : s.timers.HasRoom) :
    s.startTot.totTimer ≠ none := by
  simp [State.startTot, create_fst, timeout, room]

theorem startReceiving_counting {s : State} (timeout : 0 < s.cfg.totTimeMs)
    (state : s.state = .idle) (room : s.emergency = true ∨ s.timers.HasRoom) :
    Counting s.startReceiving := by
  simp only [State.startReceiving, State.requestRelay_eq, State.changeState_eq]
  split
  next on =>
    rintro - calm
    simp [on, state] at calm
  next off => exact fun _ _ => startTot_held timeout (by simpa [off] using room)

theorem tailExpired_counting {s : State} (counting : Counting s) : Counting s.tailExpired := by
  unfold State.tailExpired
  cases state : s.state with
  | tailWait =>
    simp only [State.changeState_eq, State.emit, State.startHang]
    rintro ⟨⟩
  | hangWait =>
    simp only [State.releaseRelay_eq, State.changeState_eq]
    rintro ⟨⟩
  | idle | receiving | rxTimeout | bridging => exact fun on => counting (state.trans on)

theorem totExpired_counting {s : State}
    (calm : s.emergency = true → s.enteredInEmergency = true) : Counting s.totExpired := by
  simp only [State.totExpired, State.emit, State.changeState_eq]
  split
  next on =>
    rintro - entered
    simp [calm on] at entered
  next => rintro ⟨⟩

theorem debounceExpired_counting {s : State} (counting : Counting s)
    (timeout : 0 < s.cfg.totTimeMs) (room : s.timers.HasRoom) : Counting s.debounceExpired := by
  simp only [State.debounceExpired, State.denyAccess, State.emit]
  split
  next => exact counting
  next idle =>
    split
    next => split <;> exact counting
    next => exact startReceiving_counting timeout (by simpa using idle) (Or.inr room)

theorem onCorAssert_counting {s : State} (timed : Timed s) (timeout : 0 < s.cfg.totTimeMs)
    (counting : Counting s) (keeps : KeepsTimeout s .corAssert) : Counting s.onCorAssert := by
  obtain ⟨inTail, inHang, inIdle⟩ := keeps
  unfold State.onCorAssert
  cases state : s.state with
  | idle =>
    simp only
    split
    next =>
      simp only [State.startDebounce, State.cancelTimer]
      rintro ⟨⟩
    next direct =>
      simp only [not_or, Int.not_lt, Bool.not_eq_true] at direct
      exact startReceiving_counting timeout rfl (inIdle state direct.1 direct.2)
  | tailWait =>
    simp only [State.changeState_eq, State.cancelTimer]
    rintro - calm
    simp [inTail state, state] at calm
  | hangWait =>
    have noTail := timed_no_tail timed (by simp [state])
    have noTot := timed_no_tot timed (by simp [state])
    have hang : s.timers.Owns s.hangTimer .tailExpired := by simpa [noTail] using timed.tail
    simp only [State.changeState_eq, State.cancelTimer, noTot, cancelIf_none]
    rcases inHang state with on | room
    next =>
      rintro - calm
      simp [State.startTot, on, state] at calm
    next => exact fun _ _ => startTot_held timeout (cancel_hasRoom hang room)
  | receiving | rxTimeout | bridging => exact counting

theorem onCorDrop_counting {s : State} (counting : Counting s) : Counting s.onCorDrop := by
  unfold State.onCorDrop
  cases held : s.debounceTimer with
  | some n => exact counting
  | none =>
    cases state : s.state with
    | receiving =>
      simp only [State.changeState_eq, State.cancelTimer, State.startTail, State.emit]
      rintro ⟨⟩
    | rxTimeout =>
      simp only [State.releaseRelay_eq, State.changeState_eq]
      rintro ⟨⟩
    | idle | tailWait | hangWait | bridging => exact counting

theorem onLinkRxAssert_counting {s : State} (counting : Counting s) :
    Counting s.onLinkRxAssert := by
  simp only [State.onLinkRxAssert, State.changeState_eq]
  split
  next => rintro ⟨⟩
  next => exact counting

theorem onLinkRxDrop_counting {s : State} (counting : Counting s) : Counting s.onLinkRxDrop := by
  simp only [State.onLinkRxDrop, State.changeState_eq]
  split
  next => rintro ⟨⟩
  next => exact counting

/-- What a run needs: the timeout is never off, and a reception that counts has its timer. -/
structure Limited (s : State) : Prop where
  sound : Sound s
  timeout : 0 < s.cfg.totTimeMs
  counting : s.loaded = true → Counting s

theorem load_limited (hasTts : Bool) : Limited (load hasTts) where
  sound := load_sound hasTts
  timeout := by simp [load, defaultConfig]
  counting := by
    rintro - ⟨⟩

theorem repeaterConfigure_timeout (cfg : Config.KerchunkConfig) :
    0 < (repeaterConfigure cfg).totTimeMs := by
  exact Int.lt_of_lt_of_le (by decide) (clamp_low (by decide) _)

theorem visit_counting {s : State} (limited : Limited s) (on : s.loaded = true) {i : Slot}
    (keeps : KeepsTimeout s (.visit i)) : Counting (visit s i) := by
  have timed := limited.sound.timed on
  have counting := limited.counting on
  unfold visit
  cases found : s.timers.due i with
  | none => exact counting
  | some e =>
    cases callback : e.callback with
    | tailExpired =>
      simp only [callback, runCallback]
      exact tailExpired_counting counting
    | totExpired =>
      simp only [callback, runCallback]
      exact totExpired_counting (keeps e found callback)
    | debounceExpired =>
      simp only [callback, runCallback]
      exact debounceExpired_counting counting limited.timeout
        (visit_hasRoom (by simpa [callback] using timed.debounce) found)
    | sessionTimeout | aniTimeout | other =>
      simp only [callback, runCallback]
      exact counting

theorem step_counting {s : State} (limited : Limited s) {i : Input} (keeps : KeepsTimeout s i)
    (on : s.loaded = true) : Counting (step s i) := by
  have counting := limited.counting on
  have timed := limited.sound.timed on
  cases i with
  | visit slot => exact visit_counting limited on keeps
  | elapse us | beginTick | setEmergency active | otherTimer ms repeats | otherCancel timerId
  | otherPtt c => exact counting
  | corAssert =>
    simp only [step, whenLoaded_on on]
    exact onCorAssert_counting timed limited.timeout counting keeps
  | corDrop =>
    simp only [step, whenLoaded_on on]
    exact onCorDrop_counting counting
  | linkRxAssert =>
    simp only [step, whenLoaded_on on]
    exact onLinkRxAssert_counting counting
  | linkRxDrop =>
    simp only [step, whenLoaded_on on]
    exact onLinkRxDrop_counting counting
  | callerIdentified | configure cfg =>
    simp only [step, whenLoaded_on on]
    exact counting
  | callerCleared =>
    simp only [step, whenLoaded_on on, State.onCallerCleared]
    split <;> exact counting
  | unload =>
    simp only [step, whenLoaded_on on, State.repeaterUnload, State.releaseRelay_eq]
    split <;> exact counting

theorem step_limited {s : State} {i : Input} (limited : Limited s) (keeps : KeepsTimeout s i) :
    Limited (step s i) where
  sound := step_sound limited.sound i
  timeout := by
    rcases step_cfg s i with same | ⟨file, same⟩ <;> rw [same]
    next => exact limited.timeout
    next => exact repeaterConfigure_timeout file
  counting := fun on => step_counting limited keeps (step_loaded on)

/-- The condition keeps the timeout timer running. -/
theorem timeout_coherent (hasTts : Bool) (inputs : List Input)
    (keeps : Machine.Guarded step KeepsTimeout (load hasTts) inputs) :
    TimeoutCoherent (Machine.run step (load hasTts) inputs) := by
  have limited := Machine.run_invariant step (P := Limited)
    (fun _ _ limited keeps => step_limited limited keeps) (load_limited hasTts) keeps
  constructor
  next =>
    intro on receiving calm
    exact (owns_pending (limited.sound.timed on).tot).mpr (limited.counting on receiving calm)
  next => exact tot_stopped limited.sound

def keyUp : List Input :=
  -- A key-up whose debounce passes.
  [.corAssert, .elapse 150000, .beginTick, .visit firstSlot]

theorem rekey_in_tail_not_limited :
    ¬ TimeoutCoherent (Machine.run step (load false) (keyUp ++ [.corDrop, .corAssert])) := by
  rintro ⟨running, -⟩
  have pending := running (by decide) (by decide) (by decide)
  have timed := (run_sound false (keyUp ++ [.corDrop, .corAssert])).timed (by decide)
  exact absurd ((owns_pending timed.tot).mp pending) (by decide)

theorem rekey_in_hang_limited :
    TimeoutCoherent (Machine.run step (load false)
      (keyUp ++ [.corDrop, .elapse 2000000, .beginTick, .visit firstSlot, .corAssert])) :=
  timeout_coherent false _ (by decide)

/-! ## The waiting states -/

def HandlePending (s : State) (handle : Option Nat) (callback : Callback) : Prop :=
  -- The timer whose id the variable holds is pending.
  ∃ n ∈ handle, s.timers.Runs n false callback

/-- A waiting state ends, and no timer of a state is pending outside it. -/
structure WaitCoherent (s : State) : Prop where
  tailRunning : s.loaded = true → s.state = .tailWait → HandlePending s s.tailTimer .tailExpired
  hangRunning : s.loaded = true → s.state = .hangWait → HandlePending s s.hangTimer .tailExpired
  tailStopped : s.state ≠ .tailWait → ¬ HandlePending s s.tailTimer .tailExpired
  hangStopped : s.state ≠ .hangWait → ¬ HandlePending s s.hangTimer .tailExpired
  bothStopped : s.state ≠ .tailWait → s.state ≠ .hangWait → ¬ s.timers.Pending .tailExpired
  totStopped : s.state ≠ .receiving → ¬ s.timers.Pending .totExpired

def KeepsWaiting (s : State) : Input → Prop
  -- When a waiting state begins, its time is not 0, and a slot is free for its timer.
  | .corDrop =>
    s.state = .receiving → s.debounceTimer = none →
      0 < s.cfg.tailTimeMs ∧ (s.totTimer ≠ none ∨ s.timers.HasRoom)
  | .visit slot =>
    ∀ e ∈ s.timers.due slot, e.callback = .tailExpired → s.state = .tailWait →
      0 < s.cfg.hangTimeMs
  | _ => True

instance (s : State) : (i : Input) → Decidable (KeepsWaiting s i)
  | .corDrop =>
    inferInstanceAs (Decidable (s.state = .receiving → s.debounceTimer = none →
      0 < s.cfg.tailTimeMs ∧ (s.totTimer ≠ none ∨ s.timers.HasRoom)))
  | .visit slot =>
    inferInstanceAs (Decidable (∀ e ∈ s.timers.due slot, e.callback = .tailExpired →
      s.state = .tailWait → 0 < s.cfg.hangTimeMs))
  | .elapse _ | .beginTick | .corAssert | .linkRxAssert | .linkRxDrop | .callerIdentified
  | .callerCleared | .setEmergency _ | .configure _ | .unload | .otherTimer .. | .otherCancel _
  | .otherPtt _ => inferInstanceAs (Decidable True)

/-- The handles of the waiting states. -/
structure Ending (s : State) : Prop where
  tail : s.state = .tailWait → s.tailTimer ≠ none
  hang : s.state = .hangWait → s.hangTimer ≠ none

theorem ending_elsewhere {s : State} (tail : s.state ≠ .tailWait) (hang : s.state ≠ .hangWait) :
    Ending s :=
  ⟨fun on => absurd on tail, fun on => absurd on hang⟩

theorem tailExpired_ending {s : State}
    (time : s.state = .tailWait → 0 < s.cfg.hangTimeMs ∧ s.timers.HasRoom) :
    Ending s.tailExpired := by
  unfold State.tailExpired
  cases state : s.state with
  | tailWait =>
    simp only [State.changeState_eq, State.emit, State.startHang]
    exact ⟨by simp, by simp [create_fst, time state]⟩
  | hangWait =>
    simp only [State.releaseRelay_eq, State.changeState_eq]
    exact ending_elsewhere (by simp) (by simp)
  | idle | receiving | rxTimeout | bridging => exact ending_elsewhere (by simp) (by simp)

theorem totExpired_ending {s : State} (ending : Ending s) : Ending s.totExpired := by
  simp only [State.totExpired, State.emit, State.changeState_eq]
  split
  next => exact ⟨ending.tail, ending.hang⟩
  next => exact ending_elsewhere (by simp) (by simp)

theorem debounceExpired_ending {s : State} (ending : Ending s) : Ending s.debounceExpired := by
  simp only [State.debounceExpired, State.denyAccess, State.emit]
  split
  next => exact ⟨ending.tail, ending.hang⟩
  next =>
    split
    next => split <;> exact ⟨ending.tail, ending.hang⟩
    next => exact ending_elsewhere (by simp [startReceiving_state]) (by simp [startReceiving_state])

theorem onCorAssert_ending {s : State} (ending : Ending s) : Ending s.onCorAssert := by
  unfold State.onCorAssert
  cases state : s.state with
  | idle =>
    simp only
    split
    next =>
      simp only [State.startDebounce, State.cancelTimer]
      exact ending_elsewhere (by simp) (by simp)
    next => exact ending_elsewhere (by simp [startReceiving_state]) (by simp [startReceiving_state])
  | tailWait =>
    simp only [State.changeState_eq, State.cancelTimer]
    exact ending_elsewhere (by simp) (by simp)
  | hangWait =>
    simp only [State.changeState_eq, State.cancelTimer, State.startTot]
    exact ending_elsewhere (by simp) (by simp)
  | receiving | rxTimeout | bridging => exact ending

theorem onCorDrop_ending {s : State} (timed : Timed s) (ending : Ending s)
    (keeps : KeepsWaiting s .corDrop) : Ending s.onCorDrop := by
  unfold State.onCorDrop
  cases held : s.debounceTimer with
  | some n => exact ⟨ending.tail, ending.hang⟩
  | none =>
    cases state : s.state with
    | receiving =>
      obtain ⟨time, room⟩ := keeps state held
      have free := cancel_hasRoom timed.tot room
      simp only [State.changeState_eq, State.cancelTimer, State.startTail, State.emit]
      exact ⟨by simp [create_fst, time, free], by simp⟩
    | rxTimeout =>
      simp only [State.releaseRelay_eq, State.changeState_eq]
      exact ending_elsewhere (by simp) (by simp)
    | idle | tailWait | hangWait | bridging => exact ending

theorem changeState_ending {s : State} {newState : RptState} (tail : newState ≠ .tailWait)
    (hang : newState ≠ .hangWait) : Ending (s.changeState newState) := by
  rw [State.changeState_eq]
  exact ending_elsewhere tail hang

theorem visit_ending {s : State} (timed : Timed s) (ending : Ending s) {i : Slot}
    (keeps : KeepsWaiting s (.visit i)) : Ending (visit s i) := by
  unfold visit
  cases found : s.timers.due i with
  | none => exact ⟨ending.tail, ending.hang⟩
  | some e =>
    cases callback : e.callback with
    | tailExpired =>
      simp only [callback, runCallback]
      refine tailExpired_ending fun waiting => ?_
      exact ⟨keeps e found callback waiting,
        visit_hasRoom (by simpa [callback] using timed.tail) found⟩
    | totExpired =>
      simp only [callback, runCallback]
      exact totExpired_ending ⟨ending.tail, ending.hang⟩
    | debounceExpired =>
      simp only [callback, runCallback]
      exact debounceExpired_ending ⟨ending.tail, ending.hang⟩
    | sessionTimeout | aniTimeout | other =>
      simp only [callback, runCallback]
      exact ⟨ending.tail, ending.hang⟩

theorem step_ending {s : State} (timed : Timed s) (ending : Ending s) {i : Input}
    (keeps : KeepsWaiting s i) (on : s.loaded = true) : Ending (step s i) := by
  cases i with
  | visit slot => exact visit_ending timed ending keeps
  | elapse us | beginTick | setEmergency active | otherTimer ms repeats | otherCancel timerId
  | otherPtt c => exact ⟨ending.tail, ending.hang⟩
  | corAssert =>
    simp only [step, whenLoaded_on on]
    exact onCorAssert_ending ending
  | corDrop =>
    simp only [step, whenLoaded_on on]
    exact onCorDrop_ending timed ending keeps
  | linkRxAssert =>
    simp only [step, whenLoaded_on on, State.onLinkRxAssert]
    split
    next => exact changeState_ending (by simp) (by simp)
    next => exact ending
  | linkRxDrop =>
    simp only [step, whenLoaded_on on, State.onLinkRxDrop]
    split
    next => exact changeState_ending (by simp) (by simp)
    next => exact ending
  | callerIdentified | configure cfg =>
    simp only [step, whenLoaded_on on]
    exact ⟨ending.tail, ending.hang⟩
  | callerCleared =>
    simp only [step, whenLoaded_on on, State.onCallerCleared]
    split <;> exact ⟨ending.tail, ending.hang⟩
  | unload =>
    simp only [step, whenLoaded_on on, State.repeaterUnload, State.releaseRelay_eq]
    split <;> exact ⟨ending.tail, ending.hang⟩

structure Waiting (s : State) : Prop where
  sound : Sound s
  ending : s.loaded = true → Ending s

theorem load_waiting (hasTts : Bool) : Waiting (load hasTts) where
  sound := load_sound hasTts
  ending := fun _ => ending_elsewhere (by simp [load]) (by simp [load])

theorem step_waiting {s : State} {i : Input} (waiting : Waiting s) (keeps : KeepsWaiting s i) :
    Waiting (step s i) where
  sound := step_sound waiting.sound i
  ending := by
    intro on
    have before := step_loaded on
    exact step_ending (waiting.sound.timed before) (waiting.ending before) keeps before

theorem handlePending_runs {s : State} (sound : Sound s) {handle : Option Nat}
    (pending : HandlePending s handle .tailExpired) : Timed s ∧ handle ≠ none := by
  obtain ⟨n, held, runs⟩ := pending
  by_cases on : s.loaded = true
  next => exact ⟨sound.timed on, by simp [Option.mem_def.mp held]⟩
  next =>
    have silent := sound.silent (by simpa using on) .tailExpired rfl
    cases ((silent n false).mp runs).2

theorem wait_stopped {s : State} (sound : Sound s) (tail : s.state ≠ .tailWait)
    (hang : s.state ≠ .hangWait) : ¬ s.timers.Pending .tailExpired := by
  intro pending
  by_cases on : s.loaded = true
  next =>
    have timed := sound.timed on
    have held := (owns_pending timed.tail).mp pending
    simp [timed_no_tail timed tail, timed_no_hang timed hang] at held
  next => exact (owns_pending (sound.silent (by simpa using on) _ rfl)).mp pending rfl

theorem tail_runs {s : State} (timed : Timed s) (held : s.tailTimer ≠ none) :
    HandlePending s s.tailTimer .tailExpired := by
  obtain ⟨n, same⟩ := Option.ne_none_iff_exists'.mp held
  exact ⟨n, same, (timed.tail n false).mpr ⟨rfl, by simp [same]⟩⟩

theorem hang_runs {s : State} (timed : Timed s) (state : s.state = .hangWait)
    (held : s.hangTimer ≠ none) : HandlePending s s.hangTimer .tailExpired := by
  have noTail := timed_no_tail timed (by simp [state])
  obtain ⟨n, same⟩ := Option.ne_none_iff_exists'.mp held
  exact ⟨n, same, (timed.tail n false).mpr ⟨rfl, by simp [noTail, same]⟩⟩

/-- The condition gives every waiting state its timer; that timers stop with their states needs no
condition. -/
theorem wait_coherent (hasTts : Bool) (inputs : List Input)
    (keeps : Machine.Guarded step KeepsWaiting (load hasTts) inputs) :
    WaitCoherent (Machine.run step (load hasTts) inputs) := by
  have waiting := Machine.run_invariant step (P := Waiting)
    (fun _ _ waiting keeps => step_waiting waiting keeps) (load_waiting hasTts) keeps
  have sound := waiting.sound
  constructor
  next =>
    intro on state
    exact tail_runs (sound.timed on) ((waiting.ending on).tail state)
  next =>
    intro on state
    exact hang_runs (sound.timed on) state ((waiting.ending on).hang state)
  next =>
    intro elsewhere pending
    obtain ⟨timed, held⟩ := handlePending_runs sound pending
    exact elsewhere (timed.inTail held)
  next =>
    intro elsewhere pending
    obtain ⟨timed, held⟩ := handlePending_runs sound pending
    exact elsewhere (timed.inHang held)
  next => exact wait_stopped sound
  next => exact tot_stopped sound

def noTail : Config.KerchunkConfig :=
  -- The configuration `[repeater] tail_time = 0`, which passes the range checks.
  [{ sectionName := "repeater".toList, key := "tail_time".toList, value := "0".toList }]

theorem zero_tail_never_ends :
    ¬ WaitCoherent (Machine.run step (load false) (.configure noTail :: keyUp ++ [.corDrop])) := by
  intro coherent
  obtain ⟨n, held, -⟩ := coherent.tailRunning (by decide) (by decide)
  cases held

theorem default_tail_ends :
    WaitCoherent (Machine.run step (load false)
      (.configure [] :: keyUp ++ [.corDrop, .elapse 2000000, .beginTick, .visit firstSlot])) :=
  wait_coherent false _ (by decide)

end Kerchunk.Repeater
