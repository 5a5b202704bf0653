import Kerchunk.Repeater.Timers

set_option autoImplicit false

/-!
# The changes of state that the repeater tells

A step fires the events of at most one change, and the start of a tail beside it.
-/

namespace Kerchunk.Repeater

open State (changeState_eq releaseRelay_eq requestRelay_eq)

def heardEvent : Output → Bool
  -- The events that tell the channel's state.
  | .rxStateChange .. | .tailStart => true
  | _ => false

inductive Told (old new : RptState) : List Output → Prop where
  | same : old = new → Told old new []
  | moved : old ≠ new → new ≠ .tailWait → Told old new [.rxStateChange old new]
  | tail : old = .receiving → new = .tailWait →
      Told old new [.rxStateChange .receiving .tailWait, .tailStart]

def Reports (s s' : State) : Prop :=
  ∃ news, s'.out = s.out ++ news ∧ Told s.state s'.state (news.filter heardEvent)

theorem reports_same {s s' : State} (news : List Output) (out : s'.out = s.out ++ news)
    (state : s'.state = s.state) (unheard : news.filter heardEvent = []) : Reports s s' :=
  ⟨news, out, unheard ▸ .same state.symm⟩

theorem reports_nothing {s s' : State} (out : s'.out = s.out)
    (state : s'.state = s.state) : Reports s s' :=
  reports_same [] (by simp [out]) state rfl

theorem reports_moved {s s' : State} (news : List Output)
    (out : s'.out = s.out ++ news) (moved : s.state ≠ s'.state) (elsewhere : s'.state ≠ .tailWait)
    (heard : news.filter heardEvent = [.rxStateChange s.state s'.state]) : Reports s s' :=
  ⟨news, out, heard ▸ .moved moved elsewhere⟩

theorem startReceiving_reports {s : State} (idle : s.state = .idle) :
    Reports s s.startReceiving := by
  have out : s.startReceiving.out = (s.requestRelay.changeState .receiving).out := by
    simp only [State.startReceiving]
    split <;> rfl
  refine reports_moved
    ((if s.cfg.softwareRelay then [.ptt (.request "repeater")] else []) ++
      [.rxStateChange .idle .receiving]) ?_ ?_ ?_ ?_
  next =>
    rw [out]
    cases relay : s.cfg.softwareRelay <;> simp [requestRelay_eq, changeState_eq, relay, idle]
  next => simp [startReceiving_state, idle]
  next => simp [startReceiving_state]
  next =>
    rw [startReceiving_state, idle]
    cases s.cfg.softwareRelay <;> simp [heardEvent]

theorem released_reports {s : State} (newState : RptState)
    (moved : s.state ≠ newState) (elsewhere : newState ≠ .tailWait) :
    Reports s (s.releaseRelay.changeState newState) := by
  refine reports_moved
    ((if s.cfg.softwareRelay then [.ptt (.release "repeater")] else []) ++
      [.rxStateChange s.state newState]) ?_ ?_ ?_ ?_
  next =>
    cases relay : s.cfg.softwareRelay <;>
      simp [releaseRelay_eq, changeState_eq, relay, moved.symm]
  next => simpa [releaseRelay_eq, changeState_eq] using moved
  next => simpa [changeState_eq] using elsewhere
  next =>
    cases s.cfg.softwareRelay <;> simp [heardEvent, releaseRelay_eq, changeState_eq]

theorem tailExpired_reports (s : State) : Reports s s.tailExpired := by
  unfold State.tailExpired
  cases state : s.state with
  | tailWait =>
    exact reports_moved [.tailExpire, .rxStateChange .tailWait .hangWait]
      (by simp [changeState_eq, State.emit, State.startHang])
      (by simp [changeState_eq, State.startHang, state])
      (by simp [changeState_eq, State.startHang])
      (by simp [changeState_eq, State.startHang, state, heardEvent])
  | hangWait =>
    obtain ⟨news, out, told⟩ := released_reports .idle
      (s := { s with tailTimer := none, hangTimer := none }) (by simp [state]) (by simp)
    simp only [state] at out told
    exact ⟨news, out, by simpa [state] using told⟩
  | idle | receiving | rxTimeout | bridging => exact reports_nothing rfl state.symm

theorem totExpired_reports (s : State) : Reports s s.totExpired := by
  simp only [State.totExpired]
  split
  next => exact reports_nothing rfl rfl
  next =>
    by_cases already : s.state = .rxTimeout
    next =>
      exact reports_same [.queueTone totWarnHz 1000 8000 priCritical, .rxTimeout]
        (by simp [changeState_eq, State.emit, already])
        (by simp [changeState_eq, already]) rfl
    next =>
      have differs : RptState.rxTimeout ≠ s.state := fun same => already same.symm
      exact reports_moved [.queueTone totWarnHz 1000 8000 priCritical,
          .rxTimeout, .rxStateChange s.state .rxTimeout]
        (by simp [changeState_eq, State.emit, differs])
        (by simpa [changeState_eq] using already) (by simp [changeState_eq])
        (by simp [changeState_eq, State.emit, heardEvent])

theorem debounceExpired_reports (s : State) : Reports s s.debounceExpired := by
  simp only [State.debounceExpired, State.denyAccess]
  split
  next => exact reports_nothing rfl rfl
  next idle =>
    split
    next =>
      split
      next => exact reports_same [.ttsSpeak "Access denied." priHigh] rfl rfl rfl
      next => exact reports_same [.queueTone 400 500 4000 priHigh] rfl rfl rfl
    next =>
      have idle : s.state = .idle := by simpa using idle
      exact startReceiving_reports (s := { s with debounceTimer := none }) idle

theorem onCorAssert_reports (s : State) : Reports s s.onCorAssert := by
  unfold State.onCorAssert
  cases state : s.state with
  | idle =>
    simp only
    split
    next => exact reports_nothing rfl (by simp [State.startDebounce,
      State.cancelTimer, state])
    next =>
      obtain ⟨news, out, told⟩ := startReceiving_reports
        (s := { s with callerIdentified := false, state := .idle }) rfl
      exact ⟨news, by simpa [state] using out, by simpa [state] using told⟩
  | tailWait =>
    exact reports_moved [.rxStateChange .tailWait .receiving]
      (by simp [changeState_eq, State.cancelTimer, state])
      (by simp [changeState_eq, state]) (by simp [changeState_eq])
      (by simp [changeState_eq, state, heardEvent])
  | hangWait =>
    exact reports_moved [.rxStateChange .hangWait .receiving]
      (by simp [changeState_eq, State.cancelTimer, State.startTot, state])
      (by simp [changeState_eq, State.cancelTimer, State.startTot, state])
      (by simp [changeState_eq, State.cancelTimer, State.startTot])
      (by simp [changeState_eq, State.cancelTimer, State.startTot, state,
        heardEvent])
  | receiving | rxTimeout | bridging => exact reports_nothing rfl rfl

theorem onCorDrop_reports (s : State) : Reports s s.onCorDrop := by
  unfold State.onCorDrop
  cases held : s.debounceTimer with
  | some n => exact reports_nothing rfl rfl
  | none =>
    cases state : s.state with
    | receiving =>
      refine ⟨[.rxStateChange .receiving .tailWait, .tailStart], ?_, ?_⟩
      next =>
        simp [changeState_eq, State.cancelTimer, State.startTail,
          State.emit, state]
      next =>
        exact .tail state (by simp [changeState_eq, State.startTail, State.emit])
    | rxTimeout =>
      have released := released_reports (s := s) .idle (by simp [state]) (by simp)
      exact released
    | idle | tailWait | hangWait | bridging => exact reports_nothing rfl rfl

theorem changeState_reports {s : State} {newState : RptState}
    (moved : s.state ≠ newState) (elsewhere : newState ≠ .tailWait) :
    Reports s (s.changeState newState) :=
  reports_moved [.rxStateChange s.state newState] (by simp [changeState_eq, moved.symm])
    (by simpa [changeState_eq] using moved) (by simpa [changeState_eq] using elsewhere)
    (by simp [changeState_eq, heardEvent])

theorem unload_reports (s : State) : Reports s s.repeaterUnload := by
  simp only [State.repeaterUnload]
  split
  next =>
    refine reports_same (if s.cfg.softwareRelay then [.ptt (.release "repeater")] else []) ?_ ?_ ?_
    next =>
      cases relay : s.cfg.softwareRelay <;>
        simp [releaseRelay_eq, State.cancelTimer, relay]
    next => simp [releaseRelay_eq, State.cancelTimer]
    next => cases s.cfg.softwareRelay <;> simp [heardEvent]
  next => exact reports_nothing rfl rfl

theorem whenLoaded_reports {s : State} {handler : State → State}
    (reports : Reports s (handler s)) : Reports s (whenLoaded s handler) := by
  unfold whenLoaded
  split
  next => exact reports
  next => exact reports_nothing rfl rfl

theorem runCallback_reports (s : State) (callback : Callback) :
    Reports s (runCallback s callback) := by
  cases callback with
  | tailExpired => exact tailExpired_reports s
  | totExpired => exact totExpired_reports s
  | debounceExpired => exact debounceExpired_reports s
  | sessionTimeout | aniTimeout | other => exact reports_nothing rfl rfl

theorem step_reports (s : State) (i : Input) :
    Reports s (step s i) := by
  cases i with
  | elapse | beginTick | setEmergency | otherTimer | otherCancel | otherPtt =>
    exact reports_nothing rfl rfl
  | visit slot =>
    simp only [step, visit]
    split
    next e found =>
      exact runCallback_reports { s with timers := s.timers.visit slot } e.callback
    next => exact reports_nothing rfl rfl
  | corAssert => exact whenLoaded_reports (onCorAssert_reports s)
  | corDrop => exact whenLoaded_reports (onCorDrop_reports s)
  | linkRxAssert =>
    refine whenLoaded_reports ?_
    unfold State.onLinkRxAssert
    split
    next idle => exact changeState_reports (by simp [idle]) (by simp)
    next => exact reports_nothing rfl rfl
  | linkRxDrop =>
    refine whenLoaded_reports ?_
    unfold State.onLinkRxDrop
    split
    next bridging => exact changeState_reports (by simp [bridging]) (by simp)
    next => exact reports_nothing rfl rfl
  | callerIdentified => exact whenLoaded_reports (reports_nothing rfl rfl)
  | callerCleared =>
    refine whenLoaded_reports ?_
    unfold State.onCallerCleared
    split <;> exact reports_nothing rfl rfl
  | configure cfg => exact whenLoaded_reports (reports_nothing rfl rfl)
  | unload => exact whenLoaded_reports (unload_reports s)

end Kerchunk.Repeater
