import Kerchunk.Repeater.Timers

set_option autoImplicit false

/-!
# The PTT calls of the repeater

Requests less releases, over whole runs with reloads and unloading.
-/

namespace Kerchunk.Repeater

open Kerchunk.Core (Slot TimerTable TimerEntry firstSlot)
open Kerchunk.Core.TimerTable

def weight : Output → Int
  | .ptt (.request _) => 1
  | .ptt (.release _) => -1
  | _ => 0

def balance : List Output → Int
  -- Requests less releases that the module has made.
  | [] => 0
  | o :: rest => weight o + balance rest

@[simp] theorem balance_nil : balance [] = 0 := rfl

@[simp] theorem balance_cons (o : Output) (rest : List Output) :
    balance (o :: rest) = weight o + balance rest := rfl

@[simp] theorem balance_append (first second : List Output) :
    balance (first ++ second) = balance first + balance second := by
  induction first with
  | nil => simp
  | cons o rest ih =>
    simp only [List.cons_append, balance_cons, ih]
    omega

def RptState.keyed : RptState → Bool
  -- RECEIVING, TAIL_WAIT, HANG_WAIT and RX_TIMEOUT.
  | .receiving | .tailWait | .hangWait | .rxTimeout => true
  | .idle | .bridging => false

def level (s : State) : Int :=
  -- What the module holds by its settings and its state.
  if s.cfg.softwareRelay ∧ s.state.keyed then 1 else 0

def Balanced (s : State) : Prop :=
  balance s.out = if s.loaded then level s else 0

instance (s : State) : Decidable (Balanced s) :=
  inferInstanceAs (Decidable (_ = _))

/-- A reload switches the relay only in IDLE or BRIDGING, and the module is not unloaded in
RX_TIMEOUT with the relay on. -/
def KeepsBalance (s : State) : Input → Prop
  | .configure cfg =>
    s.loaded = true → s.state.keyed = true →
      (repeaterConfigure cfg).softwareRelay = s.cfg.softwareRelay
  | .unload => s.loaded = true → s.cfg.softwareRelay = true → s.state ≠ .rxTimeout
  | _ => True

def Matches (s s' : State) : Prop :=
  -- The calls that a handler makes agree with the states it leaves and enters.
  balance s'.out - level s' = balance s.out - level s

theorem startReceiving_matches {s : State} (state : s.state = .idle) :
    Matches s s.startReceiving := by
  have out : s.startReceiving.out =
      (s.requestRelay.changeState .receiving).out := by
    simp only [State.startReceiving]
    split <;> rfl
  unfold Matches level
  rw [out, startReceiving_state, (startReceiving_setting s).cfg]
  cases relay : s.cfg.softwareRelay <;>
    simp [State.requestRelay_eq, State.changeState_eq, relay, state, RptState.keyed, weight]

theorem tailExpired_matches (s : State) : Matches s s.tailExpired := by
  unfold State.tailExpired Matches level
  cases state : s.state <;> cases relay : s.cfg.softwareRelay <;>
    simp [State.changeState_eq, State.emit, State.startHang, State.releaseRelay_eq, relay,
      RptState.keyed, weight, Int.sub_eq_add_neg]

theorem totExpired_matches {s : State} (state : s.state = .receiving) :
    Matches s s.totExpired := by
  simp only [State.totExpired, State.emit, State.changeState_eq, Matches, level]
  split <;> simp [state, RptState.keyed, weight]

theorem debounceExpired_matches (s : State) : Matches s s.debounceExpired := by
  simp only [State.debounceExpired, State.denyAccess, State.emit]
  split
  next => rfl
  next idle =>
    split
    next => split <;> simp [Matches, level, weight]
    next => exact startReceiving_matches (s := { s with debounceTimer := none }) (by simpa using idle)

theorem onCorAssert_matches (s : State) : Matches s s.onCorAssert := by
  unfold State.onCorAssert
  cases state : s.state with
  | idle =>
    simp only
    split
    next => simp [Matches, level, State.startDebounce, State.cancelTimer, state, RptState.keyed]
    next =>
      have started := startReceiving_matches
        (s := { s with callerIdentified := false, state := .idle }) rfl
      simpa [Matches, level, state] using started
  | tailWait =>
    simp [Matches, level, State.changeState_eq, State.cancelTimer, state, RptState.keyed, weight]
  | hangWait =>
    simp [Matches, level, State.changeState_eq, State.cancelTimer, State.startTot, state,
      RptState.keyed, weight]
  | receiving | rxTimeout | bridging => rfl

theorem onCorDrop_matches (s : State) : Matches s s.onCorDrop := by
  unfold State.onCorDrop
  cases held : s.debounceTimer with
  | some n => rfl
  | none =>
    cases state : s.state <;> cases relay : s.cfg.softwareRelay <;>
      simp [Matches, level, State.changeState_eq, State.cancelTimer, State.startTail, State.emit,
        State.releaseRelay_eq, state, relay, RptState.keyed, weight, Int.sub_eq_add_neg]

theorem onLinkRxAssert_matches (s : State) : Matches s s.onLinkRxAssert := by
  simp only [State.onLinkRxAssert, State.changeState_eq]
  split
  next state => simp [Matches, level, state, RptState.keyed, weight]
  next => rfl

theorem onLinkRxDrop_matches (s : State) : Matches s s.onLinkRxDrop := by
  simp only [State.onLinkRxDrop, State.changeState_eq]
  split
  next state => simp [Matches, level, state, RptState.keyed, weight]
  next => rfl

theorem visit_matches {s : State} (sound : Sound s) (i : Slot) : Matches s (visit s i) := by
  unfold visit
  cases found : s.timers.due i with
  | none => rfl
  | some e =>
    cases callback : e.callback with
    | tailExpired =>
      simp only [callback, runCallback]
      exact tailExpired_matches { s with timers := s.timers.visit i }
    | totExpired =>
      simp only [callback, runCallback]
      refine totExpired_matches (s := { s with timers := s.timers.visit i }) ?_
      by_contra elsewhere
      exact tot_stopped sound elsewhere ⟨e, due_holds found, callback⟩
    | debounceExpired =>
      simp only [callback, runCallback]
      exact debounceExpired_matches { s with timers := s.timers.visit i }
    | sessionTimeout | aniTimeout | other =>
      simp only [callback, runCallback]
      rfl

theorem balanced_of_matches {s s' : State} (balanced : Balanced s) (on : s.loaded = true)
    (loaded : s'.loaded = true) (kept : Matches s s') : Balanced s' := by
  simp only [Balanced, Matches, on, loaded, if_true] at *
  omega

theorem whenLoaded_balanced {s : State} (balanced : Balanced s) {handler : State → State}
    (setting : SameSetting s (handler s)) (kept : Matches s (handler s)) :
    Balanced (whenLoaded s handler) := by
  unfold whenLoaded
  split
  next on => exact balanced_of_matches balanced on (setting.loaded.trans on) kept
  next => exact balanced

theorem visit_balanced {s : State} (sound : Sound s) (balanced : Balanced s) (i : Slot) :
    Balanced (visit s i) := by
  by_cases on : s.loaded = true
  next =>
    exact balanced_of_matches balanced on ((visit_loaded s i).trans on) (visit_matches sound i)
  next =>
    rw [visit_silent (sound.silent (by simpa using on))]
    exact balanced

theorem configure_balanced {s : State} (balanced : Balanced s) (cfg : Config.KerchunkConfig) :
    Balanced (step s (.configure cfg)) ↔ KeepsBalance s (.configure cfg) := by
  by_cases on : s.loaded = true
  next =>
    simp only [Balanced, on, if_true] at balanced
    simp only [step, whenLoaded_on on, Balanced, KeepsBalance, on, if_true, level, balanced]
    cases s.cfg.softwareRelay <;> cases (repeaterConfigure cfg).softwareRelay <;>
      cases s.state.keyed <;> simp
  next => simpa [step, whenLoaded, KeepsBalance, on] using balanced

theorem unload_balanced {s : State} (balanced : Balanced s) :
    Balanced (step s .unload) ↔ KeepsBalance s .unload := by
  by_cases on : s.loaded = true
  next =>
    simp only [Balanced, on, if_true] at balanced
    simp only [step, whenLoaded_on on, Balanced, KeepsBalance, on, State.repeaterUnload,
      State.releaseRelay_eq, State.cancelTimer, true_imp_iff]
    cases relay : s.cfg.softwareRelay <;> cases state : s.state <;>
      simp [balanced, level, relay, state, RptState.keyed, weight]
  next => simpa [step, whenLoaded, KeepsBalance, on] using balanced

theorem step_balanced {s : State} (sound : Sound s) (balanced : Balanced s) (i : Input) :
    Balanced (step s i) ↔ KeepsBalance s i := by
  cases i with
  | configure cfg => exact configure_balanced balanced cfg
  | unload => exact unload_balanced balanced
  | visit slot => exact iff_of_true (visit_balanced sound balanced slot) trivial
  | corAssert =>
    exact iff_of_true
      (whenLoaded_balanced balanced (onCorAssert_setting s) (onCorAssert_matches s)) trivial
  | corDrop =>
    exact iff_of_true
      (whenLoaded_balanced balanced (onCorDrop_setting s) (onCorDrop_matches s)) trivial
  | linkRxAssert =>
    exact iff_of_true
      (whenLoaded_balanced balanced (onLinkRxAssert_setting s) (onLinkRxAssert_matches s)) trivial
  | linkRxDrop =>
    exact iff_of_true
      (whenLoaded_balanced balanced (onLinkRxDrop_setting s) (onLinkRxDrop_matches s)) trivial
  | callerIdentified =>
    exact iff_of_true
      (whenLoaded_balanced balanced ⟨rfl, rfl, rfl, rfl, rfl, rfl⟩ rfl) trivial
  | callerCleared =>
    refine iff_of_true (whenLoaded_balanced balanced (onCallerCleared_setting s) ?_) trivial
    unfold State.onCallerCleared
    split <;> rfl
  | elapse us | beginTick | setEmergency active | otherTimer ms repeats | otherCancel timerId
  | otherPtt c => exact iff_of_true balanced trivial

theorem balanced_iff (hasTts : Bool) (inputs : List Input) :
    Machine.Guarded step (fun s i => Balanced (step s i)) (load hasTts) inputs ↔
      Machine.Guarded step KeepsBalance (load hasTts) inputs :=
  Machine.guarded_iff_of_invariant step (P := fun s => Sound s ∧ Balanced s)
    (fun _ i before => step_balanced before.1 before.2 i)
    (fun _ i before keeps =>
      ⟨step_sound before.1 i, (step_balanced before.1 before.2 i).mpr keeps⟩)
    ⟨load_sound hasTts, rfl⟩

def relayOn : Config.KerchunkConfig :=
  -- The configuration `[repeater] software_relay = on`.
  [{ sectionName := "repeater".toList, key := "software_relay".toList, value := "on".toList }]

/-- A reload during a reception turns the relay off, and the key stays down. -/
theorem relay_off_in_reception_unbalanced :
    ¬ Machine.Guarded step (fun s i => Balanced (step s i)) (load false)
      [.configure relayOn, .corAssert, .elapse 150000, .beginTick, .visit firstSlot,
        .configure []] := by
  decide

end Kerchunk.Repeater
