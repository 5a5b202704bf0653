import Kerchunk.Repeater.Timers

set_option autoImplicit false

/-!
# A local key-up against link bridging

`Watch` follows COR, the clock and the identifications, and says from these
alone when COR has been held past the debounce time by an admitted user.
-/

namespace Kerchunk.Repeater

open Kerchunk.Core (Slot TimerTable TimerEntry firstSlot)
open Kerchunk.Core.TimerTable

/-! ## What a key-up asks for -/

/-- `waiting` until the debounce is over, `passing` during the timer scan that comes first after
that, when the user is admitted. -/
inductive Phase where
  | up
  | waiting (dueAt : Nat)
  | passing
  | live
  | turnedAway
deriving DecidableEq

structure Watch where
  phase : Phase
  identified : Bool

namespace Watch

def init : Watch where
  phase := .up
  identified := false

def admitted (s : State) (w : Watch) : Prop :=
  s.cfg.requireId = true → w.identified = true

instance (s : State) (w : Watch) : Decidable (admitted s w) :=
  inferInstanceAs (Decidable (_ → _))

def corAssert (s : State) : Watch where
  phase :=
    if 0 < s.cfg.corDebounceMs ∨ s.cfg.requireId = true then
      .waiting (s.timers.now + (State.debounceMs s.cfg).toNat * 1000)
    else .live
  identified := false

def beginTick (s : State) (w : Watch) : Watch :=
  -- The first scan after the debounce decides.
  match w.phase with
  | .waiting dueAt =>
    if dueAt ≤ s.timers.now then
      { w with phase := if admitted s w then .passing else .turnedAway }
    else w
  | _ => w

def visit (s : State) (w : Watch) (slot : Slot) : Watch :=
  if w.phase = .passing ∧ (s.timers.visit slot).Swept then { w with phase := .live } else w

-- An identification that is withdrawn while the scan runs admits nobody.
def callerCleared (s : State) (w : Watch) : Watch where
  phase := if w.phase = .passing ∧ s.cfg.requireId = true then .turnedAway else w.phase
  identified := false

def step (s : State) (w : Watch) : Input → Watch
  | .corAssert => corAssert s
  | .corDrop => { w with phase := .up }
  | .beginTick => beginTick s w
  | .visit slot => visit s w slot
  | .callerIdentified => { w with identified := true }
  | .callerCleared => callerCleared s w
  | .configure _ => { w with phase := if w.phase = .passing then .turnedAway else w.phase }
  | _ => w

end Watch

/-- The repeater and its watch. -/
structure Watched where
  rpt : State
  watch : Watch

def Watched.step (p : Watched) (i : Input) : Watched where
  rpt := Repeater.step p.rpt i
  watch := p.watch.step p.rpt i

def watched (hasTts : Bool) : Watched where
  rpt := load hasTts
  watch := Watch.init

def OnAir (s : State) : Prop :=
  s.state = .receiving ∨ s.state = .rxTimeout

instance (s : State) : Decidable (OnAir s) :=
  inferInstanceAs (Decidable (_ ∨ _))

def LocalWins (p : Watched) : Prop :=
  -- A live local key-up has the repeater.
  p.rpt.loaded = true → p.watch.phase = .live → OnAir p.rpt

instance (p : Watched) : Decidable (LocalWins p) :=
  inferInstanceAs (Decidable (_ → _ → _))

/-- COR does not come up in BRIDGING, the debounce of an admitted user does not end in BRIDGING,
and a slot is free for the debounce timer. -/
def KeepsKeyUp (p : Watched) : Input → Prop
  | .corAssert =>
    p.rpt.state ≠ .bridging ∧
      (p.rpt.state = .idle → (0 < p.rpt.cfg.corDebounceMs ∨ p.rpt.cfg.requireId = true) →
        p.rpt.debounceTimer ≠ none ∨ p.rpt.timers.HasRoom)
  | .visit slot =>
    ∀ e ∈ p.rpt.timers.due slot, e.callback = .debounceExpired → p.rpt.state = .bridging →
      p.rpt.cfg.requireId = true ∧ p.rpt.callerIdentified = false
  | _ => True

instance (p : Watched) : (i : Input) → Decidable (KeepsKeyUp p i)
  | .corAssert => inferInstanceAs (Decidable (_ ∧ _))
  | .visit slot =>
    inferInstanceAs (Decidable (∀ e ∈ p.rpt.timers.due slot, e.callback = .debounceExpired →
      p.rpt.state = .bridging → p.rpt.cfg.requireId = true ∧ p.rpt.callerIdentified = false))
  | .elapse _ | .beginTick | .corDrop | .linkRxAssert | .linkRxDrop | .callerIdentified
  | .callerCleared | .setEmergency _ | .configure _ | .unload | .otherTimer .. | .otherCancel _
  | .otherPtt _ => inferInstanceAs (Decidable True)

/-! ## What the repeater does with it -/

/-- The debounce timer runs until `dueAt`. -/
structure Debouncing (s : State) (dueAt : Nat) : Prop where
  state : s.state = .idle ∨ s.state = .bridging
  entry : ∃ e, s.timers.Holds e ∧ e.callback = .debounceExpired ∧ e.nextFireUs = dueAt

theorem debounceExpired_onAir {s : State} (onAir : OnAir s) : OnAir s.debounceExpired := by
  have busy : s.state ≠ .idle := by rcases onAir with state | state <;> simp [state]
  simp only [State.debounceExpired, ne_eq, busy, not_false_eq_true, if_true]
  exact onAir

theorem visit_onAir {s : State} (timed : Timed s) (onAir : OnAir s) (i : Slot) :
    OnAir (visit s i) := by
  unfold visit
  cases found : s.timers.due i with
  | none => exact onAir
  | some e =>
    cases callback : e.callback with
    | tailExpired =>
      exfalso
      rcases due_tail_state timed found callback with state | state <;> simp [OnAir, state] at onAir
    | totExpired =>
      simp only [callback, runCallback, State.totExpired, State.emit, State.changeState_eq]
      split
      next => exact onAir
      next => exact Or.inr rfl
    | debounceExpired =>
      simp only [callback, runCallback]
      exact debounceExpired_onAir onAir
    | sessionTimeout | aniTimeout | other =>
      simp only [callback, runCallback]
      exact onAir

theorem visit_debouncing {s : State} {dueAt : Nat} (timed : Timed s) (waits : Debouncing s dueAt)
    {i : Slot} (quiet : ∀ e ∈ s.timers.due i, e.callback ≠ .debounceExpired) :
    Debouncing (visit s i) dueAt ∧ (visit s i).callerIdentified = s.callerIdentified := by
  obtain ⟨state, e, held, debounce, fires⟩ := waits
  have kept : (s.timers.visit i).Holds e := by
    rw [visit_holds]
    refine Or.inl ⟨held, ?_⟩
    rintro f found ids
    obtain rfl := holds_unique (due_holds found) held ids
    exact quiet f found debounce
  unfold visit
  cases found : s.timers.due i with
  | none => exact ⟨⟨state, e, kept, debounce, fires⟩, rfl⟩
  | some f =>
    cases callback : f.callback with
    | tailExpired =>
      exfalso
      rcases due_tail_state timed found callback with other | other <;> simp [other] at state
    | totExpired =>
      exfalso
      simp [due_tot_state timed found callback] at state
    | debounceExpired => exact absurd callback (quiet f found)
    | sessionTimeout | aniTimeout | other =>
      simp only [callback, runCallback]
      exact ⟨⟨state, e, kept, debounce, fires⟩, trivial⟩

theorem debounceMs_positive {cfg : RptConfig}
    (debounced : 0 < cfg.corDebounceMs ∨ cfg.requireId = true) : 0 < State.debounceMs cfg := by
  unfold State.debounceMs
  split <;> grind

theorem onCorAssert_followed {s : State} (timed : Timed s) (bridging : s.state ≠ .bridging)
    (room : s.state = .idle → (0 < s.cfg.corDebounceMs ∨ s.cfg.requireId = true) →
      s.debounceTimer ≠ none ∨ s.timers.HasRoom) :
    OnAir s.onCorAssert ∨
      ((0 < s.cfg.corDebounceMs ∨ s.cfg.requireId = true) ∧
        Debouncing s.onCorAssert
          (s.timers.now + (State.debounceMs s.cfg).toNat * 1000)) := by
  -- What COR finds outside BRIDGING.
  unfold State.onCorAssert
  cases state : s.state with
  | idle =>
    by_cases debounced : 0 < s.cfg.corDebounceMs ∨ s.cfg.requireId = true
    next =>
      have free := cancel_hasRoom timed.debounce (room state debounced)
      have positive := debounceMs_positive debounced
      simp only [debounced, if_true, State.startDebounce, State.cancelTimer]
      refine Or.inr ⟨trivial, Or.inl rfl, ?_⟩
      have created : ((s.timers.cancelIf s.debounceTimer).create (State.debounceMs s.cfg) false
          Callback.debounceExpired).1 = some (s.timers.cancelIf s.debounceTimer).nextId := by
        simp [create_fst, positive, free]
      exact ⟨_, (create_holds ..).mpr (Or.inr ⟨created, rfl⟩), rfl, by simp⟩
    next =>
      simp only [debounced, if_false]
      exact Or.inl (Or.inl (startReceiving_state _))
  | tailWait =>
    simp only [State.changeState_eq]
    exact Or.inl (Or.inl rfl)
  | hangWait =>
    simp only [State.changeState_eq, State.startTot]
    exact Or.inl (Or.inl rfl)
  | receiving | rxTimeout => simp [OnAir, state]
  | bridging => exact absurd state bridging

theorem visit_admits {s : State} {i : Slot} {e : TimerEntry Callback}
    (found : s.timers.due i = some e) (callback : e.callback = .debounceExpired)
    (state : s.state = .idle)
    (admitted : s.cfg.requireId = true → s.callerIdentified = true) : OnAir (visit s i) := by
  -- The debounce of an admitted user ends.
  have passes : ¬ (s.cfg.requireId = true ∧ ¬ s.callerIdentified = true) := by
    rintro ⟨closed, unknown⟩
    exact unknown (admitted closed)
  simp only [visit, found, callback, runCallback, State.debounceExpired, state, ne_eq,
    not_true_eq_false, if_false, passes]
  exact Or.inl (startReceiving_state _)

def Follows (s : State) (w : Watch) : Prop :=
  -- The repeater follows the watch.
  match w.phase with
  | .up | .turnedAway => True
  | .waiting dueAt =>
    s.timers.tickAt < dueAt ∧
      (OnAir s ∨ Debouncing s dueAt ∧ (w.identified = true → s.callerIdentified = true))
  | .passing =>
    OnAir s ∨ ∃ dueAt ≤ s.timers.tickAt, Debouncing s dueAt ∧
      (s.cfg.requireId = true → s.callerIdentified = true)
  | .live => OnAir s

structure Tracked (p : Watched) : Prop where
  sound : Sound p.rpt
  follows : p.rpt.loaded = true → Follows p.rpt p.watch

theorem corAssert_follows {s : State} {w : Watch} (timed : Timed s)
    (keeps : KeepsKeyUp ⟨s, w⟩ .corAssert) : Follows s.onCorAssert (Watch.corAssert s) := by
  have setting := onCorAssert_setting s
  have followed := onCorAssert_followed timed keeps.1 keeps.2
  unfold Follows Watch.corAssert
  by_cases debounced : 0 < s.cfg.corDebounceMs ∨ s.cfg.requireId = true
  next =>
    simp only [debounced, if_true]
    have positive := debounceMs_positive debounced
    have clock := s.timers.clock
    refine ⟨?_, ?_⟩
    next =>
      rw [setting.tickAt]
      omega
    next =>
      rcases followed with onAir | ⟨-, waits⟩
      next => exact Or.inl onAir
      next => exact Or.inr ⟨waits, by simp⟩
  next =>
    simp only [debounced, if_false]
    rcases followed with onAir | ⟨debounced', -⟩
    next => exact onAir
    next => exact absurd debounced' debounced

theorem beginTick_follows {s : State} {w : Watch} (follows : Follows s w) :
    Follows { s with timers := s.timers.beginTick } (Watch.beginTick s w) := by
  have clock := s.timers.clock
  unfold Follows at follows
  unfold Watch.beginTick
  cases phase : w.phase with
  | waiting dueAt =>
    rw [phase] at follows
    obtain ⟨-, follows⟩ := follows
    by_cases past : dueAt ≤ s.timers.now
    next =>
      by_cases admitted : Watch.admitted s w
      next =>
        simp only [past, if_true, admitted, Follows]
        rcases follows with onAir | ⟨waits, identified⟩
        next => exact Or.inl onAir
        next =>
          exact Or.inr ⟨dueAt, past, ⟨waits.state, waits.entry⟩,
            fun closed => identified (admitted closed)⟩
      next => simp [past, admitted, Follows]
    next =>
      simp only [past, if_false, Follows, phase]
      refine ⟨Nat.lt_of_not_le past, ?_⟩
      rcases follows with onAir | ⟨waits, identified⟩
      next => exact Or.inl onAir
      next => exact Or.inr ⟨⟨waits.state, waits.entry⟩, identified⟩
  | passing =>
    rw [phase] at follows
    simp only [Follows, phase]
    rcases follows with onAir | ⟨dueAt, past, waits, identified⟩
    next => exact Or.inl onAir
    next =>
      exact Or.inr ⟨dueAt, Nat.le_trans past clock, ⟨waits.state, waits.entry⟩, identified⟩
  | live =>
    rw [phase] at follows
    simp only [Follows, phase]
    exact follows
  | up | turnedAway => simp [Follows, phase]

theorem due_debounce {s : State} {dueAt : Nat} (timed : Timed s) (waits : Debouncing s dueAt)
    {i : Slot} {e : TimerEntry Callback} (found : s.timers.due i = some e)
    (callback : e.callback = .debounceExpired) : dueAt ≤ s.timers.tickAt := by
  -- The debounce timer is due only once its time has come.
  obtain ⟨-, f, held, debounce, rfl⟩ := waits
  have first := (due_owned (by simpa [callback] using timed.debounce) found).2
  have second := ((timed.debounce f.id f.repeats).mp ⟨f, held, rfl, rfl, debounce⟩).2
  obtain rfl := holds_unique (due_holds found) held (Option.some.inj (first.symm.trans second))
  exact due_fires found

theorem visit_waiting {s : State} {w : Watch} {i : Slot} {dueAt : Nat} (timed : Timed s)
    (early : s.timers.tickAt < dueAt)
    (follows : OnAir s ∨ Debouncing s dueAt ∧ (w.identified = true → s.callerIdentified = true)) :
    OnAir (visit s i) ∨
      Debouncing (visit s i) dueAt ∧ (w.identified = true → (visit s i).callerIdentified = true) := by
  rcases follows with onAir | ⟨waits, identified⟩
  next => exact Or.inl (visit_onAir timed onAir i)
  next =>
    have quiet : ∀ e ∈ s.timers.due i, e.callback ≠ .debounceExpired := by
      intro e found callback
      have := due_debounce timed waits found callback
      omega
    obtain ⟨kept, same⟩ := visit_debouncing timed waits quiet
    exact Or.inr ⟨kept, same ▸ identified⟩

theorem visit_passing {s : State} {w : Watch} {i : Slot} (timed : Timed s)
    (keeps : KeepsKeyUp ⟨s, w⟩ (.visit i))
    (follows : OnAir s ∨ ∃ dueAt ≤ s.timers.tickAt, Debouncing s dueAt ∧
      (s.cfg.requireId = true → s.callerIdentified = true)) :
    OnAir (visit s i) ∨ ∃ dueAt ≤ s.timers.tickAt, Debouncing (visit s i) dueAt ∧
      (s.cfg.requireId = true → (visit s i).callerIdentified = true) := by
  rcases follows with onAir | ⟨dueAt, past, waits, admitted⟩
  next => exact Or.inl (visit_onAir timed onAir i)
  next =>
    by_cases quiet : ∀ e ∈ s.timers.due i, e.callback ≠ .debounceExpired
    next =>
      obtain ⟨kept, same⟩ := visit_debouncing timed waits quiet
      exact Or.inr ⟨dueAt, past, kept, same ▸ admitted⟩
    next =>
      simp only [not_forall, not_not] at quiet
      obtain ⟨e, found, callback⟩ := quiet
      rcases waits.state with state | state
      next => exact Or.inl (visit_admits found callback state admitted)
      next =>
        obtain ⟨closed, unknown⟩ := keeps e found callback state
        have known := admitted closed
        rw [show s.callerIdentified = false from unknown] at known
        cases known

theorem visit_follows {s : State} {w : Watch} {i : Slot} (timed : Timed s) (follows : Follows s w)
    (keeps : KeepsKeyUp ⟨s, w⟩ (.visit i)) : Follows (visit s i) (Watch.visit s w i) := by
  have setting := visit_setting s i
  have tickAt : (visit s i).timers.tickAt = s.timers.tickAt := setting.tickAt
  have cfg : (visit s i).cfg = s.cfg := setting.cfg
  unfold Follows at follows
  cases phase : w.phase with
  | waiting dueAt =>
    rw [phase] at follows
    simp only [Watch.visit, phase, reduceCtorEq, false_and, if_false, Follows, tickAt]
    exact ⟨follows.1, visit_waiting timed follows.1 follows.2⟩
  | passing =>
    rw [phase] at follows
    have passed := visit_passing timed keeps follows
    by_cases past : (s.timers.visit i).Swept
    next =>
      simp only [Watch.visit, phase, past, and_self, if_true, Follows]
      rcases passed with onAir | ⟨dueAt, due, ⟨-, e, held, -, rfl⟩, -⟩
      next => exact onAir
      next =>
        -- A scan that is over leaves nothing that was due when it began.
        have swept : (visit s i).timers.Swept := by
          intro j
          rw [setting.scanned]
          exact past j
        have late := holds_swept swept held
        omega
    next =>
      simp only [Watch.visit, phase, past, and_false, if_false, Follows, tickAt, cfg]
      exact passed
  | live =>
    rw [phase] at follows
    simp only [Watch.visit, phase, reduceCtorEq, false_and, if_false, Follows]
    exact visit_onAir timed follows i
  | up | turnedAway => simp [Watch.visit, Follows, phase]

theorem follows_frame {s s' : State} {w : Watch} (follows : Follows s w)
    (onAir : OnAir s → OnAir s') (waits : ∀ dueAt, Debouncing s dueAt → Debouncing s' dueAt)
    (tickAt : s'.timers.tickAt = s.timers.tickAt) (cfg : s'.cfg = s.cfg)
    (identified : s.callerIdentified = true → s'.callerIdentified = true) : Follows s' w := by
  unfold Follows at *
  cases phase : w.phase with
  | waiting dueAt =>
    rw [phase] at follows
    refine ⟨tickAt ▸ follows.1, follows.2.imp onAir ?_⟩
    rintro ⟨before, known⟩
    exact ⟨waits dueAt before, fun heard => identified (known heard)⟩
  | passing =>
    rw [phase] at follows
    refine follows.imp onAir ?_
    rintro ⟨dueAt, past, before, known⟩
    exact ⟨dueAt, tickAt ▸ past, waits dueAt before,
      fun closed => identified (known (cfg ▸ closed))⟩
  | live =>
    rw [phase] at follows
    exact onAir follows
  | up | turnedAway => trivial

theorem callerIdentified_follows {s : State} {w : Watch} (follows : Follows s w) :
    Follows s.onCallerIdentified { w with identified := true } := by
  unfold Follows at *
  cases phase : w.phase with
  | waiting dueAt =>
    rw [phase] at follows
    refine ⟨follows.1, follows.2.imp id ?_⟩
    rintro ⟨before, -⟩
    exact ⟨⟨before.state, before.entry⟩, fun _ => rfl⟩
  | passing =>
    rw [phase] at follows
    refine follows.imp id ?_
    rintro ⟨dueAt, past, before, -⟩
    exact ⟨dueAt, past, ⟨before.state, before.entry⟩, fun _ => rfl⟩
  | live =>
    rw [phase] at follows
    exact follows
  | up | turnedAway => trivial

theorem onCallerCleared_onAir {s : State} (onAir : OnAir s) : OnAir s.onCallerCleared := by
  unfold State.onCallerCleared
  split <;> exact onAir

theorem onCallerCleared_debouncing {s : State} {dueAt : Nat} (waits : Debouncing s dueAt) :
    Debouncing s.onCallerCleared dueAt := by
  unfold State.onCallerCleared
  split <;> exact ⟨waits.state, waits.entry⟩

theorem callerCleared_follows {s : State} {w : Watch} (follows : Follows s w) :
    Follows s.onCallerCleared (Watch.callerCleared s w) := by
  have setting := onCallerCleared_setting s
  unfold Follows at follows
  cases phase : w.phase with
  | waiting dueAt =>
    rw [phase] at follows
    simp only [Watch.callerCleared, phase, reduceCtorEq, false_and, if_false, Follows,
      setting.tickAt]
    refine ⟨follows.1, follows.2.imp onCallerCleared_onAir ?_⟩
    rintro ⟨before, -⟩
    exact ⟨onCallerCleared_debouncing before, by simp⟩
  | passing =>
    rw [phase] at follows
    by_cases closed : s.cfg.requireId = true
    next => simp [Watch.callerCleared, phase, closed, Follows]
    next =>
      simp only [Watch.callerCleared, phase, closed, Follows, setting.tickAt, setting.cfg]
      refine follows.imp onCallerCleared_onAir ?_
      rintro ⟨dueAt, past, before, -⟩
      exact ⟨dueAt, past, onCallerCleared_debouncing before, by simp⟩
  | live =>
    rw [phase] at follows
    simp only [Watch.callerCleared, phase, reduceCtorEq, false_and, if_false, Follows]
    exact onCallerCleared_onAir follows
  | up | turnedAway => simp [Watch.callerCleared, phase, Follows]

theorem configure_follows {s : State} {w : Watch} (follows : Follows s w) (cfg : RptConfig) :
    Follows { s with cfg := cfg }
      { w with phase := if w.phase = .passing then .turnedAway else w.phase } := by
  unfold Follows at *
  cases phase : w.phase with
  | waiting dueAt =>
    rw [phase] at follows
    refine ⟨follows.1, follows.2.imp id ?_⟩
    rintro ⟨before, known⟩
    exact ⟨⟨before.state, before.entry⟩, known⟩
  | passing => simp
  | live =>
    rw [phase] at follows
    exact follows
  | up | turnedAway => trivial

theorem linkRxAssert_follows {s : State} {w : Watch} (follows : Follows s w) :
    Follows s.onLinkRxAssert w := by
  have setting := onLinkRxAssert_setting s
  refine follows_frame follows ?_ ?_ setting.tickAt setting.cfg ?_ <;>
    simp only [State.onLinkRxAssert, State.changeState_eq]
  next =>
    intro onAir
    split
    next idle => rcases onAir with state | state <;> simp [state] at idle
    next => exact onAir
  next =>
    intro dueAt waits
    split
    next => exact ⟨Or.inr rfl, waits.entry⟩
    next => exact waits
  next => split <;> exact id

theorem linkRxDrop_follows {s : State} {w : Watch} (follows : Follows s w) :
    Follows s.onLinkRxDrop w := by
  have setting := onLinkRxDrop_setting s
  refine follows_frame follows ?_ ?_ setting.tickAt setting.cfg ?_ <;>
    simp only [State.onLinkRxDrop, State.changeState_eq]
  next =>
    intro onAir
    split
    next bridging => rcases onAir with state | state <;> simp [state] at bridging
    next => exact onAir
  next =>
    intro dueAt waits
    split
    next => exact ⟨Or.inl rfl, waits.entry⟩
    next => exact waits
  next => split <;> exact id

theorem table_follows {s : State} {w : Watch} (follows : Follows s w)
    {table : TimerTable Callback} (tickAt : table.tickAt = s.timers.tickAt)
    (keeps : ∀ e, e.callback = .debounceExpired → s.timers.Holds e → table.Holds e) :
    Follows { s with timers := table } w := by
  -- What other modules do to the timer table spares the debounce timer.
  refine follows_frame follows id ?_ tickAt rfl id
  rintro dueAt ⟨state, e, held, debounce, fires⟩
  exact ⟨state, e, keeps e debounce held, debounce, fires⟩

theorem step_follows {s : State} {w : Watch} (timed : Timed s) (on : s.loaded = true)
    (follows : Follows s w) {i : Input} (keeps : KeepsKeyUp ⟨s, w⟩ i) (unload : i ≠ .unload) :
    Follows (step s i) (w.step s i) := by
  cases i with
  | visit slot => exact visit_follows timed follows keeps
  | beginTick => exact beginTick_follows follows
  | elapse us => exact table_follows follows rfl fun _ _ held => held
  | otherTimer ms repeats =>
    exact table_follows follows (create_tickAt ..) fun _ _ held =>
      (create_holds ..).mpr (Or.inl held)
  | otherCancel timerId =>
    refine table_follows follows rfl fun e debounce held => ?_
    exact (drop_holds ..).mpr ⟨held, by simp [debounce, Callback.ofRepeater]⟩
  | setEmergency active | otherPtt c =>
    exact follows_frame follows id (fun dueAt waits => ⟨waits.state, waits.entry⟩) rfl rfl id
  | corAssert =>
    simp only [step, whenLoaded_on on]
    exact corAssert_follows timed keeps
  | corDrop => trivial
  | linkRxAssert =>
    simp only [step, whenLoaded_on on]
    exact linkRxAssert_follows follows
  | linkRxDrop =>
    simp only [step, whenLoaded_on on]
    exact linkRxDrop_follows follows
  | callerIdentified =>
    simp only [step, whenLoaded_on on]
    exact callerIdentified_follows follows
  | callerCleared =>
    simp only [step, whenLoaded_on on]
    exact callerCleared_follows follows
  | configure cfg =>
    simp only [step, whenLoaded_on on]
    exact configure_follows follows _
  | unload => exact absurd rfl unload

theorem step_tracked {p : Watched} {i : Input} (tracked : Tracked p) (keeps : KeepsKeyUp p i) :
    Tracked (p.step i) where
  sound := step_sound tracked.sound i
  follows := by
    intro on
    have before := step_loaded on
    have unload : i ≠ .unload := by
      rintro rfl
      simp [Watched.step, step, whenLoaded_on before, repeaterUnload_loaded] at on
    exact step_follows (tracked.sound.timed before) before (tracked.follows before) keeps unload

theorem watched_tracked (hasTts : Bool) : Tracked (watched hasTts) where
  sound := load_sound hasTts
  follows := fun _ => trivial

theorem local_wins (hasTts : Bool) (inputs : List Input)
    (keeps : Machine.Guarded Watched.step KeepsKeyUp (watched hasTts) inputs) :
    LocalWins (Machine.run Watched.step (watched hasTts) inputs) := by
  have tracked := Machine.run_invariant Watched.step (P := Tracked)
    (fun _ _ tracked keeps => step_tracked tracked keeps)
    (watched_tracked hasTts) keeps
  intro on live
  have follows := tracked.follows on
  rw [Follows, live] at follows
  exact follows

/-! ## A whole tick decides -/

def Deciding (p : Watched) : Prop :=
  -- The scan has not come to its end, or it has and the key-up is live.
  p.watch.phase = .live ∨ p.watch.phase = .passing ∧ ¬ p.rpt.timers.Swept

theorem visit_swept (s : State) (i : Slot) :
    (visit s i).timers.Swept ↔ (s.timers.visit i).Swept := by
  unfold Swept
  rw [(visit_setting s i).scanned]

theorem visit_deciding {p : Watched} (deciding : Deciding p) (i : Slot) :
    Deciding (p.step (.visit i)) := by
  unfold Deciding Watched.step Watch.step Watch.visit
  simp only [step, visit_swept]
  rcases deciding with phase | ⟨phase, -⟩
  next => exact Or.inl (by simp [phase])
  next => by_cases past : (p.rpt.timers.visit i).Swept <;> simp [phase, past]

theorem visits_deciding {p : Watched} (deciding : Deciding p) (slots : List Slot) :
    Deciding (Machine.run Watched.step p (slots.map .visit)) := by
  induction slots generalizing p with
  | nil => exact deciding
  | cons i rest ih => exact ih (visit_deciding deciding i)

theorem visit_scanned (s : State) (i : Slot) :
    (visit s i).timers.scanned = Function.update s.timers.scanned i true :=
  (visit_setting s i).scanned

theorem visits_scanned (p : Watched) (slots : List Slot) {i : Slot}
    (passed : i ∈ slots ∨ p.rpt.timers.scanned i = true) :
    (Machine.run Watched.step p (slots.map .visit)).rpt.timers.scanned i = true := by
  induction slots generalizing p with
  | nil => simpa using passed
  | cons j rest ih =>
    refine ih (p.step (.visit j)) ?_
    rw [List.mem_cons] at passed
    by_cases here : i = j
    next => exact Or.inr (by simp [Watched.step, step, visit_scanned, here])
    next =>
      refine passed.imp (fun member => member.resolve_left here) fun before => ?_
      simpa [Watched.step, step, visit_scanned, here] using before

theorem tick_decides {p : Watched} {dueAt : Nat} (waiting : p.watch.phase = .waiting dueAt)
    (past : dueAt ≤ p.rpt.timers.now) (admitted : Watch.admitted p.rpt p.watch) :
    (Machine.run Watched.step p timerTick).watch.phase = .live := by
  -- A key-up whose debounce has passed is live after the next tick, when the user is admitted.
  have begun : Deciding (p.step .beginTick) := by
    refine Or.inr ⟨?_, ?_⟩
    next => simp [Watched.step, Watch.step, Watch.beginTick, waiting, past, admitted]
    next =>
      intro swept
      cases swept firstSlot
  have decided := visits_deciding begun (List.finRange Core.maxTimers)
  refine decided.resolve_right ?_
  rintro ⟨-, unfinished⟩
  exact unfinished fun i => visits_scanned _ _ (Or.inl (List.mem_finRange i))

theorem visits_empty {p : Watched} (empty : ∀ e, ¬ p.rpt.timers.Holds e) (slots : List Slot) :
    let after := Machine.run Watched.step p (slots.map .visit)
    after.rpt.state = p.rpt.state ∧ after.rpt.loaded = p.rpt.loaded := by
  induction slots generalizing p with
  | nil => exact ⟨rfl, rfl⟩
  | cons i rest ih =>
    have idle : p.rpt.timers.due i = none := by
      cases found : p.rpt.timers.due i with
      | none => rfl
      | some e => exact absurd (due_holds found) (empty e)
    have same : visit p.rpt i = { p.rpt with timers := p.rpt.timers.visit i } := by
      simp [visit, idle]
    have still : ∀ e, ¬ (p.step (.visit i)).rpt.timers.Holds e := by
      intro e held
      simp only [Watched.step, step, same, visit_holds, idle] at held
      exact empty e (by simpa using held)
    simpa [Watched.step, step, same] using ih still

def keyUpInBridging : List Input :=
  -- COR comes up while the link plays, and is held.
  [.linkRxAssert, .corAssert, .elapse 150000]

theorem key_up_in_bridging_loses :
    ¬ LocalWins (Machine.run Watched.step (watched false) (keyUpInBridging ++ timerTick)) := by
  intro wins
  rw [Machine.run_append] at wins
  have live := tick_decides
    (p := Machine.run Watched.step (watched false) keyUpInBridging) rfl (Nat.le_refl _)
    (by decide)
  have bridging := visits_empty
    (p := (Machine.run Watched.step (watched false) keyUpInBridging).step .beginTick) init_holds
    (List.finRange Core.maxTimers)
  rcases wins bridging.2 live with state | state
  next => cases state.symm.trans bridging.1
  next => cases state.symm.trans bridging.1

def noDebounce : Config.KerchunkConfig :=
  -- The configuration `[repeater] cor_debounce = 0`.
  [{ sectionName := "repeater".toList, key := "cor_debounce".toList, value := "0".toList }]

theorem link_after_key_up_loses :
    LocalWins (Machine.run Watched.step (watched false)
      [.configure noDebounce, .corAssert, .linkRxAssert, .linkRxDrop]) :=
  local_wins false _ (by decide)

end Kerchunk.Repeater
