import Kerchunk.Core.Timer
import Kerchunk.Lib.Machine

set_option autoImplicit false

/-!
# Emergency mode (`modules/mod_emergency.c`) and who else writes the core's flag

What the module says is left out. Other modules set and cancel timers of their own.
-/

namespace Kerchunk.Emergency

open Kerchunk.Core (Slot TimerTable)

inductive Callback where
  | timeout
  | foreign
deriving DecidableEq

/-- `emergency` and `expiresAt` are the core's; `loaded` says whether the module is. -/
structure State where
  loaded : Bool
  timeoutMs : Int
  timer : Option Nat
  emergency : Bool
  expiresAt : Int
  timers : TimerTable Callback

def defaultTimeoutMs : Int := 1800000

def init (timeoutMs : Int) : State where
  -- After `emergency_load` and `emergency_configure`.
  loaded := true
  timeoutMs := timeoutMs
  timer := none
  emergency := false
  expiresAt := 0
  timers := TimerTable.init

def coreSetEmergency (s : State) (active : Bool) : State :=
  { s with emergency := active, expiresAt := if active then s.expiresAt else 0 }

def emergencyOff (s : State) : State :=
  if s.emergency then
    { coreSetEmergency s false with timers := s.timers.cancelIf s.timer, timer := none }
  else s

def timeoutCb (s : State) : State :=
  emergencyOff { s with timer := none }

def onEmergencyOn (s : State) (now : Int) : State :=
  if s.emergency then s
  else
    let made := (s.timers.cancelIf s.timer).create s.timeoutMs false .timeout
    { coreSetEmergency s true with
      expiresAt := now + s.timeoutMs.tdiv 1000
      timers := made.2
      timer := made.1 }

def emergencyUnload (s : State) : State :=
  { coreSetEmergency s false with
    loaded := false
    timers := s.timers.cancelIf s.timer
    timer := none }

/-! ## The other writers -/

def asksOn (state : Option String) : Bool :=
  (state.getD "off").toList.map Char.toLower = "on".toList

def toolSetEmergency (s : State) (state : Option String) : State :=
  -- `tool_set_emergency` of `mod_ai.c`, with the `state` of its arguments when it is a string.
  coreSetEmergency s (asksOn state)

def pocOnSos (s : State) (alertType : Int) : State :=
  -- `poc_on_sos` of `mod_poc.c`: a negative type cancels.
  if alertType < 0 then coreSetEmergency s false else coreSetEmergency s true

inductive Input where
  | dtmfOn (now : Int)
  | dtmfOff
  | toolCall (state : Option String)
  | sos (alertType : Int)
  | configured (timeoutMs : Int)
  | load (timeoutMs : Int)
  | unload
  | timerSet (ms : Int) (repeats : Bool)
  | timerCancelled (timerId : Nat)
  | elapse (us : Nat)
  | tick
  | visit (i : Slot)

def visit (s : State) (i : Slot) : State :=
  -- One slot of `kerchunk_timer_tick`.
  let passed := { s with timers := s.timers.visit i }
  match (s.timers.due i).map Core.TimerEntry.callback with
  | some .timeout => timeoutCb passed
  | _ => passed

-- The subscriptions and `configure` are there only while the module is loaded.
def step (s : State) : Input → State
  | .dtmfOn now => if s.loaded then onEmergencyOn s now else s
  | .dtmfOff => if s.loaded then emergencyOff s else s
  | .toolCall state => toolSetEmergency s state
  | .sos alertType => pocOnSos s alertType
  | .configured timeoutMs => if s.loaded then { s with timeoutMs := timeoutMs } else s
  | .load timeoutMs =>
    if s.loaded then s else { s with loaded := true, timeoutMs := timeoutMs, timer := none }
  | .unload => if s.loaded then emergencyUnload s else s
  | .timerSet ms repeats => { s with timers := (s.timers.create ms repeats .foreign).2 }
  | .timerCancelled timerId =>
    { s with timers := s.timers.drop fun e => e.id = timerId ∧ e.callback = .foreign }
  | .elapse us => { s with timers := s.timers.elapse us }
  | .tick => { s with timers := s.timers.beginTick }
  | .visit i => visit s i

/-! ## The flag and the timer -/

def Armed (s : State) : Prop :=
  -- While the flag is set, and only then, the timer that clears it is pending.
  s.emergency = true ↔ s.timers.Pending .timeout

def Expires (s : State) : Input → Prop
  | .visit i => ∃ e, s.timers.due i = some e ∧ e.callback = .timeout
  | _ => False

def Ends (s : State) (i : Input) : Prop :=
  -- What a step must leave: flag and timer together, and no flag where the timer has run out.
  Armed (step s i) ∧ (Expires s i → (step s i).emergency = false)

def Supervised (s : State) : Input → Prop
  -- Whoever writes the flag without the timer leaves it as it is, and *911 gets its timer.
  | .dtmfOn _ =>
    s.loaded = true → s.emergency = false → 0 < s.timeoutMs ∧ s.timers.HasRoom
  | .toolCall state => asksOn state = s.emergency
  | .sos alertType => decide (0 ≤ alertType) = s.emergency
  | _ => True

structure Sound (s : State) : Prop where
  owns : s.timers.Owns s.timer .timeout
  armed : s.emergency = true ↔ s.timer ≠ none
  unloaded : s.loaded = false → s.timer = none

variable {s : State}

theorem init_sound (timeoutMs : Int) : Sound (init timeoutMs) where
  owns := TimerTable.init_owns
  armed := by simp [init]
  unloaded _ := rfl

theorem Sound.ends (sound : Sound s) : Armed s :=
  sound.armed.trans (TimerTable.owns_pending sound.owns).symm

theorem Sound.of_timers (sound : Sound s) {timers : TimerTable Callback}
    (owns : timers.Owns s.timer .timeout) : Sound { s with timers := timers } where
  owns := owns
  armed := sound.armed
  unloaded := sound.unloaded

theorem Sound.idle (sound : Sound s) (off : s.emergency = false) : s.timer = none := by
  by_contra running
  have on := sound.armed.mpr running
  rw [off] at on
  cases on

theorem off_sound (sound : Sound s) : Sound (emergencyOff s) := by
  unfold emergencyOff
  split
  next =>
    exact
      { owns := TimerTable.cancel_owns sound.owns
        armed := by simp [coreSetEmergency]
        unloaded := fun _ => rfl }
  next => exact sound

theorem unload_sound (sound : Sound s) : Sound (emergencyUnload s) where
  owns := TimerTable.cancel_owns sound.owns
  armed := by simp [emergencyUnload, coreSetEmergency]
  unloaded _ := rfl

theorem on_armed (sound : Sound s) (off : s.emergency = false) (now : Int) :
    (Armed (onEmergencyOn s now) ↔ 0 < s.timeoutMs ∧ s.timers.HasRoom) ∧
      (0 < s.timeoutMs ∧ s.timers.HasRoom → s.loaded = true → Sound (onEmergencyOn s now)) := by
  -- *911 from a state without emergency.
  have none_running := sound.idle off
  have owns : s.timers.Owns none .timeout := by simpa [none_running] using sound.owns
  have after := TimerTable.create_owns owns s.timeoutMs
  have result : onEmergencyOn s now =
      { coreSetEmergency s true with
        expiresAt := now + s.timeoutMs.tdiv 1000
        timers := (s.timers.create s.timeoutMs false .timeout).2
        timer := (s.timers.create s.timeoutMs false .timeout).1 } := by
    simp [onEmergencyOn, off, none_running]
  rw [result]
  have made : (s.timers.create s.timeoutMs false .timeout).1 ≠ none ↔
      0 < s.timeoutMs ∧ s.timers.HasRoom := by
    simp [TimerTable.create_fst]
  constructor
  next => simp [Armed, coreSetEmergency, TimerTable.owns_pending after, made]
  next =>
    intro granted loaded
    exact
      { owns := after
        armed := by simp [coreSetEmergency, made, granted]
        unloaded := by simp [coreSetEmergency, loaded] }

theorem set_armed (sound : Sound s) (active : Bool) :
    (Armed (coreSetEmergency s active) ↔ active = s.emergency) ∧
      (active = s.emergency → Sound (coreSetEmergency s active)) := by
  constructor
  next =>
    have pending := sound.ends
    simp only [Armed, coreSetEmergency] at pending ⊢
    rw [← pending]
    cases active <;> cases s.emergency <;> simp
  next =>
    rintro rfl
    exact { owns := sound.owns, armed := sound.armed, unloaded := sound.unloaded }

theorem timeout_sound (sound : Sound s) {i : Slot} {e : Core.TimerEntry Callback}
    (found : s.timers.due i = some e) (mine : e.callback = .timeout) :
    Sound (timeoutCb { s with timers := s.timers.visit i }) ∧
      (timeoutCb { s with timers := s.timers.visit i }).emergency = false := by
  have owns : s.timers.Owns s.timer e.callback := by
    rw [mine]
    exact sound.owns
  have gone : (s.timers.visit i).Owns none .timeout := by
    rw [← mine]
    exact TimerTable.visit_owns owns found
  have on : s.emergency = true :=
    sound.armed.mpr (by simp [(TimerTable.due_owned owns found).2])
  have result : timeoutCb { s with timers := s.timers.visit i } =
      { coreSetEmergency s false with timers := s.timers.visit i, timer := none } := by
    simp [timeoutCb, emergencyOff, on, coreSetEmergency]
  rw [result]
  refine ⟨?_, rfl⟩
  exact { owns := gone, armed := by simp [coreSetEmergency], unloaded := fun _ => rfl }

theorem visit_sound (sound : Sound s) (i : Slot) :
    Sound (visit s i) ∧ (Expires s (.visit i) → (visit s i).emergency = false) := by
  cases found : s.timers.due i with
  | none =>
    have same : visit s i = { s with timers := s.timers.visit i } := by simp [visit, found]
    rw [same]
    refine ⟨sound.of_timers (TimerTable.visit_owns_idle sound.owns found), ?_⟩
    rintro ⟨e, due, -⟩
    rw [found] at due
    cases due
  | some e =>
    by_cases mine : e.callback = .timeout
    next =>
      have result : visit s i = timeoutCb { s with timers := s.timers.visit i } := by
        simp [visit, found, mine]
      have after := timeout_sound sound found mine
      rw [result]
      exact ⟨after.1, fun _ => after.2⟩
    next =>
      have same : visit s i = { s with timers := s.timers.visit i } := by
        simp [visit, found, mine]
      rw [same]
      refine ⟨sound.of_timers (TimerTable.visit_owns_other sound.owns found mine), ?_⟩
      rintro ⟨f, due, theirs⟩
      rw [found] at due
      obtain rfl := Option.some.inj due
      exact absurd theirs mine

theorem sos_step (alertType : Int) :
    pocOnSos s alertType = coreSetEmergency s (decide (0 ≤ alertType)) := by
  unfold pocOnSos
  split
  next cancels => simp [Int.not_le.mpr cancels]
  next alerts => simp [Int.not_lt.mp alerts]

theorem step_ends (sound : Sound s) (i : Input) :
    (Ends s i ↔ Supervised s i) ∧ (Supervised s i → Sound (step s i)) := by
  have free (kept : Sound (step s i)) (always : Supervised s i)
      (cleared : Expires s i → (step s i).emergency = false) :
      (Ends s i ↔ Supervised s i) ∧ (Supervised s i → Sound (step s i)) :=
    ⟨iff_of_true ⟨kept.ends, cleared⟩ always, fun _ => kept⟩
  cases i with
  | dtmfOn now =>
    by_cases ready : s.loaded = true ∧ s.emergency = false
    next =>
      have on := on_armed sound ready.2 now
      simpa [Ends, Expires, Supervised, step, ready] using on
    next =>
      have same : step s (.dtmfOn now) = s := by
        by_cases loaded : s.loaded = true
        next =>
          have active : s.emergency = true := by simpa [loaded] using ready
          simp [step, onEmergencyOn, active]
        next => simp [step, loaded]
      refine free (by rw [same]; exact sound) ?_ False.elim
      intro loaded off
      exact absurd ⟨loaded, off⟩ ready
  | dtmfOff =>
    refine free ?_ trivial False.elim
    simp only [step]
    split
    next => exact off_sound sound
    next => exact sound
  | toolCall state =>
    have set := set_armed sound (asksOn state)
    simpa [Ends, Expires, Supervised, step, toolSetEmergency] using set
  | sos alertType =>
    have set := set_armed sound (decide (0 ≤ alertType))
    simpa [Ends, Expires, Supervised, step, sos_step] using set
  | configured timeoutMs =>
    refine free ?_ trivial False.elim
    simp only [step]
    split
    next => exact { owns := sound.owns, armed := sound.armed, unloaded := sound.unloaded }
    next => exact sound
  | load timeoutMs =>
    refine free ?_ trivial False.elim
    simp only [step]
    split
    next => exact sound
    next unloaded =>
      have none_running := sound.unloaded (by simpa using unloaded)
      exact
        { owns := by simpa [none_running] using sound.owns
          armed := by simpa [none_running] using sound.armed
          unloaded := fun _ => rfl }
  | unload =>
    refine free ?_ trivial False.elim
    simp only [step]
    split
    next => exact unload_sound sound
    next => exact sound
  | timerSet ms repeats =>
    exact free (sound.of_timers (TimerTable.create_owns_other sound.owns (by decide) ms repeats))
      trivial False.elim
  | timerCancelled timerId =>
    refine free (sound.of_timers (TimerTable.drop_owns sound.owns ?_)) trivial False.elim
    intro e mine
    simp [mine]
  | elapse us => exact free (sound.of_timers sound.owns) trivial False.elim
  | tick => exact free (sound.of_timers sound.owns) trivial False.elim
  | visit i =>
    have after := visit_sound sound i
    exact free after.1 trivial after.2

/-- Emergency mode ends along a run if and only if nobody changes the flag behind the module's back
and each *911 gets its timer. -/
theorem ends_iff_supervised (timeoutMs : Int) (inputs : List Input) :
    Machine.Guarded step Ends (init timeoutMs) inputs ↔
      Machine.Guarded step Supervised (init timeoutMs) inputs :=
  Machine.guarded_iff_of_invariant step (P := Sound) (fun _ i sound => (step_ends sound i).1)
    (fun _ i sound => (step_ends sound i).2) (init_sound timeoutMs)

/-- The assistant's tool sets the flag and no timer. -/
theorem tool_sets_no_timer :
    ¬ Machine.Guarded step Ends (init defaultTimeoutMs) [.toolCall (some "on")] := by
  rintro ⟨ends, -⟩
  have same := (step_ends (init_sound defaultTimeoutMs) (.toolCall (some "on"))).1.mp ends
  simp only [Supervised] at same
  exact absurd same (by decide)

end Kerchunk.Emergency
