import Kerchunk.Lib.Machine
import Kerchunk.Otp.Lockout

set_option autoImplicit false

/-!
# Sessions and elevation

The module's slots are used again, the core's are not, also when the module is loaded again.
-/

namespace Kerchunk.Otp.Elevation

open Lockouts (Dialled Setting attempts attempts_dialled dial knownVerify loaded step_known)

def HasSession (s : State) (userId : Int) : Prop :=
  ∃ i, (s.sessions i).active = true ∧ (s.sessions i).userId = userId

def Agrees (s : State) : Prop :=
  -- A user has a session if and only if the core reports the user as elevated.
  ∀ userId, HasSession s userId ↔ coreGetOtpElevated s.elevated userId = true

/-! ## Loading the module again -/

def unloadSession (s : State) (i : SessionSlot) : State :=
  if (s.sessions i).active then
    { s with
      timers := s.timers.cancelIf (s.sessions i).timerId
      elevated := coreSetOtpElevated s.elevated (s.sessions i).userId false }
  else s

def otpUnload (s : State) : State :=
  (List.finRange maxOtpSessions).foldl unloadSession s

def otpLoad (s : State) (sessionTimeoutMs timeSkew : Int) : State :=
  -- `otp_load` and `otp_configure`; the core's table and the timers stay.
  { init sessionTimeoutMs timeSkew s.users with elevated := s.elevated, timers := s.timers }

inductive Event where
  | input (i : Input)
  | reload (sessionTimeoutMs timeSkew : Int)

section Step

variable (verify : Verify)

def step (s : State) : Event → State
  | .input i => Otp.step verify s i
  | .reload sessionTimeoutMs timeSkew => otpLoad (otpUnload s) sessionTimeoutMs timeSkew

def Recorded (s : State) : Event → Prop
  -- An attempt that starts a session finds the user, or a free slot, in the core's table.
  | .input (.command c) =>
    ∀ counter, outcome verify s c = .accepted counter →
      findSession s s.currentCallerId ≠ none ∨ freeSession s ≠ none →
      s.elevated.Accepts s.currentCallerId
  | _ => True

end Step

structure Sound (s : State) : Prop where
  positive : ∀ i, (s.sessions i).active = true → 0 < (s.sessions i).userId
  distinct : ∀ i j, (s.sessions i).active = true → (s.sessions j).active = true →
    (s.sessions i).userId = (s.sessions j).userId → i = j
  agrees : Agrees s

variable {s : State}

theorem init_sound (sessionTimeoutMs timeSkew : Int) (users : Int → Option String) :
    Sound (init sessionTimeoutMs timeSkew users) where
  positive := by simp [init, noSession]
  distinct := by simp [init, noSession]
  agrees := by
    intro userId
    simp [HasSession, init, noSession, coreGetOtpElevated]

theorem Sound.of_same {v : State} (sound : Sound s) (sessions : v.sessions = s.sessions)
    (elevated : v.elevated = s.elevated) : Sound v where
  positive := by simpa only [sessions] using sound.positive
  distinct := by simpa only [sessions] using sound.distinct
  agrees := by simpa only [Agrees, HasSession, sessions, elevated] using sound.agrees

/-! ## The core's table -/

section Table

variable (t : DemandTable Int Bool maxOtpElevated)

theorem get_positive {userId : Int} (raised : coreGetOtpElevated t userId = true) :
    0 < userId := by
  unfold coreGetOtpElevated at raised
  split at raised
  next => cases raised
  next positive => omega

theorem get_of_positive {userId : Int} (positive : 0 < userId) :
    coreGetOtpElevated t userId = (t.find userId).getD false := by
  simp [coreGetOtpElevated, Int.not_le.mpr positive]

theorem get_lowered (userId other : Int) :
    coreGetOtpElevated (coreSetOtpElevated t userId false) other = true ↔
      other ≠ userId ∧ coreGetOtpElevated t other = true := by
  by_cases positive : 0 < userId
  next =>
    by_cases absent : t.find userId = none
    next =>
      have same : coreSetOtpElevated t userId false = t := by
        simp [coreSetOtpElevated, absent]
      rw [same]
      refine ⟨fun raised => ⟨?_, raised⟩, fun raised => raised.2⟩
      rintro rfl
      simp [get_of_positive t positive, absent] at raised
    next =>
      have stored : coreSetOtpElevated t userId false = t.store userId false fun _ => false := by
        simp [coreSetOtpElevated, absent, Int.not_le.mpr positive]
      rw [stored]
      by_cases same : other = userId
      next =>
        subst same
        simp [get_of_positive _ positive, DemandTable.find_store_same (Or.inl absent)]
      next => simp [coreGetOtpElevated, DemandTable.find_store_other same, same]
  next =>
    have unchanged : coreSetOtpElevated t userId false = t := by
      simp [coreSetOtpElevated, Int.not_lt.mp positive]
    rw [unchanged]
    refine ⟨fun raised => ⟨?_, raised⟩, fun raised => raised.2⟩
    rintro rfl
    exact positive (get_positive t raised)

theorem set_raised {userId : Int} (positive : 0 < userId) :
    coreSetOtpElevated t userId true = t.store userId false fun _ => true := by
  simp [coreSetOtpElevated, Int.not_le.mpr positive]

theorem get_raised {userId : Int} (positive : 0 < userId) (accepts : t.Accepts userId)
    (other : Int) :
    coreGetOtpElevated (coreSetOtpElevated t userId true) other = true ↔
      other = userId ∨ coreGetOtpElevated t other = true := by
  rw [set_raised t positive]
  by_cases same : other = userId
  next =>
    subst same
    simp [get_of_positive _ positive, DemandTable.find_store_same accepts]
  next => simp [coreGetOtpElevated, DemandTable.find_store_other same, same]

theorem get_refused {userId : Int} (positive : 0 < userId) (full : ¬ t.Accepts userId) :
    coreGetOtpElevated (coreSetOtpElevated t userId true) userId = false := by
  have absent : t.find userId = none := by
    by_contra listed
    exact full (Or.inl listed)
  rw [set_raised t positive, DemandTable.store_refused full, get_of_positive t positive, absent]
  rfl

end Table

/-! ## What each step keeps -/

theorem find_session {userId : Int} {i : SessionSlot} (found : findSession s userId = some i) :
    (s.sessions i).active = true ∧ (s.sessions i).userId = userId := by
  simpa [findSession] using List.find?_some found

theorem find_none {userId : Int} (none_found : findSession s userId = none) (j : SessionSlot)
    (active : (s.sessions j).active = true) : (s.sessions j).userId ≠ userId := by
  have absent := List.find?_eq_none.mp none_found j (List.mem_finRange j)
  simpa [active] using absent

theorem free_session {i : SessionSlot} (found : freeSession s = some i) :
    (s.sessions i).active = false := by
  simpa [freeSession] using List.find?_some found

section Begin

variable {userId : Int} {i : SessionSlot}

theorem begin_sessions (only : ∀ j, (s.sessions j).active = true →
      ((s.sessions j).userId = userId ↔ j = i)) (other : Int) :
    HasSession (beginSession s i userId) other ↔ other = userId ∨ HasSession s other := by
  -- A session begins in a slot that is free or holds the session of the same user.
  constructor
  next =>
    rintro ⟨j, active, owner⟩
    by_cases same : j = i
    next =>
      subst same
      left
      simpa [beginSession] using owner.symm
    next =>
      right
      exact ⟨j, by simpa [beginSession, same] using active,
        by simpa [beginSession, same] using owner⟩
  next =>
    rintro (rfl | ⟨j, active, owner⟩)
    next => exact ⟨i, by simp [beginSession], by simp [beginSession]⟩
    next =>
      by_cases same : j = i
      next =>
        have mine := (only j active).mpr same
        exact ⟨i, by simp [beginSession], by simp [beginSession, ← owner, mine]⟩
      next => exact ⟨j, by simpa [beginSession, same] using active,
          by simpa [beginSession, same] using owner⟩

theorem begin_sound (sound : Sound s) (positive : 0 < userId)
    (only : ∀ j, (s.sessions j).active = true → ((s.sessions j).userId = userId ↔ j = i))
    (accepts : s.elevated.Accepts userId) : Sound (beginSession s i userId) where
  positive := by
    intro j active
    by_cases same : j = i
    next => simpa [beginSession, same] using positive
    next =>
      have before := sound.positive j (by simpa [beginSession, same] using active)
      simpa [beginSession, same] using before
  distinct := by
    intro j k first second owners
    by_cases left_same : j = i <;> by_cases right_same : k = i
    next => rw [left_same, right_same]
    next =>
      simp only [beginSession, left_same, Function.update_self, Function.update_of_ne right_same]
        at second owners
      exact absurd ((only k second).mp owners.symm) right_same
    next =>
      simp only [beginSession, right_same, Function.update_self, Function.update_of_ne left_same]
        at first owners
      exact absurd ((only j first).mp owners) left_same
    next =>
      simp only [beginSession, Function.update_of_ne left_same,
        Function.update_of_ne right_same] at first second owners
      exact sound.distinct j k first second owners
  agrees := by
    intro other
    rw [begin_sessions only other, sound.agrees other]
    exact (get_raised s.elevated positive accepts other).symm

theorem begin_disagrees (positive : 0 < userId) (full : ¬ s.elevated.Accepts userId) :
    ¬ Agrees (beginSession s i userId) := by
  intro agrees
  have session : HasSession (beginSession s i userId) userId :=
    ⟨i, by simp [beginSession], by simp [beginSession]⟩
  have raised := (agrees userId).mp session
  have lowered := get_refused s.elevated positive full
  simp only [beginSession] at raised
  rw [lowered] at raised
  cases raised

end Begin

theorem own_slot (sound : Sound s) {userId : Int} {i : SessionSlot}
    (found : findSession s userId = some i) (j : SessionSlot)
    (active : (s.sessions j).active = true) : (s.sessions j).userId = userId ↔ j = i := by
  obtain ⟨mine, owner⟩ := find_session found
  constructor
  next =>
    intro same
    exact sound.distinct j i active mine (same.trans owner.symm)
  next =>
    rintro rfl
    exact owner

theorem new_slot {userId : Int} {i : SessionSlot} (none_found : findSession s userId = none)
    (free : freeSession s = some i) (j : SessionSlot) (active : (s.sessions j).active = true) :
    (s.sessions j).userId = userId ↔ j = i := by
  have other := find_none none_found j active
  have idle := free_session free
  constructor
  next => exact fun same => absurd same other
  next =>
    rintro rfl
    rw [idle] at active
    cases active

theorem start_agrees (sound : Sound s) {userId : Int} (positive : 0 < userId) :
    Agrees (sessionStart s userId) ↔
      (findSession s userId ≠ none ∨ freeSession s ≠ none → s.elevated.Accepts userId) := by
  -- Starting a session keeps the two tables in step if and only if the core has a slot for it.
  unfold sessionStart
  split
  next i found =>
    have cleared : Sound { s with timers := s.timers.cancelIf (s.sessions i).timerId } :=
      sound.of_same rfl rfl
    constructor
    next =>
      intro agrees _
      by_contra full
      exact begin_disagrees (s := { s with timers := s.timers.cancelIf (s.sessions i).timerId })
        positive full agrees
    next =>
      intro accepts
      exact (begin_sound cleared positive (own_slot sound found)
        (accepts (Or.inl (by simp [found])))).agrees
  next none_found =>
    split
    next i free =>
      constructor
      next =>
        intro agrees _
        by_contra full
        exact begin_disagrees positive full agrees
      next =>
        intro accepts
        exact (begin_sound sound positive (new_slot none_found free)
          (accepts (Or.inr (by simp [free])))).agrees
    next none_free => simp [none_found, none_free, sound.agrees]

theorem start_sound (sound : Sound s) {userId : Int} (positive : 0 < userId)
    (accepts : findSession s userId ≠ none ∨ freeSession s ≠ none →
      s.elevated.Accepts userId) : Sound (sessionStart s userId) := by
  unfold sessionStart
  split
  next i found =>
    exact begin_sound (sound.of_same rfl rfl) positive (own_slot sound found)
      (accepts (Or.inl (by simp [found])))
  next none_found =>
    split
    next i free =>
      exact begin_sound sound positive (new_slot none_found free)
        (accepts (Or.inr (by simp [free])))
    next => exact sound

theorem expire_sound (sound : Sound s) (i : SessionSlot) : Sound (sessionExpireCb s i) := by
  unfold sessionExpireCb
  split
  next active =>
    have ended : ∀ j, (Function.update s.sessions i
        { s.sessions i with active := false, timerId := none } j).active = true →
        j ≠ i ∧ (s.sessions j).active = true := by
      intro j still
      by_cases same : j = i
      next => simp [same] at still
      next => exact ⟨same, by simpa [same] using still⟩
    constructor
    next =>
      intro j still
      obtain ⟨other, before⟩ := ended j still
      simpa [other] using sound.positive j before
    next =>
      intro j k first second owners
      obtain ⟨left_other, left_before⟩ := ended j first
      obtain ⟨right_other, right_before⟩ := ended k second
      simp only [Function.update_of_ne left_other, Function.update_of_ne right_other] at owners
      exact sound.distinct j k left_before right_before owners
    next =>
      intro userId
      rw [get_lowered, ← sound.agrees userId]
      constructor
      next =>
        rintro ⟨j, still, owner⟩
        obtain ⟨other, before⟩ := ended j still
        simp only [Function.update_of_ne other] at owner
        refine ⟨?_, j, before, owner⟩
        intro same
        exact other (sound.distinct j i before active (owner.trans same))
      next =>
        rintro ⟨different, j, before, owner⟩
        have other : j ≠ i := by
          rintro rfl
          exact different owner.symm
        exact ⟨j, by simpa [other] using before, by simpa [other] using owner⟩
  next => exact sound

theorem unload_sessions (slots : List SessionSlot) :
    (slots.foldl unloadSession s).sessions = s.sessions := by
  induction slots generalizing s with
  | nil => rfl
  | cons i rest ih =>
    rw [List.foldl_cons, ih]
    unfold unloadSession
    split <;> rfl

theorem unload_elevated (slots : List SessionSlot) (userId : Int) :
    coreGetOtpElevated (slots.foldl unloadSession s).elevated userId = true ↔
      coreGetOtpElevated s.elevated userId = true ∧
        ∀ i ∈ slots, (s.sessions i).active = true → (s.sessions i).userId ≠ userId := by
  induction slots generalizing s with
  | nil => simp
  | cons i rest ih =>
    have same : (unloadSession s i).sessions = s.sessions := unload_sessions [i]
    rw [List.foldl_cons, ih, same, List.forall_mem_cons]
    unfold unloadSession
    split
    next active =>
      rw [get_lowered]
      constructor
      next =>
        rintro ⟨⟨other, before⟩, others⟩
        exact ⟨before, fun _ => other.symm, others⟩
      next =>
        rintro ⟨before, other, others⟩
        exact ⟨⟨(other active).symm, before⟩, others⟩
    next idle => simp [idle]

theorem reload_sound (sound : Sound s) (sessionTimeoutMs timeSkew : Int) :
    Sound (otpLoad (otpUnload s) sessionTimeoutMs timeSkew) where
  positive := by simp [otpLoad, init, noSession]
  distinct := by simp [otpLoad, init, noSession]
  agrees := by
    intro userId
    have nobody : coreGetOtpElevated (otpUnload s).elevated userId ≠ true := by
      intro raised
      obtain ⟨before, others⟩ := (unload_elevated _ userId).mp raised
      obtain ⟨i, active, owner⟩ := (sound.agrees userId).mpr before
      exact others i (List.mem_finRange i) active owner
    simpa [HasSession, otpLoad, init, noSession] using nobody

theorem visit_sound (sound : Sound s) (i : Core.Slot) : Sound (visit s i) := by
  unfold visit
  split
  next slot _ =>
    have passed : Sound { s with timers := s.timers.visit i } := sound.of_same rfl rfl
    exact expire_sound passed slot
  next => exact sound.of_same rfl rfl

variable {verify : Verify}

theorem accepted_positive {c : Command} {counter : Nat}
    (accepted : outcome verify s c = .accepted counter) : 0 < s.currentCallerId := by
  unfold outcome credentials at accepted
  grind

theorem command_sound (sound : Sound s) (c : Command) :
    (Agrees (onOtpCommand verify s c) ↔ Recorded verify s (.input (.command c))) ∧
      (Recorded verify s (.input (.command c)) → Sound (onOtpCommand verify s c)) := by
  cases answer : outcome verify s c with
  | accepted counter =>
    have ready : Sound
        { resetLockout s s.currentCallerId c.checkedAt with
          lastCounter := s.lastCounter.store s.currentCallerId 0 fun _ => counter
          lockout := (resetLockout s s.currentCallerId c.checkedAt).lockout.modify
            s.currentCallerId fun l => { l with failures := 0 } } := sound.of_same rfl rfl
    have positive := accepted_positive answer
    have agrees := start_agrees ready positive
    have keeps := start_sound ready positive
    simp only [onOtpCommand, answer, Recorded, accept]
    constructor
    next => exact agrees.trans ⟨fun ok _ _ => ok, fun ok => ok counter rfl⟩
    next => exact fun ok => keeps (ok counter rfl)
  | _ =>
    have same : Sound (onOtpCommand verify s c) := by
      simp only [onOtpCommand, answer]
      exact sound.of_same rfl rfl
    simp [Recorded, answer, same, same.agrees]

theorem step_sound (sound : Sound s) (e : Event) :
    (Agrees (step verify s e) ↔ Recorded verify s e) ∧
      (Recorded verify s e → Sound (step verify s e)) := by
  have free (kept : Sound (step verify s e)) (always : Recorded verify s e) :
      (Agrees (step verify s e) ↔ Recorded verify s e) ∧
        (Recorded verify s e → Sound (step verify s e)) :=
    ⟨iff_of_true kept.agrees always, fun _ => kept⟩
  cases e with
  | reload sessionTimeoutMs timeSkew =>
    exact free (reload_sound sound sessionTimeoutMs timeSkew) trivial
  | input i =>
    cases i with
    | command c => exact command_sound sound c
    | visit i => exact free (visit_sound sound i) trivial
    | _ => exact free (sound.of_same rfl rfl) trivial

/-- The two tables agree after each step of a run if and only if each session that starts finds a
slot in the core's table. -/
theorem agrees_iff_recorded (sessionTimeoutMs timeSkew : Int) (users : Int → Option String)
    (events : List Event) :
    Machine.Guarded (step totpVerify) (fun s e => Agrees (step totpVerify s e))
        (init sessionTimeoutMs timeSkew users) events ↔
      Machine.Guarded (step totpVerify) (Recorded totpVerify)
        (init sessionTimeoutMs timeSkew users) events :=
  Machine.guarded_iff_of_invariant (step totpVerify) (P := Sound)
    (fun _ e sound => (step_sound sound e).1) (fun _ e sound => (step_sound sound e).2)
    (init_sound sessionTimeoutMs timeSkew users)

/-! ## Sixty-five users -/

theorem run_known {inputs : List Input} (dialled : ∀ i ∈ inputs, Dialled i)
    (setting : Setting s) :
    Machine.run (step totpVerify) s (inputs.map .input) =
        Machine.run (Otp.step knownVerify) s inputs ∧
      Setting (Machine.run (Otp.step knownVerify) s inputs) := by
  induction inputs generalizing s with
  | nil => exact ⟨rfl, setting⟩
  | cons i rest ih =>
    have known := step_known setting (dialled i (List.mem_cons_self ..))
    change Machine.run (step totpVerify) (Otp.step totpVerify s i) (rest.map .input) = _ ∧ _
    rw [known.1]
    exact ih (fun j member => dialled j (List.mem_cons_of_mem _ member)) known.2

theorem last_agrees {inputs : List Input} {last : Input} (dialled : ∀ i ∈ inputs, Dialled i)
    (last_dialled : Dialled last)
    (guarded : Machine.Guarded (step totpVerify) (fun s e => Agrees (step totpVerify s e)) loaded
      (inputs.map .input ++ [.input last])) :
    Agrees (Otp.step knownVerify (Machine.run (Otp.step knownVerify) loaded inputs) last) := by
  have run := run_known dialled (s := loaded) ⟨rfl, rfl⟩
  have agrees := ((Machine.guarded_append ..).mp guarded).2.1
  rw [run.1] at agrees
  rw [← (step_known run.2 last_dialled).1]
  exact agrees

def crowd : List Input :=
  -- Sixty-four users are elevated, the first session expires, and one more user dials.
  attempts ((List.range 64).map (· + 1)) true ++
    [.elapse 1000000, .tick, .visit Core.firstSlot, .callerIdentified 65]

theorem crowd_dialled : ∀ i ∈ crowd, Dialled i := by
  intro i member
  rcases List.mem_append.mp member with attempt | other
  next => exact attempts_dialled _ true i attempt
  next =>
    simp only [List.mem_cons, List.not_mem_nil, or_false] at other
    rcases other with rfl | rfl | rfl | rfl <;> trivial

def crowded : State :=
  Otp.step knownVerify (Machine.run (Otp.step knownVerify) loaded crowd) (.command (dial true 1))

theorem crowded_session :
    ((crowded.sessions ⟨0, by decide⟩).active = true ∧
      (crowded.sessions ⟨0, by decide⟩).userId = 65) ∧
      coreGetOtpElevated crowded.elevated 65 = false := by
  decide +kernel

theorem session_without_elevation :
    ¬ Machine.Guarded (step totpVerify) (fun s e => Agrees (step totpVerify s e)) loaded
      (crowd.map .input ++ [.input (.command (dial true 1))]) := by
  intro guarded
  have agrees : Agrees crowded := last_agrees crowd_dialled ⟨true, 1, by omega, rfl⟩ guarded
  have elevated := (agrees 65).mp ⟨_, crowded_session.1⟩
  rw [crowded_session.2] at elevated
  cases elevated

end Kerchunk.Otp.Elevation
