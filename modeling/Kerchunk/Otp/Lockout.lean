import Kerchunk.Lib.Machine
import Kerchunk.Otp.Model

set_option autoImplicit false

/-!
# Lockout and replay

`History` is what an observer of one user writes down: it forgets nothing when a table is full.
-/

namespace Kerchunk.Otp.Lockouts

/-- `failures` are the times of the wrong codes since the last accepted one, the newest first, and
`unbroken` is how many of these came since the user last stayed away for a lockout period. -/
structure History where
  failures : List Int
  unbroken : Nat
  accepted : List Nat

namespace History

def empty : History where
  failures := []
  unbroken := 0
  accepted := []

def Paused (h : History) (now : Int) : Prop :=
  -- A lockout period has gone by since the last failure.
  ∀ last ∈ h.failures.head?, otpLockoutS ≤ now - last

instance (h : History) (now : Int) : Decidable (h.Paused now) :=
  inferInstanceAs (Decidable (∀ last ∈ h.failures.head?, _))

def resumed (h : History) (now : Int) : Nat :=
  if h.Paused now then 0 else h.unbroken

def note (h : History) (c : Command) : Outcome → History
  | .accepted counter => { failures := [], unbroken := 0, accepted := counter :: h.accepted }
  | .failed =>
    { h with failures := c.failedAt :: h.failures, unbroken := h.resumed c.checkedAt + 1 }
  | .replayed => { h with unbroken := h.resumed c.checkedAt }
  | _ => h

def MustLock (h : History) (now : Int) : Prop :=
  -- As many failures in a row as lock out, the last of them within the lockout period.
  otpMaxFailures ≤ h.failures.length ∧ ¬ h.Paused now

instance (h : History) (now : Int) : Decidable (h.MustLock now) :=
  inferInstanceAs (Decidable (_ ∧ _))

end History

structure Watched where
  otp : State
  history : History

section User

variable (verify : Verify) (userId : Int)

def step (w : Watched) (i : Input) : Watched where
  otp := Otp.step verify w.otp i
  history :=
    match i with
    | .command c =>
      if w.otp.currentCallerId = userId then w.history.note c (outcome verify w.otp c)
      else w.history
    | _ => w.history

def start (s : State) : Watched where
  otp := s
  history := History.empty

def commandOf (w : Watched) : Input → Option Command
  | .command c => if w.otp.currentCallerId = userId then some c else none
  | _ => none

/-- An attempt of the user is accepted neither in the lockout period after too many failures nor
with a counter that was accepted before. -/
def Protected (w : Watched) (i : Input) : Prop :=
  ∀ c ∈ commandOf userId w i, ∀ counter, outcome verify w.otp c = .accepted counter →
    ¬ w.history.MustLock c.checkedAt ∧ counter ∉ w.history.accepted

/-- The table that the attempt needs lists the user or has a free slot, and where the user must be
locked out the failures that do it came without a pause. -/
def Remembered (w : Watched) (i : Input) : Prop :=
  ∀ c ∈ commandOf userId w i, ∀ secret code, credentials w.otp c = .ok (secret, code) →
    (match verify secret code c.verifiedAt w.otp.timeSkew with
      | none => w.otp.lockout.Accepts userId
      | some _ => w.otp.lastCounter.Accepts userId) ∧
    (w.history.MustLock c.checkedAt → otpMaxFailures ≤ w.history.unbroken)

end User

/-- The tables say of the user what the history does. -/
structure Linked (userId : Int) (w : Watched) : Prop where
  unlisted : w.otp.lockout.find userId = none → w.history.failures = []
  count : ∀ l ∈ w.otp.lockout.find userId, l.failures = w.history.unbroken
  none_left : w.history.failures = [] → w.history.unbroken = 0
  latest : ∀ l ∈ w.otp.lockout.find userId, ∀ last ∈ w.history.failures.head?, l.lastFailure = last
  counters : ∀ n ∈ w.history.accepted, ∃ last, w.otp.lastCounter.find userId = some last ∧ n ≤ last

variable {verify : Verify} {userId : Int} {w : Watched}

theorem start_linked (sessionTimeoutMs timeSkew : Int) (users : Int → Option String) :
    Linked userId (start (init sessionTimeoutMs timeSkew users)) where
  unlisted _ := rfl
  count := by simp [start, init]
  none_left _ := rfl
  latest := by simp [start, init]
  counters := by simp [start, History.empty]

theorem Linked.of_same {v : Watched} (linked : Linked userId w)
    (lockout : v.otp.lockout.find userId = w.otp.lockout.find userId)
    (counters : v.otp.lastCounter.find userId = w.otp.lastCounter.find userId)
    (history : v.history = w.history) : Linked userId v where
  unlisted := by simpa only [lockout, history] using linked.unlisted
  count := by simpa only [lockout, history] using linked.count
  none_left := by simpa only [history] using linked.none_left
  latest := by simpa only [lockout, history] using linked.latest
  counters := by simpa only [counters, history] using linked.counters

theorem outcome_failed {s : State} {c : Command} (failed : outcome verify s c = .failed) :
    ∃ secret code, credentials s c = .ok (secret, code) ∧
      lockedOut s s.currentCallerId c.checkedAt = false ∧
      verify secret code c.verifiedAt s.timeSkew = none := by
  unfold outcome at failed
  split at failed
  next answer found =>
    unfold credentials at found
    grind
  next secret code found => exact ⟨secret, code, found, by grind⟩

theorem outcome_accepted {s : State} {c : Command} {counter : Nat}
    (accepted : outcome verify s c = .accepted counter) :
    ∃ secret code, credentials s c = .ok (secret, code) ∧
      lockedOut s s.currentCallerId c.checkedAt = false ∧
      verify secret code c.verifiedAt s.timeSkew = some counter ∧
      isReplay s s.currentCallerId counter = false := by
  unfold outcome at accepted
  split at accepted
  next answer found =>
    unfold credentials at found
    grind
  next secret code found => exact ⟨secret, code, found, by grind⟩

theorem Linked.resumed (linked : Linked userId w) {l : Lockout}
    (found : w.otp.lockout.find userId = some l) (now : Int) :
    (if otpLockoutS ≤ now - l.lastFailure then 0 else l.failures) = w.history.resumed now := by
  -- The module's reset and the observer's agree.
  have count := linked.count l found
  unfold History.resumed
  cases failures : w.history.failures with
  | nil => simp [History.Paused, failures, count, linked.none_left failures]
  | cons last older =>
    have latest : l.lastFailure = last := linked.latest l found last (by simp [failures])
    simp [History.Paused, failures, latest, count]

theorem command_other {s : State} (c : Command) (other : userId ≠ s.currentCallerId) :
    (onOtpCommand verify s c).lockout.find userId = s.lockout.find userId ∧
      (onOtpCommand verify s c).lastCounter.find userId = s.lastCounter.find userId := by
  cases answer : outcome verify s c <;>
    simp [onOtpCommand, answer, accept, recordFailure, resetLockout, other,
      DemandTable.find_modify, DemandTable.find_store_other]

theorem visit_tables (s : State) (i : Core.Slot) :
    (visit s i).lockout = s.lockout ∧ (visit s i).lastCounter = s.lastCounter := by
  grind [visit, sessionExpireCb]

theorem step_other {i : Input} (linked : Linked userId w) (other : commandOf userId w i = none) :
    Linked userId (step verify userId w i) := by
  -- Nothing but the user's own attempts touches what the tables say of the user.
  cases i with
  | command c =>
    have caller : w.otp.currentCallerId ≠ userId := by
      intro same
      simp [commandOf, same] at other
    obtain ⟨locked, counters⟩ : _ ∧ _ := command_other c caller.symm
    exact linked.of_same locked counters (by simp [step, caller])
  | visit slot =>
    have same := visit_tables w.otp slot
    exact linked.of_same (congrArg (·.find userId) same.1) (congrArg (·.find userId) same.2) rfl
  | _ => exact linked.of_same rfl rfl rfl

theorem Linked.reset (linked : Linked userId w) (now : Int) :
    Linked userId
      { otp := resetLockout w.otp userId now
        history := { w.history with unbroken := w.history.resumed now } } where
  unlisted := by simpa [resetLockout, DemandTable.find_modify] using linked.unlisted
  count := by
    intro l found
    simp only [resetLockout, DemandTable.find_modify, if_true, Option.mem_def,
      Option.map_eq_some_iff] at found
    obtain ⟨before, listed, rfl⟩ := found
    rw [← linked.resumed listed now]
    split <;> rfl
  none_left := by
    intro failures
    simp [History.resumed, linked.none_left failures]
  latest := by
    intro l found
    simp only [resetLockout, DemandTable.find_modify, if_true, Option.mem_def,
      Option.map_eq_some_iff] at found
    obtain ⟨before, listed, rfl⟩ := found
    have latest := linked.latest before listed
    split <;> simpa using latest
  counters := linked.counters

theorem Linked.failed (linked : Linked userId w) (accepts : w.otp.lockout.Accepts userId)
    (at_ : Int) :
    Linked userId
      { otp := recordFailure w.otp userId at_
        history :=
          { w.history with
            failures := at_ :: w.history.failures
            unbroken := w.history.unbroken + 1 } } := by
  have stored := DemandTable.find_store_same accepts { failures := 0, lastFailure := 0 }
    fun l : Lockout => { failures := l.failures + 1, lastFailure := at_ }
  refine ⟨?_, ?_, ?_, ?_, linked.counters⟩
  next => simp [recordFailure, stored]
  next =>
    cases listed : w.otp.lockout.find userId with
    | none =>
      have fresh := linked.none_left (linked.unlisted listed)
      simp [recordFailure, stored, listed, fresh]
    | some l =>
      have count := linked.count l listed
      simp [recordFailure, stored, listed, count]
  next => simp
  next => simp [recordFailure, stored]

theorem Linked.accepted (linked : Linked userId w) (accepts : w.otp.lastCounter.Accepts userId)
    {counter : Nat} (fresh : isReplay w.otp userId counter = false) :
    Linked userId
      { otp := accept w.otp userId counter
        history := { failures := [], unbroken := 0, accepted := counter :: w.history.accepted } } := by
  have stored := DemandTable.find_store_same accepts 0 fun _ => counter
  refine ⟨fun _ => rfl, ?_, fun _ => rfl, by simp, ?_⟩
  next => simp [accept, DemandTable.find_modify]
  next =>
    intro n member
    refine ⟨counter, by simp [accept, stored], ?_⟩
    rcases List.mem_cons.mp member with rfl | earlier
    next => exact Nat.le_refl n
    next =>
      obtain ⟨last, listed, below⟩ := linked.counters n earlier
      simp only [isReplay, listed, decide_eq_false_iff_not, Nat.not_le] at fresh
      omega

theorem attempt_linked {c : Command} (linked : Linked userId w)
    (caller : w.otp.currentCallerId = userId)
    (remembered : Remembered verify userId w (.command c)) :
    Linked userId (step verify userId w (.command c)) := by
  -- An attempt of the user keeps the link, whatever comes of it.
  subst caller
  have reset := linked.reset c.checkedAt
  have mine : c ∈ commandOf w.otp.currentCallerId w (.command c) := by simp [commandOf]
  cases answer : outcome verify w.otp c with
  | replayed => simpa [step, Otp.step, onOtpCommand, History.note, answer] using reset
  | failed =>
    obtain ⟨secret, code, presented, -, wrong⟩ := outcome_failed answer
    have accepts : w.otp.lockout.Accepts w.otp.currentCallerId := by
      simpa [wrong] using (remembered c mine secret code presented).1
    have after := reset.failed (by simpa [resetLockout] using accepts) c.failedAt
    simpa [step, Otp.step, onOtpCommand, History.note, answer] using after
  | accepted counter =>
    obtain ⟨secret, code, presented, -, right, fresh⟩ := outcome_accepted answer
    have accepts : w.otp.lastCounter.Accepts w.otp.currentCallerId := by
      simpa [right] using (remembered c mine secret code presented).1
    have after := reset.accepted accepts fresh
    simpa [step, Otp.step, onOtpCommand, History.note, answer] using after
  | _ =>
    refine linked.of_same ?_ ?_ ?_
    next => simp [step, Otp.step, onOtpCommand, answer]
    next => simp [step, Otp.step, onOtpCommand, answer]
    next => simp [step, History.note, answer]

theorem remembered_keeps {i : Input} (linked : Linked userId w)
    (remembered : Remembered verify userId w i) : Linked userId (step verify userId w i) := by
  cases own : commandOf userId w i with
  | none => exact step_other linked own
  | some c =>
    cases i with
    | command d =>
      have caller : w.otp.currentCallerId = userId := by
        by_contra other
        simp [commandOf, other] at own
      exact attempt_linked linked caller remembered
    | _ => simp [commandOf] at own

theorem remembered_protected {i : Input} (linked : Linked userId w)
    (remembered : Remembered verify userId w i) : Protected verify userId w i := by
  intro c own counter answer
  obtain ⟨secret, code, presented, unlocked, right, fresh⟩ := outcome_accepted answer
  have caller : w.otp.currentCallerId = userId := by
    cases i with
    | command d =>
      by_contra other
      simp [commandOf, other] at own
    | _ => simp [commandOf] at own
  rw [caller] at unlocked fresh
  constructor
  next =>
    intro must
    have enough := (remembered c own secret code presented).2 must
    cases listed : w.otp.lockout.find userId with
    | none => simp [History.MustLock, otpMaxFailures, linked.unlisted listed] at must
    | some l =>
      have count := linked.count l listed
      have kept := linked.resumed listed c.checkedAt
      simp only [History.resumed, must.2, if_false] at kept
      simp only [lockedOut, listed, decide_eq_false_iff_not, not_and, Int.not_lt] at unlocked
      have old := unlocked (by omega)
      rw [if_pos old] at kept
      simp only [otpMaxFailures] at enough
      omega
  next =>
    intro again
    obtain ⟨last, listed, below⟩ := linked.counters counter again
    simp only [isReplay, listed, decide_eq_false_iff_not] at fresh
    exact fresh below

/-- Along every run in which the tables take what the user's attempts need, whatever other users
do. -/
theorem remembered_user_protected (user : Int) (sessionTimeoutMs timeSkew : Int)
    (users : Int → Option String) (inputs : List Input)
    (remembered : Machine.Guarded (step totpVerify user) (Remembered totpVerify user)
      (start (init sessionTimeoutMs timeSkew users)) inputs) :
    Machine.Guarded (step totpVerify user) (Protected totpVerify user)
      (start (init sessionTimeoutMs timeSkew users)) inputs :=
  Machine.guarded_of_invariant (step totpVerify user) (P := Linked user)
    (fun _ _ linked ok => ⟨remembered_keeps linked ok, remembered_protected linked ok⟩)
    (start_linked sessionTimeoutMs timeSkew users) remembered

/-! ## Thirty-two other users come first -/

/-- One secret for all, and the beginning of a time step. -/
def secret : String := "GEZDGNBVGY3TQOJQGEZDGNBVGY3TQOJQ"

def moment : Int := 1111111080

def digits (right : Bool) : List Char :=
  (if right then "081804" else "000000").toList

def dial (right : Bool) (seconds : Nat) : Command where
  data := some (digits right)
  checkedAt := moment + seconds
  verifiedAt := moment + seconds
  failedAt := moment + seconds

def loaded : State := init 1000 0 fun _ => some secret

/-- `totpVerify` for what is dialled here, without the hashing. -/
def knownVerify : Verify := fun _ code _ _ =>
  if code = digits true then some 37037036 else none

theorem current_code :
    totpGenerate (base32Decode secret 64) (BitVec.ofNat 64 37037036) 6 = 81804 := by
  decide +kernel

theorem known_answers (right : Bool) {seconds : Nat} (soon : seconds < 30) :
    totpVerify secret (digits right) (moment + seconds) 0 =
      knownVerify secret (digits right) (moment + seconds) 0 := by
  have counter : counterAt (moment + seconds) (0 - 0) = 37037036 := by
    simp only [counterAt, moment]
    omega
  have decoded : base32Decode secret 64 ≠ [] := by decide
  have verdict : totpVerify secret (digits right) (moment + seconds) 0 =
      if atoi (digits right) = 81804 then some 37037036 else none := by
    simp only [totpVerify, decoded, if_false]
    change List.find? _ [counterAt (moment + seconds) (0 - 0)] = _
    rw [counter, List.find?_singleton, current_code]
    simp
  rw [verdict]
  cases right <;> rfl

structure Setting (s : State) : Prop where
  users : s.users = fun _ => some secret
  timeSkew : s.timeSkew = 0

def Dialled : Input → Prop
  -- What the runs below consist of.
  | .command c => ∃ right, ∃ seconds < 30, c = dial right seconds
  | .configured _ _ => False
  | .usersChanged _ => False
  | _ => True

theorem outcome_known {s : State} (setting : Setting s) (right : Bool) {seconds : Nat}
    (soon : seconds < 30) :
    outcome totpVerify s (dial right seconds) = outcome knownVerify s (dial right seconds) := by
  have code : codeOf (dial right seconds).data = some (digits right) := by
    cases right <;> rfl
  have known : secret ≠ "" := by decide
  have answers : totpVerify secret (digits right) (dial right seconds).verifiedAt s.timeSkew =
      knownVerify secret (digits right) (dial right seconds).verifiedAt s.timeSkew := by
    rw [setting.timeSkew]
    exact known_answers right soon
  by_cases nobody : s.currentCallerId ≤ 0
  next => simp [outcome, credentials, nobody]
  next => simp only [outcome, credentials, nobody, setting.users, known, code, if_false, answers]

theorem command_setting {s : State} (setting : Setting s) (c : Command) :
    Setting (onOtpCommand knownVerify s c) := by
  obtain ⟨users, timeSkew⟩ := setting
  cases answer : outcome knownVerify s c <;>
    exact ⟨by simp [onOtpCommand, answer, accept, recordFailure, resetLockout, users],
      by simp [onOtpCommand, answer, accept, recordFailure, resetLockout, timeSkew]⟩

theorem visit_setting {s : State} (setting : Setting s) (i : Core.Slot) : Setting (visit s i) := by
  obtain ⟨users, timeSkew⟩ := setting
  constructor <;> grind [visit, sessionExpireCb]

theorem step_known {s : State} {i : Input} (setting : Setting s) (dialled : Dialled i) :
    Otp.step totpVerify s i = Otp.step knownVerify s i ∧ Setting (Otp.step knownVerify s i) := by
  cases i with
  | command c =>
    obtain ⟨right, seconds, soon, rfl⟩ := dialled
    refine ⟨?_, command_setting setting _⟩
    simp only [Otp.step, onOtpCommand, outcome_known setting right soon]
  | configured => exact dialled.elim
  | usersChanged => exact dialled.elim
  | visit i => exact ⟨rfl, visit_setting setting i⟩
  | _ => exact ⟨rfl, setting.users, setting.timeSkew⟩

theorem watched_known {userId : Int} {w : Watched} {i : Input} (setting : Setting w.otp)
    (dialled : Dialled i) : step totpVerify userId w i = step knownVerify userId w i := by
  have otp := (step_known setting dialled).1
  cases i with
  | command c =>
    obtain ⟨right, seconds, soon, rfl⟩ := dialled
    simp only [step, otp, outcome_known setting right soon]
  | _ => simp only [step, otp]

theorem run_known {userId : Int} {inputs : List Input} (dialled : ∀ i ∈ inputs, Dialled i)
    {w : Watched} (setting : Setting w.otp) :
    Machine.run (step totpVerify userId) w inputs =
        Machine.run (step knownVerify userId) w inputs ∧
      Setting (Machine.run (step knownVerify userId) w inputs).otp := by
  -- The runs below go the same way whichever of the two checks the codes.
  induction inputs generalizing w with
  | nil => exact ⟨rfl, setting⟩
  | cons i rest ih =>
    have first := dialled i (List.mem_cons_self ..)
    have kept : Setting (step knownVerify userId w i).otp := (step_known setting first).2
    rw [Machine.run_cons, Machine.run_cons, watched_known setting first]
    exact ih (fun j member => dialled j (List.mem_cons_of_mem _ member)) kept

def attempts (users : List Nat) (right : Bool) : List Input :=
  -- One attempt of each of `users`.
  users.flatMap fun user => [.callerIdentified user, .command (dial right 0)]

theorem attempts_dialled (users : List Nat) (right : Bool) :
    ∀ i ∈ attempts users right, Dialled i := by
  intro i member
  obtain ⟨user, -, found⟩ := List.mem_flatMap.mp member
  rcases List.mem_cons.mp found with rfl | command
  next => trivial
  next =>
    rw [List.mem_singleton.mp command]
    exact ⟨right, 0, by omega, rfl⟩

theorem first_user_protected :
    Machine.Guarded (step totpVerify 33) (Protected totpVerify 33) (start loaded)
      (attempts [33] true) := by
  refine remembered_user_protected 33 1000 0 (fun _ => some secret) _ ⟨?_, ?_, trivial⟩
  next => intro c own; cases own
  next =>
    intro c own secret code presented
    refine ⟨?_, fun must => absurd must.1 (by decide)⟩
    split
    next => exact Or.inr (by decide)
    next => exact Or.inr (by decide)

theorem last_protected {w : Watched} (setting : Setting w.otp)
    (guarded : Machine.Guarded (step totpVerify 33) (Protected totpVerify 33) w
      (attempts [33] true))
    (answer : outcome knownVerify { w.otp with currentCallerId := 33 } (dial true 0) =
      .accepted 37037036) :
    ¬ w.history.MustLock moment ∧ 37037036 ∉ w.history.accepted := by
  have same : Setting { w.otp with currentCallerId := 33 } := ⟨setting.users, setting.timeSkew⟩
  have known := outcome_known same true (Nat.zero_lt_succ 29)
  exact guarded.2.1 (dial true 0) rfl 37037036 (known.trans answer)

theorem breach_protected {users : List Nat} {right : Bool}
    (guarded : Machine.Guarded (step totpVerify 33) (Protected totpVerify 33) (start loaded)
      (attempts users right ++ attempts [33] true))
    (answer : outcome knownVerify
      { (Machine.run (step knownVerify 33) (start loaded) (attempts users right)).otp with
        currentCallerId := 33 } (dial true 0) = .accepted 37037036) :
    let w := Machine.run (step knownVerify 33) (start loaded) (attempts users right)
    ¬ w.history.MustLock moment ∧ 37037036 ∉ w.history.accepted := by
  have setting : Setting (start loaded).otp := ⟨rfl, rfl⟩
  obtain ⟨runs, kept⟩ := @run_known 33 _ (attempts_dialled users right) _ setting
  have final := ((Machine.guarded_append ..).mp guarded).2
  rw [runs] at final
  exact last_protected kept final answer

def others : List Nat :=
  (List.range 32).map (· + 1)

/-- Nobody but user 33 is watched. Five wrong codes do not lock him out, and his one right code is
accepted twice. -/
theorem full_tables_forget :
    ¬ Machine.Guarded (step totpVerify 33) (Protected totpVerify 33) (start loaded)
        (attempts (others ++ [33, 33, 33, 33, 33]) false ++ attempts [33] true) ∧
      ¬ Machine.Guarded (step totpVerify 33) (Protected totpVerify 33) (start loaded)
        (attempts (others ++ [33]) true ++ attempts [33] true) := by
  constructor
  next =>
    intro guarded
    have unlocked := (breach_protected guarded (by decide +kernel)).1
    exact unlocked (by decide +kernel)
  next =>
    intro guarded
    have fresh := (breach_protected guarded (by decide +kernel)).2
    exact fresh (by decide +kernel)

end Kerchunk.Otp.Lockouts
