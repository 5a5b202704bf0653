import Kerchunk.Flex.Model
import Kerchunk.Lib.Machine
import Mathlib.Data.List.Nodup
import Mathlib.Data.List.Perm.Basic

set_option autoImplicit false

/-!
# Whether every page is sent once
-/

namespace Kerchunk.Flex

open Machine (Guarded run)

def serials (pending : List FlexPending) : List Nat :=
  pending.map (·.serial)

def State.done (s : State) : List Nat :=
  s.sent.map (·.serial) ++ s.failed

def State.Rests (s : State) : Prop :=
  ∀ w ∈ s.workers, w = .resting ∨ w = .exited

instance (s : State) : Decidable s.Rests :=
  List.decidableBAll _ s.workers

/-- A page that was reported as scheduled is sent or has failed once, or it still waits. While no
worker is at it, a page in the table waits. -/
structure ExactlyOnce (s : State) : Prop where
  once : s.done.Nodup
  kept : ∀ serial < s.scheduled, serial ∈ s.done ∨ ∃ p ∈ s.pending, p.serial = serial ∧ p.valid
  inTime : ∀ e ∈ s.sent, e.now.Reached e.fireTime
  reclaimed : s.Rests → ∀ p ∈ s.pending, p.serial ∉ s.done

def Calm (s : State) : Input → Prop
  -- One worker is started, it finds its number, and an encoding fails only where a page is sent.
  | .configure off _ => s.enabled = true → off = false → s.workers = []
  | .beginPass _ encode now => s.workerTid = true ∧
      ((scan encode now s.pending).ready = none → (scan encode now s.pending).failed = [])
  | _ => True

instance decidableCalm (s : State) : (i : Input) → Decidable (Calm s i)
  | .configure .. => inferInstanceAs (Decidable (_ = _ → _ = _ → _ = _))
  | .beginPass .. => inferInstanceAs (Decidable (_ = _ ∧ (_ = _ → _ = _)))
  | .schedulePage .. | .storeTid | .proceed _ => .isTrue trivial

/-! ## The scan -/

theorem preEncode_frame {encode : Encoder} {p q : FlexPending} (encoded : preEncode encode p = some q) :
    q.serial = p.serial ∧ q.valid = p.valid ∧ q.fireTime = p.fireTime := by
  unfold preEncode at encoded
  split at encoded
  next => cases encoded; trivial
  next =>
    obtain ⟨pcm, _, rfl⟩ := Option.map_eq_some_iff.mp encoded
    trivial

/-- What the scan makes of a table in which all pages wait. -/
structure Scanned (pending : List FlexPending) (now : Timespec) (r : Scan) : Prop where
  length : r.pending.length = pending.length
  perm : (r.failed ++ serials (compact r.pending)).Perm (serials pending)
  found : ∀ index ∈ r.ready, ∃ p, r.pending[index]? = some p ∧ p.valid = true ∧ now.Reached p.fireTime
  waits : r.failed = [] → ∀ p ∈ r.pending, p.valid = true
  fires : ∀ p ∈ r.pending, ∃ q ∈ pending, q.fireTime = p.fireTime
  late : r.ready = none → r.failed = [] → ∀ p ∈ r.pending, ¬ now.Reached p.fireTime

theorem scanned_behind {rest : List FlexPending} {now : Timespec} {r : Scan}
    (scanned : Scanned rest now r) {p q : FlexPending} (valid : q.valid = true)
    (fireTime : q.fireTime = p.fireTime) (serial : q.serial = p.serial)
    (early : ¬ now.Reached q.fireTime) : Scanned (p :: rest) now (r.behind q []) := by
  constructor
  next => simp [Scan.behind, scanned.length]
  next =>
    have keeps : compact (q :: r.pending) = q :: compact r.pending := List.filter_cons_of_pos valid
    simp only [Scan.behind, List.nil_append, keeps, serials, List.map_cons, serial]
    exact List.perm_middle.trans (scanned.perm.cons p.serial)
  next =>
    intro index ready
    obtain ⟨before, found, rfl⟩ := Option.map_eq_some_iff.mp ready
    exact scanned.found before found
  next =>
    intro none p member
    rcases List.mem_cons.mp member with rfl | later
    next => exact valid
    next => exact scanned.waits none p later
  next =>
    intro x member
    rcases List.mem_cons.mp member with rfl | later
    next => exact ⟨p, List.mem_cons_self .., fireTime.symm⟩
    next =>
      obtain ⟨y, present, same⟩ := scanned.fires x later
      exact ⟨y, List.mem_cons_of_mem _ present, same⟩
  next =>
    intro none noFailure x member
    rcases List.mem_cons.mp member with rfl | later
    next => exact early
    next => exact scanned.late (Option.map_eq_none_iff.mp none) noFailure x later

theorem scanned_failed {rest : List FlexPending} {now : Timespec} {r : Scan}
    (scanned : Scanned rest now r) (p : FlexPending) :
    Scanned (p :: rest) now (r.behind { p with valid := false } [p.serial]) := by
  constructor
  next => simp [Scan.behind, scanned.length]
  next =>
    have drops : compact ({ p with valid := false } :: r.pending) = compact r.pending :=
      List.filter_cons_of_neg (by simp)
    simp only [Scan.behind, drops, List.cons_append, List.nil_append, serials, List.map_cons]
    exact scanned.perm.cons p.serial
  next =>
    intro index ready
    obtain ⟨before, found, rfl⟩ := Option.map_eq_some_iff.mp ready
    exact scanned.found before found
  next =>
    intro impossible
    cases impossible
  next =>
    intro x member
    rcases List.mem_cons.mp member with rfl | later
    next => exact ⟨p, List.mem_cons_self .., rfl⟩
    next =>
      obtain ⟨y, present, same⟩ := scanned.fires x later
      exact ⟨y, List.mem_cons_of_mem _ present, same⟩
  next =>
    intro _ impossible
    cases impossible

theorem scanned_ready (rest : List FlexPending) {now : Timespec} {p q : FlexPending}
    (valid : q.valid = true) (waits : ∀ x ∈ rest, x.valid = true)
    (fireTime : q.fireTime = p.fireTime) (serial : q.serial = p.serial)
    (reached : now.Reached q.fireTime) : Scanned (p :: rest) now ⟨q :: rest, some 0, []⟩ := by
  have all : ∀ x ∈ q :: rest, x.valid = true := List.forall_mem_cons.mpr ⟨valid, waits⟩
  constructor
  next => rfl
  next =>
    rw [compact, List.filter_eq_self.mpr all]
    simp [serials, serial]
  next =>
    intro index ready
    cases ready
    exact ⟨q, rfl, valid, reached⟩
  next => exact fun _ => all
  next =>
    intro x member
    rcases List.mem_cons.mp member with rfl | later
    next => exact ⟨p, List.mem_cons_self .., fireTime.symm⟩
    next => exact ⟨x, List.mem_cons_of_mem _ later, rfl⟩
  next =>
    intro impossible
    cases impossible

theorem scan_scanned (encode : Encoder) (now : Timespec) (pending : List FlexPending)
    (waits : ∀ p ∈ pending, p.valid = true) : Scanned pending now (scan encode now pending) := by
  induction pending with
  | nil =>
    constructor
    next => rfl
    next => exact .refl _
    all_goals simp [scan]
  | cons p rest ih =>
    obtain ⟨valid, later⟩ := List.forall_mem_cons.mp waits
    have scanned := ih later
    simp only [scan, valid, Bool.not_true, Bool.false_eq_true, if_false]
    cases encoded : preEncode encode p with
    | none => exact scanned_failed scanned p
    | some q =>
      obtain ⟨serial, same, fireTime⟩ := preEncode_frame encoded
      dsimp only
      split_ifs with reached
      next => exact scanned_ready rest (same.trans valid) later fireTime serial reached
      next => exact scanned_behind scanned (same.trans valid) fireTime serial reached

/-! ## Where the pages are -/

/-- What the only worker is at, and which pages still wait. -/
inductive At (pending : List FlexPending) : List Worker → List Nat → Prop where
  | unmanned (waits : ∀ p ∈ pending, p.valid = true) : At pending [] (serials (compact pending))
  | resting (waits : ∀ p ∈ pending, p.valid = true) :
      At pending [.resting] (serials (compact pending))
  | ready {index : Nat} {now : Timespec} {p : FlexPending} (found : pending[index]? = some p)
      (valid : p.valid = true) (reached : now.Reached p.fireTime) :
      At pending [.ready index now] (serials (compact pending))
  | queued {index : Nat} {p : FlexPending} (found : pending[index]? = some p)
      (valid : p.valid = true) :
      At pending [.queued index] (serials (compact (pending.eraseIdx index)))
  | released : At pending [.released] (serials (compact pending))

structure Sound (s : State) (waiting : List Nat) : Prop where
  room : s.pending.length ≤ maxPending
  working : At s.pending s.workers waiting
  accounted : (s.done ++ waiting).Perm (List.range s.scheduled)
  inTime : ∀ e ∈ s.sent, e.now.Reached e.fireTime

theorem start_sound : Sound start [] :=
  ⟨Nat.zero_le _, .unmanned (by simp [start]), .refl _, by simp [start]⟩

theorem compact_erase {pending : List FlexPending} {index : Nat} {p : FlexPending}
    (found : pending[index]? = some p) (valid : p.valid = true) :
    (serials (compact pending)).Perm (p.serial :: serials (compact (pending.eraseIdx index))) := by
  obtain ⟨inside, rfl⟩ := List.getElem?_eq_some_iff.mp found
  have split := (List.getElem_cons_eraseIdx_perm inside).symm.filter (·.valid)
  rw [List.filter_cons_of_pos valid] at split
  exact split.map _

theorem compact_release {pending : List FlexPending} {index : Nat} :
    compact (pending.modify index release) = compact (pending.eraseIdx index) ∨
      pending[index]? = none := by
  induction pending generalizing index with
  | nil => exact .inr rfl
  | cons p rest ih =>
    cases index with
    | zero => exact .inl (List.filter_cons_of_neg (by simp [release]))
    | succ index =>
      rcases @ih index with same | beyond
      next =>
        left
        simp only [List.modify_succ_cons, List.eraseIdx_cons_succ, compact, List.filter_cons]
        simp only [compact] at same
        rw [same]
      next => exact .inr beyond

theorem at_append {pending : List FlexPending} {workers : List Worker} {waiting : List Nat}
    (working : At pending workers waiting) {p : FlexPending} (valid : p.valid = true) :
    At (pending ++ [p]) workers (waiting ++ [p.serial]) := by
  have appended (pending : List FlexPending) :
      serials (compact (pending ++ [p])) = serials (compact pending) ++ [p.serial] := by
    simp [serials, compact, valid]
  have waits (all : ∀ p ∈ pending, p.valid = true) : ∀ q ∈ pending ++ [p], q.valid = true :=
    List.forall_mem_append.mpr ⟨all, by simpa using valid⟩
  have inside {index : Nat} {q : FlexPending} (found : pending[index]? = some q) :
      (pending ++ [p])[index]? = some q :=
    (List.getElem?_append_left (List.getElem?_eq_some_iff.mp found).1).trans found
  cases working with
  | unmanned all =>
    rw [← appended]
    exact .unmanned (waits all)
  | resting all =>
    rw [← appended]
    exact .resting (waits all)
  | ready found validQ reached =>
    rw [← appended]
    exact .ready (inside found) validQ reached
  | queued found validQ =>
    rw [← appended, ← List.eraseIdx_append_of_lt_length (List.getElem?_eq_some_iff.mp found).1]
    exact .queued (inside found) validQ
  | released =>
    rw [← appended]
    exact .released

variable {s : State} {waiting : List Nat}

theorem schedule_sound (sound : Sound s waiting) (page : Page) (now : Timespec) :
    ∃ waiting, Sound (flexSchedulePage s page now).1 waiting := by
  unfold flexSchedulePage
  split_ifs with full
  next => exact ⟨waiting, sound⟩
  next =>
    refine ⟨waiting ++ [s.scheduled], ?_, at_append sound.working rfl, ?_, sound.inTime⟩
    next =>
      rw [List.length_append, List.length_singleton]
      omega
    next =>
      rw [List.range_succ, ← List.append_assoc]
      exact sound.accounted.append_right _

theorem configure_sound (sound : Sound s waiting) {off created : Bool}
    (calm : Calm s (.configure off created)) : Sound (configure s off created) waiting := by
  obtain ⟨room, working, accounted, inTime⟩ := sound
  unfold configure
  dsimp only
  cases enabled : s.enabled && !off with
  | false => exact ⟨room, working, accounted, inTime⟩
  | true =>
    rw [Bool.and_eq_true, Bool.not_eq_true'] at enabled
    have unmanned : s.workers = [] := calm enabled.1 enabled.2
    refine ⟨room, ?_, accounted, inTime⟩
    cases created with
    | false => exact working
    | true =>
      rw [unmanned] at working
      cases working with
      | unmanned all => simpa [unmanned] using At.resting all

theorem storeTid_sound (sound : Sound s waiting) : Sound (storeTid s) waiting := by
  unfold storeTid
  split
  next => exact sound
  next => exact ⟨sound.room, sound.working, sound.accounted, sound.inTime⟩

theorem resting_only {pending : List FlexPending} {workers : List Worker}
    (working : At pending workers waiting) {w : Nat} (rests : workers[w]? = some .resting) :
    w = 0 ∧ workers = [.resting] ∧ (∀ p ∈ pending, p.valid = true) ∧ waiting = serials pending := by
  -- Only a worker that rests begins a pass, and then it is the only one.
  have first {worker : Worker} (at_w : [worker][w]? = some .resting) : w = 0 ∧ worker = .resting := by
    cases w with
    | zero => exact ⟨rfl, Option.some.inj at_w⟩
    | succ w => cases at_w
  cases working with
  | unmanned => cases rests
  | resting all => exact ⟨(first rests).1, rfl, all, by rw [compact, List.filter_eq_self.mpr all]⟩
  | ready | queued | released => cases (first rests).2

theorem beginPass_sound (sound : Sound s waiting) {w : Nat} {encode : Encoder} {now : Timespec}
    (calm : Calm s (.beginPass w encode now)) : ∃ waiting, Sound (beginPass s w encode now) waiting := by
  unfold beginPass
  split_ifs with busy unknown
  next => exact ⟨waiting, sound⟩
  next => simp [calm.1] at unknown
  next =>
    obtain ⟨rfl, only, all, rfl⟩ := resting_only sound.working (by simpa using busy)
    have scanned := scan_scanned encode now s.pending all
    have room : (scan encode now s.pending).pending.length ≤ maxPending :=
      scanned.length.trans_le sound.room
    have accounted : (s.sent.map (·.serial) ++ (s.failed ++ (scan encode now s.pending).failed) ++
        serials (compact (scan encode now s.pending).pending)).Perm (List.range s.scheduled) := by
      have moved := scanned.perm.append_left s.done
      simp only [State.done, List.append_assoc] at moved ⊢
      exact moved.trans (by simpa [State.done] using sound.accounted)
    cases ready : (scan encode now s.pending).ready with
    | none =>
      have noFailure := calm.2 ready
      refine ⟨_, room, ?_, accounted, sound.inTime⟩
      dsimp only
      rw [ready, only]
      exact .resting (scanned.waits noFailure)
    | some index =>
      obtain ⟨p, found, valid, reached⟩ := scanned.found index ready
      refine ⟨_, room, ?_, accounted, sound.inTime⟩
      dsimp only
      rw [ready, only]
      exact .ready found valid reached

theorem proceed_ready {index : Nat} {now : Timespec} {p : FlexPending}
    (workers : s.workers = [.ready index now]) (found : s.pending[index]? = some p) :
    proceed s 0 =
      { s with sent := s.sent ++ [⟨p.serial, p.fireTime, now⟩], workers := [.queued index] } := by
  simp [proceed, workers, found]

theorem proceed_queued {index : Nat} (workers : s.workers = [.queued index]) :
    proceed s 0 =
      { s with
        pending := s.pending.modify index release
        txCount := s.txCount + 1
        workers := [.released] } := by
  simp [proceed, workers]

theorem proceed_released (workers : s.workers = [.released]) :
    proceed s 0 = { s with pending := compact s.pending, workers := [.resting] } := by
  simp [proceed, workers]

theorem proceed_idle {w : Nat} (idle : s.workers[w]? = none ∨ s.workers[w]? = some .resting) :
    proceed s w = s := by
  unfold proceed
  rcases idle with idle | idle <;> rw [idle]

theorem proceed_sound (sound : Sound s waiting) (w : Nat) : ∃ waiting, Sound (proceed s w) waiting := by
  obtain ⟨room, working, accounted, inTime⟩ := id sound
  generalize manned : s.workers = workers at working
  cases w with
  | succ w =>
    have idle : s.workers[w + 1]? = none := by
      rw [manned]
      cases working <;> rfl
    rw [proceed_idle (.inl idle)]
    exact ⟨waiting, sound⟩
  | zero =>
    cases working with
    | unmanned | resting =>
      rw [proceed_idle (by simp [manned])]
      exact ⟨_, sound⟩
    | @ready index now p found valid reached =>
      rw [proceed_ready manned found]
      refine ⟨_, room, .queued found valid, ?_, ?_⟩
      next =>
        have moved := (compact_erase found valid).append_left s.done
        have counted := moved.symm.trans accounted
        simp only [State.done, List.map_append, List.map_cons, List.map_nil, List.append_assoc,
          List.cons_append, List.nil_append] at counted ⊢
        exact (List.perm_middle.symm.append_left _).trans counted
      next => exact List.forall_mem_append.mpr ⟨inTime, by simpa using reached⟩
    | @queued index p found valid =>
      have same : compact (s.pending.modify index release) = compact (s.pending.eraseIdx index) :=
        compact_release.resolve_right (by simp [found])
      rw [proceed_queued manned]
      refine ⟨_, (List.length_modify ..).trans_le room, .released, ?_, inTime⟩
      rw [same]
      exact accounted
    | released =>
      have all : ∀ p ∈ compact s.pending, p.valid = true := by
        intro p member
        exact (List.mem_filter.mp member).2
      rw [proceed_released manned]
      refine ⟨_, (List.length_filter_le ..).trans room, .resting all, ?_, inTime⟩
      have twice : compact (compact s.pending) = compact s.pending := List.filter_eq_self.mpr all
      rw [twice]
      exact accounted

theorem step_sound (sound : ∃ waiting, Sound s waiting) {i : Input} (calm : Calm s i) :
    ∃ waiting, Sound (step s i) waiting := by
  obtain ⟨waiting, sound⟩ := sound
  cases i with
  | schedulePage page now => exact schedule_sound sound page now
  | configure off created => exact ⟨waiting, configure_sound sound calm⟩
  | storeTid => exact ⟨waiting, storeTid_sound sound⟩
  | beginPass w encode now => exact beginPass_sound sound calm
  | proceed w => exact proceed_sound sound w

theorem run_sound {inputs : List Input} (calm : Guarded step Calm start inputs) :
    ∃ waiting, Sound (run step start inputs) waiting :=
  Machine.run_invariant step (P := fun s => ∃ waiting, Sound s waiting)
    (fun _ _ sound calm => step_sound sound calm) ⟨[], start_sound⟩ calm

theorem waiting_present {pending : List FlexPending} {workers : List Worker}
    (working : At pending workers waiting) {serial : Nat} (waits : serial ∈ waiting) :
    ∃ p ∈ pending, p.serial = serial ∧ p.valid = true := by
  -- A page that waits is in the table.
  have present {part : List FlexPending} (within : part ⊆ pending)
      (waits : serial ∈ serials (compact part)) :
      ∃ p ∈ pending, p.serial = serial ∧ p.valid = true := by
    obtain ⟨p, kept, rfl⟩ := List.mem_map.mp waits
    obtain ⟨member, valid⟩ := List.mem_filter.mp kept
    exact ⟨p, within member, rfl, valid⟩
  cases working with
  | unmanned | resting | ready | released => exact present (List.Subset.refl _) waits
  | queued => exact present (List.eraseIdx_subset ..) waits

theorem rests_waiting {pending : List FlexPending} {workers : List Worker}
    (working : At pending workers waiting) (rests : ∀ w ∈ workers, w = .resting ∨ w = .exited) :
    waiting = serials pending := by
  cases working with
  | unmanned all | resting all => rw [compact, List.filter_eq_self.mpr all]
  | ready | queued | released => simp at rests

theorem sound_once (sound : Sound s waiting) : ExactlyOnce s := by
  obtain ⟨room, working, accounted, inTime⟩ := sound
  have distinct : (s.done ++ waiting).Nodup := accounted.nodup_iff.mpr List.nodup_range
  constructor
  next => exact distinct.of_append_left
  next =>
    intro serial scheduled
    have counted := accounted.mem_iff.mpr (List.mem_range.mpr scheduled)
    exact (List.mem_append.mp counted).imp_right (waiting_present working)
  next => exact inTime
  next =>
    intro rests p member finished
    have waits : p.serial ∈ waiting := by
      rw [rests_waiting working rests]
      exact List.mem_map_of_mem member
    exact List.disjoint_of_nodup_append distinct finished waits

/-! ## Passes of the worker -/

def pass (encode : Encoder) (now : Timespec) : List Input :=
  -- The steps of the first worker from one rest to the next.
  [.beginPass 0 encode now, .proceed 0, .proceed 0, .proceed 0]

def passes (times : List (Encoder × Timespec)) : List Input :=
  times.flatMap fun time => pass time.1 time.2

/-- The worker rests and will not stop. -/
structure Manned (s : State) : Prop where
  resting : s.workers = [.resting]
  tid : s.workerTid = true

theorem beginPass_ready {encode : Encoder} {now : Timespec} {index : Nat} (manned : Manned s)
    (ready : (scan encode now s.pending).ready = some index) :
    beginPass s 0 encode now =
      { s with
        pending := (scan encode now s.pending).pending
        failed := s.failed ++ (scan encode now s.pending).failed
        workers := [.ready index now] } := by
  simp [beginPass, manned.resting, manned.tid, ready]

theorem beginPass_none {encode : Encoder} {now : Timespec} (manned : Manned s)
    (none : (scan encode now s.pending).ready = none) :
    beginPass s 0 encode now =
      { s with
        pending := (scan encode now s.pending).pending
        failed := s.failed ++ (scan encode now s.pending).failed } := by
  simp [beginPass, manned.resting, manned.tid, none]

theorem pass_none {encode : Encoder} {now : Timespec} (manned : Manned s)
    (none : (scan encode now s.pending).ready = none) :
    run step s (pass encode now) =
      { s with
        pending := (scan encode now s.pending).pending
        failed := s.failed ++ (scan encode now s.pending).failed } := by
  simp [pass, step, beginPass_none manned none, proceed, manned.resting]

theorem pass_ready {encode : Encoder} {now : Timespec} {index : Nat} {p : FlexPending}
    (manned : Manned s) (ready : (scan encode now s.pending).ready = some index)
    (found : (scan encode now s.pending).pending[index]? = some p) :
    run step s (pass encode now) =
      { s with
        pending := compact ((scan encode now s.pending).pending.modify index release)
        failed := s.failed ++ (scan encode now s.pending).failed
        sent := s.sent ++ [⟨p.serial, p.fireTime, now⟩]
        txCount := s.txCount + 1
        workers := [.resting] } := by
  simp [pass, step, beginPass_ready manned ready, proceed, found]

/-- A pass at which everything is due takes a page out of the table. -/
theorem pass_sends {encode : Encoder} {now : Timespec} (sound : Sound s waiting) (manned : Manned s)
    (calm : Calm s (.beginPass 0 encode now)) (due : ∀ p ∈ s.pending, now.Reached p.fireTime) :
    let after := run step s (pass encode now)
    Manned after ∧ after.pending.length ≤ s.pending.length - 1 ∧
      ∀ p ∈ after.pending, ∃ q ∈ s.pending, q.fireTime = p.fireTime := by
  obtain ⟨-, -, all, -⟩ := resting_only (w := 0) sound.working (by rw [manned.resting]; rfl)
  have scanned := scan_scanned encode now s.pending all
  cases ready : (scan encode now s.pending).ready with
  | none =>
    -- Then nothing was left to send.
    have late := scanned.late ready (calm.2 ready)
    have empty : (scan encode now s.pending).pending = [] := by
      rw [List.eq_nil_iff_forall_not_mem]
      intro p member
      obtain ⟨q, present, same⟩ := scanned.fires p member
      exact late p member (same ▸ due q present)
    rw [pass_none manned ready, empty]
    exact ⟨⟨manned.resting, manned.tid⟩, Nat.zero_le _, by simp⟩
  | some index =>
    obtain ⟨p, found, -, -⟩ := scanned.found index ready
    have erased := (@compact_release (scan encode now s.pending).pending index).resolve_right
      (by simp [found])
    rw [pass_ready manned ready found, erased]
    refine ⟨⟨rfl, manned.tid⟩, ?_, ?_⟩
    next =>
      have fewer := List.length_eraseIdx_of_lt (List.getElem?_eq_some_iff.mp found).1
      rw [scanned.length] at fewer
      exact (List.length_filter_le ..).trans fewer.le
    next =>
      intro x member
      exact scanned.fires x (List.eraseIdx_subset (List.mem_filter.mp member).1)

theorem passes_drain {times : List (Encoder × Timespec)} (sound : Sound s waiting)
    (manned : Manned s) (calm : Guarded step Calm s (passes times))
    (due : ∀ time ∈ times, ∀ p ∈ s.pending, time.2.Reached p.fireTime) :
    (run step s (passes times)).pending.length ≤ s.pending.length - times.length := by
  induction times generalizing s waiting with
  | nil => exact Nat.le_refl _
  | cons time rest ih =>
    have split : passes (time :: rest) = pass time.1 time.2 ++ passes rest := rfl
    rw [split, Machine.guarded_append] at calm
    obtain ⟨now, later⟩ := calm
    obtain ⟨same, fewer, fires⟩ :=
      pass_sends sound manned now.1 (due time (List.mem_cons_self ..))
    obtain ⟨waiting, after⟩ := Machine.run_invariant step (P := fun s => ∃ waiting, Sound s waiting)
      (fun _ _ sound calm => step_sound sound calm) ⟨waiting, sound⟩ now
    have drained := ih after same later (by
      intro time' member p present
      obtain ⟨q, before, equal⟩ := fires p present
      exact equal ▸ due time' (List.mem_cons_of_mem _ member) q before)
    rw [split, Machine.run_append, List.length_cons]
    omega

/-! ## A table of failed pages -/

/-- The table is full of pages whose encoding has failed. -/
structure Stuck (s : State) : Prop where
  full : s.pending.length = maxPending
  failed : ∀ p ∈ s.pending, p.valid = false ∧ p.serial ∈ s.done
  rests : s.Rests

theorem scan_invalid (encode : Encoder) (now : Timespec) {pending : List FlexPending}
    (invalid : ∀ p ∈ pending, p.valid = false) : scan encode now pending = ⟨pending, none, []⟩ := by
  induction pending with
  | nil => rfl
  | cons p rest ih =>
    obtain ⟨first, later⟩ := List.forall_mem_cons.mp invalid
    simp [scan, first, ih later, Scan.behind]

theorem step_stuck (s : State) (i : Input) (stuck : Stuck s) : Stuck (step s i) := by
  obtain ⟨full, failed, rests⟩ := id stuck
  cases i with
  | schedulePage page now =>
    have refused : flexSchedulePage s page now = (s, .pendingQueueFull) := if_pos full.ge
    rw [step, refused]
    exact stuck
  | configure off created =>
    simp only [step, configure]
    cases s.enabled && !off with
    | false => exact ⟨full, failed, rests⟩
    | true =>
      refine ⟨full, failed, ?_⟩
      cases created with
      | false => exact rests
      | true => exact List.forall_mem_append.mpr ⟨rests, by simp⟩
  | storeTid =>
    simp only [step, storeTid]
    split
    next => exact stuck
    next => exact ⟨full, failed, rests⟩
  | beginPass w encode now =>
    have same := scan_invalid encode now fun p member => (failed p member).1
    simp only [step, beginPass, same, List.append_nil]
    split_ifs
    next => exact stuck
    next =>
      refine ⟨full, failed, ?_⟩
      intro worker member
      exact (List.mem_or_eq_of_mem_set member).elim (rests worker) .inr
    next => exact stuck
  | proceed w =>
    have same : proceed s w = s := by
      unfold proceed
      cases at_w : s.workers[w]? with
      | none => rfl
      | some worker =>
        rcases rests worker (List.mem_of_getElem? at_w) with rfl | rfl <;> rfl
    rw [step, same]
    exact stuck

/-- Every page is sent once, in time, or its encoding fails once; and once all of them are due, as
many passes as the table has room for leave none behind. -/
theorem pages_sent_once (inputs : List Input) (times : List (Encoder × Timespec))
    (calm : Guarded step Calm start (inputs ++ passes times)) :
    ExactlyOnce (run step start inputs) ∧
      (Manned (run step start inputs) → maxPending ≤ times.length →
        (∀ time ∈ times, ∀ p ∈ (run step start inputs).pending, time.2.Reached p.fireTime) →
        (run step start (inputs ++ passes times)).pending = [] ∧
          ExactlyOnce (run step start (inputs ++ passes times))) := by
  obtain ⟨before, later⟩ := (Machine.guarded_append ..).mp calm
  obtain ⟨waiting, sound⟩ := run_sound before
  obtain ⟨waiting', after⟩ := run_sound calm
  refine ⟨sound_once sound, fun manned enough due => ⟨?_, sound_once after⟩⟩
  have drained := passes_drain sound manned later due
  have room := sound.room
  rw [Machine.run_append, ← List.length_eq_zero_iff]
  omega

/-! ## Runs that go well, and runs that do not -/

def noon (sec : Int) : Timespec := ⟨1735819200 + sec, 0⟩

def hello : Input :=
  .schedulePage ⟨101000, .alpha, .speed1600_2, some "Hello FLEX".toList⟩ (noon 0)

def encoder (succeeds : Bool) : Encoder :=
  fun _ _ _ => if succeeds then some [0] else none

def workerStarts : List Input := [.configure false true, .storeTid]

/-- Two pages are sent in the next cycle. -/
theorem two_pages_sent :
    let inputs := workerStarts ++ [hello, hello]
    let times := List.replicate maxPending (encoder true, noon 240)
    (run step start (inputs ++ passes times)).pending = [] ∧
      ExactlyOnce (run step start (inputs ++ passes times)) :=
  (pages_sent_once (workerStarts ++ [hello, hello])
    (List.replicate maxPending (encoder true, noon 240)) (by decide +kernel)).2
      ⟨by decide, by decide⟩ (by decide) (by decide +kernel)

def failures : List Input :=
  -- Sixteen pages that cannot be encoded.
  workerStarts ++ List.replicate maxPending hello ++ [.beginPass 0 (encoder false) (noon 1)]

def reloaded : List Input :=
  -- A second worker finds the page before the first has sent it.
  workerStarts ++ workerStarts ++ [hello, .beginPass 0 (encoder true) (noon 240),
    .beginPass 1 (encoder true) (noon 240), .proceed 0, .proceed 1]

theorem failures_stuck : Stuck (run step start failures) :=
  ⟨by decide +kernel, by decide +kernel, by decide +kernel⟩

/-- Whatever follows, the failed pages fill the table; and after a reload one page is sent twice. -/
theorem slots_lost_and_page_repeated :
    (∀ later : List Input, (run step start (failures ++ later)).pending.length = maxPending ∧
      ¬ ExactlyOnce (run step start (failures ++ later))) ∧
    ¬ ExactlyOnce (run step start reloaded) := by
  constructor
  next =>
    intro later
    have stuck : Stuck (run step start (failures ++ later)) := by
      rw [Machine.run_append]
      exact Machine.run_holds step step_stuck failures_stuck
    refine ⟨stuck.full, fun exactly => ?_⟩
    obtain ⟨p, member⟩ := List.exists_mem_of_length_pos (stuck.full.trans_gt (by decide))
    exact exactly.reclaimed stuck.rests p member (stuck.failed p member).2
  next =>
    intro exactly
    have once := exactly.once
    revert once
    decide +kernel

end Kerchunk.Flex
