import Kerchunk.Core.Threads

set_option autoImplicit false

/-!
# Worker threads of modules

`modules/mod_webhook.c` and `modules/mod_flex.c`, over the thread table. A worker asks whether the
thread that `g_worker_tid` names is to stop. The main thread goes through its calls one operation at
a time, and the workers go on in between.
-/

namespace Kerchunk.Core.Workers

open Threads (Table threadShouldStop)

inductive Module where
  | webhook
  | flex
deriving DecidableEq

/-- Where a worker thread is. -/
inductive Phase where
  | created
  | top
  | waiting
  | check
  | busy
  | draining
  | returned
  | exited
deriving DecidableEq

structure Worker where
  id : Nat
  phase : Phase
deriving DecidableEq

/-- What the main thread does in a call, one after the other. -/
inductive Op where
  | stop
  | join
  | forget
  | resetQueue
  | create (spawned : Bool)
  | store
deriving DecidableEq

inductive Call where
  | configure (enabled spawned : Bool)
  | unload
deriving DecidableEq

def program : Module → Call → List Op
  | .webhook, .configure enabled spawned =>
    [.stop, .join, .forget, .resetQueue] ++ if enabled then [.create spawned, .store] else []
  | .flex, .configure enabled spawned => if enabled then [.create spawned, .store] else []
  | _, .unload => [.stop, .join, .forget]

/-- `tid` is `g_worker_tid`, `none` when it is negative, and `answer` what `thread_create` returned
last. `stops` says for which threads a stop was asked. -/
structure State where
  threads : Threads.State
  tid : Option Nat
  answer : Option Nat
  todo : List Op
  workers : List Worker
  queued : Int
  down : Bool
  stops : List Nat
deriving DecidableEq

def start : State where
  threads := Threads.start
  tid := none
  answer := none
  todo := []
  workers := []
  queued := 0
  down := false
  stops := []

def queueSize : Int := 32

def enqueuePayload (s : State) : State :=
  -- The oldest payload goes when the queue is full.
  { s with queued := if s.queued ≥ queueSize then s.queued else s.queued + 1 }

def JoinReturns (t : Table) (tid : Nat) : Prop :=
  -- `thread_join` finds no such thread, or the thread has exited.
  tid ∉ t.ids ∨ t.Joins tid

instance (t : Table) (tid : Nat) : Decidable (JoinReturns t tid) :=
  inferInstanceAs (Decidable (_ ∨ _))

def perform (s : State) (rest : List Op) : Op → State
  | .stop =>
    match s.tid with
    | none => { s with todo := rest }
    | some tid =>
      { s with
        todo := rest
        threads := Threads.step s.threads (.stop tid)
        stops := s.stops ++ [tid] }
  | .join =>
    match s.tid with
    | none => { s with todo := rest }
    | some tid =>
      if JoinReturns s.threads.table tid then
        { s with todo := rest, threads := Threads.step s.threads (.join tid) }
      else s
  | .forget => { s with todo := rest, tid := none }
  | .resetQueue => { s with todo := rest, queued := 0 }
  | .create spawned =>
    let id := (Threads.threadCreate s.threads.table spawned).2
    { s with
      todo := rest
      threads := Threads.step s.threads (.create spawned)
      answer := id
      workers := s.workers ++ (id.map fun id => ⟨id, .created⟩).toList }
  | .store => { s with todo := rest, tid := s.answer }

def Phase.next (m : Module) (stop : Bool) (queued : Int) : Phase → Phase
  -- `stop` is what the worker is told if it asks.
  | .created => .top
  | .top =>
    match m with
    | .webhook => if stop then .draining else .waiting
    | .flex => if stop then .returned else .busy
  | .waiting => if queued = 0 ∧ stop = false then .waiting else .check
  | .check => if stop then .draining else .busy
  | .busy => .top
  | .draining => if queued > 0 then .draining else .returned
  | .returned => .exited
  | .exited => .exited

def Phase.takes (stop : Bool) (queued : Int) : Phase → Bool
  -- A payload is taken off the queue.
  | .check => !stop
  | .draining => decide (queued > 0)
  | _ => false

def Phase.inWrapper : Phase → Bool
  | .created => true
  | .returned => true
  | _ => false

def told (s : State) : Bool :=
  -- `thread_should_stop(g_worker_tid)`
  threadShouldStop s.threads.table s.tid

def work (m : Module) (s : State) (w : Nat) : State :=
  match s.workers[w]? with
  | none => s
  | some worker =>
    { s with
      workers := s.workers.set w { worker with phase := worker.phase.next m (told s) s.queued }
      queued := if worker.phase.takes (told s) s.queued then s.queued - 1 else s.queued
      threads :=
        if worker.phase.inWrapper then Threads.step s.threads (.wrapper worker.id) else s.threads }

inductive Input where
  | call (call : Call)
  | main
  | work (w : Nat)
  | enqueue
  | shutdown (inTime : Nat → Bool)

def step (m : Module) (s : State) : Input → State
  | .call call =>
    -- After `kerchunk_threads_shutdown` modules are only unloaded.
    if s.todo = [] ∧ (s.down = true → call = .unload) then { s with todo := program m call } else s
  | .main =>
    match s.todo with
    | [] => s
    | op :: rest => perform s rest op
  | .work w => work m s w
  | .enqueue => enqueuePayload s
  | .shutdown inTime =>
    if s.todo = [] then
      { s with
        threads := Threads.step s.threads (.shutdown inTime)
        stops := s.stops ++ s.threads.table.ids
        down := true }
    else s

/-! ## What is asked of the workers -/

def Phase.InLoop : Phase → Prop
  | .top | .waiting | .check | .busy => True
  | _ => False

instance (p : Phase) : Decidable p.InLoop := by
  cases p <;> unfold Phase.InLoop <;> infer_instance

def Phase.Asks (queued : Int) : Phase → Prop
  | .top | .check => True
  | .waiting => queued = 0
  | _ => False

instance (queued : Int) (p : Phase) : Decidable (p.Asks queued) := by
  cases p <;> unfold Phase.Asks <;> infer_instance

/-- A worker leaves its loop only after its own stop, and then does not go on. -/
structure Obeys (m : Module) (s : State) (i : Input) : Prop where
  ends : ∀ (w : Nat) (before after : Worker), s.workers[w]? = some before → (step m s i).workers[w]? = some after →
    before.phase.InLoop → ¬ after.phase.InLoop → before.id ∈ s.stops
  heeds : ∀ (w : Nat) (worker : Worker), i = .work w → s.workers[w]? = some worker → worker.phase.Asks s.queued →
    worker.id ∈ s.stops → told s = true

def Phase.Live (p : Phase) : Prop :=
  -- It will still ask.
  p = .created ∨ p.InLoop

instance (p : Phase) : Decidable p.Live :=
  inferInstanceAs (Decidable (_ ∨ _))

def State.Idle (s : State) : Prop :=
  ∀ worker ∈ s.workers, ¬ worker.phase.Live

def Input.Proper (m : Module) (s : State) : Input → Prop
  -- No worker asks while its id is on its way to the variable, and FLEX is not made to start a
  -- second worker.
  | .work w => ∀ worker ∈ s.workers[w]?, worker.phase.Asks s.queued → s.todo.head? ≠ some .store
  | .call (.configure enabled _) => m = .flex → enabled = true → s.Idle
  | _ => True

instance (s : State) : Decidable s.Idle :=
  List.decidableBAll _ s.workers

instance (m : Module) (s : State) (i : Input) : Decidable (i.Proper m s) := by
  unfold Input.Proper
  split <;> infer_instance

def State.named (s : State) : Option Nat :=
  if s.todo.head? = some .store then s.answer else s.tid

def Op.Quiet : Op → Prop
  -- The worker has been joined.
  | .forget | .resetQueue | .create _ => True
  | _ => False

def Kept (s : State) (worker : Worker) : Prop :=
  ∃ mt ∈ s.threads.table.threads, mt.id = worker.id ∧
    mt.stopRequested = decide (worker.id ∈ s.stops) ∧
    mt.progress = if worker.phase = .created then .created else .running

structure Sound (m : Module) (s : State) : Prop where
  issued : Threads.Issued s.threads
  workers : s.workers.map Worker.id = s.threads.created
  shape : ∃ call, (s.down = true → call = .unload) ∧ s.todo <:+ program m call
  created : ∀ id, s.tid = some id ∨ s.answer = some id ∨ id ∈ s.stops → id ∈ s.threads.created
  named : s.down = false → ∀ worker ∈ s.workers, worker.phase.Live → s.named = some worker.id
  quiet : s.down = false → (∃ op ∈ s.todo.head?, op.Quiet) → s.Idle
  kept : s.down = false → ∀ worker ∈ s.workers, worker.phase.Live → Kept s worker
  down : s.down = true → s.threads.table.threads = [] ∧
    ∀ worker ∈ s.workers, worker.phase.Live → worker.id ∈ s.stops

/-! ## What a worker is told -/

theorem Sound.distinct {m : Module} {s : State} (sound : Sound m s) :
    (s.workers.map Worker.id).Nodup :=
  sound.workers ▸ sound.issued.apart

theorem Sound.told {m : Module} {s : State} (sound : Sound m s) (stored : s.todo.head? ≠ some .store)
    {worker : Worker} (member : worker ∈ s.workers) (live : worker.phase.Live) :
    told s = decide (worker.id ∈ s.stops) := by
  cases phase : s.down with
  | true =>
    have ⟨empty, stopped⟩ := sound.down phase
    simp [Workers.told, Threads.shouldStop_empty empty, stopped worker member live]
  | false =>
    have named := sound.named phase worker member live
    rw [State.named, if_neg stored] at named
    obtain ⟨mt, listed, same, stop, -⟩ := sound.kept phase worker member live
    rw [Workers.told, named, ← same, Threads.shouldStop_of_mem sound.issued.slots listed, stop, same]

theorem next_leaves {m : Module} {stop : Bool} {queued : Int} {p : Phase} (within : p.InLoop)
    (left : ¬ (p.next m stop queued).InLoop) : p.Asks queued ∧ stop = true := by
  cases p <;> cases m <;> cases stop <;> simp_all [Phase.next, Phase.InLoop, Phase.Asks]
  all_goals split at left <;> simp_all

theorem asks_inLoop {queued : Int} {p : Phase} (asks : p.Asks queued) : p.InLoop := by
  cases p <;> simp_all [Phase.Asks, Phase.InLoop]

theorem work_workers {m : Module} {s : State} {w : Nat} {worker : Worker}
    (found : s.workers[w]? = some worker) :
    (work m s w).workers =
      s.workers.set w { worker with phase := worker.phase.next m (told s) s.queued } := by
  simp [work, found]

theorem perform_workers (s : State) (rest : List Op) (op : Op) :
    ∃ more, (perform s rest op).workers = s.workers ++ more := by
  cases op with
  | stop => cases found : s.tid <;> exact ⟨[], by simp [perform, found]⟩
  | join =>
    cases found : s.tid with
    | none => exact ⟨[], by simp [perform, found]⟩
    | some tid =>
      refine ⟨[], ?_⟩
      simp only [perform, found, List.append_nil]
      split <;> rfl
  | forget => exact ⟨[], (List.append_nil _).symm⟩
  | resetQueue => exact ⟨[], (List.append_nil _).symm⟩
  | create spawned => exact ⟨_, rfl⟩
  | store => exact ⟨[], (List.append_nil _).symm⟩

theorem step_workers (m : Module) (s : State) {i : Input} (other : ∀ w, i ≠ .work w) :
    ∃ more, (step m s i).workers = s.workers ++ more := by
  cases i with
  | call call =>
    refine ⟨[], ?_⟩
    simp only [step, List.append_nil]
    split <;> rfl
  | main =>
    cases ops : s.todo with
    | nil => exact ⟨[], by simp [step, ops]⟩
    | cons op rest => simpa only [step, ops] using perform_workers s rest op
  | work w => exact absurd rfl (other w)
  | enqueue => exact ⟨[], (List.append_nil _).symm⟩
  | shutdown inTime =>
    refine ⟨[], ?_⟩
    simp only [step, List.append_nil]
    split <;> rfl

theorem same_worker {α : Type} {xs more : List α} {w : Nat} {x y : α} (before : xs[w]? = some x)
    (after : (xs ++ more)[w]? = some y) : x = y := by
  obtain ⟨bound, -⟩ := List.getElem?_eq_some_iff.mp before
  rw [List.getElem?_append_left bound, before] at after
  exact Option.some.inj after

theorem sound_obeys {m : Module} {s : State} (sound : Sound m s) {i : Input} (proper : i.Proper m s) :
    Obeys m s i := by
  constructor
  next =>
    intro w before after found moved within left
    by_cases worked : i = .work w
    next =>
      subst worked
      obtain ⟨bound, -⟩ := List.getElem?_eq_some_iff.mp found
      simp only [step, work_workers found, List.getElem?_set_self bound, Option.some.injEq] at moved
      subst moved
      have ⟨asks, stop⟩ := next_leaves within left
      rw [sound.told (proper before found asks) (List.mem_of_getElem? found) (.inr within)] at stop
      exact of_decide_eq_true stop
    next =>
      -- No other step moves this worker.
      have same : before = after := by
        by_cases other : ∃ v, i = .work v
        next =>
          obtain ⟨v, rfl⟩ := other
          have apart : v ≠ w := fun same => worked (same ▸ rfl)
          simp only [step] at moved
          cases there : s.workers[v]? with
          | none => simp_all [work]
          | some worker =>
            rw [work_workers there, List.getElem?_set_ne apart, found] at moved
            exact Option.some.inj moved
        next =>
          obtain ⟨more, kept⟩ := step_workers m s fun v same => other ⟨v, same⟩
          exact same_worker found (kept ▸ moved)
      exact absurd within (same ▸ left)
  next =>
    intro w worker worked found asks stopped
    subst worked
    rw [sound.told (proper worker found asks) (List.mem_of_getElem? found) (.inr (asks_inLoop asks))]
    exact decide_eq_true stopped

/-! ## The main thread -/

theorem program_next {m : Module} {call : Call} {op : Op} {rest : List Op}
    (within : op :: rest <:+ program m call) :
    match op with
    | .stop => rest.head? = some .join
    | .join => rest.head? = some .forget
    | .forget => rest.head? ≠ some .store
    | .resetQueue => rest.head? ≠ some .store
    | .create _ => rest.head? = some .store ∧ call ≠ .unload
    | .store => rest = [] := by
  cases m <;> rcases call with ⟨enabled, spawned⟩ | _
  all_goals try cases enabled
  all_goals
    simp only [program, List.suffix_cons_iff, List.suffix_nil, List.cons_append, List.nil_append,
      if_true, if_false, Bool.false_eq_true, reduceCtorEq, or_false] at within
  all_goals grind

theorem rest_within {m : Module} {call : Call} {op : Op} {rest : List Op}
    (within : op :: rest <:+ program m call) : rest <:+ program m call :=
  (List.suffix_cons op rest).trans within

theorem kept_of_table {s t : State} {worker : Worker} (kept : Kept s worker)
    (table : t.threads.table = s.threads.table)
    (stops : worker.id ∈ t.stops ↔ worker.id ∈ s.stops) : Kept t worker := by
  obtain ⟨mt, listed, same, stop, progress⟩ := kept
  exact ⟨mt, table ▸ listed, same, by simpa only [stops] using stop, progress⟩

section Perform

variable {m : Module} {s : State}

/-- Where table, workers and stops stay, what is left to show is about the main thread. -/
theorem Sound.move {t : State} (sound : Sound m s) (threads : t.threads = s.threads)
    (workers : t.workers = s.workers) (stops : t.stops = s.stops) (down : t.down = s.down)
    (shape : ∃ call, (t.down = true → call = .unload) ∧ t.todo <:+ program m call)
    (created : ∀ id, t.tid = some id ∨ t.answer = some id → s.tid = some id ∨ s.answer = some id)
    (named : s.down = false → ∀ worker ∈ s.workers, worker.phase.Live → t.named = some worker.id)
    (quiet : s.down = false → (∃ op ∈ t.todo.head?, op.Quiet) → s.Idle) : Sound m t := by
  constructor
  next => exact threads ▸ sound.issued
  next => exact threads ▸ workers ▸ sound.workers
  next => exact shape
  next =>
    intro id cause
    rw [threads]
    rcases cause with held | returned | stopped
    next => exact sound.created id ((created id (.inl held)).imp_right .inl)
    next => exact sound.created id ((created id (.inr returned)).imp_right .inl)
    next => exact sound.created id (.inr (.inr (stops ▸ stopped)))
  next => exact down ▸ workers ▸ named
  next =>
    intro up ops worker member
    exact quiet (down ▸ up) ops worker (workers ▸ member)
  next =>
    intro up worker member live
    exact kept_of_table (sound.kept (down ▸ up) worker (workers ▸ member) live) (by rw [threads])
      (by rw [stops])
  next =>
    rw [down, threads, workers, stops]
    exact sound.down

theorem Sound.rest (sound : Sound m s) {op : Op} {rest : List Op} (todo : s.todo = op :: rest) :
    ∃ call, (s.down = true → call = .unload) ∧ rest <:+ program m call := by
  obtain ⟨call, unload, within⟩ := sound.shape
  exact ⟨call, unload, rest_within (todo ▸ within)⟩

theorem Sound.head (sound : Sound m s) {op : Op} {rest : List Op} (todo : s.todo = op :: rest)
    (other : op ≠ .store) (up : s.down = false) :
    ∀ worker ∈ s.workers, worker.phase.Live → s.tid = some worker.id := by
  intro worker member live
  have named := sound.named up worker member live
  simpa [State.named, todo, other] using named

theorem sound_stop (sound : Sound m s) {rest : List Op} (todo : s.todo = .stop :: rest) :
    Sound m (perform s rest .stop) := by
  obtain ⟨call, unload, within⟩ := sound.shape
  have next : rest.head? = some .join := program_next (todo ▸ within)
  have named := sound.head todo (by simp)
  simp only [perform]
  split
  next held =>
    refine sound.move rfl rfl rfl rfl (sound.rest todo) (fun _ cause => cause) ?_ ?_
    next => simpa [State.named, next, held] using named
    next => simp [next, Op.Quiet]
  next tid held =>
    constructor
    next => exact Threads.step_issued s.threads (.stop tid) sound.issued
    next => exact sound.workers
    next => exact sound.rest todo
    next =>
      intro id cause
      rcases cause with same | returned | stopped
      next => exact sound.created id (.inl same)
      next => exact sound.created id (.inr (.inl returned))
      next =>
        rcases List.mem_append.mp stopped with before | now
        next => exact sound.created id (.inr (.inr before))
        next => exact sound.created id (.inl (List.mem_singleton.mp now ▸ held))
    next => simpa [State.named, next, held] using named
    next => simp [next, Op.Quiet]
    next =>
      intro up worker member live
      obtain ⟨mt, listed, same, stop, progress⟩ := sound.kept up worker member live
      refine ⟨if mt.id = tid then { mt with stopRequested := true } else mt, ?_, ?_, ?_, ?_⟩
      next =>
        simp only [Threads.step, Threads.threadStop,
          Threads.onThread_threads sound.issued.slots]
        exact List.mem_map_of_mem listed
      next => split <;> exact same
      next =>
        have mine : tid = worker.id := by simpa [held] using named up worker member live
        simp [mine, same]
      next => split <;> exact progress
    next =>
      intro phase
      obtain ⟨empty, stopped⟩ := sound.down phase
      refine ⟨?_, fun worker member live => List.mem_append_left _ (stopped worker member live)⟩
      simp [Threads.step, Threads.threadStop, Threads.onThread_threads sound.issued.slots, empty]

theorem idle_of_joined (sound : Sound m s) (up : s.down = false) {tid : Nat} (held : s.tid = some tid)
    (named : ∀ worker ∈ s.workers, worker.phase.Live → s.tid = some worker.id)
    (returns : JoinReturns s.threads.table tid) : s.Idle := by
  intro worker member live
  have mine : tid = worker.id := Option.some.inj (held.symm.trans (named worker member live))
  obtain ⟨mt, listed, same, -, progress⟩ := sound.kept up worker member live
  rcases returns with unknown | ⟨other, there, ids, exited⟩
  next => exact unknown (mine ▸ same ▸ List.mem_map_of_mem listed)
  next =>
    have : other = mt :=
      List.inj_on_of_nodup_map sound.issued.slots there listed (ids.trans (mine.trans same.symm))
    rw [← this, exited] at progress
    split at progress <;> cases progress

theorem sound_join (sound : Sound m s) {rest : List Op} (todo : s.todo = .join :: rest) :
    Sound m (perform s rest .join) := by
  obtain ⟨call, unload, within⟩ := sound.shape
  have next : rest.head? = some .forget := program_next (todo ▸ within)
  have named := sound.head todo (by simp)
  simp only [perform]
  split
  next held =>
    refine sound.move rfl rfl rfl rfl (sound.rest todo) (fun _ cause => cause) ?_ ?_
    next => simpa [State.named, next, held] using named
    next =>
      intro up _ worker member live
      have := named up worker member live
      simp [held] at this
  next tid held =>
    split
    next returns =>
      have table : (Threads.step s.threads (.join tid)).table = s.threads.table := by
        simp only [Threads.step]
        split <;> rfl
      have created : (Threads.step s.threads (.join tid)).created = s.threads.created := by
        simp only [Threads.step]
        split <;> rfl
      have idle (up : s.down = false) : s.Idle := idle_of_joined sound up held (named up) returns
      constructor
      next => exact Threads.step_issued s.threads (.join tid) sound.issued
      next => exact sound.workers.trans created.symm
      next => exact sound.rest todo
      next => exact created ▸ sound.created
      next => simpa [State.named, next, held] using named
      next => exact fun up _ => idle up
      next =>
        intro up worker member live
        exact kept_of_table (sound.kept up worker member live) table Iff.rfl
      next => simpa only [table] using sound.down
    next => exact sound

/-- What `thread_create` leaves in the thread table. -/
theorem create_threads (t : Threads.State) (issued : Threads.Issued t) (spawned : Bool) :
    (Threads.step t (.create spawned)).created =
        t.created ++ (Threads.threadCreate t.table spawned).2.toList ∧
      ∀ id, (Threads.threadCreate t.table spawned).2 = some id → id ∉ t.created ∧
        ⟨id, false, .created⟩ ∈ (Threads.step t (.create spawned)).table.threads := by
  rcases Threads.threadCreate_cases t.table spawned with
    ⟨-, answer⟩ | ⟨-, -, answer⟩ | ⟨-, -, slots, added, answer⟩
  next => simp [Threads.step, answer]
  next => simp [Threads.step, answer]
  next =>
    simp only [Threads.step, answer, Option.some.injEq, forall_eq', Option.toList_some, true_and]
    exact ⟨issued.unseen, (SlotTable.mem_add added).mpr (.inl rfl)⟩

theorem sound_create (sound : Sound m s) {spawned : Bool} {rest : List Op}
    (todo : s.todo = .create spawned :: rest) : Sound m (perform s rest (.create spawned)) := by
  obtain ⟨call, unload, within⟩ := sound.shape
  obtain ⟨next, configured⟩ : rest.head? = some .store ∧ call ≠ .unload :=
    program_next (todo ▸ within)
  have up : s.down = false := by
    by_contra down
    exact configured (unload (by simpa using down))
  have idle : s.Idle := sound.quiet up ⟨.create spawned, by simp [todo], trivial⟩
  obtain ⟨created, fresh⟩ := create_threads s.threads sound.issued spawned
  -- The only worker that will ask is the new one.
  have single (worker : Worker) (member : worker ∈ (perform s rest (.create spawned)).workers)
      (live : worker.phase.Live) :
      (Threads.threadCreate s.threads.table spawned).2 = some worker.id ∧
        worker.phase = .created := by
    rcases List.mem_append.mp member with before | now
    next => exact absurd live (idle worker before)
    next =>
      obtain ⟨id, returned, rfl⟩ : ∃ id, (Threads.threadCreate s.threads.table spawned).2 = some id ∧
          (⟨id, .created⟩ : Worker) = worker := by simpa using now
      exact ⟨returned, rfl⟩
  constructor
  next => exact Threads.step_issued s.threads (.create spawned) sound.issued
  next =>
    simp only [perform, List.map_append, sound.workers, created]
    cases (Threads.threadCreate s.threads.table spawned).2 <;> rfl
  next => exact sound.rest todo
  next =>
    intro id cause
    rw [perform, created, List.mem_append]
    rcases cause with held | returned | stopped
    next => exact .inl (sound.created id (.inl held))
    next => exact .inr (by simpa [perform] using returned)
    next => exact .inl (sound.created id (.inr (.inr stopped)))
  next =>
    intro _ worker member live
    simpa [State.named, perform, next] using (single worker member live).1
  next => simp [perform, next, Op.Quiet]
  next =>
    intro _ worker member live
    obtain ⟨returned, phase⟩ := single worker member live
    obtain ⟨new, listed⟩ := fresh worker.id returned
    refine ⟨_, listed, rfl, ?_, by simp [phase]⟩
    have unstopped : worker.id ∉ s.stops := fun stopped => new (sound.created _ (.inr (.inr stopped)))
    exact (decide_eq_false unstopped).symm
  next =>
    intro down
    have : s.down = true := down
    simp [up] at this

theorem sound_perform (sound : Sound m s) {op : Op} {rest : List Op} (todo : s.todo = op :: rest) :
    Sound m (perform s rest op) := by
  obtain ⟨call, unload, within⟩ := sound.shape
  have next := program_next (todo ▸ within)
  cases op with
  | stop => exact sound_stop sound todo
  | join => exact sound_join sound todo
  | forget =>
    have idle (up : s.down = false) : s.Idle := sound.quiet up ⟨.forget, by simp [todo], trivial⟩
    have created (id : Nat) (cause : (perform s rest .forget).tid = some id ∨ s.answer = some id) :
        s.tid = some id ∨ s.answer = some id := .inr (cause.resolve_left (by simp [perform]))
    refine sound.move rfl rfl rfl rfl (sound.rest todo) created ?_ fun up _ => idle up
    exact fun up worker member live => absurd live (idle up worker member)
  | resetQueue =>
    have idle (up : s.down = false) : s.Idle := sound.quiet up ⟨.resetQueue, by simp [todo], trivial⟩
    refine sound.move rfl rfl rfl rfl (sound.rest todo) (fun _ cause => cause) ?_ fun up _ => idle up
    exact fun up worker member live => absurd live (idle up worker member)
  | create spawned => exact sound_create sound todo
  | store =>
    dsimp only at next
    subst next
    have created (id : Nat) (cause : s.answer = some id ∨ s.answer = some id) :
        s.tid = some id ∨ s.answer = some id := .inr (or_self_iff.mp cause)
    refine sound.move rfl rfl rfl rfl (sound.rest todo) created ?_ (by simp [perform])
    intro up worker member live
    simpa [State.named, todo, perform] using sound.named up worker member live

end Perform

/-! ## The whole machine -/

section Step

variable {m : Module} {s : State}

theorem program_head (m : Module) (call : Call) : (program m call).head? ≠ some .store := by
  cases m <;> rcases call with ⟨enabled, spawned⟩ | _
  all_goals try cases enabled
  all_goals simp [program]

theorem program_quiet {m : Module} {call : Call} (quiet : ∃ op ∈ (program m call).head?, op.Quiet) :
    m = .flex ∧ ∃ spawned, call = .configure true spawned := by
  cases m <;> rcases call with ⟨enabled, spawned⟩ | _
  all_goals try cases enabled
  all_goals simp_all [program, Op.Quiet]

theorem sound_call (sound : Sound m s) {call : Call} (proper : (Input.call call).Proper m s) :
    Sound m (step m s (.call call)) := by
  simp only [step]
  split
  next free =>
    obtain ⟨todo, unload⟩ := free
    have head := program_head m call
    refine sound.move rfl rfl rfl rfl ⟨call, unload, List.suffix_refl _⟩ (fun _ cause => cause) ?_ ?_
    next =>
      intro up worker member live
      simpa [State.named, head, todo] using sound.named up worker member live
    next =>
      intro up quiet
      obtain ⟨flex, spawned, rfl⟩ := program_quiet quiet
      exact proper flex rfl
  next => exact sound

theorem next_live {stop : Bool} {queued : Int} {p : Phase} (live : (p.next m stop queued).Live) :
    p.Live ∧ p.next m stop queued ≠ .created ∧ (p.inWrapper = true → p = .created) := by
  cases p <;> cases m <;> cases stop <;>
    simp_all [Phase.next, Phase.Live, Phase.InLoop, Phase.inWrapper]
  all_goals split at live <;> simp_all

theorem work_member {w : Nat} {worker other : Worker} (sound : Sound m s)
    (found : s.workers[w]? = some worker) (member : other ∈ (work m s w).workers) :
    other = { worker with phase := worker.phase.next m (told s) s.queued } ∨
      (other ∈ s.workers ∧ other.id ≠ worker.id) := by
  -- Nobody else has the worker's id.
  rw [work_workers found] at member
  obtain ⟨v, there⟩ := List.getElem?_of_mem member
  rw [List.getElem?_set] at there
  split at there
  next =>
    split at there
    next => exact .inl (Option.some.inj there).symm
    next => cases there
  next apart =>
    refine .inr ⟨List.mem_of_getElem? there, fun same => apart ?_⟩
    have left : (s.workers.map Worker.id)[w]? = some worker.id := by simp [found]
    have right : (s.workers.map Worker.id)[v]? = some worker.id := by simp [there, same]
    obtain ⟨bound, -⟩ := List.getElem?_eq_some_iff.mp left
    exact (List.getElem?_inj bound sound.distinct).mp (left.trans right.symm)

theorem work_ids {w : Nat} {worker : Worker} (found : s.workers[w]? = some worker) :
    (work m s w).workers.map Worker.id = s.workers.map Worker.id := by
  obtain ⟨bound, here⟩ := List.getElem?_eq_some_iff.mp found
  rw [work_workers found, List.map_set]
  have inside : w < (s.workers.map Worker.id).length := by simpa using bound
  have same : worker.id = (s.workers.map Worker.id)[w] := by simp [here]
  simp only [same, List.set_getElem_self]

theorem kept_work (sound : Sound m s) {w : Nat} {worker : Worker} (found : s.workers[w]? = some worker)
    (up : s.down = false) {other : Worker} (member : other ∈ (work m s w).workers)
    (live : other.phase.Live) : Kept (work m s w) other := by
  have threads : (work m s w).threads.table.threads =
      if worker.phase.inWrapper then
        s.threads.table.threads.map fun mt =>
          if mt.id = worker.id then { mt with progress := mt.progress.next } else mt
      else s.threads.table.threads := by
    simp only [work, found]
    split
    next => exact Threads.onThread_threads sound.issued.slots ..
    next => rfl
  have stops : (work m s w).stops = s.stops := by simp [work, found]
  rcases work_member sound found member with rfl | ⟨before, apart⟩
  next =>
    have ⟨lived, begun, wrapper⟩ := next_live live
    obtain ⟨mt, listed, same, stop, progress⟩ :=
      sound.kept up worker (List.mem_of_getElem? found) lived
    unfold Kept
    rw [threads, stops]
    simp only [begun, if_false]
    by_cases inside : worker.phase.inWrapper = true
    next =>
      refine ⟨{ mt with progress := mt.progress.next }, ?_, same, stop, ?_⟩
      next =>
        rw [if_pos inside]
        exact List.mem_map.mpr ⟨mt, listed, by simp [same]⟩
      next => simp [progress, wrapper inside, Threads.Progress.next]
    next =>
      have late : worker.phase ≠ .created := by
        intro phase
        simp [phase, Phase.inWrapper] at inside
      exact ⟨mt, by simpa [inside] using listed, same, stop, by simpa [late] using progress⟩
  next =>
    obtain ⟨mt, listed, same, stop, progress⟩ := sound.kept up other before live
    refine ⟨mt, ?_, same, by rw [stops, stop], progress⟩
    rw [threads]
    split
    next => exact List.mem_map.mpr ⟨mt, listed, by simp [same, apart]⟩
    next => exact listed

theorem sound_work (sound : Sound m s) (w : Nat) : Sound m (work m s w) := by
  cases found : s.workers[w]? with
  | none => simpa [work, found] using sound
  | some worker =>
    have member := List.mem_of_getElem? found
    have tail : (work m s w).todo = s.todo ∧ (work m s w).tid = s.tid ∧
        (work m s w).answer = s.answer ∧ (work m s w).stops = s.stops ∧
        (work m s w).down = s.down := by simp [work, found]
    obtain ⟨todo, tid, answer, stops, down⟩ := tail
    have created : (work m s w).threads.created = s.threads.created := by
      simp only [work, found]
      split <;> rfl
    have issued : Threads.Issued (work m s w).threads := by
      simp only [work, found]
      split
      next => exact Threads.step_issued s.threads (.wrapper worker.id) sound.issued
      next => exact sound.issued
    -- Who still asks did so before, under the same id.
    have earlier (other : Worker) (listed : other ∈ (work m s w).workers) (live : other.phase.Live) :
        ∃ same ∈ s.workers, same.id = other.id ∧ same.phase.Live := by
      rcases work_member sound found listed with rfl | ⟨before, -⟩
      next => exact ⟨worker, member, rfl, (next_live live).1⟩
      next => exact ⟨other, before, rfl, live⟩
    constructor
    next => exact issued
    next => rw [work_ids found, sound.workers, created]
    next => exact down ▸ todo ▸ sound.shape
    next =>
      rw [tid, answer, stops, created]
      exact sound.created
    next =>
      intro up other listed live
      obtain ⟨same, before, ids, lived⟩ := earlier other listed live
      rw [← ids, ← sound.named (down ▸ up) same before lived]
      simp only [State.named, todo, tid, answer]
    next =>
      intro up quiet other listed live
      obtain ⟨same, before, -, lived⟩ := earlier other listed live
      exact sound.quiet (down ▸ up) (todo ▸ quiet) same before lived
    next => exact fun up other listed live => kept_work sound found (down ▸ up) listed live
    next =>
      intro ended
      have ⟨empty, stopped⟩ := sound.down (down ▸ ended)
      constructor
      next =>
        simp only [work, found]
        split
        next => exact (Threads.onThread_threads sound.issued.slots ..).trans (by rw [empty]; rfl)
        next => exact empty
      next =>
        intro other listed live
        obtain ⟨same, before, ids, lived⟩ := earlier other listed live
        exact stops ▸ ids ▸ stopped same before lived

theorem sound_shutdown (sound : Sound m s) (inTime : Nat → Bool) :
    Sound m (step m s (.shutdown inTime)) := by
  simp only [step]
  split
  next todo =>
    constructor
    next => exact Threads.step_issued s.threads (.shutdown inTime) sound.issued
    next => exact sound.workers
    next => exact ⟨.unload, fun _ => rfl, todo ▸ List.nil_suffix⟩
    next =>
      intro id cause
      rcases cause with held | returned | stopped
      next => exact sound.created id (.inl held)
      next => exact sound.created id (.inr (.inl returned))
      next =>
        rcases List.mem_append.mp stopped with before | now
        next => exact sound.created id (.inr (.inr before))
        next => exact sound.issued.listed id now
    next => simp
    next => simp
    next => simp
    next =>
      intro _
      constructor
      next => exact List.map_eq_nil_iff.mp (Threads.threadsShutdown_ids s.threads.table)
      next =>
        intro worker member live
        cases before : s.down with
        | true => exact List.mem_append_left _ ((sound.down before).2 worker member live)
        | false =>
          obtain ⟨mt, listed, same, -⟩ := sound.kept before worker member live
          exact List.mem_append_right _ (List.mem_map.mpr ⟨mt, listed, same⟩)
  next => exact sound

theorem step_sound (sound : Sound m s) {i : Input} (proper : i.Proper m s) : Sound m (step m s i) := by
  cases i with
  | call call => exact sound_call sound proper
  | main =>
    simp only [step]
    split
    next => exact sound
    next todo => exact sound_perform sound todo
  | work w => exact sound_work sound w
  | enqueue =>
    exact sound.move rfl rfl rfl rfl sound.shape (fun _ cause => cause) sound.named sound.quiet
  | shutdown inTime => exact sound_shutdown sound inTime

theorem start_sound (m : Module) : Sound m start := by
  constructor
  next => exact Threads.start_issued
  next => rfl
  next => exact ⟨.unload, fun _ => rfl, List.nil_suffix⟩
  all_goals simp [start]

end Step

/-- A worker leaves its loop only after its own stop and then does not go on, in every run in which
no worker asks before its id is stored and FLEX is not configured again over a running worker. -/
theorem workers_obey (m : Module) (inputs : List Input)
    (proper : Machine.Guarded (step m) (fun s i => i.Proper m s) start inputs) :
    Machine.Guarded (step m) (Obeys m) start inputs :=
  Machine.guarded_of_invariant (step m) (P := Sound m)
    (fun _ _ sound ok => ⟨step_sound sound ok, sound_obeys sound ok⟩) (start_sound m) proper

/-- A start, a reload and an unload. -/
def reloaded : List Input :=
  [.call (.configure true true), .main, .main, .main, .main, .main, .main,
    .work 0, .work 0, .enqueue, .work 0, .work 0,
    .call (.configure true true), .main, .work 0, .work 0, .work 0, .work 0, .main, .main, .main,
    .main, .main, .work 1, .work 1,
    .call .unload, .main, .work 1, .work 1, .work 1, .work 1, .main, .main]

theorem reloaded_obeys : Machine.Guarded (step .webhook) (Obeys .webhook) start reloaded :=
  workers_obey .webhook reloaded (by decide)

/-- A worker that asks before the id is stored ends without having been stopped. -/
theorem worker_lost :
    ¬ ∀ m inputs, Machine.Guarded (step m) (Obeys m) start inputs := by
  intro always
  have asked := always .webhook
    [.call (.configure true true), .main, .main, .main, .main, .main, .work 0, .work 0]
  have ended := asked.2.2.2.2.2.2.2.1.ends 0 ⟨1, .top⟩ ⟨1, .draining⟩ (by decide) (by decide)
    (by decide) (by decide)
  exact absurd ended (by decide)

end Kerchunk.Core.Workers
