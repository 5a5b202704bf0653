import Kerchunk.Lib.Machine
import Kerchunk.Lib.Tables
import Mathlib.Data.List.Perm.Lattice

set_option autoImplicit false

/-!
# Managed threads (`src/kerchunk_threads.c`)

Each call holds the mutex while it works on the table and is one step. A join is the step at which
`pthread_join` returns. Thread ids are not bounded here.
-/

namespace Kerchunk.Core.Threads

open SlotTable (occupied)

def maxThreads : Nat := 32

/-- What has become of the thread of a slot. -/
inductive Progress where
  | created
  | running
  | exited
deriving DecidableEq

def Progress.next : Progress → Progress
  | .created => .running
  | _ => .exited

structure ManagedThread where
  id : Nat
  stopRequested : Bool
  progress : Progress
deriving DecidableEq

structure Table where
  slots : List (Option ManagedThread)
  nextId : Nat
deriving DecidableEq

def threadsInit : Table where
  slots := List.replicate maxThreads none
  nextId := 1

def Table.threads (t : Table) : List ManagedThread :=
  occupied t.slots

def Table.ids (t : Table) : List Nat :=
  t.threads.map ManagedThread.id

def Table.onThread (t : Table) (tid : Nat) (change : ManagedThread → ManagedThread) : Table :=
  -- The first active slot with the id.
  { t with slots := SlotTable.alter (fun mt => mt.id = tid) (fun mt => some (change mt)) t.slots }

def threadCreate (t : Table) (spawned : Bool) : Table × Option Nat :=
  -- `spawned` is whether `pthread_create` succeeds.
  match SlotTable.add ⟨t.nextId, false, .created⟩ t.slots with
  | none => (t, none)
  | some slots =>
    if spawned then ({ slots := slots, nextId := t.nextId + 1 }, some t.nextId)
    else ({ t with nextId := t.nextId + 1 }, none)

def threadStop (t : Table) (tid : Nat) : Table :=
  t.onThread tid fun mt => { mt with stopRequested := true }

def threadShouldStop (t : Table) (tid : Option Nat) : Bool :=
  -- `none` is a negative number, which no thread has.
  match t.threads.find? fun mt => some mt.id = tid with
  | some mt => mt.stopRequested
  | none => true

def threadWrapper (t : Table) (tid : Nat) : Table :=
  -- `thread_wrapper` before or after the thread's function
  t.onThread tid fun mt => { mt with progress := mt.progress.next }

def threadsShutdown (t : Table) : Table :=
  { t with slots := t.slots.map fun _ => none }

/-! ## The calls that are made -/

/-- `created` and `joined` are the ids that `thread_create` returned and those `pthread_join`
returned for; `refusals` says how many threads were not joined yet at each -1. -/
structure State where
  table : Table
  created : List Nat
  joined : List Nat
  refusals : List Nat
deriving DecidableEq

def start : State where
  table := threadsInit
  created := []
  joined := []
  refusals := []

def State.unjoined (s : State) : List Nat :=
  s.created.filter fun id => id ∉ s.joined

inductive Input where
  | create (spawned : Bool)
  | wrapper (tid : Nat)
  | stop (tid : Nat)
  | join (tid : Nat)
  | shutdown (inTime : Nat → Bool)

def Table.Joins (t : Table) (tid : Nat) : Prop :=
  -- `pthread_join` is called for the thread, and it has exited.
  ∃ mt ∈ t.threads, mt.id = tid ∧ mt.progress = .exited

instance (t : Table) (tid : Nat) : Decidable (t.Joins tid) :=
  List.decidableBEx _ _

def joinedAtShutdown (t : Table) (inTime : Nat → Bool) : List Nat :=
  (t.threads.filter fun mt => mt.progress = .exited || inTime mt.id).map ManagedThread.id

def step (s : State) : Input → State
  | .create spawned =>
    match threadCreate s.table spawned with
    | (table, some id) => { s with table := table, created := s.created ++ [id] }
    | (table, none) => { s with table := table, refusals := s.refusals ++ [s.unjoined.length] }
  | .wrapper tid => { s with table := threadWrapper s.table tid }
  | .stop tid => { s with table := threadStop s.table tid }
  | .join tid => if s.table.Joins tid then { s with joined := s.joined ++ [tid] } else s
  | .shutdown inTime =>
    { s with
      table := threadsShutdown s.table
      joined := s.joined ++ joinedAtShutdown s.table inTime }

/-- What the table is for. -/
structure Accounts (s : State) : Prop where
  occupied : ∀ id, id ∈ s.table.ids ↔ id ∈ s.created ∧ id ∉ s.joined
  refusals : ∀ n ∈ s.refusals, n = maxThreads
  once : s.joined.Nodup
  distinct : s.table.ids.Nodup

def Input.Proper (s : State) : Input → Prop
  -- The calls after which the table still tells which threads are to be joined.
  | .create spawned => spawned = true ∨ s.table.threads.length = maxThreads
  | .join tid => ¬ s.table.Joins tid
  | .shutdown inTime => ∀ mt ∈ s.table.threads, mt.progress = .exited ∨ inTime mt.id = true
  | _ => True

structure Issued (s : State) : Prop where
  places : s.table.slots.length = maxThreads
  fresh : ∀ id ∈ s.created, id < s.table.nextId
  apart : s.created.Nodup
  listed : ∀ id ∈ s.table.ids, id ∈ s.created
  slots : s.table.ids.Nodup
  known : ∀ id ∈ s.joined, id ∈ s.created

/-! ## What a call does -/

@[simp] theorem onThread_places (t : Table) (tid : Nat) (change : ManagedThread → ManagedThread) :
    (t.onThread tid change).slots.length = t.slots.length :=
  SlotTable.alter_length ..

theorem onThread_ids (t : Table) (tid : Nat) {change : ManagedThread → ManagedThread}
    (kept : ∀ mt, (change mt).id = mt.id) : (t.onThread tid change).ids = t.ids :=
  SlotTable.keys_alter change kept t.slots

@[simp] theorem threadStop_ids (t : Table) (tid : Nat) : (threadStop t tid).ids = t.ids :=
  onThread_ids t tid fun _ => rfl

@[simp] theorem threadWrapper_ids (t : Table) (tid : Nat) : (threadWrapper t tid).ids = t.ids :=
  onThread_ids t tid fun _ => rfl

@[simp] theorem threadsShutdown_ids (t : Table) : (threadsShutdown t).ids = [] := by
  simp [threadsShutdown, Table.ids, Table.threads]

theorem onThread_threads {t : Table} (distinct : t.ids.Nodup) (tid : Nat)
    (change : ManagedThread → ManagedThread) :
    (t.onThread tid change).threads =
      t.threads.map fun mt => if mt.id = tid then change mt else mt := by
  have here (mt : ManagedThread) : decide (mt.id = tid) = true ↔ mt.id = tid := decide_eq_true_iff
  rw [← List.filterMap_eq_map]
  refine (SlotTable.occupied_alter _ here distinct).trans (List.filterMap_congr fun mt _ => ?_)
  by_cases same : mt.id = tid <;> simp [same]

theorem shouldStop_of_mem {t : Table} (distinct : t.ids.Nodup) {mt : ManagedThread}
    (member : mt ∈ t.threads) : threadShouldStop t (some mt.id) = mt.stopRequested := by
  unfold threadShouldStop
  cases found : t.threads.find? fun other => some other.id = some mt.id with
  | none => simpa using List.find?_eq_none.mp found mt member
  | some other =>
    have same : other.id = mt.id := by simpa using List.find?_some found
    rw [List.inj_on_of_nodup_map distinct (List.mem_of_find?_eq_some found) member same]

theorem shouldStop_empty {t : Table} (empty : t.threads = []) (tid : Option Nat) :
    threadShouldStop t tid = true := by
  simp [threadShouldStop, empty]

/-- What `thread_create` does: it refuses, with the table full or no thread made, or adds one. -/
theorem threadCreate_cases (t : Table) (spawned : Bool) :
    (t.threads.length = t.slots.length ∧ threadCreate t spawned = (t, none)) ∨
    (t.threads.length < t.slots.length ∧ spawned = false ∧
      threadCreate t spawned = ({ t with nextId := t.nextId + 1 }, none)) ∨
    (t.threads.length < t.slots.length ∧ spawned = true ∧ ∃ slots,
      SlotTable.add ⟨t.nextId, false, .created⟩ t.slots = some slots ∧
      threadCreate t spawned = (⟨slots, t.nextId + 1⟩, some t.nextId)) := by
  have bound : t.threads.length ≤ t.slots.length := SlotTable.occupied_length_le t.slots
  have full : SlotTable.add ⟨t.nextId, false, .created⟩ t.slots = none ↔
      t.threads.length = t.slots.length := SlotTable.add_full
  cases added : SlotTable.add ⟨t.nextId, false, .created⟩ t.slots with
  | none => exact .inl ⟨full.mp added, by simp [threadCreate, added]⟩
  | some slots =>
    have room : t.threads.length < t.slots.length := by
      refine Nat.lt_of_le_of_ne bound fun same => ?_
      rw [full.mpr same] at added
      cases added
    cases spawned with
    | false => exact .inr (.inl ⟨room, rfl, by simp [threadCreate, added]⟩)
    | true => exact .inr (.inr ⟨room, rfl, slots, rfl, by simp [threadCreate, added]⟩)

theorem ids_length (t : Table) : t.ids.length = t.threads.length :=
  List.length_map ..

theorem Accounts.unjoined_length {s : State} (accounts : Accounts s) (issued : Issued s) :
    s.unjoined.length = s.table.threads.length := by
  rw [← ids_length]
  refine List.Perm.length_eq ((List.perm_ext_iff_of_nodup (issued.apart.filter _)
    accounts.distinct).mpr fun id => ?_)
  rw [accounts.occupied id]
  simp

theorem joins_listed {t : Table} {tid : Nat} (joins : t.Joins tid) : tid ∈ t.ids := by
  obtain ⟨mt, member, rfl, -⟩ := joins
  exact List.mem_map_of_mem member

theorem joinedAtShutdown_listed {t : Table} {inTime : Nat → Bool} {id : Nat}
    (joined : id ∈ joinedAtShutdown t inTime) : id ∈ t.ids :=
  List.map_subset _ (List.filter_subset_self _) joined

theorem Issued.unseen {s : State} (issued : Issued s) : s.table.nextId ∉ s.created :=
  fun made => Nat.lt_irrefl _ (issued.fresh _ made)

theorem Issued.create {s : State} (issued : Issued s) {slots : List (Option ManagedThread)}
    (added : SlotTable.add ⟨s.table.nextId, false, .created⟩ s.table.slots = some slots) :
    Issued { s with
      table := ⟨slots, s.table.nextId + 1⟩
      created := s.created ++ [s.table.nextId] } := by
  have perm : (Table.ids ⟨slots, s.table.nextId + 1⟩).Perm (s.table.nextId :: s.table.ids) :=
    (SlotTable.add_perm added).map ManagedThread.id
  constructor
  next => exact (SlotTable.add_length added).trans issued.places
  next =>
    intro id made
    rcases List.mem_append.mp made with before | now
    next => exact Nat.lt_succ_of_lt (issued.fresh id before)
    next => exact Nat.lt_succ_of_le (Nat.le_of_eq (List.mem_singleton.mp now))
  next =>
    exact List.nodup_append_comm.mp (List.nodup_cons.mpr ⟨issued.unseen, issued.apart⟩)
  next =>
    intro id listed
    rcases List.mem_cons.mp (perm.mem_iff.mp listed) with rfl | before
    next => simp
    next => exact List.mem_append_left _ (issued.listed id before)
  next =>
    refine perm.nodup_iff.mpr (List.nodup_cons.mpr ⟨?_, issued.slots⟩)
    exact fun listed => issued.unseen (issued.listed _ listed)
  next => exact fun id joined => List.mem_append_left _ (issued.known id joined)

theorem Issued.same {s t : State} (issued : Issued s)
    (places : t.table.slots.length = s.table.slots.length) (nextId : s.table.nextId ≤ t.table.nextId)
    (created : t.created = s.created) (ids : t.table.ids.Sublist s.table.ids)
    (joined : ∀ id ∈ t.joined, id ∈ s.joined ∨ id ∈ s.table.ids) : Issued t := by
  constructor
  next => exact places.trans issued.places
  next =>
    intro id made
    exact Nat.lt_of_lt_of_le (issued.fresh id (created ▸ made)) nextId
  next => exact created ▸ issued.apart
  next =>
    intro id listed
    exact created ▸ issued.listed id (ids.subset listed)
  next => exact issued.slots.sublist ids
  next =>
    intro id seen
    rw [created]
    rcases joined id seen with before | now
    next => exact issued.known id before
    next => exact issued.listed id now

theorem step_issued (s : State) (i : Input) (issued : Issued s) : Issued (step s i) := by
  cases i with
  | create spawned =>
    rcases threadCreate_cases s.table spawned with
      ⟨-, answer⟩ | ⟨-, -, answer⟩ | ⟨-, -, slots, added, answer⟩
    next =>
      simp only [step, answer]
      exact issued.same rfl (Nat.le_refl _) rfl (List.Sublist.refl _) fun _ joined => .inl joined
    next =>
      simp only [step, answer]
      exact issued.same rfl (Nat.le_succ _) rfl (List.Sublist.refl _) fun _ joined => .inl joined
    next =>
      simp only [step, answer]
      exact issued.create added
  | wrapper tid =>
    exact issued.same (onThread_places ..) (Nat.le_refl _) rfl (by simp [step])
      fun _ joined => .inl joined
  | stop tid =>
    exact issued.same (onThread_places ..) (Nat.le_refl _) rfl (by simp [step])
      fun _ joined => .inl joined
  | join tid =>
    simp only [step]
    split
    next joins =>
      refine issued.same rfl (Nat.le_refl _) rfl (List.Sublist.refl _) fun id joined => ?_
      rcases List.mem_append.mp joined with before | now
      next => exact .inl before
      next => exact .inr (List.mem_singleton.mp now ▸ joins_listed joins)
    next => exact issued
  | shutdown inTime =>
    refine issued.same (by simp [step, threadsShutdown]) (Nat.le_refl _) rfl (by simp [step])
      fun id joined => ?_
    rcases List.mem_append.mp joined with before | now
    next => exact .inl before
    next => exact .inr (joinedAtShutdown_listed now)

theorem accounts_congr {s t : State} (ids : t.table.ids = s.table.ids) (created : t.created = s.created)
    (joined : t.joined = s.joined) (refusals : t.refusals = s.refusals) :
    Accounts t ↔ Accounts s := by
  constructor
  next =>
    intro accounts
    exact ⟨by rw [← ids, ← created, ← joined]; exact accounts.occupied,
      refusals ▸ accounts.refusals, joined ▸ accounts.once, ids ▸ accounts.distinct⟩
  next =>
    intro accounts
    exact ⟨by rw [ids, created, joined]; exact accounts.occupied,
      refusals ▸ accounts.refusals, joined ▸ accounts.once, ids ▸ accounts.distinct⟩

theorem accounts_refuse {s : State} (accounts : Accounts s) (issued : Issued s) (nextId : Nat) :
    Accounts { s with
      table := { s.table with nextId := nextId }
      refusals := s.refusals ++ [s.unjoined.length] } ↔ s.table.threads.length = maxThreads := by
  constructor
  next =>
    intro after
    rw [← accounts.unjoined_length issued]
    exact after.refusals _ (by simp)
  next =>
    intro full
    refine ⟨accounts.occupied, ?_, accounts.once, accounts.distinct⟩
    intro n refused
    rcases List.mem_append.mp refused with before | now
    next => exact accounts.refusals n before
    next => rw [List.mem_singleton.mp now, accounts.unjoined_length issued, full]

theorem accounts_add {s : State} (accounts : Accounts s) (issued : Issued s)
    {slots : List (Option ManagedThread)}
    (added : SlotTable.add ⟨s.table.nextId, false, .created⟩ s.table.slots = some slots) :
    Accounts { s with
      table := ⟨slots, s.table.nextId + 1⟩
      created := s.created ++ [s.table.nextId] } := by
  have perm : (Table.ids ⟨slots, s.table.nextId + 1⟩).Perm (s.table.nextId :: s.table.ids) :=
    (SlotTable.add_perm added).map ManagedThread.id
  constructor
  next =>
    intro id
    have unjoined : s.table.nextId ∉ s.joined := fun joined => issued.unseen (issued.known _ joined)
    simp only [perm.mem_iff, List.mem_cons, accounts.occupied id, List.mem_append,
      List.not_mem_nil, or_false]
    constructor
    next =>
      rintro (rfl | ⟨made, left⟩)
      next => exact ⟨.inr rfl, unjoined⟩
      next => exact ⟨.inl made, left⟩
    next =>
      rintro ⟨made | rfl, left⟩
      next => exact .inr ⟨made, left⟩
      next => exact .inl rfl
  next => exact accounts.refusals
  next => exact accounts.once
  next => exact (issued.create added).slots

theorem accounts_shutdown {s : State} (accounts : Accounts s) (inTime : Nat → Bool) :
    Accounts (step s (.shutdown inTime)) ↔
      ∀ mt ∈ s.table.threads, mt.progress = .exited ∨ inTime mt.id = true := by
  have joinedNow (mt : ManagedThread) (member : mt ∈ s.table.threads) :
      mt.id ∈ joinedAtShutdown s.table inTime ↔ mt.progress = .exited ∨ inTime mt.id = true := by
    simp only [joinedAtShutdown, List.mem_map, List.mem_filter, Bool.or_eq_true, decide_eq_true_eq]
    constructor
    next =>
      rintro ⟨other, ⟨listed, left⟩, same⟩
      have := List.inj_on_of_nodup_map accounts.distinct listed member same
      exact this ▸ left
    next => exact fun left => ⟨mt, ⟨member, left⟩, rfl⟩
  constructor
  next =>
    intro after mt member
    -- Its slot is free now, so it must have been joined.
    have listed : mt.id ∈ s.table.ids := List.mem_map_of_mem member
    have before := (accounts.occupied mt.id).mp listed
    by_contra late
    have gone : mt.id ∉ (step s (.shutdown inTime)).joined := by
      intro joined
      rcases List.mem_append.mp joined with early | now
      next => exact before.2 early
      next => exact late ((joinedNow mt member).mp now)
    have occupied := (after.occupied mt.id).mpr ⟨before.1, gone⟩
    simp [step] at occupied
  next =>
    intro exits
    constructor
    next =>
      intro id
      simp only [step, threadsShutdown_ids, List.not_mem_nil, List.mem_append, not_or, false_iff,
        not_and]
      intro made unjoined still
      obtain ⟨mt, member, rfl⟩ := List.mem_map.mp ((accounts.occupied id).mpr ⟨made, unjoined⟩)
      exact still ((joinedNow mt member).mpr (exits mt member))
    next => exact accounts.refusals
    next =>
      refine List.nodup_append.mpr ⟨accounts.once, ?_, ?_⟩
      next => exact List.Nodup.sublist (List.filter_sublist.map _) accounts.distinct
      next =>
        rintro id early other now rfl
        exact ((accounts.occupied id).mp (joinedAtShutdown_listed now)).2 early
    next => simp [step]

/-- The table keeps telling which threads are to be joined if and only if the call is proper. -/
theorem step_accounts {s : State} (accounts : Accounts s) (issued : Issued s) (i : Input) :
    Accounts (step s i) ↔ i.Proper s := by
  cases i with
  | create spawned =>
    rcases threadCreate_cases s.table spawned with
      ⟨full, answer⟩ | ⟨room, rfl, answer⟩ | ⟨room, rfl, slots, added, answer⟩
    next =>
      rw [issued.places] at full
      simpa only [step, answer, Input.Proper, full, or_true, iff_true] using
        (accounts_refuse accounts issued s.table.nextId).mpr full
    next =>
      simpa only [step, answer, Input.Proper, Bool.false_eq_true, false_or] using
        accounts_refuse accounts issued (s.table.nextId + 1)
    next =>
      simpa only [step, answer, Input.Proper, true_or, iff_true] using
        accounts_add accounts issued added
  | wrapper tid =>
    have same : (step s (.wrapper tid)).table.ids = s.table.ids := threadWrapper_ids s.table tid
    exact iff_of_true ((accounts_congr same rfl rfl rfl).mpr accounts) trivial
  | stop tid =>
    have same : (step s (.stop tid)).table.ids = s.table.ids := threadStop_ids s.table tid
    exact iff_of_true ((accounts_congr same rfl rfl rfl).mpr accounts) trivial
  | join tid =>
    simp only [step, Input.Proper]
    split
    next joins =>
      simp only [joins, not_true_eq_false, iff_false]
      intro after
      exact ((after.occupied tid).mp (joins_listed joins)).2 (by simp)
    next idle => simp [idle, accounts]
  | shutdown inTime => exact accounts_shutdown accounts inTime

theorem start_issued : Issued start := by
  constructor <;> simp [start, threadsInit, Table.ids, Table.threads]

theorem start_accounts : Accounts start := by
  constructor <;> simp [start, threadsInit, Table.ids, Table.threads]

/-- A run leaves every table in order if and only if no thread is joined before the shutdown, every
thread that finds a free slot is made, and every thread exits in time at the shutdown. -/
theorem table_accounts (inputs : List Input) :
    Machine.Guarded step (fun s i => Accounts (step s i)) start inputs ↔
      Machine.Guarded step (fun s i => i.Proper s) start inputs :=
  Machine.guarded_iff_of_invariant step (P := fun s => Accounts s ∧ Issued s)
    (fun _ i sound => step_accounts sound.1 sound.2 i)
    (fun s i sound proper => ⟨(step_accounts sound.1 sound.2 i).mpr proper, step_issued s i sound.2⟩)
    ⟨start_accounts, start_issued⟩

/-- The slot of a thread that was stopped and joined stays taken. -/
theorem joined_stays :
    ¬ ∀ inputs, Machine.Guarded step (fun s i => Accounts (step s i)) start inputs := by
  intro always
  have joined := (always [.create true, .wrapper 1, .stop 1, .wrapper 1, .join 1]).2.2.2.2.1
  exact ((joined.occupied 1).mp (by decide)).2 (by decide)

end Kerchunk.Core.Threads
