import Kerchunk.Lib.StableInsert
import Mathlib.Algebra.GroupWithZero.Nat
import Mathlib.Algebra.Ring.Int.Defs
import Mathlib.Data.Int.Order.Basic

set_option autoImplicit false

/-!
# The outbound queue of `kerchunk_queue.c`

Every function below runs under `g_mutex` in the source, so it is one step.
File reading, resampling and tone generation happen before the lock is taken
and enter as the data they produced.
-/

namespace Kerchunk.Queue

def maxQueueDepth : Nat := 256

def queueSourceMax : Nat := 16

def gapMs : Nat := 10

inductive ItemType where
  | audioFile
  | audioBuffer
  | tone
  | silence
deriving DecidableEq

structure Item where
  type : ItemType
  priority : Int
  id : Nat
  flags : Int
  source : List Char
  buf : List Int
deriving DecidableEq

def Item.blank (item : Item) : Prop :=
  -- An empty file: the loader drops it without playing anything.
  item.type = .audioFile ∧ item.buf = []

instance (item : Item) : Decidable item.blank :=
  inferInstanceAs (Decidable (_ ∧ _))

structure State where
  rate : Nat
  head : List Item
  nextId : Nat
  count : Int
  drainBuf : List Int
  drainLen : Nat
  drainPos : Nat
  draining : Bool
  drainItemId : Nat
  drainType : ItemType
  drainFlags : Int
  lastDrainFlags : Int
  drainSource : List Char
  batchActive : Bool
  gapRemaining : Nat
deriving DecidableEq

def init (rate : Nat) : State where
  rate := rate
  head := []
  nextId := 1
  count := 0
  drainBuf := []
  drainLen := 0
  drainPos := 0
  draining := false
  drainItemId := 0
  drainType := .audioFile
  drainFlags := 0
  lastDrainFlags := 0
  drainSource := []
  batchActive := false
  gapRemaining := 0

def gapSamples (q : State) : Nat :=
  q.rate * gapMs / 1000

def copySource (source : List Char) : List Char :=
  -- `snprintf` into a source tag keeps all but the terminating NUL's place.
  source.take (queueSourceMax - 1)

/-! ## Adding -/

def skipHigher (item : Item) : List Item → List Item
  | [] => [item]
  | next :: rest =>
      if next.priority ≥ item.priority then next :: skipHigher item rest else item :: next :: rest

def insertByPriority (item : Item) : List Item → List Item
  | [] => [item]
  | head :: rest =>
      if item.priority > head.priority then item :: head :: rest
      else head :: skipHigher item rest

def insertItem (q : State) (item : Item) : Option State :=
  if q.count ≥ maxQueueDepth then none
  else
    let head :=
      if q.batchActive || q.draining || decide (q.gapRemaining > 0) then q.head ++ [item]
      else insertByPriority item q.head
    some { q with head := head, count := q.count + 1 }

def addItem (q : State) (item : Item) : Option Nat × State :=
  -- The tail shared by the adders: take the next id, insert, report the id or fail.
  let numbered := { item with id := q.nextId }
  match insertItem { q with nextId := q.nextId + 1 } numbered with
  | some q' => (some q.nextId, q')
  | none => (none, { q with nextId := q.nextId + 1 })

/-- What `kerchunk_wav_read`, `kerchunk_pcm_read` and `kerchunk_resample` gave for a path. -/
structure FileData where
  wav : Option (List Int × Nat)
  pcm : Option (List Int)
  resampled : Option (List Int)
deriving DecidableEq

def readAudioFile (rate : Nat) (file : FileData) : Option (List Int) :=
  match file.wav with
  | some (buf, fileRate) =>
      if fileRate ≠ 0 ∧ fileRate ≠ rate then some (file.resampled.getD buf) else some buf
  | none => file.pcm

/-! The items that the adders build before they take the lock, without an id yet. -/

def fileItem (rate : Nat) (path : Option FileData) (priority : Int) : Option Item :=
  (path.bind (readAudioFile rate)).map fun buf => ⟨.audioFile, priority, 0, 0, [], buf⟩

def bufferItem (buf : List Int) (priority flags : Int) : Option Item :=
  if buf.length = 0 then none else some ⟨.audioBuffer, priority, 0, flags, [], buf⟩

def toneItem (rate : Nat) (freqHz durationMs : Int) (tone : Option (Nat → Int)) (priority : Int) :
    Option Item :=
  -- `tone` is the waveform of the tone encoder, `none` when it could not be created.
  if freqHz ≤ 0 ∨ durationMs ≤ 0 ∨ durationMs > 300000 then none
  else
    let n := rate * durationMs.toNat / 1000
    some ⟨.audioBuffer, priority, 0, 0, [], (List.range n).map (tone.getD fun _ => 0)⟩

def silenceItem (rate : Nat) (durationMs priority : Int) : Option Item :=
  if durationMs ≤ 0 ∨ durationMs > 300000 then none
  else
    let n := rate * durationMs.toNat / 1000
    some ⟨.audioBuffer, priority, 0, 0, [], List.replicate n 0⟩

def addBuilt (q : State) : Option Item → Option Nat × State
  | none => (none, q)
  | some item => addItem q item

def addFile (q : State) (path : Option FileData) (priority : Int) : Option Nat × State :=
  addBuilt q (fileItem q.rate path priority)

def addBuffer (q : State) (buf : List Int) (priority flags : Int) : Option Nat × State :=
  addBuilt q (bufferItem buf priority flags)

def addTone (q : State) (freqHz durationMs : Int) (tone : Option (Nat → Int)) (priority : Int) :
    Option Nat × State :=
  addBuilt q (toneItem q.rate freqHz durationMs tone priority)

def addSilence (q : State) (durationMs priority : Int) : Option Nat × State :=
  addBuilt q (silenceItem q.rate durationMs priority)

def tagFirst (id : Nat) (source : List Char) : List Item → List Item
  | [] => []
  | it :: rest =>
      if it.id = id then { it with source := copySource source } :: rest
      else it :: tagFirst id source rest

-- The *_src adders are an adder followed by this, under a second lock.
def tagItem (q : State) (id : Nat) (source : List Char) : State :=
  { q with head := tagFirst id source q.head }

/-! ## Removing -/

def resetDrain (q : State) : State :=
  { q with drainBuf := [], drainLen := 0, drainPos := 0, draining := false }

def flush (q : State) : Nat × State :=
  -- Number of items flushed, and the queue. A pending gap is left as it is.
  (q.head.length, { resetDrain q with head := [], count := 0, batchActive := false })

def preemptSource (q : State) : List Char :=
  if q.draining && !q.drainSource.isEmpty then q.drainSource
  else
    match q.head with
    | it :: _ => it.source
    | [] => []

def preempt (q : State) : List Char × Nat × State :=
  let flushed := q.head.length + if q.draining then 1 else 0
  let stopped := if q.draining then resetDrain q else q
  (preemptSource q, flushed,
    { stopped with head := [], count := 0, batchActive := false, gapRemaining := 0 })

/-! ## Draining -/

def startDrain (q : State) (item : Item) : State :=
  { q with
    drainItemId := item.id
    drainType := item.type
    drainFlags := item.flags
    lastDrainFlags := item.flags
    drainSource := copySource item.source
    draining := true
    batchActive := true }

def popHead (q : State) (rest : List Item) : State :=
  { q with head := rest, count := q.count - 1, drainBuf := [], drainLen := 0, drainPos := 0 }

def loadFrom (q : State) : List Item → Bool × State
  | [] => (false, { q with batchActive := false })
  | item :: rest =>
      let popped := popHead q rest
      match item.type with
      | .audioFile =>
          if item.buf.length > 0 then
            (true, startDrain { popped with drainBuf := item.buf, drainLen := item.buf.length } item)
          else loadFrom popped rest
      | .audioBuffer =>
          (true, startDrain { popped with drainBuf := item.buf, drainLen := item.buf.length } item)
      -- No adder builds these two types, and the source gives them no buffer.
      | .tone | .silence => (true, startDrain popped item)

def loadNextItem (q : State) : Bool × State :=
  loadFrom q q.head

def ensureLoaded (q : State) : Bool × State :=
  if !q.draining || decide (q.drainPos ≥ q.drainLen) then loadNextItem { q with draining := false }
  else (true, q)

def drainBody (q : State) (maxN : Nat) : List Int :=
  (q.drainBuf.drop q.drainPos).take (min (q.drainLen - q.drainPos) maxN)

def drainAdvance (q : State) (maxN : Nat) : State :=
  let pos := q.drainPos + min (q.drainLen - q.drainPos) maxN
  if pos ≥ q.drainLen then
    { q with
      drainPos := pos
      draining := false
      drainBuf := []
      gapRemaining :=
        if q.head ≠ [] ∧ q.drainType = .audioFile then gapSamples q else q.gapRemaining }
  else { q with drainPos := pos }

def drain (q : State) (maxN : Nat) : List Int × State :=
  -- The samples written to `out` (none when the source returns 0), and the queue.
  if maxN = 0 then ([], q)
  else if q.gapRemaining > 0 then
    let gapN := min q.gapRemaining maxN
    (List.replicate gapN 0 ++ List.replicate (maxN - gapN) 0,
      { q with gapRemaining := q.gapRemaining - gapN })
  else
    match ensureLoaded q with
    | (false, q') => ([], q')
    | (true, q') =>
        (drainBody q' maxN ++ List.replicate (maxN - min (q'.drainLen - q'.drainPos) maxN) 0,
          drainAdvance q' maxN)

def isDraining (q : State) : Bool := q.draining

def depth (q : State) : Int := q.count

/-! ## Facts about the adders and the loader -/

theorem skipHigher_eq (item : Item) (items : List Item) :
    skipHigher item items = StableInsert.insert Item.priority item items := by
  induction items with
  | nil => rfl
  | cons next rest ih =>
      by_cases higher : next.priority ≥ item.priority
      · simp [skipHigher, StableInsert.insert, not_lt_of_ge higher, higher, ih]
      · simp [skipHigher, StableInsert.insert, higher, lt_of_not_ge higher]

theorem insertByPriority_eq (item : Item) (items : List Item) :
    insertByPriority item items = StableInsert.insert Item.priority item items := by
  cases items with
  | nil => rfl
  | cons head rest => simp [insertByPriority, StableInsert.insert, skipHigher_eq]

def Idle (q : State) : Prop :=
  -- The queue is between transmissions: the next item is placed by priority.
  q.batchActive = false ∧ q.draining = false ∧ q.gapRemaining = 0

instance (q : State) : Decidable (Idle q) := inferInstanceAs (Decidable (_ ∧ _))

def place (q : State) (item : Item) : List Item :=
  if Idle q then StableInsert.insert Item.priority item q.head else q.head ++ [item]

theorem place_perm (q : State) (item : Item) : (place q item).Perm (item :: q.head) := by
  unfold place
  split_ifs
  · exact StableInsert.insert_perm _ _ _
  · exact List.perm_append_comm

theorem mem_place {q : State} {item other : Item} :
    other ∈ place q item ↔ other = item ∨ other ∈ q.head := by
  rw [(place_perm q item).mem_iff, List.mem_cons]

/-- What an adder does: it numbers the item, and places it unless the queue is full. -/
theorem addItem_eq (q : State) (item : Item) :
    addItem q item =
      if q.count ≥ maxQueueDepth then (none, { q with nextId := q.nextId + 1 })
      else
        (some q.nextId,
          { q with
            nextId := q.nextId + 1
            head := place q { item with id := q.nextId }
            count := q.count + 1 }) := by
  unfold addItem insertItem place Idle
  by_cases full : q.count ≥ maxQueueDepth
  · simp [full]
  · simp only [full, if_false]
    by_cases batch : q.batchActive <;> by_cases draining : q.draining <;>
      by_cases gap : q.gapRemaining > 0 <;>
      simp_all [insertByPriority_eq, Nat.pos_iff_ne_zero]

end Kerchunk.Queue
