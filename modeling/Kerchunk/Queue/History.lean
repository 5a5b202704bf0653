import Kerchunk.Lib.Machine
import Kerchunk.Queue.Model

set_option autoImplicit false

/-!
# Histories of the outbound queue

A history is the queue together with what its callers have seen of it: the
items they were given an id for, the items that have left the list, and the
frames that drains have returned.
-/

namespace Kerchunk.Queue

/-- The operations that any thread may call; only the audio thread drains. -/
inductive Producer where
  | addFile (path : Option FileData) (priority : Int)
  | addBuffer (buf : List Int) (priority flags : Int)
  | addTone (freqHz durationMs : Int) (tone : Option (Nat → Int)) (priority : Int)
  | addSilence (durationMs priority : Int)
  | tagItem (id : Nat) (source : List Char)
  | flush
  | preempt

def produce (q : State) : Producer → State
  | .addFile path priority => (addFile q path priority).2
  | .addBuffer buf priority flags => (addBuffer q buf priority flags).2
  | .addTone freqHz durationMs tone priority => (addTone q freqHz durationMs tone priority).2
  | .addSilence durationMs priority => (addSilence q durationMs priority).2
  | .tagItem id source => tagItem q id source
  | .flush => (flush q).2
  | .preempt => (preempt q).2.2

inductive Op where
  | produce (request : Producer)
  | drain (maxN : Nat)

structure Departure where
  item : Item
  drained : Bool
deriving DecidableEq

/-- A frame, and the id of the item that was next in line when it was asked for. -/
structure Output where
  samples : List Int
  next : Option Nat
deriving DecidableEq

structure History where
  queue : State
  accepted : List Item
  late : List Nat
  left : List Departure
  cut : List Nat
  out : List Output
deriving DecidableEq

def start (rate : Nat) : History where
  queue := init rate
  accepted := []
  late := []
  left := []
  cut := []
  out := []

def History.accept (h : History) : Option Item → Option Nat × State → History
  -- Items accepted while a batch is playing are late: they do not preempt it.
  | some item, (some id, q) =>
      { h with
        queue := q
        accepted := h.accepted ++ [{ item with id := id }]
        late := if h.queue.batchActive || h.queue.draining then h.late ++ [id] else h.late }
  | _, (_, q) => { h with queue := q }

def nextInLine (q : State) : Option Nat :=
  q.head.head?.map Item.id

def popped (before after : State) : List Item :=
  before.head.take (before.head.length - after.head.length)

def History.drain (h : History) (maxN : Nat) : History :=
  let result := Queue.drain h.queue maxN
  { h with
    queue := result.2
    left := h.left ++ (popped h.queue result.2).map fun item => ⟨item, true⟩
    out := if result.1 = [] then h.out else h.out ++ [⟨result.1, nextInLine h.queue⟩] }

def History.clear (h : History) (q : State) : History :=
  { h with
    queue := q
    left := h.left ++ h.queue.head.map fun item => ⟨item, false⟩
    cut := if h.queue.draining then h.cut ++ [h.queue.drainItemId] else h.cut }

def History.produce (h : History) : Producer → History
  | .addFile path priority =>
      h.accept (fileItem h.queue.rate path priority) (addFile h.queue path priority)
  | .addBuffer buf priority flags =>
      h.accept (bufferItem buf priority flags) (addBuffer h.queue buf priority flags)
  | .addTone freqHz durationMs tone priority =>
      h.accept (toneItem h.queue.rate freqHz durationMs tone priority)
        (addTone h.queue freqHz durationMs tone priority)
  | .addSilence durationMs priority =>
      h.accept (silenceItem h.queue.rate durationMs priority)
        (addSilence h.queue durationMs priority)
  | .tagItem id source => { h with queue := tagItem h.queue id source }
  | .flush => h.clear (flush h.queue).2
  | .preempt => h.clear (preempt h.queue).2.2

def step (h : History) : Op → History
  | .produce request => h.produce request
  | .drain maxN => h.drain maxN

/-! ## What a history should look like -/

def Precedes (late : List Nat) (x y : Item) : Prop :=
  -- Items of the idle segment by priority, then late items in arrival order.
  (x.id ∉ late ∧ y.id ∈ late) ∨
    (x.id ∉ late ∧ y.id ∉ late ∧ StableInsert.Before Item.priority Item.id x y) ∨
    (x.id ∈ late ∧ y.id ∈ late ∧ x.id < y.id)

instance (late : List Nat) (x y : Item) : Decidable (Precedes late x y) :=
  inferInstanceAs (Decidable (_ ∨ _ ∨ _))

def InOrder (h : History) : Prop :=
  h.queue.head.Pairwise (Precedes h.late)

instance (h : History) : Decidable (InOrder h) :=
  inferInstanceAs (Decidable (List.Pairwise _ _))

def Counted (q : State) : Prop :=
  q.count = q.head.length ∧ q.head.length ≤ maxQueueDepth

/-- One frame of a play: the samples that count, out of the frame's size. -/
structure Frame where
  body : List Int
  size : Nat
  next : Option Nat

def Frame.output (f : Frame) : Output :=
  ⟨f.body ++ List.replicate (f.size - f.body.length) 0, f.next⟩

/-- One item on the air: the frames of its samples, then those of its gap. -/
structure Play where
  item : Item
  frames : List Frame
  gap : List Frame

def Play.output (p : Play) : List Output :=
  (p.frames ++ p.gap).map Frame.output

def Play.samples (p : Play) : List Int :=
  p.frames.flatMap Frame.body

def Play.gapLength (p : Play) : Nat :=
  (p.gap.map fun f => f.body.length).sum

def Departure.played (d : Departure) : Bool :=
  -- A file without data leaves the list in silence; every other drained item is played.
  d.drained && !(decide (d.item.type = .audioFile) && d.item.buf.isEmpty)

structure Play.Sound (h : History) (p : Play) : Prop where
  fits : ∀ f ∈ p.frames ++ p.gap, 0 < f.size ∧ f.body.length ≤ f.size
  fromStart : p.samples <+: p.item.buf
  whole : p.samples = p.item.buf ∨ p.item.id ∈ h.cut ∨
    h.queue.draining = true ∧ h.queue.drainItemId = p.item.id
  padded : ∀ before f after, p.frames = before ++ f :: after → f.body.length < f.size →
    after = [] ∧ p.samples = p.item.buf
  gapSilent : ∀ f ∈ p.gap, ∀ sample ∈ f.body, sample = 0
  gapAsked : p.gap ≠ [] → p.item.type = .audioFile ∧ p.samples = p.item.buf
  gapBetween : ∀ f ∈ p.gap, f.next.isSome
  gapBounded : p.gapLength ≤ gapSamples h.queue

def Item.untagged (item : Item) : Item :=
  { item with source := [] }

structure Played (h : History) (plays : List Play) : Prop where
  output : h.out = plays.flatMap Play.output
  items : plays.map Play.item = (h.left.filter Departure.played).map Departure.item
  sound : ∀ p ∈ plays, p.Sound h

structure EachOnce (h : History) : Prop where
  distinct : (h.accepted.map Item.id).Nodup
  kept : ((h.left.map Departure.item ++ h.queue.head).map Item.untagged).Perm h.accepted

def Exhausted (q : State) : Prop :=
  q.head = [] ∧ q.draining = false

end Kerchunk.Queue
