import Kerchunk.AudioTick.Transmission
import Kerchunk.Queue.History

set_option autoImplicit false

/-!
# The TX part of the audio thread in `main.c`, with the queue it drains

The queue's mutex makes each of its functions one step, so another thread (or
an event subscriber) can enqueue, flush or preempt between any two of them:
between the two reads of the queue, and between two actions of a pass.
-/

namespace Kerchunk.Shell

open AudioTick (AudioState Action Call audioTickTx)

def maxTxPasses : Nat := 3

/-- Where the audio thread is in its pass over the TX sub-tick. -/
inductive Pc where
  | sampling (txPass : Nat)
  | depthRead (txPass : Nat) (queueDepth : Int)
  | acting (txPass : Nat) (actions : List Action) (rerun : Bool)
deriving DecidableEq

def Pc.completes : Pc → Bool
  -- The audio thread is about to fire QUEUE_COMPLETE.
  | .acting _ (.fireComplete _ :: _) _ => true
  | _ => false

/-- `popped` and `drains` record what the thread has taken from the queue. -/
structure System where
  queue : Queue.State
  audio : AudioState
  pc : Pc
  popped : List Queue.Item
  drains : Nat
deriving DecidableEq

def start (rate : Nat) : System where
  queue := Queue.init rate
  audio := AudioState.init
  pc := .sampling 0
  popped := []
  drains := 0

inductive Event where
  | produce (request : Queue.Producer)
  | readDepth
  | tick (c : Call)
  | act

def nextPass (txPass : Nat) (rerun : Bool) : Pc :=
  if rerun && decide (txPass + 1 < maxTxPasses) then .sampling (txPass + 1) else .sampling 0

def pullFrame (s : System) (samples : Int) : System :=
  let queue := (Queue.drain s.queue samples.toNat).2
  { s with
    queue := queue
    popped := s.popped ++ Queue.popped s.queue queue
    drains := s.drains + 1 }

def callTick (s : System) (c : Call) (txPass : Nat) (queueDepth : Int) : System :=
  let inp :=
    { c.inp with queueDepth := queueDepth, queueIsDraining := Queue.isDraining s.queue }
  let out := audioTickTx (c.prepare s.audio) inp c.sampleRate c.frameSamples
  { s with audio := out.state, pc := .acting txPass out.actions out.rerunThisTick }

def act (s : System) : System :=
  -- PTT requests, events, silence and taps go to components that the queue does not see.
  match s.pc with
  | .acting txPass (.drain samples :: rest) rerun =>
      { pullFrame s samples with pc := .acting txPass rest rerun }
  | .acting txPass (_ :: rest) rerun => { s with pc := .acting txPass rest rerun }
  | .acting txPass [] rerun => { s with pc := nextPass txPass rerun }
  | _ => s

def step (s : System) : Event → System
  | .produce request => { s with queue := Queue.produce s.queue request }
  | .readDepth =>
      match s.pc with
      | .sampling txPass => { s with pc := .depthRead txPass (Queue.depth s.queue) }
      | _ => s
  | .tick c =>
      match s.pc with
      | .depthRead txPass queueDepth => callTick s c txPass queueDepth
      | _ => s
  | .act => act s

def Quiet (s : System) : Prop :=
  -- Nothing is playing and the queue has released PTT.
  s.queue.head = [] ∧ s.queue.draining = false ∧ s.audio.queuePtt = false

instance (s : System) : Decidable (Quiet s) :=
  inferInstanceAs (Decidable (_ ∧ _))

def Event.removes : Event → Bool
  | .produce .flush | .produce .preempt => true
  | _ => false

def InPriorityOrder (items : List Queue.Item) : Prop :=
  items.Pairwise (StableInsert.Before Queue.Item.priority Queue.Item.id)

instance (items : List Queue.Item) : Decidable (InPriorityOrder items) :=
  inferInstanceAs (Decidable (List.Pairwise _ _))

def openingFrame (item : Queue.Item) (maxN : Nat) : List Int :=
  -- The frame that a drain of `maxN` samples returns when it starts `item`.
  item.buf.take maxN ++ List.replicate (maxN - item.buf.length) 0

/-- From here on, items added before the next playback wait in priority order; it opens with the
audio of the first of them, and plays all of them in that order before anything added later. -/
structure Restored (s : System) : Prop where
  ordered : ∀ adds, (∀ e ∈ adds, e.removes = false) →
    (Machine.run step s adds).drains = s.drains →
    InPriorityOrder (Machine.run step s adds).queue.head
  prompt : ∀ adds, (∀ e ∈ adds, e.removes = false) →
    (Machine.run step s adds).drains = s.drains →
    ∀ maxN skipped item rest, 0 < maxN →
      (Machine.run step s adds).queue.head = skipped ++ item :: rest →
      (∀ other ∈ skipped, Queue.Item.blank other) → ¬ Queue.Item.blank item →
      (Queue.drain (Machine.run step s adds).queue maxN).1 = openingFrame item maxN
  played : ∀ adds first later, (∀ e ∈ adds ++ first :: later, e.removes = false) →
    (Machine.run step s adds).drains = s.drains →
    (Machine.run step s (adds ++ [first])).drains = s.drains + 1 →
    (Machine.run step s adds).queue.head.map Queue.Item.id <+:
      (((Machine.run step s (adds ++ first :: later)).popped.drop s.popped.length) ++
        (Machine.run step s (adds ++ first :: later)).queue.head).map Queue.Item.id

end Kerchunk.Shell
