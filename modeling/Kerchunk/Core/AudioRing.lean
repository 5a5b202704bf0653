import Kerchunk.Lib.CircularWindow
import Kerchunk.Lib.Machine
import Kerchunk.Lib.BoundedFifo
import Mathlib.Algebra.GroupWithZero.Nat

set_option autoImplicit false

/-!
# The shared audio ring (`src/kerchunk_audio_ring.c`)

The ring between the PortAudio callback and the audio thread. `Step` splits a write and a read into
their accesses, so a run of `step` is one interleaving of the two sides. Each side has its own index
as it is, and of the other's an older value perhaps.
-/

namespace Kerchunk.Core.AudioRing

open CircularWindow

/-- `KERCHUNK_AUDIO_RING_SIZE` -/
def ringSize : Nat := 262144

/-- `KERCHUNK_AUDIO_RING_MASK` -/
def ringMask : Nat := ringSize - 1

structure Ring where
  buf : Nat → Int
  head : Nat
  tail : Nat

def initRing : Ring :=
  ⟨fun _ => 0, 0, 0⟩

-- The indices are size_t, so the difference wraps at 2^64 before the mask.
def readable (head tail : Nat) : Nat :=
  (head + 2 ^ 64 - tail) % 2 ^ 64 &&& ringMask

def writable (head tail : Nat) : Nat :=
  ringSize - 1 - readable head tail

def store (ring : Ring) (h i : Nat) (sample : Int) : Ring :=
  { ring with buf := Function.update ring.buf ((h + i) &&& ringMask) sample }

def stores (ring : Ring) (h : Nat) : Nat → List Int → Ring
  | _, [] => ring
  | i, sample :: rest => stores (store ring h i sample) h (i + 1) rest

def loadSample (ring : Ring) (t i : Nat) : Int :=
  ring.buf ((t + i) &&& ringMask)

def write (ring : Ring) (src : List Int) : Nat × Ring :=
  let n := min src.length (writable ring.head ring.tail)
  (n, { stores ring ring.head 0 (src.take n) with head := (ring.head + n) &&& ringMask })

def read (ring : Ring) (n : Nat) : List Int × Ring :=
  let n := min n (readable ring.head ring.tail)
  ((List.range n).map (loadSample ring ring.tail),
    { ring with tail := (ring.tail + n) &&& ringMask })

/-! ## The two sides -/

/-- A value stored in an index, and how many samples its side has moved by then. -/
structure Publication where
  value : Nat
  moved : Nat
deriving DecidableEq

/-- `src` is what the write has accepted. -/
inductive Producer where
  | idle
  | writing (src : List Int) (h i : Nat)
deriving DecidableEq

inductive Consumer where
  | idle
  | reading (n t : Nat) (dst : List Int)
deriving DecidableEq

/-- `heads` is what the consumer can see of the head, `tails` what the producer can see of the tail.
`written` and `taken` are the samples published and consumed so far. -/
structure Spsc where
  ring : Ring
  heads : Published Publication
  tails : Published Publication
  producer : Producer
  consumer : Consumer
  written : List Int
  taken : List Int

/-- `later` says how much newer than the last one the value of the other's index is. -/
inductive Step where
  | offer (src : List Int) (later : Nat)
  | produce
  | request (n later : Nat)
  | consume
deriving DecidableEq

def offer (s : Spsc) (src : List Int) (later : Nat) : Spsc :=
  let tails := s.tails.load later
  let n := min src.length (writable s.ring.head tails.seen.value)
  { s with tails := tails, producer := .writing (src.take n) s.ring.head 0 }

def produce (s : Spsc) : Spsc :=
  match s.producer with
  | .idle => s
  | .writing src h i =>
    match src[i]? with
    | some sample => { s with ring := store s.ring h i sample, producer := .writing src h (i + 1) }
    | none =>
      let head := (h + src.length) &&& ringMask
      { s with
        ring := { s.ring with head := head }
        heads := s.heads.store ⟨head, s.written.length + src.length⟩
        producer := .idle
        written := s.written ++ src }

def request (s : Spsc) (n later : Nat) : Spsc :=
  let heads := s.heads.load later
  let n := min n (readable heads.seen.value s.ring.tail)
  { s with heads := heads, consumer := .reading n s.ring.tail [] }

def consume (s : Spsc) : Spsc :=
  match s.consumer with
  | .idle => s
  | .reading n t dst =>
    if dst.length < n then
      { s with consumer := .reading n t (dst ++ [loadSample s.ring t dst.length]) }
    else
      let tail := (t + n) &&& ringMask
      { s with
        ring := { s.ring with tail := tail }
        tails := s.tails.store ⟨tail, s.taken.length + n⟩
        consumer := .idle
        taken := s.taken ++ dst }

def step (s : Spsc) : Step → Spsc
  | .offer src later => if s.producer = .idle then offer s src later else s
  | .produce => produce s
  | .request n later => if s.consumer = .idle then request s n later else s
  | .consume => consume s

def init : Spsc :=
  { ring := initRing
    heads := ⟨⟨0, 0⟩, []⟩
    tails := ⟨⟨0, 0⟩, []⟩
    producer := .idle
    consumer := .idle
    written := []
    taken := [] }

/-! ## `kerchunk_audio_ring_write` and `kerchunk_audio_ring_read` are runs of the accesses -/

theorem produce_stores (s : Spsc) (src before after : List Int) (h : Nat)
    (split : src = before ++ after) (writing : s.producer = .writing src h before.length) :
    Machine.run step s (List.replicate after.length .produce) =
      { s with ring := stores s.ring h before.length after
               producer := .writing src h src.length } := by
  induction after generalizing s before with
  | nil =>
    have finished : s.producer = .writing src h src.length := by simpa [split] using writing
    simp [stores, ← finished]
  | cons sample rest ih =>
    have found : src[before.length]? = some sample := by simp [split]
    have stepped : step s .produce =
        { s with ring := store s.ring h before.length sample
                 producer := .writing src h (before ++ [sample]).length } := by
      simp [step, produce, writing, found]
    rw [List.length_cons, List.replicate_succ, Machine.run_cons, stepped]
    rw [ih _ (before ++ [sample]) (by simp [split]) rfl]
    simp [stores]

theorem consume_loads (s : Spsc) (n t : Nat) (dst : List Int) (count : Nat)
    (reading : s.consumer = .reading n t dst) (room : dst.length + count ≤ n) :
    Machine.run step s (List.replicate count .consume) =
      { s with consumer := .reading n t
                 (dst ++ (List.range' dst.length count).map (loadSample s.ring t)) } := by
  induction count generalizing s dst with
  | zero => simp [← reading]
  | succ count ih =>
    have stepped : step s .consume =
        { s with consumer := .reading n t (dst ++ [loadSample s.ring t dst.length]) } := by
      simp [step, consume, reading, show dst.length < n by omega]
    rw [List.replicate_succ, Machine.run_cons, stepped]
    rw [ih _ (dst ++ [loadSample s.ring t dst.length]) rfl (by simp; omega)]
    simp [List.range'_succ]

/-- A write that nothing interrupts and that sees the latest tail. -/
theorem offer_write (s : Spsc) (src : List Int) (later : Nat) (idle : s.producer = .idle)
    (latest : (s.tails.load later).seen.value = s.ring.tail) :
    let after := Machine.run step s
      (.offer src later :: List.replicate ((write s.ring src).1 + 1) .produce)
    after.ring = (write s.ring src).2 ∧
      after.written = s.written ++ src.take (write s.ring src).1 := by
  intro after
  let n := (write s.ring src).1
  let begun : Spsc := { s with
    tails := s.tails.load later
    producer := .writing (src.take n) s.ring.head 0 }
  have counted : (src.take n).length = n := by simp [n, write]
  have started : step s (.offer src later) = begun := by
    simp [step, idle, offer, latest, begun, n, write]
  have stored := produce_stores begun (src.take n) [] (src.take n) s.ring.head rfl rfl
  rw [counted] at stored
  have published : after = produce (Machine.run step begun (List.replicate n .produce)) := by
    rw [show after = Machine.run step begun (List.replicate (n + 1) .produce) by rw [← started]; rfl]
    rw [List.replicate_succ', Machine.run_append]
    rfl
  rw [published, stored]
  simp only [produce, List.getElem?_eq_none (Nat.le_of_eq counted), counted]
  exact ⟨rfl, rfl⟩

/-- A read that nothing interrupts and that sees the latest head. -/
theorem request_read (s : Spsc) (n later : Nat) (idle : s.consumer = .idle)
    (latest : (s.heads.load later).seen.value = s.ring.head) :
    let after := Machine.run step s
      (.request n later :: List.replicate ((read s.ring n).1.length + 1) .consume)
    after.ring = (read s.ring n).2 ∧ after.taken = s.taken ++ (read s.ring n).1 := by
  intro after
  let count := min n (readable s.ring.head s.ring.tail)
  let begun : Spsc := { s with
    heads := s.heads.load later
    consumer := .reading count s.ring.tail [] }
  have counted : (read s.ring n).1.length = count := by simp [count, read]
  have started : step s (.request n later) = begun := by
    simp [step, idle, request, latest, begun, count]
  have loaded := consume_loads begun count s.ring.tail [] count rfl (by simp)
  have published : after = consume (Machine.run step begun (List.replicate count .consume)) := by
    rw [show after = Machine.run step begun (List.replicate (count + 1) .consume) by
      rw [← started, ← counted]; rfl]
    rw [List.replicate_succ', Machine.run_append]
    rfl
  rw [published, loaded]
  simp [consume, begun, read, count, List.range_eq_range']

end Kerchunk.Core.AudioRing
