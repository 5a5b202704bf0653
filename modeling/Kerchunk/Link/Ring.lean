import Kerchunk.Lib.CircularWindow
import Kerchunk.Lib.Machine
import Mathlib.Tactic.Ring

set_option autoImplicit false

/-!
# The link module's uplink ring

The single-producer single-consumer ring of `mod_link.c`: the audio thread
writes in `link_audio_tap`, the background thread reads in `drain_and_encode`.
`Step` splits both sides into their atomic accesses, so a run of `step` is one
interleaving of the two threads.
-/

namespace Kerchunk.Link

open CircularWindow

/-- Two seconds of 48 kHz audio. -/
def linkRingSamples : Nat := 48000 * 2

structure Ring where
  buf : Nat → Int
  w : Nat
  r : Nat

-- Both indices are uint32_t, so the difference wraps at 2^32 before the modulo.
def ringAvailRead (ring : Ring) : Nat :=
  (ring.w + 2 ^ 32 - ring.r) % 2 ^ 32 % linkRingSamples

def ringAvailWrite (ring : Ring) : Nat :=
  linkRingSamples - 1 - ringAvailRead ring

def ringStore (ring : Ring) (w i : Nat) (sample : Int) : Ring :=
  { ring with buf := Function.update ring.buf ((w + i) % linkRingSamples) sample }

def ringLoad (ring : Ring) (r i : Nat) : Int :=
  ring.buf ((r + i) % linkRingSamples)

def ringStores (ring : Ring) (w : Nat) : Nat → List Int → Ring
  | _, [] => ring
  | i, sample :: rest => ringStores (ringStore ring w i sample) w (i + 1) rest

def ringWrite (ring : Ring) (src : List Int) : Ring :=
  { ringStores ring ring.w 0 src with w := (ring.w + src.length) % linkRingSamples }

def ringRead (ring : Ring) (n : Nat) : List Int × Ring :=
  let n := min n (ringAvailRead ring)
  (window linkRingSamples ring.buf ring.r n, { ring with r := (ring.r + n) % linkRingSamples })

inductive Producer where
  | idle
  | writing (src : List Int) (w i : Nat)
deriving DecidableEq

inductive Consumer where
  | idle
  | reading (n r : Nat) (dst : List Int)
  | discarding (w : Nat)
deriving DecidableEq

/-- `written` and `taken` are the samples published and consumed so far. -/
structure Spsc where
  ring : Ring
  producer : Producer
  consumer : Consumer
  written : List Int
  taken : List Int

inductive Step where
  | tap (localRxActive : Bool) (sampleRate : Nat) (src : List Int)
  | produce
  | request (n : Nat)
  | discard
  | consume
deriving DecidableEq

def linkAudioTap (s : Spsc) (localRxActive : Bool) (sampleRate : Nat) (src : List Int) : Spsc :=
  if !localRxActive || src.isEmpty then s
  else if sampleRate ≠ 48000 then s
  else if ringAvailWrite s.ring < src.length then s
  else { s with producer := .writing src s.ring.w 0 }

def produce (s : Spsc) : Spsc :=
  match s.producer with
  | .idle => s
  | .writing src w i =>
      match src[i]? with
      | some sample =>
          { s with ring := ringStore s.ring w i sample, producer := .writing src w (i + 1) }
      | none =>
          { s with
            ring := { s.ring with w := (w + src.length) % linkRingSamples }
            producer := .idle
            written := s.written ++ src }

def consume (s : Spsc) : Spsc :=
  match s.consumer with
  | .idle => s
  | .reading n r dst =>
      if dst.length < n then
        { s with consumer := .reading n r (dst ++ [ringLoad s.ring r dst.length]) }
      else
        { s with
          ring := { s.ring with r := (r + n) % linkRingSamples }
          consumer := .idle
          taken := s.taken ++ dst }
  | .discarding w =>
      -- What is skipped is what stands between the read index and the index seen.
      { s with
        ring := { s.ring with r := w }
        consumer := .idle
        taken := s.taken ++ window linkRingSamples s.ring.buf s.ring.r
          ((w + linkRingSamples - s.ring.r) % linkRingSamples) }

def step (s : Spsc) : Step → Spsc
  | .tap localRxActive sampleRate src =>
      if s.producer = .idle then linkAudioTap s localRxActive sampleRate src else s
  | .produce => produce s
  | .request n =>
      if s.consumer = .idle then
        { s with consumer := .reading (min n (ringAvailRead s.ring)) s.ring.r [] }
      else s
  | .discard => if s.consumer = .idle then { s with consumer := .discarding s.ring.w } else s
  | .consume => consume s

def init : Spsc :=
  { ring := { buf := fun _ => 0, w := 0, r := 0 }
    producer := .idle
    consumer := .idle
    written := []
    taken := [] }

def Fifo (s : Spsc) : Prop :=
  -- The bounded FIFO seen from outside: what was consumed, and how much is left.
  s.taken <+: s.written ∧ ringAvailRead s.ring = s.written.length - s.taken.length

def StaysInside (s : Spsc) : Step → Prop
  -- The step does not publish a write that reaches the end of the array.
  | .produce =>
      match s.producer with
      | .writing src w i => i < src.length ∨ w + src.length < linkRingSamples
      | .idle => True
  | _ => True

instance (s : Spsc) (input : Step) : Decidable (StaysInside s input) := by
  cases input <;> unfold StaysInside <;> try infer_instance
  cases s.producer <;> infer_instance

/-! ## `ring_write` and `ring_read` are runs of the atomic steps -/

theorem produce_stores (s : Spsc) (src before after : List Int) (w : Nat)
    (split : src = before ++ after) (writing : s.producer = .writing src w before.length) :
    Machine.run step s (List.replicate after.length .produce) =
      { s with
        ring := ringStores s.ring w before.length after
        producer := .writing src w src.length } := by
  induction after generalizing s before with
  | nil =>
      have finished : s.producer = .writing src w src.length := by simpa [split] using writing
      simp [ringStores, ← finished]
  | cons sample rest ih =>
      have found : src[before.length]? = some sample := by simp [split]
      have stepped : step s .produce =
          { s with
            ring := ringStore s.ring w before.length sample
            producer := .writing src w (before ++ [sample]).length } := by
        simp [step, produce, writing, found]
      rw [List.length_cons, List.replicate_succ, Machine.run_cons, stepped]
      rw [ih _ (before ++ [sample]) (by simp [split]) rfl]
      simp [ringStores]

@[simp] theorem ringStores_r (ring : Ring) (w i : Nat) (src : List Int) :
    (ringStores ring w i src).r = ring.r := by
  induction src generalizing ring i with
  | nil => rfl
  | cons sample rest ih => simp [ringStores, ih, ringStore]

/-- The producer's steps for one frame compute `ring_write`. -/
theorem produce_ringWrite (s : Spsc) (src : List Int)
    (writing : s.producer = .writing src s.ring.w 0) :
    Machine.run step s (List.replicate (src.length + 1) .produce) =
      { s with
        ring := ringWrite s.ring src
        producer := .idle
        written := s.written ++ src } := by
  rw [List.replicate_succ', Machine.run_append,
    produce_stores s src [] src s.ring.w rfl writing]
  simp [Machine.run, step, produce, ringWrite]

theorem consume_loads (s : Spsc) (n r : Nat) (dst : List Int) (count : Nat)
    (reading : s.consumer = .reading n r dst) (loaded : dst = window linkRingSamples s.ring.buf r dst.length)
    (room : dst.length + count ≤ n) :
    Machine.run step s (List.replicate count .consume) =
      { s with consumer := .reading n r (window linkRingSamples s.ring.buf r (dst.length + count)) } := by
  induction count generalizing s dst with
  | zero => simp [← loaded, ← reading]
  | succ count ih =>
      have stepped : step s .consume =
          { s with consumer := .reading n r (dst ++ [ringLoad s.ring r dst.length]) } := by
        simp [step, consume, reading, show dst.length < n by omega]
      have extended : dst ++ [ringLoad s.ring r dst.length] =
          window linkRingSamples s.ring.buf r (dst.length + 1) := by
        rw [window_succ, ← loaded]
        rfl
      rw [List.replicate_succ, Machine.run_cons, stepped, extended]
      rw [ih _ (window linkRingSamples s.ring.buf r (dst.length + 1)) rfl (by simp) (by simp; omega)]
      simp only [window_length, Nat.add_assoc, Nat.add_comm 1 count]

/-- The consumer's steps for one request compute `ring_read`. -/
theorem consume_ringRead (s : Spsc) (n : Nat) (idle : s.consumer = .idle) :
    Machine.run step s (.request n :: List.replicate (min n (ringAvailRead s.ring) + 1) .consume) =
      { s with
        ring := (ringRead s.ring n).2
        taken := s.taken ++ (ringRead s.ring n).1 } := by
  rw [Machine.run_cons, List.replicate_succ', Machine.run_append]
  have started : step s (.request n) =
      { s with consumer := .reading (min n (ringAvailRead s.ring)) s.ring.r [] } := by
    simp [step, idle]
  rw [started, consume_loads _ _ _ [] _ rfl (by simp) (by simp)]
  simp [Machine.run, step, consume, ringRead, ← idle]

end Kerchunk.Link
