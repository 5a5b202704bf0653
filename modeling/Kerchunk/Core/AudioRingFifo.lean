import Kerchunk.Core.AudioRing
import Kerchunk.Lib.BoundedFifo

set_option autoImplicit false

/-!
# The shared audio ring is a bounded FIFO

Every interleaving of the two sides, each with whatever the other had published when it looked, moves
the samples that a first-in first-out buffer of `ringSize - 1` samples would move.
-/

namespace Kerchunk.Core.AudioRing

open CircularWindow

/-! ## Indices -/

theorem mask_mod (x : Nat) : x &&& ringMask = x % ringSize :=
  Nat.and_two_pow_sub_one_eq_mod x 18

theorem mask_add (a i : Nat) : (a % ringSize + i) &&& ringMask = (a + i) % ringSize := by
  rw [mask_mod, Nat.mod_add_mod]

theorem readable_moved {written taken : Nat} (order : taken ≤ written)
    (bounded : written ≤ taken + (ringSize - 1)) :
    readable (written % ringSize) (taken % ringSize) = written - taken := by
  -- The size divides 2^64, so the wrap of the difference does no harm.
  rw [readable, mask_mod, ringSize] at *
  omega

/-! ## The invariant -/

/-- What the consumer can see of the head and the producer of the tail. -/
structure Sees (x : Published Publication) (low high : Nat) : Prop where
  ordered : x.Ordered Publication.moved
  values : ∀ p ∈ x.visible, p.value = p.moved % ringSize
  low : ∀ p ∈ x.visible, low ≤ p.moved
  high : ∀ p ∈ x.visible, p.moved ≤ high

def Producer.Consistent (buf : Nat → Int) (head seen written : Nat) : Producer → Prop
  | .idle => True
  | .writing src h i =>
    h = head ∧ i ≤ src.length ∧ written + src.length ≤ seen + (ringSize - 1) ∧
      window ringSize buf written i = src.take i

def Consumer.Consistent (buf : Nat → Int) (tail seen taken : Nat) : Consumer → Prop
  | .idle => True
  | .reading n t dst =>
    t = tail ∧ dst.length ≤ n ∧ taken + n ≤ seen ∧ dst = window ringSize buf taken dst.length

structure Sound (s : Spsc) : Prop where
  head : s.ring.head = s.written.length % ringSize
  tail : s.ring.tail = s.taken.length % ringSize
  heads : Sees s.heads s.taken.length s.written.length
  tails : Sees s.tails (s.written.length - (ringSize - 1)) s.taken.length
  contents : s.taken ++
    window ringSize s.ring.buf s.taken.length (s.written.length - s.taken.length) = s.written
  producer :
    s.producer.Consistent s.ring.buf s.ring.head s.tails.seen.moved s.written.length
  consumer :
    s.consumer.Consistent s.ring.buf s.ring.tail s.heads.seen.moved s.taken.length

theorem init_sound : Sound init where
  head := rfl
  tail := rfl
  heads := ⟨List.pairwise_singleton _ _, by decide, by decide, by decide⟩
  tails := ⟨List.pairwise_singleton _ _, by decide, by decide, by decide⟩
  contents := rfl
  producer := trivial
  consumer := trivial

theorem Sees.load {x : Published Publication} {low high : Nat} (sees : Sees x low high)
    (later : Nat) : Sees (x.load later) low high where
  ordered := sees.ordered.load later
  values := Published.forall_load sees.values later
  low := Published.forall_load sees.low later
  high := Published.forall_load sees.high later

theorem Sees.raise {x : Published Publication} {low high low' : Nat} (sees : Sees x low high)
    (still : low' ≤ x.seen.moved) : Sees x low' high :=
  { sees with low := fun p member => still.trans (sees.ordered.seen_le p member) }

theorem Sees.store {x : Published Publication} {low high moved : Nat} (sees : Sees x low high)
    (order : low ≤ high) (more : high ≤ moved) :
    Sees (x.store ⟨moved % ringSize, moved⟩) low moved where
  ordered := sees.ordered.store fun p member => (sees.high p member).trans more
  values := Published.forall_store sees.values rfl
  low := Published.forall_store sees.low (order.trans more)
  high := Published.forall_store (fun p member => (sees.high p member).trans more) (Nat.le_refl _)

section

variable {s : Spsc} (sound : Sound s)

include sound

theorem taken_le : s.taken.length ≤ s.written.length :=
  (sound.heads.low _ s.heads.seen_mem).trans (sound.heads.high _ s.heads.seen_mem)

theorem written_le : s.written.length ≤ s.taken.length + (ringSize - 1) := by
  have low := sound.tails.low _ s.tails.seen_mem
  have high := sound.tails.high _ s.tails.seen_mem
  omega

/-- The consumer is never told of a sample that is not there. -/
theorem readable_seen (later : Nat) :
    readable (s.heads.load later).seen.value s.ring.tail =
      (s.heads.load later).seen.moved - s.taken.length := by
  have sees := sound.heads.load later
  have member := (s.heads.load later).seen_mem
  have high := sees.high _ member
  have bounded := written_le sound
  rw [sees.values _ member, sound.tail]
  exact readable_moved (sees.low _ member) (by omega)

/-- The producer is never told of a place that is not free. -/
theorem writable_seen (later : Nat) :
    writable s.ring.head (s.tails.load later).seen.value =
      ringSize - 1 - (s.written.length - (s.tails.load later).seen.moved) := by
  have sees := sound.tails.load later
  have member := (s.tails.load later).seen_mem
  have low := sees.low _ member
  have high := sees.high _ member
  have order := taken_le sound
  rw [writable, sees.values _ member, sound.head, readable_moved (by omega) (by omega)]

/-! ## Each access keeps the invariant -/

theorem offer_sound (src : List Int) (later : Nat) : Sound (offer s src later) := by
  have writable := writable_seen sound later
  have low := (sound.tails.load later).low _ (s.tails.load later).seen_mem
  have high := (sound.tails.load later).high _ (s.tails.load later).seen_mem
  have order := taken_le sound
  refine { sound with tails := sound.tails.load later, producer := ?_ }
  simp only [offer, Producer.Consistent, List.length_take, writable]
  exact ⟨trivial, Nat.zero_le _, by omega, rfl⟩

theorem request_sound (n later : Nat) : Sound (request s n later) := by
  have readable := readable_seen sound later
  have low := (sound.heads.load later).low _ (s.heads.load later).seen_mem
  refine { sound with heads := sound.heads.load later, consumer := ?_ }
  simp only [request, Consumer.Consistent, readable]
  exact ⟨trivial, Nat.zero_le _, by omega, rfl⟩

theorem store_sound {src : List Int} {h i : Nat} {sample : Int}
    (writing : s.producer = .writing src h i) (found : src[i]? = some sample) :
    Sound { s with ring := store s.ring h i sample, producer := .writing src h (i + 1) } := by
  have order := taken_le sound
  have high := sound.tails.high _ s.tails.seen_mem
  have seen := sound.heads.high _ s.heads.seen_mem
  have consistent := sound.producer
  rw [writing] at consistent
  obtain ⟨same, _, room, stored⟩ := consistent
  obtain ⟨inside, _⟩ := List.getElem?_eq_some_iff.mp found
  have cell : (h + i) &&& ringMask = (s.written.length + i) % ringSize := by
    rw [same, sound.head, mask_add]
  -- The cell lies behind everything that the consumer has still to read.
  have behind : s.taken.length + (s.written.length - s.taken.length + i) =
      s.written.length + i := by omega
  have others (count : Nat) (bound : count ≤ s.written.length - s.taken.length) :
      window ringSize (store s.ring h i sample).buf s.taken.length count =
        window ringSize s.ring.buf s.taken.length count := by
    simp only [store, cell, ← behind]
    exact window_update_beyond _ _ _ _ (by omega) (by omega)
  constructor
  case head => exact sound.head
  case tail => exact sound.tail
  case heads => exact sound.heads
  case tails => exact sound.tails
  case contents => exact (others _ (Nat.le_refl _)) ▸ sound.contents
  case producer =>
    refine ⟨same, inside, room, ?_⟩
    simp only [store, cell]
    rw [window_update_extend _ _ _ _ _ (by omega), stored, List.take_add_one, found]
    rfl
  case consumer =>
    have reading := sound.consumer
    cases consumer : s.consumer with
    | idle => exact trivial
    | reading n t dst =>
      rw [consumer] at reading
      obtain ⟨at_, loaded, bound, same⟩ := reading
      exact ⟨at_, loaded, bound, (others dst.length (by omega)).symm ▸ same⟩

theorem publish_sound {src : List Int} {h i : Nat} (writing : s.producer = .writing src h i)
    (ended : src[i]? = none) :
    Sound { s with
      ring := { s.ring with head := (h + src.length) &&& ringMask }
      heads := s.heads.store ⟨(h + src.length) &&& ringMask, s.written.length + src.length⟩
      producer := .idle
      written := s.written ++ src } := by
  have order := taken_le sound
  have consistent := sound.producer
  rw [writing] at consistent
  obtain ⟨same, inside, room, stored⟩ := consistent
  have complete : i = src.length := Nat.le_antisymm inside (List.getElem?_eq_none_iff.mp ended)
  have head : (h + src.length) &&& ringMask = (s.written.length + src.length) % ringSize := by
    rw [same, sound.head, mask_add]
  rw [complete, List.take_length] at stored
  constructor
  case head => simpa using head
  case tail => exact sound.tail
  case heads =>
    rw [head, List.length_append]
    exact sound.heads.store order (Nat.le_add_right _ _)
  case tails =>
    rw [List.length_append]
    exact sound.tails.raise (by omega)
  case contents =>
    have grown : (s.written ++ src).length - s.taken.length =
        (s.written.length - s.taken.length) + src.length := by
      rw [List.length_append]
      omega
    have next : s.taken.length + (s.written.length - s.taken.length) = s.written.length := by omega
    rw [grown, window_add, ← List.append_assoc, sound.contents, next, stored]
  case producer => exact trivial
  case consumer => exact sound.consumer

theorem produce_sound : Sound (produce s) := by
  rw [produce]
  split
  next => exact sound
  next src h i writing =>
    split
    next sample found => exact store_sound sound writing found
    next ended => exact publish_sound sound writing ended

theorem consume_sound : Sound (consume s) := by
  rw [consume]
  split
  next => exact sound
  next n t dst reading =>
    have order := taken_le sound
    have bounded : s.written.length - (ringSize - 1) ≤ s.taken.length := by
      have := written_le sound
      omega
    have high := sound.heads.high _ s.heads.seen_mem
    have consistent := sound.consumer
    rw [reading] at consistent
    obtain ⟨same, bound, room, loaded⟩ := consistent
    split
    next short =>
      refine { sound with consumer := ?_ }
      have cell : (t + dst.length) &&& ringMask =
          (s.taken.length + dst.length) % ringSize := by
        rw [same, sound.tail, mask_add]
      refine ⟨same, by rw [List.length_append]; exact short, room, ?_⟩
      rw [List.length_append, List.length_singleton, window_succ, ← loaded, loadSample, cell]
    next full =>
      have complete : dst.length = n := by omega
      have tail : (t + n) &&& ringMask = (s.taken.length + n) % ringSize := by
        rw [same, sound.tail, mask_add]
      have grown : (s.taken ++ dst).length = s.taken.length + n := by simp [complete]
      constructor
      case head => exact sound.head
      case tail => rw [grown]; exact tail
      case heads =>
        rw [grown]
        exact sound.heads.raise room
      case tails =>
        rw [grown, tail]
        exact sound.tails.store bounded (Nat.le_add_right _ _)
      case contents =>
        have split : s.written.length - s.taken.length =
            n + (s.written.length - (s.taken.length + n)) := by omega
        have contents := sound.contents
        rw [split, window_add, ← complete, ← loaded, complete, ← List.append_assoc] at contents
        rw [grown]
        exact contents
      case producer => exact sound.producer
      case consumer => exact trivial

theorem step_sound (i : Step) : Sound (step s i) := by
  cases i with
  | offer src later =>
    rw [step]
    split
    next => exact offer_sound sound src later
    next => exact sound
  | produce => exact produce_sound sound
  | request n later =>
    rw [step]
    split
    next => exact request_sound sound n later
    next => exact sound
  | consume => exact consume_sound sound

end

/-! ## The ring refines the FIFO -/

abbrev Fifo : Type :=
  BoundedFifo Int (ringSize - 1)

open BoundedFifo (Op Within)

def emits (s : Spsc) : Step → List (Op Int)
  -- The FIFO operation that an access completes.
  | .produce =>
    match s.producer with
    | .idle => []
    | .writing src _ i => if src.length ≤ i then [.put src] else []
  | .consume =>
    match s.consumer with
    | .idle => []
    | .reading n _ dst => if dst.length < n then [] else [.take n]
  | _ => []

structure Matches (s : Spsc) (q : Fifo) : Prop where
  delivered : q.delivered = s.taken
  held : q.delivered ++ q.items = s.written

/-- What each side gets, against what the ring really holds. -/
structure Truthful (s : Spsc) : Prop where
  readable : ∀ later, readable (s.heads.load later).seen.value s.ring.tail ≤
    s.written.length - s.taken.length
  writable : ∀ later, writable s.ring.head (s.tails.load later).seen.value ≤
    ringSize - 1 - (s.written.length - s.taken.length)
  accepts : ∀ src later, ∃ n ≤ ringSize - 1 - (s.written.length - s.taken.length),
    (offer s src later).producer = .writing (src.take n) s.ring.head 0
  oldest : ∀ n t dst, s.consumer = .reading n t dst →
    dst = (s.written.drop s.taken.length).take dst.length

theorem Matches.items_length {s : Spsc} {q : Fifo} (same : Matches s q) :
    q.items.length = s.written.length - s.taken.length := by
  rw [← same.held, ← same.delivered, List.length_append]
  omega

theorem sound_truthful {s : Spsc} (sound : Sound s) : Truthful s := by
  have order := taken_le sound
  have writable : ∀ later, writable s.ring.head (s.tails.load later).seen.value ≤
      ringSize - 1 - (s.written.length - s.taken.length) := by
    intro later
    have high := (sound.tails.load later).high _ (s.tails.load later).seen_mem
    rw [writable_seen sound later]
    omega
  constructor
  case readable =>
    intro later
    have high := (sound.heads.load later).high _ (s.heads.load later).seen_mem
    rw [readable_seen sound later]
    omega
  case writable => exact writable
  case accepts =>
    exact fun src later => ⟨_, (Nat.min_le_right _ _).trans (writable later), rfl⟩
  case oldest =>
    intro n t dst reading
    have consistent := sound.consumer
    rw [reading] at consistent
    obtain ⟨_, bound, room, loaded⟩ := consistent
    have high := sound.heads.high _ s.heads.seen_mem
    have queued : s.written.drop s.taken.length =
        window ringSize s.ring.buf s.taken.length (s.written.length - s.taken.length) := by
      have dropped := congrArg (List.drop s.taken.length) sound.contents
      rw [List.drop_left] at dropped
      exact dropped.symm
    rw [queued, window_take _ _ _ _ _ (by omega)]
    exact loaded

theorem step_matches {s : Spsc} {q : Fifo} (sound : Sound s) (same : Matches s q) (i : Step) :
    Matches (step s i) (Machine.run BoundedFifo.apply q (emits s i)) ∧
      Machine.Guarded BoundedFifo.apply Within q (emits s i) := by
  have length := same.items_length
  have order := taken_le sound
  cases i with
  | offer src later =>
    refine ⟨?_, trivial⟩
    rw [step]
    split
    next => exact ⟨same.delivered, same.held⟩
    next => exact same
  | request n later =>
    refine ⟨?_, trivial⟩
    rw [step]
    split
    next => exact ⟨same.delivered, same.held⟩
    next => exact same
  | produce =>
    have consistent := sound.producer
    have high := sound.tails.high _ s.tails.seen_mem
    cases writing : s.producer with
    | idle => simpa [step, produce, emits, writing, Machine.Guarded] using same
    | writing src h i =>
      rw [writing] at consistent
      obtain ⟨_, _, room, _⟩ := consistent
      by_cases ended : src.length ≤ i
      next =>
        have fits : q.Within (.put src) := by
          simp only [Within, BoundedFifo.free]
          omega
        obtain ⟨items, delivered⟩ := q.apply_put fits
        have none : src[i]? = none := List.getElem?_eq_none_iff.mpr ended
        simp only [step, produce, emits, writing, none, if_pos ended]
        refine ⟨⟨delivered.trans same.delivered, ?_⟩, fits, trivial⟩
        rw [Machine.run_cons, Machine.run_nil, items, delivered, ← List.append_assoc, same.held]
      next =>
        have some : src[i]? = some src[i] := List.getElem?_eq_getElem (by omega)
        simp only [step, produce, emits, writing, some, if_neg ended]
        exact ⟨⟨same.delivered, same.held⟩, trivial⟩
  | consume =>
    have oldest := (sound_truthful sound).oldest
    have consistent := sound.consumer
    have high := sound.heads.high _ s.heads.seen_mem
    cases reading : s.consumer with
    | idle => simpa [step, consume, emits, reading, Machine.Guarded] using same
    | reading n t dst =>
      rw [reading] at consistent
      obtain ⟨_, bound, room, _⟩ := consistent
      by_cases short : dst.length < n
      next =>
        simp only [step, consume, emits, reading, if_pos short]
        exact ⟨⟨same.delivered, same.held⟩, trivial⟩
      next =>
        have queued : s.written.drop s.taken.length = q.items := by
          rw [← same.held, ← same.delivered, List.drop_left]
        have complete : dst = q.items.take n := by
          rw [oldest n t dst reading, queued, show dst.length = n by omega]
        simp only [step, consume, emits, reading, if_neg short]
        refine ⟨⟨?_, ?_⟩, ?_, trivial⟩
        next =>
          rw [Machine.run_cons, Machine.run_nil, complete, ← same.delivered]
          rfl
        next =>
          rw [← same.held, ← List.take_append_drop n q.items]
          simp [BoundedFifo.apply]
        next =>
          rw [Within, length]
          omega

theorem run_matches {s : Spsc} {q : Fifo} (sound : Sound s) (same : Matches s q)
    (inputs : List Step) :
    Matches (Machine.run step s inputs)
        (Machine.run BoundedFifo.apply q (Machine.trace step emits s inputs)) ∧
      Machine.Guarded BoundedFifo.apply Within q (Machine.trace step emits s inputs) := by
  induction inputs generalizing s q with
  | nil => exact ⟨same, trivial⟩
  | cons i rest ih =>
    obtain ⟨after, within⟩ := step_matches sound same i
    obtain ⟨final, later⟩ := ih (step_sound sound i) after
    rw [Machine.trace, Machine.run_append, Machine.guarded_append]
    exact ⟨final, within, later⟩

end Kerchunk.Core.AudioRing
