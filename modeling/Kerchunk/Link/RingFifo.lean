import Kerchunk.Link.Ring

set_option autoImplicit false

/-!
# When the uplink ring is a bounded FIFO

The occupancy is a difference of 32-bit indices taken modulo 96000, and 96000
does not divide 2^32: it is right exactly while the write index has not passed
the end of the array.
-/

namespace Kerchunk.Link

open CircularWindow

def Producer.Consistent (ring : Ring) : Producer → Prop
  | .idle => True
  | .writing src w i =>
      w = ring.w ∧ src ≠ [] ∧ i ≤ src.length ∧ ring.w - ring.r + src.length < linkRingSamples ∧
        window linkRingSamples ring.buf ring.r (ring.w - ring.r + i) =
          window linkRingSamples ring.buf ring.r (ring.w - ring.r) ++ src.take i

def Consumer.Consistent (ring : Ring) : Consumer → Prop
  | .idle => True
  | .reading n r dst =>
      r = ring.r ∧ dst.length ≤ n ∧ n ≤ ring.w - ring.r ∧
        dst = window linkRingSamples ring.buf ring.r dst.length
  | .discarding w => ring.r ≤ w ∧ w ≤ ring.w

/-- No write has wrapped yet: the indices are the sample counts themselves. -/
structure Unwrapped (s : Spsc) : Prop where
  bounded : s.ring.w < linkRingSamples
  order : s.ring.r ≤ s.ring.w
  writtenLength : s.written.length = s.ring.w
  takenLength : s.taken.length = s.ring.r
  contents : s.taken ++ window linkRingSamples s.ring.buf s.ring.r (s.ring.w - s.ring.r) = s.written
  producer : s.producer.Consistent s.ring
  consumer : s.consumer.Consistent s.ring

theorem linkRingSamples_eq : linkRingSamples = 96000 := rfl

theorem ringAvailRead_of_order (ring : Ring) (bounded : ring.w < linkRingSamples)
    (order : ring.r ≤ ring.w) : ringAvailRead ring = ring.w - ring.r := by
  have unwrapped : ring.w + 2 ^ 32 - ring.r = ring.w - ring.r + 2 ^ 32 := by omega
  have small : ring.w - ring.r < linkRingSamples := by omega
  have narrow : ring.w - ring.r < 2 ^ 32 := by
    rw [linkRingSamples_eq] at small
    omega
  rw [ringAvailRead, unwrapped, Nat.add_mod_right, Nat.mod_eq_of_lt narrow, Nat.mod_eq_of_lt small]

theorem ringAvailRead_of_behind (ring : Ring) (bounded : ring.r < linkRingSamples)
    (behind : ring.w < ring.r) :
    ringAvailRead ring ≠ ring.w + linkRingSamples - ring.r := by
  rw [linkRingSamples_eq] at bounded
  have narrow : ring.w + 2 ^ 32 - ring.r < 2 ^ 32 := by omega
  rw [ringAvailRead, Nat.mod_eq_of_lt narrow, linkRingSamples_eq]
  omega
theorem unwrapped_init : Unwrapped init where
  bounded := by decide
  order := Nat.le_refl _
  writtenLength := rfl
  takenLength := rfl
  contents := rfl
  producer := trivial
  consumer := trivial

theorem Unwrapped.fifo {s : Spsc} (good : Unwrapped s) : Fifo s := by
  constructor
  · exact ⟨_, good.contents⟩
  · rw [ringAvailRead_of_order _ good.bounded good.order, good.writtenLength, good.takenLength]

theorem linkAudioTap_unwrapped {s : Spsc} (good : Unwrapped s) (localRxActive : Bool)
    (sampleRate : Nat) (src : List Int) :
    Unwrapped (linkAudioTap s localRxActive sampleRate src) := by
  unfold linkAudioTap
  split_ifs with inactive rate full
  · exact good
  · exact good
  · exact good
  · have available := ringAvailRead_of_order _ good.bounded good.order
    have nonempty : src ≠ [] := by
      rintro rfl
      simp at inactive
    have := good.bounded
    have room : s.ring.w - s.ring.r + src.length < linkRingSamples := by
      unfold ringAvailWrite at full
      omega
    exact { good with producer := ⟨rfl, nonempty, Nat.zero_le _, room, by simp⟩ }

theorem ringStore_unwrapped {s : Spsc} (good : Unwrapped s) {src : List Int} {w i : Nat}
    {sample : Int} (writing : s.producer = .writing src w i) (found : src[i]? = some sample) :
    Unwrapped { s with
      ring := ringStore s.ring w i sample, producer := .writing src w (i + 1) } := by
  -- A store of the producer leaves the readable samples and the consumer alone.
  have producer := good.producer
  rw [writing] at producer
  obtain ⟨rfl, nonempty, _, room, pending⟩ := producer
  have inside : i < src.length := (List.getElem?_eq_some_iff.mp found).1
  have order := good.order
  have cell : s.ring.w + i = s.ring.r + (s.ring.w - s.ring.r + i) := by omega
  have kept (count : Nat) (behind : count ≤ s.ring.w - s.ring.r + i) :
      window linkRingSamples (ringStore s.ring s.ring.w i sample).buf s.ring.r count =
        window linkRingSamples s.ring.buf s.ring.r count := by
    have whole := window_update_after linkRingSamples s.ring.buf s.ring.r
      (s.ring.w - s.ring.r + i) sample (by omega)
    rw [← cell] at whole
    rw [← window_take _ _ _ _ _ behind, ← window_take _ s.ring.buf _ _ _ behind]
    exact congrArg (List.take count) whole
  refine { good with contents := ?_, producer := ?_, consumer := ?_ }
  · rw [← good.contents]
    exact congrArg (s.taken ++ ·) (kept (s.ring.w - s.ring.r) (by omega))
  · refine ⟨rfl, nonempty, inside, room, ?_⟩
    have extended := window_update_extend linkRingSamples s.ring.buf s.ring.r
      (s.ring.w - s.ring.r + i) sample (by omega)
    rw [← cell, pending] at extended
    show window linkRingSamples (ringStore s.ring s.ring.w i sample).buf s.ring.r
        (s.ring.w - s.ring.r + i + 1) =
      window linkRingSamples (ringStore s.ring s.ring.w i sample).buf s.ring.r
        (s.ring.w - s.ring.r) ++ src.take (i + 1)
    rw [kept (s.ring.w - s.ring.r) (by omega), List.take_add_one, found, ← List.append_assoc]
    exact extended
  · have consumer := good.consumer
    cases reader : s.consumer with
    | idle => trivial
    | discarding w =>
        rw [reader] at consumer
        exact consumer
    | reading n r dst =>
        rw [reader] at consumer
        obtain ⟨rfl, short, enough, loaded⟩ := consumer
        exact ⟨rfl, short, enough, loaded.trans (kept _ (by omega)).symm⟩

/-- Publishing short of the array's end makes exactly the new samples readable. -/
theorem publish_unwrapped {s : Spsc} (good : Unwrapped s) {src : List Int} {w i : Nat}
    (writing : s.producer = .writing src w i) (complete : src.length ≤ i)
    (inside : w + src.length < linkRingSamples) :
    Unwrapped { s with
      ring := { s.ring with w := (w + src.length) % linkRingSamples }
      producer := .idle
      written := s.written ++ src } := by
  have producer := good.producer
  rw [writing] at producer
  obtain ⟨rfl, _, bound, _, pending⟩ := producer
  have all : i = src.length := Nat.le_antisymm bound complete
  subst all
  have order := good.order
  have index : (s.ring.w + src.length) % linkRingSamples = s.ring.w + src.length :=
    Nat.mod_eq_of_lt inside
  have count : s.ring.w + src.length - s.ring.r = s.ring.w - s.ring.r + src.length := by omega
  refine ⟨?_, ?_, ?_, good.takenLength, ?_, trivial, ?_⟩
  · simpa [index] using inside
  · simp only [index]
    omega
  · simp [index, good.writtenLength]
  · simp only [index, count, pending, List.take_length]
    rw [← List.append_assoc, good.contents]
  · have consumer := good.consumer
    cases reader : s.consumer with
    | idle => trivial
    | discarding w =>
        rw [reader] at consumer
        simp only [Consumer.Consistent, index] at consumer ⊢
        omega
    | reading n r dst =>
        rw [reader] at consumer
        obtain ⟨rfl, short, enough, loaded⟩ := consumer
        refine ⟨rfl, short, ?_, loaded⟩
        simp only [index]
        omega

/-- Consuming `n` readable samples moves the read index past them. -/
theorem advance_unwrapped {s : Spsc} (good : Unwrapped s) (n : Nat)
    (enough : n ≤ s.ring.w - s.ring.r) :
    Unwrapped { s with
      ring := { s.ring with r := s.ring.r + n }
      consumer := .idle
      taken := s.taken ++ window linkRingSamples s.ring.buf s.ring.r n } := by
  have order := good.order
  have split : s.ring.w - s.ring.r = n + (s.ring.w - (s.ring.r + n)) := by omega
  have contents := good.contents
  rw [split, window_add, ← List.append_assoc] at contents
  refine ⟨good.bounded, ?_, good.writtenLength, ?_, contents, ?_, trivial⟩
  · show s.ring.r + n ≤ s.ring.w
    omega
  · simp [good.takenLength]
  · have producer := good.producer
    cases writer : s.producer with
    | idle => trivial
    | writing src w i =>
        rw [writer] at producer
        obtain ⟨rfl, nonempty, bound, room, pending⟩ := producer
        refine ⟨rfl, nonempty, bound, ?_, ?_⟩
        · show s.ring.w - (s.ring.r + n) + src.length < linkRingSamples
          omega
        · show window linkRingSamples s.ring.buf (s.ring.r + n) (s.ring.w - (s.ring.r + n) + i) =
            window linkRingSamples s.ring.buf (s.ring.r + n) (s.ring.w - (s.ring.r + n)) ++ src.take i
          rw [split, Nat.add_assoc, window_add, window_add _ _ _ n, List.append_assoc] at pending
          exact List.append_cancel_left pending

theorem consume_unwrapped {s : Spsc} (good : Unwrapped s) : Unwrapped (consume s) := by
  have consumer := good.consumer
  have order := good.order
  have bounded := good.bounded
  unfold consume
  cases reader : s.consumer with
  | idle => exact good
  | reading n r dst =>
      rw [reader] at consumer
      obtain ⟨rfl, short, enough, loaded⟩ := consumer
      by_cases more : dst.length < n
      · simp only [more, if_true]
        refine { good with consumer := ⟨rfl, by simpa using Nat.succ_le_of_lt more, enough, ?_⟩ }
        simp only [List.length_append, List.length_singleton, window_succ]
        rw [← loaded]
        rfl
      · have full : dst.length = n := by omega
        have index : (s.ring.r + n) % linkRingSamples = s.ring.r + n :=
          Nat.mod_eq_of_lt (by omega)
        simp only [more, if_false, index]
        rw [loaded, full]
        exact advance_unwrapped good n enough
  | discarding w =>
      rw [reader] at consumer
      have skipped : (w + linkRingSamples - s.ring.r) % linkRingSamples = w - s.ring.r := by
        obtain ⟨low, high⟩ := consumer
        rw [show w + linkRingSamples - s.ring.r = w - s.ring.r + linkRingSamples by omega]
        rw [Nat.add_mod_right, Nat.mod_eq_of_lt (by omega)]
      have next := advance_unwrapped good (w - s.ring.r) (Nat.sub_le_sub_right consumer.2 _)
      rw [Nat.add_sub_cancel' consumer.1] at next
      simpa only [skipped] using next

theorem step_unwrapped {s : Spsc} {input : Step} (good : Unwrapped s)
    (inside : StaysInside s input) : Unwrapped (step s input) := by
  cases input with
  | tap localRxActive sampleRate src =>
      simp only [step]
      split_ifs
      · exact linkAudioTap_unwrapped good localRxActive sampleRate src
      · exact good
  | produce =>
      simp only [step, produce]
      cases writer : s.producer with
      | idle => exact good
      | writing src w i =>
          simp only [StaysInside, writer] at inside
          cases found : src[i]? with
          | some sample =>
              simp only [found]
              exact ringStore_unwrapped good writer found
          | none =>
              have complete := List.getElem?_eq_none_iff.mp found
              simp only [found]
              exact publish_unwrapped good writer complete (by omega)
  | request n =>
      simp only [step]
      split_ifs
      · refine { good with consumer := ⟨rfl, Nat.zero_le _, ?_, by simp⟩ }
        rw [ringAvailRead_of_order _ good.bounded good.order]
        exact Nat.min_le_right _ _
      · exact good
  | discard =>
      simp only [step]
      split_ifs
      · exact { good with consumer := ⟨good.order, Nat.le_refl _⟩ }
      · exact good
  | consume => exact consume_unwrapped good

theorem step_breaks_fifo {s : Spsc} {input : Step} (good : Unwrapped s)
    (outside : ¬ StaysInside s input) : ¬ Fifo (step s input) := by
  -- The first write that reaches the end of the array falsifies the occupancy.
  cases input with
  | tap | request | discard | consume => exact absurd trivial outside
  | produce =>
      cases writer : s.producer with
      | idle => simp [StaysInside, writer] at outside
      | writing src w i =>
          simp only [StaysInside, writer, not_or, Nat.not_lt] at outside
          have producer := good.producer
          rw [writer] at producer
          obtain ⟨rfl, nonempty, _, room, _⟩ := producer
          have positive := List.length_pos_iff.mpr nonempty
          have bounded := good.bounded
          have order := good.order
          have index : (s.ring.w + src.length) % linkRingSamples =
              s.ring.w + src.length - linkRingSamples := by
            rw [Nat.mod_eq_sub_mod outside.2, Nat.mod_eq_of_lt (by omega)]
          have missing : src[i]? = none := List.getElem?_eq_none_iff.mpr outside.1
          rintro ⟨_, occupancy⟩
          simp only [step, produce, writer, missing, index, List.length_append,
            good.writtenLength, good.takenLength] at occupancy
          refine ringAvailRead_of_behind
            { s.ring with w := s.ring.w + src.length - linkRingSamples } ?_ ?_ ?_
          · show s.ring.r < linkRingSamples
            omega
          · show s.ring.w + src.length - linkRingSamples < s.ring.r
            omega
          · rw [occupancy]
            show s.ring.w + src.length - s.ring.r =
              s.ring.w + src.length - linkRingSamples + linkRingSamples - s.ring.r
            omega

theorem guarded_of_fifo {s : Spsc} (good : Unwrapped s) (inputs : List Step)
    (fifo : ∀ k, Fifo (Machine.run step s (inputs.take k))) :
    Machine.Guarded step StaysInside s inputs := by
  induction inputs generalizing s with
  | nil => trivial
  | cons input rest ih =>
      have inside : StaysInside s input := by
        by_contra outside
        exact step_breaks_fifo good outside (by simpa using fifo 1)
      exact ⟨inside, ih (step_unwrapped good inside) fun k => by simpa using fifo (k + 1)⟩

/-- Every interleaving is a FIFO throughout exactly when no write reaches the array's end. -/
theorem ring_fifo_iff_stays_inside (inputs : List Step) :
    (∀ k, Fifo (Machine.run step init (inputs.take k))) ↔
      Machine.Guarded step StaysInside init inputs := by
  constructor
  · exact guarded_of_fifo unwrapped_init inputs
  · intro inside k
    rw [← List.take_append_drop k inputs, Machine.guarded_append] at inside
    exact (Machine.run_invariant step (fun _ _ => step_unwrapped) unwrapped_init inside.1).fifo

/-! ## Two seconds of audio, written in 20 ms frames and read in 60 ms ones -/

def frame : List Int := List.replicate 960 0

theorem frame_length : frame.length = 960 := List.length_replicate

def frameWrite : List Step :=
  .tap true 48000 frame :: List.replicate 961 .produce

def linkFrameRead : List Step :=
  .request 2880 :: List.replicate 2881 .consume

def linkRound : List Step :=
  frameWrite ++ frameWrite ++ frameWrite ++ linkFrameRead

/-- Both threads are between operations; the fields give the indices and the counts. -/
structure Between (s : Spsc) (w r written taken : Nat) : Prop where
  producer : s.producer = .idle
  consumer : s.consumer = .idle
  w : s.ring.w = w
  r : s.ring.r = r
  written : s.written.length = written
  taken : s.taken.length = taken

theorem frameWrite_between {s : Spsc} {w r written taken : Nat} (start : Between s w r written taken)
    (bounded : w < linkRingSamples) (order : r ≤ w) (room : w - r + 960 < linkRingSamples) :
    Between (Machine.run step s frameWrite) ((w + 960) % linkRingSamples) r (written + 960) taken := by
  obtain ⟨producer, consumer, rfl, rfl, rfl, rfl⟩ := start
  have available := ringAvailRead_of_order s.ring bounded order
  have enough : ¬ ringAvailWrite s.ring < frame.length := by
    simp only [ringAvailWrite, available, frame_length]
    omega
  have tapped : step s (.tap true 48000 frame) =
      { s with producer := .writing frame s.ring.w 0 } := by
    have nonempty : frame.isEmpty = false := rfl
    simp only [step, producer, if_true, linkAudioTap, nonempty, enough]
    rfl
  rw [frameWrite, Machine.run_cons, tapped]
  rw [show (961 : Nat) = frame.length + 1 by rw [frame_length], produce_ringWrite _ frame rfl]
  constructor <;> simp only [ringWrite, ringStores_r, List.length_append, frame_length, consumer]

theorem linkFrameRead_between {s : Spsc} {w r written taken : Nat}
    (start : Between s w r written taken)
    (bounded : w < linkRingSamples) (order : r + 2880 ≤ w) :
    Between (Machine.run step s linkFrameRead) w (r + 2880) written (taken + 2880) := by
  obtain ⟨producer, consumer, rfl, rfl, rfl, rfl⟩ := start
  have available := ringAvailRead_of_order s.ring bounded (by omega)
  have enough : min 2880 (ringAvailRead s.ring) = 2880 := by omega
  have read := consume_ringRead s 2880 consumer
  rw [enough] at read
  have index : (s.ring.r + 2880) % linkRingSamples = s.ring.r + 2880 := Nat.mod_eq_of_lt (by omega)
  rw [linkFrameRead, read]
  constructor <;> simp [ringRead, enough, producer, consumer, index]

theorem linkRound_between {s : Spsc} {start : Nat} (between : Between s start start start start)
    (inside : start + 2880 < linkRingSamples) :
    Between (Machine.run step s linkRound)
      (start + 2880) (start + 2880) (start + 2880) (start + 2880) := by
  have first := frameWrite_between between (by omega) (by omega) (by rw [linkRingSamples_eq]; omega)
  rw [Nat.mod_eq_of_lt (by omega)] at first
  have second := frameWrite_between first (by omega) (by omega) (by rw [linkRingSamples_eq]; omega)
  rw [Nat.mod_eq_of_lt (by omega)] at second
  have third := frameWrite_between second (by omega) (by omega) (by rw [linkRingSamples_eq]; omega)
  rw [Nat.mod_eq_of_lt (by omega)] at third
  have read := linkFrameRead_between third (by omega) (by omega)
  simpa only [linkRound, Machine.run_append] using read

theorem linkRounds_between (rounds : Nat) (inside : 2880 * rounds < linkRingSamples) :
    Between (Machine.run step init (List.replicate rounds linkRound).flatten)
      (2880 * rounds) (2880 * rounds) (2880 * rounds) (2880 * rounds) := by
  induction rounds with
  | zero => constructor <;> rfl
  | succ rounds ih =>
      have next := linkRound_between (ih (by omega)) (by omega)
      rw [List.replicate_succ', List.flatten_append, Machine.run_append]
      simpa [Nat.mul_succ] using next

/-- The 100th frame ends at index 0: 960 samples are left and 24256 are reported. -/
theorem ring_hundredth_frame_not_fifo :
    ¬ Fifo (Machine.run step init ((List.replicate 33 linkRound).flatten ++ frameWrite)) := by
  have rounds := linkRounds_between 33 (by rw [linkRingSamples_eq]; omega)
  have last := frameWrite_between rounds (by rw [linkRingSamples_eq]; omega) (Nat.le_refl _)
    (by rw [linkRingSamples_eq]; omega)
  rw [← Machine.run_append, linkRingSamples_eq] at last
  rintro ⟨_, occupancy⟩
  rw [last.written, last.taken, ringAvailRead, last.w, last.r, linkRingSamples_eq] at occupancy
  omega

end Kerchunk.Link
