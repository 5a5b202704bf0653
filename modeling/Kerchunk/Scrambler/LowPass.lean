import Kerchunk.Lib.BoundedDot
import Kerchunk.Lib.Machine
import Kerchunk.Scrambler.Model
import Mathlib.Algebra.BigOperators.Fin
import Mathlib.Data.List.GetD

set_option autoImplicit false

/-!
# The ranges of the DC removal and of the low-pass filter

The recursion `y = x - x' + 0.995 y'` forgets, and the distance of `y` from `x` is an average of old
samples, so it hardly leaves the range of a sample.
-/

namespace Kerchunk.Scrambler

open BoundedDot (rising falling highest lowest sum_le le_sum)
open Cwid (int16)

def Fits32 (n : Int) : Prop :=
  -2147483648 ≤ n ∧ n ≤ 2147483647

def Fits16 (n : Int) : Prop :=
  -32768 ≤ n ∧ n ≤ 32767

instance (n : Int) : Decidable (Fits16 n) :=
  inferInstanceAs (Decidable (_ ∧ _))

/-- `dc_prev_x` and `dc_prev_y`. -/
structure DcState where
  prevX : Int
  prevY : Int
deriving DecidableEq

def dcNext (st : DcState) (out : Int) : DcState where
  prevX := out
  prevY := out - st.prevX + st.prevY * 32604 / 2 ^ 15

def dcZeroed : DcState where
  prevX := 0
  prevY := 0

/-- Every number that the stage computes for one filter output. -/
structure DcFits (st : DcState) (out : Int) : Prop where
  product : Fits32 (st.prevY * 32604)
  difference : Fits32 (out - st.prevX)
  dc : Fits32 (out - st.prevX + st.prevY * 32604 / 2 ^ 15)
  gain : Fits32 ((out - st.prevX + st.prevY * 32604 / 2 ^ 15) * 2)

def Settled (st : DcState) : Prop :=
  -- The lower end is a whole sample away, and what rounding down has added up to: 32768 / 164.
  Fits16 st.prevX ∧ -32967 ≤ st.prevY - st.prevX ∧ st.prevY - st.prevX ≤ 32768

theorem settled_zeroed : Settled dcZeroed := by
  simp [Settled, Fits16, dcZeroed]

theorem settled_next {st : DcState} (settled : Settled st) {out : Int} (sample : Fits16 out) :
    Settled (dcNext st out) := by
  obtain ⟨old, above, below⟩ := settled
  have average : (dcNext st out).prevY - (dcNext st out).prevX =
      st.prevY * 32604 / 2 ^ 15 - st.prevX := by
    simp only [dcNext]
    omega
  refine ⟨sample, ?_, ?_⟩
  all_goals
    rw [average]
    simp only [Fits16] at old
    omega

theorem settled_fits {st : DcState} (settled : Settled st) {out : Int} (sample : Fits16 out) :
    DcFits st out := by
  obtain ⟨old, above, below⟩ := settled
  simp only [Fits16] at old sample
  constructor <;> (simp only [Fits32]; omega)

/-! ## Over whole sequences -/

theorem fits16_toInt (sample : Int16) : Fits16 sample.toInt := by
  have above := sample.toInt_lt
  have below := sample.le_toInt
  simp only [Fits16]
  omega

theorem dc_never_overflows (outputs : List Int16) :
    Machine.Guarded (fun st (out : Int16) => dcNext st out.toInt) (fun st out => DcFits st out.toInt)
      dcZeroed outputs := by
  refine @Machine.guarded_of_invariant _ _ _ (fun _ _ => True) _ Settled ?_ _ _ settled_zeroed ?_
  next =>
    intro st out settled _
    exact ⟨settled_next settled (fits16_toInt out), settled_fits settled (fits16_toInt out)⟩
  next => exact Machine.guarded_of_forall _ (fun _ _ _ => trivial) _

/-! ## In the scrambler -/

def ScramblerState.dc (st : ScramblerState) : DcState where
  prevX := st.dcPrevX
  prevY := st.dcPrevY

section Process

variable (tables : Tables) (coeff : List Int)

def filterOutput (st : ScramblerState) (input : Int) : Int :=
  -- What the second filter hands to the DC removal.
  let mixed := (firProcess coeff st.delayIn st.posIn input).1 * tables.sine st.ncoPhase / 2 ^ 15
  (firProcess coeff st.delayOut st.posOut (int16 mixed)).1

theorem scramblerSample_dc (st : ScramblerState) (input : Int) :
    (scramblerSample tables coeff st input).2.dc =
      dcNext st.dc (filterOutput tables coeff st input) := rfl

theorem fits16_int16 (n : Int) : Fits16 (int16 n) := by
  have above := @Int.bmod_lt n 65536 (by decide)
  have below := @Int.le_bmod n 65536 (by decide)
  simp only [Fits16, int16]
  omega

theorem process_dc_fits (ncoInc : UInt32) (inputs : List Int) :
    Machine.Guarded (fun st input => (scramblerSample tables coeff st input).2)
      (fun st input => DcFits st.dc (filterOutput tables coeff st input)) (cleared ncoInc) inputs := by
  refine @Machine.guarded_of_invariant _ _ _ (fun _ _ => True) _ (fun st => Settled st.dc) ?_ _ _
    settled_zeroed ?_
  next =>
    intro st input settled _
    have sample : Fits16 (filterOutput tables coeff st input) := fits16_int16 _
    rw [scramblerSample_dc]
    exact ⟨settled_next settled sample, settled_fits settled sample⟩
  next => exact Machine.guarded_of_forall _ (fun _ _ _ => trivial) _

end Process

/-!
## The filter

The negative coefficients of a filter add to what its positive ones let through, so a table that adds
up to one can still double the peak of a signal.
-/

/-- `g_fir_coeff`. -/
structure FirTable where
  values : List Int16
  whole : values.length = firOrder

def FirTable.coeff (table : FirTable) : List Int :=
  table.values.map Int16.toInt

/-- A delay line, and the position of the next sample in it. -/
structure Line where
  delay : List Int
  pos : Nat
deriving DecidableEq

def lineZeroed : Line where
  delay := List.replicate firOrder 0
  pos := 0

def Line.stored (line : Line) (input : Int) : List Int :=
  line.delay.set line.pos input

def lineNext (line : Line) (input : Int) : Line where
  delay := line.stored input
  pos := (line.pos + 1) % firOrder

section Filter

variable (coeff : List Int)

def weight (i : Nat) : Int :=
  coeff.getD i 0

def accumulator (delay : List Int) (pos taps : Nat) : Int :=
  -- `acc` after the first taps.
  ((List.range taps).map fun i => delay.getD ((pos + firOrder - i) % firOrder) 0 * weight coeff i).sum

/-- The accumulator fits at every turn of the loop, and so does what is returned of it. -/
structure Unwrapped (line : Line) (input : Int) : Prop where
  accumulates : ∀ taps, taps ≤ firOrder → Fits32 (accumulator coeff (line.stored input) line.pos taps)
  returns : (firProcess coeff line.delay line.pos input).1 =
    accumulator coeff (line.stored input) line.pos firOrder / 2 ^ 15

theorem firProcess_eq (line : Line) (input : Int) :
    firProcess coeff line.delay line.pos input =
      (int16 (accumulator coeff (line.stored input) line.pos firOrder / 2 ^ 15),
        (lineNext line input).delay, (lineNext line input).pos) := rfl

def Faithful (inputs : List Int16) : Prop :=
  -- The filter wraps nowhere along the samples.
  Machine.Guarded (fun line (input : Int16) => lineNext line input.toInt)
    (fun line input => Unwrapped coeff line input.toInt) lineZeroed inputs

def positive : Int :=
  rising (weight coeff) (Finset.range firOrder)

def negative : Int :=
  falling (weight coeff) (Finset.range firOrder)

/-- The loudest samples that the coefficients can meet, upwards and downwards. -/
structure Headroom : Prop where
  upward : 32767 * positive coeff + 32768 * negative coeff < 2 ^ 30
  downward : 32768 * positive coeff + 32767 * negative coeff ≤ 2 ^ 30

variable {coeff}

/-! ### Filters with headroom -/

theorem accumulator_sum (delay : List Int) (pos taps : Nat) :
    accumulator coeff delay pos taps =
      ∑ i ∈ Finset.range taps, delay.getD ((pos + firOrder - i) % firOrder) 0 * weight coeff i := rfl

def Sampled (delay : List Int) : Prop :=
  ∀ value ∈ delay, Fits16 value

theorem Sampled.get {delay : List Int} (sampled : Sampled delay) (i : Nat) : Fits16 (delay.getD i 0) := by
  by_cases inside : i < delay.length
  next =>
    rw [List.getD_eq_getElem _ _ inside]
    exact sampled _ (List.getElem_mem inside)
  next =>
    rw [List.getD_eq_default _ _ (Nat.not_lt.mp inside)]
    simp [Fits16]

theorem Sampled.stored {line : Line} (sampled : Sampled line.delay) {input : Int}
    (sample : Fits16 input) : Sampled (line.stored input) := by
  intro value member
  rcases List.mem_or_eq_of_mem_set member with old | rfl
  next => exact sampled value old
  next => exact sample

theorem accumulator_range {delay : List Int} (sampled : Sampled delay) (pos taps : Nat) :
    -32768 * rising (weight coeff) (Finset.range taps) -
          32767 * falling (weight coeff) (Finset.range taps) ≤ accumulator coeff delay pos taps ∧
      accumulator coeff delay pos taps ≤ 32767 * rising (weight coeff) (Finset.range taps) -
        -32768 * falling (weight coeff) (Finset.range taps) := by
  rw [accumulator_sum]
  exact ⟨le_sum (fun i _ => (sampled.get _).1) fun i _ => (sampled.get _).2,
    sum_le (fun i _ => (sampled.get _).1) fun i _ => (sampled.get _).2⟩

theorem unwrapped_of_headroom (room : Headroom coeff) {line : Line} (sampled : Sampled line.delay)
    {input : Int} (sample : Fits16 input) : Unwrapped coeff line input := by
  have upward := room.upward
  have downward := room.downward
  have stored := sampled.stored sample
  constructor
  next =>
    intro taps few
    obtain ⟨above, below⟩ := @accumulator_range coeff _ stored line.pos taps
    have inside := Finset.range_mono few
    have up := BoundedDot.rising_mono (weight coeff) inside
    have down := BoundedDot.falling_mono (weight coeff) inside
    have least := BoundedDot.rising_nonneg (weight coeff) (Finset.range taps)
    have few_down := BoundedDot.falling_nonneg (weight coeff) (Finset.range taps)
    unfold positive negative at upward downward
    simp only [Fits32]
    omega
  next =>
    obtain ⟨above, below⟩ := @accumulator_range coeff _ stored line.pos firOrder
    rw [firProcess_eq]
    apply Int.bmod_eq_of_le
    all_goals
      unfold positive negative at upward downward
      omega

theorem faithful_of_headroom (room : Headroom coeff) (inputs : List Int16) : Faithful coeff inputs := by
  refine @Machine.guarded_of_invariant _ _ _ (fun _ _ => True) _ (fun line => Sampled line.delay)
    ?_ _ _ ?_ ?_
  next =>
    intro line input sampled _
    have sample := fits16_toInt input
    exact ⟨sampled.stored sample, unwrapped_of_headroom room sampled sample⟩
  next =>
    intro value member
    rw [List.eq_of_mem_replicate member]
    simp [Fits16]
  next => exact Machine.guarded_of_forall _ (fun _ _ _ => trivial) _

/-! ### The loudest samples -/

def settle (inputs : List Int16) : Line :=
  Machine.run (fun line (input : Int16) => lineNext line input.toInt) lineZeroed inputs

theorem settle_filled {inputs : List Int16} (short : inputs.length < firOrder) :
    settle inputs =
      { delay := inputs.map Int16.toInt ++ List.replicate (firOrder - inputs.length) 0
        pos := inputs.length } := by
  -- The line fills from the left until it is full.
  induction inputs using List.reverseRecOn with
  | nil => rfl
  | append_singleton inputs last ih =>
    rw [List.length_append, List.length_singleton] at short
    have room : firOrder - inputs.length = firOrder - (inputs.length + 1) + 1 := by omega
    have before := ih (by omega)
    unfold settle at before ⊢
    rw [Machine.run_append, before, Machine.run_cons, Machine.run_nil]
    simp only [lineNext, Line.stored, List.length_append, List.length_singleton, List.map_append,
      Nat.mod_eq_of_lt short, Line.mk.injEq, and_true]
    rw [List.set_append_right _ _ (by rw [List.length_map]), List.length_map, Nat.sub_self, room,
      List.replicate_succ, List.set_cons_zero, List.append_assoc]
    rfl

theorem accumulator_last {inputs : List Int16} (full : inputs.length = firOrder)
    (faithful : Faithful coeff inputs) :
    Fits16 (accumulator coeff (inputs.map Int16.toInt) (firOrder - 1) firOrder / 2 ^ 15) := by
  obtain ⟨before, last, rfl⟩ := inputs.eq_nil_or_concat.resolve_left (by rintro rfl; cases full)
  rw [List.concat_eq_append, List.length_append, List.length_singleton] at full
  have count : before.length = firOrder - 1 := by omega
  rw [List.concat_eq_append, Faithful, Machine.guarded_append] at faithful
  have unwrapped := faithful.2.1
  have filled := settle_filled (show before.length < firOrder by omega)
  unfold settle at filled
  rw [filled, count] at unwrapped
  have returned := unwrapped.returns
  have stored : (Line.mk (before.map Int16.toInt ++ List.replicate (firOrder - (firOrder - 1)) 0)
      (firOrder - 1)).stored last.toInt = (before.concat last).map Int16.toInt := by
    rw [Line.stored, ← count, List.set_append_right _ _ (by rw [List.length_map]), List.length_map,
      Nat.sub_self, count]
    simp [firOrder]
  rw [firProcess_eq, stored] at returned
  rw [← returned]
  exact fits16_int16 _

/-- What the filter has seen when the tap `i` meets the sample `peak i`. -/
def peaks (peak : Nat → Int16) : List Int16 :=
  (List.range firOrder).map fun i => peak (firOrder - 1 - i)

theorem accumulator_peaks (peak : Nat → Int16) :
    accumulator coeff ((peaks peak).map Int16.toInt) (firOrder - 1) firOrder =
      ∑ i ∈ Finset.range firOrder, (peak i).toInt * weight coeff i := by
  rw [accumulator_sum]
  apply Finset.sum_congr rfl
  intro i member
  have inside := Finset.mem_range.mp member
  have place : (firOrder - 1 + firOrder - i) % firOrder = firOrder - 1 - i := by
    unfold firOrder at inside ⊢
    omega
  have near : firOrder - 1 - i < firOrder := by omega
  have back : firOrder - 1 - (firOrder - 1 - i) = i := by omega
  rw [place]
  simp [peaks, List.getD_eq_getElem?_getD, List.getElem?_range near, back]

theorem headroom_of_faithful (faithful : ∀ inputs, Faithful coeff inputs) : Headroom coeff := by
  have extreme (peak : Nat → Int16) := accumulator_last (by simp [peaks]) (faithful (peaks peak))
  simp only [accumulator_peaks] at extreme
  constructor
  next =>
    have up := extreme fun i => if 0 ≤ weight coeff i then 32767 else -32768
    have all : ∑ i ∈ Finset.range firOrder,
        (if 0 ≤ weight coeff i then (32767 : Int16) else -32768).toInt * weight coeff i =
          32767 * positive coeff - -32768 * negative coeff := by
      rw [positive, negative, ← BoundedDot.sum_highest]
      apply Finset.sum_congr rfl
      intro i _
      unfold highest
      split <;> rfl
    rw [all] at up
    simp only [Fits16] at up
    omega
  next =>
    have down := extreme fun i => if 0 ≤ weight coeff i then -32768 else 32767
    have all : ∑ i ∈ Finset.range firOrder,
        (if 0 ≤ weight coeff i then (-32768 : Int16) else 32767).toInt * weight coeff i =
          -32768 * positive coeff - 32767 * negative coeff := by
      rw [positive, negative, ← BoundedDot.sum_lowest]
      apply Finset.sum_congr rfl
      intro i _
      unfold lowest
      split <;> rfl
    rw [all] at down
    simp only [Fits16] at down
    omega

end Filter

/-! ### Tables of the design -/

/-- The coefficients add up to one, and each is at most one off. -/
def FirTable.Normalised (table : FirTable) : Prop :=
  (table.coeff.sum - 32767).natAbs ≤ firOrder

theorem filter_faithful_iff (table : FirTable) :
    (∀ inputs, Faithful table.coeff inputs) ↔ Headroom table.coeff :=
  ⟨headroom_of_faithful, faithful_of_headroom⟩

/-- Code 4 at 48 kHz: a cutoff of 3000 Hz. -/
def voiceTable : FirTable where
  values := [-20, -46, -88, -145, -202, -227, -175, 0, 334, 836, 1480, 2205, 2922, 3532, 3941, 4085,
    3941, 3532, 2922, 2205, 1480, 836, 334, 0, -175, -227, -202, -145, -88, -46, -20]
  whole := rfl

def loudSamples : List Int16 :=
  peaks fun i => if 0 ≤ weight voiceTable.coeff i then 32767 else -32768

-- The accumulator stands for 36389 and the filter returns -29147.
theorem voice_filter_wraps : voiceTable.Normalised ∧ ¬ Faithful voiceTable.coeff loudSamples := by
  constructor
  next =>
    unfold FirTable.Normalised
    decide
  next =>
    intro faithful
    have returned := accumulator_last rfl faithful
    revert returned
    decide +kernel

end Kerchunk.Scrambler
