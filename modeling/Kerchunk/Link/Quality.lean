import Kerchunk.Lib.Serial
import Mathlib.Data.Finset.Card
import Mathlib.Order.Interval.Finset.Nat
import Mathlib.Data.List.Induction

set_option autoImplicit false

/-!
# Loss accounting of the link client (`modules/mod_link.c`)

A receive order is a list of the numbers that the sender gave its packets, before they were cut to
16 bits.
-/

namespace Kerchunk.Link

open Serial (Seq ahead wire)

def reorderWindow : Nat := 200

structure Quality where
  recvLastSeq : Seq
  recvHaveSeq : Bool
  recvLost : Int
  recvReceived : Int
deriving DecidableEq

namespace Quality

def init : Quality where
  recvLastSeq := 0
  recvHaveSeq := false
  recvLost := 0
  recvReceived := 0

def qualityTrackSeq (q : Quality) (seq : Seq) : Quality :=
  if !q.recvHaveSeq then
    { q with recvHaveSeq := true, recvLastSeq := seq, recvReceived := q.recvReceived + 1 }
  else
    let delta := ahead seq q.recvLastSeq
    let q :=
      if delta > 0 then
        { q with
          recvLost := if delta < reorderWindow then q.recvLost + (delta - 1) else q.recvLost
          recvLastSeq := seq }
      else if delta < 0 ∧ delta > -reorderWindow then
        { q with recvLost := if q.recvLost > 0 then q.recvLost - 1 else q.recvLost }
      else q
    if delta ≠ 0 then { q with recvReceived := q.recvReceived + 1 } else q

def lossPctX10 (lost received : Int) : Option Int :=
  -- The loss in tenths of a percent, when the window has packets enough for a report.
  let total := received + lost
  if total < 30 then none else some (if total > 0 then (lost * 1000).tdiv total else 0)

def sendQualityReport (q : Quality) (connected : Bool) : Option Int × Quality :=
  -- `connected` is `g_ws && g_session_active`.
  if !connected then (none, q)
  else (lossPctX10 q.recvLost q.recvReceived, { q with recvLost := 0, recvReceived := 0 })

theorem lost_nonneg {q : Quality} (nonneg : 0 ≤ q.recvLost) (seq : Seq) :
    0 ≤ (q.qualityTrackSeq seq).recvLost := by
  unfold qualityTrackSeq
  grind

/-! ## What a packet does to the count -/

section

variable {q : Quality} {seq : Seq}

theorem track_first (fresh : q.recvHaveSeq = false) : q.qualityTrackSeq seq =
    { q with recvHaveSeq := true, recvLastSeq := seq, recvReceived := q.recvReceived + 1 } := by
  simp [qualityTrackSeq, fresh]

theorem track_ahead (seen : q.recvHaveSeq = true) (later : 0 < ahead seq q.recvLastSeq)
    (near : ahead seq q.recvLastSeq < reorderWindow) : q.qualityTrackSeq seq =
    { q with
      recvLost := q.recvLost + (ahead seq q.recvLastSeq - 1)
      recvLastSeq := seq
      recvReceived := q.recvReceived + 1 } := by
  have moved : ahead seq q.recvLastSeq ≠ 0 := by omega
  simp [qualityTrackSeq, seen, later, near, moved]

theorem track_late (seen : q.recvHaveSeq = true) (late : ahead seq q.recvLastSeq < 0)
    (near : -reorderWindow < ahead seq q.recvLastSeq) (nonneg : 0 ≤ q.recvLost) :
    q.qualityTrackSeq seq =
      { q with
        recvLost := max (q.recvLost - 1) 0
        recvReceived := q.recvReceived + 1 } := by
  have moved : ahead seq q.recvLastSeq ≠ 0 := by omega
  have notLater : ¬ 0 < ahead seq q.recvLastSeq := by omega
  have credited : (if q.recvLost > 0 then q.recvLost - 1 else q.recvLost) =
      max (q.recvLost - 1) 0 := by
    split <;> omega
  simp [qualityTrackSeq, seen, notLater, late, near, moved, credited]

end

end Quality

/-! ## Receive orders -/

def high (seen : List Nat) : Nat :=
  -- The highest number that has arrived.
  seen.foldl max 0

@[simp] theorem high_snoc (seen : List Nat) (s : Nat) : high (seen ++ [s]) = max (high seen) s := by
  simp [high]

theorem le_high {seen : List Nat} {s : Nat} (arrived : s ∈ seen) : s ≤ high seen := by
  induction seen using List.reverseRecOn with
  | nil => cases arrived
  | append_singleton seen t ih =>
    rw [high_snoc]
    rcases List.mem_append.mp arrived with old | new
    next => exact (ih old).trans (le_max_left ..)
    next => exact List.mem_singleton.mp new ▸ le_max_right ..

theorem high_mem {seen : List Nat} (some_arrived : seen ≠ []) : high seen ∈ seen := by
  induction seen using List.reverseRecOn with
  | nil => exact absurd rfl some_arrived
  | append_singleton seen t ih =>
    rw [high_snoc]
    by_cases none_before : seen = []
    next => simp [none_before, high]
    next =>
      rcases max_choice (high seen) t with old | new
      next => simp [old, ih none_before]
      next => simp [new]

/-- The numbers from `base` to `base + n - 1` arrive once at most, the first and the last of them
among others, and each within the reorder window of the highest number so far. -/
structure Stream (base n : Nat) (order : List Nat) : Prop where
  distinct : order.Nodup
  range : ∀ s ∈ order, base ≤ s ∧ s < base + n
  ends : 0 < n → base ∈ order ∧ base + n - 1 ∈ order
  near : ∀ before s after, order = before ++ s :: after → before ≠ [] →
    s < high before + reorderWindow ∧ high before < s + reorderWindow

def receive (order : List Nat) : Quality :=
  (order.map wire).foldl Quality.qualityTrackSeq Quality.init

theorem receive_snoc (order : List Nat) (s : Nat) :
    receive (order ++ [s]) = (receive order).qualityTrackSeq (wire s) := by
  simp [receive]

/-- The counters say what has arrived of the stream and what has not. -/
structure Accurate (n : Nat) (order : List Nat) : Prop where
  received : (receive order).recvReceived = order.length
  lost : (receive order).recvLost = n - order.length
  nonneg : ∀ before after, order = before ++ after → 0 ≤ (receive before).recvLost

/-- All packets older than the first to arrive arrive too; and at one moment, when the last of them
has, no number between the first to arrive and the highest is outstanding. -/
def Settles (base : Nat) (order : List Nat) : Prop :=
  ∀ first ∈ order.head?, (∀ s, base ≤ s → s < first → s ∈ order) ∧
    ∃ before after, order = before ++ after ∧ before ≠ [] ∧ (∀ s ∈ after, first ≤ s) ∧
      ∀ s, first ≤ s → s ≤ high before → s ∈ before

/-! ## What is outstanding -/

def missing (first : Nat) (seen : List Nat) : Finset Nat :=
  -- The numbers from the first to the highest that have not arrived.
  (Finset.Icc first (high seen)).filter (· ∉ seen)

def older (first : Nat) (seen : List Nat) : Nat :=
  seen.countP (· < first)

def balance (first : Nat) (seen : List Nat) : Int :=
  -- What the count would be if it could go below 0.
  (missing first seen).card - older first seen

section

variable {first s : Nat} {seen : List Nat}

theorem missing_ahead (started : first ≤ high seen) (ahead : high seen < s) :
    (missing first (seen ++ [s])).card = (missing first seen).card + (s - high seen - 1) := by
  have split : missing first (seen ++ [s]) = missing first seen ∪ Finset.Ioo (high seen) s := by
    ext x
    have beyond : high seen < x → x ∉ seen := fun above arrived =>
      absurd (le_high arrived) (Nat.not_le.mpr above)
    simp only [missing, high_snoc, Finset.mem_filter, Finset.mem_Icc, Finset.mem_union,
      Finset.mem_Ioo, List.mem_append, List.mem_singleton, not_or]
    constructor
    next =>
      rintro ⟨⟨low, up⟩, absent, other⟩
      by_cases inside : x ≤ high seen
      next => exact Or.inl ⟨⟨low, inside⟩, absent⟩
      next => exact Or.inr ⟨by omega, by omega⟩
    next =>
      rintro (⟨⟨low, up⟩, absent⟩ | ⟨low, up⟩)
      next => exact ⟨⟨low, by omega⟩, absent, by omega⟩
      next => exact ⟨⟨by omega, by omega⟩, beyond low, by omega⟩
  have apart : Disjoint (missing first seen) (Finset.Ioo (high seen) s) := by
    rw [Finset.disjoint_left]
    intro x inside beyond
    simp only [missing, Finset.mem_filter, Finset.mem_Icc, Finset.mem_Ioo] at inside beyond
    omega
  rw [split, Finset.card_union_of_disjoint apart, Nat.card_Ioo]

theorem missing_late (later : first ≤ s) (late : s < high seen) (fresh : s ∉ seen) :
    (missing first (seen ++ [s])).card + 1 = (missing first seen).card := by
  have split : missing first seen = insert s (missing first (seen ++ [s])) := by
    ext x
    have highest : max (high seen) s = high seen := by omega
    simp only [missing, high_snoc, highest, Finset.mem_filter, Finset.mem_Icc, Finset.mem_insert,
      List.mem_append, List.mem_singleton, not_or]
    by_cases same : x = s
    next =>
      subst same
      simp [later, late.le, fresh]
    next => simp [same]
  have absent : s ∉ missing first (seen ++ [s]) := by simp [missing]
  rw [split, Finset.card_insert_of_notMem absent]

theorem missing_older (before : s < first) (started : first ≤ high seen) :
    missing first (seen ++ [s]) = missing first seen := by
  ext x
  have highest : max (high seen) s = high seen := by omega
  simp only [missing, high_snoc, highest, Finset.mem_filter, Finset.mem_Icc, List.mem_append,
    List.mem_singleton, not_or]
  constructor
  next => exact fun ⟨inside, absent, _⟩ => ⟨inside, absent⟩
  next => exact fun ⟨inside, absent⟩ => ⟨inside, absent, by omega⟩

theorem balance_ahead (started : first ≤ high seen) (ahead : high seen < s) :
    balance first (seen ++ [s]) = balance first seen + ((s : Int) - high seen - 1) := by
  have notOlder : ¬ s < first := by omega
  simp only [balance, missing_ahead started ahead, older, List.countP_append, List.countP_singleton,
    notOlder, decide_false, Bool.false_eq_true, if_false, Nat.add_zero]
  omega

variable (first) in
theorem balance_late (started : first ≤ high seen) (late : s < high seen) (fresh : s ∉ seen) :
    balance first (seen ++ [s]) = balance first seen - 1 := by
  -- A packet that arrives late lowers the balance, whether it was charged or not.
  by_cases before : s < first
  next =>
    simp only [balance, missing_older before started, older, List.countP_append,
      List.countP_singleton, before, decide_true, if_true]
    omega
  next =>
    have less := missing_late (Nat.not_lt.mp before) late fresh
    simp only [balance, older, List.countP_append, List.countP_singleton, before, decide_false,
      Bool.false_eq_true, if_false, Nat.add_zero]
    omega

end

/-! ## The count follows the balance -/

/-- The least balance since the first packet. -/
structure Lowest (first : Nat) (seen : List Nat) (low : Int) : Prop where
  reached : ∃ early, early <+: seen ∧ early ≠ [] ∧ balance first early = low
  least : ∀ early, early <+: seen → early ≠ [] → low ≤ balance first early

theorem lowest_snoc {first s : Nat} {seen : List Nat} {low : Int} (lowest : Lowest first seen low) :
    Lowest first (seen ++ [s]) (min low (balance first (seen ++ [s]))) where
  reached := by
    rcases min_choice low (balance first (seen ++ [s])) with old | new
    next =>
      obtain ⟨early, before, some_arrived, same⟩ := lowest.reached
      exact ⟨early, before.trans (List.prefix_append ..), some_arrived, by rw [old, same]⟩
    next => exact ⟨seen ++ [s], List.prefix_refl _, by simp, new.symm⟩
  least early before some_arrived := by
    rcases List.prefix_concat_iff.mp before with all | older
    next => exact all ▸ min_le_right ..
    next => exact (min_le_left ..).trans (lowest.least early older some_arrived)

structure Knows (first : Nat) (seen : List Nat) (q : Quality) : Prop where
  haveSeq : q.recvHaveSeq = true
  lastSeq : q.recvLastSeq = wire (high seen)
  received : q.recvReceived = seen.length
  lost : ∃ low, Lowest first seen low ∧ q.recvLost = balance first seen - low

theorem knows_first (first : Nat) : Knows first [first] (receive [first]) := by
  have tracked : receive [first] = Quality.init.qualityTrackSeq (wire first) := rfl
  rw [tracked, Quality.track_first rfl]
  have level : balance first [first] = 0 := by
    have none_missing : missing first [first] = ∅ := by
      ext x
      simp [missing, high]
    simp [balance, none_missing, older]
  refine ⟨rfl, by simp [high], by simp [Quality.init], 0, ⟨⟨[first], ?_⟩, ?_⟩, ?_⟩
  next => exact ⟨List.prefix_refl _, by simp, level⟩
  next =>
    intro early before some_arrived
    have all : early = [first] := by
      rcases List.prefix_concat_iff.mp (show early <+: [] ++ [first] from before) with all | none_yet
      next => exact all
      next => exact absurd (List.prefix_nil.mp none_yet) some_arrived
    rw [all, level]
  next => simp [level, Quality.init]

theorem knows_snoc {first s : Nat} {seen : List Nat} (knows : Knows first seen (receive seen))
    (started : first ∈ seen) (fresh : s ∉ seen) (low_near : s < high seen + reorderWindow)
    (high_near : high seen < s + reorderWindow) :
    Knows first (seen ++ [s]) (receive (seen ++ [s])) := by
  obtain ⟨haveSeq, lastSeq, received, low, lowest, lost⟩ := knows
  have below : low ≤ balance first seen :=
    lowest.least seen (List.prefix_refl _) (List.ne_nil_of_mem started)
  have window : reorderWindow = 200 := rfl
  have distance : ahead (wire s) (receive seen).recvLastSeq = (s : Int) - high seen := by
    rw [lastSeq]
    exact Serial.ahead_wire (by omega) (by omega)
  have other : s ≠ high seen := fun same =>
    fresh (same ▸ high_mem (List.ne_nil_of_mem started))
  rw [receive_snoc]
  by_cases later : high seen < s
  next =>
    have charged := balance_ahead (le_high started) later
    rw [Quality.track_ahead haveSeq (by omega) (by omega), distance]
    refine ⟨haveSeq, ?_, by simp [received], _, lowest_snoc lowest, ?_⟩
    next => simp [max_eq_right later.le]
    next =>
      have kept : min low (balance first (seen ++ [s])) = low := by omega
      rw [kept, charged, lost]
      dsimp only
      omega
  next =>
    have credited := balance_late first (le_high started) (by omega : s < high seen) fresh
    rw [Quality.track_late haveSeq (by omega) (by omega) (by omega)]
    refine ⟨haveSeq, ?_, by simp [received], _, lowest_snoc lowest, ?_⟩
    next => simp [lastSeq, max_eq_left (Nat.not_lt.mp later)]
    next =>
      rw [credited, lost]
      dsimp only
      omega

theorem receive_nonneg (order : List Nat) : 0 ≤ (receive order).recvLost := by
  induction order using List.reverseRecOn with
  | nil => exact Int.le_refl 0
  | append_singleton order s ih =>
    rw [receive_snoc]
    exact Quality.lost_nonneg ih _

theorem stream_known {base n : Nat} {before after : List Nat} (stream : Stream base n (before ++ after))
    (first : Nat) (started : before.head? = some first) : Knows first before (receive before) := by
  induction before using List.reverseRecOn generalizing after with
  | nil => cases started
  | append_singleton before s ih =>
    by_cases none_before : before = []
    next =>
      subst none_before
      obtain rfl : s = first := by simpa using started
      exact knows_first s
    next =>
      have earlier : before.head? = some first := by
        rwa [List.head?_append_of_ne_nil _ none_before] at started
      rw [List.append_assoc] at stream
      have fresh : s ∉ before := fun again =>
        List.disjoint_of_nodup_append stream.distinct again (by simp)
      obtain ⟨low_near, high_near⟩ := stream.near before s after rfl none_before
      exact knows_snoc (ih stream earlier) (List.mem_of_head? earlier) fresh low_near high_near

/-! ## The count at the end of a stream -/

section

variable {base n first : Nat} {order : List Nat}

theorem stream_high (stream : Stream base n order) (some_arrived : order ≠ []) :
    high order = base + n - 1 := by
  have top := stream.range _ (high_mem some_arrived)
  have last := le_high (stream.ends (by omega)).2
  omega

variable (first) in
theorem older_card (stream : Stream base n order) :
    older first order = (order.toFinset.filter (· < first)).card := by
  rw [older, List.countP_eq_length_filter, ← List.toFinset_card_of_nodup (stream.distinct.filter _),
    List.toFinset_filter]
  simp

variable (first) in
theorem older_subset (stream : Stream base n order) :
    order.toFinset.filter (· < first) ⊆ Finset.Ico base first := fun x member => by
  simp only [Finset.mem_filter, List.mem_toFinset] at member
  exact Finset.mem_Ico.mpr ⟨(stream.range x member.1).1, member.2⟩

theorem stream_counts (stream : Stream base n order) (started : order.head? = some first) :
    (missing first order).card + order.length = n - (first - base) + older first order ∧
      older first order ≤ first - base := by
  -- The packets that never arrive are older than the first to arrive, or outstanding at the end.
  have arrived := List.mem_of_head? started
  have bounds := stream.range first arrived
  have top := stream_high stream (List.ne_nil_of_mem arrived)
  have split : order.length = (order.toFinset.filter (· < first)).card +
      (order.toFinset.filter (¬ · < first)).card := by
    rw [Finset.card_filter_add_card_filter_not, List.toFinset_card_of_nodup stream.distinct]
  have few := older_card first stream
  have rest : (missing first order).card + (order.toFinset.filter (¬ · < first)).card =
      n - (first - base) := by
    have within : order.toFinset.filter (¬ · < first) =
        (Finset.Icc first (high order)).filter (· ∈ order) := by
      ext x
      simp only [Finset.mem_filter, List.mem_toFinset, Finset.mem_Icc]
      exact ⟨fun ⟨present, up⟩ => ⟨⟨by omega, le_high present⟩, present⟩,
        fun ⟨⟨low, _⟩, present⟩ => ⟨present, by omega⟩⟩
    rw [within, missing, add_comm, Finset.card_filter_add_card_filter_not, Nat.card_Icc, top]
    omega
  refine ⟨by omega, ?_⟩
  calc older first order ≤ (Finset.Ico base first).card :=
        few ▸ Finset.card_le_card (older_subset first stream)
    _ = first - base := Nat.card_Ico ..

variable (first) in
theorem older_full (stream : Stream base n order) :
    older first order = first - base ↔ ∀ s, base ≤ s → s < first → s ∈ order := by
  have inside := older_subset first stream
  rw [older_card first stream, ← Nat.card_Ico]
  constructor
  next =>
    intro full s low up
    have all := Finset.eq_of_subset_of_card_le inside full.ge
    have member : s ∈ Finset.Ico base first := Finset.mem_Ico.mpr ⟨low, up⟩
    rw [← all] at member
    exact List.mem_toFinset.mp (Finset.mem_of_mem_filter s member)
  next =>
    intro all
    refine congrArg Finset.card (inside.antisymm fun s member => ?_)
    obtain ⟨low, up⟩ := Finset.mem_Ico.mp member
    exact Finset.mem_filter.mpr ⟨List.mem_toFinset.mpr (all s low up), up⟩

variable (first) in
theorem older_prefix {early : List Nat} (before : early <+: order) :
    older first early ≤ older first order :=
  before.sublist.countP_le

theorem older_rest {before after : List Nat} :
    older first before = older first (before ++ after) ↔ ∀ s ∈ after, first ≤ s := by
  -- Nothing older comes after a prefix that has all the older ones.
  simp [older, List.countP_append]

theorem missing_empty {before : List Nat} :
    (missing first before).card = 0 ↔ ∀ s, first ≤ s → s ≤ high before → s ∈ before := by
  rw [Finset.card_eq_zero, missing, Finset.filter_eq_empty_iff]
  simp only [Finset.mem_Icc, not_not, and_imp]

end

/-- Every older packet has arrived and nothing was outstanding, at the moment of the least
balance. -/
theorem lowest_settles {base n first : Nat} {order : List Nat} {low : Int}
    (stream : Stream base n order) (started : order.head? = some first)
    (lowest : Lowest first order low) : low = -((first - base : Nat) : Int) ↔ Settles base order := by
  have few := (stream_counts stream started).2
  constructor
  next =>
    intro bottom
    obtain ⟨before, ⟨after, rfl⟩, some_arrived, level⟩ := lowest.reached
    have fewer := older_prefix first (List.prefix_append before after)
    simp only [balance] at level
    have all_older : older first before = older first (before ++ after) := by omega
    have settled : (missing first before).card = 0 := by omega
    intro other head
    obtain rfl : first = other := Option.some.inj (started.symm.trans head)
    exact ⟨(older_full first stream).mp (by omega), before, after, rfl, some_arrived,
      older_rest.mp all_older, missing_empty.mp settled⟩
  next =>
    intro settles
    obtain ⟨present, before, after, rfl, some_arrived, no_older, settled⟩ := settles first started
    have all_older : older first before = older first (before ++ after) :=
      older_rest.mpr no_older
    have none_missing := missing_empty.mpr settled
    have full := (older_full first stream).mpr present
    have below := lowest.least before (List.prefix_append ..) some_arrived
    obtain ⟨early, is_prefix, -, level⟩ := lowest.reached
    have fewer := older_prefix first is_prefix
    simp only [balance] at below level
    omega

theorem accurate_iff_settles {base n : Nat} {order : List Nat} (stream : Stream base n order) :
    Accurate n order ↔ Settles base order := by
  have nonneg : ∀ before after, order = before ++ after → 0 ≤ (receive before).recvLost :=
    fun before _ _ => receive_nonneg before
  cases started : order.head? with
  | none =>
    obtain rfl := List.head?_eq_none_iff.mp started
    have empty : n = 0 := by
      by_contra positive
      cases (stream.ends (Nat.pos_of_ne_zero positive)).1
    exact iff_of_true ⟨rfl, by rw [empty]; rfl, nonneg⟩ (by simp [Settles])
  | some first =>
    obtain ⟨-, -, received, low, lowest, lost⟩ :=
      @stream_known base n order [] (by simpa using stream) first started
    obtain ⟨counts, few⟩ := stream_counts stream started
    have bounds := stream.range first (List.mem_of_head? started)
    simp only [balance] at lost
    rw [← lowest_settles stream started lowest]
    constructor
    next =>
      intro accurate
      have exact_loss := accurate.lost
      omega
    next =>
      intro bottom
      exact ⟨received, by omega, nonneg⟩

theorem complete_settles {base n : Nat} {order : List Nat} (stream : Stream base n order)
    (complete : order.length = n) : Settles base order := by
  -- A stream of which nothing is lost settles in whatever order it comes.
  have inside : order.toFinset ⊆ Finset.Ico base (base + n) := fun s arrived =>
    Finset.mem_Ico.mpr (stream.range s (List.mem_toFinset.mp arrived))
  have all : order.toFinset = Finset.Ico base (base + n) := by
    refine Finset.eq_of_subset_of_card_le inside ?_
    rw [Nat.card_Ico, List.toFinset_card_of_nodup stream.distinct]
    omega
  have arrives : ∀ s, base ≤ s → s < base + n → s ∈ order := fun s low up =>
    List.mem_toFinset.mp (all ▸ Finset.mem_Ico.mpr ⟨low, up⟩)
  intro first head
  have some_arrived := List.ne_nil_of_mem (List.mem_of_head? head)
  have bounds := stream.range first (List.mem_of_head? head)
  have top := stream.range _ (high_mem some_arrived)
  refine ⟨fun s low up => arrives s low (by omega), order, [], (List.append_nil _).symm, some_arrived,
    nofun, fun s low up => arrives s (by omega) (by omega)⟩

theorem short_stream {base n : Nat} {order : List Nat} (short : n ≤ reorderWindow)
    (distinct : order.Nodup) (range : ∀ s ∈ order, base ≤ s ∧ s < base + n)
    (ends : 0 < n → base ∈ order ∧ base + n - 1 ∈ order) : Stream base n order where
  -- No packet of a short range is displaced by as much as the window.
  distinct := distinct
  range := range
  ends := ends
  near before s after split some_arrived := by
    subst split
    have now := range s (by simp)
    have top := range (high before) (List.mem_append_left _ (high_mem some_arrived))
    omega

/-- Around the wrap, 65536 never arrives and 65535 comes late. -/
theorem late_packet_settles : Accurate 5 [65533, 65534, 65537, 65535] ↔
    Settles 65533 [65533, 65534, 65537, 65535] :=
  accurate_iff_settles (short_stream (by decide) (by decide) (by decide) (by decide))

/-- 0 is older than the first packet to arrive and takes back the charge for 2, which is lost. -/
theorem older_packet_hides_loss :
    Stream 0 5 [1, 3, 0, 4] ∧ ¬ Accurate 5 [1, 3, 0, 4] := by
  refine ⟨short_stream (by decide) (by decide) (by decide) (by decide), fun accurate => ?_⟩
  have lost := accurate.lost
  revert lost
  decide

end Kerchunk.Link
