import Mathlib.Algebra.BigOperators.Group.Finset.Basic
import Mathlib.Algebra.BigOperators.Intervals
import Mathlib.Data.Fintype.Card
import Mathlib.Order.Interval.Finset.Nat

set_option autoImplicit false

/-!
# Round robins

A ring of `n` slots with a write pointer keeps what belongs to the last `n` periods. When a period of
a slower ring ends, the total of a faster one is stored for it.
-/

namespace RoundRobin

variable {S : Type} {n : Nat} [NeZero n]

structure Ring (S : Type) (n : Nat) where
  idx : Fin n
  slots : Fin n → S

def Ring.current (r : Ring S n) : S :=
  r.slots r.idx

def Ring.write (r : Ring S n) (x : S) : Ring S n :=
  { r with slots := Function.update r.slots r.idx x }

def Ring.advance [Zero S] (r : Ring S n) : Ring S n :=
  -- The next slot becomes the current one, and is cleared.
  let next := Fin.ofNat n (r.idx + 1)
  { idx := next, slots := Function.update r.slots next 0 }

def Ring.rotate [Zero S] (r : Ring S n) : Nat → Ring S n
  | 0 => r
  | count + 1 => r.advance.rotate count

def Ring.close [Zero S] (r : Ring S n) (x : S) : Nat → Ring S n
  -- Periods end one after another, the same amount being stored for each.
  | 0 => r
  | count + 1 => (r.write x).advance.close x count

def Ring.total [AddCommMonoid S] (r : Ring S n) : S :=
  ∑ i, r.slots i

def empty [Zero S] : Ring S n where
  idx := 0
  slots := fun _ => 0

/-! ## What a ring shows -/

/-- In the period `now` the ring keeps what the history has for this and the `n - 1` periods before
it. -/
structure Shows (r : Ring S n) (history : Nat → S) (now : Nat) : Prop where
  round : n ≤ now
  idx : r.idx = Fin.ofNat n now
  slots : ∀ k, now < k + n → k ≤ now → r.slots (Fin.ofNat n k) = history k

variable {r : Ring S n} {history : Nat → S} {now : Nat}

theorem slot_ne {j k : Nat} (order : j < k) (near : k < j + n) : Fin.ofNat n j ≠ Fin.ofNat n k := by
  -- Fewer than `n` periods apart the slots differ.
  intro same
  have remainders : k % n = j % n := congrArg Fin.val same.symm
  have divides : n ∣ k - j :=
    Nat.dvd_of_mod_eq_zero (Nat.sub_mod_eq_zero_of_mod_eq remainders)
  have apart := Nat.le_of_dvd (by omega) divides
  omega

theorem slot_injOn (now : Nat) : Set.InjOn (Fin.ofNat n) (Finset.Ioc (now - n) now) := by
  intro j inWindow k inWindow' same
  simp only [Finset.coe_Ioc, Set.mem_Ioc] at inWindow inWindow'
  rcases Nat.lt_trichotomy j k with less | equal | greater
  next => exact absurd same (slot_ne less (by omega))
  next => exact equal
  next => exact absurd same.symm (slot_ne greater (by omega))

theorem Shows.congr {other : Nat → S} (shows : Shows r history now)
    (same : ∀ k, now < k + n → k ≤ now → history k = other k) : Shows r other now :=
  ⟨shows.round, shows.idx, fun k recent past => (shows.slots k recent past).trans
    (same k recent past)⟩

theorem shows_empty [Zero S] : Shows (empty : Ring S n) (fun _ => 0) n := by
  refine ⟨Nat.le_refl n, Fin.ext ?_, fun _ _ _ => rfl⟩
  simp [empty]

theorem shows_write (shows : Shows r history now) (x : S) :
    Shows (r.write x) (Function.update history now x) now := by
  refine ⟨shows.round, shows.idx, fun k recent past => ?_⟩
  dsimp only [Ring.write]
  rw [shows.idx]
  by_cases current : k = now
  next => rw [current, Function.update_self, Function.update_self]
  next =>
    rw [Function.update_of_ne (slot_ne (by omega) recent), Function.update_of_ne current]
    exact shows.slots k recent past

theorem Shows.current (shows : Shows r history now) : r.current = history now := by
  have positive := NeZero.pos n
  rw [Ring.current, shows.idx]
  exact shows.slots now (by omega) (Nat.le_refl now)

theorem shows_advance [Zero S] (shows : Shows r history now) (fresh : history (now + 1) = 0) :
    Shows r.advance history (now + 1) := by
  have next : Fin.ofNat n (r.idx + 1) = Fin.ofNat n (now + 1) := by
    rw [shows.idx]
    exact Fin.ext (Nat.mod_add_mod now n 1)
  refine ⟨Nat.le_succ_of_le shows.round, next, fun k recent past => ?_⟩
  dsimp only [Ring.advance]
  rw [next]
  by_cases current : k = now + 1
  next => rw [current, Function.update_self, fresh]
  next =>
    rw [Function.update_of_ne (slot_ne (by omega) recent)]
    exact shows.slots k (by omega) (by omega)

theorem shows_rotate [Zero S] (shows : Shows r history now) {count : Nat}
    (fresh : ∀ k, now < k → history k = 0) : Shows (r.rotate count) history (now + count) := by
  induction count generalizing r now with
  | zero => exact shows
  | succ count ih =>
    rw [Nat.add_comm count 1, ← Nat.add_assoc, Nat.add_comm 1 count]
    exact ih (shows_advance shows (fresh _ (Nat.lt_succ_self now))) fun k later => fresh k (by omega)

def ended [Zero S] (history : Nat → S) (now : Nat) : Nat → S :=
  -- What is stored for periods that have ended; the current one has nothing yet.
  fun k => if k < now then history k else 0

theorem shows_close [Zero S] (shows : Shows r (ended history now) now) {x : S} {count : Nat}
    (amounts : ∀ i, i < count → x = history (now + i)) :
    Shows (r.close x count) (ended history (now + count)) (now + count) := by
  induction count generalizing r now with
  | zero => exact shows
  | succ count ih =>
    have stored : Shows (r.write x) (ended history (now + 1)) now := by
      refine (shows_write shows x).congr fun k _ past => ?_
      by_cases current : k = now
      next =>
        rw [current, Function.update_self, amounts 0 (Nat.succ_pos count)]
        simp [ended]
      next =>
        have before : k < now := by omega
        have within : k < now + 1 := by omega
        rw [Function.update_of_ne current]
        simp [ended, before, within]
    have advanced := shows_advance stored (by simp [ended])
    have rest := ih advanced fun i few => by
      have amount := amounts (i + 1) (by omega)
      rwa [Nat.add_right_comm, Nat.add_assoc] at *
    have same : now + 1 + count = now + (count + 1) := by omega
    rw [same] at rest
    exact rest

theorem Shows.total [AddCommMonoid S] (shows : Shows r history now) :
    r.total = ∑ k ∈ Finset.Ioc (now - n) now, history k := by
  have all : Finset.univ = (Finset.Ioc (now - n) now).image (Fin.ofNat n) := by
    refine (Finset.eq_univ_of_card _ ?_).symm
    rw [Finset.card_image_of_injOn (slot_injOn now), Nat.card_Ioc, Fintype.card_fin]
    exact Nat.sub_sub_self shows.round
  rw [Ring.total, all, Finset.sum_image (slot_injOn now)]
  apply Finset.sum_congr rfl
  intro k inWindow
  have bounds := Finset.mem_Ioc.mp inWindow
  exact shows.slots k (by omega) bounds.2

/-! ## Histories of a log -/

variable [AddCommMonoid S] {E : Type} (period : E → Nat) (weigh : E → S)

def share (log : List E) (k : Nat) : S :=
  -- What the entries of one period add up to.
  ((log.filter fun e => period e = k).map weigh).sum

variable {period weigh}

theorem share_append (log : List E) (e : E) (k : Nat) :
    share period weigh (log ++ [e]) k =
      share period weigh log k + if period e = k then weigh e else 0 := by
  by_cases here : period e = k <;> simp [share, List.filter_append, here]

theorem share_none {log : List E} {k : Nat} (none : ∀ e ∈ log, period e ≠ k) :
    share period weigh log k = 0 := by
  have no_entry : log.filter (fun e => period e = k) = [] :=
    List.filter_eq_nil_iff.mpr fun e member => by simpa using none e member
  simp [share, no_entry]

theorem sum_share (window : Finset Nat) (log : List E) :
    ∑ k ∈ window, share period weigh log k =
      ((log.filter fun e => period e ∈ window).map weigh).sum := by
  induction log with
  | nil => simp [share]
  | cons e rest ih =>
    have head (k : Nat) : share period weigh (e :: rest) k =
        (if period e = k then weigh e else 0) + share period weigh rest k := by
      by_cases here : period e = k <;> simp [share, here]
    simp only [head, Finset.sum_add_distrib, ih, Finset.sum_ite_eq]
    by_cases inWindow : period e ∈ window <;> simp [inWindow]

end RoundRobin
