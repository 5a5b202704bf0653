import Mathlib.Data.List.Nodup
import Mathlib.Tactic.Common

set_option autoImplicit false

/-!
# Grouping a list by a key

The groups stand in the order in which their keys first occur.
-/

namespace Grouping

variable {A K : Type} [DecidableEq K] (key : A → K)

def keys : List A → List K
  | [] => []
  | a :: rest => key a :: (keys rest).filter (· ≠ key a)

def group (l : List A) (k : K) : List A :=
  l.filter fun a => key a = k

def grouped (l : List A) : List A :=
  (keys key l).flatMap (group key l)

variable {key}

theorem mem_keys {l : List A} {k : K} : k ∈ keys key l ↔ ∃ a ∈ l, key a = k := by
  induction l with
  | nil => simp [keys]
  | cons a rest ih =>
    by_cases same : k = key a
    next => simp [keys, same]
    next =>
      have other : key a ≠ k := Ne.symm same
      simp [keys, same, other, ih]

theorem keys_nodup (l : List A) : (keys key l).Nodup := by
  induction l with
  | nil => exact List.nodup_nil
  | cons a rest ih =>
    rw [keys, List.nodup_cons]
    exact ⟨by simp, ih.filter _⟩

theorem mem_group {l : List A} {k : K} {a : A} : a ∈ group key l k ↔ a ∈ l ∧ key a = k := by
  simp [group]

theorem group_append (first second : List A) (k : K) :
    group key (first ++ second) k = group key first k ++ group key second k :=
  List.filter_append ..

theorem group_same {l : List A} {k : K} (all : ∀ a ∈ l, key a = k) : group key l k = l :=
  List.filter_eq_self.mpr fun a member => decide_eq_true (all a member)

theorem group_none {l : List A} {k : K} (none : ∀ a ∈ l, key a ≠ k) : group key l k = [] :=
  List.filter_eq_nil_iff.mpr fun a member => by simpa using none a member

theorem keys_map {f : A → A} (same : ∀ a, key (f a) = key a) (l : List A) :
    keys key (l.map f) = keys key l := by
  induction l with
  | nil => rfl
  | cons a rest ih => simp only [List.map_cons, keys, same, ih]

theorem group_map {f : A → A} (same : ∀ a, key (f a) = key a) (l : List A) (k : K) :
    group key (l.map f) k = (group key l k).map f := by
  simp only [group, List.filter_map, Function.comp_def, same]

theorem keys_append {first second : List A} {k : K} (some : first ≠ []) (all : ∀ a ∈ first, key a = k)
    (fresh : k ∉ keys key second) : keys key (first ++ second) = k :: keys key second := by
  -- Appending a group of one new key in front puts the key in front.
  have unseen : (keys key second).filter (· ≠ k) = keys key second := by
    apply List.filter_eq_self.mpr
    intro other member
    apply decide_eq_true
    rintro rfl
    exact fresh member
  induction first with
  | nil => exact absurd rfl some
  | cons a rest ih =>
    have same : key a = k := all a (List.mem_cons_self ..)
    cases rest with
    | nil => simp only [List.cons_append, List.nil_append, keys, same, unseen]
    | cons b more =>
      have tail := ih (by simp) fun c member => all c (List.mem_cons_of_mem _ member)
      rw [List.cons_append, keys, tail, same, List.filter_cons_of_neg (by simp), unseen]

theorem keys_concat {first second : List A} {k : K} (some : second ≠ [])
    (all : ∀ a ∈ second, key a = k) (fresh : ∀ a ∈ first, key a ≠ k) :
    keys key (first ++ second) = keys key first ++ [k] := by
  -- Appending a group of one new key at the end puts the key last.
  induction first with
  | nil =>
    have alone := keys_append some all (show k ∉ keys key [] from List.not_mem_nil)
    rwa [List.append_nil] at alone
  | cons a rest ih =>
    have other : k ≠ key a := Ne.symm (fresh a (List.mem_cons_self ..))
    rw [List.cons_append, keys, ih fun b member => fresh b (List.mem_cons_of_mem _ member)]
    simp [keys, other]

theorem keys_flatMap {ks : List K} (distinct : ks.Nodup) {g : K → List A}
    (some : ∀ k ∈ ks, g k ≠ []) (all : ∀ k ∈ ks, ∀ a ∈ g k, key a = k) :
    keys key (ks.flatMap g) = ks := by
  -- Groups of different keys, one after another, have these keys.
  induction ks with
  | nil => rfl
  | cons k rest ih =>
    obtain ⟨fresh, distinct⟩ := List.nodup_cons.mp distinct
    have tail := ih distinct (fun j member => some j (List.mem_cons_of_mem _ member))
      fun j member => all j (List.mem_cons_of_mem _ member)
    have unseen : k ∉ keys key (rest.flatMap g) := by rwa [tail]
    rw [List.flatMap_cons, keys_append (some k (List.mem_cons_self ..))
      (all k (List.mem_cons_self ..)) unseen, tail]

theorem group_flatMap {ks : List K} (distinct : ks.Nodup) {g : K → List A}
    (all : ∀ k ∈ ks, ∀ a ∈ g k, key a = k) {k : K} (member : k ∈ ks) :
    group key (ks.flatMap g) k = g k := by
  induction ks with
  | nil => cases member
  | cons j rest ih =>
    obtain ⟨fresh, distinct⟩ := List.nodup_cons.mp distinct
    rw [List.flatMap_cons, group_append]
    by_cases same : k = j
    next =>
      subst same
      have others : group key (rest.flatMap g) k = [] := by
        apply group_none
        intro a inRest
        obtain ⟨i, other, inGroup⟩ := List.mem_flatMap.mp inRest
        rw [all i (List.mem_cons_of_mem _ other) a inGroup]
        rintro rfl
        exact fresh other
      rw [group_same (all k (List.mem_cons_self ..)), others, List.append_nil]
    next =>
      have none : group key (g j) k = [] := group_none fun a inGroup => by
        rw [all j (List.mem_cons_self ..) a inGroup]
        exact Ne.symm same
      rw [none, List.nil_append]
      exact ih distinct (fun i other => all i (List.mem_cons_of_mem _ other))
        ((List.mem_cons.mp member).resolve_left same)

theorem keys_grouped (l : List A) : keys key (grouped key l) = keys key l := by
  apply keys_flatMap (keys_nodup l)
  next =>
    intro k member
    obtain ⟨a, present, same⟩ := mem_keys.mp member
    exact List.ne_nil_of_mem (mem_group.mpr ⟨present, same⟩)
  next => exact fun k _ a inGroup => (mem_group.mp inGroup).2

theorem group_grouped {l : List A} {k : K} (member : k ∈ keys key l) :
    group key (grouped key l) k = group key l k :=
  group_flatMap (keys_nodup l) (fun _ _ _ inGroup => (mem_group.mp inGroup).2) member

theorem group_regrouped (l : List A) (k : K) : group key (grouped key l) k = group key l k := by
  by_cases member : k ∈ keys key l
  next => exact group_grouped member
  next =>
    have absent : ∀ a ∈ l, key a ≠ k := fun a present same => member (mem_keys.mpr ⟨a, present, same⟩)
    have regrouped : ∀ a ∈ grouped key l, key a ≠ k := by
      intro a present
      obtain ⟨j, named, inGroup⟩ := List.mem_flatMap.mp present
      exact absent a (mem_group.mp inGroup).1
    rw [group_none absent, group_none regrouped]

theorem flatMap_group_perm {ks : List K} (distinct : ks.Nodup) {l : List A}
    (covered : ∀ a ∈ l, key a ∈ ks) : (ks.flatMap (group key l)).Perm l := by
  induction ks generalizing l with
  | nil =>
    rw [List.eq_nil_iff_forall_not_mem.mpr fun a member => List.not_mem_nil (covered a member)]
    exact List.Perm.nil
  | cons k rest ih =>
    obtain ⟨fresh, distinct⟩ := List.nodup_cons.mp distinct
    let others := l.filter fun a => !decide (key a = k)
    have later : ∀ j ∈ rest, group key l j = group key others j := by
      intro j member
      have ne : j ≠ k := by
        rintro rfl
        exact fresh member
      simp only [group, others, List.filter_filter]
      apply List.filter_congr
      intro a _
      by_cases same : key a = j <;> simp [same, ne]
    have rest_perm : (rest.flatMap (group key others)).Perm others := by
      apply ih distinct
      intro a member
      obtain ⟨present, ne⟩ := List.mem_filter.mp member
      exact (List.mem_cons.mp (covered a present)).resolve_left (by simpa using ne)
    rw [List.flatMap_cons, List.flatMap_congr later]
    exact (rest_perm.append_left _).trans (List.filter_append_perm _ l)

theorem grouped_perm (l : List A) : (grouped key l).Perm l :=
  flatMap_group_perm (keys_nodup l) fun a member => mem_keys.mpr ⟨a, member, rfl⟩

end Grouping
