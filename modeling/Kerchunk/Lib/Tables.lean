import Mathlib.Data.List.Nodup
import Mathlib.Data.List.ReduceOption
import Mathlib.Data.List.Perm.Basic
import Mathlib.Tactic.Common
import Mathlib.Data.List.Basic
import Mathlib.Data.List.Forall2

set_option autoImplicit false

/-!
# Tables of slots

A fixed number of places, each free or taken. A new entry goes to the first free place, and an
operation on an entry goes to the first place that holds a match.
-/

namespace SlotTable

variable {α K : Type}

def occupied (slots : List (Option α)) : List α :=
  slots.reduceOption

def add (a : α) : List (Option α) → Option (List (Option α))
  -- `none` when every place is taken.
  | [] => none
  | none :: rest => some (some a :: rest)
  | some b :: rest => (add a rest).map (some b :: ·)

def alter (p : α → Bool) (f : α → Option α) : List (Option α) → List (Option α)
  | [] => []
  | none :: rest => none :: alter p f rest
  | some b :: rest => if p b then f b :: rest else some b :: alter p f rest

@[simp] theorem occupied_nil : occupied ([] : List (Option α)) = [] := rfl

@[simp] theorem occupied_free (rest : List (Option α)) : occupied (none :: rest) = occupied rest := rfl

@[simp] theorem occupied_taken (a : α) (rest : List (Option α)) :
    occupied (some a :: rest) = a :: occupied rest := rfl

@[simp] theorem occupied_replicate (n : Nat) : occupied (List.replicate n (none : Option α)) = [] := by
  induction n with
  | zero => rfl
  | succ n ih => simpa [List.replicate_succ] using ih

theorem occupied_length_le (slots : List (Option α)) : (occupied slots).length ≤ slots.length :=
  List.reduceOption_length_le slots

theorem occupied_map {β : Type} (f : α → Option β) (slots : List (Option α)) :
    occupied (slots.map (·.bind f)) = (occupied slots).filterMap f := by
  induction slots with
  | nil => rfl
  | cons slot rest ih =>
    cases slot with
    | none => simpa using ih
    | some a => cases image : f a <;> simp [image, ih]

@[simp] theorem occupied_clear (slots : List (Option α)) :
    occupied (slots.map fun _ => (none : Option α)) = [] := by
  rw [List.map_const']
  exact occupied_replicate _

/-! ## Taking a place -/

theorem add_full {a : α} {slots : List (Option α)} :
    add a slots = none ↔ (occupied slots).length = slots.length := by
  induction slots with
  | nil => simp [add]
  | cons slot rest ih =>
    cases slot with
    | none =>
      have bound := occupied_length_le rest
      simp only [add, occupied_free, List.length_cons, reduceCtorEq, false_iff]
      omega
    | some b => simp [add, ih]

theorem add_length {a : α} {slots after : List (Option α)} (added : add a slots = some after) :
    after.length = slots.length := by
  induction slots generalizing after with
  | nil => cases added
  | cons slot rest ih =>
    cases slot with
    | none =>
      cases added
      rfl
    | some b =>
      obtain ⟨tail, inner, rfl⟩ := Option.map_eq_some_iff.mp added
      simp [ih inner]

theorem add_perm {a : α} {slots after : List (Option α)} (added : add a slots = some after) :
    (occupied after).Perm (a :: occupied slots) := by
  induction slots generalizing after with
  | nil => cases added
  | cons slot rest ih =>
    cases slot with
    | none =>
      cases added
      exact List.Perm.refl _
    | some b =>
      obtain ⟨tail, inner, rfl⟩ := Option.map_eq_some_iff.mp added
      exact ((ih inner).cons b).trans (List.Perm.swap a b _)

theorem mem_add {a b : α} {slots after : List (Option α)} (added : add a slots = some after) :
    b ∈ occupied after ↔ b = a ∨ b ∈ occupied slots := by
  rw [(add_perm added).mem_iff, List.mem_cons]

/-! ## The first match -/

@[simp] theorem alter_length (p : α → Bool) (f : α → Option α) (slots : List (Option α)) :
    (alter p f slots).length = slots.length := by
  induction slots with
  | nil => rfl
  | cons slot rest ih =>
    cases slot with
    | none => simp [alter, ih]
    | some b => by_cases matched : p b = true <;> simp [alter, matched, ih]

variable {p : α → Bool} {key : α → K}

/-- Where no two entries share a key, the first match of a key is the only one. -/
theorem occupied_alter (f : α → Option α) {slots : List (Option α)} {k : K}
    (matches_ : ∀ a, p a = true ↔ key a = k) (distinct : ((occupied slots).map key).Nodup) :
    occupied (alter p f slots) =
      (occupied slots).filterMap fun a => if p a then f a else some a := by
  induction slots with
  | nil => rfl
  | cons slot rest ih =>
    cases slot with
    | none => exact ih distinct
    | some b =>
      rw [occupied_taken, List.map_cons, List.nodup_cons] at distinct
      by_cases matched : p b = true
      next =>
        have others : (occupied rest).filterMap (fun a => if p a then f a else some a) =
            occupied rest := by
          rw [List.filterMap_congr (g := some), List.filterMap_some]
          intro a member
          have apart : ¬ p a = true := by
            intro also
            have same := ((matches_ a).mp also).trans ((matches_ b).mp matched).symm
            exact distinct.1 (List.mem_map.mpr ⟨a, member, same⟩)
          simp [apart]
        cases image : f b <;> simp [alter, matched, image, others]
      next => simp [alter, matched, ih distinct.2]

/-- A change that keeps the keys keeps their list. -/
theorem keys_alter (g : α → α) (kept : ∀ a, key (g a) = key a) (slots : List (Option α)) :
    (occupied (alter p (fun a => some (g a)) slots)).map key = (occupied slots).map key := by
  induction slots with
  | nil => rfl
  | cons slot rest ih =>
    cases slot with
    | none => exact ih
    | some b => by_cases matched : p b = true <;> simp [alter, matched, kept, ih]

theorem keys_filterMap (f : α → Option α) (kept : ∀ a b, f a = some b → key b = key a)
    (entries : List α) : ((entries.filterMap f).map key).Sublist (entries.map key) := by
  induction entries with
  | nil => exact List.Sublist.refl _
  | cons a rest ih =>
    cases image : f a with
    | none => simpa [image] using ih.cons (key a)
    | some b => simpa [image, kept a b image] using ih.cons_cons (key a)

end SlotTable

/-!
## Arrays of entries under distinct keys

The first entry with a key is the one that counts. A new entry goes to the end, and the last one
takes the place of one that is removed.
-/

namespace KeyedArray

variable {K V : Type} [DecidableEq K] (key : V → K)

def find (entries : List V) (k : K) : Option V :=
  entries.find? fun v => key v = k

def replace (k : K) (f : V → V) : List V → List V
  | [] => []
  | v :: rest => if key v = k then f v :: rest else v :: replace k f rest

def swapRemove (entries : List V) (i : Nat) : List V :=
  match entries.getLast? with
  | none => entries
  | some last => (entries.set i last).dropLast

variable {key}

def Distinct (key : V → K) (entries : List V) : Prop :=
  (entries.map key).Nodup

theorem find_some {entries : List V} (distinct : Distinct key entries) {k : K} {v : V} :
    find key entries k = some v ↔ v ∈ entries ∧ key v = k := by
  constructor
  next =>
    intro found
    exact ⟨List.mem_of_find?_eq_some found, by simpa using List.find?_some found⟩
  next =>
    rintro ⟨member, rfl⟩
    cases found : find key entries (key v) with
    | none => simpa using List.find?_eq_none.mp found v member
    | some w =>
      have same : key w = key v := by simpa using List.find?_some found
      rw [List.inj_on_of_nodup_map distinct (List.mem_of_find?_eq_some found) member same]

theorem find_none {entries : List V} {k : K} :
    find key entries k = none ↔ ∀ v ∈ entries, key v ≠ k := by
  simp [find]

theorem find_perm {entries others : List V} (distinct : Distinct key entries)
    (perm : entries.Perm others) (k : K) : find key entries k = find key others k := by
  have also : Distinct key others := (perm.map key).nodup_iff.mp distinct
  refine Option.ext fun v => ?_
  rw [find_some distinct, find_some also, perm.mem_iff]

theorem replace_keys {k : K} {f : V → V} (kept : ∀ v, key v = k → key (f v) = k)
    (entries : List V) : (replace key k f entries).map key = entries.map key := by
  induction entries with
  | nil => rfl
  | cons v rest ih =>
    unfold replace
    split
    next same => simp [kept v same, same]
    next => simp [ih]

theorem replace_length (k : K) (f : V → V) (entries : List V) :
    (replace key k f entries).length = entries.length := by
  induction entries with
  | nil => rfl
  | cons v rest ih =>
    unfold replace
    split <;> simp [ih]

theorem find_replace {k : K} {f : V → V} (kept : ∀ v, key v = k → key (f v) = k)
    (entries : List V) (j : K) : find key (replace key k f entries) j =
      if j = k then (find key entries j).map f else find key entries j := by
  induction entries with
  | nil => simp [replace, find]
  | cons v rest ih =>
    unfold replace
    split
    next mine =>
      by_cases same : j = k
      next => simp [find, same, mine, kept v mine]
      next => simp [find, same, mine, kept v mine, Ne.symm same]
    next other =>
      by_cases here : key v = j
      next =>
        have apart : j ≠ k := fun same => other (here.trans same)
        simp [find, here, apart]
      next =>
        have skip (tail : List V) : find key (v :: tail) j = find key tail j := by simp [find, here]
        rw [skip, skip, ih]

theorem append_distinct {entries : List V} (distinct : Distinct key entries) {v : V}
    (new : find key entries (key v) = none) : Distinct key (entries ++ [v]) := by
  unfold Distinct
  rw [List.map_append, List.nodup_append]
  refine ⟨distinct, by simp, ?_⟩
  intro a before b now same
  obtain ⟨w, member, rfl⟩ := List.mem_map.mp before
  obtain rfl : b = key v := by simpa using now
  exact find_none.mp new w member same

theorem find_append (entries : List V) (v : V) (k : K) (new : find key entries (key v) = none) :
    find key (entries ++ [v]) k = if k = key v then some v else find key entries k := by
  unfold find at *
  rw [List.find?_append]
  by_cases same : k = key v
  next => simp [same, new]
  next =>
    have apart : ¬ key v = k := fun there => same there.symm
    simp [same, apart]

/-! ### Removing -/

theorem swapRemove_perm {entries : List V} {i : Nat} (bound : i < entries.length) :
    (swapRemove entries i).Perm (entries.eraseIdx i) := by
  obtain ⟨front, last, rfl⟩ : ∃ front last, entries = front ++ [last] :=
    ⟨entries.dropLast, entries.getLast (List.ne_nil_of_length_pos (by omega)),
      (List.dropLast_append_getLast _).symm⟩
  simp only [swapRemove, List.getLast?_append, List.getLast?_singleton, Option.some_or]
  by_cases final : i = front.length
  next =>
    subst final
    simp [List.eraseIdx_append_of_length_le]
  next =>
    have inner : i < front.length := by
      simp only [List.length_append, List.length_singleton] at bound
      omega
    rw [List.set_append_left _ _ inner, List.dropLast_concat, List.eraseIdx_append_of_lt_length inner]
    exact (List.set_perm_cons_eraseIdx inner last).trans (List.perm_append_singleton _ _).symm

omit [DecidableEq K] in
theorem swapRemove_distinct {entries : List V} (distinct : Distinct key entries) {i : Nat}
    (bound : i < entries.length) : Distinct key (swapRemove entries i) :=
  ((swapRemove_perm bound).map key).nodup_iff.mpr
    (distinct.sublist ((List.eraseIdx_sublist entries i).map key))

theorem swapRemove_length {entries : List V} {i : Nat} (bound : i < entries.length) :
    (swapRemove entries i).length + 1 = entries.length := by
  rw [(swapRemove_perm bound).length_eq, List.length_eraseIdx_of_lt bound]
  omega

theorem find_swapRemove {entries : List V} (distinct : Distinct key entries) {i : Nat}
    (bound : i < entries.length) (k : K) :
    find key (swapRemove entries i) k = if k = key entries[i] then none else find key entries k := by
  have perm := List.getElem_cons_eraseIdx_perm bound
  have whole : Distinct key (entries[i] :: entries.eraseIdx i) := (perm.map key).nodup_iff.mpr distinct
  rw [find_perm (swapRemove_distinct distinct bound) (swapRemove_perm bound),
    ← find_perm whole perm k]
  by_cases same : k = key entries[i]
  next =>
    rw [if_pos same, find_none]
    intro v member there
    unfold Distinct at whole
    rw [List.map_cons, List.nodup_cons] at whole
    exact whole.1 (List.mem_map.mpr ⟨v, member, there.trans same⟩)
  next =>
    rw [if_neg same]
    simp [find, Ne.symm same]

end KeyedArray

/-!
## Tables of fixed size

A slot goes to a key when the key first needs one and is never given back. When all are taken, a
further key gets none and nothing is stored for it.
-/

structure DemandTable (K V : Type) (capacity : Nat) where
  slots : List (K × V)
  fits : slots.length ≤ capacity
  distinct : (slots.map Prod.fst).Nodup

namespace DemandTable

variable {K V : Type} {capacity : Nat}

def empty : DemandTable K V capacity where
  slots := []
  fits := Nat.zero_le capacity
  distinct := List.nodup_nil

variable [DecidableEq K]

def find (t : DemandTable K V capacity) (k : K) : Option V :=
  t.slots.lookup k

theorem find_none {t : DemandTable K V capacity} {k : K} :
    t.find k = none ↔ k ∉ t.slots.map Prod.fst := by
  simp only [find, List.lookup_eq_none_iff, List.mem_map, not_exists, not_and]
  constructor
  next =>
    intro absent pair member same
    simpa [same] using absent pair member
  next =>
    intro absent pair member
    simpa using fun same : k = pair.1 => absent pair member same.symm

def Accepts (t : DemandTable K V capacity) (k : K) : Prop :=
  -- The key has a slot or can get one.
  t.find k ≠ none ∨ t.slots.length < capacity

instance (t : DemandTable K V capacity) (k : K) : Decidable (t.Accepts k) :=
  decidable_of_iff ((t.find k).isSome = true ∨ t.slots.length < capacity) (by
    rw [Accepts, Option.ne_none_iff_isSome])

theorem keys_modified (slots : List (K × V)) (k : K) (f : V → V) :
    (slots.map fun e => if e.1 = k then (k, f e.2) else e).map Prod.fst =
      slots.map Prod.fst := by
  rw [List.map_map]
  refine List.map_congr_left fun e _ => ?_
  by_cases same : e.1 = k <;> simp [same]

theorem lookup_modified (slots : List (K × V)) (k j : K) (f : V → V) :
    (slots.map fun e => if e.1 = k then (k, f e.2) else e).lookup j =
      if j = k then (slots.lookup j).map f else slots.lookup j := by
  induction slots with
  | nil => simp
  | cons e rest ih =>
    obtain ⟨key, value⟩ := e
    by_cases mine : key = k
    next =>
      by_cases same : j = k
      next => simp [mine, same]
      next =>
        have apart : (j == k) = false := by simpa using same
        simp [List.lookup_cons, mine, same, apart, ih]
    next =>
      by_cases found : j = key
      next => simp [mine, found]
      next =>
        have apart : (j == key) = false := by simpa using found
        simp [List.lookup_cons, mine, apart, ih]

def modify (t : DemandTable K V capacity) (k : K) (f : V → V) : DemandTable K V capacity where
  slots := t.slots.map fun e => if e.1 = k then (k, f e.2) else e
  fits := by simpa using t.fits
  distinct := by simpa only [keys_modified] using t.distinct

theorem find_modify (t : DemandTable K V capacity) (k j : K) (f : V → V) :
    (t.modify k f).find j = if j = k then (t.find j).map f else t.find j :=
  lookup_modified t.slots k j f

@[simp] theorem modify_accepts (t : DemandTable K V capacity) (k j : K) (f : V → V) :
    (t.modify k f).Accepts j ↔ t.Accepts j := by
  have found : (t.modify k f).find j = none ↔ t.find j = none := by
    rw [find_modify]
    split <;> simp
  have size : (t.modify k f).slots.length = t.slots.length := by simp [modify]
  simp [Accepts, found, size]

def store (t : DemandTable K V capacity) (k : K) (fresh : V) (f : V → V) :
    DemandTable K V capacity :=
  -- Changes the value of the key; one that has none yet takes the next slot, which holds `fresh`.
  if absent : t.find k = none then
    if room : t.slots.length < capacity then
      { slots := t.slots ++ [(k, f fresh)]
        fits := by simpa using Nat.succ_le_of_lt room
        distinct := by
          have unlisted := find_none.mp absent
          rw [List.map_append]
          refine List.nodup_append.mpr ⟨t.distinct, List.nodup_singleton k, ?_⟩
          intro key member other added same
          have key_same : key = k := same.trans (List.mem_singleton.mp added)
          exact unlisted (key_same ▸ member) }
    else t
  else t.modify k f

theorem find_store_other {t : DemandTable K V capacity} {k j : K} (apart : j ≠ k) (fresh : V)
    (f : V → V) : (t.store k fresh f).find j = t.find j := by
  have different : (j == k) = false := by simpa using apart
  unfold store
  split
  next =>
    split
    next => simp [find, List.lookup_append, List.lookup_cons, different]
    next => rfl
  next => simp [find_modify, apart]

theorem find_store_same {t : DemandTable K V capacity} {k : K} (accepts : t.Accepts k) (fresh : V)
    (f : V → V) : (t.store k fresh f).find k = some (f ((t.find k).getD fresh)) := by
  unfold store
  split
  next absent =>
    have room : t.slots.length < capacity := accepts.resolve_left (by simp [absent])
    have unlisted : t.slots.lookup k = none := absent
    simp [room, find, List.lookup_append, unlisted]
  next listed =>
    obtain ⟨v, found⟩ := Option.ne_none_iff_exists'.mp listed
    simp [find_modify, found]

theorem store_refused {t : DemandTable K V capacity} {k : K} (full : ¬ t.Accepts k) (fresh : V)
    (f : V → V) : t.store k fresh f = t := by
  simp only [Accepts, not_or, Decidable.not_not] at full
  simp [store, full]

@[simp] theorem find_empty (k : K) : (empty : DemandTable K V capacity).find k = none := rfl

end DemandTable

/-!
## Reading entries into a table

What reads a list of entries stops at the first that it refuses; a table also stops when it is full.
-/

namespace Loading

variable {A B : Type}

theorem mapM_forall₂ {read : A → Option B} {as : List A} {bs : List B}
    (mapped : as.mapM read = some bs) : List.Forall₂ (fun a b => read a = some b) as bs := by
  induction as generalizing bs with
  | nil =>
    obtain rfl : [] = bs := by simpa using mapped
    exact .nil
  | cons a as ih =>
    rw [List.mapM_cons] at mapped
    obtain ⟨b, first, mapped⟩ := Option.bind_eq_some_iff.mp mapped
    obtain ⟨rest, later, mapped⟩ := Option.bind_eq_some_iff.mp mapped
    obtain rfl : b :: rest = bs := by simpa using mapped
    exact .cons first (ih later)

/-- A table that takes what is read, entry after entry, until it is full. -/
theorem foldlM_table {read : A → Option B} {max : Nat} {load : List B → A → Option (List B)}
    (load_eq : ∀ table a,
      load table a = if max ≤ table.length then none else (read a).map fun b => table ++ [b])
    {as : List A} {start table : List B} (loaded : as.foldlM load start = some table)
    (room : start.length ≤ max) :
    table.length ≤ max ∧
      ∃ new, table = start ++ new ∧ List.Forall₂ (fun a b => read a = some b) as new := by
  induction as generalizing start with
  | nil =>
    obtain rfl : start = table := by simpa using loaded
    exact ⟨room, [], by simp, .nil⟩
  | cons a as ih =>
    rw [List.foldlM_cons] at loaded
    obtain ⟨after, first, loaded⟩ := Option.bind_eq_some_iff.mp loaded
    rw [load_eq] at first
    split at first
    next => simp at first
    next space =>
      obtain ⟨b, read_a, rfl⟩ := Option.map_eq_some_iff.mp first
      obtain ⟨bound, new, rfl, rest⟩ := ih loaded (by simp; omega)
      exact ⟨bound, b :: new, by simp, .cons read_a rest⟩

theorem forall₂_mem {R : A → B → Prop} {as : List A} {bs : List B} (related : List.Forall₂ R as bs)
    {b : B} (member : b ∈ bs) : ∃ a ∈ as, R a b := by
  induction related with
  | nil => simp at member
  | cons first _ ih =>
    rcases List.mem_cons.mp member with rfl | later
    next => exact ⟨_, List.mem_cons_self, first⟩
    next =>
      obtain ⟨a, held, holds⟩ := ih later
      exact ⟨a, List.mem_cons_of_mem _ held, holds⟩

theorem forall₂_map {R : A → B → Prop} {C : Type} {f : A → C} {g : B → C}
    (same : ∀ a b, R a b → g b = f a) {as : List A} {bs : List B}
    (related : List.Forall₂ R as bs) : bs.map g = as.map f := by
  induction related with
  | nil => rfl
  | cons first _ ih => rw [List.map_cons, List.map_cons, ih, same _ _ first]

end Loading
