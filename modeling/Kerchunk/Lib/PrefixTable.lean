import Mathlib.Data.List.Infix
import Mathlib.Data.List.Perm.Basic
import Mathlib.Tactic.Common

set_option autoImplicit false

/-!
# Tables that are searched for a key an entry begins with

`lookup` takes the first key that is a prefix of the entry. `arg` is what is made of the rest of the
entry.
-/

namespace PrefixTable

variable {α β γ E : Type} [DecidableEq α] (key : E → List α) (value : E → β) (arg : List α → γ)

def lookup (table : List E) (entry : List α) : Option (β × γ) :=
  (table.find? fun e => (key e).isPrefixOf entry).map fun e =>
    (value e, arg (entry.drop (key e).length))

/-- No key of the domain begins with another one, and equal keys have equal values. -/
def Apart (domain : List α → Prop) (table : List E) : Prop :=
  ∀ a ∈ table, ∀ b ∈ table, key a <+: key b → domain (key b) → key a = key b ∧ value a = value b

variable {key value arg} {table other : List E} {entry : List α}

theorem lookup_cons_prefix {a : E} (begins : key a <+: entry) :
    lookup key value arg (a :: table) entry = some (value a, arg (entry.drop (key a).length)) := by
  simp [lookup, List.isPrefixOf_iff_prefix.mpr begins]

theorem lookup_some {found : β × γ} (hit : lookup key value arg table entry = some found) :
    ∃ e ∈ table, key e <+: entry ∧ found = (value e, arg (entry.drop (key e).length)) := by
  obtain ⟨e, first, rfl⟩ := Option.map_eq_some_iff.mp hit
  exact ⟨e, List.mem_of_find?_eq_some first,
    List.isPrefixOf_iff_prefix.mp (List.find?_some (p := fun e => (key e).isPrefixOf entry) first),
    rfl⟩

theorem lookup_none (miss : lookup key value arg table entry = none) {e : E} (member : e ∈ table) :
    ¬ key e <+: entry := by
  have missed := List.find?_eq_none.mp (Option.map_eq_none_iff.mp miss) e member
  rwa [List.isPrefixOf_iff_prefix] at missed

/-! ## Tables in which the order does not matter -/

variable {domain : List α → Prop}

section

variable (apart : Apart key value domain table)
  (closed : ∀ {short long : List α}, short <+: long → domain long → domain short)

include apart closed

omit [DecidableEq α] in
theorem Apart.same_hit (inDomain : domain entry) {a b : E} (memberA : a ∈ table)
    (memberB : b ∈ table) (beginsA : key a <+: entry) (beginsB : key b <+: entry) :
    key a = key b ∧ value a = value b := by
  rcases List.prefix_or_prefix_of_prefix beginsA beginsB with first | second
  next => exact apart a memberA b memberB first (closed beginsB inDomain)
  next =>
    obtain ⟨keys, values⟩ := apart b memberB a memberA second (closed beginsA inDomain)
    exact ⟨keys.symm, values.symm⟩

theorem Apart.lookup_longest (inDomain : domain entry) {found : β × γ}
    (hit : lookup key value arg table entry = some found) :
    ∃ e ∈ table, ∃ rest, entry = key e ++ rest ∧ found = (value e, arg rest) ∧
      ∀ d ∈ table, key d <+: entry → (key d).length ≤ (key e).length := by
  obtain ⟨e, member, begins, rfl⟩ := lookup_some hit
  refine ⟨e, member, entry.drop (key e).length, (List.prefix_iff_eq_append.mp begins).symm, rfl, ?_⟩
  intro d other also
  rw [(apart.same_hit closed inDomain other member also begins).1]

theorem Apart.lookup_perm (inDomain : domain entry) (perm : other.Perm table) :
    lookup key value arg other entry = lookup key value arg table entry := by
  cases here : lookup key value arg table entry with
  | none =>
    refine Option.map_eq_none_iff.mpr (List.find?_eq_none.mpr fun e member => ?_)
    rw [List.isPrefixOf_iff_prefix]
    exact lookup_none here (perm.mem_iff.mp member)
  | some found =>
    obtain ⟨a, memberA, beginsA, rfl⟩ := lookup_some here
    cases there : lookup key value arg other entry with
    | none => exact absurd beginsA (lookup_none there (perm.mem_iff.mpr memberA))
    | some found =>
      obtain ⟨b, memberB, beginsB, rfl⟩ := lookup_some there
      obtain ⟨keys, values⟩ :=
        apart.same_hit closed inDomain memberA (perm.mem_iff.mp memberB) beginsA beginsB
      rw [keys, values]

end

theorem apart_of_any_order (whole : ∀ rest, arg rest = arg [] → rest = [])
    (anyOrder : ∀ entry, domain entry → ∀ other : List E, other.Perm table →
      lookup key value arg other entry = lookup key value arg table entry) :
    Apart key value domain table := by
  intro a memberA b memberB begins inDomain
  -- Each of the two is found when it comes first.
  have first {e : E} (member : e ∈ table) (begins : key e <+: key b) :
      lookup key value arg table (key b) = some (value e, arg ((key b).drop (key e).length)) := by
    obtain ⟨before, after, rfl⟩ := List.append_of_mem member
    rw [← anyOrder (key b) inDomain (e :: (before ++ after)) List.perm_middle.symm]
    exact lookup_cons_prefix begins
  have same := (first memberA begins).symm.trans (first memberB (List.prefix_refl _))
  simp only [Option.some.injEq, Prod.mk.injEq, List.drop_length] at same
  have rest := whole _ same.2
  have joined := List.prefix_iff_eq_append.mp begins
  rw [rest, List.append_nil] at joined
  exact ⟨joined, same.1⟩

end PrefixTable
