import Mathlib.Data.List.Basic
import Mathlib.Data.List.Perm.Basic
import Mathlib.Order.Lattice
import Mathlib.Tactic.Common

set_option autoImplicit false

/-!
# Stable insertion by priority

Items carry a priority and an arrival stamp. `insert` puts an item in front of
the first one of lower priority, hence behind its equals.
-/

namespace StableInsert

variable {A P : Type} [LinearOrder P] (priority : A → P) (stamp : A → Nat)

def insert (item : A) : List A → List A
  | [] => [item]
  | head :: rest =>
      if priority head < priority item then item :: head :: rest else head :: insert item rest

def Before (x y : A) : Prop :=
  -- Descending priority, and arrival order among equals.
  priority y < priority x ∨ priority x = priority y ∧ stamp x < stamp y

instance (x y : A) : Decidable (Before priority stamp x y) :=
  inferInstanceAs (Decidable (_ ∨ _))

theorem insert_perm (item : A) (items : List A) :
    (insert priority item items).Perm (item :: items) := by
  induction items with
  | nil => exact List.Perm.refl _
  | cons head rest ih =>
      simp only [insert]
      split_ifs
      · exact List.Perm.refl _
      · exact (ih.cons head).trans (List.Perm.swap item head rest)

theorem mem_insert {item other : A} {items : List A} :
    other ∈ insert priority item items ↔ other = item ∨ other ∈ items := by
  rw [(insert_perm priority item items).mem_iff, List.mem_cons]

theorem insert_ordered {item : A} {items : List A}
    (ordered : items.Pairwise (Before priority stamp))
    (latest : ∀ other ∈ items, stamp other < stamp item) :
    (insert priority item items).Pairwise (Before priority stamp) := by
  -- A late arrival inserted into an ordered list leaves it ordered.
  induction items with
  | nil => simp [insert]
  | cons head rest ih =>
      obtain ⟨headFirst, restOrdered⟩ := List.pairwise_cons.mp ordered
      simp only [insert]
      split_ifs with lower
      · refine List.pairwise_cons.mpr ⟨?_, ordered⟩
        intro other member
        rcases List.mem_cons.mp member with rfl | inRest
        · exact .inl lower
        · rcases headFirst other inRest with below | ⟨same, _⟩
          · exact .inl (lt_trans below lower)
          · exact .inl (same ▸ lower)
      · refine List.pairwise_cons.mpr ⟨?_, ih restOrdered fun other member =>
          latest other (List.mem_cons_of_mem _ member)⟩
        intro other member
        rcases (mem_insert priority).mp member with rfl | inRest
        · rcases lt_or_eq_of_le (not_lt.mp lower) with below | same
          · exact .inl below
          · exact .inr ⟨same.symm, latest head (List.mem_cons_self ..)⟩
        · exact headFirst other inRest

end StableInsert
