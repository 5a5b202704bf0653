import Mathlib.Data.List.Basic
import Mathlib.Tactic.Common

set_option autoImplicit false

/-!
# Items under headings

Some items of a list are headings. Each item is placed under the last heading, its own if it is one.
-/

namespace Outline

variable {A K : Type} (heading : A → Option K)

def current (k : K) (items : List A) : K :=
  -- The heading in force after the items.
  items.foldl (fun k a => (heading a).getD k) k

def placed : K → List A → List (K × A)
  | _, [] => []
  | k, a :: rest =>
    let here := (heading a).getD k
    (here, a) :: placed here rest

variable {heading}

@[simp] theorem placed_nil (k : K) : placed heading k [] = [] := rfl

theorem placed_cons (k : K) (a : A) (rest : List A) : placed heading k (a :: rest) =
    ((heading a).getD k, a) :: placed heading ((heading a).getD k) rest := rfl

theorem current_append (k : K) (first second : List A) :
    current heading k (first ++ second) = current heading (current heading k first) second :=
  List.foldl_append

theorem placed_append (k : K) (first second : List A) : placed heading k (first ++ second) =
    placed heading k first ++ placed heading (current heading k first) second := by
  induction first generalizing k with
  | nil => rfl
  | cons a rest ih => simp only [List.cons_append, placed_cons, ih, current, List.foldl_cons]

theorem placed_items (k : K) (items : List A) : (placed heading k items).map Prod.snd = items := by
  induction items generalizing k with
  | nil => rfl
  | cons a rest ih => simp [placed_cons, ih]

theorem placed_within {k : K} {items : List A}
    (within : ∀ a ∈ items, ∀ other, heading a = some other → other = k) :
    placed heading k items = items.map (Prod.mk k) ∧ current heading k items = k := by
  -- Items whose headings are all `k` are placed under it.
  induction items with
  | nil => exact ⟨rfl, rfl⟩
  | cons a rest ih =>
    obtain ⟨placed_rest, stays⟩ := ih fun b member => within b (List.mem_cons_of_mem _ member)
    have here : (heading a).getD k = k := by
      cases found : heading a with
      | none => rfl
      | some other => exact within a (List.mem_cons_self ..) other found
    refine ⟨by rw [placed_cons, here, placed_rest, List.map_cons], ?_⟩
    rw [current, List.foldl_cons, here]
    exact stays

variable (heading) in
theorem placed_after (items : List A) : ∃ (lead : List A) (later : List (K × A)), (∀ a ∈ lead, heading a = none) ∧
    ∀ k, placed heading k items = lead.map (Prod.mk k) ++ later := by
  -- What stands before the items decides for those before their first heading only.
  induction items with
  | nil => exact ⟨[], [], by simp, fun _ => rfl⟩
  | cons a rest ih =>
    cases found : heading a with
    | none =>
      obtain ⟨lead, later, bare, split⟩ := ih
      refine ⟨a :: lead, later, ?_, fun k => by simp [placed_cons, found, split]⟩
      intro b member
      rcases List.mem_cons.mp member with rfl | member
      next => exact found
      next => exact bare b member
    | some k =>
      exact ⟨[], placed heading k (a :: rest), by simp, fun k' => by simp [placed_cons, found]⟩

end Outline
