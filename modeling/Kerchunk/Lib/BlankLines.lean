import Mathlib.Data.List.Basic
import Mathlib.Tactic.Common

set_option autoImplicit false

/-!
# Blocks of a stream

A block ends at a doubled separator. `cut` finds the first block of a text at once; `deframe` takes
the text one element at a time.
-/

namespace BlankLines

variable {A : Type} [DecidableEq A] (sep : A)

def cut : List A → Option (List A × List A)
  | [] => none
  | a :: rest =>
    if a = sep ∧ rest.head? = some sep then some ([], rest.tail)
    else (cut rest).map fun (block, after) => (a :: block, after)

variable {sep}

theorem cut_parts {text block after : List A} (found : cut sep text = some (block, after)) :
    text = block ++ sep :: sep :: after := by
  induction text generalizing block with
  | nil => simp [cut] at found
  | cons a rest ih =>
      rw [cut] at found
      split at found
      next doubled =>
        obtain ⟨rfl, head⟩ := doubled
        cases rest with
        | nil => simp at head
        | cons second rest =>
            simp only [List.head?_cons, Option.some.injEq] at head
            simp only [List.tail_cons, Option.some.injEq, Prod.mk.injEq] at found
            rw [← found.1, ← found.2, head, List.nil_append]
      next =>
        simp only [Option.map_eq_some_iff, Prod.mk.injEq, Prod.exists] at found
        obtain ⟨shorter, same, found, rfl, rfl⟩ := found
        rw [ih found, List.cons_append]

theorem cut_append {text block after : List A} (found : cut sep text = some (block, after))
    (more : List A) : cut sep (text ++ more) = some (block, after ++ more) := by
  induction text generalizing block with
  | nil => simp [cut] at found
  | cons a rest ih =>
      rw [cut] at found
      split at found
      next doubled =>
        have head : (rest ++ more).head? = some sep := by simp [doubled.2]
        simp only [Option.some.injEq, Prod.mk.injEq] at found
        have some : rest ≠ [] := by
          rintro rfl
          simp at doubled
        rw [List.cons_append, cut, if_pos ⟨doubled.1, head⟩, List.tail_append_of_ne_nil some,
          ← found.1, found.2]
      next single =>
        simp only [Option.map_eq_some_iff, Prod.mk.injEq, Prod.exists] at found
        obtain ⟨shorter, same, found, rfl, rfl⟩ := found
        have single : ¬ (a = sep ∧ (rest ++ more).head? = some sep) := by
          rintro ⟨first, second⟩
          cases rest with
          | nil => simp [cut] at found
          | cons => exact single ⟨first, by simpa using second⟩
        rw [List.cons_append, cut, if_neg single, ih found]
        rfl

theorem cut_beyond {text more block after : List A} (none : cut sep text = none)
    (found : cut sep (text ++ more) = some (block, after)) : text.length < block.length + 2 := by
  -- A block that is found only with more behind the text ends beyond the text.
  induction text generalizing block with
  | nil => simp
  | cons a rest ih =>
      rw [cut] at none
      split at none
      next => simp at none
      next single =>
        rw [Option.map_eq_none_iff] at none
        rw [List.cons_append, cut] at found
        split at found
        next doubled =>
          cases rest with
          | nil => simp
          | cons => exact absurd ⟨doubled.1, by simpa using doubled.2⟩ single
        next =>
          simp only [Option.map_eq_some_iff, Prod.mk.injEq, Prod.exists] at found
          obtain ⟨shorter, same, found, rfl, rfl⟩ := found
          have bound := ih none found
          simp only [List.length_cons]
          omega

theorem cut_doubled (first second : List A) :
    (cut sep (first ++ sep :: sep :: second)).isSome = true := by
  induction first with
  | nil => simp [cut]
  | cons a rest ih =>
      rw [List.cons_append, cut]
      split
      next => rfl
      next => simpa using ih

theorem cut_first {text block after : List A} (found : cut sep text = some (block, after)) :
    cut sep (block ++ [sep]) = none := by
  -- A block and the separator behind it hold no doubled one.
  induction text generalizing block with
  | nil => simp [cut] at found
  | cons a rest ih =>
      rw [cut] at found
      split at found
      next =>
        simp only [Option.some.injEq, Prod.mk.injEq] at found
        rw [← found.1]
        simp [cut]
      next single =>
        simp only [Option.map_eq_some_iff, Prod.mk.injEq, Prod.exists] at found
        obtain ⟨shorter, same, found, rfl, rfl⟩ := found
        have parts := cut_parts found
        have head : (shorter ++ [sep]).head? = rest.head? := by
          rw [parts]
          cases shorter <;> rfl
        rw [List.cons_append, cut, head, if_neg single, ih found]
        rfl

theorem cut_length {text block after : List A} (found : cut sep text = some (block, after)) :
    text.length = block.length + 2 + after.length := by
  rw [cut_parts found]
  simp only [List.length_append, List.length_cons]
  omega

variable (sep)

def join (blocks : List (List A)) (unfinished : List A) : List A :=
  blocks.flatMap (· ++ [sep, sep]) ++ unfinished

def deframeStep (s : List (List A) × List A) (a : A) : List (List A) × List A :=
  if a = sep ∧ s.2.getLast? = some sep then (s.1 ++ [s.2.dropLast], []) else (s.1, s.2 ++ [a])

def deframe (text : List A) : List (List A) × List A :=
  -- The blocks of a text, and what is unfinished.
  text.foldl (deframeStep sep) ([], [])

variable {sep}

theorem fold_open (blocks : List (List A)) {unfinished more : List A}
    (none : cut sep (unfinished ++ more) = none) :
    more.foldl (deframeStep sep) (blocks, unfinished) = (blocks, unfinished ++ more) := by
  induction more generalizing unfinished with
  | nil => simp
  | cons a more ih =>
      have single : ¬ (a = sep ∧ unfinished.getLast? = some sep) := by
        rintro ⟨rfl, last⟩
        obtain ⟨before, rfl⟩ := List.getLast?_eq_some_iff.mp last
        have doubled : (cut a (before ++ a :: a :: more)).isSome = true := cut_doubled before more
        rw [List.append_assoc, List.singleton_append] at none
        simp [none] at doubled
      rw [List.foldl_cons, deframeStep, if_neg single,
        ih (by simpa using none), List.append_assoc, List.singleton_append]

theorem deframe_open {text : List A} (none : cut sep text = none) : deframe sep text = ([], text) :=
  fold_open [] none

theorem fold_blocks (blocks : List (List A)) (unfinished more : List A) :
    more.foldl (deframeStep sep) (blocks, unfinished) =
      (blocks ++ (more.foldl (deframeStep sep) ([], unfinished)).1,
        (more.foldl (deframeStep sep) ([], unfinished)).2) := by
  -- Earlier blocks stay in front.
  induction more generalizing blocks unfinished with
  | nil => simp
  | cons a more ih =>
      rw [List.foldl_cons, List.foldl_cons, deframeStep, deframeStep]
      split
      next => rw [ih, ih ([] ++ [unfinished.dropLast])]; simp
      next => rw [ih]

theorem deframe_block {text block after : List A} (found : cut sep text = some (block, after)) :
    deframe sep text = (block :: (deframe sep after).1, (deframe sep after).2) := by
  have none : cut sep ([] ++ (block ++ [sep])) = none := cut_first found
  have before := fold_open [] none
  rw [List.nil_append] at before
  have parts : text = (block ++ [sep]) ++ sep :: after := by
    rw [cut_parts found, List.append_assoc, List.singleton_append]
  have ends : deframeStep sep ([], block ++ [sep]) sep = ([block], []) := by
    simp [deframeStep]
  rw [deframe, parts, List.foldl_append, before, List.foldl_cons, ends, fold_blocks]
  rfl

theorem join_deframe (sep : A) (text : List A) :
    join sep (deframe sep text).1 (deframe sep text).2 = text := by
  cases found : cut sep text with
  | none => rw [deframe_open found]; rfl
  | some parts =>
      obtain ⟨block, after⟩ := parts
      have rest := join_deframe sep after
      rw [deframe_block found]
      simp only [join, List.flatMap_cons, List.append_assoc] at rest ⊢
      rw [rest, cut_parts found]
      rfl
termination_by text.length
decreasing_by
  rw [cut_length found]
  omega

theorem cut_unfinished (sep : A) (text : List A) : cut sep (deframe sep text).2 = none := by
  cases found : cut sep text with
  | none => rw [deframe_open found, found]
  | some parts =>
      obtain ⟨block, after⟩ := parts
      rw [deframe_block found]
      exact cut_unfinished sep after
termination_by text.length
decreasing_by
  rw [cut_length found]
  omega

theorem deframe_append (sep : A) (first second : List A) :
    deframe sep (first ++ second) =
      ((deframe sep first).1 ++ (deframe sep ((deframe sep first).2 ++ second)).1,
        (deframe sep ((deframe sep first).2 ++ second)).2) := by
  -- What is unfinished goes before what comes next.
  have whole : deframe sep (deframe sep first).2 = ([], (deframe sep first).2) :=
    deframe_open (cut_unfinished sep first)
  have later : deframe sep ((deframe sep first).2 ++ second) =
      second.foldl (deframeStep sep) ([], (deframe sep first).2) := by
    rw [deframe, List.foldl_append]
    exact congrArg (fun s => second.foldl (deframeStep sep) s) whole
  rw [later, deframe, List.foldl_append]
  exact fold_blocks _ _ _

end BlankLines
