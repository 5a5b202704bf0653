import Mathlib.Data.List.Basic
import Mathlib.Data.List.TakeWhile
import Mathlib.Tactic.Common
import Mathlib.Data.List.DropRight

set_option autoImplicit false

/-!
# Strings in memory

A string is what stands before the first terminator. Its tokens stand between separators.
-/

namespace CString

variable {A : Type} [DecidableEq A] (nul : A)

def read (bytes : List A) : List A :=
  bytes.takeWhile (· ≠ nul)

variable {nul}

theorem mem_of_mem_read {bytes : List A} {a : A} (member : a ∈ read nul bytes) : a ∈ bytes :=
  (List.takeWhile_prefix _).subset member

theorem nul_read (bytes : List A) : nul ∉ read nul bytes := by
  intro member
  simpa using List.mem_takeWhile_imp member

theorem read_plain {bytes : List A} (plain : nul ∉ bytes) : read nul bytes = bytes := by
  rw [read, List.takeWhile_eq_self_iff]
  intro a member
  have different : a ≠ nul := fun same => plain (same ▸ member)
  simpa using different

theorem read_terminated {string : List A} (plain : nul ∉ string) (tail : List A) :
    read nul (string ++ nul :: tail) = string := by
  have solid : ∀ a ∈ string, decide (a ≠ nul) = true := by
    intro a member
    have different : a ≠ nul := fun same => plain (same ▸ member)
    simpa using different
  rw [read, List.takeWhile_append_of_pos solid, List.takeWhile_cons_of_neg (by simp),
    List.append_nil]

/-- What `strtok` finds between the separators: nothing is no token. -/
def tokens (separator : A) (string : List A) : List (List A) :=
  (string.splitOn separator).filter (· ≠ [])

end CString

/-!
## Lines of a stream

A line is what a separator ends; what follows the last separator is no line yet.
-/

namespace Lines

variable {A : Type} [DecidableEq A]

def complete (sep : A) (stream : List A) : List (List A) :=
  (stream.splitOn sep).dropLast

theorem complete_plain {sep : A} {stream : List A} (plain : sep ∉ stream) :
    complete sep stream = [] := by
  simp [complete, List.splitOn_eq_singleton plain]

theorem complete_line {sep : A} {line : List A} (plain : sep ∉ line) (rest : List A) :
    complete sep (line ++ sep :: rest) = line :: complete sep rest := by
  rw [complete, List.splitOn_append_cons_self_of_not_mem plain,
    List.dropLast_cons_of_ne_nil (List.splitOn_ne_nil sep rest)]
  rfl

theorem stream_induction (sep : A) {P : List A → Prop} (plain : ∀ stream, sep ∉ stream → P stream)
    (line : ∀ line rest, sep ∉ line → P rest → P (line ++ sep :: rest)) (stream : List A) :
    P stream := by
  -- A stream is a line and a stream, or no separator is in it.
  by_cases member : sep ∈ stream
  · obtain ⟨first, rest, parts, absent⟩ := List.eq_append_cons_of_mem member
    rw [parts]
    exact line first rest absent (stream_induction sep plain line rest)
  · exact plain stream member
termination_by stream.length
decreasing_by
  rw [parts, List.length_append, List.length_cons]
  omega

theorem piece_of_splitOn {sep : A} {stream piece : List A} (member : piece ∈ stream.splitOn sep) :
    sep ∉ piece ∧ piece ⊆ stream := by
  -- A piece has no separator in it and nothing else than the stream has.
  induction stream using stream_induction sep with
  | plain stream absent =>
      rw [List.splitOn_eq_singleton absent, List.mem_singleton] at member
      subst member
      exact ⟨absent, List.Subset.refl _⟩
  | line first rest absent ih =>
      rw [List.splitOn_append_cons_self_of_not_mem absent, List.mem_cons] at member
      rcases member with rfl | member
      · exact ⟨absent, List.subset_append_left ..⟩
      · obtain ⟨plain, inside⟩ := ih member
        exact ⟨plain, fun a held =>
          List.mem_append_right _ (List.mem_cons_of_mem _ (inside held))⟩

end Lines

/-!
## Trimming a list at both ends
-/

namespace Trim

variable {A : Type} (blank : A → Bool)

def trim (l : List A) : List A :=
  (l.dropWhile blank).rdropWhile blank

variable {blank}

@[simp] theorem trim_nil : trim blank [] = [] := by
  simp [trim]

@[simp] theorem trim_cons_blank {a : A} (isBlank : blank a = true) (l : List A) :
    trim blank (a :: l) = trim blank l := by
  simp [trim, isBlank]

theorem trim_concat_blank (l : List A) {a : A} (isBlank : blank a = true) :
    trim blank (l ++ [a]) = trim blank l := by
  by_cases all : ∀ x ∈ l, blank x = true
  next => simp [trim, List.dropWhile_append, List.dropWhile_eq_nil_iff.mpr all, isBlank]
  next =>
    have rest : l.dropWhile blank ≠ [] := fun none => all (List.dropWhile_eq_nil_iff.mp none)
    simp [trim, List.dropWhile_append, rest, List.rdropWhile_concat_pos, isBlank]

theorem trim_rdropWhile (l : List A) : trim blank (l.rdropWhile blank) = trim blank l := by
  induction l using List.reverseRecOn with
  | nil => simp
  | append_singleton l a ih =>
    by_cases isBlank : blank a = true
    next => rw [List.rdropWhile_concat_pos _ _ _ isBlank, ih, trim_concat_blank l isBlank]
    next => rw [List.rdropWhile_concat_neg _ _ _ isBlank]

theorem trim_dropWhile (l : List A) : trim blank (l.dropWhile blank) = trim blank l := by
  rw [trim, List.dropWhile_idempotent, trim]

theorem trim_trim (l : List A) : trim blank (trim blank l) = trim blank l :=
  (trim_rdropWhile _).trans (trim_dropWhile l)

theorem rdropWhile_around {a : A} (solid : blank a = false) (before after : List A) :
    (before ++ a :: after).rdropWhile blank = before ++ a :: after.rdropWhile blank := by
  induction after using List.reverseRecOn with
  | nil => simp [List.rdropWhile_concat_neg, solid]
  | append_singleton rest b ih =>
    have regroup : before ++ a :: (rest ++ [b]) = (before ++ a :: rest) ++ [b] := by simp
    by_cases isBlank : blank b = true
    next => simp only [regroup, List.rdropWhile_concat_pos _ _ _ isBlank, ih]
    next => simp only [regroup, List.rdropWhile_concat_neg _ _ _ isBlank]

theorem trim_around {a : A} (solid : blank a = false) (before after : List A) :
    trim blank (before ++ a :: after) =
      before.dropWhile blank ++ a :: after.rdropWhile blank := by
  -- An entry that is no blank splits the work.
  have left : (before ++ a :: after).dropWhile blank = before.dropWhile blank ++ a :: after := by
    induction before with
    | nil => simp [solid]
    | cons b rest ih => by_cases isBlank : blank b = true <;> simp [isBlank, ih]
  rw [trim, left, rdropWhile_around solid]

theorem trim_solid {l : List A} (solid : ∀ a ∈ l, blank a = false) : trim blank l = l := by
  have front : l.dropWhile blank = l := by
    rw [List.dropWhile_eq_self_iff]
    intro some_entries first
    exact absurd first (by simp [solid _ (List.getElem_mem some_entries)])
  have back : l.rdropWhile blank = l := by
    rw [List.rdropWhile_eq_self_iff]
    intro some_entries last
    exact absurd last (by simp [solid _ (List.getLast_mem some_entries)])
  rw [trim, front, back]

theorem trim_sublist (l : List A) : (trim blank l).Sublist l :=
  (List.rdropWhile_prefix blank _).sublist.trans (List.dropWhile_sublist _)

theorem mem_of_mem_trim {l : List A} {a : A} (member : a ∈ trim blank l) : a ∈ l :=
  (trim_sublist l).subset member

theorem trim_length (l : List A) : (trim blank l).length ≤ l.length :=
  (trim_sublist l).length_le

theorem head_trim {l : List A} {a : A} (first : a ∈ (trim blank l).head?) : blank a = false := by
  obtain ⟨cut, split⟩ := List.rdropWhile_prefix blank (l.dropWhile blank)
  have cutFirst : ((l.dropWhile blank).rdropWhile blank).head? = some a := first
  have same : (l.dropWhile blank).head? = some a := by
    rw [← split, List.head?_append, cutFirst, Option.some_or]
  have solid := List.head?_dropWhile_not blank l
  rw [same] at solid
  simpa using solid

end Trim

/-!
## Decimal numerals

Numbers as they are printed, with leading zeros or without, and where they end in a text.
-/

namespace Decimal

theorem isDigit_toDigits (n : Nat) : ∀ c ∈ Nat.toDigits 10 n, c.isDigit = true := fun _ member =>
  Nat.isDigit_of_mem_toDigits (by decide) (by decide) member

theorem isDigit_padded (zeros n : Nat) :
    ∀ c ∈ List.replicate zeros '0' ++ Nat.toDigits 10 n, c.isDigit = true := by
  intro c member
  rcases List.mem_append.mp member with zero | digit
  next =>
    rw [List.eq_of_mem_replicate zero]
    decide
  next => exact isDigit_toDigits n c digit

theorem value_padded (zeros n : Nat) :
    Nat.ofDigitChars 10 (List.replicate zeros '0' ++ Nat.toDigits 10 n) 0 = n := by
  rw [Nat.ofDigitChars_append, Nat.ofDigitChars_replicate_zero, Nat.mul_zero,
    Nat.ofDigitChars_ten_toDigits]

theorem padded_inj {zeros zeros' n m : Nat}
    (same : List.replicate zeros '0' ++ Nat.toDigits 10 n =
      List.replicate zeros' '0' ++ Nat.toDigits 10 m) : n = m := by
  rw [← value_padded zeros n, same, value_padded]

theorem toDigits_inj {n m : Nat} (same : Nat.toDigits 10 n = Nat.toDigits 10 m) : n = m :=
  @padded_inj 0 0 n m same

theorem takeWhile_digits {text rest : List Char} (all : ∀ c ∈ text, c.isDigit = true)
    (ends : ∀ c ∈ rest.head?, c.isDigit = false) :
    (text ++ rest).takeWhile Char.isDigit = text ∧ (text ++ rest).dropWhile Char.isDigit = rest := by
  rw [List.takeWhile_append_of_pos all, List.dropWhile_append_of_pos all]
  cases rest with
  | nil => simp
  | cons c rest => simp [ends c rfl]

/-- Digits are told apart from what stands behind them. -/
theorem digits_end {text text' rest rest' : List Char} (all : ∀ c ∈ text, c.isDigit = true)
    (all' : ∀ c ∈ text', c.isDigit = true) (ends : ∀ c ∈ rest.head?, c.isDigit = false)
    (ends' : ∀ c ∈ rest'.head?, c.isDigit = false) (same : text ++ rest = text' ++ rest') :
    text = text' ∧ rest = rest' := by
  obtain ⟨whole, after⟩ := takeWhile_digits all ends
  obtain ⟨whole', after'⟩ := takeWhile_digits all' ends'
  rw [same] at whole after
  exact ⟨whole.symm.trans whole', after.symm.trans after'⟩

end Decimal
