import Mathlib.Data.List.Basic
import Mathlib.Tactic.Common

set_option autoImplicit false

/-!
# Challenge and response

A log of who challenged whom. Where a challenge is new when it goes out, and a peer is accepted on a
proof for the challenge of its own channel, once, every acceptance has a proof to itself.
-/

namespace ChallengeResponse

variable {C N K X : Type}

/-- A challenge goes out on a channel; a holder of a key proves that it holds it, for a challenge; a
peer is accepted on a channel, under a name. -/
inductive Deed (C N K X : Type) where
  | issued (channel : C) (challenge : X)
  | proved (key : K) (challenge : X)
  | accepted (channel : C) (name : N) (key : K) (challenge : X)
deriving DecidableEq

def Deed.challenge : Deed C N K X → X
  | .issued _ x | .proved _ x | .accepted _ _ _ x => x

def New (log : List (Deed C N K X)) (x : X) : Prop :=
  ∀ d ∈ log, d.challenge ≠ x

def Accepted (log : List (Deed C N K X)) (x : X) : Prop :=
  ∃ c n k, .accepted c n k x ∈ log

def Permitted (log : List (Deed C N K X)) : Deed C N K X → Prop
  | .issued _ x => New log x
  | .proved _ _ => True
  | .accepted c _ k x => .issued c x ∈ log ∧ .proved k x ∈ log ∧ ¬ Accepted log x

def Lawful (log : List (Deed C N K X)) : Prop :=
  -- Every deed was permitted when it was done.
  ∀ before d after, log = before ++ d :: after → Permitted before d

/-- The challenge went out on the channel, a holder of the key answered it, and then the peer was
accepted for it: for the first time, and the last. -/
structure Agrees (before after : List (Deed C N K X)) (c : C) (k : K) (x : X) : Prop where
  answered : ∃ first between last, before = first ++ .issued c x :: between ++ .proved k x :: last
  first : ¬ Accepted before x
  last : ¬ Accepted after x

/-! ## One deed more -/

section

variable {log : List (Deed C N K X)} {d : Deed C N K X}

theorem lawful_nil : Lawful ([] : List (Deed C N K X)) := by
  intro before d after split
  simp at split

theorem lawful_snoc (lawful : Lawful log) (permitted : Permitted log d) : Lawful (log ++ [d]) := by
  intro before e after split
  rcases List.eq_nil_or_concat after with rfl | ⟨rest, last, rfl⟩
  next =>
    obtain ⟨rfl, same⟩ := List.append_inj' split rfl
    cases same
    exact permitted
  next =>
    rw [List.concat_eq_append, ← List.cons_append, ← List.append_assoc] at split
    exact lawful before e rest (List.append_inj' split rfl).1

theorem accepted_snoc {x : X} (other : ∀ c n k, d ≠ .accepted c n k x) :
    Accepted (log ++ [d]) x ↔ Accepted log x := by
  refine ⟨?_, fun ⟨c, n, k, member⟩ => ⟨c, n, k, List.mem_append_left _ member⟩⟩
  rintro ⟨c, n, k, member⟩
  rcases List.mem_append.mp member with old | new
  next => exact ⟨c, n, k, old⟩
  next => exact absurd (List.mem_singleton.mp new).symm (other c n k)

theorem not_accepted_of_new {x : X} (new : New log x) : ¬ Accepted log x := by
  rintro ⟨c, n, k, member⟩
  exact new _ member rfl

end

/-! ## What a lawful log says -/

section

variable {log : List (Deed C N K X)}

theorem issued_once (lawful : Lawful log) {c d : C} {x : X} (here : .issued c x ∈ log)
    (there : .issued d x ∈ log) : c = d := by
  -- The later of the two would not have been new.
  obtain ⟨before, after, rfl⟩ := List.append_of_mem here
  have fresh : New before x := lawful before _ after rfl
  rcases List.mem_append.mp there with earlier | later
  next => exact absurd rfl (fresh _ earlier)
  next =>
    rcases List.mem_cons.mp later with same | later
    next =>
      cases same
      rfl
    next =>
      obtain ⟨between, rest, rfl⟩ := List.append_of_mem later
      have new : New (before ++ .issued c x :: between) x :=
        lawful _ (.issued d x) rest (by simp)
      exact absurd rfl (new _ (List.mem_append_right _ (List.mem_cons_self ..)))

/-- Every acceptance in a lawful log has a proof of its own, made after its challenge went out. -/
theorem lawful_agrees (lawful : Lawful log) {before after : List (Deed C N K X)} {c : C} {n : N}
    {k : K} {x : X} (split : log = before ++ .accepted c n k x :: after) : Agrees before after c k x := by
  obtain ⟨issued, proved, firstTime⟩ : Permitted before (.accepted c n k x) :=
    lawful before _ after split
  refine ⟨?_, firstTime, ?_⟩
  next =>
    obtain ⟨first, rest, rfl⟩ := List.append_of_mem issued
    have fresh : New first x :=
      lawful first (.issued c x) (rest ++ .accepted c n k x :: after) (by simp [split])
    rcases List.mem_append.mp proved with earlier | later
    next => exact absurd rfl (fresh _ earlier)
    next =>
      rcases List.mem_cons.mp later with same | later
      next => cases same
      next =>
        obtain ⟨between, last, rfl⟩ := List.append_of_mem later
        exact ⟨first, between, last, by simp⟩
  next =>
    rintro ⟨d, m, l, later⟩
    obtain ⟨between, rest, rfl⟩ := List.append_of_mem later
    have again : Permitted (before ++ .accepted c n k x :: between) (.accepted d m l x) :=
      lawful _ _ rest (by simp [split])
    exact again.2.2 ⟨c, n, k, List.mem_append_right _ (List.mem_cons_self ..)⟩

end

end ChallengeResponse
