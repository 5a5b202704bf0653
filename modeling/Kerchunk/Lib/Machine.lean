import Mathlib.Data.List.Basic
import Mathlib.Tactic.Common

set_option autoImplicit false

/-!
# Runs of a deterministic machine

A machine is a step function; a run is a list of inputs. `Guarded` says that
every input meets a condition in the state that consumes it.
-/

namespace Machine

variable {S I : Type} (step : S → I → S)

def run (s : S) (inputs : List I) : S :=
  inputs.foldl step s

@[simp] theorem run_nil (s : S) : run step s [] = s := rfl

@[simp] theorem run_cons (s : S) (i : I) (inputs : List I) :
    run step s (i :: inputs) = run step (step s i) inputs := rfl

theorem run_append (s : S) (first second : List I) :
    run step s (first ++ second) = run step (run step s first) second := by
  simp [run]

def Guarded (ok : S → I → Prop) : S → List I → Prop
  | _, [] => True
  | s, i :: inputs => ok s i ∧ Guarded ok (step s i) inputs

instance decidableGuarded (ok : S → I → Prop) [∀ s i, Decidable (ok s i)] :
    (s : S) → (inputs : List I) → Decidable (Guarded step ok s inputs)
  | _, [] => inferInstanceAs (Decidable True)
  | s, i :: inputs =>
      have := decidableGuarded ok (step s i) inputs
      inferInstanceAs (Decidable (ok s i ∧ Guarded step ok (step s i) inputs))

theorem guarded_append (ok : S → I → Prop) (s : S) (first second : List I) :
    Guarded step ok s (first ++ second) ↔
      Guarded step ok s first ∧ Guarded step ok (run step s first) second := by
  induction first generalizing s with
  | nil => simp [Guarded]
  | cons i rest ih => simp [Guarded, ih, and_assoc]

theorem guarded_and {ok ok' : S → I → Prop} {s : S} {inputs : List I}
    (first : Guarded step ok s inputs) (second : Guarded step ok' s inputs) :
    Guarded step (fun s i => ok s i ∧ ok' s i) s inputs := by
  induction inputs generalizing s with
  | nil => trivial
  | cons i rest ih => exact ⟨⟨first.1, second.1⟩, ih first.2 second.2⟩

theorem guarded_congr {ok ok' : S → I → Prop} (same : ∀ s i, ok s i ↔ ok' s i) (s : S)
    (inputs : List I) : Guarded step ok s inputs ↔ Guarded step ok' s inputs := by
  induction inputs generalizing s with
  | nil => rfl
  | cons i rest ih => exact and_congr (same s i) (ih (step s i))

theorem guarded_of_forall {ok : S → I → Prop} {inputs : List I} (free : ∀ i ∈ inputs, ∀ s, ok s i)
    (s : S) : Guarded step ok s inputs := by
  induction inputs generalizing s with
  | nil => trivial
  | cons i rest ih =>
      exact ⟨free i (List.mem_cons_self ..) s,
        ih (fun j member => free j (List.mem_cons_of_mem _ member)) (step s i)⟩

theorem run_holds {P : S → Prop} (keeps : ∀ s i, P s → P (step s i)) {s : S}
    {inputs : List I} (start : P s) : P (run step s inputs) := by
  -- An invariant that every step keeps holds after every run.
  induction inputs generalizing s with
  | nil => exact start
  | cons i rest ih => exact ih (keeps s i start)

theorem run_invariant {ok : S → I → Prop} {P : S → Prop}
    (keeps : ∀ s i, P s → ok s i → P (step s i)) {s : S} {inputs : List I}
    (start : P s) (guarded : Guarded step ok s inputs) : P (run step s inputs) := by
  -- An invariant that every allowed step keeps holds after every allowed run.
  induction inputs generalizing s with
  | nil => exact start
  | cons i rest ih => exact ih (keeps s i start guarded.1) guarded.2

/-- Where an allowed step keeps the invariant and has a property, every step of an allowed run has
it. -/
theorem guarded_of_invariant {ok post : S → I → Prop} {P : S → Prop}
    (keeps : ∀ s i, P s → ok s i → P (step s i) ∧ post s i) {s : S} {inputs : List I}
    (start : P s) (guarded : Guarded step ok s inputs) : Guarded step post s inputs := by
  induction inputs generalizing s with
  | nil => trivial
  | cons i rest ih =>
      obtain ⟨after, holds⟩ := keeps s i start guarded.1
      exact ⟨holds, ih after guarded.2⟩

/-- Two conditions that agree wherever the invariant holds agree along a run, when each step that
meets them keeps the invariant. -/
theorem guarded_iff_of_invariant {ok post : S → I → Prop} {P : S → Prop}
    (same : ∀ s i, P s → (post s i ↔ ok s i)) (keeps : ∀ s i, P s → ok s i → P (step s i))
    {s : S} {inputs : List I} (start : P s) :
    Guarded step post s inputs ↔ Guarded step ok s inputs := by
  induction inputs generalizing s with
  | nil => rfl
  | cons i rest ih =>
      simp only [Guarded, same s i start]
      exact and_congr_right fun allowed => ih (keeps s i start allowed)

/-- A property that each step keeps if and only if it is allowed holds after a run if and only if the
run is allowed. -/
theorem run_iff_guarded {ok : S → I → Prop} {P Q : S → Prop} (keeps : ∀ s i, P s → P (step s i))
    (same : ∀ s i, P s → (Q (step s i) ↔ Q s ∧ ok s i)) {s : S} {inputs : List I} (start : P s) :
    Q (run step s inputs) ↔ Q s ∧ Guarded step ok s inputs := by
  induction inputs generalizing s with
  | nil => exact (and_iff_left trivial).symm
  | cons i rest ih => rw [run_cons, ih (keeps s i start), same s i start, Guarded, and_assoc]

theorem exists_breaking_step {P : S → Prop} {s : S} {inputs : List I}
    (start : P s) (lost : ¬ P (run step s inputs)) :
    ∃ before i after, inputs = before ++ i :: after ∧
      P (run step s before) ∧ ¬ P (step (run step s before) i) := by
  -- Where a predicate is lost along a run, one step loses it.
  induction inputs generalizing s with
  | nil => exact absurd start lost
  | cons i rest ih =>
      by_cases kept : P (step s i)
      · obtain ⟨before, j, after, split, held, broken⟩ := ih kept lost
        exact ⟨i :: before, j, after, by simp [split], held, broken⟩
      · exact ⟨[], i, rest, rfl, start, kept⟩

/-! ## A run that drives another machine -/

variable {T J : Type} (emits : S → I → List J)

def trace : S → List I → List J
  -- The inputs for the other machine, collected along a run.
  | _, [] => []
  | s, i :: inputs => emits s i ++ trace (step s i) inputs

variable {step emits} {view : S → T} {apply : T → J → T}

theorem mem_trace {s : S} {inputs : List I} {j : J} (issued : j ∈ trace step emits s inputs) :
    ∃ t, ∃ i ∈ inputs, j ∈ emits t i := by
  induction inputs generalizing s with
  | nil => cases issued
  | cons i rest ih =>
      rcases List.mem_append.mp issued with now | later
      · exact ⟨s, i, List.mem_cons_self .., now⟩
      · obtain ⟨t, k, member, found⟩ := ih later
        exact ⟨t, k, List.mem_cons_of_mem _ member, found⟩

theorem run_trace (simulates : ∀ s i, view (step s i) = run apply (view s) (emits s i))
    (s : S) (inputs : List I) :
    view (run step s inputs) = run apply (view s) (trace step emits s inputs) := by
  induction inputs generalizing s with
  | nil => rfl
  | cons i rest ih => rw [run_cons, ih, simulates, trace, run_append]

end Machine

/-!
## Acceptors of logs

An acceptor is a partial step function. It accepts a log when no entry is
refused, and the phase it ends in summarises the log.
-/

namespace Acceptor

variable {P A : Type} (next : P → A → Option P)

def accept (phase : P) (log : List A) : Option P :=
  log.foldlM next phase

@[simp] theorem accept_nil (phase : P) : accept next phase [] = some phase := rfl

theorem accept_cons (phase : P) (entry : A) (log : List A) :
    accept next phase (entry :: log) = (next phase entry).bind fun after => accept next after log :=
  rfl

theorem accept_append (phase : P) (first second : List A) :
    accept next phase (first ++ second) =
      (accept next phase first).bind fun middle => accept next middle second := by
  simp [accept, Option.bind_eq_bind]

theorem accept_snoc {phase middle : P} {log : List A} (accepted : accept next phase log = some middle)
    (entry : A) : accept next phase (log ++ [entry]) = next middle entry := by
  rw [accept_append, accepted, Option.bind_some, accept_cons]
  cases next middle entry <;> rfl

theorem accept_refused {phase : P} {log : List A} (refused : accept next phase log = none)
    (more : List A) : accept next phase (log ++ more) = none := by
  rw [accept_append, refused, Option.bind_none]

theorem accept_filter {keep : A → Bool}
    (skips : ∀ phase entry, keep entry = false → next phase entry = some phase) (phase : P)
    (log : List A) : accept next phase (log.filter keep) = accept next phase log := by
  -- Entries that leave every phase alone can be left out.
  induction log generalizing phase with
  | nil => rfl
  | cons entry rest ih =>
      rw [accept_cons]
      cases kept : keep entry with
      | true => simp only [List.filter_cons_of_pos kept, accept_cons, ih]
      | false =>
          rw [List.filter_cons_of_neg (by simp [kept]), ih, skips phase entry kept, Option.bind_some]

theorem accept_holds {holds : P → Prop} {log : List A}
    (keeps : ∀ before, ∀ entry ∈ log, ∀ after, holds before → next before entry = some after →
      holds after)
    {phase final : P} (start : holds phase) (accepted : accept next phase log = some final) :
    holds final := by
  -- What every entry of the log keeps holds at the end of an accepted log.
  induction log generalizing phase with
  | nil =>
    cases accepted
    exact start
  | cons entry rest ih =>
    rw [accept_cons] at accepted
    obtain ⟨middle, first, later⟩ := Option.bind_eq_some_iff.mp accepted
    exact ih (fun before other member => keeps before other (List.mem_cons_of_mem _ member))
      (keeps phase entry (List.mem_cons_self ..) middle start first) later

theorem accept_split {phase final : P} {before after : List A} {entry : A}
    (accepted : accept next phase (before ++ entry :: after) = some final) :
    ∃ held moved, accept next phase before = some held ∧ next held entry = some moved ∧
      accept next moved after = some final := by
  -- Around any entry of an accepted log there is a phase before it and one after it.
  rw [accept_append] at accepted
  obtain ⟨held, first, rest⟩ := Option.bind_eq_some_iff.mp accepted
  rw [accept_cons] at rest
  obtain ⟨moved, stepped, last⟩ := Option.bind_eq_some_iff.mp rest
  exact ⟨held, moved, first, stepped, last⟩

end Acceptor
