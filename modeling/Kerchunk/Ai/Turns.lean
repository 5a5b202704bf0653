import Kerchunk.Ai.Model
import Kerchunk.Lib.Machine
import Mathlib.Data.Int.Order.Basic
import Mathlib.Order.Lattice

set_option autoImplicit false

/-!
# The end of a turn (`run_ai_turn` in `modules/mod_ai.c`)

The loop goes on while replies call tools. Each round counts, and a round that may not call any more
tools is the last.
-/

namespace Kerchunk.Ai

open Kerchunk.Config (Text)

variable (cjson : Text → Option (List ToolCall))

/-- How one request ends, what the tools return should they be executed, and the time. -/
structure Answer where
  outcome : Outcome
  returned : List (Option Text)
  now : Int

def Assistant.obeys (s : Assistant) (outcome : Outcome) : Bool :=
  -- `execute_tool_calls` is called for the reply.
  match s.turn, s.request, outcome with
  | some t, some _, .replied r => executes s.cfg t r
  | _, _, _ => false

/-- The requests of a turn, and those that `execute_tool_calls` was called after. -/
structure Tally where
  assistant : Assistant
  requests : Nat
  executing : Nat

def Tally.step (w : Tally) (a : Answer) : Tally where
  assistant := w.assistant.post cjson a.outcome a.returned a.now
  requests := w.requests + if w.assistant.request.isSome then 1 else 0
  executing := w.executing + if w.assistant.obeys a.outcome then 1 else 0

def Tally.begun (s : Assistant) : Tally where
  assistant := s
  requests := 0
  executing := 0

def Tally.after (w : Tally) (answers : Nat → Answer) (count : Nat) : Tally :=
  Machine.run (Tally.step cjson) w ((List.range count).map answers)

/-! ## One request -/

section Post

variable {cjson} {s : Assistant} {t : Turn} {outcome : Outcome} {returned : List (Option Text)}
  {now : Int}

theorem post_idle (idle : s.turn = none) :
    (s.post cjson outcome returned now).turn = none ∧ s.request = none ∧ s.obeys outcome = false := by
  simp [Assistant.post, Assistant.request, Assistant.obeys, idle]

/-- A round ends the turn, or it executes the calls of its reply, or it is followed by one that may
not call tools. -/
theorem post_cases (given : s.turn = some t) :
    (s.post cjson outcome returned now).turn = none ∧ s.obeys outcome = false ∨
    ∃ barren, (s.post cjson outcome returned now).turn =
        some { t with rounds := t.rounds + 1, forceNoTools := barren } ∧
      s.request.isSome = true ∧ t.forceNoTools = false ∧
      (s.obeys outcome = true ∧ (t.rounds + 1 : Int) < s.cfg.maxToolRounds ∨
        s.obeys outcome = false ∧ barren = true) := by
  cases posted : s.request with
  | none =>
    left
    simp [Assistant.post, Assistant.obeys, given, posted]
  | some messages =>
    cases outcome with
    | failed =>
      left
      simp [Assistant.post, Assistant.obeys, given, posted]
    | replied r =>
      by_cases calls : executes s.cfg t r = true
      next =>
        right
        have free := calls
        simp only [executes, Bool.and_eq_true, Bool.not_eq_true', decide_eq_true_eq] at free
        refine ⟨(toolReplies (entries cjson r.toolCallsJson) t.callerAdmin returned).isEmpty, ?_, rfl,
          free.1.2, .inl ⟨?_, free.2⟩⟩
        next => simp [Assistant.post, given, posted, afterReply, calls]
        next => simp [Assistant.obeys, given, posted, calls]
      next =>
        have quiet : s.obeys (.replied r) = false := by
          simp [Assistant.obeys, given, posted, calls]
        by_cases limited : (r.toolCallsJson.isSome && !t.forceNoTools) = true
        next =>
          right
          have free := limited
          simp only [Bool.and_eq_true, Bool.not_eq_true'] at free
          refine ⟨true, ?_, rfl, free.2, .inr ⟨quiet, rfl⟩⟩
          simp [Assistant.post, given, posted, afterReply, calls, limited]
        next =>
          left
          refine ⟨?_, quiet⟩
          simp [Assistant.post, given, posted, afterReply, calls, limited]

theorem post_cfg : (s.post cjson outcome returned now).cfg = s.cfg := by
  unfold Assistant.post
  split
  next => rfl
  next => split <;> rfl

theorem executed_obeys (executed : s.executed cjson outcome ≠ []) : s.obeys outcome = true := by
  unfold Assistant.executed at executed
  unfold Assistant.obeys
  split at executed
  next => split at executed <;> simp_all
  next => exact absurd rfl executed

end Post

/-! ## The whole turn -/

/-- What the counters say while the turn goes on: every round so far has executed calls, unless tools
are off now. -/
structure Going (rounds : Int) (w : Tally) (t : Turn) : Prop where
  requests : w.requests = t.rounds
  executing : (w.executing : Int) ≤ max 0 (rounds - 1)
  free : t.forceNoTools = false → w.executing = t.rounds ∧ (t.rounds : Int) < max 1 rounds
  forced : (t.rounds : Int) ≤ max 1 rounds

structure Ended (rounds : Int) (w : Tally) : Prop where
  requests : (w.requests : Int) ≤ max 1 rounds + 1
  executing : (w.executing : Int) ≤ max 0 (rounds - 1)

def Bounded (rounds : Int) (w : Tally) : Prop :=
  w.assistant.cfg.maxToolRounds = rounds ∧
    (∀ t, w.assistant.turn = some t → Going rounds w t) ∧ Ended rounds w

variable {cjson}

theorem bounded_step {rounds : Int} {w : Tally} (bounded : Bounded rounds w) (a : Answer) :
    Bounded rounds (w.step cjson a) := by
  obtain ⟨limit, going, ended⟩ := bounded
  have kept : (w.step cjson a).assistant.cfg.maxToolRounds = rounds :=
    (congrArg Settings.maxToolRounds post_cfg).trans limit
  have requested : ∀ found : Bool, (if found = true then 1 else 0) ≤ 1 := by decide
  cases turn : w.assistant.turn with
  | none =>
    obtain ⟨idle, silent, quiet⟩ := @post_idle cjson _ a.outcome a.returned a.now turn
    refine ⟨kept, ?_, ?_⟩
    next =>
      intro t given
      exact absurd (given.symm.trans idle) (Option.some_ne_none t)
    next =>
      constructor
      next => simpa [Tally.step, silent] using ended.requests
      next => simpa [Tally.step, quiet] using ended.executing
  | some t =>
    have going := going t turn
    obtain ⟨requests, executing, free, forced⟩ := going
    rcases @post_cases cjson _ t a.outcome a.returned a.now turn with
      ⟨stops, quiet⟩ | ⟨barren, follows, posted, tools, how⟩
    next =>
      refine ⟨kept, ?_, ?_⟩
      next =>
        intro t' given
        exact absurd (given.symm.trans stops) (Option.some_ne_none t')
      next =>
        constructor
        next =>
          have more := requested w.assistant.request.isSome
          simp only [Tally.step]
          push_cast
          omega
        next => simpa [Tally.step, quiet] using executing
    next =>
      obtain ⟨each, below⟩ := free tools
      have counted : (w.step cjson a).requests = w.requests + 1 := by simp [Tally.step, posted]
      have after : (w.step cjson a).assistant.turn =
        some { t with rounds := t.rounds + 1, forceNoTools := barren } := follows
      rcases how with ⟨obeys, within⟩ | ⟨quiet, rfl⟩
      next =>
        have called : (w.step cjson a).executing = w.executing + 1 := by simp [Tally.step, obeys]
        rw [limit] at within
        refine ⟨kept, ?_, ⟨by omega, by omega⟩⟩
        intro t' given
        obtain rfl := Option.some.inj (after.symm.trans given)
        exact ⟨by rw [counted, requests], by omega, fun _ => ⟨by rw [called, each], by
          push_cast
          omega⟩, by
          push_cast
          omega⟩
      next =>
        have called : (w.step cjson a).executing = w.executing := by simp [Tally.step, quiet]
        refine ⟨kept, ?_, ⟨by omega, by omega⟩⟩
        intro t' given
        obtain rfl := Option.some.inj (after.symm.trans given)
        exact ⟨by rw [counted, requests], by omega, fun off => absurd off Bool.false_ne_true.symm, by
          push_cast
          omega⟩

theorem bounded_begun (s : Assistant) (now callerId : Int) (callerAdmin : Bool) (transcript : Text) :
    Bounded s.cfg.maxToolRounds (.begun (s.begins now callerId callerAdmin transcript)) := by
  refine ⟨rfl, ?_, ?_⟩
  next =>
    intro t given
    obtain rfl := Option.some.inj given
    have none_yet : ((0 : Nat) : Int) ≤ max 0 (s.cfg.maxToolRounds - 1) := by omega
    have one : ((0 : Nat) : Int) < max 1 s.cfg.maxToolRounds := by omega
    exact ⟨rfl, none_yet, fun _ => ⟨rfl, one⟩, one.le⟩
  next =>
    have none_yet : ((0 : Nat) : Int) ≤ max 0 (s.cfg.maxToolRounds - 1) := by omega
    have one : ((0 : Nat) : Int) ≤ max 1 s.cfg.maxToolRounds + 1 := by omega
    exact ⟨one, none_yet⟩

section Turn

variable {w : Tally} {answers : Nat → Answer}

theorem after_succ (count : Nat) :
    w.after cjson answers (count + 1) = (w.after cjson answers count).step cjson (answers count) := by
  simp [Tally.after, List.range_succ, Machine.run_append]

theorem after_bounded {rounds : Int} (begun : Bounded rounds w) (count : Nat) :
    Bounded rounds (w.after cjson answers count) := by
  induction count with
  | zero => exact begun
  | succ count ih =>
    rw [after_succ]
    exact bounded_step ih _

theorem after_rounds (fresh : ∀ t, w.assistant.turn = some t → t.rounds = 0) {count : Nat} {t : Turn}
    (given : (w.after cjson answers count).assistant.turn = some t) : t.rounds = count := by
  -- Every request of a turn that goes on has been a round.
  induction count generalizing t with
  | zero => exact fresh t given
  | succ count ih =>
    rw [after_succ] at given
    cases before : (w.after cjson answers count).assistant.turn with
    | none => exact absurd (given.symm.trans (post_idle before).1) (Option.some_ne_none t)
    | some t' =>
      rcases @post_cases cjson _ t' (answers count).outcome (answers count).returned
        (answers count).now before with ⟨stops, -⟩ | ⟨barren, follows, -⟩
      next => exact absurd (given.symm.trans stops) (Option.some_ne_none t)
      next =>
        obtain rfl := Option.some.inj (follows.symm.trans given)
        show t'.rounds + 1 = count + 1
        rw [ih before]

end Turn

variable (cjson)

theorem turn_ends (s : Assistant) (now callerId : Int) (callerAdmin : Bool) (transcript : Text)
    (answers : Nat → Answer) :
    let w := (Tally.begun (s.begins now callerId callerAdmin transcript)).after cjson answers
    let rounds := s.cfg.maxToolRounds
    (∃ count : Nat, (count : Int) ≤ max 1 rounds + 1 ∧ (w count).assistant.turn = none) ∧
      ∀ count, ((w count).requests : Int) ≤ max 1 rounds + 1 ∧
        ((w count).executing : Int) ≤ max 0 (rounds - 1) ∧
        ∀ t, (w count).assistant.turn = some t → t.forceNoTools = true →
          (w count).assistant.executed cjson (answers count).outcome = [] := by
  intro w rounds
  have bounded (count : Nat) : Bounded rounds (w count) :=
    after_bounded (bounded_begun s now callerId callerAdmin transcript) count
  constructor
  next =>
    refine ⟨(max 1 rounds).toNat + 1, by omega, ?_⟩
    cases given : (w ((max 1 rounds).toNat + 1)).assistant.turn with
    | none => rfl
    | some t =>
      -- There have been more rounds than there can be.
      have fresh : ∀ t, (Tally.begun (s.begins now callerId callerAdmin transcript)).assistant.turn =
          some t → t.rounds = 0 := by
        intro t begun
        obtain rfl := Option.some.inj begun
        rfl
      have every := after_rounds fresh given
      have within := ((bounded _).2.1 t given).forced
      omega
  next =>
    intro count
    obtain ⟨-, going, ended⟩ := bounded count
    refine ⟨ended.requests, ended.executing, fun t given off => ?_⟩
    by_contra executed
    rcases @post_cases cjson _ t (answers count).outcome (answers count).returned
      (answers count).now given with ⟨-, quiet⟩ | ⟨-, -, -, tools, -⟩
    next => exact absurd (executed_obeys executed) (by simp [quiet])
    next => simp [off] at tools

end Kerchunk.Ai
