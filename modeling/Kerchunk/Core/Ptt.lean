import Kerchunk.Lib.Machine

set_option autoImplicit false

/-!
# PTT arbitration (`src/kerchunk_core.c`, `cmd_ptt` in `src/main.c`)

The mutex makes each call one step. `README.md`: "multiple modules can hold PTT
simultaneously; hardware releases only when all refs drop to zero".
-/

namespace Kerchunk.Core

abbrev Holder := String

inductive PttCall where
  | request (moduleName : Holder)
  | release (moduleName : Holder)
deriving DecidableEq

inductive PttEvent where
  | pttAssert
  | pttDrop
deriving DecidableEq

/-- `hid` is the last value given to `kerchunk_hid_set_ptt`. -/
structure Ptt where
  active : Bool
  refcount : Nat
  hid : Bool
  fired : List PttEvent
deriving DecidableEq

namespace Ptt

def init : Ptt where
  active := false
  refcount := 0
  hid := false
  fired := []

def coreRequestPtt (p : Ptt) : Ptt :=
  let counted := { p with refcount := p.refcount + 1 }
  if p.active then counted
  else { counted with active := true, hid := true, fired := p.fired ++ [.pttAssert] }

def coreReleasePtt (p : Ptt) : Ptt :=
  let counted := { p with refcount := p.refcount - 1 }
  if counted.refcount = 0 ∧ p.active then
    { counted with active := false, hid := false, fired := p.fired ++ [.pttDrop] }
  else counted

-- The name only reaches the log.
def call (p : Ptt) : PttCall → Ptt
  | .request _ => p.coreRequestPtt
  | .release _ => p.coreReleasePtt

end Ptt

def cli : Holder := "cli"

def cmdPtt : List String → Option PttCall
  | _ :: word :: _ => some (if word = "on" then .request cli else .release cli)
  | _ => none

namespace Arbitration

inductive Input where
  | call (c : PttCall)
  | command (argv : List String)

def Input.calls : Input → Option PttCall
  | .call c => some c
  | .command argv => cmdPtt argv

/-- One entry in `held` for each request of a holder that it has not released. -/
structure State where
  ptt : Ptt
  held : List Holder
deriving DecidableEq

def init : State where
  ptt := Ptt.init
  held := []

def account (held : List Holder) : PttCall → List Holder
  | .request h => h :: held
  | .release h => held.erase h

def step (s : State) (i : Input) : State :=
  match i.calls with
  | some c => { ptt := s.ptt.call c, held := account s.held c }
  | none => s

def Unbalanced (s : State) : PttCall → Prop
  -- The call is a release by a holder without an outstanding request.
  | .request _ => False
  | .release h => h ∉ s.held

instance (s : State) : (c : PttCall) → Decidable (Unbalanced s c)
  | .request _ => inferInstanceAs (Decidable False)
  | .release h => inferInstanceAs (Decidable (h ∉ s.held))

/-- After the step PTT is asserted exactly when some request is outstanding, and an unbalanced
release has changed nothing. -/
def Arbitrated (s : State) (i : Input) : Prop :=
  ((step s i).ptt.hid = true ↔ (step s i).held ≠ []) ∧
    ∀ c ∈ i.calls, Unbalanced s c → (step s i).ptt = s.ptt

instance (s : State) (i : Input) : Decidable (Arbitrated s i) :=
  inferInstanceAs (Decidable (_ ∧ _))

def Paired (s : State) (i : Input) : Prop :=
  -- No release by a holder without an outstanding request, while another holder has one.
  ∀ c ∈ i.calls, Unbalanced s c → s.held = []

structure Counted (s : State) : Prop where
  refcount : s.ptt.refcount = s.held.length
  active : s.ptt.active = true ↔ s.held ≠ []
  hid : s.ptt.hid = s.ptt.active

theorem init_counted : Counted init where
  refcount := rfl
  active := by simp [init, Ptt.init]
  hid := rfl

theorem request_counted {s : State} (counted : Counted s) (h : Holder) :
    Counted ⟨s.ptt.coreRequestPtt, h :: s.held⟩ := by
  obtain ⟨refcount, active, hid⟩ := counted
  unfold Ptt.coreRequestPtt
  split
  next on => exact ⟨by simp [refcount], by simp [on], hid⟩
  next => exact ⟨by simp [refcount], by simp, rfl⟩

theorem release_counted {s : State} (counted : Counted s) {h : Holder} (holds : h ∈ s.held) :
    Counted ⟨s.ptt.coreReleasePtt, s.held.erase h⟩ := by
  obtain ⟨refcount, active, hid⟩ := counted
  have nonempty : s.held ≠ [] := List.ne_nil_of_mem holds
  have on : s.ptt.active = true := active.mpr nonempty
  have left : s.ptt.refcount - 1 = (s.held.erase h).length := by
    rw [List.length_erase_of_mem holds, refcount]
  by_cases last : s.ptt.refcount - 1 = 0
  next =>
    have none_left : s.held.erase h = [] := List.length_eq_zero_iff.mp (left.symm.trans last)
    simp only [Ptt.coreReleasePtt, last, on, and_self, if_true]
    exact ⟨by simp [none_left], by simp [none_left], rfl⟩
  next =>
    have some_left : s.held.erase h ≠ [] := by
      intro none_left
      exact last (by simp [left, none_left])
    simp only [Ptt.coreReleasePtt, last, false_and, if_false]
    exact ⟨left, by simp [on, some_left], hid⟩

theorem release_idle {s : State} (counted : Counted s) (none_held : s.held = []) :
    s.ptt.coreReleasePtt = s.ptt := by
  obtain ⟨refcount, active, -⟩ := counted
  have off : s.ptt.active = false := by simpa [none_held] using active
  have zero : s.ptt.refcount = 0 := by simp [refcount, none_held]
  cases s with
  | mk ptt held =>
    cases ptt
    simp_all [Ptt.coreReleasePtt]

-- The count goes down whoever releases.
theorem release_changes {s : State} (counted : Counted s) (some_held : s.held ≠ []) :
    s.ptt.coreReleasePtt ≠ s.ptt := by
  intro same
  have positive : 0 < s.ptt.refcount := by
    rw [counted.refcount]
    exact List.length_pos_iff.mpr some_held
  have lower : s.ptt.coreReleasePtt.refcount = s.ptt.refcount - 1 := by
    simp only [Ptt.coreReleasePtt]
    split <;> rfl
  rw [same] at lower
  omega

theorem paired_keeps {s : State} {i : Input} (counted : Counted s) (paired : Paired s i) :
    Counted (step s i) := by
  unfold step
  cases found : i.calls with
  | none => exact counted
  | some c =>
    cases c with
    | request h => exact request_counted counted h
    | release h =>
      by_cases holds : h ∈ s.held
      next => exact release_counted counted holds
      next =>
        have none_held := paired _ found holds
        have same := release_idle counted none_held
        have kept : s.held.erase h = s.held := List.erase_of_not_mem holds
        simpa [Ptt.call, account, same, kept] using counted

theorem arbitrated_iff {s : State} (i : Input) (counted : Counted s) :
    Arbitrated s i ↔ Paired s i := by
  constructor
  next =>
    rintro ⟨-, unchanged⟩ c calls unbalanced
    cases c with
    | request h => exact unbalanced.elim
    | release h =>
      by_contra some_held
      have same := unchanged _ calls unbalanced
      simp only [step, Option.mem_def.mp calls, Ptt.call] at same
      exact release_changes counted some_held same
  next =>
    intro paired
    have after := paired_keeps counted paired
    refine ⟨by rw [after.hid, after.active], ?_⟩
    intro c calls unbalanced
    cases c with
    | request h => exact unbalanced.elim
    | release h =>
      simp only [step, Option.mem_def.mp calls, Ptt.call]
      exact release_idle counted (paired _ calls unbalanced)

theorem arbitrated_iff_paired (inputs : List Input) :
    Machine.Guarded step Arbitrated init inputs ↔ Machine.Guarded step Paired init inputs :=
  Machine.guarded_iff_of_invariant step (P := Counted)
    (fun _ i counted => arbitrated_iff i counted)
    (fun _ _ counted paired => paired_keeps counted paired) init_counted

/-- The operator's `ptt off` takes the request of a module that still transmits. -/
theorem ptt_off_drops_other_holder :
    ¬ Machine.Guarded step Arbitrated init
      [.call (.request "mod_link"), .command ["ptt", "off"]] := by
  decide

end Arbitration

end Kerchunk.Core
