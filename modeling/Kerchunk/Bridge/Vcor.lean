import Mathlib.Data.List.Induction
import Mathlib.Tactic.Common

set_option autoImplicit false

/-!
# What a remote voice bridge asks of the core

A bridge requests and releases PTT and fires VCOR_ASSERT and VCOR_DROP for its source.
-/

namespace Kerchunk.Bridge

/-- `W` is how the bridge names a user in its events. -/
inductive Action (W : Type) where
  | requestPtt
  | releasePtt
  | vcorAssert (who : W)
  | vcorDrop (who : W)
deriving DecidableEq

/-- `asserted` is the user of an ASSERT without DROP, `held` the requests less the releases. -/
structure Ledger (W : Type) where
  asserted : Option W
  held : Int
  alternates : Bool
deriving DecidableEq

namespace Ledger

variable {W : Type}

def start : Ledger W where
  asserted := none
  held := 0
  alternates := true

variable [DecidableEq W]

def note (l : Ledger W) : Action W → Ledger W
  | .requestPtt => { l with held := l.held + 1 }
  | .releasePtt => { l with held := l.held - 1 }
  | .vcorAssert who =>
    { l with asserted := some who, alternates := l.alternates && l.asserted.isNone }
  | .vcorDrop who =>
    { l with asserted := none, alternates := l.alternates && l.asserted = some who }

def notes (l : Ledger W) (actions : List (Action W)) : Ledger W :=
  actions.foldl note l

@[simp] theorem notes_nil (l : Ledger W) : l.notes [] = l := rfl

@[simp] theorem notes_cons (l : Ledger W) (a : Action W) (actions : List (Action W)) :
    l.notes (a :: actions) = (l.note a).notes actions := rfl

theorem notes_append (l : Ledger W) (first second : List (Action W)) :
    l.notes (first ++ second) = (l.notes first).notes second := by
  simp [notes]

/-- Strict alternation, PTT held once between ASSERT and DROP and not otherwise, and nothing left
when nobody talks. -/
structure Balanced (l : Ledger W) (talking : Prop) : Prop where
  alternates : l.alternates = true
  held : l.held = if l.asserted.isSome then 1 else 0
  silent : ¬ talking → l.asserted = none ∧ l.held = 0

end Ledger

end Kerchunk.Bridge
