import Kerchunk.Core.TxActivity

set_option autoImplicit false

/-!
# Sessions of the TX-activity detector

The edges that the detector reports for any sequence of readings, against the readings themselves:
a session begins with presence and ends with a silence that fills its window.
-/

namespace Kerchunk.Core

open Polls (cosLevel flapped heard quietStretch recentTone)
open TxActivity (follow SameSetting)

/-- What `kerchunk_txactivity_tick` is given. -/
structure Reading where
  cosRaw : Option Bool
  dtmfActive : Bool
deriving DecidableEq

def Reading.poll (r : Reading) : Poll :=
  ⟨false, r.cosRaw, r.dtmfActive⟩

/-- `since` counts the ticks after the one that reported BEGIN, `polls` are the readings with the
newest first, and `edges` the edges with the oldest first. -/
structure Watch where
  detector : TxActivity
  since : Option Nat
  polls : List Poll
  edges : List TxactEvent
deriving DecidableEq

def Watch.step (w : Watch) (r : Reading) : Watch :=
  let next := w.detector.tick r.cosRaw r.dtmfActive
  { detector := next.2
    since := follow w.since next.1
    polls := r.poll :: w.polls
    edges := if next.1 = .noEdge then w.edges else w.edges ++ [next.1] }

def watch (endSilenceTicks endSilenceDtmfTicks dtmfGraceTicks : Int) (trustCosBit : Bool) :
    Watch where
  detector := .init endSilenceTicks endSilenceDtmfTicks dtmfGraceTicks trustCosBit
  since := none
  polls := []
  edges := []

namespace Watch

def event (w : Watch) (r : Reading) : TxactEvent :=
  (w.detector.tick r.cosRaw r.dtmfActive).1

def present (w : Watch) (r : Reading) : Bool :=
  heard w.detector.trustCosBit r.poll w.polls

def silence (w : Watch) (r : Reading) : Nat :=
  -- The ticks without presence that end with this one.
  quietStretch w.detector.trustCosBit (r.poll :: w.polls)

def patient (w : Watch) (r : Reading) (since : Nat) : Bool :=
  -- A tone less than the grace period ago, or COS up again in a session of `since` ticks.
  recentTone w.detector.dtmfGraceTicks (r.poll :: w.polls) ||
    flapped w.detector.trustCosBit (since + 1) (r.poll :: w.polls)

end Watch

/-- What an edge says of the readings. -/
structure Lawful (w : Watch) (r : Reading) : Prop where
  begins : w.event r = .txBegin ↔ w.since = none ∧ w.present r = true
  ends : w.event r = .txEnd → ∃ since, w.since = some since ∧
    max 1 w.detector.endSilenceTicks ≤ w.silence r ∧
    w.silence r ≤ max 1 w.detector.endSilenceDtmfTicks ∧
    (w.patient r since = true → w.detector.endSilenceDtmfTicks ≤ w.silence r)
  sustained : w.silence r < max 1 w.detector.endSilenceTicks → w.event r ≠ .txEnd

def Alternates (edges : List TxactEvent) : Prop :=
  ∀ k e, edges[k]? = some e → e = if k % 2 = 0 then .txBegin else .txEnd

/-! ## The invariant -/

structure Follows (w : Watch) : Prop where
  windows : w.detector.endSilenceTicks ≤ w.detector.endSilenceDtmfTicks
  sticky : w.detector.cosBitSticky = cosLevel w.detector.trustCosBit w.polls
  tone : ∀ ago, recentTone ago w.polls = true → w.detector.dtmfSeenAgo < ago
  published : w.detector.published = w.since.isSome
  silent : w.detector.published = true →
    w.detector.silentTicks = quietStretch w.detector.trustCosBit w.polls
  short : w.detector.silentTicks = 0 ∨
    w.detector.silentTicks < w.detector.endSilenceDtmfTicks
  flapped : ∀ since, w.since = some since →
    flapped w.detector.trustCosBit since w.polls = true → w.detector.cosFlappedSession = true
  edges : Alternates w.edges
  open_ : w.since.isSome = decide (w.edges.length % 2 = 1)

theorem watch_follows (endSilenceTicks endSilenceDtmfTicks dtmfGraceTicks : Int)
    (trustCosBit : Bool) :
    Follows (watch endSilenceTicks endSilenceDtmfTicks dtmfGraceTicks trustCosBit) where
  windows := Nat.le_max_right _ _
  sticky := rfl
  tone ago recent := by simp [watch, recentTone] at recent
  published := rfl
  silent published := by cases published
  short := .inl rfl
  flapped since live := by cases live
  edges k e found := by simp [watch] at found
  open_ := rfl

section

variable {w : Watch}

theorem observe_level (follows : Follows w) (r : Reading) :
    (w.detector.observe r.cosRaw r.dtmfActive).cosBitSticky =
      cosLevel w.detector.trustCosBit (r.poll :: w.polls) := by
  cases trust : w.detector.trustCosBit with
  | false => simp [TxActivity.observe, cosLevel, trust]
  | true =>
    have sticky := follows.sticky
    rw [trust] at sticky
    simp [TxActivity.observe, cosLevel, Reading.poll, Poll.cosRaw, trust, sticky]

theorem observe_present (follows : Follows w) (r : Reading) :
    ((w.detector.observe r.cosRaw r.dtmfActive).cosBitSticky || r.dtmfActive) = w.present r := by
  rw [observe_level follows, Watch.present, heard]
  rfl

theorem observe_recent (follows : Follows w) (r : Reading) (ago : Nat)
    (recent : recentTone ago (r.poll :: w.polls) = true) :
    (w.detector.observe r.cosRaw r.dtmfActive).dtmfSeenAgo < ago := by
  cases ago with
  | zero => simp [recentTone] at recent
  | succ before =>
    have split : recentTone (before + 1) (r.poll :: w.polls) =
        (r.dtmfActive || recentTone before w.polls) := rfl
    by_cases tone : r.dtmfActive = true
    next => simp [TxActivity.observe, tone]
    next =>
      rw [Bool.not_eq_true] at tone
      rw [split, tone, Bool.false_or] at recent
      have earlier := follows.tone before recent
      simp only [TxActivity.observe, tone, Bool.false_eq_true, if_false]
      split <;> omega

theorem observe_flap (follows : Follows w) (r : Reading) {since : Nat} (live : w.since = some since)
    (flap : flapped w.detector.trustCosBit (since + 1) (r.poll :: w.polls) = true) :
    (w.detector.observe r.cosRaw r.dtmfActive).cosFlappedSession = true := by
  have level := observe_level follows r
  have published : w.detector.published = true := by rw [follows.published, live]; rfl
  rw [Polls.flapped, ← level, ← follows.sticky, Bool.or_eq_true] at flap
  simp only [TxActivity.observe, published, Bool.true_and, Bool.or_eq_true] at flap ⊢
  rcases flap with rose | before
  next => exact .inr rose
  next => exact .inl (follows.flapped since live before)

/-- Everything a tick can do. `heard` is the detector once it has taken the reading. -/
inductive Tick (w : Watch) (r : Reading) (heard : TxActivity) : TxactEvent × TxActivity → Prop where
  | begins : w.since = none → w.present r = true →
      Tick w r heard (.txBegin, { heard with silentTicks := 0, published := true })
  | goesOn (since : Nat) : w.since = some since → w.present r = true →
      Tick w r heard (.noEdge, { heard with silentTicks := 0, published := true })
  | idles : w.since = none → w.present r = false → Tick w r heard (.noEdge, heard)
  | waits (since : Nat) : w.since = some since → w.present r = false →
      w.silence r < heard.activeSilenceTicks →
      Tick w r heard (.noEdge, { heard with silentTicks := w.silence r, published := true })
  | ends (since : Nat) : w.since = some since → w.present r = false →
      heard.activeSilenceTicks ≤ w.silence r →
      Tick w r heard
        (.txEnd, { heard with published := false, silentTicks := 0, cosFlappedSession := false })

theorem silence_absent (follows : Follows w) (r : Reading) (live : w.since.isSome = true)
    (absent : w.present r = false) : w.silence r = w.detector.silentTicks + 1 := by
  have published : w.detector.published = true := follows.published.trans live
  have quiet : heard w.detector.trustCosBit r.poll w.polls = false := absent
  rw [Watch.silence, quietStretch, quiet, follows.silent published]
  rfl

theorem tick_outcome (follows : Follows w) (r : Reading) :
    Tick w r (w.detector.observe r.cosRaw r.dtmfActive)
      (w.detector.tick r.cosRaw r.dtmfActive) := by
  have present := observe_present follows r
  have published : (w.detector.observe r.cosRaw r.dtmfActive).published = w.since.isSome :=
    follows.published
  have silent : (w.detector.observe r.cosRaw r.dtmfActive).silentTicks =
    w.detector.silentTicks := rfl
  rw [TxActivity.tick, TxActivity.edge, present, published, silent]
  cases heard : w.present r with
  | true =>
    cases live : w.since with
    | none => exact .begins live heard
    | some since => exact .goesOn since live heard
  | false =>
    cases live : w.since with
    | none => exact .idles live heard
    | some since =>
      have stretch := silence_absent follows r (by rw [live]; rfl) heard
      simp only [Option.isSome_some, if_true, Bool.false_eq_true, if_false, ← stretch]
      split
      next filled => exact .ends since live heard filled
      next short => exact .waits since live heard (Nat.lt_of_not_le short)

/-- The window in force lies between the two of the configuration, and is the patient one after a
tone or a flap. -/
theorem active_bounds (follows : Follows w) (r : Reading) :
    let active := (w.detector.observe r.cosRaw r.dtmfActive).activeSilenceTicks
    w.detector.endSilenceTicks ≤ active ∧ active ≤ w.detector.endSilenceDtmfTicks := by
  have windows := follows.windows
  simp only [TxActivity.activeSilenceTicks]
  split
  next => exact ⟨windows, Nat.le_refl _⟩
  next => exact ⟨Nat.le_refl _, windows⟩

theorem active_patient (follows : Follows w) (r : Reading) {since : Nat}
    (live : w.since = some since) (patient : w.patient r since = true) :
    (w.detector.observe r.cosRaw r.dtmfActive).activeSilenceTicks =
      w.detector.endSilenceDtmfTicks := by
  rw [Watch.patient, Bool.or_eq_true] at patient
  rw [TxActivity.activeSilenceTicks, if_pos]
  next => rfl
  next =>
    rcases patient with recent | flap
    next => exact .inl (observe_recent follows r _ recent)
    next => exact .inr (observe_flap follows r live flap)

theorem step_lawful (follows : Follows w) (r : Reading) : Lawful w r := by
  have bounds := active_bounds follows r
  have short := follows.short
  have outcome := tick_outcome follows r
  have ended : w.event r = .txEnd → ∃ since, w.since = some since ∧ w.present r = false ∧
      (w.detector.observe r.cosRaw r.dtmfActive).activeSilenceTicks ≤ w.silence r := by
    intro event
    rw [Watch.event] at event
    generalize w.detector.tick r.cosRaw r.dtmfActive = next at outcome event
    cases outcome with
    | begins => cases event
    | goesOn => cases event
    | idles => cases event
    | waits => cases event
    | ends since live absent filled => exact ⟨since, live, absent, filled⟩
  constructor
  case begins =>
    rw [Watch.event]
    generalize w.detector.tick r.cosRaw r.dtmfActive = next at outcome
    cases outcome with
    | begins idle present => simp [idle, present]
    | goesOn since live present => simp [live]
    | idles idle absent => simp [absent]
    | waits since live absent filling => simp [live]
    | ends since live absent filled => simp [live]
  case ends =>
    intro event
    obtain ⟨since, live, absent, filled⟩ := ended event
    have stretch := silence_absent follows r (by rw [live]; rfl) absent
    have patient : w.patient r since = true → _ := active_patient follows r live
    exact ⟨since, live, by omega, by omega, fun late => (patient late) ▸ filled⟩
  case sustained =>
    intro brief event
    obtain ⟨since, live, absent, filled⟩ := ended event
    have stretch := silence_absent follows r (by rw [live]; rfl) absent
    omega

theorem Alternates.concat {edges : List TxactEvent} (alternates : Alternates edges) :
    Alternates (edges ++ [if edges.length % 2 = 0 then .txBegin else .txEnd]) := by
  intro k e found
  by_cases before : k < edges.length
  next =>
    rw [List.getElem?_append_left before] at found
    exact alternates k e found
  next =>
    obtain ⟨bound, _⟩ := List.getElem?_eq_some_iff.mp found
    have last : k = edges.length := by simp at bound; omega
    simpa [last, eq_comm] using found

theorem step_follows (follows : Follows w) (r : Reading) : Follows (w.step r) := by
  have level := observe_level follows r
  have tone := observe_recent follows r
  have bounds := active_bounds follows r
  have outcome := tick_outcome follows r
  have unchanged := follows.open_
  have quiet : w.present r = true → quietStretch w.detector.trustCosBit (r.poll :: w.polls) = 0 :=
    fun present => if_pos present
  rw [Watch.step]
  generalize w.detector.tick r.cosRaw r.dtmfActive = next at outcome
  cases outcome with
  | begins idle present =>
    have even : w.edges.length % 2 = 0 := by rw [idle] at unchanged; simpa using unchanged
    have grown := follows.edges.concat
    rw [if_pos even] at grown
    exact {
      windows := follows.windows
      sticky := level
      tone := tone
      published := rfl
      silent := fun _ => (quiet present).symm
      short := .inl rfl
      flapped := fun since live flap => by cases live; simp [flapped] at flap
      edges := grown
      open_ := by simp [follow]; omega }
  | goesOn since live present =>
    exact {
      windows := follows.windows
      sticky := level
      tone := tone
      published := by rw [live]; rfl
      silent := fun _ => (quiet present).symm
      short := .inl rfl
      flapped := fun later gone flap => by
        rw [live] at gone
        cases gone
        exact observe_flap follows r live flap
      edges := follows.edges
      open_ := by simpa [follow] using unchanged }
  | idles idle absent =>
    exact {
      windows := follows.windows
      sticky := level
      tone := tone
      published := follows.published.trans (by rw [idle]; rfl)
      silent := fun published => by
        have unpublished := follows.published.symm.trans published
        rw [idle] at unpublished
        cases unpublished
      short := follows.short
      flapped := fun later gone => by rw [idle] at gone; cases gone
      edges := follows.edges
      open_ := by simpa [follow] using unchanged }
  | waits since live absent filling =>
    exact {
      windows := follows.windows
      sticky := level
      tone := tone
      published := by rw [live]; rfl
      silent := fun _ => rfl
      short := .inr (Nat.lt_of_lt_of_le filling bounds.2)
      flapped := fun later gone flap => by
        rw [live] at gone
        cases gone
        exact observe_flap follows r live flap
      edges := follows.edges
      open_ := by simpa [follow] using unchanged }
  | ends since live absent filled =>
    have odd : w.edges.length % 2 = 1 := by rw [live] at unchanged; simpa using unchanged.symm
    have grown := follows.edges.concat
    rw [if_neg (by omega)] at grown
    exact {
      windows := follows.windows
      sticky := level
      tone := tone
      published := rfl
      silent := fun published => by cases published
      short := .inl rfl
      flapped := fun later gone => by cases gone
      edges := grown
      open_ := by simp [follow]; omega }

end

/-- A run keeps the configuration, and every edge that it reports is lawful. -/
theorem sessions_lawful (endSilenceTicks endSilenceDtmfTicks dtmfGraceTicks : Int)
    (trustCosBit : Bool) (readings : List Reading) :
    let start := watch endSilenceTicks endSilenceDtmfTicks dtmfGraceTicks trustCosBit
    let final := Machine.run Watch.step start readings
    Machine.Guarded Watch.step Lawful start readings ∧ Alternates final.edges ∧
      SameSetting start.detector final.detector := by
  intro start final
  have follows : Follows start := watch_follows _ _ _ _
  refine ⟨?_, ?_, ?_⟩
  next =>
    have allowed : Machine.Guarded Watch.step (fun _ _ => True) start readings :=
      Machine.guarded_of_forall Watch.step (fun _ _ _ => trivial) start
    exact Machine.guarded_of_invariant Watch.step
      (fun _ r follows _ => ⟨step_follows follows r, step_lawful follows r⟩) follows allowed
  next =>
    have keeps := fun (w : Watch) (r : Reading) (before : Follows w) => step_follows before r
    have after : Follows final := Machine.run_holds Watch.step keeps follows
    exact after.edges
  next =>
    have keeps := fun (w : Watch) (r : Reading) (before : SameSetting start.detector w.detector) =>
      (TxActivity.tick_setting w.detector r.cosRaw r.dtmfActive).trans before
    exact Machine.run_holds (P := fun w => SameSetting start.detector w.detector) Watch.step keeps
      ⟨rfl, rfl, rfl, rfl⟩

end Kerchunk.Core
