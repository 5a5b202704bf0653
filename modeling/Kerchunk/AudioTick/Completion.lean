import Kerchunk.AudioTick.Lifecycle

set_option autoImplicit false

/-!
# The end of a transmission

`tests/test_audio_tick_tx.c`: "RELEASE fires only after tail done + play_pending=0 + 3 hold ticks".
-/

namespace Kerchunk.AudioTick

def Action.isComplete : Action → Bool
  | .fireComplete _ => true
  | _ => false

def Action.isRelease : Action → Bool
  | .releasePtt => true
  | _ => false

def Action.tailSamples : Action → Int
  | .silence .txTail samples => samples
  | _ => 0

/-- A call with its actions. Without a sample rate or a frame size it does nothing. -/
abbrev Tick := Call × List Action

def Call.valid (c : Call) : Bool :=
  decide (0 < c.sampleRate) && decide (0 < c.frameSamples)

def ticks (log : List Tick) : List Tick :=
  log.filter fun t => t.1.valid

namespace Tick

variable (t : Tick)

def drains : Bool :=
  t.2.any Action.isDrain

def completes : Bool :=
  t.2.any Action.isComplete

def releases : Bool :=
  t.2.any Action.isRelease

def silence : Int :=
  (t.2.map Action.tailSamples).sum

def pending : Nat :=
  t.1.inp.playPending

end Tick

def tailDue (c : Call) : Int :=
  c.sampleRate * c.txTailMs / 1000

/-- From the last drain to the release `r`: one FIRE_COMPLETE, the whole tail, and three ticks in a
row with nothing pending, the release's own the third. When they are `apart` no silence is written
in the first of them. -/
def Closes (apart : Bool) (between : List Tick) (r : Tick) : Prop :=
  ∃ waits c ms tails first second,
    between = waits ++ (c, [.fireComplete ms]) :: (tails ++ [first, second]) ∧
    (∀ t ∈ waits, t.2 = []) ∧
    (∀ t ∈ tails ++ [first], ∀ a ∈ t.2, a.isTail = true) ∧
    ((tails ++ [first]).map Tick.silence).sum = tailDue c ∧
    second.2 = [] ∧ r.2 = [.releasePtt] ∧
    (∀ t ∈ [first, second, r], t.pending = 0) ∧ (apart = true → first.2 = [])

structure Completion (apart : Bool) (log : List Tick) : Prop where
  closes : ∀ before d between r after,
    ticks log = before ++ d :: (between ++ r :: after) → d.drains = true →
    (∀ t ∈ between, t.drains = false ∧ t.releases = false) → r.releases = true →
    Closes apart between r
  drained : ∀ before t after, ticks log = before ++ t :: after → t.completes = true →
    (∃ ms, t.2 = [.fireComplete ms]) ∧
      ∃ earlier d between, before = earlier ++ d :: between ∧ d.drains = true ∧
        ∀ b ∈ between, b.completes = false

/-! ## When the tick keeps it -/

def isEmpty (inp : TxIn) : Bool :=
  decide (inp.queueDepth = 0) && !inp.queueIsDraining

/-- Work has been counted as begun, and the last tick has emitted no DRAIN for it: it has cancelled
the tail, or had no action slot left. -/
def Owes (air : Air) : Prop :=
  air.state.queueFiredDrain = true ∧ ∀ t ∈ (ticks air.log).getLast?, t.drains = false

/-- What the inputs of a tick under the queue's PTT have to keep to. -/
@[mk_iff]
structure Orderly (apart : Bool) (air : Air) (c : Call) : Prop where
  written : air.state.queuePtt = true → air.state.txTailRem = 0 → isEmpty c.inp = true
  running : air.state.queuePtt = true → 0 < air.state.txTailRem → c.inp.queueIsDraining = true →
    0 < c.inp.queueDepth
  begun : air.state.queuePtt = true → Owes air → hasWork c.inp = true
  separate : apart = true → air.state.queuePtt = true → 0 < air.state.txTailRem →
    isEmpty c.inp = true → c.inp.playPending = 0 →
    (feed c.frameSamples txActionsMax air.state.txTailRem c.inp.playWritable).2.1 ≠ 0

def Keeps (apart : Bool) (air : Air) (c : Call) : Prop :=
  -- A tick without a sample rate or a frame size is free.
  c.valid = true → Orderly apart air c

instance decidableOwes (air : Air) : Decidable (Owes air) :=
  inferInstanceAs (Decidable (_ ∧ _))

set_option synthInstance.maxSize 256 in
instance decidableOrderly (apart : Bool) (air : Air) (c : Call) : Decidable (Orderly apart air c) :=
  decidable_of_iff _ (orderly_iff apart air c).symm

instance decidableKeeps (apart : Bool) (air : Air) (c : Call) : Decidable (Keeps apart air c) :=
  inferInstanceAs (Decidable (_ → _))

/-! ## The stages of a transmission's end -/

inductive Stage where
  | quiet
  | drained
  | ending (owed : Int) (held : Nat)
deriving DecidableEq

def onRelease (t : Tick) : Stage → Option Stage
  | .quiet => if t.completes then none else some .quiet
  | .drained => none
  | .ending owed held =>
      if owed = 0 ∧ 2 ≤ held ∧ t.pending = 0 ∧ t.2 = [.releasePtt] then some .quiet else none

def onComplete (t : Tick) : Stage → Option Stage
  | .drained => if t.2.length = 1 then some (.ending (tailDue t.1) 0) else none
  | .quiet | .ending _ _ => none

def onSilence (apart : Bool) (t : Tick) : Stage → Option Stage
  -- A tick that only writes silence, and counts as held when nothing is owed or pending.
  | .quiet => some .quiet
  | .drained => if t.2 = [] then some .drained else none
  | .ending owed held =>
      if (∀ a ∈ t.2, a.isTail = true) ∧ (owed = 0 → t.2 = []) then
        let left := owed - t.silence
        some (.ending left
          (if left = 0 ∧ t.pending = 0 ∧ (apart = true → t.2 = []) then held + 1 else 0))
      else none

def nextStage (apart : Bool) (stage : Stage) (t : Tick) : Option Stage :=
  if t.drains then if t.completes || t.releases then none else some .drained
  else if t.releases then onRelease t stage
  else if t.completes then onComplete t stage
  else onSilence apart t stage

/-! ## What accepted logs look like -/

section

variable {apart : Bool}

theorem nextStage_drains {stage after : Stage} {t : Tick} (drains : t.drains = true)
    (moves : nextStage apart stage t = some after) :
    after = .drained ∧ t.completes = false ∧ t.releases = false := by
  unfold nextStage at moves
  rw [if_pos drains] at moves
  split at moves
  next => cases moves
  next plain =>
    simp only [Bool.or_eq_true, not_or, Bool.not_eq_true] at plain
    exact ⟨(Option.some.inj moves).symm, plain⟩

theorem completes_single {t : Tick} (completes : t.completes = true) (single : t.2.length = 1) :
    ∃ ms, t.2 = [.fireComplete ms] := by
  obtain ⟨action, only⟩ := List.length_eq_one_iff.mp single
  rw [Tick.completes, only, List.any_cons, List.any_nil, Bool.or_false] at completes
  cases action <;> simp_all [Action.isComplete]

theorem nextStage_completes {stage after : Stage} {t : Tick} (completes : t.completes = true)
    (moves : nextStage apart stage t = some after) :
    stage = .drained ∧ (∃ ms, t.2 = [.fireComplete ms]) ∧ after = .ending (tailDue t.1) 0 := by
  by_cases drains : t.drains = true
  next =>
    have plain := (nextStage_drains drains moves).2.1
    cases plain.symm.trans completes
  unfold nextStage at moves
  rw [if_neg drains] at moves
  split at moves
  next =>
    cases stage with
    | quiet => simp [onRelease, completes] at moves
    | drained => cases moves
    | ending owed held =>
      simp only [onRelease] at moves
      split at moves
      next exact =>
        rw [Tick.completes, exact.2.2.2] at completes
        cases completes
      next => cases moves
  next =>
    cases stage with
    | quiet | ending => cases moves
    | drained =>
      simp only [onComplete] at moves
      split at moves
      next single => exact ⟨rfl, completes_single completes single, (Option.some.inj moves).symm⟩
      next => cases moves

theorem nextStage_releases {owed : Int} {held : Nat} {after : Stage} {t : Tick}
    (releases : t.releases = true) (moves : nextStage apart (.ending owed held) t = some after) :
    owed = 0 ∧ 2 ≤ held ∧ t.pending = 0 ∧ t.2 = [.releasePtt] := by
  by_cases drains : t.drains = true
  next =>
    have plain := (nextStage_drains drains moves).2.2
    cases plain.symm.trans releases
  unfold nextStage at moves
  rw [if_neg drains, if_pos releases, onRelease] at moves
  split at moves
  next exact => exact exact
  next => cases moves

theorem nextStage_silence {stage after : Stage} {t : Tick} (dry : t.drains = false)
    (keyed : t.releases = false) (incomplete : t.completes = false)
    (moves : nextStage apart stage t = some after) : onSilence apart t stage = some after := by
  -- What is left of the stages when a tick neither drains nor releases nor completes.
  simpa [nextStage, dry, keyed, incomplete] using moves

theorem accepted_drained {log : List Tick}
    (accepted : Acceptor.accept (nextStage apart) .quiet log = some .drained) :
    ∃ earlier d between, log = earlier ++ d :: between ∧ d.drains = true ∧
      ∀ b ∈ between, b.2 = [] := by
  -- The stage of an accepted log is `drained` only after a drain, with nothing since.
  induction log using List.reverseRecOn with
  | nil => cases accepted
  | append_singleton log t ih =>
    obtain ⟨stage, after, before, moves, last⟩ := Acceptor.accept_split _ accepted
    cases last
    cases drains : t.drains with
    | true => exact ⟨log, t, [], rfl, drains, nofun⟩
    | false =>
      cases completes : t.completes with
      | true => cases (nextStage_completes completes moves).2.2
      | false =>
        cases releases : t.releases with
        | true =>
          have released : onRelease t stage = some .drained := by
            simpa [nextStage, drains, releases] using moves
          cases stage <;> simp [onRelease] at released
        | false =>
          have silent := nextStage_silence drains releases completes moves
          cases stage with
          | quiet => cases silent
          | ending owed held =>
            simp only [onSilence] at silent
            split at silent <;> cases silent
          | drained =>
            simp only [onSilence] at silent
            split at silent
            next nothing =>
              obtain ⟨earlier, d, between, split, drain, still⟩ := ih before
              refine ⟨earlier, d, between ++ [t], by simp [split], drain, ?_⟩
              intro b member
              rcases List.mem_append.mp member with old | new
              next => exact still b old
              next => rw [List.mem_singleton.mp new, nothing]
            next => cases silent

/-- The ticks of the stretch that count as held stand at its end. -/
structure Held (apart : Bool) (left : Int) (held : Nat) (rest : List Tick) : Prop where
  paid : 1 ≤ held → left = 0
  one : 1 ≤ held → ∃ tails first, rest = tails ++ [first] ∧ first.pending = 0 ∧
    (apart = true → first.2 = [])
  two : 2 ≤ held → ∃ tails first second, rest = tails ++ [first, second] ∧
    first.pending = 0 ∧ second.pending = 0 ∧ second.2 = [] ∧ (apart = true → first.2 = [])

theorem held_snoc {left left' : Int} {held : Nat} {rest : List Tick} (before : Held apart left held rest)
    {t : Tick} (still : left = 0 → t.2 = []) :
    Held apart left' (if left' = 0 ∧ t.pending = 0 ∧ (apart = true → t.2 = []) then held + 1 else 0)
      (rest ++ [t]) := by
  split
  next holds =>
    obtain ⟨paid, nothing, silent⟩ := holds
    refine ⟨fun _ => paid, fun _ => ⟨rest, t, rfl, nothing, silent⟩, fun more => ?_⟩
    have once : 1 ≤ held := by omega
    obtain ⟨tails, first, split, pending, separate⟩ := before.one once
    exact ⟨tails, first, t, by simp [split], pending, nothing, still (before.paid once), separate⟩
  next => exact ⟨nofun, nofun, nofun⟩

theorem ending_run {owed : Int} {rest : List Tick} {stage : Stage}
    (accepted : Acceptor.accept (nextStage apart) (.ending owed 0) rest = some stage)
    (dry : ∀ t ∈ rest, t.drains = false ∧ t.releases = false) :
    ∃ held, stage = .ending (owed - (rest.map Tick.silence).sum) held ∧
      (∀ t ∈ rest, ∀ a ∈ t.2, a.isTail = true) ∧
      Held apart (owed - (rest.map Tick.silence).sum) held rest := by
  induction rest using List.reverseRecOn generalizing stage with
  | nil =>
    cases accepted
    exact ⟨0, by simp, nofun, nofun, nofun, nofun⟩
  | append_singleton rest t ih =>
    obtain ⟨before, after, earlier, moves, last⟩ := Acceptor.accept_split _ accepted
    cases last
    obtain ⟨held, rfl, tails, counted⟩ :=
      ih earlier fun u member => dry u (List.mem_append_left _ member)
    obtain ⟨drains, releases⟩ := dry t (List.mem_append_right _ (List.mem_singleton_self t))
    have incomplete : t.completes = false := by
      cases completes : t.completes with
      | false => rfl
      | true => cases (nextStage_completes completes moves).1
    have silent := nextStage_silence drains releases incomplete moves
    simp only [onSilence] at silent
    split at silent
    next tail =>
      cases silent
      have total : owed - (rest.map Tick.silence).sum - t.silence =
          owed - ((rest ++ [t]).map Tick.silence).sum := by
        simp only [List.map_append, List.map_singleton, List.sum_append, List.sum_singleton]
        omega
      rw [total]
      refine ⟨_, rfl, ?_, held_snoc counted tail.2⟩
      intro u member
      rcases List.mem_append.mp member with old | new
      next => exact tails u old
      next => exact List.mem_singleton.mp new ▸ tail.1
    next => cases silent

theorem drained_run {between : List Tick} {stage : Stage}
    (accepted : Acceptor.accept (nextStage apart) .drained between = some stage)
    (dry : ∀ t ∈ between, t.drains = false ∧ t.releases = false) :
    stage = .drained ∨
      ∃ waits c ms rest, between = waits ++ (c, [.fireComplete ms]) :: rest ∧
        (∀ t ∈ waits, t.2 = []) ∧
        Acceptor.accept (nextStage apart) (.ending (tailDue c) 0) rest = some stage := by
  induction between with
  | nil => exact Or.inl (Option.some.inj accepted).symm
  | cons t rest ih =>
    rw [Acceptor.accept_cons] at accepted
    obtain ⟨after, moves, later⟩ := Option.bind_eq_some_iff.mp accepted
    obtain ⟨drains, releases⟩ := dry t (List.mem_cons_self ..)
    cases completes : t.completes with
    | true =>
      obtain ⟨-, ⟨ms, only⟩, rfl⟩ := nextStage_completes completes moves
      exact Or.inr ⟨[], t.1, ms, rest, by rw [← only]; rfl, nofun, later⟩
    | false =>
      have silent := nextStage_silence drains releases completes moves
      simp only [onSilence] at silent
      split at silent
      next nothing =>
        cases silent
        rcases ih later fun u member => dry u (List.mem_cons_of_mem _ member) with
          still | ⟨waits, c, ms, tail, split, idle, ending⟩
        next => exact Or.inl still
        next =>
          refine Or.inr ⟨t :: waits, c, ms, tail, by rw [split]; rfl, ?_, ending⟩
          intro u member
          rcases List.mem_cons.mp member with new | old
          next => exact new ▸ nothing
          next => exact idle u old
      next => cases silent

theorem closes_of_accepted {between after : List Tick} {r : Tick} {final : Stage}
    (accepted : Acceptor.accept (nextStage apart) .drained (between ++ r :: after) = some final)
    (dry : ∀ t ∈ between, t.drains = false ∧ t.releases = false) (releases : r.releases = true) :
    Closes apart between r := by
  obtain ⟨stage, moved, first, moves, -⟩ := Acceptor.accept_split _ accepted
  rcases drained_run first dry with rfl | ⟨waits, c, ms, rest, split, idle, ending⟩
  next =>
    have dryRelease : r.drains = false := by
      cases drains : r.drains with
      | false => rfl
      | true => cases ((nextStage_drains drains moves).2.2).symm.trans releases
    have released : onRelease r .drained = some moved := by
      simpa [nextStage, dryRelease, releases] using moves
    cases released
  next =>
    have dryRest : ∀ t ∈ rest, Tick.drains t = false ∧ Tick.releases t = false := fun t member =>
      dry t (by simp [split, member])
    obtain ⟨held, rfl, tails, counted⟩ := ending_run ending dryRest
    obtain ⟨paid, twice, nothing, only⟩ := nextStage_releases releases moves
    obtain ⟨early, first, second, shape, pendingFirst, pendingSecond, still, separate⟩ :=
      counted.two twice
    have silence : second.silence = 0 := by simp [Tick.silence, still]
    refine ⟨waits, c, ms, early, first, second, by rw [split, shape], idle, ?_, ?_, still, only, ?_,
      separate⟩
    next =>
      intro t member
      exact tails t (by rw [shape]; simp only [List.mem_append, List.mem_cons] at member ⊢; tauto)
    next =>
      have total : (rest.map Tick.silence).sum = ((early ++ [first]).map Tick.silence).sum := by
        rw [shape]
        simp [silence]
      omega
    next =>
      intro t member
      simp only [List.mem_cons, List.not_mem_nil, or_false] at member
      rcases member with rfl | rfl | rfl
      next => exact pendingFirst
      next => exact pendingSecond
      next => exact nothing

theorem accepted_completion {log : List Tick} {final : Stage}
    (accepted : Acceptor.accept (nextStage apart) .quiet (ticks log) = some final) :
    Completion apart log where
  closes before d between r after split drains dry releases := by
    obtain ⟨stage, moved, -, moves, rest⟩ := Acceptor.accept_split _ (split ▸ accepted)
    obtain ⟨rfl, -, -⟩ := nextStage_drains drains moves
    exact closes_of_accepted rest dry releases
  drained before t after split completes := by
    obtain ⟨stage, moved, earlier, moves, -⟩ := Acceptor.accept_split _ (split ▸ accepted)
    obtain ⟨rfl, only, -⟩ := nextStage_completes completes moves
    obtain ⟨old, d, between, shape, drains, still⟩ := accepted_drained earlier
    refine ⟨only, old, d, between, shape, drains, ?_⟩
    intro b member
    simp [Tick.completes, still b member]

end

/-! ## What the state knows of the stage -/

/-- The queue holds PTT and its delay is over. -/
structure Live (s : AudioState) : Prop where
  ptt : s.queuePtt = true
  paid : s.txDelayRem ≤ 0

structure Unfired (s : AudioState) : Prop where
  fired : s.queueFiredDrain = false
  hold : s.txTailRem ≠ 0 → s.pttHoldTicks = 0
  live : 0 ≤ s.txTailRem → Live s

/-- Work has begun, and no tail. -/
structure Begun (s : AudioState) : Prop where
  live : Live s
  fired : s.queueFiredDrain = true
  tail : s.txTailRem < 0
  hold : s.pttHoldTicks = 0

def Follows (s : AudioState) (dry : Prop) : Stage → Prop
  -- `dry` says that the last tick has emitted no DRAIN.
  | .quiet => Unfired s ∨ Begun s ∧ dry
  | .drained => Begun s
  | .ending owed held =>
      (Unfired s ∧ s.txTailRem = owed ∧ 0 ≤ owed ∧ s.pttHoldTicks = held) ∨ Begun s ∧ dry

def Moves (apart : Bool) (c : Call) (stage : Stage) (out : TxOut) : Prop :=
  -- A tick with this outcome takes the stage to one that the state follows.
  ∃ after, nextStage apart stage (c, out.actions) = some after ∧
    Follows out.state (Tick.drains (c, out.actions) = false) after

def Soundless (actions : List Action) : Prop :=
  -- The actions that open a transmission or end it in silence.
  ∀ a ∈ actions, a.isDrain = false ∧ a.isComplete = false ∧ a.isRelease = false

section

variable {apart : Bool} {c : Call} {s : AudioState}

theorem Soundless.tick {actions : List Action} (soundless : Soundless actions) :
    Tick.drains (c, actions) = false ∧ Tick.completes (c, actions) = false ∧
      Tick.releases (c, actions) = false := by
  refine ⟨?_, ?_, ?_⟩ <;> refine List.any_eq_false.mpr fun a member => ?_
  next => simp [(soundless a member).1]
  next => simp [(soundless a member).2.1]
  next => simp [(soundless a member).2.2]

theorem Soundless.next {actions : List Action} (soundless : Soundless actions) (stage : Stage) :
    nextStage apart stage (c, actions) = onSilence apart (c, actions) stage := by
  obtain ⟨dry, incomplete, keyed⟩ := soundless.tick (c := c)
  simp [nextStage, dry, incomplete, keyed]

theorem soundless_silences (purpose : Purpose) (chunks : List Int) :
    Soundless (chunks.map (.silence purpose)) := by
  intro a member
  obtain ⟨chunk, -, rfl⟩ := List.mem_map.mp member
  exact ⟨rfl, rfl, rfl⟩

theorem Soundless.append {first second : List Action} (before : Soundless first)
    (after : Soundless second) : Soundless (first ++ second) := by
  intro a member
  exact (List.mem_append.mp member).elim (before a) (after a)

/-! ## A live queue -/

theorem hasWork_not_empty {inp : TxIn} (work : hasWork inp = true) : isEmpty inp = false := by
  simp only [hasWork, Bool.or_eq_true, decide_eq_true_eq] at work
  simp only [isEmpty, Bool.and_eq_false_iff, decide_eq_false_iff_not, Bool.not_eq_false']
  rcases work with depth | draining
  next => exact Or.inl (by omega)
  next => exact Or.inr draining

theorem runPass_work {inp : TxIn} (live : Live s) (work : hasWork inp = true)
    (sampleRate frameSamples playW : Int) :
    runPass inp sampleRate frameSamples ⟨s, [], playW⟩ =
      cancelTail inp (drainFrame inp frameSamples ⟨s, [], playW⟩) := by
  have ready : drains inp ⟨s, [], playW⟩ = true := by
    simp [AudioTick.drains, live.ptt, live.paid, work, txActionsMax]
  rw [runPass, if_pos ready]

theorem runPass_empty {inp : TxIn} {p ended : Pass} {reruns : Bool} (live : Live p.state)
    (empty : isEmpty inp = true) {sampleRate frameSamples : Int}
    (ends : endQueue inp sampleRate frameSamples p = (ended, reruns)) :
    runPass inp sampleRate frameSamples p = ⟨ended.state, ended.actions, reruns⟩ := by
  -- With the queue empty and its delay over, only the end of the queue is run.
  have idle : ¬ drains inp p = true := by
    intro ready
    simp only [AudioTick.drains, Bool.and_eq_true] at ready
    cases (hasWork_not_empty ready.1.2).symm.trans empty
  simp only [isEmpty, Bool.and_eq_true, decide_eq_true_eq] at empty
  have emptied : queueEmptied inp p = true := by
    simp [queueEmptied, live.ptt, live.paid, empty.1, empty.2]
  rw [runPass, if_neg idle, if_pos emptied, ends]
  cases reruns with
  | true => rfl
  | false => exact cancelTail_off fun _ _ => by omega

-- A negative depth is neither work nor an empty queue.
theorem runPass_neither {inp : TxIn} (idle : hasWork inp = false) (full : isEmpty inp = false)
    (sampleRate frameSamples : Int) (p : Pass) :
    runPass inp sampleRate frameSamples p = ⟨p.state, p.actions, false⟩ := by
  have notReady : ¬ drains inp p = true := by
    simp [AudioTick.drains, idle]
  have notEmptied : ¬ queueEmptied inp p = true := by
    intro emptied
    simp only [queueEmptied, Bool.and_eq_true] at emptied
    rw [isEmpty, emptied.1.2, emptied.2] at full
    cases full
  rw [runPass, if_neg notReady, if_neg notEmptied, cancelTail_off]
  intro _ _ depth
  simp only [hasWork, Bool.or_eq_false_iff, decide_eq_false_iff_not] at idle
  exact idle.1 depth

theorem drainFrame_begun (inp : TxIn) (frameSamples : Int) {p : Pass} (live : Live p.state)
    (tail : p.state.txTailRem < 0) (hold : p.state.pttHoldTicks = 0) :
    Begun (drainFrame inp frameSamples p).state := by
  unfold drainFrame fireDrain
  split
  next => exact ⟨⟨live.ptt, live.paid⟩, rfl, tail, hold⟩
  next fired => exact ⟨⟨live.ptt, live.paid⟩, by simpa using fired, tail, hold⟩

theorem live_drain_moves (live : Live s) (work : hasWork c.inp = true) (tail : s.txTailRem < 0)
    (hold : s.pttHoldTicks = 0) (stage : Stage) (playW : Int) :
    Moves apart c stage (runPass c.inp c.sampleRate c.frameSamples ⟨s, [], playW⟩) := by
  have settled : cancelTail c.inp (drainFrame c.inp c.frameSamples ⟨s, [], playW⟩) =
      ⟨(drainFrame c.inp c.frameSamples ⟨s, [], playW⟩).state,
        (drainFrame c.inp c.frameSamples ⟨s, [], playW⟩).actions, false⟩ := by
    refine cancelTail_off fun _ running => ?_
    rw [(drainFrame_keeps ..).2.2] at running
    exact absurd running (Int.lt_asymm tail)
  rw [runPass_work live work, settled]
  refine ⟨.drained, ?_, drainFrame_begun c.inp c.frameSamples (p := ⟨s, [], playW⟩) live tail hold⟩
  have actions : (drainFrame c.inp c.frameSamples ⟨s, [], playW⟩).actions = [.drain c.frameSamples] ∨
      (drainFrame c.inp c.frameSamples ⟨s, [], playW⟩).actions =
        [.fireDrain, .drain c.frameSamples] := by
    unfold drainFrame fireDrain
    split
    next => exact Or.inr rfl
    next => exact Or.inl rfl
  rcases actions with plain | fires <;> simp only [*] <;> rfl

/-- The tail is cancelled, and the work is begun without a DRAIN in this tick. -/
theorem live_cancel (live : Live s) (depth : 0 < c.inp.queueDepth) (tail : 0 < s.txTailRem)
    (playW : Int) :
    let out := runPass c.inp c.sampleRate c.frameSamples ⟨s, [], playW⟩
    out.actions = [] ∧ Begun out.state := by
  intro out
  have work : hasWork c.inp = true := by simp [hasWork, depth]
  have keeps := drainFrame_keeps c.inp c.frameSamples ⟨s, [], playW⟩
  have cancels : out =
      { state :=
          { (drainFrame c.inp c.frameSamples ⟨s, [], playW⟩).state with
            txTailRem := -1, queueFiredDrain := true, pttHoldTicks := 0 }
        actions := []
        rerunThisTick := true } := by
    refine (runPass_work live work _ _ _).trans (if_pos ?_)
    simp [keeps, live.ptt, tail, depth]
  rw [cancels]
  exact ⟨rfl, ⟨keeps.1.trans live.ptt, keeps.2.1.trans_le live.paid⟩, rfl,
    show (-1 : Int) < 0 by decide, rfl⟩

theorem tailDue_nonneg (rate : 0 < c.sampleRate) : 0 ≤ tailDue c :=
  Int.ediv_nonneg (Int.mul_nonneg (Int.le_of_lt rate) (Int.natCast_nonneg _)) (by decide)

theorem live_complete_moves (begun : Begun s) (empty : isEmpty c.inp = true)
    (rate : 0 < c.sampleRate) (tailMs : s.txTailMs = c.txTailMs) (playW : Int) :
    Moves apart c .drained (runPass c.inp c.sampleRate c.frameSamples ⟨s, [], playW⟩) := by
  -- The queue has emptied after a drain.
  obtain ⟨live, fired, tail, hold⟩ := begun
  have ends : endQueue c.inp c.sampleRate c.frameSamples ⟨s, [], playW⟩ =
      (complete c.inp (startTail c.sampleRate ⟨s, [], playW⟩), true) := by
    simp only [endQueue, if_pos tail, startTail, fired, if_true]
  rw [runPass_empty (p := ⟨s, [], playW⟩) live empty ends]
  have due : s.txTailMs = c.txTailMs →
      c.sampleRate * s.txTailMs / 1000 = tailDue c := fun same => by rw [same, tailDue]
  refine ⟨.ending (tailDue c) 0, rfl, Or.inl ⟨⟨rfl, fun _ => hold, fun _ => ⟨live.ptt, live.paid⟩⟩,
    due tailMs, tailDue_nonneg rate, hold⟩⟩

/-! ## The tail -/

theorem silence_tail (chunks : List Int) :
    Tick.silence (c, chunks.map (.silence .txTail)) = chunks.sum := by
  have same : (Action.tailSamples ∘ fun samples => Action.silence .txTail samples) = id := rfl
  simp [Tick.silence, same]

/-- A tick of the tail that does not release: PTT is held for it when nothing is left to write and
nothing is pending. -/
theorem release_holds {inp : TxIn} {p : Pass}
    (goesOn : ¬ (p.state.txTailRem ≤ 0 ∧ inp.playPending = 0 ∧ 2 ≤ p.state.pttHoldTicks ∧
      p.actions.length < txActionsMax)) :
    release inp p =
      { p with
        state :=
          { p.state with
            pttHoldTicks :=
              if p.state.txTailRem ≤ 0 ∧ inp.playPending = 0 then p.state.pttHoldTicks + 1 else 0 } } := by
  unfold release
  split
  next written =>
    simp only
    split
    next held => exact absurd ⟨written.1, written.2, by omega, held.2⟩ goesOn
    next => rfl
  next => rfl

theorem release_releases {inp : TxIn} {p : Pass} (written : p.state.txTailRem ≤ 0)
    (nothing : inp.playPending = 0) (held : 2 ≤ p.state.pttHoldTicks)
    (room : p.actions.length < txActionsMax) :
    release inp p =
      { p with
        state := { p.state with queuePtt := false, txTailRem := -1, pttHoldTicks := 0 }
        actions := p.actions ++ [.releasePtt] } := by
  have pushed : pushAction p.actions .releasePtt = p.actions ++ [.releasePtt] :=
    if_neg (Nat.not_le_of_lt room)
  have held' : p.state.pttHoldTicks + 1 ≥ 3 ∧ p.actions.length < txActionsMax := ⟨by omega, room⟩
  simp only [release, written, nothing, and_self, if_true, if_pos held', pushed]

theorem feedTail_spec (frameSamples playW : Int) (s : AudioState) :
    ∃ chunks left playW',
      feedTail frameSamples ⟨s, [], playW⟩ =
        ⟨{ s with txTailRem := left }, chunks.map (.silence .txTail), playW'⟩ ∧
      feed frameSamples txActionsMax s.txTailRem playW = (chunks, left, playW') ∧
      chunks.sum + left = s.txTailRem ∧ (0 ≤ s.txTailRem → 0 ≤ left) ∧
      (s.txTailRem ≤ 0 → chunks = [] ∧ left = s.txTailRem) := by
  -- What the tail has fed in a tick is no longer owed.
  have balance := feed_balance frameSamples txActionsMax s.txTailRem playW
  refine ⟨_, _, _, rfl, rfl, balance, feed_nonneg frameSamples txActionsMax playW, fun paid => ?_⟩
  have none : feed frameSamples txActionsMax s.txTailRem playW = ([], s.txTailRem, playW) :=
    feed_none paid
  exact ⟨congrArg Prod.fst none, congrArg (fun fed => fed.2.1) none⟩

theorem live_tail (live : Live s) (empty : isEmpty c.inp = true) (running : 0 ≤ s.txTailRem)
    (playW : Int) :
    runPass c.inp c.sampleRate c.frameSamples ⟨s, [], playW⟩ =
      ⟨(release c.inp (feedTail c.frameSamples ⟨s, [], playW⟩)).state,
        (release c.inp (feedTail c.frameSamples ⟨s, [], playW⟩)).actions, false⟩ := by
  have ends : endQueue c.inp c.sampleRate c.frameSamples ⟨s, [], playW⟩ =
      (release c.inp (feedTail c.frameSamples ⟨s, [], playW⟩), false) :=
    if_neg (Int.not_lt.mpr running)
  exact runPass_empty (p := ⟨s, [], playW⟩) live empty ends

/-- The tail goes on, or PTT is released after two held ticks with no more silence. -/
theorem live_tail_cases (live : Live s) (unfired : Unfired s) (empty : isEmpty c.inp = true)
    (running : 0 ≤ s.txTailRem) (playW : Int) :
    let out := runPass c.inp c.sampleRate c.frameSamples ⟨s, [], playW⟩
    (s.txTailRem = 0 ∧ c.inp.playPending = 0 ∧ 2 ≤ s.pttHoldTicks ∧ out.actions = [.releasePtt] ∧
        Unfired out.state) ∨
      ∃ chunks left playW', feed c.frameSamples txActionsMax s.txTailRem playW = (chunks, left, playW') ∧
        chunks.sum + left = s.txTailRem ∧ 0 ≤ left ∧ (s.txTailRem = 0 → chunks = []) ∧
        out.actions = chunks.map (.silence .txTail) ∧ Unfired out.state ∧
        out.state.txTailRem = left ∧
        out.state.pttHoldTicks =
          if left = 0 ∧ c.inp.playPending = 0 then s.pttHoldTicks + 1 else 0 := by
  intro out
  obtain ⟨chunks, left, playW', fed, feeds, balance, nonneg, paid⟩ :=
    feedTail_spec c.frameSamples playW s
  have ran : out = _ := live_tail live empty running playW
  rw [fed] at ran
  have owed := nonneg running
  by_cases releases : left ≤ 0 ∧ c.inp.playPending = 0 ∧ 2 ≤ s.pttHoldTicks
  next =>
    left
    obtain ⟨written, nothing, held⟩ := releases
    have zero : s.txTailRem = 0 := by
      by_contra owing
      have none_held := unfired.hold owing
      omega
    obtain ⟨rfl, -⟩ := paid (Int.le_of_eq zero)
    have room : ([] : List Action).length < txActionsMax := by decide
    rw [List.map_nil, release_releases (p := ⟨{ s with txTailRem := left }, [], playW'⟩) written
      nothing held room] at ran
    rw [ran]
    refine ⟨zero, nothing, held, rfl, unfired.fired, fun _ => rfl, ?_⟩
    exact fun nonneg => absurd nonneg (show ¬ (0 : Int) ≤ -1 by decide)
  next =>
    right
    have goesOn : ¬ (left ≤ 0 ∧ c.inp.playPending = 0 ∧ 2 ≤ s.pttHoldTicks ∧
        (chunks.map (Action.silence .txTail)).length < txActionsMax) := fun all =>
      releases ⟨all.1, all.2.1, all.2.2.1⟩
    rw [release_holds (p := ⟨{ s with txTailRem := left }, chunks.map (.silence .txTail), playW'⟩)
      goesOn] at ran
    have written : left ≤ 0 ↔ left = 0 := by omega
    refine ⟨chunks, left, playW', feeds, balance, owed, fun zero => (paid (Int.le_of_eq zero)).1, ?_⟩
    rw [ran]
    refine ⟨rfl, ⟨unfired.fired, fun owing => ?_, fun _ => ⟨live.ptt, live.paid⟩⟩, rfl, ?_⟩
    next =>
      have owing : left ≠ 0 := owing
      simp [written, owing]
    next => simp only [written]

theorem release_next (stage : Stage) :
    nextStage apart stage (c, [.releasePtt]) = onRelease (c, [.releasePtt]) stage := rfl

theorem quiet_tail_moves (live : Live s) (unfired : Unfired s) (empty : isEmpty c.inp = true)
    (running : 0 ≤ s.txTailRem) (playW : Int) :
    Moves apart c .quiet (runPass c.inp c.sampleRate c.frameSamples ⟨s, [], playW⟩) := by
  rcases live_tail_cases live unfired empty running playW with
    ⟨-, -, -, actions, after⟩ | ⟨chunks, left, playW', -, -, -, -, actions, after, -, -⟩
  next => exact ⟨.quiet, by rw [actions]; rfl, Or.inl after⟩
  next =>
    refine ⟨.quiet, ?_, Or.inl after⟩
    rw [actions, (soundless_silences _ _).next]
    rfl

theorem ending_tail_moves (live : Live s) (unfired : Unfired s) (empty : isEmpty c.inp = true)
    (running : 0 ≤ s.txTailRem) (playW : Int)
    (separate : apart = true → 0 < s.txTailRem → c.inp.playPending = 0 →
      (feed c.frameSamples txActionsMax s.txTailRem playW).2.1 ≠ 0) :
    Moves apart c (.ending s.txTailRem s.pttHoldTicks)
      (runPass c.inp c.sampleRate c.frameSamples ⟨s, [], playW⟩) := by
  rcases live_tail_cases live unfired empty running playW with
    ⟨zero, nothing, held, actions, after⟩ |
    ⟨chunks, left, playW', feeds, balance, owed, none_owed, actions, after, tail, hold⟩
  next =>
    refine ⟨.quiet, ?_, Or.inl after⟩
    rw [actions, release_next, onRelease, if_pos ⟨zero, held, nothing, rfl⟩]
  next =>
    have tails : ∀ a ∈ chunks.map (Action.silence .txTail), a.isTail = true := by
      intro a member
      obtain ⟨chunk, -, rfl⟩ := List.mem_map.mp member
      rfl
    have nothing : s.txTailRem = 0 → chunks.map (Action.silence .txTail) = [] := fun zero => by
      rw [none_owed zero, List.map_nil]
    have rest : s.txTailRem - Tick.silence (c, chunks.map (.silence .txTail)) = left := by
      rw [silence_tail]
      omega
    -- Silence written in a tick that then owes nothing leaves no held tick when they are apart.
    have counts : (left = 0 ∧ c.inp.playPending = 0 ∧
        (apart = true → chunks.map (Action.silence .txTail) = [])) ↔
        left = 0 ∧ c.inp.playPending = 0 := by
      refine ⟨fun all => ⟨all.1, all.2.1⟩, fun both => ⟨both.1, both.2, fun strict => ?_⟩⟩
      by_cases zero : s.txTailRem = 0
      next => exact nothing zero
      next =>
        have stops := separate strict (by omega) both.2
        rw [feeds] at stops
        exact absurd both.1 stops
    refine ⟨.ending left (if left = 0 ∧ c.inp.playPending = 0 then s.pttHoldTicks + 1 else 0), ?_,
      Or.inl ⟨after, tail, owed, hold⟩⟩
    rw [actions, (soundless_silences _ _).next]
    simp only [onSilence, if_pos (⟨tails, nothing⟩ : _ ∧ _), rest, Tick.pending, counts]

/-! ## A queue that has not drained yet -/

theorem opening_drain {inp : TxIn} {p : Pass} (soundless : Soundless p.actions)
    (fired : p.state.queueFiredDrain = false) (free : p.actions.length < txActionsMax)
    (frameSamples : Int) :
    Soundless (drainFrame inp frameSamples p).actions ∨
      ∃ opening, Soundless opening ∧
        (drainFrame inp frameSamples p).actions = opening ++ [.drain frameSamples] := by
  -- The actions of a pass that begins the drain, whose DRAIN needs a slot of its own.
  have fires : Soundless (p.actions ++ [.fireDrain]) := by
    refine soundless.append fun a member => ?_
    rw [List.mem_singleton.mp member]
    exact ⟨rfl, rfl, rfl⟩
  have begun : (fireDrain inp p).actions = p.actions ++ [.fireDrain] := by
    rw [fireDrain, fired]
    exact if_neg (Nat.not_le_of_lt free)
  simp only [drainFrame, begun, pushAction]
  split
  next => exact Or.inl fires
  next => exact Or.inr ⟨_, fires, rfl⟩

theorem drained_next {opening : List Action} (soundless : Soundless opening) (samples : Int)
    (stage : Stage) : nextStage apart stage (c, opening ++ [.drain samples]) = some .drained := by
  obtain ⟨dry, incomplete, keyed⟩ := soundless.tick (c := c)
  simp only [Tick.drains, Tick.completes, Tick.releases] at dry incomplete keyed
  simp [nextStage, Tick.drains, Tick.completes, Tick.releases, List.any_append, dry, incomplete,
    keyed, Action.isDrain, Action.isComplete, Action.isRelease]

theorem opening_moves {p : Pass} (soundless : Soundless p.actions)
    (fired : p.state.queueFiredDrain = false) (tail : p.state.txTailRem < 0)
    (hold : p.state.pttHoldTicks = 0) (rate : 0 < c.sampleRate) :
    Moves apart c .quiet (runPass c.inp c.sampleRate c.frameSamples p) := by
  have notRunning {q : Pass} (same : q.state.txTailRem = p.state.txTailRem) :
      cancelTail c.inp q = ⟨q.state, q.actions, false⟩ :=
    cancelTail_off fun _ running => absurd (same ▸ running) (Int.lt_asymm tail)
  by_cases ready : drains c.inp p = true
  next =>
    have keeps := drainFrame_keeps c.inp c.frameSamples p
    rw [runPass, if_pos ready, notRunning keeps.2.2]
    simp only [AudioTick.drains, Bool.and_eq_true, decide_eq_true_eq] at ready
    have begun := drainFrame_begun c.inp c.frameSamples (p := p)
      ⟨ready.1.1.1.1, ready.1.1.1.2⟩ tail hold
    rcases @opening_drain c.inp p soundless fired ready.2 c.frameSamples with
      dropped | ⟨opening, silent, actions⟩
    next => exact ⟨.quiet, dropped.next .quiet, Or.inr ⟨begun, dropped.tick.1⟩⟩
    next => exact ⟨.drained, by rw [actions]; exact drained_next silent _ _, begun⟩
  by_cases emptied : queueEmptied c.inp p = true
  next =>
    simp only [queueEmptied, Bool.and_eq_true, decide_eq_true_eq] at emptied
    obtain ⟨⟨⟨ptt, paid⟩, depth⟩, idle⟩ := emptied
    have empty : isEmpty c.inp = true := by simpa [isEmpty, depth] using idle
    let started := startTail c.sampleRate p
    have ends : endQueue c.inp c.sampleRate c.frameSamples p =
        (release c.inp (feedTail c.frameSamples started), false) := by
      simp only [endQueue, if_pos tail, startTail, started, fired, Bool.false_eq_true, if_false]
    have notHeld : ¬ ((feedTail c.frameSamples started).state.txTailRem ≤ 0 ∧
        c.inp.playPending = 0 ∧ 2 ≤ (feedTail c.frameSamples started).state.pttHoldTicks ∧
        (feedTail c.frameSamples started).actions.length < txActionsMax) := by
      intro all
      have held : 2 ≤ p.state.pttHoldTicks := all.2.2.1
      omega
    rw [runPass_empty ⟨ptt, paid⟩ empty ends, release_holds notHeld]
    have nonneg : 0 ≤ (feedTail c.frameSamples started).state.txTailRem :=
      feed_nonneg _ _ _ (Int.ediv_nonneg (Int.mul_nonneg (Int.le_of_lt rate)
        (Int.natCast_nonneg _)) (by decide))
    refine ⟨.quiet, (soundless.append (soundless_silences _ _)).next .quiet,
      Or.inl ⟨fired, fun owing => ?_, fun _ => ⟨ptt, paid⟩⟩⟩
    have owing : (feedTail c.frameSamples started).state.txTailRem ≠ 0 := owing
    exact if_neg fun written => owing (Int.le_antisymm written.1 nonneg)
  next =>
    rw [runPass, if_neg ready, if_neg emptied, notRunning rfl]
    exact ⟨.quiet, soundless.next .quiet,
      Or.inl ⟨fired, fun _ => hold, fun running => absurd tail (Int.not_lt.mpr running)⟩⟩

theorem openPass_opening {inp : TxIn} (unfired : Unfired s) (tail : s.txTailRem < 0)
    (sampleRate frameSamples : Int) :
    let p := openPass s inp sampleRate frameSamples
    Soundless p.actions ∧ p.state.queueFiredDrain = false ∧ p.state.txTailRem < 0 ∧
      p.state.pttHoldTicks = 0 := by
  have hold := unfired.hold (Int.ne_of_lt tail)
  have started : Soundless (startPtt inp sampleRate ⟨s, [], inp.playWritable⟩).actions ∧
      (startPtt inp sampleRate ⟨s, [], inp.playWritable⟩).state.queueFiredDrain = false ∧
      (startPtt inp sampleRate ⟨s, [], inp.playWritable⟩).state.txTailRem < 0 ∧
      (startPtt inp sampleRate ⟨s, [], inp.playWritable⟩).state.pttHoldTicks = 0 := by
    unfold startPtt
    split
    next =>
      refine ⟨fun a member => ?_, rfl, show (-1 : Int) < 0 by decide, hold⟩
      rw [List.mem_singleton.mp member]
      exact ⟨rfl, rfl, rfl⟩
    next => exact ⟨nofun, unfired.fired, tail, hold⟩
  unfold openPass feedDelay
  split
  next => exact ⟨started.1.append (soundless_silences _ _), started.2⟩
  next => exact started

/-- What the guard of a tick says of the state before it. -/
structure Guarding (apart : Bool) (s : AudioState) (dry : Prop) (c : Call) : Prop where
  written : s.queuePtt = true → s.txTailRem = 0 → isEmpty c.inp = true
  running : s.queuePtt = true → 0 < s.txTailRem → c.inp.queueIsDraining = true →
    0 < c.inp.queueDepth
  begun : s.queuePtt = true → s.queueFiredDrain = true → dry → hasWork c.inp = true
  separate : apart = true → s.queuePtt = true → 0 < s.txTailRem → isEmpty c.inp = true →
    c.inp.playPending = 0 →
    (feed c.frameSamples txActionsMax s.txTailRem c.inp.playWritable).2.1 ≠ 0

theorem begun_moves (begun : Begun s) (work : hasWork c.inp = true) (stage : Stage) (playW : Int) :
    Moves apart c stage (runPass c.inp c.sampleRate c.frameSamples ⟨s, [], playW⟩) :=
  live_drain_moves begun.live work begun.tail begun.hold stage playW

theorem cancel_depth {dry : Prop} (guards : Guarding apart s dry c) (live : Live s)
    (work : hasWork c.inp = true) (started : 0 ≤ s.txTailRem) :
    0 < s.txTailRem ∧ 0 < c.inp.queueDepth := by
  -- Work that comes while the tail runs cancels it.
  have running : 0 < s.txTailRem := by
    by_contra settled
    have empty := guards.written live.ptt (by omega)
    cases (hasWork_not_empty work).symm.trans empty
  refine ⟨running, ?_⟩
  simp only [hasWork, Bool.or_eq_true, decide_eq_true_eq] at work
  exact work.elim id (guards.running live.ptt running)

theorem quiet_moves {dry : Prop} (guards : Guarding apart s dry c)
    (follows : Follows s dry .quiet) (rate : 0 < c.sampleRate) :
    Moves apart c .quiet
      (runPass c.inp c.sampleRate c.frameSamples (openPass s c.inp c.sampleRate c.frameSamples)) := by
  rcases follows with unfired | ⟨begun, undrained⟩
  next =>
    by_cases tail : s.txTailRem < 0
    next =>
      obtain ⟨soundless, fired, tail, hold⟩ :=
        @openPass_opening s c.inp unfired tail c.sampleRate c.frameSamples
      exact opening_moves soundless fired tail hold rate
    next =>
      have started := Int.not_lt.mp tail
      have live := unfired.live started
      rw [openPass_live live.ptt live.paid]
      by_cases work : hasWork c.inp = true
      next =>
        obtain ⟨running, depth⟩ := cancel_depth guards live work started
        obtain ⟨actions, begun⟩ := live_cancel live depth running c.inp.playWritable
        exact ⟨.quiet, by rw [actions]; rfl, Or.inr ⟨begun, by rw [actions]; rfl⟩⟩
      by_cases empty : isEmpty c.inp = true
      next => exact quiet_tail_moves live unfired empty started _
      next =>
        rw [runPass_neither (Bool.eq_false_iff.mpr work) (Bool.eq_false_iff.mpr empty)]
        exact ⟨.quiet, rfl, Or.inl unfired⟩
  next =>
    rw [openPass_live begun.live.ptt begun.live.paid]
    exact begun_moves begun (guards.begun begun.live.ptt begun.fired undrained) .quiet _

theorem drained_moves (begun : Begun s) (rate : 0 < c.sampleRate) (tailMs : s.txTailMs = c.txTailMs) :
    Moves apart c .drained
      (runPass c.inp c.sampleRate c.frameSamples (openPass s c.inp c.sampleRate c.frameSamples)) := by
  rw [openPass_live begun.live.ptt begun.live.paid]
  by_cases work : hasWork c.inp = true
  next => exact begun_moves begun work .drained _
  by_cases empty : isEmpty c.inp = true
  next => exact live_complete_moves begun empty rate tailMs _
  next =>
    rw [runPass_neither (Bool.eq_false_iff.mpr work) (Bool.eq_false_iff.mpr empty)]
    exact ⟨.drained, rfl, begun⟩

theorem ending_moves {dry : Prop} {owed : Int} {held : Nat} (guards : Guarding apart s dry c)
    (follows : Follows s dry (.ending owed held)) :
    Moves apart c (.ending owed held)
      (runPass c.inp c.sampleRate c.frameSamples (openPass s c.inp c.sampleRate c.frameSamples)) := by
  rcases follows with ⟨unfired, rfl, started, rfl⟩ | ⟨begun, undrained⟩
  next =>
    have live := unfired.live started
    rw [openPass_live live.ptt live.paid]
    have waits (owing : s.txTailRem ≠ 0) :
        nextStage apart (.ending s.txTailRem s.pttHoldTicks) (c, []) =
          some (.ending s.txTailRem 0) := by
      simp [nextStage, onSilence, Tick.drains, Tick.releases, Tick.completes, Tick.silence, owing]
    by_cases work : hasWork c.inp = true
    next =>
      obtain ⟨running, depth⟩ := cancel_depth guards live work started
      obtain ⟨actions, begun⟩ := live_cancel live depth running c.inp.playWritable
      exact ⟨.ending s.txTailRem 0, by rw [actions]; exact waits (Int.ne_of_gt running),
        Or.inr ⟨begun, by rw [actions]; rfl⟩⟩
    by_cases empty : isEmpty c.inp = true
    next =>
      exact ending_tail_moves live unfired empty started _ fun strict running nothing =>
        guards.separate strict live.ptt running empty nothing
    next =>
      have owing : s.txTailRem ≠ 0 := fun zero => empty (guards.written live.ptt zero)
      rw [runPass_neither (Bool.eq_false_iff.mpr work) (Bool.eq_false_iff.mpr empty)]
      exact ⟨.ending s.txTailRem 0, waits owing,
        Or.inl ⟨unfired, rfl, started, unfired.hold owing⟩⟩
  next =>
    rw [openPass_live begun.live.ptt begun.live.paid]
    exact begun_moves begun (guards.begun begun.live.ptt begun.fired undrained) _ _

theorem follows_prepare {dry : Prop} {stage : Stage} (follows : Follows s dry stage) :
    Follows (c.prepare s) dry stage := by
  cases stage with
  | quiet =>
    exact follows.imp
      (fun unfired => ⟨unfired.fired, unfired.hold, fun started =>
        ⟨(unfired.live started).ptt, (unfired.live started).paid⟩⟩)
      (fun begun => ⟨⟨⟨begun.1.live.ptt, begun.1.live.paid⟩, begun.1.fired, begun.1.tail,
        begun.1.hold⟩, begun.2⟩)
  | drained => exact ⟨⟨follows.live.ptt, follows.live.paid⟩, follows.fired, follows.tail, follows.hold⟩
  | ending owed held =>
    exact follows.imp
      (fun unfired => ⟨⟨unfired.1.fired, unfired.1.hold, fun started =>
        ⟨(unfired.1.live started).ptt, (unfired.1.live started).paid⟩⟩, unfired.2⟩)
      (fun begun => ⟨⟨⟨begun.1.live.ptt, begun.1.live.paid⟩, begun.1.fired, begun.1.tail,
        begun.1.hold⟩, begun.2⟩)

theorem tick_moves {dry : Prop} {stage : Stage} (guards : Guarding apart s dry c)
    (follows : Follows s dry stage) (valid : c.valid = true) :
    Moves apart c stage (c.tick s) := by
  simp only [Call.valid, Bool.and_eq_true, decide_eq_true_eq] at valid
  have proper : ¬ (c.sampleRate ≤ 0 ∨ c.frameSamples ≤ 0) := by omega
  have prepared := follows_prepare (c := c) follows
  have guards : Guarding apart (c.prepare s) dry c :=
    ⟨guards.written, guards.running, guards.begun, guards.separate⟩
  rw [Call.tick, audioTickTx, if_neg proper]
  by_cases paused : queuePaused (c.prepare s) c.inp = true
  next =>
    rw [if_pos paused]
    have unkeyed : (c.prepare s).queuePtt = false := by
      simp only [queuePaused, Bool.and_eq_true, Bool.not_eq_true'] at paused
      exact paused.1
    have notLive : ¬ Live (c.prepare s) := fun live => by
      cases unkeyed.symm.trans live.ptt
    cases stage with
    | quiet =>
      exact ⟨.quiet, rfl, Or.inl (prepared.resolve_right fun begun => notLive begun.1.live)⟩
    | drained => exact absurd prepared.live notLive
    | ending owed held =>
      rcases prepared with ⟨unfired, rfl, started, -⟩ | ⟨begun, -⟩
      next => exact absurd (unfired.live started) notLive
      next => exact absurd begun.live notLive
  rw [if_neg paused]
  cases stage with
  | quiet => exact quiet_moves guards prepared valid.1
  | drained => exact drained_moves prepared valid.1 rfl
  | ending owed held => exact ending_moves guards prepared

end

/-! ## Runs of orderly ticks -/

structure Tracked (apart : Bool) (air : Air) : Prop where
  accepted : ∃ stage, Acceptor.accept (nextStage apart) .quiet (ticks air.log) = some stage ∧
    Follows air.state (∀ t ∈ (ticks air.log).getLast?, t.drains = false) stage

theorem start_tracked (apart : Bool) : Tracked apart start :=
  ⟨.quiet, rfl, Or.inl ⟨rfl, fun _ => rfl, fun started =>
    absurd started (show ¬ (0 : Int) ≤ -1 by decide)⟩⟩

theorem ticks_snoc (log : List Tick) (c : Call) (actions : List Action) :
    ticks (log ++ [(c, actions)]) = ticks log ++ if c.valid then [(c, actions)] else [] := by
  simp only [ticks, List.filter_append, List.filter_singleton, Bool.cond_eq_ite]

theorem follows_mono {s : AudioState} {dry dry' : Prop} (implies : dry → dry') {stage : Stage}
    (follows : Follows s dry stage) : Follows s dry' stage := by
  cases stage with
  | quiet => exact follows.imp_right fun begun => ⟨begun.1, implies begun.2⟩
  | drained => exact follows
  | ending owed held => exact follows.imp_right fun begun => ⟨begun.1, implies begun.2⟩

theorem tracked_step {apart : Bool} {air : Air} {c : Call} (tracked : Tracked apart air)
    (keeps : Keeps apart air c) : Tracked apart (step air c) := by
  obtain ⟨stage, accepted, follows⟩ := tracked
  cases valid : c.valid with
  | false =>
    -- The call returns at once.
    have improper : c.sampleRate ≤ 0 ∨ c.frameSamples ≤ 0 := by
      simp only [Call.valid, Bool.and_eq_false_iff, decide_eq_false_iff_not] at valid
      omega
    have same : c.tick air.state = ⟨c.prepare air.state, [], false⟩ := by
      rw [Call.tick, audioTickTx, if_pos improper]
    refine ⟨stage, ?_, ?_⟩
    next => simpa [step, ticks_snoc, valid] using accepted
    next =>
      simp only [step, ticks_snoc, valid, same]
      simpa using follows_prepare follows
  | true =>
    obtain ⟨written, running, begun, separate⟩ := keeps valid
    have guards : Guarding apart air.state (∀ t ∈ (ticks air.log).getLast?, t.drains = false) c :=
      ⟨written, running, fun ptt fired dry => begun ptt ⟨fired, dry⟩, separate⟩
    obtain ⟨after, moves, follows'⟩ := tick_moves guards follows valid
    refine ⟨after, ?_, ?_⟩
    next =>
      simp only [step, ticks_snoc, valid, if_true]
      rw [Acceptor.accept_snoc _ accepted]
      exact moves
    next =>
      simp only [step, ticks_snoc, valid, if_true]
      exact follows_mono (fun dry t last => by
        simp only [List.getLast?_append, List.getLast?_singleton, Option.some_or, Option.mem_def,
          Option.some.injEq] at last
        exact last ▸ dry) follows'

theorem orderly_completion (apart : Bool) (calls : List Call)
    (keeps : Machine.Guarded step (Keeps apart) start calls) :
    Completion apart (Machine.run step start calls).log := by
  obtain ⟨stage, accepted, -⟩ := Machine.run_invariant step (P := Tracked apart)
    (fun _ _ tracked allowed => tracked_step tracked allowed) (start_tracked apart) keeps
  exact accepted_completion accepted

def frameTick (txTailMs : Nat) (depth : Int) (pending : Nat) : Call where
  -- A tick at 8000 samples a second, 20 ms long.
  sampleRate := 8000
  frameSamples := 160
  txDelayMs := 0
  txTailMs := txTailMs
  relayDrain := 0
  inp :=
    { relayActive := false
      pttHeld := false
      queueDepth := depth
      queueIsDraining := false
      playWritable := 8000
      playPending := pending
      nowUs := 0 }

theorem one_frame_completes :
    Completion true (Machine.run step start
      [frameTick 20 1 0, frameTick 20 0 160, frameTick 20 0 160, frameTick 20 0 0, frameTick 20 0 0,
        frameTick 20 0 0]).log :=
  orderly_completion true _ (by decide)

def requeued : List Call :=
  -- Without a tail, an item that FIRE_COMPLETE brings is drained while `tx_tail_rem` is 0.
  [frameTick 0 1 0, frameTick 0 0 0, frameTick 0 1 0, frameTick 0 0 0, frameTick 0 0 0,
    frameTick 0 0 0]

theorem requeued_item_never_completes :
    ¬ ∃ apart, Completion apart (Machine.run step start requeued).log := by
  rintro ⟨apart, completion⟩
  obtain ⟨waits, c, ms, tails, first, second, between, -⟩ := completion.closes
    [(frameTick 0 1 0, [.assertPtt, .fireDrain, .drain 160]), (frameTick 0 0 0, [.fireComplete 0])]
    (frameTick 0 1 0, [.fireDrain, .drain 160])
    [(frameTick 0 0 0, []), (frameTick 0 0 0, [])]
    (frameTick 0 0 0, [.releasePtt]) [] (by decide) (by decide) (by decide) (by decide)
  -- The completion and two held ticks do not fit between the last drain and the release.
  have lengths := congrArg List.length between
  simp only [List.length_append, List.length_cons, List.length_nil] at lengths
  omega

end Kerchunk.AudioTick

/-!
## What one call of the TX sub-tick asks for

A call that completes a transmission found the queue empty, and one that finds it empty with no
transmission begun completes none.
-/

namespace Kerchunk.AudioTick

def Waits (actions : List Action) : Prop :=
  -- No frame is drained, and no transmission complete.
  ∀ a ∈ actions, a.isDrain = false ∧ a.isComplete = false

theorem waits_nil : Waits [] := by
  simp [Waits]

theorem waits_silences (purpose : Purpose) (chunks : List Int) :
    Waits (chunks.map (.silence purpose)) := by
  intro a member
  obtain ⟨chunk, -, rfl⟩ := List.mem_map.mp member
  exact ⟨rfl, rfl⟩

theorem Waits.append {first second : List Action} (before : Waits first) (after : Waits second) :
    Waits (first ++ second) := by
  intro a member
  exact (List.mem_append.mp member).elim (before a) (after a)

theorem Waits.push {actions : List Action} (waits : Waits actions) {pushed : Action}
    (plain : pushed.isDrain = false ∧ pushed.isComplete = false) :
    Waits (pushAction actions pushed) := by
  intro a member
  rcases mem_pushAction member with old | rfl
  next => exact waits a old
  next => exact plain

theorem openPass_waits (s : AudioState) (inp : TxIn) (sampleRate frameSamples : Int) :
    Waits (openPass s inp sampleRate frameSamples).actions := by
  have started : Waits (startPtt inp sampleRate ⟨s, [], inp.playWritable⟩).actions := by
    unfold startPtt
    split
    next => exact waits_nil.push ⟨rfl, rfl⟩
    next => exact waits_nil
  unfold openPass feedDelay
  split
  next => exact started.append (waits_silences _ _)
  next => exact started

theorem openPass_fired {s : AudioState} (fired : s.queueFiredDrain = false) (inp : TxIn)
    (sampleRate frameSamples : Int) :
    (openPass s inp sampleRate frameSamples).state.queueFiredDrain = false := by
  have started : (startPtt inp sampleRate ⟨s, [], inp.playWritable⟩).state.queueFiredDrain =
      false := by
    unfold startPtt
    split
    next => rfl
    next => exact fired
  unfold openPass feedDelay
  split <;> exact started

theorem release_waits (inp : TxIn) {p : Pass} (waits : Waits p.actions) :
    Waits (release inp p).actions ∧
      (release inp p).state.queueFiredDrain = p.state.queueFiredDrain := by
  unfold release
  dsimp only
  split
  next =>
    split
    next => exact ⟨waits.push ⟨rfl, rfl⟩, rfl⟩
    next => exact ⟨waits, rfl⟩
  next => exact ⟨waits, rfl⟩

/-- The end of a transmission is an event by itself, or only silence. -/
inductive Ends (p : Pass) : Pass × Bool → Prop where
  | silent (q : Pass) : Waits q.actions → q.state.queueFiredDrain = p.state.queueFiredDrain →
      Ends p (q, false)
  | complete (q : Pass) (ms : UInt32) : q.actions = pushAction p.actions (.fireComplete ms) →
      q.state.queueFiredDrain = false → p.state.queueFiredDrain = true → Ends p (q, true)

theorem endQueue_ends {p : Pass} (waits : Waits p.actions) (inp : TxIn)
    (sampleRate frameSamples : Int) : Ends p (endQueue inp sampleRate frameSamples p) := by
  have silent (q : Pass) (same : q.actions = p.actions)
      (fired : q.state.queueFiredDrain = p.state.queueFiredDrain) :
      Ends p (release inp (feedTail frameSamples q), false) := by
    have fed : Waits (feedTail frameSamples q).actions := by
      refine Waits.append ?_ (waits_silences _ _)
      rw [same]
      exact waits
    obtain ⟨after, kept⟩ := release_waits inp fed
    exact .silent _ after (kept.trans fired)
  unfold endQueue
  split
  next =>
    dsimp only
    split
    next fired => exact .complete _ _ rfl rfl fired
    next => exact silent (startTail sampleRate p) rfl rfl
  next => exact silent p rfl rfl

theorem drainFrame_incomplete {inp : TxIn} {p : Pass} (waits : Waits p.actions)
    (frameSamples : Int) : ∀ a ∈ (drainFrame inp frameSamples p).actions, a.isComplete = false := by
  intro a member
  rcases mem_drainFrame member with old | rfl | rfl
  next => exact (waits a old).2
  next => rfl
  next => rfl

/-- A call that completes a transmission found the queue empty, and asks for nothing after it. -/
structure Completes (inp : TxIn) (out : TxOut) : Prop where
  empty : hasWork inp = false
  fired : out.state.queueFiredDrain = false
  last : ∃ opening ms, out.actions = opening ++ [.fireComplete ms] ∧ Waits opening

theorem tick_completes {s : AudioState} {inp : TxIn} {sampleRate frameSamples : Int} {a : Action}
    (member : a ∈ (audioTickTx s inp sampleRate frameSamples).actions)
    (complete : a.isComplete = true) :
    Completes inp (audioTickTx s inp sampleRate frameSamples) := by
  unfold audioTickTx at member ⊢
  split at member
  next => cases member
  next valid =>
    rw [if_neg valid]
    split at member
    next => cases member
    next running =>
      rw [if_neg running]
      have waits := openPass_waits s inp sampleRate frameSamples
      generalize openPass s inp sampleRate frameSamples = p at member waits
      unfold runPass at member ⊢
      split at member
      next =>
        have incomplete := drainFrame_incomplete waits frameSamples a (mem_cancelTail member)
        rw [incomplete] at complete
        cases complete
      next idle =>
        rw [if_neg idle]
        split at member
        next emptied =>
          rw [if_pos emptied]
          have ends := endQueue_ends waits inp sampleRate frameSamples
          generalize endQueue inp sampleRate frameSamples p = ended at member ends
          cases ends with
          | silent q after =>
            have incomplete := (after a (mem_cancelTail member)).2
            rw [incomplete] at complete
            cases complete
          | complete q ms pushed fired =>
            dsimp only at member ⊢
            simp only [queueEmptied, Bool.and_eq_true, decide_eq_true_eq, Bool.not_eq_true']
              at emptied
            refine ⟨by simp [hasWork, emptied.1.2, emptied.2], fired, p.actions, ms, ?_, waits⟩
            rw [pushed] at member ⊢
            unfold pushAction at member ⊢
            split at member
            next =>
              rw [(waits a member).2] at complete
              cases complete
            next room => exact if_neg room
        next =>
          have incomplete := (waits a (mem_cancelTail member)).2
          rw [incomplete] at complete
          cases complete

theorem cancelTail_idle {inp : TxIn} (idle : hasWork inp = false) (p : Pass) :
    cancelTail inp p = ⟨p.state, p.actions, false⟩ := by
  have shallow : ¬inp.queueDepth > 0 := by
    simp only [hasWork, Bool.or_eq_false_iff, decide_eq_false_iff_not] at idle
    exact idle.1
  simp [cancelTail, shallow]

theorem tick_idle {s : AudioState} {inp : TxIn} (idle : hasWork inp = false)
    (fired : s.queueFiredDrain = false) (sampleRate frameSamples : Int) :
    Waits (audioTickTx s inp sampleRate frameSamples).actions ∧
      (audioTickTx s inp sampleRate frameSamples).state.queueFiredDrain = false := by
  -- Where nothing is queued and no frame has been drained, no transmission comes about.
  unfold audioTickTx
  split
  next => exact ⟨waits_nil, fired⟩
  next =>
    split
    next => exact ⟨waits_nil, fired⟩
    next =>
      have waits := openPass_waits s inp sampleRate frameSamples
      have still := openPass_fired fired inp sampleRate frameSamples
      generalize openPass s inp sampleRate frameSamples = p at waits still
      have notDraining : ¬drains inp p = true := by simp [drains, idle]
      rw [runPass, if_neg notDraining]
      split
      next =>
        have ends := endQueue_ends waits inp sampleRate frameSamples
        generalize endQueue inp sampleRate frameSamples p = ended at ends
        cases ends with
        | silent q after kept =>
          dsimp only
          rw [cancelTail_idle idle]
          exact ⟨after, kept.trans still⟩
        | complete q ms pushed done fires =>
          rw [still] at fires
          cases fires
      next =>
        rw [cancelTail_idle idle]
        exact ⟨waits, still⟩

end Kerchunk.AudioTick
