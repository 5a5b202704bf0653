import Kerchunk.AudioTick.Lifecycle

set_option autoImplicit false

/-!
# What the action array has no room for

`decides` lists every action that a call of `kerchunk_audio_tick_tx` decides on, in the order in which
it pushes them. The blocks keep all of them unless DRAIN comes ninth, behind the delay silence and
FIRE_DRAIN.
-/

namespace Kerchunk.AudioTick

/-! ## The actions that a call decides on -/

def startDecides (inp : TxIn) (p : Pass) : List Action :=
  if !p.state.queuePtt && hasWork inp then [.assertPtt] else []

def delayDecides (frameSamples : Int) (p : Pass) : List Action :=
  if p.state.queuePtt then
    (feed frameSamples (room p.actions) p.state.txDelayRem p.playW).1.map (.silence .txDelay)
  else []

def drainDecides (frameSamples : Int) (p : Pass) : List Action :=
  (if !p.state.queueFiredDrain then [.fireDrain] else []) ++ [.drain frameSamples]

def tailDecides (frameSamples : Int) (p : Pass) : List Action :=
  (feed frameSamples (room p.actions) p.state.txTailRem p.playW).1.map (.silence .txTail)

def releaseDecides (inp : TxIn) (p : Pass) : List Action :=
  if (p.state.txTailRem ≤ 0 ∧ inp.playPending = 0) ∧
      p.state.pttHoldTicks + 1 ≥ 3 ∧ p.actions.length < txActionsMax then [.releasePtt]
  else []

def endDecides (inp : TxIn) (sampleRate frameSamples : Int) (p : Pass) : List Action :=
  if p.state.txTailRem < 0 then
    let tail := startTail sampleRate p
    if tail.state.queueFiredDrain then [.fireComplete (durationMs inp tail.state)]
    else tailDecides frameSamples tail ++ releaseDecides inp (feedTail frameSamples tail)
  else tailDecides frameSamples p ++ releaseDecides inp (feedTail frameSamples p)

def openDecides (s : AudioState) (inp : TxIn) (sampleRate frameSamples : Int) : List Action :=
  let p : Pass := ⟨s, [], inp.playWritable⟩
  startDecides inp p ++ delayDecides frameSamples (startPtt inp sampleRate p)

def decides (s : AudioState) (inp : TxIn) (sampleRate frameSamples : Int) : List Action :=
  if sampleRate ≤ 0 ∨ frameSamples ≤ 0 then []
  else if queuePaused s inp then []
  else
    let p := openPass s inp sampleRate frameSamples
    openDecides s inp sampleRate frameSamples ++
      if drains inp p then drainDecides frameSamples p
      else if queueEmptied inp p then endDecides inp sampleRate frameSamples p
      else []

/-- What the blocks leave in the array. Only the end of the call, where a cancelled tail discards its
pass, comes after it. -/
def blocks (s : AudioState) (inp : TxIn) (sampleRate frameSamples : Int) : List Action :=
  if sampleRate ≤ 0 ∨ frameSamples ≤ 0 then []
  else if queuePaused s inp then []
  else
    let p := openPass s inp sampleRate frameSamples
    if drains inp p then (drainFrame inp frameSamples p).actions
    else if queueEmptied inp p then (endQueue inp sampleRate frameSamples p).1.actions
    else p.actions

/-- A cancelled tail, whose pass is discarded. -/
def Discards (s : AudioState) (inp : TxIn) : Prop :=
  s.queuePtt = true ∧ 0 < s.txTailRem ∧ 0 < inp.queueDepth

theorem cancelTail_blocks {s : AudioState} {inp : TxIn} {p : Pass}
    (tail : p.state.queuePtt = true → 0 < p.state.txTailRem → s.queuePtt = true ∧ 0 < s.txTailRem) :
    (cancelTail inp p).actions = p.actions ∨ (cancelTail inp p).actions = [] ∧ Discards s inp := by
  rw [cancelTail]
  split
  next cancels =>
    simp only [Bool.and_eq_true, decide_eq_true_eq] at cancels
    obtain ⟨ptt, running⟩ := tail cancels.1.1 cancels.1.2
    exact .inr ⟨rfl, ptt, running, cancels.2⟩
  next => exact .inl rfl

theorem tick_blocks (s : AudioState) (inp : TxIn) (sampleRate frameSamples : Int) :
    (audioTickTx s inp sampleRate frameSamples).actions = blocks s inp sampleRate frameSamples ∨
      (audioTickTx s inp sampleRate frameSamples).actions = [] ∧ Discards s inp := by
  have tail := @openPass_tail inp sampleRate frameSamples s
  rw [audioTickTx, blocks]
  split
  next => exact .inl rfl
  next =>
    split
    next => exact .inl rfl
    next =>
      generalize openPass s inp sampleRate frameSamples = p at tail
      simp only [runPass]
      split
      next =>
        have keeps := drainFrame_keeps inp frameSamples p
        exact cancelTail_blocks fun ptt running => tail (keeps.1 ▸ ptt) (keeps.2.2 ▸ running)
      next =>
        split
        next emptied =>
          simp only [queueEmptied, Bool.and_eq_true, decide_eq_true_eq] at emptied
          split
          next p' early => rw [early]; exact .inl rfl
          next p' goesOn =>
            rw [goesOn, cancelTail_off fun _ _ => by omega]
            exact .inl rfl
        next => exact cancelTail_blocks tail

/-! ## The delay silence of a call -/

theorem feed_untouched (frameSamples : Int) (places : Nat) (rem playW : Int) :
    (feed frameSamples places rem playW).2.1 ≤ 0 ∧
        (feed frameSamples places rem playW).1.length = 0 ↔ rem ≤ 0 := by
  cases places with
  | zero => simp [feed]
  | succ places =>
    by_cases more : rem > 0 ∧ playW ≥ frameSamples
    next =>
      have owed := more.1
      simp [feed, more]
    next => simp [feed, more]

/-- The chunks that a silence loop needs, when it comes to its end. -/
theorem feed_ends {frameSamples : Int} (frame : 0 < frameSamples) (places chunks : Nat)
    (rem playW : Int) :
    ((feed frameSamples places rem playW).2.1 ≤ 0 ∧
        (feed frameSamples places rem playW).1.length = chunks + 1) ↔
      chunks < places ∧ chunks * frameSamples < rem ∧ rem ≤ (chunks + 1) * frameSamples ∧
        (chunks + 1) * frameSamples ≤ playW := by
  induction places generalizing chunks rem playW with
  | zero => simp [feed]
  | succ places ih =>
    have positive : 0 ≤ chunks * frameSamples :=
      Int.mul_nonneg (Int.natCast_nonneg chunks) (Int.le_of_lt frame)
    by_cases more : rem > 0 ∧ playW ≥ frameSamples
    next =>
      simp only [feed, if_pos more, List.length_cons, Nat.add_right_cancel_iff]
      by_cases last : rem < frameSamples
      next =>
        -- One chunk, shorter than a frame, ends the loop.
        rw [if_pos last, Int.sub_self, feed_none (Int.le_refl 0)]
        cases chunks with
        | zero => simp; omega
        | succ chunks =>
          simp only [Nat.cast_succ, Int.add_mul, Int.one_mul] at positive ⊢
          have : 0 ≤ chunks * frameSamples :=
            Int.mul_nonneg (Int.natCast_nonneg chunks) (Int.le_of_lt frame)
          simp
          omega
      next =>
        rw [if_neg last]
        cases chunks with
        | zero =>
          rw [feed_untouched]
          simp
          omega
        | succ chunks =>
          rw [ih]
          simp only [Nat.cast_succ, Int.add_mul, Int.one_mul]
          omega
    next =>
      simp only [feed, if_neg more, List.length_nil, Int.add_mul, Int.one_mul]
      omega

/-! ## When an action is lost -/

def delayOwed (s : AudioState) (inp : TxIn) (sampleRate : Int) : Int :=
  -- The delay silence still to be fed when a call finds work.
  if s.queuePtt then s.txDelayRem
  else if inp.pttHeld then 0
  else sampleRate * s.txDelayMs / 1000

def delayPlaces (s : AudioState) : Nat :=
  -- ASSERT_PTT comes before the silence.
  if s.queuePtt then txActionsMax else txActionsMax - 1

/-- The delay ends in this call with all but one place of the array taken. -/
def Overflows (s : AudioState) (inp : TxIn) (sampleRate frameSamples : Int) : Prop :=
  (0 < sampleRate ∧ 0 < frameSamples) ∧ queuePaused s inp = false ∧ hasWork inp = true ∧
    (delayPlaces s - 2 : Nat) * frameSamples < delayOwed s inp sampleRate ∧
    delayOwed s inp sampleRate ≤ (delayPlaces s - 1 : Nat) * frameSamples ∧
    (delayPlaces s - 1 : Nat) * frameSamples ≤ inp.playWritable

instance (s : AudioState) (inp : TxIn) (sampleRate frameSamples : Int) :
    Decidable (Overflows s inp sampleRate frameSamples) :=
  inferInstanceAs (Decidable (_ ∧ _))

theorem openPass_decides (s : AudioState) (inp : TxIn) (sampleRate frameSamples : Int) :
    (openPass s inp sampleRate frameSamples).actions = openDecides s inp sampleRate frameSamples := by
  have started : (startPtt inp sampleRate ⟨s, [], inp.playWritable⟩).actions =
      startDecides inp ⟨s, [], inp.playWritable⟩ := by
    rw [startPtt, startDecides]
    split
    next => rfl
    next => rfl
  rw [openPass, openDecides, ← started, feedDelay, delayDecides]
  split
  next => rfl
  next => rw [List.append_nil]

/-- What the opening of a call that finds work leaves. -/
structure Opened (s : AudioState) (inp : TxIn) (sampleRate frameSamples : Int) (p : Pass) : Prop where
  ptt : p.state.queuePtt = true
  fired : p.state.queueFiredDrain = (s.queuePtt && s.queueFiredDrain)
  owed : p.state.txDelayRem =
    (feed frameSamples (delayPlaces s) (delayOwed s inp sampleRate) inp.playWritable).2.1
  length : p.actions.length = txActionsMax - delayPlaces s +
    (feed frameSamples (delayPlaces s) (delayOwed s inp sampleRate) inp.playWritable).1.length

theorem openPass_opened {s : AudioState} {inp : TxIn} (work : hasWork inp = true)
    (sampleRate frameSamples : Int) :
    Opened s inp sampleRate frameSamples (openPass s inp sampleRate frameSamples) := by
  cases ptt : s.queuePtt with
  | true =>
    constructor <;>
      simp [openPass, startPtt, feedDelay, room, delayPlaces, delayOwed, ptt]
  | false =>
    constructor <;>
      simp [openPass, startPtt, feedDelay, room, delayPlaces, delayOwed, ptt, work, pushAction,
        txActionsMax, Nat.add_comm]

/-- The first drain of a transmission finds one place left. -/
structure Short (inp : TxIn) (p : Pass) : Prop where
  drains : drains inp p = true
  unfired : p.state.queueFiredDrain = false
  length : p.actions.length + 1 = txActionsMax

theorem drains_iff {inp : TxIn} {p : Pass} (work : hasWork inp = true)
    (ptt : p.state.queuePtt = true) :
    drains inp p = true ↔ p.state.txDelayRem ≤ 0 ∧ p.actions.length < txActionsMax := by
  simp [drains, work, ptt]

theorem short_iff_overflows {s : AudioState} {inp : TxIn} {sampleRate frameSamples : Int}
    (valid : 0 < sampleRate ∧ 0 < frameSamples) (running : queuePaused s inp = false)
    (paid : s.queuePtt = true → s.queueFiredDrain = true → s.txDelayRem ≤ 0) :
    Short inp (openPass s inp sampleRate frameSamples) ↔
      Overflows s inp sampleRate frameSamples := by
  cases work : hasWork inp with
  | false =>
    constructor
    next =>
      intro short
      have drains := short.drains
      simp [AudioTick.drains, work] at drains
    next =>
      intro overflows
      cases work.symm.trans overflows.2.2.1
  | true =>
    have opened := @openPass_opened s inp work sampleRate frameSamples
    generalize openPass s inp sampleRate frameSamples = p at opened
    have ends := feed_ends valid.2 (delayPlaces s) (delayPlaces s - 2) (delayOwed s inp sampleRate)
      inp.playWritable
    have places : delayPlaces s = 7 ∨ delayPlaces s = 8 := by
      rw [delayPlaces]
      split
      next => exact .inr rfl
      next => exact .inl rfl
    have next : ((delayPlaces s - 1 : Nat) : Int) = (delayPlaces s - 2 : Nat) + 1 := by omega
    rw [← next] at ends
    have length := opened.length
    have owed := opened.owed
    constructor
    next =>
      intro short
      obtain ⟨done, _⟩ := (drains_iff work opened.ptt).mp short.drains
      have seventh := short.length
      have bounds := ends.mp ⟨by omega, by simp only [txActionsMax] at *; omega⟩
      exact ⟨valid, running, work, bounds.2⟩
    next =>
      intro overflows
      obtain ⟨_, _, _, bounds⟩ := overflows
      obtain ⟨done, chunks⟩ := ends.mpr ⟨by omega, bounds⟩
      have positive : 0 ≤ (delayPlaces s - 2 : Nat) * frameSamples :=
        Int.mul_nonneg (Int.natCast_nonneg _) (Int.le_of_lt valid.2)
      have unfired : (s.queuePtt && s.queueFiredDrain) = false := by
        by_contra fired
        obtain ⟨ptt, fired⟩ := (Bool.and_eq_true _ _).mp (by simpa using fired)
        have none := paid ptt fired
        have due : delayOwed s inp sampleRate = s.txDelayRem := if_pos ptt
        omega
      have full : p.actions.length + 1 = txActionsMax := by
        simp only [txActionsMax] at *
        omega
      exact ⟨(drains_iff work opened.ptt).mpr ⟨by omega, by omega⟩, opened.fired.trans unfired, full⟩

/-! ## Everything else is kept -/

theorem pushAction_room {actions : List Action} (action : Action)
    (room : actions.length < txActionsMax) :
    pushAction actions action = actions ++ [action] :=
  if_neg (Nat.not_le_of_lt room)

theorem drainFrame_kept {inp : TxIn} {p : Pass} (drains : drains inp p = true) (frameSamples : Int) :
    (drainFrame inp frameSamples p).actions = p.actions ++ drainDecides frameSamples p ↔
      ¬ Short inp p := by
  have room : p.actions.length < txActionsMax := by
    simp only [AudioTick.drains, Bool.and_eq_true, decide_eq_true_eq] at drains
    exact drains.2
  cases fired : p.state.queueFiredDrain with
  | true =>
    have kept : (drainFrame inp frameSamples p).actions =
        p.actions ++ drainDecides frameSamples p := by
      simp [drainFrame, fireDrain, drainDecides, fired, pushAction_room _ room]
    simp only [kept, true_iff]
    intro short
    cases fired.symm.trans short.unfired
  | false =>
    have pushed : (fireDrain inp p).actions = p.actions ++ [.fireDrain] := by
      rw [fireDrain, fired]
      exact pushAction_room _ room
    by_cases last : p.actions.length + 1 = txActionsMax
    next =>
      have dropped : (drainFrame inp frameSamples p).actions = p.actions ++ [.fireDrain] := by
        rw [drainFrame, pushed]
        exact if_pos (by simp [← last])
      rw [dropped]
      constructor
      next =>
        intro same
        simp [drainDecides, fired] at same
      next => exact fun roomy => absurd ⟨drains, fired, last⟩ roomy
    next =>
      have kept : (drainFrame inp frameSamples p).actions =
          p.actions ++ drainDecides frameSamples p := by
        rw [drainFrame, pushed, drainDecides, fired]
        exact (pushAction_room _ (by simp; omega)).trans (List.append_assoc ..)
      simp only [kept, true_iff]
      exact fun short => last short.length

theorem release_kept (inp : TxIn) (p : Pass) :
    (release inp p).actions = p.actions ++ releaseDecides inp p := by
  rw [release, releaseDecides]
  by_cases written : p.state.txTailRem ≤ 0 ∧ inp.playPending = 0
  next =>
    by_cases held : p.state.pttHoldTicks + 1 ≥ 3 ∧ p.actions.length < txActionsMax
    next => simp [written, held, pushAction_room _ held.2]
    next => simp only [written, held, and_self, and_false, if_true, if_false, List.append_nil]
  next =>
    rw [if_neg written, if_neg fun all => written all.1]
    exact (List.append_nil _).symm

theorem endQueue_kept {inp : TxIn} {p : Pass} (sampleRate frameSamples : Int)
    (quiet : p.state.queueFiredDrain = true → p.actions = []) :
    (endQueue inp sampleRate frameSamples p).1.actions =
      p.actions ++ endDecides inp sampleRate frameSamples p := by
  have tail (q : Pass) : (release inp (feedTail frameSamples q)).actions =
      q.actions ++ (tailDecides frameSamples q ++ releaseDecides inp (feedTail frameSamples q)) := by
    rw [release_kept, ← List.append_assoc]
    rfl
  rw [endQueue, endDecides]
  split
  next =>
    simp only
    split
    next fired =>
      have none : p.actions = [] := quiet fired
      simp [complete, startTail, none, pushAction, txActionsMax]
    next => exact tail _
  next => exact tail _

/-! ## A transmission that is drained, or ending, owes no delay -/

structure Paid (s : AudioState) : Prop where
  fired : s.queuePtt = true → s.queueFiredDrain = true → s.txDelayRem ≤ 0
  tail : s.queuePtt = true → 0 < s.txTailRem → s.txDelayRem ≤ 0

theorem paid_of_le {s : AudioState} (paid : s.txDelayRem ≤ 0) : Paid s :=
  ⟨fun _ _ => paid, fun _ _ => paid⟩

theorem openPass_paid {s : AudioState} (paid : Paid s) (inp : TxIn) (sampleRate frameSamples : Int) :
    Paid (openPass s inp sampleRate frameSamples).state := by
  by_cases starts : (!s.queuePtt && hasWork inp) = true
  next =>
    constructor <;> intro _ bad <;> simp [openPass, startPtt, starts, feedDelay] at bad
  next =>
    rw [openPass, startPtt, if_neg starts, feedDelay]
    split
    next ptt =>
      by_cases owes : s.txDelayRem ≤ 0
      next =>
        rw [feed_none owes]
        exact paid
      next =>
        exact ⟨fun _ fired => absurd (paid.fired ptt fired) owes,
          fun _ tail => absurd (paid.tail ptt tail) owes⟩
    next => exact paid

theorem openPass_quiet {s : AudioState} (paid : Paid s) (inp : TxIn) (sampleRate frameSamples : Int)
    (ptt : (openPass s inp sampleRate frameSamples).state.queuePtt = true)
    (fired : (openPass s inp sampleRate frameSamples).state.queueFiredDrain = true) :
    (openPass s inp sampleRate frameSamples).actions = [] := by
  by_cases starts : (!s.queuePtt && hasWork inp) = true
  next => simp [openPass, startPtt, starts, feedDelay] at fired
  next =>
    rw [openPass, startPtt, if_neg starts, feedDelay] at ptt fired ⊢
    split at ptt
    next keyed =>
      rw [if_pos keyed] at fired ⊢
      have none := paid.fired keyed fired
      rw [feed_none none]
      rfl
    next unkeyed => exact absurd ptt unkeyed

theorem release_owes (inp : TxIn) (p : Pass) :
    (release inp p).state.txDelayRem = p.state.txDelayRem := by
  rw [release]
  split
  next =>
    simp only
    split <;> rfl
  next => rfl

theorem endQueue_owes (inp : TxIn) (sampleRate frameSamples : Int) (p : Pass) :
    (endQueue inp sampleRate frameSamples p).1.state.txDelayRem = p.state.txDelayRem := by
  rw [endQueue]
  split
  next =>
    simp only
    split
    next => rfl
    next => exact release_owes _ _
  next => exact release_owes _ _

theorem cancelTail_paid {inp : TxIn} {p : Pass} (paid : Paid p.state) :
    Paid (cancelTail inp p).state := by
  rw [cancelTail]
  split
  next cancels =>
    simp only [Bool.and_eq_true, decide_eq_true_eq] at cancels
    exact paid_of_le (paid.tail cancels.1.1 cancels.1.2)
  next => exact paid

theorem tick_paid {s : AudioState} (paid : Paid s) (inp : TxIn) (sampleRate frameSamples : Int) :
    Paid (audioTickTx s inp sampleRate frameSamples).state := by
  have opened := openPass_paid paid inp sampleRate frameSamples
  rw [audioTickTx]
  split
  next => exact paid
  next =>
    split
    next => exact paid
    next =>
      generalize openPass s inp sampleRate frameSamples = p at opened
      rw [runPass]
      split
      next drains =>
        simp only [AudioTick.drains, Bool.and_eq_true, decide_eq_true_eq] at drains
        have owes := (drainFrame_keeps inp frameSamples p).2.1
        exact cancelTail_paid (paid_of_le (owes ▸ drains.1.1.1.2))
      next =>
        split
        next emptied =>
          simp only [queueEmptied, Bool.and_eq_true, decide_eq_true_eq] at emptied
          have owes := endQueue_owes inp sampleRate frameSamples p
          have ended : Paid (endQueue inp sampleRate frameSamples p).1.state :=
            paid_of_le (owes ▸ emptied.1.1.2)
          split
          next p' early => rw [early] at ended; exact ended
          next p' goesOn => rw [goesOn] at ended; exact cancelTail_paid ended
        next => exact cancelTail_paid opened

/-! ## What a call loses -/

theorem blocks_kept {s : AudioState} (paid : Paid s) (inp : TxIn) (sampleRate frameSamples : Int) :
    blocks s inp sampleRate frameSamples = decides s inp sampleRate frameSamples ↔
      ¬ Overflows s inp sampleRate frameSamples := by
  rw [blocks, decides]
  split
  next invalid =>
    simp only [true_iff]
    intro overflows
    have valid := overflows.1
    omega
  next valid =>
    split
    next paused =>
      simp only [true_iff]
      intro overflows
      cases paused.symm.trans overflows.2.1
    next running =>
      have short := @short_iff_overflows s inp sampleRate frameSamples (by omega)
        (by simpa using running) paid.fired
      have quiet := openPass_quiet paid inp sampleRate frameSamples
      rw [← short, ← openPass_decides]
      generalize openPass s inp sampleRate frameSamples = p at quiet
      simp only
      split
      next drains => exact drainFrame_kept drains frameSamples
      next waits =>
        have roomy : ¬ Short inp p := fun short => waits short.drains
        split
        next emptied =>
          simp only [queueEmptied, Bool.and_eq_true] at emptied
          have kept := @endQueue_kept inp p sampleRate frameSamples (quiet emptied.1.1.1)
          exact iff_of_true kept roomy
        next => exact iff_of_true (List.append_nil _).symm roomy

theorem silences_unfired (purpose : Purpose) (chunks : List Int) :
    Action.fireDrain ∉ chunks.map (Action.silence purpose) := by
  simp

theorem openDecides_unfired (s : AudioState) (inp : TxIn) (sampleRate frameSamples : Int) :
    .fireDrain ∉ openDecides s inp sampleRate frameSamples := by
  rw [openDecides, List.mem_append, not_or]
  constructor
  next =>
    rw [startDecides]
    split <;> simp
  next =>
    rw [delayDecides]
    split
    next => exact silences_unfired _ _
    next => simp

theorem endDecides_unfired (inp : TxIn) (sampleRate frameSamples : Int) (p : Pass) :
    .fireDrain ∉ endDecides inp sampleRate frameSamples p := by
  have tail (q : Pass) :
      .fireDrain ∉ tailDecides frameSamples q ++ releaseDecides inp (feedTail frameSamples q) := by
    rw [List.mem_append, not_or]
    constructor
    next => exact silences_unfired _ _
    next =>
      rw [releaseDecides]
      split <;> simp
  rw [endDecides]
  split
  next =>
    simp only
    split
    next => simp
    next => exact tail _
  next => exact tail _

/-- FIRE_DRAIN is decided on together with its DRAIN. -/
theorem fireDrain_last {s : AudioState} {inp : TxIn} {sampleRate frameSamples : Int}
    {before after : List Action}
    (split : decides s inp sampleRate frameSamples = before ++ .fireDrain :: after) :
    after = [.drain frameSamples] := by
  have member : .fireDrain ∈ decides s inp sampleRate frameSamples := by simp [split]
  have opening := openDecides_unfired s inp sampleRate frameSamples
  have ending := endDecides_unfired inp sampleRate frameSamples
    (openPass s inp sampleRate frameSamples)
  by_cases invalid : sampleRate ≤ 0 ∨ frameSamples ≤ 0
  next => simp [decides, invalid] at member
  next =>
    by_cases paused : queuePaused s inp = true
    next => simp [decides, paused] at member
    next =>
      rw [decides, if_neg invalid, if_neg paused] at split member
      simp only at split member
      by_cases drains : drains inp (openPass s inp sampleRate frameSamples) = true
      next =>
        rw [if_pos drains, drainDecides] at split member
        by_cases fired : (openPass s inp sampleRate frameSamples).state.queueFiredDrain = true
        next => simp [fired, opening] at member
        next =>
          simp only [Bool.not_eq_true] at fired
          simp only [fired, Bool.not_false, if_true, List.singleton_append] at split
          exact ((List.append_cons_inj_of_notMem opening (by simp)).mp split).2.2.symm
      next =>
        by_cases emptied : queueEmptied inp (openPass s inp sampleRate frameSamples) = true
        next => simp [drains, emptied, opening, ending] at member
        next => simp [drains, emptied, opening] at member

/-! ## Runs -/

/-- A call that emits all that it decides on. -/
structure Complete (s : AudioState) (c : Call) : Prop where
  kept : blocks (c.prepare s) c.inp c.sampleRate c.frameSamples =
    decides (c.prepare s) c.inp c.sampleRate c.frameSamples
  emitted : (c.tick s).actions = decides (c.prepare s) c.inp c.sampleRate c.frameSamples ∨
    (c.tick s).actions = [] ∧ Discards s c.inp
  drained : ∀ before after, (c.tick s).actions = before ++ .fireDrain :: after →
    after = [.drain c.frameSamples]

def Fits (s : AudioState) (c : Call) : Prop :=
  ¬ Overflows (c.prepare s) c.inp c.sampleRate c.frameSamples

instance (s : AudioState) (c : Call) : Decidable (Fits s c) :=
  inferInstanceAs (Decidable (¬ _))

theorem complete_iff {s : AudioState} (paid : Paid s) (c : Call) : Complete s c ↔ Fits s c := by
  have prepared : Paid (c.prepare s) := ⟨paid.fired, paid.tail⟩
  have kept := blocks_kept prepared c.inp c.sampleRate c.frameSamples
  constructor
  next => exact fun complete => kept.mp complete.kept
  next =>
    intro fits
    have kept := kept.mpr fits
    have emitted := tick_blocks (c.prepare s) c.inp c.sampleRate c.frameSamples
    rw [kept] at emitted
    refine ⟨kept, emitted, fun before after split => ?_⟩
    rcases emitted with all | ⟨none, _⟩
    next => exact fireDrain_last (all.symm.trans split)
    next => simp [none, Call.tick] at split

def Phase.owed : Phase → Int
  | .delaying owed => owed
  | _ => 0

theorem next_owed {phase after : Phase} {entry : Entry} (keyed : phase ≠ .idle)
    (plain : entry.2.isPtt = false) (moves : next phase entry = some after) :
    after ≠ .idle ∧ entry.2.delaySamples + after.owed = phase.owed := by
  obtain ⟨c, _ | _ | _ | ⟨_ | _, _⟩ | _ | _⟩ := entry <;> cases phase <;>
    grind [next, Action.isPtt, Action.delaySamples, Phase.owed]

theorem accept_owed {phase after : Phase} {between : List Entry} (keyed : phase ≠ .idle)
    (plain : ∀ entry ∈ between, entry.2.isPtt = false)
    (accepted : Acceptor.accept next phase between = some after) :
    after ≠ .idle ∧
      (between.map fun entry => entry.2.delaySamples).sum + after.owed = phase.owed := by
  induction between generalizing phase with
  | nil =>
    cases accepted
    exact ⟨keyed, by simp⟩
  | cons entry rest ih =>
    rw [Acceptor.accept_cons] at accepted
    obtain ⟨moved, moves, later⟩ := Option.bind_eq_some_iff.mp accepted
    obtain ⟨held, paid⟩ := next_owed keyed (plain entry (List.mem_cons_self ..)) moves
    obtain ⟨final, sum⟩ :=
      ih held (fun other member => plain other (List.mem_cons_of_mem _ member)) later
    refine ⟨final, ?_⟩
    rw [List.map_cons, List.sum_cons]
    omega

theorem tracks_owed {s : AudioState} {phase : Phase} (tracks : Tracks s phase)
    (keyed : phase ≠ .idle) : s.txDelayRem = phase.owed ∧ 0 ≤ s.txDelayRem := by
  cases phase with
  | idle => exact absurd rfl keyed
  | delaying owed =>
    obtain ⟨_, rem, nonneg, _⟩ := tracks
    exact ⟨rem, rem ▸ nonneg⟩
  | onAir => exact ⟨tracks.2, tracks.2 ▸ Int.le_refl 0⟩

/-- What the silence after an assertion has paid, and what is still owed, make up the delay. -/
structure DelayFed (air : Air) : Prop where
  counted : ∀ before c between, entries air.log = before ++ (c, .assertPtt) :: between →
    (∀ entry ∈ between, entry.2.isPtt = false) →
    (between.map fun entry => entry.2.delaySamples).sum + air.state.txDelayRem = due c ∧
      0 ≤ air.state.txDelayRem
  first : ∀ before c between c' samples after,
    entries air.log = before ++ (c, .assertPtt) :: (between ++ (c', .drain samples) :: after) →
    (∀ entry ∈ between, entry.2.isPtt = false) →
    (between.map fun entry => entry.2.delaySamples).sum = due c

theorem run_delayFed (calls : List Call) : DelayFed (Machine.run step start calls) := by
  obtain ⟨⟨phase, accepted, tracks⟩, _⟩ := logged_run calls
  generalize Machine.run step start calls = air at accepted tracks
  constructor
  case counted =>
    intro before c between split plain
    obtain ⟨_, asserted, _, asserts, rest⟩ := Acceptor.accept_split next (split ▸ accepted)
    rcases next_cases asserts with ⟨_, _, rfl⟩ | ⟨wrong, _⟩ | ⟨wrong, _⟩
    next =>
      obtain ⟨keyed, sum⟩ := accept_owed (by simp) plain rest
      obtain ⟨owed, nonneg⟩ := tracks_owed tracks keyed
      exact ⟨owed ▸ sum, nonneg⟩
    next => cases wrong
    next => cases wrong
  case first =>
    intro before c between c' samples after split plain
    obtain ⟨_, asserted, _, asserts, rest⟩ := Acceptor.accept_split next (split ▸ accepted)
    obtain ⟨waiting, drained, paying, drains, _⟩ := Acceptor.accept_split next rest
    rcases next_cases asserts with ⟨_, _, rfl⟩ | ⟨wrong, _⟩ | ⟨wrong, _⟩
    next =>
      obtain ⟨keyed, sum⟩ := accept_owed (by simp) plain paying
      have settled : waiting.owed = 0 := by
        cases waiting with
        | idle => exact absurd rfl keyed
        | onAir => rfl
        | delaying owed =>
          by_contra unsettled
          simp only [Phase.owed] at unsettled
          simp [next, unsettled] at drains
      rw [settled, Int.add_zero] at sum
      exact sum
    next => cases wrong
    next => cases wrong

/-- A run emits all that its calls decide on if and only if no call overflows. The delay silence is
fed whole in every run. -/
theorem tx_actions_kept (calls : List Call) :
    (Machine.Guarded step (fun air c => Complete air.state c) start calls ↔
        Machine.Guarded step (fun air c => Fits air.state c) start calls) ∧
      DelayFed (Machine.run step start calls) := by
  have keeps (air : Air) (c : Call) (paid : Paid air.state) : Paid (step air c).state := by
    have prepared : Paid (c.prepare air.state) := ⟨paid.fired, paid.tail⟩
    exact tick_paid prepared c.inp c.sampleRate c.frameSamples
  have initial : Paid start.state := paid_of_le (Int.le_refl 0)
  exact ⟨Machine.guarded_iff_of_invariant step (fun air c paid => complete_iff paid c)
    (fun air c paid _ => keeps air c paid) initial, run_delayFed calls⟩

/-- The first item after 120 ms of delay, which six frames of 20 ms fill. -/
def delayedItem : Call where
  sampleRate := 48000
  frameSamples := 960
  txDelayMs := 120
  txTailMs := 0
  relayDrain := 0
  inp :=
    { relayActive := false
      pttHeld := false
      queueDepth := 1
      queueIsDraining := false
      playWritable := 262143
      playPending := 0
      nowUs := 0 }

theorem delayed_drain_lost :
    ¬ Machine.Guarded step (fun air c => Complete air.state c) start [delayedItem] := by
  intro complete
  have after := complete.1.drained (.assertPtt :: List.replicate 6 (.silence .txDelay 960)) []
    (by decide)
  cases after

end Kerchunk.AudioTick
