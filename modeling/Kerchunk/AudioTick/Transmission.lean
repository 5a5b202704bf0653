import Kerchunk.AudioTick.Tx
import Kerchunk.Lib.Machine

set_option autoImplicit false

namespace Kerchunk.AudioTick

/-! ## Runs of the sub-tick -/

/-- One call, with what the loader and the RX sub-tick have left in the state for it. -/
structure Call where
  sampleRate : Int
  frameSamples : Int
  txDelayMs : Nat
  txTailMs : Nat
  relayDrain : Int
  inp : TxIn
deriving DecidableEq

def Call.prepare (c : Call) (s : AudioState) : AudioState :=
  { s with txDelayMs := c.txDelayMs, txTailMs := c.txTailMs, relayDrain := c.relayDrain }

def Call.tick (c : Call) (s : AudioState) : TxOut :=
  audioTickTx (c.prepare s) c.inp c.sampleRate c.frameSamples

structure Air where
  state : AudioState
  log : List (Call × List Action)

def start : Air := ⟨AudioState.init, []⟩

def step (air : Air) (c : Call) : Air :=
  ⟨(c.tick air.state).state, air.log ++ [(c, (c.tick air.state).actions)]⟩

abbrev Entry := Call × Action

def entries (log : List (Call × List Action)) : List Entry :=
  log.flatMap fun pass => pass.2.map fun action => (pass.1, action)

/-! ## What a transmission is -/

/-- A keyed channel owes its delay until the first drain. -/
inductive Phase where
  | idle
  | delaying (owed : Int)
  | onAir
deriving DecidableEq

def due (c : Call) : Int :=
  -- A channel that another holder has keyed owes no delay.
  if c.inp.pttHeld then 0 else c.sampleRate * c.txDelayMs / 1000

def next : Phase → Entry → Option Phase
  | .idle, (c, .assertPtt) => some (.delaying (due c))
  | .idle, _ => none
  | _, (_, .assertPtt) => none
  | _, (_, .releasePtt) => some .idle
  | .delaying owed, (_, .silence .txDelay samples) => some (.delaying (owed - samples))
  | .onAir, (_, .silence .txDelay _) => none
  | .delaying owed, (_, .drain _) => if owed = 0 then some .onAir else none
  | phase, _ => some phase

def Tracks (s : AudioState) : Phase → Prop
  | .idle => s.queuePtt = false
  | .delaying owed => s.queuePtt = true ∧ s.txDelayRem = owed ∧ 0 ≤ owed ∧ (0 < s.txTailRem → owed = 0)
  | .onAir => s.queuePtt = true ∧ s.txDelayRem = 0

def Emits (c : Call) (before : Phase) (p : Pass) : Prop :=
  -- The actions of a pass take `before` to a phase that its state tracks.
  ∃ phase, Acceptor.accept next before (p.actions.map fun action => (c, action)) = some phase ∧
    Tracks p.state phase

/-! ## The silence loop -/

theorem feed_balance (frameSamples : Int) (n : Nat) (rem playW : Int) :
    (feed frameSamples n rem playW).1.sum + (feed frameSamples n rem playW).2.1 = rem := by
  induction n generalizing rem playW with
  | zero => simp [feed]
  | succ n ih =>
      by_cases more : rem > 0 ∧ playW ≥ frameSamples
      · simp only [feed, if_pos more, List.sum_cons]
        generalize (if rem < frameSamples then rem else frameSamples) = sn
        have rest := ih (rem - sn) (playW - sn)
        omega
      · simp [feed, if_neg more]

theorem feed_none {frameSamples : Int} {n : Nat} {rem playW : Int} (paid : rem ≤ 0) :
    feed frameSamples n rem playW = ([], rem, playW) := by
  cases n with
  | zero => rfl
  | succ n => simp [feed, not_lt.mpr paid]

theorem feed_nonneg (frameSamples : Int) (n : Nat) {rem : Int} (playW : Int) (owed : 0 ≤ rem) :
    0 ≤ (feed frameSamples n rem playW).2.1 := by
  induction n generalizing rem playW with
  | zero => exact owed
  | succ n ih =>
      by_cases more : rem > 0 ∧ playW ≥ frameSamples
      · simp only [feed, if_pos more]
        apply ih
        split_ifs <;> omega
      · simpa only [feed, if_neg more] using owed

theorem accept_delay (c : Call) (owed : Int) (chunks : List Int) :
    Acceptor.accept next (.delaying owed)
      ((chunks.map (Action.silence .txDelay)).map fun action => (c, action)) =
      some (.delaying (owed - chunks.sum)) := by
  induction chunks generalizing owed with
  | nil => simp
  | cons chunk rest ih =>
      simp only [List.map_cons, Acceptor.accept_cons, next, Option.bind_some, ih, List.sum_cons]
      congr 2
      omega

theorem accept_tail (c : Call) {phase : Phase} (keyed : phase ≠ .idle) (chunks : List Int) :
    Acceptor.accept next phase
      ((chunks.map (Action.silence .txTail)).map fun action => (c, action)) = some phase := by
  induction chunks with
  | nil => rfl
  | cons chunk rest ih =>
      have stays : next phase (c, .silence .txTail chunk) = some phase := by
        cases phase <;> simp [next] at keyed ⊢
      rw [List.map_cons, List.map_cons, Acceptor.accept_cons, stays, Option.bind_some, ih]

/-! ## What each block emits -/

theorem Tracks.keyed {s : AudioState} {phase : Phase} (tracks : Tracks s phase)
    (ptt : s.queuePtt = true) : phase ≠ .idle := by
  rintro rfl
  simp [show s.queuePtt = false from tracks] at ptt

theorem emits_push {c : Call} {before phase after : Phase} {p : Pass} {action : Action}
    {s : AudioState}
    (emitted : Acceptor.accept next before (p.actions.map fun action => (c, action)) = some phase)
    (moves : next phase (c, action) = some after) (dropped : Tracks s phase)
    (pushed : Tracks s after) (playW : Int) :
    Emits c before ⟨s, pushAction p.actions action, playW⟩ := by
  -- A pushed action either moves the phase or is dropped for lack of room.
  unfold pushAction
  split_ifs
  · exact ⟨phase, emitted, dropped⟩
  · refine ⟨after, ?_, pushed⟩
    rw [List.map_append, List.map_singleton, Acceptor.accept_snoc next emitted]
    exact moves

theorem due_nonneg {c : Call} (rate : 0 < c.sampleRate) : 0 ≤ due c := by
  unfold due
  split
  · exact Int.le_refl 0
  · exact Int.ediv_nonneg (Int.mul_nonneg (Int.le_of_lt rate) (Int.natCast_nonneg _)) (by decide)

theorem startPtt_emits (c : Call) {s : AudioState} {phase : Phase} (tracks : Tracks s phase)
    (rate : 0 < c.sampleRate) (delay : s.txDelayMs = c.txDelayMs) (playW : Int) :
    Emits c phase (startPtt c.inp c.sampleRate ⟨s, [], playW⟩) := by
  by_cases starts : (!s.queuePtt && hasWork c.inp) = true
  · have idle : phase = .idle := by
      cases phase <;> simp_all [Tracks]
    subst idle
    rw [startPtt, if_pos starts]
    refine ⟨.delaying (due c), rfl, rfl, ?_, due_nonneg rate, ?_⟩
    · simp only [due, delay]
    · intro positive
      exact absurd positive (show ¬ (0 : Int) < -1 by decide)
  · rw [startPtt, if_neg starts]
    exact ⟨phase, rfl, tracks⟩

theorem feedDelay_emits {c : Call} {before : Phase} {p : Pass} (emits : Emits c before p)
    (frameSamples : Int) : Emits c before (feedDelay frameSamples p) := by
  obtain ⟨phase, emitted, tracks⟩ := emits
  unfold feedDelay
  split_ifs with ptt
  · cases phase with
    | idle => exact absurd rfl (tracks.keyed ptt)
    | delaying owed =>
        obtain ⟨_, rem, nonneg, tail⟩ := tracks
        have balance := feed_balance frameSamples (room p.actions) p.state.txDelayRem p.playW
        refine ⟨.delaying (owed - (feed frameSamples (room p.actions) p.state.txDelayRem p.playW).1.sum),
          ?_, ptt, ?_, ?_, ?_⟩
        · rw [List.map_append, Acceptor.accept_append, emitted, Option.bind_some, accept_delay]
        · simp only
          omega
        · have := feed_nonneg frameSamples (room p.actions) p.playW (rem ▸ nonneg)
          omega
        · intro positive
          have paid : p.state.txDelayRem ≤ 0 := by
            have := tail positive
            omega
          rw [feed_none paid] at balance ⊢
          simp only [List.sum_nil] at balance ⊢
          omega
    | onAir =>
        have paid : p.state.txDelayRem ≤ 0 := by
          have := tracks.2
          omega
        refine ⟨.onAir, ?_, ptt, ?_⟩
        · rw [feed_none paid]
          simpa using emitted
        · rw [feed_none paid]
          exact tracks.2
  · exact ⟨phase, emitted, tracks⟩

theorem next_stays {phase : Phase} (keyed : phase ≠ .idle) (c : Call) {action : Action}
    (plain : action = .fireDrain ∨ ∃ ms, action = .fireComplete ms) :
    next phase (c, action) = some phase := by
  rcases plain with rfl | ⟨ms, rfl⟩ <;> cases phase <;> simp [next] at keyed ⊢

theorem drainFrame_emits {c : Call} {before : Phase} {p : Pass} (emits : Emits c before p)
    (ptt : p.state.queuePtt = true) (paid : p.state.txDelayRem ≤ 0) (frameSamples : Int) :
    Emits c before (drainFrame c.inp frameSamples p) := by
  have fired : Emits c before (fireDrain c.inp p) := by
    obtain ⟨phase, emitted, tracks⟩ := emits
    unfold fireDrain
    split_ifs
    · have same : Tracks { p.state with queueFiredDrain := true, queueDrainStartUs := c.inp.nowUs }
          phase := by cases phase <;> exact tracks
      exact emits_push emitted (next_stays (tracks.keyed ptt) c (.inl rfl)) same same _
    · exact ⟨phase, emitted, tracks⟩
  have ptt' : (fireDrain c.inp p).state.queuePtt = true := by
    unfold fireDrain
    split_ifs <;> exact ptt
  have paid' : (fireDrain c.inp p).state.txDelayRem ≤ 0 := by
    unfold fireDrain
    split_ifs <;> exact paid
  obtain ⟨phase, emitted, tracks⟩ := fired
  cases phase with
  | idle => exact absurd rfl (tracks.keyed ptt')
  | delaying owed =>
      have rem := tracks.2.1
      have nonneg := tracks.2.2.1
      have settled : owed = 0 := by omega
      have moves : next (.delaying owed) (c, .drain frameSamples) = some .onAir := by
        simp [next, settled]
      exact emits_push emitted moves tracks ⟨ptt', by omega⟩ _
  | onAir => exact emits_push emitted rfl tracks tracks _

theorem tracks_hold {s : AudioState} {phase : Phase} (tracks : Tracks s phase) (held : Nat) :
    Tracks { s with pttHoldTicks := held } phase := by
  cases phase <;> exact tracks

theorem release_emits {c : Call} {before : Phase} {p : Pass} (emits : Emits c before p)
    (ptt : p.state.queuePtt = true) : Emits c before (release c.inp p) := by
  obtain ⟨phase, emitted, tracks⟩ := emits
  unfold release
  dsimp only
  split_ifs with written room
  · refine ⟨.idle, ?_, rfl⟩
    have pushed : pushAction p.actions .releasePtt = p.actions ++ [.releasePtt] :=
      if_neg (Nat.not_le_of_lt room.2)
    rw [pushed, List.map_append, List.map_singleton, Acceptor.accept_snoc next emitted]
    have keyed := tracks.keyed ptt
    cases phase <;> simp [next] at keyed ⊢
  · exact ⟨phase, emitted, tracks_hold tracks _⟩
  · exact ⟨phase, emitted, tracks_hold tracks 0⟩

theorem tracks_tail {s : AudioState} {phase : Phase} (tracks : Tracks s phase)
    (paid : s.txDelayRem ≤ 0) (rem : Int) : Tracks { s with txTailRem := rem } phase := by
  -- With the delay paid the tail may count freely.
  cases phase with
  | idle => exact tracks
  | delaying owed =>
      obtain ⟨ptt, same, nonneg, _⟩ := tracks
      exact ⟨ptt, same, nonneg, fun _ => by omega⟩
  | onAir => exact tracks

theorem feedTail_emits {c : Call} {before : Phase} {p : Pass} (emits : Emits c before p)
    (ptt : p.state.queuePtt = true) (paid : p.state.txDelayRem ≤ 0) (frameSamples : Int) :
    Emits c before (feedTail frameSamples p) := by
  obtain ⟨phase, emitted, tracks⟩ := emits
  refine ⟨phase, ?_, tracks_tail tracks paid _⟩
  unfold feedTail
  rw [List.map_append, Acceptor.accept_append, emitted, Option.bind_some,
    accept_tail c (tracks.keyed ptt)]

theorem startTail_emits {c : Call} {before : Phase} {p : Pass} (emits : Emits c before p)
    (paid : p.state.txDelayRem ≤ 0) (sampleRate : Int) :
    Emits c before (startTail sampleRate p) := by
  obtain ⟨phase, emitted, tracks⟩ := emits
  exact ⟨phase, emitted, tracks_tail tracks paid _⟩

theorem complete_emits {c : Call} {before : Phase} {p : Pass} (emits : Emits c before p)
    (ptt : p.state.queuePtt = true) : Emits c before (complete c.inp p) := by
  obtain ⟨phase, emitted, tracks⟩ := emits
  have same : Tracks { p.state with queueFiredDrain := false } phase := by
    cases phase <;> exact tracks
  exact emits_push emitted (next_stays (tracks.keyed ptt) c (.inr ⟨_, rfl⟩)) same same _

theorem endQueue_emits {c : Call} {before : Phase} {p : Pass} (emits : Emits c before p)
    (ptt : p.state.queuePtt = true) (paid : p.state.txDelayRem ≤ 0) :
    Emits c before (endQueue c.inp c.sampleRate c.frameSamples p).1 := by
  have tail := startTail_emits emits paid c.sampleRate
  unfold endQueue
  dsimp only
  split_ifs
  · exact complete_emits tail ptt
  · exact release_emits (feedTail_emits tail ptt paid c.frameSamples) ptt
  · exact release_emits (feedTail_emits emits ptt paid c.frameSamples) ptt

/-! ## What a call emits -/

theorem openPass_tail {inp : TxIn} {sampleRate frameSamples : Int} {s : AudioState}
    (ptt : (openPass s inp sampleRate frameSamples).state.queuePtt = true)
    (tail : 0 < (openPass s inp sampleRate frameSamples).state.txTailRem) :
    s.queuePtt = true ∧ 0 < s.txTailRem := by
  -- A tail is only found running where it was running before the call.
  by_cases starts : (!s.queuePtt && hasWork inp) = true
  · rw [openPass, startPtt, if_pos starts, feedDelay, if_pos rfl] at tail
    exact absurd tail (show ¬ (0 : Int) < -1 by decide)
  · rw [openPass, startPtt, if_neg starts] at ptt tail
    unfold feedDelay at ptt tail
    split at ptt
    · rename_i keyed
      rw [if_pos keyed] at tail
      exact ⟨ptt, tail⟩
    · rename_i unkeyed
      exact absurd ptt unkeyed

theorem openPass_live {inp : TxIn} {sampleRate frameSamples : Int} {s : AudioState}
    (ptt : s.queuePtt = true) (paid : s.txDelayRem ≤ 0) :
    openPass s inp sampleRate frameSamples = ⟨s, [], inp.playWritable⟩ := by
  have keyed : ¬ (!s.queuePtt && hasWork inp) = true := by simp [ptt]
  rw [openPass, startPtt, if_neg keyed, feedDelay, if_pos ptt]
  simp only [feed_none paid, List.map_nil, List.append_nil]

theorem cancelTail_off {inp : TxIn} {p : Pass}
    (off : p.state.queuePtt = true → 0 < p.state.txTailRem → ¬ 0 < inp.queueDepth) :
    cancelTail inp p = ⟨p.state, p.actions, false⟩ := by
  refine if_neg fun cancels => ?_
  simp only [Bool.and_eq_true, decide_eq_true_eq] at cancels
  exact off cancels.1.1 cancels.1.2 cancels.2

theorem drainFrame_keeps (inp : TxIn) (frameSamples : Int) (p : Pass) :
    (drainFrame inp frameSamples p).state.queuePtt = p.state.queuePtt ∧
      (drainFrame inp frameSamples p).state.txDelayRem = p.state.txDelayRem ∧
      (drainFrame inp frameSamples p).state.txTailRem = p.state.txTailRem := by
  unfold drainFrame fireDrain
  dsimp only
  split_ifs <;> exact ⟨rfl, rfl, rfl⟩

theorem cancelTail_emits {c : Call} {s : AudioState} {phase : Phase} (tracks : Tracks s phase)
    (ptt : s.queuePtt = true) (tail : 0 < s.txTailRem) {p : Pass}
    (samePtt : p.state.queuePtt = s.queuePtt) (sameRem : p.state.txDelayRem = s.txDelayRem)
    (sameTail : p.state.txTailRem = s.txTailRem) (depth : 0 < c.inp.queueDepth) :
    (cancelTail c.inp p).actions = [] ∧ Tracks (cancelTail c.inp p).state phase := by
  -- A cancelled tail discards its pass, in which no delay silence was due.
  have cancels : (p.state.queuePtt && decide (p.state.txTailRem > 0) &&
      decide (c.inp.queueDepth > 0)) = true := by
    simp [samePtt, ptt, sameTail, tail, depth]
  rw [cancelTail, if_pos cancels]
  refine ⟨rfl, ?_⟩
  cases phase with
  | idle => exact samePtt.trans tracks
  | delaying owed =>
      obtain ⟨_, same, nonneg, paid⟩ := tracks
      exact ⟨samePtt.trans ptt, sameRem.trans same, nonneg, fun _ => paid tail⟩
  | onAir => exact ⟨samePtt.trans ptt, sameRem.trans tracks.2⟩

def Emitted (c : Call) (before : Phase) (out : TxOut) : Prop :=
  ∃ phase, Acceptor.accept next before (out.actions.map fun action => (c, action)) = some phase ∧
    Tracks out.state phase

theorem tracks_prepare (c : Call) {s : AudioState} {phase : Phase} (tracks : Tracks s phase) :
    Tracks (c.prepare s) phase := by
  cases phase <;> exact tracks

theorem tracks_paid {s : AudioState} {phase : Phase} (tracks : Tracks s phase)
    (ptt : s.queuePtt = true) (tail : 0 < s.txTailRem) : s.txDelayRem ≤ 0 := by
  cases phase with
  | idle => exact absurd rfl (tracks.keyed ptt)
  | delaying owed =>
      have := tracks.2.2.2 tail
      have := tracks.2.1
      omega
  | onAir => exact Int.le_of_eq tracks.2

theorem runPass_emits (c : Call) {s : AudioState} {phase : Phase} (tracks : Tracks s phase)
    (rate : 0 < c.sampleRate) (delay : s.txDelayMs = c.txDelayMs) :
    Emitted c phase (runPass c.inp c.sampleRate c.frameSamples
      (openPass s c.inp c.sampleRate c.frameSamples)) := by
  have emits : Emits c phase (openPass s c.inp c.sampleRate c.frameSamples) :=
    feedDelay_emits (startPtt_emits c tracks rate delay _) _
  have live : (openPass s c.inp c.sampleRate c.frameSamples).state.queuePtt = true →
      0 < (openPass s c.inp c.sampleRate c.frameSamples).state.txTailRem →
      s.queuePtt = true ∧ 0 < s.txTailRem ∧
        openPass s c.inp c.sampleRate c.frameSamples = ⟨s, [], c.inp.playWritable⟩ := by
    intro ptt tail
    obtain ⟨ptt, tail⟩ := openPass_tail ptt tail
    exact ⟨ptt, tail, openPass_live ptt (tracks_paid tracks ptt tail)⟩
  generalize openPass s c.inp c.sampleRate c.frameSamples = p at emits live
  unfold runPass
  by_cases drains : drains c.inp p = true
  · rw [if_pos drains]
    have ready := drains
    simp only [AudioTick.drains, Bool.and_eq_true, decide_eq_true_eq] at ready
    have ptt := ready.1.1.1.1
    have keeps := drainFrame_keeps c.inp c.frameSamples p
    by_cases cancels : 0 < p.state.txTailRem ∧ 0 < c.inp.queueDepth
    · obtain ⟨wasPtt, wasTail, same⟩ := live ptt cancels.1
      have cancelled := cancelTail_emits tracks wasPtt wasTail
        (keeps.1.trans (by rw [same])) (keeps.2.1.trans (by rw [same]))
        (keeps.2.2.trans (by rw [same])) cancels.2
      exact ⟨phase, by rw [cancelled.1]; rfl, cancelled.2⟩
    · rw [cancelTail_off]
      · exact drainFrame_emits emits ptt ready.1.1.1.2 c.frameSamples
      · intro _ tail depth
        exact cancels ⟨keeps.2.2 ▸ tail, depth⟩
  · rw [if_neg drains]
    by_cases emptied : queueEmptied c.inp p = true
    · rw [if_pos emptied]
      simp only [queueEmptied, Bool.and_eq_true, decide_eq_true_eq] at emptied
      have ended := endQueue_emits emits emptied.1.1.1 emptied.1.1.2
      split
      · rename_i p' reruns
        rw [reruns] at ended
        exact ended
      · rename_i p' goesOn
        rw [goesOn] at ended
        rw [cancelTail_off fun _ _ => by omega]
        exact ended
    · rw [if_neg emptied, cancelTail_off]
      · exact emits
      · intro ptt tail depth
        obtain ⟨wasPtt, wasTail, same⟩ := live ptt tail
        have paid := tracks_paid tracks wasPtt wasTail
        exact drains (by simp [AudioTick.drains, same, wasPtt, paid, hasWork, depth, txActionsMax])

theorem tick_emits (c : Call) {s : AudioState} {phase : Phase} (tracks : Tracks s phase) :
    Emitted c phase (c.tick s) := by
  have tracks := tracks_prepare c tracks
  unfold Call.tick audioTickTx
  by_cases invalid : c.sampleRate ≤ 0 ∨ c.frameSamples ≤ 0
  · rw [if_pos invalid]
    exact ⟨phase, rfl, tracks⟩
  by_cases paused : queuePaused (c.prepare s) c.inp = true
  · rw [if_neg invalid, if_pos paused]
    exact ⟨phase, rfl, tracks⟩
  rw [if_neg invalid, if_neg paused]
  exact runPass_emits c tracks (by omega) rfl

end Kerchunk.AudioTick
