import Kerchunk.AudioTick.Transmission
import Mathlib.Data.List.Chain
import Mathlib.Data.List.Induction

set_option autoImplicit false

namespace Kerchunk.AudioTick

def Action.isPtt : Action → Bool
  | .assertPtt | .releasePtt => true
  | _ => false

def Action.isDrain : Action → Bool
  | .drain _ => true
  | _ => false

def Action.delaySamples : Action → Int
  | .silence .txDelay samples => samples
  | _ => 0

def Action.isTail : Action → Bool
  | .silence .txTail _ => true
  | _ => false

def ptts (log : List Entry) : List Action :=
  (log.map Prod.snd).filter Action.isPtt

def Keyed (log : List Entry) : Prop :=
  -- The last PTT action of the log is an assertion.
  (ptts log).getLast? = some .assertPtt

structure Lifecycle (air : Air) : Prop where
  alternates : (ptts (entries air.log)).IsChain (· ≠ ·)
  assertsFirst : ∀ action ∈ (ptts (entries air.log)).head?, action = .assertPtt
  queuePtt : air.state.queuePtt = true ↔ Keyed (entries air.log)
  whileKeyed : ∀ before entry after, entries air.log = before ++ entry :: after →
    entry.2.isPtt = false → Keyed before
  delay : ∀ before c between c' samples after,
    entries air.log = before ++ (c, .assertPtt) :: (between ++ (c', .drain samples) :: after) →
    (∀ entry ∈ between, entry.2.isPtt = false ∧ entry.2.isDrain = false) →
    (between.map fun entry => entry.2.delaySamples).sum =
      if c.inp.pttHeld then 0 else c.sampleRate * c.txDelayMs / 1000
  tailWhenEmpty : ∀ entry ∈ entries air.log, entry.2.isTail = true →
    entry.1.inp.queueDepth = 0 ∧ entry.1.inp.queueIsDraining = false
  oneDrain : ∀ pass ∈ air.log, pass.2.countP Action.isDrain ≤ 1

/-! ## What accepted logs look like -/

theorem next_cases {phase after : Phase} {entry : Entry} (moves : next phase entry = some after) :
    (entry.2 = .assertPtt ∧ phase = .idle ∧ after = .delaying (due entry.1)) ∨
    (entry.2 = .releasePtt ∧ phase ≠ .idle ∧ after = .idle) ∨
    (entry.2.isPtt = false ∧ phase ≠ .idle ∧ after ≠ .idle) := by
  obtain ⟨c, _ | _ | _ | ⟨_ | _, _⟩ | _ | _⟩ := entry <;> cases phase <;>
    grind [next, Action.isPtt]

theorem ptts_snoc (log : List Entry) (entry : Entry) :
    ptts (log ++ [entry]) = ptts log ++ if entry.2.isPtt then [entry.2] else [] := by
  unfold ptts
  rw [List.map_append, List.filter_append, List.map_singleton, List.filter_singleton,
    Bool.cond_eq_ite]

/-- An accepted log asserts and releases in turn, and its phase says which was last. -/
structure Turns (log : List Entry) (phase : Phase) : Prop where
  alternates : (ptts log).IsChain (· ≠ ·)
  first : ∀ action ∈ (ptts log).head?, action = .assertPtt
  keyed : phase ≠ .idle ↔ Keyed log

theorem accepted_turns {log : List Entry} {phase : Phase}
    (accepted : Acceptor.accept next .idle log = some phase) : Turns log phase := by
  induction log using List.reverseRecOn generalizing phase with
  | nil =>
      cases accepted
      exact ⟨List.IsChain.nil, by simp [ptts], by simp [Keyed, ptts]⟩
  | append_singleton log entry ih =>
      obtain ⟨held, moved, earlier, moves, last⟩ := Acceptor.accept_split next accepted
      cases last
      have turns := ih earlier
      have extended := ptts_snoc log entry
      rcases next_cases moves with ⟨asserts, idle, rfl⟩ | ⟨releases, keyed, rfl⟩ |
        ⟨plain, keyed, keyed'⟩
      · have unkeyed : ¬ Keyed log := fun keyed => turns.keyed.mpr keyed idle
        rw [asserts, show Action.isPtt .assertPtt = true from rfl, if_pos rfl] at extended
        refine ⟨?_, ?_, ?_⟩
        · rw [extended]
          refine turns.alternates.append (List.IsChain.singleton _) ?_
          intro previous isLast action isFirst same
          simp only [List.head?_cons, Option.mem_def, Option.some.injEq] at isFirst
          exact unkeyed (by rw [Keyed, Option.mem_def.mp isLast, same, isFirst])
        · intro action isFirst
          rw [extended, List.head?_append] at isFirst
          cases known : (ptts log).head? with
          | none => simpa [known] using isFirst.symm
          | some before =>
              have : before = action := by simpa [known] using isFirst
              exact this ▸ turns.first before known
        · simp [Keyed, extended]
      · have wasKeyed := turns.keyed.mp keyed
        rw [releases, show Action.isPtt .releasePtt = true from rfl, if_pos rfl] at extended
        refine ⟨?_, ?_, ?_⟩
        · rw [extended]
          refine turns.alternates.append (List.IsChain.singleton _) ?_
          intro previous isLast action isFirst same
          simp only [List.head?_cons, Option.mem_def, Option.some.injEq] at isFirst
          rw [Keyed, Option.mem_def.mp isLast, same, ← isFirst] at wasKeyed
          cases wasKeyed
        · intro action isFirst
          rw [extended, List.head?_append] at isFirst
          cases known : (ptts log).head? with
          | none =>
              rw [List.head?_eq_none_iff] at known
              simp [Keyed, known] at wasKeyed
          | some before =>
              have : before = action := by simpa [known] using isFirst
              exact this ▸ turns.first before known
        · simp [Keyed, extended]
      · rw [plain, if_neg Bool.false_ne_true, List.append_nil] at extended
        refine ⟨extended ▸ turns.alternates, extended ▸ turns.first, ?_⟩
        rw [Keyed, extended]
        exact ⟨fun _ => turns.keyed.mp keyed, fun _ => keyed'⟩

theorem next_between (owed : Int) (c : Call) {action : Action} (notPtt : action.isPtt = false)
    (notDrain : action.isDrain = false) :
    next (.delaying owed) (c, action) = some (.delaying (owed - action.delaySamples)) := by
  cases action with
  | silence purpose samples => cases purpose <;> simp [next, Action.delaySamples]
  | assertPtt => cases notPtt
  | releasePtt => cases notPtt
  | drain samples => cases notDrain
  | fireDrain => simp [next, Action.delaySamples]
  | fireComplete ms => simp [next, Action.delaySamples]

theorem accept_between {owed : Int} {between : List Entry} {phase : Phase}
    (accepted : Acceptor.accept next (.delaying owed) between = some phase)
    (quiet : ∀ entry ∈ between, entry.2.isPtt = false ∧ entry.2.isDrain = false) :
    phase = .delaying (owed - (between.map fun entry => entry.2.delaySamples).sum) := by
  -- Between the assertion and the first drain only delay silence is paid for.
  induction between generalizing owed with
  | nil =>
      cases accepted
      simp
  | cons entry rest ih =>
      obtain ⟨c, action⟩ := entry
      have plain := quiet _ (List.mem_cons_self ..)
      rw [Acceptor.accept_cons, next_between owed c plain.1 plain.2, Option.bind_some] at accepted
      rw [ih accepted fun later member => quiet later (List.mem_cons_of_mem _ member)]
      simp only [List.map_cons, List.sum_cons]
      congr 1
      omega

/-! ## What one call may contain -/

/-- At most one drain, and tail silence only when the queue was found empty. -/
structure Fair (inp : TxIn) (actions : List Action) : Prop where
  drains : actions.countP Action.isDrain ≤ 1
  tails : ∀ action ∈ actions, action.isTail = true →
    inp.queueDepth = 0 ∧ inp.queueIsDraining = false

def Undrained (actions : List Action) : Prop :=
  ∀ action ∈ actions, action.isDrain = false

theorem Undrained.count {actions : List Action} (undrained : Undrained actions) :
    actions.countP Action.isDrain = 0 := by
  rw [List.countP_eq_zero]
  intro action member
  simp [undrained action member]

theorem mem_pushAction {actions : List Action} {pushed action : Action}
    (member : action ∈ pushAction actions pushed) : action ∈ actions ∨ action = pushed := by
  unfold pushAction at member
  split_ifs at member
  · exact .inl member
  · simpa using member

theorem Undrained.push {actions : List Action} (undrained : Undrained actions) {pushed : Action}
    (plain : pushed.isDrain = false) : Undrained (pushAction actions pushed) := by
  intro action member
  rcases mem_pushAction member with old | rfl
  · exact undrained action old
  · exact plain

theorem Undrained.silences {actions : List Action} (undrained : Undrained actions)
    (purpose : Purpose) (chunks : List Int) :
    Undrained (actions ++ chunks.map (.silence purpose)) := by
  intro action member
  rcases List.mem_append.mp member with old | fed
  · exact undrained action old
  · obtain ⟨chunk, _, rfl⟩ := List.mem_map.mp fed
    rfl

theorem openPass_plain (s : AudioState) (inp : TxIn) (sampleRate frameSamples : Int) :
    ∀ action ∈ (openPass s inp sampleRate frameSamples).actions,
      action.isDrain = false ∧ action.isTail = false := by
  have opening : ∀ action ∈ (startPtt inp sampleRate ⟨s, [], inp.playWritable⟩).actions,
      action.isDrain = false ∧ action.isTail = false := by
    intro action member
    by_cases starts : (!s.queuePtt && hasWork inp) = true
    · rw [startPtt, if_pos starts] at member
      have member : action ∈ pushAction [] .assertPtt := member
      rcases mem_pushAction member with old | rfl
      · cases old
      · exact ⟨rfl, rfl⟩
    · rw [startPtt, if_neg starts] at member
      cases member
  intro action member
  unfold openPass feedDelay at member
  split_ifs at member
  · rcases List.mem_append.mp member with old | fed
    · exact opening action old
    · obtain ⟨chunk, _, rfl⟩ := List.mem_map.mp fed
      exact ⟨rfl, rfl⟩
  · exact opening action member

theorem mem_drainFrame {inp : TxIn} {p : Pass} {frameSamples : Int} {action : Action}
    (member : action ∈ (drainFrame inp frameSamples p).actions) :
    action ∈ p.actions ∨ action = .fireDrain ∨ action = .drain frameSamples := by
  rcases mem_pushAction member with old | drained
  · unfold fireDrain at old
    split_ifs at old
    · rcases mem_pushAction old with older | rfl
      · exact .inl older
      · exact .inr (.inl rfl)
    · exact .inl old
  · exact .inr (.inr drained)

theorem drainFrame_fair {inp : TxIn} {p : Pass} (frameSamples : Int)
    (plain : ∀ action ∈ p.actions, action.isDrain = false ∧ action.isTail = false) :
    Fair inp (drainFrame inp frameSamples p).actions := by
  have fired : Undrained (fireDrain inp p).actions := by
    unfold fireDrain
    split_ifs
    · exact Undrained.push (fun action member => (plain action member).1) rfl
    · exact fun action member => (plain action member).1
  refine ⟨?_, ?_⟩
  · show (pushAction (fireDrain inp p).actions (.drain frameSamples)).countP Action.isDrain ≤ 1
    unfold pushAction
    split_ifs
    · rw [fired.count]
      exact Nat.zero_le 1
    · rw [List.countP_append, fired.count]
      exact Nat.le_refl 1
  · intro action member isTail
    rcases mem_drainFrame member with old | rfl | rfl
    · simp [(plain action old).2] at isTail
    · cases isTail
    · cases isTail

theorem endQueue_undrained {p : Pass} (undrained : Undrained p.actions) (inp : TxIn)
    (sampleRate frameSamples : Int) :
    Undrained (endQueue inp sampleRate frameSamples p).1.actions := by
  have released : ∀ q : Pass, Undrained q.actions → Undrained (release inp q).actions := by
    intro q before
    unfold release
    dsimp only
    split_ifs
    · exact before.push rfl
    · exact before
    · exact before
  unfold endQueue
  dsimp only
  split_ifs
  · exact undrained.push rfl
  · exact released _ (undrained.silences _ _)
  · exact released _ (undrained.silences _ _)

theorem cancelTail_fair {inp : TxIn} {p : Pass} (fair : Fair inp p.actions) :
    Fair inp (cancelTail inp p).actions := by
  unfold cancelTail
  split_ifs
  · exact ⟨Nat.zero_le 1, by simp⟩
  · exact fair

theorem mem_cancelTail {inp : TxIn} {p : Pass} {action : Action}
    (member : action ∈ (cancelTail inp p).actions) : action ∈ p.actions := by
  unfold cancelTail at member
  split_ifs at member
  · cases member
  · exact member

theorem drain_positive {s : AudioState} {inp : TxIn} {sampleRate frameSamples samples : Int}
    (member : .drain samples ∈ (audioTickTx s inp sampleRate frameSamples).actions) :
    0 < samples := by
  -- A drain is of one whole frame.
  unfold audioTickTx at member
  split_ifs at member with invalid
  · cases member
  · cases member
  have plain := openPass_plain s inp sampleRate frameSamples
  generalize openPass s inp sampleRate frameSamples = p at plain member
  have undrained : Undrained p.actions := fun action member => (plain action member).1
  unfold runPass at member
  split_ifs at member
  · rcases mem_drainFrame (mem_cancelTail member) with old | wrong | same
    · cases undrained _ old
    · cases wrong
    · cases same
      omega
  · have ended := endQueue_undrained undrained inp sampleRate frameSamples
    split at member
    · rename_i p' reruns
      rw [reruns] at ended
      cases ended _ member
    · rename_i p' goesOn
      rw [goesOn] at ended
      cases ended _ (mem_cancelTail member)
  · cases undrained _ (mem_cancelTail member)

theorem tick_fair (c : Call) (s : AudioState) : Fair c.inp (c.tick s).actions := by
  have quiet : Fair c.inp [] := ⟨Nat.zero_le 1, by simp⟩
  unfold Call.tick audioTickTx
  split_ifs
  · exact quiet
  · exact quiet
  have plain := openPass_plain (c.prepare s) c.inp c.sampleRate c.frameSamples
  generalize openPass (c.prepare s) c.inp c.sampleRate c.frameSamples = p at plain
  have undrained : Undrained p.actions := fun action member => (plain action member).1
  unfold runPass
  split_ifs with drains emptied
  · exact cancelTail_fair (drainFrame_fair c.frameSamples plain)
  · have ended := endQueue_undrained undrained c.inp c.sampleRate c.frameSamples
    simp only [queueEmptied, Bool.and_eq_true, decide_eq_true_eq, Bool.not_eq_true'] at emptied
    have fair : Fair c.inp (endQueue c.inp c.sampleRate c.frameSamples p).1.actions :=
      ⟨ended.count ▸ Nat.zero_le 1, fun _ _ _ => ⟨emptied.1.2, emptied.2⟩⟩
    split
    · rename_i p' reruns
      rwa [reruns] at fair
    · rename_i p' goesOn
      rw [goesOn] at fair
      exact cancelTail_fair fair
  · refine cancelTail_fair ⟨undrained.count ▸ Nat.zero_le 1, ?_⟩
    intro action member isTail
    simp [(plain action member).2] at isTail

/-! ## Runs -/

structure Logged (air : Air) : Prop where
  accepted : ∃ phase, Acceptor.accept next .idle (entries air.log) = some phase ∧
    Tracks air.state phase
  fair : ∀ pass ∈ air.log, Fair pass.1.inp pass.2

theorem entries_snoc (log : List (Call × List Action)) (c : Call) (actions : List Action) :
    entries (log ++ [(c, actions)]) = entries log ++ actions.map fun action => (c, action) := by
  simp [entries]

theorem logged_step (air : Air) (c : Call) (logged : Logged air) : Logged (step air c) := by
  obtain ⟨⟨phase, accepted, tracks⟩, fair⟩ := logged
  obtain ⟨after, emitted, tracks'⟩ := tick_emits c tracks
  refine ⟨⟨after, ?_, tracks'⟩, ?_⟩
  · show Acceptor.accept next .idle (entries (air.log ++ [(c, (c.tick air.state).actions)])) = _
    rw [entries_snoc, Acceptor.accept_append, accepted]
    exact emitted
  · intro pass member
    rcases List.mem_append.mp member with old | new
    · exact fair pass old
    · rw [List.mem_singleton.mp new]
      exact tick_fair c air.state

theorem logged_run (calls : List Call) : Logged (Machine.run step start calls) := by
  have initial : Logged start := ⟨⟨.idle, rfl, rfl⟩, fun _ member => by cases member⟩
  exact Machine.run_holds step logged_step initial

theorem tx_lifecycle (calls : List Call) : Lifecycle (Machine.run step start calls) := by
  obtain ⟨⟨phase, accepted, tracks⟩, fair⟩ := logged_run calls
  generalize Machine.run step start calls = air at accepted tracks fair
  have turns := accepted_turns accepted
  exact {
    alternates := turns.alternates
    assertsFirst := turns.first
    queuePtt := by
      rw [← turns.keyed]
      cases phase <;> simp_all [Tracks]
    whileKeyed := by
      intro before entry after split plain
      obtain ⟨held, moved, earlier, moves, _⟩ := Acceptor.accept_split next (split ▸ accepted)
      refine (accepted_turns earlier).keyed.mp ?_
      rcases next_cases moves with ⟨asserts, _, _⟩ | ⟨_, keyed, _⟩ | ⟨_, keyed, _⟩
      · rw [asserts] at plain
        cases plain
      · exact keyed
      · exact keyed
    delay := by
      intro before c between c' samples after split quiet
      obtain ⟨held, asserted, _, asserts, rest⟩ := Acceptor.accept_split next (split ▸ accepted)
      obtain ⟨waiting, drained, paying, drains, _⟩ := Acceptor.accept_split next rest
      rcases next_cases asserts with ⟨_, _, rfl⟩ | ⟨wrong, _⟩ | ⟨wrong, _⟩
      · rw [accept_between paying quiet] at drains
        have settled : due c - (between.map fun entry => entry.2.delaySamples).sum = 0 := by
          by_contra unsettled
          simp [next, unsettled] at drains
        show _ = due c
        omega
      · cases wrong
      · cases wrong
    tailWhenEmpty := by
      intro entry member isTail
      obtain ⟨pass, passIn, inPass⟩ := List.mem_flatMap.mp member
      obtain ⟨action, actionIn, rfl⟩ := List.mem_map.mp inPass
      exact (fair pass passIn).tails action actionIn isTail
    oneDrain := fun pass member => (fair pass member).drains }

end Kerchunk.AudioTick
