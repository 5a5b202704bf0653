import Kerchunk.Shell.Idle

set_option autoImplicit false

namespace Kerchunk.Shell

open Queue (Item)
open AudioTick (Call)

/-! ## Pending drains -/

def Armed (s : System) : Prop :=
  -- The drains that the thread has still to carry out are of whole frames.
  ∀ txPass actions rerun, s.pc = .acting txPass actions rerun →
    ∀ samples, .drain samples ∈ actions → 0 < samples

theorem armed_step (s : System) (e : Event) (armed : Armed s) : Armed (step s e) := by
  intro txPass actions rerun acting samples member
  cases e with
  | produce request => exact armed txPass actions rerun acting samples member
  | readDepth =>
      unfold step at acting
      cases at_ : s.pc with
      | sampling _ => simp [at_] at acting
      | depthRead _ _ => simp [at_] at acting
      | acting _ _ _ => exact armed txPass actions rerun (by simpa [at_] using acting) samples member
  | tick c =>
      unfold step at acting
      cases at_ : s.pc with
      | sampling _ => simp [at_] at acting
      | depthRead pass depth =>
          simp only [at_, callTick, Pc.acting.injEq] at acting
          obtain ⟨_, rfl, _⟩ := acting
          exact AudioTick.drain_positive member
      | acting _ _ _ => exact armed txPass actions rerun (by simpa [at_] using acting) samples member
  | act =>
      have acting : (act s).pc = .acting txPass actions rerun := acting
      unfold act at acting
      cases at_ : s.pc with
      | sampling _ => simp [at_] at acting
      | depthRead _ _ => simp [at_] at acting
      | acting pass pending again =>
          have known := armed pass pending again at_
          cases pending with
          | nil =>
              simp only [at_, nextPass] at acting
              split at acting <;> cases acting
          | cons action rest =>
              have rest_eq : rest = actions := by
                cases action <;> simp_all
              exact known samples (List.mem_cons_of_mem _ (rest_eq ▸ member))

theorem armed_run {s : System} (armed : Armed s) (events : List Event) :
    Armed (Machine.run step s events) :=
  Machine.run_holds step armed_step armed

/-! ## A settled queue restores priority -/

theorem first_sounding {items skipped rest : List Item} {item : Item}
    (split : items = skipped ++ item :: rest) (blank : ∀ other ∈ skipped, other.blank)
    (sound : ¬ item.blank) : items.find? (fun other => !decide other.blank) = some item := by
  have none : skipped.find? (fun other => !decide other.blank) = none := by
    simpa using blank
  rw [split, List.find?_append, none, Option.none_or, List.find?_cons_of_pos (by simpa using sound)]

theorem fresh_opens {q : Queue.State} (fresh : Fresh q) (sound : Sound q) {maxN : Nat}
    (asked : 0 < maxN) {skipped rest : List Item} {item : Item}
    (split : q.head = skipped ++ item :: rest) (blank : ∀ other ∈ skipped, other.blank)
    (sounding : ¬ item.blank) : (Queue.drain q maxN).1 = openingFrame item maxN := by
  -- An idle queue opens with the audio of the first item that has any.
  obtain ⟨_, quiet, noGap⟩ := fresh.idle
  have first := first_sounding split blank sounding
  rcases Queue.ensureLoaded_cases q sound.data with ⟨draining, _⟩ | ⟨_, allBlank, _⟩ |
    ⟨_, skipped', item', rest', split', blank', sounding', ready⟩
  · simp [quiet] at draining
  · exact absurd (allBlank item (by simp [split])) sounding
  · have same : item' = item := by
      have first' := first_sounding split' blank' sounding'
      exact Option.some.inj (first'.symm.trans first)
    subst same
    have body : item'.buf.take (min (item'.buf.length - 0) maxN) = item'.buf.take maxN := by
      rw [List.take_eq_take_iff]
      omega
    simp only [Queue.drain, Nat.ne_of_gt asked, if_false, noGap, Nat.lt_irrefl, ready,
      Queue.drainBody, Queue.started, Queue.startDrain, List.drop_zero, body, openingFrame]
    congr 2
    omega

theorem fresh_pull {q : Queue.State} (fresh : Fresh q) (sound : Sound q) {maxN : Nat}
    (asked : 0 < maxN) :
    Playing (q.head.map Item.id) (Queue.popped q (Queue.drain q maxN).2) (Queue.drain q maxN).2 := by
  obtain ⟨_, quiet, noGap⟩ := fresh.idle
  have takes := drain_takes sound maxN
  refine ⟨sound_drain sound maxN, ?_⟩
  rcases Queue.drain_queue_cases q sound.data maxN with ⟨none, _⟩ | ⟨_, gap, _⟩ |
    ⟨_, _, draining, _⟩ | ⟨_, _, _, silent⟩ | ⟨_, _, _, skipped, item, rest, _, _, _, eq⟩
  · omega
  · omega
  · simp [quiet] at draining
  · left
    have line := takes.line
    rw [silent.head, List.append_nil] at line
    rw [line]
  · right
    refine ⟨?_, ?_⟩
    · rw [eq]
      exact (Queue.drainAdvance_line _ _).batch
    · rw [takes.line]

theorem restored_of_idle {s : System} (quiet : Quiet s) (sound : Sound s.queue) (armed : Armed s)
    (idle : Queue.Idle s.queue) : Restored s := by
  have fresh : Fresh s.queue := by
    refine ⟨idle, ?_, ?_⟩ <;> simp [InPriorityOrder, quiet.1]
  have soundAfter : ∀ events, Sound (Machine.run step s events).queue := fun events =>
    Machine.run_holds step sound_step sound
  refine ⟨?_, ?_, ?_⟩
  · intro adds keeps silent
    exact (fresh_run fresh keeps silent).1.ordered
  · intro adds keeps silent maxN skipped item rest asked split blank sounding
    exact fresh_opens (fresh_run fresh keeps silent).1 (soundAfter adds) asked split blank sounding
  · intro adds first later keeps silent pulls
    have keepsAdds : ∀ e ∈ adds, e.removes = false := fun e member =>
      keeps e (List.mem_append_left _ member)
    have keepsLater : ∀ e ∈ later, e.removes = false := fun e member =>
      keeps e (by simp [member])
    obtain ⟨freshEnd, popped⟩ := fresh_run fresh keepsAdds silent
    have armedEnd := armed_run armed adds
    have soundEnd := soundAfter adds
    rw [Machine.run_append, Machine.run_cons, Machine.run_nil] at pulls
    rw [Machine.run_append, Machine.run_cons]
    generalize Machine.run step s adds = t at *
    rcases step_cases t first with ⟨_, _, eq⟩ | ⟨txPass, samples, rest, rerun, _, acting, eq⟩ |
      ⟨_, _, same⟩
    · rw [eq] at pulls
      have pulls : t.drains = s.drains + 1 := pulls
      omega
    · have asked : 0 < samples.toNat := by
        have := armedEnd txPass _ rerun acting samples (List.mem_cons_self ..)
        omega
      have playing : Playing (t.queue.head.map Item.id)
          (Queue.popped t.queue (Queue.drain t.queue samples.toNat).2) (step t first).queue := by
        rw [eq]
        exact fresh_pull freshEnd soundEnd asked
      obtain ⟨more, grown, final⟩ := playing_run playing keepsLater
      have taken : (Machine.run step (step t first) later).popped.drop s.popped.length =
          Queue.popped t.queue (Queue.drain t.queue samples.toNat).2 ++ more := by
        rw [grown, eq]
        show (t.popped ++ _ ++ more).drop _ = _
        rw [popped, List.append_assoc, List.drop_left]
      rw [taken]
      rcases final.order with done | ⟨_, order⟩
      · rw [List.map_append]
        exact done.trans (List.prefix_append _ _)
      · exact order
    · omega

/-! ## An unsettled queue does not -/

def lowThenHigh : List Event :=
  [.produce (.addBuffer [1] 0 0), .produce (.addBuffer [1] 1 0)]

theorem produce_addBuffer_late {q : Queue.State} (room : q.count < Queue.maxQueueDepth)
    (busy : ¬ Queue.Idle q) (priority : Int) :
    Queue.produce q (.addBuffer [1] priority 0) =
      { q with
        nextId := q.nextId + 1
        head := q.head ++ [⟨.audioBuffer, priority, q.nextId, 0, [], [1]⟩]
        count := q.count + 1 } := by
  have space : ¬ q.count ≥ Queue.maxQueueDepth := by omega
  show (Queue.addItem q ⟨.audioBuffer, priority, 0, 0, [], [1]⟩).2 = _
  rw [Queue.addItem_eq, if_neg space, Queue.place, if_neg busy]

theorem low_before_high {s : System} (quiet : Quiet s) (sound : Sound s.queue)
    (busy : ¬ Queue.Idle s.queue) :
    ¬ InPriorityOrder (Machine.run step s lowThenHigh).queue.head := by
  have count : s.queue.count = 0 := by simp [sound.count, quiet.1]
  have first := produce_addBuffer_late (by simp [count, Queue.maxQueueDepth]) busy 0
  have second := produce_addBuffer_late (q := Queue.produce s.queue (.addBuffer [1] 0 0))
    (by simp [first, count, Queue.maxQueueDepth]) (by rw [first]; exact busy) 1
  have head : (Machine.run step s lowThenHigh).queue.head =
      [⟨.audioBuffer, 0, s.queue.nextId, 0, [], [1]⟩,
        ⟨.audioBuffer, 1, s.queue.nextId + 1, 0, [], [1]⟩] := by
    show (Queue.produce (Queue.produce s.queue (.addBuffer [1] 0 0)) (.addBuffer [1] 1 0)).head = _
    rw [second, first]
    simp [quiet.1]
  rw [head]
  simp [InPriorityOrder, StableInsert.Before]

theorem restored_iff {s : System} (quiet : Quiet s) (sound : Sound s.queue) (armed : Armed s) :
    Restored s ↔ s.queue.batchActive = false ∧ s.queue.gapRemaining = 0 := by
  constructor
  · intro restored
    by_contra unsettled
    have busy : ¬ Queue.Idle s.queue := fun idle => unsettled ⟨idle.1, idle.2.2⟩
    refine low_before_high quiet sound busy (restored.ordered lowThenHigh ?_ rfl)
    simp [lowThenHigh, Event.removes]
  · rintro ⟨batch, gap⟩
    exact restored_of_idle quiet sound armed ⟨batch, quiet.2.1, gap⟩

/-! ## Runs that leave the queue settled -/

def lastFrame (q : Queue.State) (maxN : Nat) : Bool :=
  -- This drain would play the last queued item to its end.
  decide (q.gapRemaining = 0) &&
    if q.draining && decide (q.drainPos < q.drainLen) then
      q.head.isEmpty && decide (q.drainLen - q.drainPos ≤ maxN)
    else
      match q.head.dropWhile fun item => decide item.blank with
      | [item] => decide (item.buf.length ≤ maxN)
      | _ => false

def Pc.pull : Pc → Option Int
  -- The drain that the thread is about to carry out.
  | .acting _ (.drain samples :: _) _ => some samples
  | _ => none

def LeavesSettled (s : System) : Event → Prop
  -- No drain plays the queue dry, and no flush comes between two items of a batch.
  | .produce .flush => s.queue.gapRemaining = 0
  | .act => ∀ samples ∈ s.pc.pull, lastFrame s.queue samples.toNat = false
  | _ => True

instance (s : System) : (e : Event) → Decidable (LeavesSettled s e)
  | .produce .flush => inferInstanceAs (Decidable (_ = _))
  | .act => inferInstanceAs (Decidable (∀ _ ∈ s.pc.pull, _))
  | .produce (.addFile ..) | .produce (.addBuffer ..) | .produce (.addTone ..)
  | .produce (.addSilence ..) | .produce (.tagItem ..) | .produce .preempt
  | .readDepth | .tick _ => inferInstanceAs (Decidable True)

def Settled (q : Queue.State) : Prop :=
  -- A batch or a gap is only pending while there is more to play.
  q.batchActive = true ∨ 0 < q.gapRemaining → q.head ≠ [] ∨ q.draining = true

theorem settled_produce {q : Queue.State} (settled : Settled q) (request : Queue.Producer)
    (flushes : request = .flush → q.gapRemaining = 0) : Settled (Queue.produce q request) := by
  by_cases keeps : (Event.produce request).removes = false
  · rcases produce_adds keeps q with ⟨built, plain, added⟩ | ⟨id, source, tagged⟩
    · rw [added]
      rcases addBuilt_cases q built plain with same | refused | ⟨item, _, _, placed⟩
      · rw [same]
        exact settled
      · rw [refused]
        exact settled
      · rw [placed]
        intro _
        left
        show Queue.place q item ≠ []
        intro empty
        have member := (Queue.place_perm q item).mem_iff.mpr (List.mem_cons_self ..)
        simp [empty] at member
    · rw [tagged]
      intro pending
      refine (settled pending).imp_left ?_
      intro waiting empty
      have ids := tagFirst_ids id source q.head
      rw [show Queue.tagFirst id source q.head = [] from empty] at ids
      exact waiting (List.map_eq_nil_iff.mp ids.symm)
  · cases request with
    | flush =>
        intro pending
        rcases pending with batch | gap
        · cases batch
        · have gap : 0 < q.gapRemaining := gap
          have := flushes rfl
          omega
    | preempt =>
        intro pending
        rcases pending with batch | gap
        · cases batch
        · exact absurd gap (Nat.lt_irrefl 0)
    | _ => exact absurd rfl keeps

theorem dropWhile_blank {skipped : List Item} {item : Item} (rest : List Item)
    (blank : ∀ other ∈ skipped, other.blank) (sounding : ¬ item.blank) :
    (skipped ++ item :: rest).dropWhile (fun other => decide other.blank) = item :: rest := by
  rw [List.dropWhile_append_of_pos (by simpa using blank)]
  simp [sounding]

theorem drainAdvance_settled {q : Queue.State} {maxN : Nat} (draining : q.draining = true)
    (more : q.head = [] → ¬ q.drainLen - q.drainPos ≤ maxN) :
    Settled (Queue.drainAdvance q maxN) := by
  -- A frame that is not the last leaves something to play.
  intro _
  by_cases reached : Queue.reaches q maxN ≥ q.drainLen
  · left
    rw [(Queue.drainAdvance_line q maxN).head]
    intro empty
    have := more empty
    unfold Queue.reaches at reached
    omega
  · right
    rw [Queue.drainAdvance_goes_on (Nat.lt_of_not_le reached)]
    exact draining

theorem settled_drain {q : Queue.State} (settled : Settled q) (sound : Sound q) {maxN : Nat}
    (more : lastFrame q maxN = false) : Settled (Queue.drain q maxN).2 := by
  rcases Queue.drain_queue_cases q sound.data maxN with ⟨_, none⟩ | ⟨_, gap, eq⟩ |
    ⟨_, noGap, draining, short, eq⟩ | ⟨_, noGap, _, silent⟩ |
    ⟨_, noGap, finished, skipped, item, rest, split, blank, sounding, eq⟩
  · rw [none]
    exact settled
  · rw [eq]
    intro _
    exact settled (.inr gap)
  · rw [eq]
    refine drainAdvance_settled draining fun empty => ?_
    simpa [lastFrame, noGap, draining, short, empty] using more
  · intro pending
    rcases pending with batch | gap
    · simp [silent.batch] at batch
    · have none : (Queue.drain q maxN).2.gapRemaining = 0 := silent.gap.trans noGap
      omega
  · rw [eq]
    refine drainAdvance_settled rfl ?_
    intro (empty : rest = [])
    have notMid : (q.draining && decide (q.drainPos < q.drainLen)) = false := by
      cases draining : q.draining with
      | false => rfl
      | true => simpa using finished draining
    have next := dropWhile_blank rest blank sounding
    rw [← split] at next
    simp only [lastFrame, noGap, notMid, next, empty, decide_true, Bool.true_and,
      Bool.false_eq_true, if_false] at more
    show ¬ item.buf.length - 0 ≤ maxN
    simpa using more

theorem settled_step (s : System) (e : Event) (kept : Settled s.queue ∧ Sound s.queue)
    (leaves : LeavesSettled s e) : Settled (step s e).queue ∧ Sound (step s e).queue := by
  refine ⟨?_, sound_step s e kept.2⟩
  rcases step_cases s e with ⟨request, isProduce, eq⟩ |
    ⟨txPass, samples, rest, rerun, isAct, acting, eq⟩ | ⟨same, _, _⟩
  · rw [eq]
    refine settled_produce kept.1 request ?_
    rintro rfl
    rw [isProduce] at leaves
    exact leaves
  · rw [eq]
    refine settled_drain kept.1 kept.2 ?_
    rw [isAct] at leaves
    exact leaves samples (by rw [acting]; rfl)
  · rw [same]
    exact kept.1

/-- At every quiet moment of a run that never plays the queue dry nor flushes inside a gap,
priority order is restored; and at any quiet moment it is restored exactly when no batch flag or
gap is left over. -/
theorem quiet_restores_priority (rate : Nat) (events : List Event) :
    (Machine.Guarded step LeavesSettled (start rate) events →
      Quiet (Machine.run step (start rate) events) →
      Restored (Machine.run step (start rate) events)) ∧
    (Quiet (Machine.run step (start rate) events) →
      (Restored (Machine.run step (start rate) events) ↔
        (Machine.run step (start rate) events).queue.batchActive = false ∧
          (Machine.run step (start rate) events).queue.gapRemaining = 0)) := by
  have sound := sound_run rate events
  have armed : Armed (Machine.run step (start rate) events) := by
    refine armed_run ?_ events
    intro txPass actions rerun acting
    cases acting
  refine ⟨fun guarded quiet => ?_, fun quiet => restored_iff quiet sound armed⟩
  rw [restored_iff quiet sound armed]
  have initial : Settled (start rate).queue ∧ Sound (start rate).queue := by
    refine ⟨?_, sound_run rate []⟩
    rintro (batch | gap)
    · cases batch
    · exact absurd gap (Nat.lt_irrefl 0)
  obtain ⟨settled, _⟩ := Machine.run_invariant step settled_step initial guarded
  by_contra unsettled
  have pending : (Machine.run step (start rate) events).queue.batchActive = true ∨
      0 < (Machine.run step (start rate) events).queue.gapRemaining := by
    by_contra none
    simp only [not_or, Bool.not_eq_true, Nat.not_lt, Nat.le_zero] at none
    exact unsettled none
  rcases settled pending with waiting | draining
  · exact waiting quiet.1
  · simp [quiet.2.1] at draining

/-! ## A transmission that plays out, and one that is preempted -/

def quickCall : Call where
  sampleRate := 8000
  frameSamples := 2
  txDelayMs := 0
  txTailMs := 0
  relayDrain := 0
  inp := ⟨false, false, 0, false, 100, 0, 0⟩

def pass (acts : Nat) : List Event :=
  [.readDepth, .tick quickCall] ++ List.replicate acts .act

def playedOut : List Event :=
  -- `[1, 2]` plays out and PTT is released after the tail.
  .produce (.addBuffer [1, 2] 0 0) :: (pass 4 ++ pass 2 ++ pass 1 ++ pass 1 ++ pass 2)

theorem played_out_not_restored :
    ¬ ∀ rate events, Quiet (Machine.run step (start rate) events) →
      Restored (Machine.run step (start rate) events) := by
  intro always
  have restored := always 8000 playedOut (by decide)
  exact absurd (restored.ordered lowThenHigh (by decide) (by decide)) (by decide)

def preempted : List Event :=
  -- `[1, 2, 3]` is preempted after its first frame.
  .produce (.addBuffer [1, 2, 3] 0 0) ::
    (pass 4 ++ .produce .preempt :: (pass 2 ++ pass 1 ++ pass 1 ++ pass 2))

theorem preempted_restored : Restored (Machine.run step (start 8000) preempted) :=
  (quiet_restores_priority 8000 preempted).1 (by decide) (by decide)

end Kerchunk.Shell
