import Kerchunk.AudioTick.Lifecycle
import Kerchunk.Lib.Machine
import Kerchunk.Queue.Refinement
import Kerchunk.Shell.Model

set_option autoImplicit false

namespace Kerchunk.Shell

open Queue (Producer Plain Item)

/-! ## What the queue's operations do to it -/

/-- The items are of the types that the adders build, and the counter counts them. -/
structure Sound (q : Queue.State) : Prop where
  data : ∀ item ∈ q.head, item.type = .audioFile ∨ item.type = .audioBuffer
  count : q.count = q.head.length

theorem produce_adds {request : Producer} (keeps : (Event.produce request).removes = false)
    (q : Queue.State) :
    (∃ built, (∀ item, built = some item → Plain item) ∧
      Queue.produce q request = (Queue.addBuilt q built).2) ∨
    ∃ id source, Queue.produce q request = Queue.tagItem q id source := by
  cases request with
  | addFile path priority => exact .inl ⟨_, fun _ => Queue.fileItem_plain, rfl⟩
  | addBuffer buf priority flags => exact .inl ⟨_, fun _ => Queue.bufferItem_plain, rfl⟩
  | addTone freqHz durationMs tone priority => exact .inl ⟨_, fun _ => Queue.toneItem_plain, rfl⟩
  | addSilence durationMs priority => exact .inl ⟨_, fun _ => Queue.silenceItem_plain, rfl⟩
  | tagItem id source => exact .inr ⟨id, source, rfl⟩
  | flush => cases keeps
  | preempt => cases keeps

theorem addBuilt_cases (q : Queue.State) (built : Option Item)
    (plain : ∀ item, built = some item → Plain item) :
    (Queue.addBuilt q built).2 = q ∨
    (Queue.addBuilt q built).2 = { q with nextId := q.nextId + 1 } ∨
    ∃ item, Plain item ∧ item.id = q.nextId ∧ (Queue.addBuilt q built).2 =
      { q with nextId := q.nextId + 1, head := Queue.place q item, count := q.count + 1 } := by
  -- Adding an item changes the list, the counter and the next id.
  cases built with
  | none => exact .inl rfl
  | some item =>
      have itemPlain := plain item rfl
      by_cases full : q.count ≥ Queue.maxQueueDepth
      · exact .inr (.inl (by simp [Queue.addBuilt, Queue.addItem_eq, full]))
      · refine .inr (.inr ⟨{ item with id := q.nextId }, ⟨itemPlain.untagged, itemPlain.data⟩, rfl, ?_⟩)
        simp [Queue.addBuilt, Queue.addItem_eq, full]

theorem mem_tagFirst {id : Nat} {source : List Char} {items : List Item} {item : Item}
    (member : item ∈ Queue.tagFirst id source items) :
    ∃ other ∈ items, other.untagged = item.untagged := by
  have : item.untagged ∈ (Queue.tagFirst id source items).map Item.untagged :=
    List.mem_map_of_mem member
  rw [Queue.tagFirst_untagged] at this
  exact List.mem_map.mp this

theorem tagFirst_ids (id : Nat) (source : List Char) (items : List Item) :
    (Queue.tagFirst id source items).map Item.id = items.map Item.id := by
  have same := congrArg (List.map Item.id) (Queue.tagFirst_untagged id source items)
  rw [List.map_map, List.map_map] at same
  exact same

theorem sound_produce {q : Queue.State} (sound : Sound q) (request : Producer) :
    Sound (Queue.produce q request) := by
  by_cases keeps : (Event.produce request).removes = false
  · rcases produce_adds keeps q with ⟨built, plain, added⟩ | ⟨id, source, tagged⟩
    · rw [added]
      rcases addBuilt_cases q built plain with same | refused | ⟨item, itemPlain, _, placed⟩
      · rw [same]
        exact sound
      · rw [refused]
        exact ⟨sound.data, sound.count⟩
      · rw [placed]
        have perm := Queue.place_perm q item
        refine ⟨?_, ?_⟩
        · intro other member
          rcases List.mem_cons.mp (perm.mem_iff.mp member) with rfl | old
          · exact itemPlain.data
          · exact sound.data other old
        · have length := perm.length_eq
          have count := sound.count
          simp only [List.length_cons] at length
          show q.count + 1 = ((Queue.place q item).length : Int)
          omega
    · rw [tagged]
      refine ⟨?_, ?_⟩
      · intro item member
        obtain ⟨other, otherIn, same⟩ := mem_tagFirst member
        have type : other.untagged.type = item.untagged.type := by rw [same]
        have known : item.type = other.type := type.symm
        rw [known]
        exact sound.data other otherIn
      · have length := congrArg List.length (tagFirst_ids id source q.head)
        simp only [List.length_map] at length
        show q.count = ((Queue.tagFirst id source q.head).length : Int)
        rw [length]
        exact sound.count
  · cases request with
    | flush => exact ⟨by simp [Queue.produce, Queue.flush], rfl⟩
    | preempt => exact ⟨by simp [Queue.produce, Queue.preempt], rfl⟩
    | _ => exact absurd rfl keeps

/-- A drain takes a prefix of the list, and either keeps the batch going or empties the list. -/
structure Takes (q q' : Queue.State) : Prop where
  line : Queue.popped q q' ++ q'.head = q.head
  count : q'.count = q'.head.length
  batch : q.batchActive = true → q'.batchActive = true ∨ q'.head = []

theorem drain_takes {q : Queue.State} (sound : Sound q) (maxN : Nat) :
    Takes q (Queue.drain q maxN).2 := by
  have same : ∀ q' : Queue.State, q'.head = q.head → q'.count = q.count →
      q'.batchActive = q.batchActive → Takes q q' := by
    intro q' head count batch
    refine ⟨?_, ?_, fun was => .inl (batch.trans was)⟩
    · rw [Queue.popped_same head, head, List.nil_append]
    · rw [count, head]
      exact sound.count
  rcases Queue.drain_queue_cases q sound.data maxN with ⟨_, none⟩ | ⟨_, _, gap⟩ | ⟨_, _, _, _, onAir⟩ |
    ⟨_, _, _, silent⟩ | ⟨_, _, _, skipped, item, rest, split, _, _, started⟩
  · rw [none]
    exact same q rfl rfl rfl
  · rw [gap]
    exact same _ rfl rfl rfl
  · rw [onAir]
    have line := Queue.drainAdvance_line q maxN
    exact same _ line.head line.count line.batch
  · refine ⟨?_, ?_, fun _ => .inr silent.head⟩
    · rw [silent.head, List.append_nil]
      exact Queue.popped_append (List.append_nil _).symm silent.head
    · have count := silent.count
      have counted := sound.count
      simp only at count
      rw [count, silent.head, counted]
      simp
  · rw [started]
    have line := Queue.drainAdvance_line
      (Queue.started { q with draining := false } item rest (skipped.length + 1)) maxN
    have head : (Queue.drainAdvance (Queue.started { q with draining := false } item rest
        (skipped.length + 1)) maxN).head = rest := line.head
    refine ⟨?_, ?_, fun _ => .inl line.batch⟩
    · have before : q.head = (skipped ++ [item]) ++ rest := by simp [split]
      rw [Queue.popped_append before head, head, before]
    · have counted := sound.count
      rw [split] at counted
      simp only [List.length_append, List.length_cons] at counted
      rw [line.count, head]
      show q.count - ((skipped.length + 1 : Nat) : Int) = (rest.length : Int)
      omega

theorem sound_drain {q : Queue.State} (sound : Sound q) (maxN : Nat) :
    Sound (Queue.drain q maxN).2 := by
  have takes := drain_takes sound maxN
  refine ⟨fun item member => ?_, takes.count⟩
  apply sound.data
  rw [← takes.line]
  exact List.mem_append_right _ member

/-! ## What a step of the system does to the queue -/

theorem step_cases (s : System) (e : Event) :
    (∃ request, e = .produce request ∧
      step s e = { s with queue := Queue.produce s.queue request }) ∨
    (∃ txPass samples rest rerun, e = .act ∧ s.pc = .acting txPass (.drain samples :: rest) rerun ∧
      step s e = { pullFrame s samples with pc := .acting txPass rest rerun }) ∨
    ((step s e).queue = s.queue ∧ (step s e).popped = s.popped ∧ (step s e).drains = s.drains) := by
  -- The thread pulls a frame, a producer calls the queue, or the queue is left alone.
  cases e with
  | produce request => exact .inl ⟨request, rfl, rfl⟩
  | readDepth =>
      refine .inr (.inr ?_)
      unfold step
      cases s.pc <;> exact ⟨rfl, rfl, rfl⟩
  | tick c =>
      refine .inr (.inr ?_)
      unfold step
      cases s.pc <;> exact ⟨rfl, rfl, rfl⟩
  | act =>
      show _ ∨ (∃ txPass samples rest rerun, _ ∧ _ ∧ act s = _) ∨
        ((act s).queue = _ ∧ (act s).popped = _ ∧ (act s).drains = _)
      unfold act
      cases at_ : s.pc with
      | sampling txPass => exact .inr (.inr ⟨rfl, rfl, rfl⟩)
      | depthRead txPass queueDepth => exact .inr (.inr ⟨rfl, rfl, rfl⟩)
      | acting txPass actions rerun =>
          cases actions with
          | nil => exact .inr (.inr ⟨rfl, rfl, rfl⟩)
          | cons action rest =>
              cases action with
              | drain samples => exact .inr (.inl ⟨txPass, samples, rest, rerun, rfl, rfl, rfl⟩)
              | assertPtt => exact .inr (.inr ⟨rfl, rfl, rfl⟩)
              | fireDrain => exact .inr (.inr ⟨rfl, rfl, rfl⟩)
              | fireComplete ms => exact .inr (.inr ⟨rfl, rfl, rfl⟩)
              | silence purpose samples => exact .inr (.inr ⟨rfl, rfl, rfl⟩)
              | releasePtt => exact .inr (.inr ⟨rfl, rfl, rfl⟩)

def Touched (q q' : Queue.State) : Prop :=
  q' = q ∨ (∃ request, q' = Queue.produce q request) ∨ ∃ maxN, q' = (Queue.drain q maxN).2

theorem step_touches (s : System) (e : Event) : Touched s.queue (step s e).queue := by
  rcases step_cases s e with ⟨request, -, called⟩ | ⟨_, samples, _, _, -, -, pulled⟩ | same
  next => exact .inr (.inl ⟨request, by rw [called]⟩)
  next => exact .inr (.inr ⟨samples.toNat, by rw [pulled]; rfl⟩)
  next => exact .inl same.1

theorem act_moves {s : System} {txPass : Nat} {a : AudioTick.Action} {rest : List AudioTick.Action}
    {rerun : Bool} (pc : s.pc = .acting txPass (a :: rest) rerun) (still : a.isDrain = false) :
    act s = { s with pc := .acting txPass rest rerun } := by
  cases a with
  | drain samples => cases still
  | _ => simp [act, pc]

theorem act_completes {s : System} (fires : s.pc.completes = true) :
    ∃ pc, act s = { s with pc := pc } := by
  unfold Pc.completes at fires
  split at fires
  next txPass ms rest rerun at_ => exact ⟨_, act_moves at_ rfl⟩
  next => cases fires

theorem sound_step (s : System) (e : Event) (sound : Sound s.queue) : Sound (step s e).queue := by
  rcases step_cases s e with ⟨request, _, eq⟩ | ⟨_, samples, _, _, _, _, eq⟩ | ⟨same, _, _⟩
  · rw [eq]
    exact sound_produce sound request
  · rw [eq]
    exact sound_drain sound samples.toNat
  · rw [same]
    exact sound

theorem sound_run (rate : Nat) (events : List Event) :
    Sound (Machine.run step (start rate) events).queue := by
  have initial : Sound (start rate).queue := ⟨by simp [start, Queue.init], rfl⟩
  exact Machine.run_holds step sound_step initial

/-! ## Adding while nothing plays -/

/-- The queue is idle, and what waits in it is in priority order. -/
structure Fresh (q : Queue.State) : Prop where
  idle : Queue.Idle q
  ordered : InPriorityOrder q.head
  older : ∀ item ∈ q.head, item.id < q.nextId

theorem fresh_produce {q : Queue.State} (fresh : Fresh q) {request : Producer}
    (keeps : (Event.produce request).removes = false) : Fresh (Queue.produce q request) := by
  rcases produce_adds keeps q with ⟨built, plain, added⟩ | ⟨id, source, tagged⟩
  · rw [added]
    rcases addBuilt_cases q built plain with same | refused | ⟨item, _, numbered, placed⟩
    · rw [same]
      exact fresh
    · rw [refused]
      exact ⟨fresh.idle, fresh.ordered, fun item member => Nat.lt_succ_of_lt (fresh.older item member)⟩
    · rw [placed]
      refine ⟨fresh.idle, ?_, ?_⟩
      · show InPriorityOrder (Queue.place q item)
        rw [Queue.place, if_pos fresh.idle]
        exact StableInsert.insert_ordered _ _ fresh.ordered fun other member =>
          numbered ▸ fresh.older other member
      · intro other member
        rcases List.mem_cons.mp ((Queue.place_perm q item).mem_iff.mp member) with rfl | old
        · exact numbered ▸ Nat.lt_succ_self _
        · exact Nat.lt_succ_of_lt (fresh.older other old)
  · rw [tagged]
    refine ⟨fresh.idle, ?_, ?_⟩
    · have ordered : (q.head.map Item.untagged).Pairwise
          (StableInsert.Before Item.priority Item.id) := List.pairwise_map.mpr fresh.ordered
      rw [← Queue.tagFirst_untagged id source] at ordered
      have unmapped := List.pairwise_map.mp ordered
      exact unmapped
    · intro item member
      obtain ⟨other, otherIn, same⟩ := mem_tagFirst member
      have sameId : other.untagged.id = item.untagged.id := by rw [same]
      have known : item.id = other.id := sameId.symm
      rw [known]
      exact fresh.older other otherIn

theorem step_drains (s : System) (e : Event) : s.drains ≤ (step s e).drains := by
  rcases step_cases s e with ⟨_, _, eq⟩ | ⟨_, _, _, _, _, _, eq⟩ | ⟨_, _, same⟩
  · rw [eq]
  · rw [eq]
    exact Nat.le_succ _
  · exact Nat.le_of_eq same.symm

theorem run_drains (s : System) (events : List Event) :
    s.drains ≤ (Machine.run step s events).drains := by
  induction events generalizing s with
  | nil => exact Nat.le_refl _
  | cons e rest ih => exact Nat.le_trans (step_drains s e) (ih _)

theorem fresh_run {s : System} (fresh : Fresh s.queue) {adds : List Event}
    (keeps : ∀ e ∈ adds, e.removes = false) (silent : (Machine.run step s adds).drains = s.drains) :
    Fresh (Machine.run step s adds).queue ∧ (Machine.run step s adds).popped = s.popped := by
  -- Until a frame is pulled, adding keeps a fresh queue fresh.
  induction adds generalizing s with
  | nil => exact ⟨fresh, rfl⟩
  | cons e rest ih =>
      have later := run_drains (step s e) rest
      have here := step_drains s e
      rw [Machine.run_cons] at silent ⊢
      have keepsRest : ∀ other ∈ rest, other.removes = false := fun other member =>
        keeps other (List.mem_cons_of_mem _ member)
      rcases step_cases s e with ⟨request, isProduce, eq⟩ | ⟨_, samples, _, _, _, _, eq⟩ |
        ⟨queue, popped, drains⟩
      · have fresh' : Fresh (step s e).queue := by
          rw [eq]
          exact fresh_produce fresh (isProduce ▸ keeps e (List.mem_cons_self ..))
        have popped : (step s e).popped = s.popped := by rw [eq]
        obtain ⟨freshEnd, poppedEnd⟩ := ih fresh' keepsRest (by omega)
        exact ⟨freshEnd, poppedEnd.trans popped⟩
      · have pulled : (step s e).drains = s.drains + 1 := by
          rw [eq]
          rfl
        omega
      · obtain ⟨freshEnd, poppedEnd⟩ := ih (queue ▸ fresh) keepsRest (by omega)
        exact ⟨freshEnd, poppedEnd.trans popped⟩

/-! ## Playing what was added -/

/-- `line` has been taken in order, or is being taken while later items queue behind it. -/
structure Playing (line : List Nat) (taken : List Item) (q : Queue.State) : Prop where
  sound : Sound q
  order : line <+: taken.map Item.id ∨
    q.batchActive = true ∧ line <+: (taken ++ q.head).map Item.id

theorem playing_produce {line : List Nat} {taken : List Item} {q : Queue.State}
    (playing : Playing line taken q) {request : Producer}
    (keeps : (Event.produce request).removes = false) :
    Playing line taken (Queue.produce q request) := by
  refine ⟨sound_produce playing.sound request, playing.order.imp id ?_⟩
  rintro ⟨batch, order⟩
  rcases produce_adds keeps q with ⟨built, plain, added⟩ | ⟨id, source, tagged⟩
  · rw [added]
    rcases addBuilt_cases q built plain with same | refused | ⟨item, _, _, placed⟩
    · rw [same]
      exact ⟨batch, order⟩
    · rw [refused]
      exact ⟨batch, order⟩
    · rw [placed]
      refine ⟨batch, ?_⟩
      have busy : ¬ Queue.Idle q := fun idle => by simp [idle.1] at batch
      show line <+: (taken ++ Queue.place q item).map Item.id
      rw [Queue.place, if_neg busy, ← List.append_assoc, List.map_append]
      exact order.trans (List.prefix_append _ _)
  · rw [tagged]
    refine ⟨batch, ?_⟩
    show line <+: (taken ++ Queue.tagFirst id source q.head).map Item.id
    rw [List.map_append, tagFirst_ids, ← List.map_append]
    exact order

theorem playing_drain {line : List Nat} {taken : List Item} {q : Queue.State}
    (playing : Playing line taken q) (maxN : Nat) :
    Playing line (taken ++ Queue.popped q (Queue.drain q maxN).2) (Queue.drain q maxN).2 := by
  have takes := drain_takes playing.sound maxN
  refine ⟨sound_drain playing.sound maxN, ?_⟩
  rcases playing.order with done | ⟨batch, order⟩
  · left
    rw [List.map_append]
    exact done.trans (List.prefix_append _ _)
  · rw [← takes.line, ← List.append_assoc] at order
    rcases takes.batch batch with still | empty
    · exact .inr ⟨still, order⟩
    · rw [empty, List.append_nil] at order
      exact .inl order

theorem playing_run {line : List Nat} {taken : List Item} {s : System} {events : List Event}
    (playing : Playing line taken s.queue) (keeps : ∀ e ∈ events, e.removes = false) :
    ∃ more, (Machine.run step s events).popped = s.popped ++ more ∧
      Playing line (taken ++ more) (Machine.run step s events).queue := by
  induction events generalizing s taken with
  | nil => exact ⟨[], by simp, by simpa using playing⟩
  | cons e rest ih =>
      have keepsRest : ∀ other ∈ rest, other.removes = false := fun other member =>
        keeps other (List.mem_cons_of_mem _ member)
      rw [Machine.run_cons]
      rcases step_cases s e with ⟨request, isProduce, eq⟩ | ⟨_, samples, _, _, _, _, eq⟩ |
        ⟨queue, popped, _⟩
      · have next : Playing line taken (step s e).queue := by
          rw [eq]
          exact playing_produce playing (isProduce ▸ keeps e (List.mem_cons_self ..))
        obtain ⟨more, grown, final⟩ := ih next keepsRest
        exact ⟨more, by rw [grown, eq], final⟩
      · have next : Playing line
            (taken ++ Queue.popped s.queue (Queue.drain s.queue samples.toNat).2)
            (step s e).queue := by
          rw [eq]
          exact playing_drain playing samples.toNat
        obtain ⟨more, grown, final⟩ := ih next keepsRest
        refine ⟨Queue.popped s.queue (Queue.drain s.queue samples.toNat).2 ++ more, ?_, ?_⟩
        · rw [grown, eq]
          simp [pullFrame]
        · rwa [← List.append_assoc]
      · obtain ⟨more, grown, final⟩ := ih (queue ▸ playing) keepsRest
        exact ⟨more, by rw [grown, popped], final⟩

end Kerchunk.Shell
