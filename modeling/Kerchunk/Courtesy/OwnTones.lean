import Kerchunk.AudioTick.Completion
import Kerchunk.Courtesy.Chaining

set_option autoImplicit false

/-!
# What a courtesy tone leaves behind

A tone that answers a completion while no other audio waits is followed by its own completion at
most: where that one is not answered, no transmission completes until something is queued.
-/

namespace Kerchunk.Courtesy

open AudioTick (Action AudioState Call TxIn Waits audioTickTx hasWork tick_completes tick_idle)
open Queue (Item Producer)
open Shell (Sound)

variable (encoder : Nat → Int → Int → Option (Nat → Int))

def Unraced (h : Heard) : Input → Prop
  -- The clock runs, and no other audio has been queued when a tone answers.
  | .act now => h.sys.shell.pc.completes = true → h.sys.answers →
      0 < now ∧ ∀ item ∈ h.sys.shell.queue.head, ours item
  | _ => True

def OwnOnly (h : Heard) (i : Input) : Prop :=
  -- After a tone has answered, what completes is of nothing but tones, and one is remembered.
  completion h.sys i = true → 1 ≤ h.tally.further →
    (∀ item ∈ h.aired, ours item) ∧ 0 < h.sys.last

def Settled (s : Sys) : Prop :=
  -- Nothing waits, plays or has begun.
  s.shell.queue.head = [] ∧ s.shell.queue.draining = false ∧
    s.shell.audio.queueFiredDrain = false

/-- A completion that the audio thread has in hand found the queue empty, as it still is. -/
structure Ready (s : Sys) : Prop where
  depth : ∀ txPass queueDepth, s.shell.pc = .depthRead txPass queueDepth → queueDepth ≤ 0 →
    s.shell.queue.head = []
  complete : ∀ txPass actions rerun, s.shell.pc = .acting txPass actions rerun →
    (∃ a ∈ actions, a.isComplete = true) → Settled s

/-- No transmission will complete before something is queued. -/
structure Silent (s : Sys) : Prop where
  settled : Settled s
  depth : ∀ txPass queueDepth, s.shell.pc = .depthRead txPass queueDepth → queueDepth ≤ 0
  waits : ∀ txPass actions rerun, s.shell.pc = .acting txPass actions rerun → Waits actions

structure Chain (h : Heard) : Prop where
  waiting : ∀ item ∈ h.sys.shell.queue.head, ours item
  played : ∀ item ∈ h.aired, ours item
  phase : Ready h.sys ∧ 0 < h.sys.last ∨ Silent h.sys

structure Inv (h : Heard) : Prop where
  sound : Sound h.sys.shell.queue
  numbered : Numbered h.sys.shell.queue
  last : ∀ txPass actions rerun, h.sys.shell.pc = .acting txPass actions rerun →
    (∃ a ∈ actions, a.isComplete = true) →
      ∃ opening ms, actions = opening ++ [.fireComplete ms] ∧ Waits opening
  mark : h.tally.mark ≤ h.sys.shell.popped.length
  chain : 1 ≤ h.tally.further → Chain h

theorem Inv.of_none {h : Heard} (sound : Sound h.sys.shell.queue)
    (numbered : Numbered h.sys.shell.queue)
    (last : ∀ txPass actions rerun, h.sys.shell.pc = .acting txPass actions rerun →
      (∃ a ∈ actions, a.isComplete = true) →
        ∃ opening ms, actions = opening ++ [.fireComplete ms] ∧ Waits opening)
    (mark : h.tally.mark ≤ h.sys.shell.popped.length) (none : h.tally.further = 0) : Inv h where
  sound := sound
  numbered := numbered
  last := last
  mark := mark
  chain some := by omega

theorem tally_same {h : Heard} {i : Input} {s' : Sys} (inside : external h.sys s' i = false)
    (silent : s'.announced = h.sys.announced) (incomplete : completion h.sys i = false) :
    h.tally.step h.sys i s' = h.tally := by
  simp [Tally.step, inside, silent, incomplete]

theorem inv_of_step {h : Heard} {i : Input} {s' : Sys} (eq : Courtesy.step encoder h.sys i = s')
    (inv : Inv ⟨s', h.tally.step h.sys i s'⟩) : Inv (h.step encoder i) := by
  subst eq
  exact inv

theorem inv_of_inside {h : Heard} {i : Input} {s' : Sys}
    (eq : Courtesy.step encoder h.sys i = s') (inside : external h.sys s' i = false)
    (silent : s'.announced = h.sys.announced) (incomplete : completion h.sys i = false)
    (inv : Inv ⟨s', h.tally⟩) : Inv (h.step encoder i) := by
  refine inv_of_step encoder eq ?_
  rw [tally_same inside silent incomplete]
  exact inv

theorem inv_of_same {h : Heard} (inv : Inv h) {i : Input}
    (eq : Courtesy.step encoder h.sys i = h.sys) (inside : external h.sys h.sys i = false)
    (incomplete : completion h.sys i = false) : Inv (h.step encoder i) :=
  inv_of_inside encoder eq inside rfl incomplete inv

/-! ## Other threads -/

theorem drop_inv {h : Heard} (inv : Inv h) {i : Input} (reason : Config.Text) (now : UInt64)
    (outside : ∀ s', external h.sys s' i = true) (incomplete : completion h.sys i = false) :
    let s' := h.sys.queueTone encoder reason now
    Inv ⟨s', h.tally.step h.sys i s'⟩ := by
  intro s'
  have none : (h.tally.step h.sys i s').further = 0 := by simp [Tally.step, outside]
  have mark : (h.tally.step h.sys i s').mark = h.tally.mark := by simp [Tally.step, incomplete]
  rcases queueTone_cases encoder h.sys reason now with ⟨-, same⟩ | ⟨-, queued⟩
  next =>
    have same : s' = h.sys := same
    refine Inv.of_none ?_ ?_ ?_ ?_ none
    next => rw [same]; exact inv.sound
    next => rw [same]; exact inv.numbered
    next => rw [same]; exact inv.last
    next => rw [mark, same]; exact inv.mark
  next =>
    have queued : s' = _ := queued
    have adds := toned_adds encoder inv.numbered inv.sound
    refine Inv.of_none ?_ ?_ ?_ ?_ none
    next => rw [queued]; exact adds.sound
    next => rw [queued]; exact adds.numbered
    next => rw [queued]; exact inv.last
    next => rw [mark, queued]; exact inv.mark

theorem mem_tagged {id : Nat} {source : List Char} {items : List Item} {item : Item}
    (member : item ∈ Queue.tagFirst id source items) :
    item ∈ items ∨ ∃ old ∈ items, old.id = id ∧ item.buf = old.buf := by
  induction items with
  | nil => cases member
  | cons first rest ih =>
    unfold Queue.tagFirst at member
    split at member
    next here =>
      rcases List.mem_cons.mp member with rfl | later
      next => exact .inr ⟨first, List.mem_cons_self .., here, rfl⟩
      next => exact .inl (List.mem_cons_of_mem _ later)
    next =>
      rcases List.mem_cons.mp member with rfl | later
      next => exact .inl (List.mem_cons_self ..)
      next =>
        rcases ih later with old | ⟨old, oldIn, same⟩
        next => exact .inl (List.mem_cons_of_mem _ old)
        next => exact .inr ⟨old, List.mem_cons_of_mem _ oldIn, same⟩

/-- A call of another module that queues nothing. -/
structure Quiet (q q' : Queue.State) : Prop where
  ours : (∀ item ∈ q.head, ours item) → ∀ item ∈ q'.head, ours item
  empty : q.head = [] → q'.head = []
  draining : q.draining = false → q'.draining = false

theorem quiet_none {q q' : Queue.State} (head : q'.head = q.head)
    (draining : q'.draining = q.draining) : Quiet q q' where
  ours mine := head ▸ mine
  empty empty := head.trans empty
  draining idle := draining.trans idle

theorem quiet_gone {q q' : Queue.State} (head : q'.head = [])
    (draining : q.draining = false → q'.draining = false) : Quiet q q' where
  ours _ item member := by
    rw [head] at member
    cases member
  empty _ := head
  draining := draining

theorem addBuilt_quiet {q : Queue.State} {built : Option Item}
    (plain : ∀ item, built = some item → Queue.Plain item)
    (still : ¬q.head.length < (Queue.addBuilt q built).2.head.length) :
    Quiet q (Queue.addBuilt q built).2 := by
  rcases Shell.addBuilt_cases q built plain with same | refused | ⟨item, -, -, placed⟩
  next => exact quiet_none (by rw [same]) (by rw [same])
  next => exact quiet_none (by rw [refused]) (by rw [refused])
  next =>
    have length : (Queue.place q item).length = q.head.length + 1 :=
      (Queue.place_perm q item).length_eq
    have grown : (Queue.addBuilt q built).2.head = Queue.place q item := by rw [placed]
    rw [grown] at still
    omega

theorem produce_quiet {q : Queue.State} {request : Producer}
    (foreign : ∀ id source, request = .tagItem id source →
      ∀ item ∈ q.head, item.id = id → item.source ≠ courtesyTag)
    (still : ¬q.head.length < (Queue.produce q request).head.length) :
    Quiet q (Queue.produce q request) := by
  cases request with
  | addFile path priority => exact addBuilt_quiet (fun _ => Queue.fileItem_plain) still
  | addBuffer buf priority flags => exact addBuilt_quiet (fun _ => Queue.bufferItem_plain) still
  | addTone freqHz durationMs tone priority =>
    exact addBuilt_quiet (fun _ => Queue.toneItem_plain) still
  | addSilence durationMs priority => exact addBuilt_quiet (fun _ => Queue.silenceItem_plain) still
  | flush => exact quiet_gone rfl fun _ => rfl
  | preempt =>
    refine quiet_gone rfl fun idle => ?_
    simp [Queue.produce, Queue.preempt, idle]
  | tagItem id source =>
    refine ⟨fun mine item member => ?_, fun empty => ?_, fun idle => idle⟩
    next =>
      rcases mem_tagged member with old | ⟨old, oldIn, number, buf⟩
      next => exact mine item old
      next => exact .inr (buf.trans ((mine old oldIn).resolve_left (foreign id source rfl old oldIn number)))
    next => simp [Queue.produce, Queue.tagItem, empty, Queue.tagFirst]

theorem produce_inv {h : Heard} (inv : Inv h) (request : Producer) :
    Inv (h.step encoder (.produce request)) := by
  rcases othersCall_cases h.sys request with same | ⟨called, foreign⟩
  next => exact inv_of_same encoder inv same (by simp [external]) rfl
  next =>
    have sound := Shell.sound_produce inv.sound request
    have numbered := numbered_produce inv.numbered request
    by_cases grows : h.sys.shell.queue.head.length <
        (Queue.produce h.sys.shell.queue request).head.length
    next =>
      refine inv_of_step encoder called (Inv.of_none sound numbered inv.last inv.mark ?_)
      simp [Tally.step, external, Shell.step, grows]
    next =>
      have quiet := produce_quiet foreign grows
      refine inv_of_inside encoder called (decide_eq_false grows) rfl rfl ?_
      refine ⟨sound, numbered, inv.last, inv.mark, fun one => ?_⟩
      have chain := inv.chain one
      have settled (was : Settled h.sys) :
          Settled { h.sys with shell := Shell.step h.sys.shell (.produce request) } :=
        ⟨quiet.empty was.1, quiet.draining was.2.1, was.2.2⟩
      refine ⟨quiet.ours chain.waiting, chain.played, ?_⟩
      rcases chain.phase with ⟨ready, remembered⟩ | silent
      next =>
        refine .inl ⟨⟨fun p d pc low => ?_, fun p ac r pc complete => ?_⟩, remembered⟩
        next => exact quiet.empty (ready.depth p d pc low)
        next => exact settled (ready.complete p ac r pc complete)
      next => exact .inr ⟨settled silent.settled, silent.depth, silent.waits⟩

/-! ## The audio thread -/

theorem readDepth_inv {h : Heard} (inv : Inv h) : Inv (h.step encoder .readDepth) := by
  cases at_ : h.sys.shell.pc with
  | sampling txPass =>
    have read : Courtesy.step encoder h.sys .readDepth =
        { h.sys with shell :=
          { h.sys.shell with pc := .depthRead txPass h.sys.shell.queue.count } } := by
      simp [Courtesy.step, Shell.step, at_, Queue.depth]
    refine inv_of_inside encoder read rfl rfl rfl ?_
    refine ⟨inv.sound, inv.numbered, fun _ _ _ pc => by (cases pc), inv.mark, fun one => ?_⟩
    have chain := inv.chain one
    refine ⟨chain.waiting, chain.played, ?_⟩
    have count := inv.sound.count
    rcases chain.phase with ⟨ready, remembered⟩ | silent
    next =>
      refine .inl ⟨⟨fun p d pc low => ?_, fun _ _ _ pc => by (cases pc)⟩, remembered⟩
      cases pc
      refine List.eq_nil_of_length_eq_zero ?_
      show h.sys.shell.queue.head.length = 0
      omega
    next =>
      refine .inr ⟨silent.settled, fun p d pc => ?_, fun _ _ _ pc => by (cases pc)⟩
      cases pc
      rw [silent.settled.1] at count
      simp [count]
  | depthRead txPass queueDepth =>
    exact inv_of_same encoder inv (by simp [Courtesy.step, Shell.step, at_]) rfl rfl
  | acting txPass actions rerun =>
    exact inv_of_same encoder inv (by simp [Courtesy.step, Shell.step, at_]) rfl rfl

theorem tick_inv {h : Heard} (inv : Inv h) (c : Call) : Inv (h.step encoder (.tick c)) := by
  cases at_ : h.sys.shell.pc with
  | sampling txPass => exact inv_of_same encoder inv (by simp [Courtesy.step, at_]) rfl rfl
  | acting txPass actions rerun =>
    exact inv_of_same encoder inv (by simp [Courtesy.step, at_]) rfl rfl
  | depthRead txPass queueDepth =>
    let inp : TxIn :=
      { c.inp with
        queueDepth := queueDepth, queueIsDraining := Queue.isDraining h.sys.shell.queue }
    let out := audioTickTx (c.prepare h.sys.shell.audio) inp c.sampleRate c.frameSamples
    have called : Courtesy.step encoder h.sys (.tick c) =
        { h.sys with
          stamp := c.inp.nowUs
          shell :=
            { h.sys.shell with
              audio := out.state, pc := .acting txPass out.actions out.rerunThisTick } } := by
      simp [Courtesy.step, at_, Shell.step, Shell.callTick, out, inp]
    refine inv_of_inside encoder called rfl rfl rfl ?_
    have completed (some : ∃ a ∈ out.actions, a.isComplete = true) :
        AudioTick.Completes inp out := by
      obtain ⟨a, member, complete⟩ := some
      exact tick_completes member complete
    refine ⟨inv.sound, inv.numbered, ?_, inv.mark, fun one => ?_⟩
    next =>
      intro p ac r pc complete
      cases pc
      exact (completed complete).last
    next =>
      have chain := inv.chain one
      refine ⟨chain.waiting, chain.played, ?_⟩
      rcases chain.phase with ⟨ready, remembered⟩ | silent
      next =>
        refine .inl ⟨⟨fun _ _ pc => by (cases pc), fun p ac r pc complete => ?_⟩, remembered⟩
        cases pc
        have found := completed complete
        have empty := found.empty
        simp only [hasWork, inp, Queue.isDraining, Bool.or_eq_false_iff, decide_eq_false_iff_not,
          Int.not_lt] at empty
        exact ⟨ready.depth txPass queueDepth at_ empty.1, empty.2, found.fired⟩
      next =>
        have idle : hasWork inp = false := by
          have low := silent.depth txPass queueDepth at_
          simp [hasWork, inp, Queue.isDraining, silent.settled.2.1, low]
        have waits := tick_idle (s := c.prepare h.sys.shell.audio) idle silent.settled.2.2
          c.sampleRate c.frameSamples
        refine .inr ⟨⟨silent.settled.1, silent.settled.2.1, waits.2⟩, fun _ _ pc => by (cases pc),
          fun p ac r pc => ?_⟩
        cases pc
        exact waits.1

section Act

variable {h : Heard} (inv : Inv h) {txPass : Nat} {rest : List Action} {rerun : Bool}

include inv

theorem act_ends_inv (pc : h.sys.shell.pc = .acting txPass [] rerun) (now : UInt64) :
    Inv (h.step encoder (.act now)) := by
  obtain ⟨next, moved⟩ : ∃ next, Shell.nextPass txPass rerun = .sampling next := by
    unfold Shell.nextPass
    split
    next => exact ⟨_, rfl⟩
    next => exact ⟨_, rfl⟩
  have acted : Courtesy.step encoder h.sys (.act now) =
      { h.sys with shell := { h.sys.shell with pc := .sampling next } } := by
    simp [Courtesy.step, Shell.step, Shell.act, Shell.Pc.completes, pc, moved]
  refine inv_of_inside encoder acted rfl rfl (by simp [completion, Shell.Pc.completes, pc]) ?_
  refine ⟨inv.sound, inv.numbered, fun _ _ _ pc => by (cases pc), inv.mark, fun one => ?_⟩
  have chain := inv.chain one
  refine ⟨chain.waiting, chain.played, ?_⟩
  rcases chain.phase with ⟨ready, remembered⟩ | silent
  next =>
    exact .inl ⟨⟨fun _ _ pc => by (cases pc), fun _ _ _ pc => by (cases pc)⟩, remembered⟩
  next => exact .inr ⟨silent.settled, fun _ _ pc => by (cases pc), fun _ _ _ pc => by (cases pc)⟩

theorem act_plain_inv {a : Action} (pc : h.sys.shell.pc = .acting txPass (a :: rest) rerun)
    (still : a.isDrain = false) (incomplete : a.isComplete = false) (now : UInt64) :
    Inv (h.step encoder (.act now)) := by
  have fires : h.sys.shell.pc.completes = false := by
    cases a with
    | fireComplete ms => cases incomplete
    | _ => simp [Shell.Pc.completes, pc]
  have acted : Courtesy.step encoder h.sys (.act now) =
      { h.sys with shell := { h.sys.shell with pc := .acting txPass rest rerun } } := by
    simp [Courtesy.step, Shell.step, Shell.act_moves pc still, fires]
  refine inv_of_inside encoder acted rfl rfl (by simp [completion, fires]) ?_
  refine ⟨inv.sound, inv.numbered, ?_, inv.mark, fun one => ?_⟩
  next =>
    rintro p ac r at_ ⟨b, member, complete⟩
    cases at_
    obtain ⟨opening, ms, split, waits⟩ :=
      inv.last txPass (a :: rest) rerun pc ⟨b, List.mem_cons_of_mem _ member, complete⟩
    cases opening with
    | nil =>
      cases split
      cases incomplete
    | cons first later =>
      cases split
      exact ⟨later, ms, rfl, fun b member => waits b (List.mem_cons_of_mem _ member)⟩
  next =>
    have chain := inv.chain one
    refine ⟨chain.waiting, chain.played, ?_⟩
    rcases chain.phase with ⟨ready, remembered⟩ | silent
    next =>
      refine .inl ⟨⟨fun _ _ at_ => by (cases at_), fun p ac r at_ found => ?_⟩, remembered⟩
      obtain ⟨b, member, complete⟩ := found
      cases at_
      exact ready.complete txPass (a :: rest) rerun pc ⟨b, List.mem_cons_of_mem _ member, complete⟩
    next =>
      refine .inr ⟨silent.settled, fun _ _ at_ => by (cases at_), fun p ac r at_ b member => ?_⟩
      cases at_
      exact silent.waits txPass (a :: rest) rerun pc b (List.mem_cons_of_mem _ member)

theorem act_drain_inv {samples : Int}
    (pc : h.sys.shell.pc = .acting txPass (.drain samples :: rest) rerun) (now : UInt64) :
    Inv (h.step encoder (.act now)) := by
  let queue := (Queue.drain h.sys.shell.queue samples.toNat).2
  let popped := h.sys.shell.popped ++ Queue.popped h.sys.shell.queue queue
  have acted : Courtesy.step encoder h.sys (.act now) =
      { h.sys with shell :=
        { h.sys.shell with
          queue := queue
          popped := popped
          drains := h.sys.shell.drains + 1
          pc := .acting txPass rest rerun } } := by
    simp [Courtesy.step, Shell.step, Shell.act, Shell.pullFrame, Shell.Pc.completes, pc, queue, popped]
  refine inv_of_inside encoder acted rfl rfl (by simp [completion, Shell.Pc.completes, pc]) ?_
  have takes := Shell.drain_takes inv.sound samples.toNat
  have unfinished : ¬∃ a ∈ rest, a.isComplete = true := by
    rintro ⟨a, member, complete⟩
    obtain ⟨opening, ms, split, waits⟩ :=
      inv.last txPass (.drain samples :: rest) rerun pc ⟨a, List.mem_cons_of_mem _ member, complete⟩
    cases opening with
    | nil => cases split
    | cons first later =>
      cases split
      cases (waits _ (List.mem_cons_self ..)).1
  refine ⟨Shell.sound_drain inv.sound samples.toNat, ?_, ?_, ?_, fun one => ?_⟩
  next =>
    intro item member
    show item.id < queue.nextId
    rw [drain_nextId inv.sound samples.toNat]
    refine inv.numbered item ?_
    rw [← takes.line]
    exact List.mem_append_right _ member
  next =>
    intro p ac r at_ complete
    cases at_
    exact absurd complete unfinished
  next => exact inv.mark.trans (by simp [popped])
  next =>
    have chain := inv.chain one
    refine ⟨fun item member => chain.waiting item ?_, fun item member => ?_, ?_⟩
    next =>
      rw [← takes.line]
      exact List.mem_append_right _ member
    next =>
      have split : popped.drop h.tally.mark = h.aired ++ Queue.popped h.sys.shell.queue queue :=
        List.drop_append_of_le_length inv.mark
      have member : item ∈ popped.drop h.tally.mark := member
      rw [split] at member
      rcases List.mem_append.mp member with before | taken
      next => exact chain.played item before
      next =>
        refine chain.waiting item ?_
        rw [← takes.line]
        exact List.mem_append_left _ taken
    next =>
      rcases chain.phase with ⟨-, remembered⟩ | silent
      next =>
        refine .inl ⟨⟨fun _ _ at_ => by (cases at_), fun p ac r at_ complete => ?_⟩, remembered⟩
        cases at_
        exact absurd complete unfinished
      next => cases (silent.waits txPass _ rerun pc _ (List.mem_cons_self ..)).1

theorem complete_alone {ms : UInt32}
    (pc : h.sys.shell.pc = .acting txPass (.fireComplete ms :: rest) rerun) : rest = [] := by
  obtain ⟨opening, last, split, waits⟩ :=
    inv.last txPass (.fireComplete ms :: rest) rerun pc ⟨_, List.mem_cons_self .., rfl⟩
  cases opening with
  | nil =>
    cases split
    rfl
  | cons first later =>
    cases split
    cases (waits _ (List.mem_cons_self ..)).2

theorem act_complete_inv {ms : UInt32}
    (pc : h.sys.shell.pc = .acting txPass (.fireComplete ms :: rest) rerun) (now : UInt64)
    (unraced : h.sys.answers → 0 < now ∧ ∀ item ∈ h.sys.shell.queue.head, ours item) :
    Inv (h.step encoder (.act now)) := by
  have alone := complete_alone inv pc
  subst alone
  let done : Sys := { h.sys with shell := { h.sys.shell with pc := .acting txPass [] rerun } }
  have fires : completion h.sys (.act now) = true := by simp [completion, Shell.Pc.completes, pc]
  have acted : Courtesy.step encoder h.sys (.act now) =
      done.onQueueComplete encoder done.stamp now := by
    simp [Courtesy.step, Shell.step, Shell.act_moves pc rfl, Shell.Pc.completes, pc, done]
  have mark (s' : Sys) :
      (h.tally.step h.sys (.act now) s').mark = h.sys.shell.popped.length := by
    simp [Tally.step, fires]
  have aired (s' : Sys) (popped : s'.shell.popped = h.sys.shell.popped) :
      ∀ item ∈ Heard.aired ⟨s', h.tally.step h.sys (.act now) s'⟩, ours item := by
    simp [Heard.aired, mark, popped]
  rcases onQueueComplete_cases encoder done now with ⟨answers, queued⟩ | ⟨silent, cleared⟩
  next =>
    refine inv_of_step encoder (acted.trans queued) ?_
    obtain ⟨clock, noticed⟩ := unraced answers
    have adds : Adds h.sys.shell.queue (done.toned encoder) :=
      toned_adds encoder inv.numbered inv.sound
    refine ⟨adds.sound, adds.numbered, ?_, ?_, fun _ => ⟨?_, ?_, .inl ⟨⟨?_, ?_⟩, clock⟩⟩⟩
    next => exact fun p ac r at_ waits => by (cases at_; cases waits.choose_spec.1)
    next => exact Nat.le_of_eq (mark _)
    next =>
      intro item member
      rcases adds.mine item member with old | tagged
      next => exact noticed item old
      next => exact .inl tagged
    next => exact aired _ rfl
    next => exact fun _ _ at_ => by (cases at_)
    next => exact fun p ac r at_ waits => by (cases at_; cases waits.choose_spec.1)
  next =>
    refine inv_of_step encoder (acted.trans cleared) ?_
    have further : (h.tally.step h.sys (.act now) { done with last := 0 }).further =
        h.tally.further := by simp [Tally.step, external, done]
    refine ⟨inv.sound, inv.numbered, ?_, ?_, fun some => ⟨?_, ?_, .inr ⟨?_, ?_, ?_⟩⟩⟩
    next => exact fun p ac r at_ waits => by (cases at_; cases waits.choose_spec.1)
    next => exact Nat.le_of_eq (mark _)
    next => exact (inv.chain (some.trans_eq further)).waiting
    next => exact aired _ rfl
    next =>
      rcases (inv.chain (some.trans_eq further)).phase with ⟨ready, -⟩ | still
      next => exact ready.complete txPass _ rerun pc ⟨_, List.mem_cons_self .., rfl⟩
      next => exact still.settled
    next => exact fun _ _ at_ => by (cases at_)
    next => exact fun p ac r at_ => by (cases at_; exact AudioTick.waits_nil)

end Act

theorem settings_inv {h : Heard} (inv : Inv h) (cfg : Settings) (callerId : Int) :
    Inv ⟨{ h.sys with cfg := cfg, callerId := callerId }, h.tally⟩ := by
  refine ⟨inv.sound, inv.numbered, inv.last, inv.mark, fun some => ?_⟩
  have chain := inv.chain some
  refine ⟨chain.waiting, chain.played, ?_⟩
  rcases chain.phase with ⟨ready, remembered⟩ | silent
  next => exact .inl ⟨⟨ready.depth, ready.complete⟩, remembered⟩
  next => exact .inr ⟨silent.settled, silent.depth, silent.waits⟩

theorem act_inv {h : Heard} (inv : Inv h) (now : UInt64) (unraced : Unraced h (.act now)) :
    Inv (h.step encoder (.act now)) := by
  cases at_ : h.sys.shell.pc with
  | sampling txPass =>
    refine inv_of_same encoder inv ?_ rfl (by simp [completion, Shell.Pc.completes, at_])
    simp [Courtesy.step, Shell.step, Shell.act, Shell.Pc.completes, at_]
  | depthRead txPass queueDepth =>
    refine inv_of_same encoder inv ?_ rfl (by simp [completion, Shell.Pc.completes, at_])
    simp [Courtesy.step, Shell.step, Shell.act, Shell.Pc.completes, at_]
  | acting txPass actions rerun =>
    cases actions with
    | nil => exact act_ends_inv encoder inv at_ now
    | cons a rest =>
      cases a with
      | drain samples => exact act_drain_inv encoder inv at_ now
      | fireComplete ms =>
        exact act_complete_inv encoder inv at_ now (unraced (by simp [Shell.Pc.completes, at_]))
      | _ => exact act_plain_inv encoder inv at_ rfl rfl now

theorem step_inv {h : Heard} (inv : Inv h) (i : Input) (unraced : Unraced h i) :
    Inv (h.step encoder i) := by
  cases i with
  | corDrop now => exact drop_inv encoder inv _ now (fun _ => rfl) rfl
  | linkRxDrop now => exact drop_inv encoder inv _ now (fun _ => rfl) rfl
  | vcorDrop source now => exact drop_inv encoder inv _ now (fun _ => rfl) rfl
  | callerIdentified userId =>
    exact inv_of_inside encoder rfl rfl rfl rfl (settings_inv inv h.sys.cfg userId)
  | callerCleared => exact inv_of_inside encoder rfl rfl rfl rfl (settings_inv inv h.sys.cfg 0)
  | configure cfg =>
    exact inv_of_inside encoder rfl rfl rfl rfl
      (settings_inv inv (courtesyConfigure cfg) h.sys.callerId)
  | produce request => exact produce_inv encoder inv request
  | readDepth => exact readDepth_inv encoder inv
  | tick c => exact tick_inv encoder inv c
  | act now => exact act_inv encoder inv now unraced

theorem heard_inv (rate : Nat) : Inv (heard rate) := by
  refine Inv.of_none ⟨fun _ member => by (cases member), rfl⟩ ?_ ?_ (Nat.le_refl 0) rfl
  next => exact fun _ member => by cases member
  next => exact fun _ _ _ at_ => by cases at_

theorem chain_own {h : Heard} (chain : Chain h) {i : Input} (fires : completion h.sys i = true) :
    (∀ item ∈ h.aired, ours item) ∧ 0 < h.sys.last := by
  refine ⟨chain.played, ?_⟩
  rcases chain.phase with ⟨-, remembered⟩ | silent
  next => exact remembered
  next =>
    cases i with
    | act now =>
      simp only [completion, Shell.Pc.completes] at fires
      split at fires
      next txPass ms rest rerun at_ =>
        cases (silent.waits txPass _ rerun at_ _ (List.mem_cons_self ..)).2
      next => cases fires
    | _ => cases fires

theorem own_tones_only (rate : Nat) (inputs : List Input)
    (unraced : Machine.Guarded (Heard.step encoder) Unraced (heard rate) inputs) :
    Machine.Guarded (Heard.step encoder) OwnOnly (heard rate) inputs := by
  refine Machine.guarded_of_invariant (Heard.step encoder) (P := Inv)
    (fun h i inv unraced => ⟨step_inv encoder inv i unraced, ?_⟩) (heard_inv rate) unraced
  exact fun fires answered => chain_own (inv.chain answered) fires

end Kerchunk.Courtesy
