import Kerchunk.Cwid.Model
import Kerchunk.Queue.Refinement

set_option autoImplicit false

/-!
# IDs in the queue

An ID that is queued stays there, to its last sample, through everything but a flush and a
preemption.
-/

namespace Kerchunk.Cwid

open Config (KerchunkConfig Text configGet)
open Queue (Item Producer addBuilt addItem drain drainAdvance drainBody ensureLoaded mem_place place
  reaches started tagFirst tagItem)
open Repeater (Output RptState)

/-! ## The audio thread -/

def Waiting (q : Queue.State) (id : Nat) (rest : List Int) : Prop :=
  -- The item of an ID waits in the list with these samples.
  ∃ item ∈ q.head, item.id = id ∧ item.source = cwidTag ∧ item.buf = rest

def OnAir (q : Queue.State) (id : Nat) (rest : List Int) : Prop :=
  -- The item of an ID is on the air, and these samples of it are still to come.
  q.draining = true ∧ q.drainItemId = id ∧ q.drainSource = cwidTag ∧
    q.drainBuf.drop q.drainPos = rest

def Awaits (q : Queue.State) (id : Nat) (rest : List Int) : Prop :=
  Waiting q id rest ∨ OnAir q id rest

def Plays (q : Queue.State) (maxN id : Nat) (rest : List Int) : Prop :=
  -- A drain writes a part of what is left of the ID, and leaves the others of it or nothing.
  ∃ n, rest.take n <+: (drain q maxN).1 ∧
    (Awaits (drain q maxN).2 id (rest.drop n) ∨ rest.length ≤ n)

/-- What the queue keeps to for its numbers to name one item, and its buffers to be played. -/
structure Sound (q : Queue.State) : Prop where
  fresh : ∀ item ∈ q.head, item.id < q.nextId
  data : ∀ item ∈ q.head, item.type = .audioFile ∨ item.type = .audioBuffer
  len : q.draining = true → q.drainLen = q.drainBuf.length

theorem init_sound (rate : Nat) : Sound (Queue.init rate) where
  fresh := by simp [Queue.init]
  data := by simp [Queue.init]
  len := by simp [Queue.init]

theorem copySource_cwidTag : Queue.copySource cwidTag = cwidTag := by
  decide

theorem advance_waits {q : Queue.State} {id : Nat} {rest : List Int} (maxN : Nat)
    (waiting : Waiting q id rest) : Waiting (drainAdvance q maxN) id rest := by
  unfold Waiting
  rw [(Queue.drainAdvance_line q maxN).head]
  exact waiting

theorem advance_plays {q : Queue.State} {id : Nat} {rest : List Int} (maxN : Nat)
    (len : q.drainLen = q.drainBuf.length) (onAir : OnAir q id rest) :
    ∃ n, rest.take n = drainBody q maxN ∧
      (Awaits (drainAdvance q maxN) id (rest.drop n) ∨ rest.length ≤ n) := by
  obtain ⟨draining, itemId, source, rfl⟩ := onAir
  refine ⟨min (q.drainLen - q.drainPos) maxN, rfl, ?_⟩
  by_cases ends : reaches q maxN ≥ q.drainLen
  next =>
    right
    unfold reaches at ends
    rw [List.length_drop, ← len]
    omega
  next =>
    left
    right
    rw [Queue.drainAdvance_goes_on (Nat.lt_of_not_le ends)]
    refine ⟨draining, itemId, source, ?_⟩
    rw [List.drop_drop, reaches]

theorem finished_rest {q : Queue.State} {id : Nat} {rest : List Int} (sound : Sound q)
    (finished : q.draining = true → q.drainPos ≥ q.drainLen) (onAir : OnAir q id rest) :
    rest = [] := by
  obtain ⟨draining, _, _, rfl⟩ := onAir
  rw [List.drop_eq_nil_iff, ← sound.len draining]
  exact finished draining

theorem plays_nothing (q : Queue.State) (maxN id : Nat) : Plays q maxN id [] :=
  ⟨0, List.nil_prefix, .inr (Nat.le_refl _)⟩

theorem plays_on {q : Queue.State} {maxN id : Nat} {rest : List Int}
    (awaits : Awaits (drain q maxN).2 id rest) : Plays q maxN id rest :=
  ⟨0, List.nil_prefix, .inl awaits⟩

theorem drain_ready {q q' : Queue.State} {maxN : Nat} (asked : maxN ≠ 0)
    (gapless : q.gapRemaining = 0) (ready : ensureLoaded q = (true, q')) :
    drainBody q' maxN <+: (drain q maxN).1 ∧ (drain q maxN).2 = drainAdvance q' maxN := by
  simp [drain, asked, gapless, ready]

theorem awaits_same {q q' : Queue.State} {id : Nat} {rest : List Int}
    (head : q'.head = q.head) (draining : q'.draining = q.draining)
    (itemId : q'.drainItemId = q.drainItemId) (source : q'.drainSource = q.drainSource)
    (buf : q'.drainBuf = q.drainBuf) (pos : q'.drainPos = q.drainPos)
    (awaits : Awaits q id rest) : Awaits q' id rest := by
  unfold Awaits Waiting OnAir
  rw [head, draining, itemId, source, buf, pos]
  exact awaits

theorem drain_plays {q : Queue.State} {id : Nat} {rest : List Int} (sound : Sound q) (maxN : Nat)
    (awaits : Awaits q id rest) : Plays q maxN id rest := by
  -- No sample of an ID is skipped by the audio thread.
  by_cases asked : maxN = 0
  next =>
    refine plays_on ?_
    simpa [drain, asked] using awaits
  by_cases gapless : q.gapRemaining = 0
  next =>
    rcases Queue.ensureLoaded_cases q sound.data with ⟨draining, short, ready⟩ |
      ⟨finished, blank, q', silent, ready⟩ |
      ⟨finished, skipped, item, after, split, blank, loud, ready⟩
    next =>
      obtain ⟨output, left⟩ := drain_ready asked gapless ready
      rcases awaits with waiting | onAir
      next =>
        refine plays_on (.inl ?_)
        rw [left]
        exact advance_waits maxN waiting
      next =>
        obtain ⟨n, taken, others⟩ := advance_plays maxN (sound.len draining) onAir
        exact ⟨n, taken ▸ output, left ▸ others⟩
    next =>
      -- Only files without data were left, and none of them has a sample to play.
      rcases awaits with ⟨item, member, rfl, _, rfl⟩ | onAir
      next =>
        rw [(blank item member).2]
        exact plays_nothing q maxN _
      next =>
        rw [finished_rest sound finished onAir]
        exact plays_nothing q maxN id
    next =>
      obtain ⟨output, left⟩ := drain_ready asked gapless ready
      rcases awaits with ⟨other, member, rfl, tagged, rfl⟩ | onAir
      next =>
        rw [split, List.mem_append, List.mem_cons] at member
        rcases member with old | rfl | later
        next =>
          rw [(blank other old).2]
          exact plays_nothing q maxN _
        next =>
          have loaded : OnAir (started { q with draining := false } other after
              (skipped.length + 1)) other.id other.buf := by
            refine ⟨rfl, rfl, ?_, rfl⟩
            show Queue.copySource other.source = cwidTag
            rw [tagged, copySource_cwidTag]
          obtain ⟨n, taken, others⟩ := advance_plays maxN rfl loaded
          exact ⟨n, taken ▸ output, left ▸ others⟩
        next =>
          refine plays_on (.inl ?_)
          rw [left]
          exact advance_waits maxN ⟨other, later, rfl, tagged, rfl⟩
      next =>
        rw [finished_rest sound finished onAir]
        exact plays_nothing q maxN id
  next =>
    refine plays_on ?_
    have left : (drain q maxN).2 =
        { q with gapRemaining := q.gapRemaining - min q.gapRemaining maxN } := by
      simp [drain, asked, Nat.pos_of_ne_zero gapless]
    rw [left]
    exact awaits_same rfl rfl rfl rfl rfl rfl awaits

theorem advance_sound {q : Queue.State} (sound : Sound q) (len : q.drainLen = q.drainBuf.length)
    (maxN : Nat) : Sound (drainAdvance q maxN) := by
  have line := Queue.drainAdvance_line q maxN
  refine ⟨?_, ?_, ?_⟩
  next =>
    rw [line.head, line.nextId]
    exact sound.fresh
  next =>
    rw [line.head]
    exact sound.data
  next =>
    intro draining
    by_cases ends : reaches q maxN ≥ q.drainLen
    next => simp [(Queue.drainAdvance_ends ends).1] at draining
    next =>
      rw [Queue.drainAdvance_goes_on (Nat.lt_of_not_le ends)]
      exact len

theorem drain_sound {q : Queue.State} (sound : Sound q) (maxN : Nat) :
    Sound (drain q maxN).2 := by
  rcases Queue.drain_queue_cases q sound.data maxN with ⟨_, same⟩ | ⟨_, _, gap⟩ |
    ⟨_, _, draining, _, advanced⟩ | ⟨_, _, _, silent⟩ |
    ⟨_, _, _, skipped, item, rest, split, _, _, advanced⟩
  next =>
    rw [same]
    exact sound
  next =>
    rw [gap]
    exact ⟨sound.fresh, sound.data, sound.len⟩
  next =>
    rw [advanced]
    exact advance_sound sound (sound.len draining) maxN
  next =>
    have quiet := silent.draining
    exact ⟨by simp [silent.head], by simp [silent.head], by simp [quiet]⟩
  next =>
    rw [advanced]
    have later : ∀ other ∈ rest, other ∈ q.head := by
      intro other member
      simp [split, member]
    have loaded : Sound (started { q with draining := false } item rest (skipped.length + 1)) :=
      ⟨fun other member => sound.fresh other (later other member),
        fun other member => sound.data other (later other member), fun _ => rfl⟩
    exact advance_sound loaded rfl maxN

/-! ## Adding and tagging -/

/-- A call that may add items, and leaves every ID where it was. -/
structure Keeps (q q' : Queue.State) : Prop where
  sound : Sound q'
  rate : q'.rate = q.rate
  nextId : q.nextId ≤ q'.nextId
  awaits : ∀ id rest, Awaits q id rest → Awaits q' id rest

theorem Keeps.refl {q : Queue.State} (sound : Sound q) : Keeps q q where
  sound := sound
  rate := rfl
  nextId := Nat.le_refl _
  awaits _ _ awaits := awaits

theorem Keeps.trans {a b c : Queue.State} (first : Keeps a b) (second : Keeps b c) :
    Keeps a c where
  sound := second.sound
  rate := second.rate.trans first.rate
  nextId := Nat.le_trans first.nextId second.nextId
  awaits id rest awaits := second.awaits id rest (first.awaits id rest awaits)

theorem addItem_keeps {q : Queue.State} (sound : Sound q) {item : Item}
    (plain : Queue.Plain item) : Keeps q (addItem q item).2 := by
  rw [Queue.addItem_eq]
  split
  next =>
    exact ⟨⟨fun other member => Nat.lt_succ_of_lt (sound.fresh other member), sound.data,
      sound.len⟩, rfl, Nat.le_succ _, fun _ _ awaits => awaits⟩
  next =>
    refine ⟨⟨?_, ?_, sound.len⟩, rfl, Nat.le_succ _, ?_⟩
    next =>
      intro other member
      rcases mem_place.mp member with rfl | old
      next => exact Nat.lt_succ_self _
      next => exact Nat.lt_succ_of_lt (sound.fresh other old)
    next =>
      intro other member
      rcases mem_place.mp member with rfl | old
      next => exact plain.data
      next => exact sound.data other old
    next =>
      intro id rest awaits
      rcases awaits with ⟨other, member, waits⟩ | onAir
      next => exact .inl ⟨other, mem_place.mpr (.inr member), waits⟩
      next => exact .inr onAir

theorem addBuilt_keeps {q : Queue.State} (sound : Sound q) {built : Option Item}
    (plain : ∀ item, built = some item → Queue.Plain item) : Keeps q (addBuilt q built).2 := by
  cases built with
  | none => exact Keeps.refl sound
  | some item => exact addItem_keeps sound (plain item rfl)

theorem addSilence_keeps {q : Queue.State} (sound : Sound q) (ms priority : Int) :
    Keeps q (Queue.addSilence q ms priority).2 :=
  addBuilt_keeps sound fun _ built => Queue.silenceItem_plain built

theorem addBuffer_keeps {q : Queue.State} (sound : Sound q) (buf : List Int)
    (priority flags : Int) : Keeps q (Queue.addBuffer q buf priority flags).2 :=
  addBuilt_keeps sound fun _ built => Queue.bufferItem_plain built

theorem mem_tagFirst {id : Nat} {source : List Char} {items : List Item} {item : Item}
    (member : item ∈ tagFirst id source items) :
    ∃ old ∈ items, old.id = item.id ∧ old.type = item.type := by
  -- Tagging changes no more than the source of the first item with the number.
  induction items with
  | nil => cases member
  | cons first rest ih =>
    unfold tagFirst at member
    split at member
    next =>
      rcases List.mem_cons.mp member with rfl | later
      next => exact ⟨first, List.mem_cons_self .., rfl, rfl⟩
      next => exact ⟨item, List.mem_cons_of_mem _ later, rfl, rfl⟩
    next =>
      rcases List.mem_cons.mp member with rfl | later
      next => exact ⟨item, List.mem_cons_self .., rfl, rfl⟩
      next =>
        obtain ⟨old, oldIn, same⟩ := ih later
        exact ⟨old, List.mem_cons_of_mem _ oldIn, same⟩

theorem tagFirst_other {id : Nat} {source : List Char} {items : List Item} {item : Item}
    (member : item ∈ items) (differs : item.id ≠ id) : item ∈ tagFirst id source items := by
  induction items with
  | nil => cases member
  | cons first rest ih =>
    unfold tagFirst
    rcases List.mem_cons.mp member with rfl | later
    next => simp [differs]
    next =>
      split
      next => exact List.mem_cons_of_mem _ later
      next => exact List.mem_cons_of_mem _ (ih later)

theorem tagFirst_tags {id : Nat} {source : List Char} {items : List Item} {item : Item}
    (member : item ∈ items) (number : item.id = id)
    (alone : ∀ other ∈ items, other.id = id → other = item) :
    { item with source := Queue.copySource source } ∈ tagFirst id source items := by
  induction items with
  | nil => cases member
  | cons first rest ih =>
    unfold tagFirst
    split
    next here =>
      rw [alone first (List.mem_cons_self ..) here]
      exact List.mem_cons_self ..
    next elsewhere =>
      rcases List.mem_cons.mp member with rfl | later
      next => exact absurd number elsewhere
      next =>
        exact List.mem_cons_of_mem _
          (ih later fun other otherIn => alone other (List.mem_cons_of_mem _ otherIn))

theorem tagItem_keeps {q : Queue.State} (sound : Sound q) {id : Nat} (source : List Char)
    (foreign : ∀ item ∈ q.head, item.source = cwidTag → item.id ≠ id) :
    Keeps q (tagItem q id source) := by
  refine ⟨⟨?_, ?_, sound.len⟩, rfl, Nat.le_refl _, ?_⟩
  next =>
    intro item member
    obtain ⟨old, oldIn, number, _⟩ := mem_tagFirst member
    exact number ▸ sound.fresh old oldIn
  next =>
    intro item member
    obtain ⟨old, oldIn, _, type⟩ := mem_tagFirst member
    exact type ▸ sound.data old oldIn
  next =>
    intro number rest awaits
    rcases awaits with ⟨item, member, same, tagged, buf⟩ | onAir
    next =>
      exact .inl ⟨item, tagFirst_other member (foreign item member tagged), same, tagged, buf⟩
    next => exact .inr onAir

theorem othersCall_keeps {s : Sys} (sound : Sound s.queue) {request : Producer}
    (noFlush : request ≠ .flush) : Keeps s.queue (s.othersCall request).queue := by
  -- Of the calls of other modules only a flush takes IDs out.
  cases request with
  | flush => exact absurd rfl noFlush
  | preempt => exact Keeps.refl sound
  | tagItem id source =>
    simp only [Sys.othersCall]
    split
    next => exact Keeps.refl sound
    next foreign =>
      exact tagItem_keeps sound source fun item member tagged same =>
        foreign ⟨item, member, same, tagged⟩
  | addFile path priority => exact addBuilt_keeps sound fun _ built => Queue.fileItem_plain built
  | addBuffer buf priority flags => exact addBuffer_keeps sound buf priority flags
  | addTone freqHz durationMs tone priority =>
    exact addBuilt_keeps sound fun _ built => Queue.toneItem_plain built
  | addSilence durationMs priority => exact addSilence_keeps sound durationMs priority

theorem cleared_sound {q : Queue.State} (head : q.head = []) (draining : q.draining = false) :
    Sound q where
  fresh := by simp [head]
  data := by simp [head]
  len := by simp [draining]

end Kerchunk.Cwid
