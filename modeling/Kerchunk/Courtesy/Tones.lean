import Kerchunk.Courtesy.Model
import Kerchunk.Shell.Idle

set_option autoImplicit false

/-!
# The items of a courtesy tone in the queue
-/

namespace Kerchunk.Courtesy

open Queue (Item Producer)
open Shell (Sound)

def Numbered (q : Queue.State) : Prop :=
  -- The next number is a new one.
  ∀ item ∈ q.head, item.id < q.nextId

theorem numbered_produce {q : Queue.State} (numbered : Numbered q) (request : Producer) :
    Numbered (Queue.produce q request) := by
  by_cases keeps : (Shell.Event.produce request).removes = false
  next =>
    rcases Shell.produce_adds keeps q with ⟨built, plain, added⟩ | ⟨id, source, tagged⟩
    next =>
      rw [added]
      rcases Shell.addBuilt_cases q built plain with same | refused | ⟨item, -, number, placed⟩
      next =>
        rw [same]
        exact numbered
      next =>
        rw [refused]
        exact fun item member => Nat.lt_succ_of_lt (numbered item member)
      next =>
        rw [placed]
        intro other member
        rcases Queue.mem_place.mp member with rfl | old
        next => exact number ▸ Nat.lt_succ_self _
        next => exact Nat.lt_succ_of_lt (numbered other old)
    next =>
      rw [tagged]
      intro item member
      obtain ⟨other, otherIn, same⟩ := Shell.mem_tagFirst member
      have known : item.id = other.id := (congrArg Item.id same).symm
      rw [known]
      exact numbered other otherIn
  next =>
    cases request with
    | flush => simp [Numbered, Queue.produce, Queue.flush]
    | preempt => simp [Numbered, Queue.produce, Queue.preempt]
    | _ => exact absurd rfl keeps

theorem drain_nextId {q : Queue.State} (sound : Sound q) (maxN : Nat) :
    (Queue.drain q maxN).2.nextId = q.nextId := by
  rcases Queue.drain_queue_cases q sound.data maxN with ⟨_, same⟩ | ⟨_, _, gap⟩ |
    ⟨_, _, _, _, advanced⟩ | ⟨_, _, _, silent⟩ | ⟨_, _, _, skipped, item, rest, _, _, _, advanced⟩
  next => rw [same]
  next => rw [gap]
  next => rw [advanced, (Queue.drainAdvance_line q maxN).nextId]
  next => exact silent.nextId
  next =>
    rw [advanced, (Queue.drainAdvance_line _ maxN).nextId]
    rfl

theorem numbered_drain {q : Queue.State} (sound : Sound q) (numbered : Numbered q) (maxN : Nat) :
    Numbered (Queue.drain q maxN).2 := by
  intro item member
  rw [drain_nextId sound maxN]
  refine numbered item ?_
  rw [← (Shell.drain_takes sound maxN).line]
  exact List.mem_append_right _ member

theorem tagFirst_once {id : Nat} {source : List Char} {items : List Item} {item : Item}
    (once : (items.filter fun other => other.id = id).length ≤ 1)
    (member : item ∈ Queue.tagFirst id source items) :
    item.source = Queue.copySource source ∨ item ∈ items ∧ item.id ≠ id := by
  -- No other item has the number of the one that is tagged.
  induction items with
  | nil => cases member
  | cons first rest ih =>
    unfold Queue.tagFirst at member
    split at member
    next here =>
      rcases List.mem_cons.mp member with rfl | later
      next => exact .inl rfl
      next =>
        refine .inr ⟨List.mem_cons_of_mem _ later, fun same => ?_⟩
        have counted : item ∈ rest.filter fun other => other.id = id :=
          List.mem_filter.mpr ⟨later, by simpa using same⟩
        have := List.length_pos_of_mem counted
        simp only [List.filter_cons, here, decide_true, if_true, List.length_cons] at once
        omega
    next elsewhere =>
      simp only [List.filter_cons, elsewhere, decide_false, Bool.false_eq_true, if_false] at once
      rcases List.mem_cons.mp member with rfl | later
      next => exact .inr ⟨List.mem_cons_self .., elsewhere⟩
      next =>
        rcases ih once later with tagged | ⟨old, differs⟩
        next => exact .inl tagged
        next => exact .inr ⟨List.mem_cons_of_mem _ old, differs⟩

theorem tagFirst_has {id : Nat} (source : List Char) {items : List Item}
    (found : ∃ item ∈ items, item.id = id) :
    ∃ item ∈ Queue.tagFirst id source items,
      item.id = id ∧ item.source = Queue.copySource source := by
  induction items with
  | nil => simp at found
  | cons first rest ih =>
    unfold Queue.tagFirst
    split
    next here => exact ⟨_, List.mem_cons_self .., here, rfl⟩
    next elsewhere =>
      have later : ∃ item ∈ rest, item.id = id := by
        obtain ⟨item, member, same⟩ := found
        rcases List.mem_cons.mp member with rfl | later
        next => exact absurd same elsewhere
        next => exact ⟨item, later, same⟩
      obtain ⟨item, member, tagged⟩ := ih later
      exact ⟨item, List.mem_cons_of_mem _ member, tagged⟩

theorem copySource_courtesyTag : Queue.copySource courtesyTag = courtesyTag := by
  decide

/-- What the module adds to the queue carries its name. -/
structure Adds (q q' : Queue.State) : Prop where
  mine : ∀ item ∈ q'.head, item ∈ q.head ∨ item.source = courtesyTag
  numbered : Numbered q'
  sound : Sound q'

theorem Adds.trans {a b c : Queue.State} (first : Adds a b) (second : Adds b c) : Adds a c where
  mine item member := by
    rcases second.mine item member with old | tagged
    next => exact first.mine item old
    next => exact .inr tagged
  numbered := second.numbered
  sound := second.sound

theorem place_once {q : Queue.State} (numbered : Numbered q) (item : Item)
    (number : item.id = q.nextId) :
    ((Queue.place q item).filter fun other => other.id = q.nextId).length ≤ 1 := by
  rw [((Queue.place_perm q item).filter _).length_eq]
  have none : q.head.filter (fun other => other.id = q.nextId) = [] := by
    refine List.filter_eq_nil_iff.mpr fun other member same => ?_
    have older := numbered other member
    simp only [decide_eq_true_eq] at same
    omega
  simp [number, none]

theorem tagAdded_adds {q : Queue.State} (numbered : Numbered q) (sound : Sound q)
    {built : Option Item} (plain : ∀ item, built = some item → Queue.Plain item) :
    Adds q (tagAdded (Queue.addBuilt q built)) := by
  cases built with
  | none => exact ⟨fun _ member => .inl member, numbered, sound⟩
  | some item =>
    rw [Queue.addBuilt, Queue.addItem_eq]
    split
    next =>
      exact ⟨fun _ member => .inl member,
        fun other member => Nat.lt_succ_of_lt (numbered other member), ⟨sound.data, sound.count⟩⟩
    next =>
      have once := place_once numbered { item with id := q.nextId } rfl
      refine ⟨?_, ?_, ?_, ?_⟩
      next =>
        intro other member
        rcases tagFirst_once once member with tagged | ⟨placed, differs⟩
        next => exact .inr (tagged.trans copySource_courtesyTag)
        next =>
          rcases Queue.mem_place.mp placed with rfl | old
          next => exact absurd rfl differs
          next => exact .inl old
      next =>
        intro other member
        obtain ⟨old, placed, same⟩ := Shell.mem_tagFirst member
        have known : other.id = old.id := (congrArg Item.id same).symm
        show other.id < q.nextId + 1
        rw [known]
        rcases Queue.mem_place.mp placed with rfl | older
        next => exact Nat.lt_succ_self _
        next => exact Nat.lt_succ_of_lt (numbered old older)
      next =>
        intro other member
        obtain ⟨old, placed, same⟩ := Shell.mem_tagFirst member
        have known : other.type = old.type := (congrArg Item.type same).symm
        rw [known]
        rcases Queue.mem_place.mp placed with rfl | older
        next => exact (plain item rfl).data
        next => exact sound.data old older
      next =>
        have length := congrArg List.length
          (Shell.tagFirst_ids q.nextId courtesyTag (Queue.place q { item with id := q.nextId }))
        simp only [List.length_map, (Queue.place_perm q _).length_eq, List.length_cons] at length
        show q.count + 1 = ((Queue.tagFirst q.nextId courtesyTag (Queue.place q _)).length : Int)
        rw [length, sound.count]
        omega

section Tone

variable (encoder : Nat → Int → Int → Option (Nat → Int)) {s : Sys}
  (numbered : Numbered s.shell.queue) (sound : Sound s.shell.queue)

include numbered sound

theorem silenced_adds : Adds s.shell.queue s.silenced :=
  tagAdded_adds numbered sound fun _ => Queue.silenceItem_plain

theorem toned_adds : Adds s.shell.queue (s.toned encoder) := by
  have first := silenced_adds numbered sound
  exact first.trans (tagAdded_adds first.numbered first.sound fun _ => Queue.toneItem_plain)

end Tone

def Sounds (s : Sys) : Prop :=
  -- The tone can be made, and there is room for it after its silence.
  0 < s.cfg.freq ∧ 0 < s.cfg.dur ∧ s.cfg.dur ≤ 300000 ∧
    s.shell.queue.count + 1 < Queue.maxQueueDepth

instance (s : Sys) : Decidable (Sounds s) :=
  inferInstanceAs (Decidable (_ ∧ _ ∧ _ ∧ _))

def toneIn (q q' : Queue.State) : Bool :=
  -- The second of the two new items is the tone.
  q'.head.any fun item => decide (item.id = q.nextId + 1) && decide (item.source = courtesyTag)

theorem silenced_counts (s : Sys) :
    s.silenced.nextId = s.shell.queue.nextId + 1 ∧
      (s.shell.queue.count ≥ Queue.maxQueueDepth ∧ s.silenced.count = s.shell.queue.count ∨
        s.shell.queue.count < Queue.maxQueueDepth ∧
          s.silenced.count = s.shell.queue.count + 1) := by
  by_cases full : s.shell.queue.count ≥ Queue.maxQueueDepth
  next =>
    simp [Sys.silenced, Queue.addSilence, Queue.silenceItem, Queue.addBuilt, Queue.addItem_eq,
      full, tagAdded]
  next =>
    have room : s.shell.queue.count < Queue.maxQueueDepth := by omega
    simp [Sys.silenced, Queue.addSilence, Queue.silenceItem, Queue.addBuilt, Queue.addItem_eq,
      full, room, tagAdded, Queue.tagItem]

theorem toned_has (encoder : Nat → Int → Int → Option (Nat → Int)) {s : Sys} (sounds : Sounds s) :
    toneIn s.shell.queue (s.toned encoder) = true := by
  obtain ⟨freq, dur, short, room⟩ := sounds
  obtain ⟨number, counted⟩ := silenced_counts s
  have built : ¬(s.cfg.freq ≤ 0 ∨ s.cfg.dur ≤ 0 ∨ s.cfg.dur > 300000) := by omega
  have free : ¬s.silenced.count ≥ Queue.maxQueueDepth := by omega
  have added : ∃ item ∈ (s.toned encoder).head,
      item.id = s.silenced.nextId ∧ item.source = Queue.copySource courtesyTag := by
    simp only [Sys.toned, Queue.addTone, Queue.toneItem, built, if_false, Queue.addBuilt,
      Queue.addItem_eq, free, tagAdded, Queue.tagItem]
    exact tagFirst_has courtesyTag ⟨_, Queue.mem_place.mpr (.inl rfl), rfl⟩
  obtain ⟨item, member, id, tagged⟩ := added
  refine List.any_eq_true.mpr ⟨item, member, ?_⟩
  simp [id, number, tagged, copySource_courtesyTag]

theorem toned_sounds {encoder : Nat → Int → Int → Option (Nat → Int)} {s : Sys}
    (sound : Sound s.shell.queue) (numbered : Numbered s.shell.queue)
    (made : toneIn s.shell.queue (s.toned encoder) = true) : Sounds s := by
  obtain ⟨number, counted⟩ := silenced_counts s
  by_contra fails
  -- Without a tone, the silence is the last item that has a number.
  have none : (s.toned encoder).head = s.silenced.head := by
    unfold Sys.toned Queue.addTone Queue.toneItem
    split
    next => rfl
    next built =>
      have full : s.silenced.count ≥ Queue.maxQueueDepth := by
        unfold Sounds at fails
        omega
      simp [Queue.addBuilt, Queue.addItem_eq, full, tagAdded]
  obtain ⟨item, member, new⟩ := List.any_eq_true.mp made
  rw [none] at member
  have older := (silenced_adds numbered sound).numbered item member
  simp only [Bool.and_eq_true, decide_eq_true_eq] at new
  omega

theorem toneIn_same {q : Queue.State} (numbered : Numbered q) : toneIn q q = false := by
  refine Bool.eq_false_iff.mpr fun made => ?_
  obtain ⟨item, member, new⟩ := List.any_eq_true.mp made
  have older := numbered item member
  simp only [Bool.and_eq_true, decide_eq_true_eq] at new
  omega

end Kerchunk.Courtesy
