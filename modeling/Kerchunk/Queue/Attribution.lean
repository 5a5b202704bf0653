import Kerchunk.Courtesy.Tones

set_option autoImplicit false

/-!
# Who queued what

The `*_src` adders add an item under the queue's lock and tag it under the lock again. Between the two,
any other thread may have the lock.
-/

namespace Kerchunk.Queue

open Shell (Sound)
open Courtesy (Numbered)

/-! ## The adders in two sections -/

inductive SrcAdder where
  | addBufferSrc (buf : List Int) (priority flags : Int)
  | addToneSrc (freqHz durationMs : Int) (tone : Option (Nat → Int)) (priority : Int)
  | addSilenceSrc (durationMs priority : Int)

def SrcAdder.item (rate : Nat) : SrcAdder → Option Item
  | .addBufferSrc buf priority flags => bufferItem buf priority flags
  | .addToneSrc freqHz durationMs tone priority => toneItem rate freqHz durationMs tone priority
  | .addSilenceSrc durationMs priority => silenceItem rate durationMs priority

theorem SrcAdder.item_plain {rate : Nat} {adder : SrcAdder} {item : Item}
    (built : adder.item rate = some item) : Plain item := by
  cases adder with
  | addBufferSrc buf priority flags => exact bufferItem_plain built
  | addToneSrc freqHz durationMs tone priority => exact toneItem_plain built
  | addSilenceSrc durationMs priority => exact silenceItem_plain built

/-- The queue, the calls that have added their item and not tagged it yet, by the id that the adder
returned, and the tag that each item was added with. -/
structure Board where
  queue : State
  waiting : Nat → Option (List Char)
  given : Nat → Option (List Char)

/-- `addSrc` and `tag` are the two sections of one call. -/
inductive Section where
  | produce (request : Producer)
  | addSrc (adder : SrcAdder) (source : List Char)
  | tag (id : Nat)
  | drain (maxN : Nat)

namespace Board

def start (rate : Nat) : Board where
  queue := init rate
  waiting := fun _ => none
  given := fun _ => none

def produce (s : Board) : Producer → Board
  -- A module tags by itself only what it has added without a tag.
  | .tagItem id source =>
    if (s.given id).isSome then s else { s with queue := tagItem s.queue id source }
  | request => { s with queue := Queue.produce s.queue request }

def addSrc (s : Board) (adder : SrcAdder) (source : List Char) : Board :=
  let added := addBuilt s.queue (adder.item s.queue.rate)
  match added.1 with
  | some id =>
    { queue := added.2
      waiting := Function.update s.waiting id (some source)
      given := Function.update s.given id (some source) }
  | none => { s with queue := added.2 }

def tag (s : Board) (id : Nat) : Board :=
  match s.waiting id with
  | some source =>
    { s with
      queue := tagItem s.queue id source
      waiting := Function.update s.waiting id none }
  | none => s

def step (s : Board) : Section → Board
  | .produce request => s.produce request
  | .addSrc adder source => s.addSrc adder source
  | .tag id => s.tag id
  | .drain maxN => { s with queue := (Queue.drain s.queue maxN).2 }

end Board

/-! ## What is reported -/

/-- `kerchunk_queue_drain_source`, of the item that was loaded last. -/
def Attributed (s : Board) : Prop :=
  ∀ source, s.given s.queue.drainItemId = some source → s.queue.drainSource = copySource source

/-- The item that a preempt asks for the source of: the one that plays, else the next one. -/
def preempted (q : State) : Option Nat :=
  if q.draining then some q.drainItemId else q.head.head?.map Item.id

def PreemptTells (s : Board) : Prop :=
  ∀ id, preempted s.queue = some id → ∀ source, s.given id = some source →
    preemptSource s.queue = copySource source

def Reports (s : Board) (i : Section) : Prop :=
  Attributed (s.step i) ∧ (i = .produce .preempt → PreemptTells s)

/-! ## When it is right -/

/-- The item that a drain loads. -/
def loads (q : State) (maxN : Nat) : Option Item :=
  if maxN = 0 ∨ 0 < q.gapRemaining ∨ (q.draining = true ∧ q.drainPos < q.drainLen) then none
  else q.head.find? fun item => !decide item.blank

/-- A drain loads no item that still has to be tagged. A preempt finds none next in line, and finds
no other tag behind an item that plays with an empty one. -/
def Ready (s : Board) : Section → Prop
  | .drain maxN => ∀ item, loads s.queue maxN = some item → ∀ source,
      s.waiting item.id = some source → copySource source = []
  | .produce .preempt =>
    if s.queue.draining then
      ∀ source, s.given s.queue.drainItemId = some source → copySource source = [] →
        ∀ item, s.queue.head.head? = some item → item.source = []
    else
      ∀ item, s.queue.head.head? = some item → ∀ source, s.waiting item.id = some source →
        copySource source = []
  | _ => True

/-! ## The loader tells the source of what it loads -/

theorem loadFrom_told (q : State) (items : List Item) :
    (loadFrom q items).2.drainItemId =
        ((items.find? fun item => !decide item.blank).map Item.id).getD q.drainItemId ∧
      (loadFrom q items).2.drainSource =
        ((items.find? fun item => !decide item.blank).map
          fun item => copySource item.source).getD q.drainSource := by
  induction items generalizing q with
  | nil => exact ⟨rfl, rfl⟩
  | cons first rest ih =>
    by_cases blank : first.blank
    next =>
      have skip : loadFrom q (first :: rest) = loadFrom (popHead q rest) rest := by
        simp [loadFrom, blank.1, blank.2]
      rw [skip, List.find?_cons_of_neg (by simp [blank])]
      exact ih (popHead q rest)
    next =>
      rw [List.find?_cons_of_pos (by simp [blank])]
      rw [loadFrom]
      cases type : first.type with
      | audioFile =>
        have some : 0 < first.buf.length := by
          rw [List.length_pos_iff]
          exact fun empty => blank ⟨type, empty⟩
        simp only [gt_iff_lt, some, if_true]
        exact ⟨rfl, rfl⟩
      | audioBuffer => exact ⟨rfl, rfl⟩
      | tone => exact ⟨rfl, rfl⟩
      | silence => exact ⟨rfl, rfl⟩

theorem drainAdvance_told (q : State) (maxN : Nat) :
    (drainAdvance q maxN).drainItemId = q.drainItemId ∧
      (drainAdvance q maxN).drainSource = q.drainSource := by
  unfold drainAdvance
  simp only
  split <;> exact ⟨rfl, rfl⟩

theorem ensureLoaded_told (q : State) :
    (ensureLoaded q).2.drainItemId =
        ((if q.draining = true ∧ q.drainPos < q.drainLen then none
          else q.head.find? fun item => !decide item.blank).map Item.id).getD q.drainItemId ∧
      (ensureLoaded q).2.drainSource =
        ((if q.draining = true ∧ q.drainPos < q.drainLen then none
          else q.head.find? fun item => !decide item.blank).map
            fun item => copySource item.source).getD q.drainSource := by
  by_cases playing : q.draining = true ∧ q.drainPos < q.drainLen
  next =>
    rw [if_pos playing, ensureLoaded]
    simp [playing.1, Nat.not_le_of_lt playing.2]
  next =>
    have finished : (!q.draining || decide (q.drainPos ≥ q.drainLen)) = true := by
      rw [not_and_or, Bool.not_eq_true, Nat.not_lt] at playing
      simpa using playing
    rw [if_neg playing, ensureLoaded, if_pos finished]
    exact loadFrom_told { q with draining := false } q.head

theorem drain_told (q : State) (maxN : Nat) :
    (drain q maxN).2.drainItemId = ((loads q maxN).map Item.id).getD q.drainItemId ∧
      (drain q maxN).2.drainSource =
        ((loads q maxN).map fun item => copySource item.source).getD q.drainSource := by
  rw [drain, loads]
  by_cases asked : maxN = 0
  next => simp [asked]
  next =>
    by_cases gap : 0 < q.gapRemaining
    next => simp [asked, gap]
    next =>
      have loaded := ensureLoaded_told q
      simp only [asked, gap, if_false, false_or]
      split
      next q' none =>
        rw [none] at loaded
        exact loaded
      next q' some =>
        rw [some] at loaded
        have told := drainAdvance_told q' maxN
        exact ⟨told.1.trans loaded.1, told.2.trans loaded.2⟩

/-! ## Each item has its tag, or its call still owes it -/

structure Kept (s : Board) : Prop where
  sound : Sound s.queue
  numbered : Numbered s.queue
  once : (s.queue.head.map Item.id).Nodup
  loaded : s.queue.drainItemId < s.queue.nextId
  fresh : ∀ id, s.queue.nextId ≤ id → s.given id = none
  owed : ∀ id source, s.waiting id = some source → s.given id = some source
  tags : ∀ item ∈ s.queue.head, ∀ source, s.given item.id = some source →
    item.source = if s.waiting item.id = none then copySource source else []
  told : Attributed s

theorem start_kept (rate : Nat) : Kept (.start rate) := by
  constructor <;> simp [Board.start, init, Numbered, Attributed]
  exact ⟨by simp, rfl⟩

theorem copySource_copySource (source : List Char) :
    copySource (copySource source) = copySource source := by
  simp [copySource, List.take_take]

theorem tagFirst_map {items : List Item} (once : (items.map Item.id).Nodup) (id : Nat)
    (source : List Char) : tagFirst id source items =
      items.map fun it => if it.id = id then { it with source := copySource source } else it := by
  induction items with
  | nil => rfl
  | cons first rest ih =>
    obtain ⟨alone, once⟩ := List.nodup_cons.mp once
    rw [tagFirst, List.map_cons]
    split
    next here =>
      have others : (rest.map fun it =>
          if it.id = id then { it with source := copySource source } else it) = rest := by
        conv_rhs => rw [← List.map_id rest]
        refine List.map_congr_left fun it member => if_neg fun same => ?_
        exact alone (List.mem_map.mpr ⟨it, member, same.trans here.symm⟩)
      rw [others]
    next => rw [ih once]

theorem addBuilt_told (q : State) (built : Option Item)
    (plain : ∀ item, built = some item → Plain item) :
    ((addBuilt q built).1 = none ∧ ((addBuilt q built).2 = q ∨
        (addBuilt q built).2 = { q with nextId := q.nextId + 1 })) ∨
      ∃ item, Plain item ∧ item.id = q.nextId ∧ addBuilt q built =
        (some q.nextId,
          { q with nextId := q.nextId + 1, head := place q item, count := q.count + 1 }) := by
  cases built with
  | none => exact .inl ⟨rfl, .inl rfl⟩
  | some item =>
    have itemPlain := plain item rfl
    by_cases full : q.count ≥ maxQueueDepth
    next => exact .inl (by simp [addBuilt, addItem_eq, full])
    next =>
      refine .inr ⟨{ item with id := q.nextId }, ⟨itemPlain.untagged, itemPlain.data⟩, rfl, ?_⟩
      simp [addBuilt, addItem_eq, full]

theorem skipped_kept {s : Board} (kept : Kept s) :
    Kept { s with queue := { s.queue with nextId := s.queue.nextId + 1 } } where
  sound := ⟨kept.sound.data, kept.sound.count⟩
  numbered := fun item member => Nat.lt_succ_of_lt (kept.numbered item member)
  once := kept.once
  loaded := Nat.lt_succ_of_lt kept.loaded
  fresh := fun id later => kept.fresh id (Nat.le_of_succ_le later)
  owed := kept.owed
  tags := kept.tags
  told := kept.told

theorem placed_kept {s : Board} (kept : Kept s) {item : Item} (plain : Plain item)
    (number : item.id = s.queue.nextId) (note : Option (List Char)) :
    Kept
      { queue :=
          { s.queue with
            nextId := s.queue.nextId + 1
            head := place s.queue item
            count := s.queue.count + 1 }
        waiting := Function.update s.waiting s.queue.nextId note
        given := Function.update s.given s.queue.nextId note } where
  sound := by
    constructor
    case data =>
      intro other member
      rcases mem_place.mp member with rfl | old
      next => exact plain.data
      next => exact kept.sound.data other old
    case count =>
      have length := (place_perm s.queue item).length_eq
      have count := kept.sound.count
      simp only [List.length_cons] at length ⊢
      omega
  numbered := by
    intro other member
    rcases mem_place.mp member with rfl | old
    next => exact number ▸ Nat.lt_succ_self _
    next => exact Nat.lt_succ_of_lt (kept.numbered other old)
  once := by
    refine ((place_perm s.queue item).map Item.id).nodup_iff.mpr ?_
    refine List.nodup_cons.mpr ⟨?_, kept.once⟩
    rw [number]
    intro member
    obtain ⟨other, old, same⟩ := List.mem_map.mp member
    exact Nat.lt_irrefl _ (same ▸ kept.numbered other old)
  loaded := Nat.lt_succ_of_lt kept.loaded
  fresh := by
    intro id later
    simp only [Function.update_of_ne (Nat.ne_of_gt later)]
    exact kept.fresh id (Nat.le_of_succ_le later)
  owed := by
    intro id source
    by_cases same : id = s.queue.nextId
    next => simp [same]
    next =>
      simp only [Function.update_of_ne same]
      exact kept.owed id source
  tags := by
    intro other member source
    rcases mem_place.mp member with rfl | old
    next =>
      simp only [number, Function.update_self]
      rintro rfl
      exact plain.untagged
    next =>
      have older : other.id ≠ s.queue.nextId := Nat.ne_of_lt (kept.numbered other old)
      simp only [Function.update_of_ne older]
      exact kept.tags other old source
  told := by
    intro source
    simp only [Function.update_of_ne (Nat.ne_of_lt kept.loaded)]
    exact kept.told source

theorem unnoted {s : Board} (kept : Kept s) :
    s.given s.queue.nextId = none ∧ s.waiting s.queue.nextId = none := by
  have unknown := kept.fresh s.queue.nextId (Nat.le_refl _)
  refine ⟨unknown, Option.eq_none_iff_forall_not_mem.mpr fun source waits => ?_⟩
  have given := kept.owed s.queue.nextId source waits
  rw [unknown] at given
  cases given

theorem added_kept {s : Board} (kept : Kept s) (built : Option Item)
    (plain : ∀ item, built = some item → Plain item) :
    Kept { s with queue := (addBuilt s.queue built).2 } := by
  rcases addBuilt_told s.queue built plain with ⟨_, same | skipped⟩ | ⟨item, itemPlain, number, placed⟩
  next =>
    rw [same]
    exact kept
  next =>
    rw [skipped]
    exact skipped_kept kept
  next =>
    have after := placed_kept kept itemPlain number none
    obtain ⟨unknown, unwaited⟩ := unnoted kept
    have given : Function.update s.given s.queue.nextId none = s.given := by
      rw [← unknown, Function.update_eq_self]
    have waiting : Function.update s.waiting s.queue.nextId none = s.waiting := by
      rw [← unwaited, Function.update_eq_self]
    rw [given, waiting] at after
    rw [placed]
    exact after

theorem addSrc_kept {s : Board} (kept : Kept s) (adder : SrcAdder) (source : List Char) :
    Kept (s.addSrc adder source) := by
  have plain : ∀ item, adder.item s.queue.rate = some item → Plain item :=
    fun item built => SrcAdder.item_plain built
  rw [Board.addSrc]
  rcases addBuilt_told s.queue _ plain with ⟨refused, _⟩ | ⟨item, itemPlain, number, placed⟩
  next =>
    simp only [refused]
    exact added_kept kept _ plain
  next =>
    rw [placed]
    exact placed_kept kept itemPlain number (some source)

theorem retagged_kept {s : Board} (kept : Kept s) {id : Nat} {source : List Char}
    (waiting : Nat → Option (List Char))
    (owed : ∀ id source, waiting id = some source → s.waiting id = some source)
    (tags : ∀ item ∈ s.queue.head, ∀ known, s.given item.id = some known →
      (if item.id = id then copySource source else item.source) =
        if waiting item.id = none then copySource known else []) :
    Kept { s with queue := tagItem s.queue id source, waiting := waiting } where
  sound := Shell.sound_produce kept.sound (.tagItem id source)
  numbered := Courtesy.numbered_produce kept.numbered (.tagItem id source)
  once := by
    rw [tagItem, Shell.tagFirst_ids]
    exact kept.once
  loaded := kept.loaded
  fresh := kept.fresh
  owed := fun other known waits => kept.owed other known (owed other known waits)
  tags := by
    intro item member known given
    simp only [tagItem, tagFirst_map kept.once] at member
    obtain ⟨before, old, rfl⟩ := List.mem_map.mp member
    have mine := tags before old known
    split at given
    next same =>
      rw [if_pos same] at mine
      rw [if_pos same]
      exact mine given
    next other =>
      rw [if_neg other] at mine
      rw [if_neg other]
      exact mine given
  told := kept.told

theorem tag_kept {s : Board} (kept : Kept s) (id : Nat) : Kept (s.tag id) := by
  rw [Board.tag]
  cases waits : s.waiting id with
  | none => exact kept
  | some source =>
    refine retagged_kept kept _ ?_ ?_
    next =>
      intro other known waiting
      by_cases same : other = id
      next => simp [same] at waiting
      next => rwa [Function.update_of_ne same] at waiting
    next =>
      intro item member known given
      by_cases same : item.id = id
      next =>
        rw [same, kept.owed id source waits, Option.some.injEq] at given
        rw [if_pos same, same, Function.update_self, if_pos rfl, given]
      next =>
        rw [if_neg same, Function.update_of_ne same]
        exact kept.tags item member known given

theorem cleared_kept {s : Board} (kept : Kept s) {q : State} (head : q.head = [])
    (count : q.count = 0) (nextId : q.nextId = s.queue.nextId)
    (itemId : q.drainItemId = s.queue.drainItemId) (source : q.drainSource = s.queue.drainSource) :
    Kept { s with queue := q } where
  sound := ⟨by simp [head], by simp [head, count]⟩
  numbered := by simp [Numbered, head]
  once := by simp [head]
  loaded := by
    simp only [itemId, nextId]
    exact kept.loaded
  fresh := by
    simp only [nextId]
    exact kept.fresh
  owed := kept.owed
  tags := by simp [head]
  told := by
    simp only [Attributed, itemId, source]
    exact kept.told

theorem produce_kept {s : Board} (kept : Kept s) (request : Producer) : Kept (s.produce request) := by
  cases request with
  | addFile path priority => exact added_kept kept _ fun _ => fileItem_plain
  | addBuffer buf priority flags => exact added_kept kept _ fun _ => bufferItem_plain
  | addTone freqHz durationMs tone priority => exact added_kept kept _ fun _ => toneItem_plain
  | addSilence durationMs priority => exact added_kept kept _ fun _ => silenceItem_plain
  | tagItem id source =>
    rw [Board.produce]
    split
    next => exact kept
    next unknown =>
      refine retagged_kept kept s.waiting (fun _ _ waits => waits) fun item member known given => ?_
      have other : item.id ≠ id := by
        rintro rfl
        simp [given] at unknown
      rw [if_neg other]
      exact kept.tags item member known given
  | flush => exact cleared_kept kept rfl rfl rfl rfl rfl
  | preempt =>
    refine cleared_kept kept rfl rfl ?_ ?_ ?_
    all_goals
      simp only [Queue.produce, preempt]
      split <;> rfl

theorem loads_mem {q : State} {maxN : Nat} {item : Item} (loaded : loads q maxN = some item) :
    item ∈ q.head := by
  rw [loads] at loaded
  split at loaded
  next => cases loaded
  next => exact List.mem_of_find?_eq_some loaded

theorem drain_attributed {s : Board} (kept : Kept s) (maxN : Nat) :
    Attributed (s.step (.drain maxN)) ↔ Ready s (.drain maxN) := by
  obtain ⟨itemId, source⟩ := drain_told s.queue maxN
  simp only [Attributed, Board.step, Ready, itemId, source]
  cases loaded : loads s.queue maxN with
  | none =>
    simp only [Option.map_none, Option.getD_none]
    exact iff_of_true kept.told (by simp)
  | some item =>
    have tags := kept.tags item (loads_mem loaded)
    simp only [Option.map_some, Option.getD_some, Option.some.injEq, forall_eq']
    constructor
    next =>
      intro told source waits
      have given := kept.owed item.id source waits
      have empty := tags source given
      rw [if_neg (by simp [waits])] at empty
      rw [← told source given, empty]
      rfl
    next =>
      intro ready source given
      rw [tags source given]
      split
      next => exact copySource_copySource source
      next waits =>
        obtain ⟨owed, waiting⟩ := Option.ne_none_iff_exists'.mp waits
        have same := kept.owed item.id owed waiting
        rw [given, Option.some.injEq] at same
        rw [same, ready owed waiting]
        rfl

theorem drain_kept {s : Board} (kept : Kept s) {maxN : Nat} (ready : Ready s (.drain maxN)) :
    Kept (s.step (.drain maxN)) where
  sound := Shell.sound_drain kept.sound maxN
  numbered := Courtesy.numbered_drain kept.sound kept.numbered maxN
  once := by
    have line := (Shell.drain_takes kept.sound maxN).line
    have once := kept.once
    rw [← line, List.map_append] at once
    exact (List.nodup_append.mp once).2.1
  loaded := by
    simp only [Board.step, Courtesy.drain_nextId kept.sound, (drain_told s.queue maxN).1]
    cases loaded : loads s.queue maxN with
    | none => exact kept.loaded
    | some item => exact kept.numbered item (loads_mem loaded)
  fresh := by
    simp only [Board.step, Courtesy.drain_nextId kept.sound]
    exact kept.fresh
  owed := kept.owed
  tags := by
    intro item member
    refine kept.tags item ?_
    rw [← (Shell.drain_takes kept.sound maxN).line]
    exact List.mem_append_right _ member
  told := (drain_attributed kept maxN).mpr ready

theorem step_kept {s : Board} (kept : Kept s) {i : Section} (ready : Ready s i) :
    Kept (s.step i) := by
  cases i with
  | produce request => exact produce_kept kept request
  | addSrc adder source => exact addSrc_kept kept adder source
  | tag id => exact tag_kept kept id
  | drain maxN => exact drain_kept kept ready

/-! ## Reports -/

theorem preempt_tells {s : Board} (kept : Kept s) :
    PreemptTells s ↔ Ready s (.produce .preempt) := by
  rw [PreemptTells, preempted, Ready, preemptSource]
  cases draining : s.queue.draining with
  | true =>
    simp only [if_true, Option.some.injEq, forall_eq', Bool.true_and]
    refine forall_congr' fun source => forall_congr' fun given => ?_
    rw [kept.told source given]
    by_cases empty : copySource source = []
    next =>
      simp only [empty, List.isEmpty_nil, Bool.not_true, Bool.false_eq_true, if_false, forall_const]
      cases s.queue.head <;> simp
    next => simp [empty]
  | false =>
    simp only [Bool.false_eq_true, if_false, Bool.false_and]
    cases line : s.queue.head with
    | nil => simp
    | cons item rest =>
      have tags := kept.tags item (by simp [line])
      simp only [List.head?_cons, Option.map_some, Option.some.injEq, forall_eq']
      constructor
      next =>
        intro told source waits
        have given := kept.owed item.id source waits
        rw [← told source given, tags source given, if_neg (by simp [waits])]
      next =>
        intro ready source given
        rw [tags source given]
        split
        next => rfl
        next waits =>
          obtain ⟨owed, waiting⟩ := Option.ne_none_iff_exists'.mp waits
          have same := kept.owed item.id owed waiting
          rw [given, Option.some.injEq] at same
          rw [same, ready owed waiting]

theorem reports_iff {s : Board} (kept : Kept s) (i : Section) : Reports s i ↔ Ready s i := by
  have attributed (ready : Ready s i) : Attributed (s.step i) := (step_kept kept ready).told
  cases i with
  | produce request =>
    cases request with
    | preempt =>
      have after : Attributed (s.step (.produce .preempt)) := (produce_kept kept .preempt).told
      rw [Reports, ← preempt_tells kept]
      simp [after]
    | _ => simp [Reports, attributed trivial, Ready]
  | addSrc adder source => simp [Reports, attributed trivial, Ready]
  | tag id => simp [Reports, attributed trivial, Ready]
  | drain maxN =>
    rw [← drain_attributed kept maxN]
    simp [Reports]

end Kerchunk.Queue
