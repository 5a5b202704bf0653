import Kerchunk.Queue.History
import Mathlib.Data.List.Infix

set_option autoImplicit false

namespace Kerchunk.Queue

/-! ## Facts about the model's functions -/

structure Plain (item : Item) : Prop where
  untagged : item.source = []
  data : item.type = .audioFile ∨ item.type = .audioBuffer

theorem fileItem_plain {rate : Nat} {path : Option FileData} {priority : Int} {item : Item}
    (built : fileItem rate path priority = some item) : Plain item := by
  obtain ⟨buf, _, rfl⟩ := Option.map_eq_some_iff.mp built
  exact ⟨rfl, .inl rfl⟩

theorem bufferItem_plain {buf : List Int} {priority flags : Int} {item : Item}
    (built : bufferItem buf priority flags = some item) : Plain item := by
  unfold bufferItem at built
  split at built
  · cases built
  · cases built
    exact ⟨rfl, .inr rfl⟩

theorem toneItem_plain {rate : Nat} {freqHz durationMs : Int} {tone : Option (Nat → Int)}
    {priority : Int} {item : Item}
    (built : toneItem rate freqHz durationMs tone priority = some item) : Plain item := by
  unfold toneItem at built
  split at built
  · cases built
  · cases built
    exact ⟨rfl, .inr rfl⟩

theorem silenceItem_plain {rate : Nat} {durationMs priority : Int} {item : Item}
    (built : silenceItem rate durationMs priority = some item) : Plain item := by
  unfold silenceItem at built
  split at built
  · cases built
  · cases built
    exact ⟨rfl, .inr rfl⟩

theorem tagFirst_untagged (id : Nat) (source : List Char) (items : List Item) :
    (tagFirst id source items).map Item.untagged = items.map Item.untagged := by
  induction items with
  | nil => rfl
  | cons head rest ih =>
      simp only [tagFirst]
      split
      · simp [Item.untagged]
      · simp [ih]

def started (q : State) (item : Item) (rest : List Item) (pops : Nat) : State :=
  -- The state after the loader has started `item` and left `rest` in the list.
  startDrain
    { q with
      head := rest
      count := q.count - pops
      drainBuf := item.buf
      drainLen := item.buf.length
      drainPos := 0 } item

/-- The loader found nothing to play. -/
structure Silent (q q' : State) : Prop where
  head : q'.head = []
  count : q'.count = q.count - q.head.length
  batch : q'.batchActive = false
  draining : q'.draining = q.draining
  gap : q'.gapRemaining = q.gapRemaining
  nextId : q'.nextId = q.nextId
  rate : q'.rate = q.rate

theorem loadFrom_cases (q : State) (items : List Item) (current : q.head = items)
    (data : ∀ item ∈ items, item.type = .audioFile ∨ item.type = .audioBuffer) :
    (∃ q', loadFrom q items = (false, q') ∧ (∀ item ∈ items, item.blank) ∧ Silent q q') ∨
    (∃ skipped item rest, items = skipped ++ item :: rest ∧ (∀ other ∈ skipped, other.blank) ∧
      ¬ item.blank ∧ loadFrom q items = (true, started q item rest (skipped.length + 1))) := by
  induction items generalizing q with
  | nil =>
      refine .inl ⟨_, rfl, by simp, ?_⟩
      exact ⟨current, by simp [current], rfl, rfl, rfl, rfl, rfl⟩
  | cons first rest ih =>
      by_cases blank : first.blank
      · have skip : loadFrom q (first :: rest) = loadFrom (popHead q rest) rest := by
          simp [loadFrom, blank.1, blank.2]
        rcases ih (popHead q rest) rfl (fun item member => data item (List.mem_cons_of_mem _ member))
          with ⟨q', loaded, allBlank, silent⟩ | ⟨skipped, item, after, split, blanks, sound, loaded⟩
        · refine .inl ⟨q', skip.trans loaded, ?_, ?_⟩
          · simpa using ⟨blank, allBlank⟩
          · refine ⟨silent.head, ?_, silent.batch, silent.draining, silent.gap, silent.nextId,
              silent.rate⟩
            have counted := silent.count
            simp only [popHead] at counted
            rw [counted, current, List.length_cons]
            omega
        · refine .inr ⟨first :: skipped, item, after, by simp [split], ?_, sound, ?_⟩
          · simpa using ⟨blank, blanks⟩
          · rw [skip, loaded]
            simp only [started, popHead, List.length_cons, Prod.mk.injEq, true_and]
            congr 2
            push_cast
            omega
      · refine .inr ⟨[], first, rest, rfl, by simp, blank, ?_⟩
        rcases data first (List.mem_cons_self ..) with file | buffer
        · have some : first.buf.length > 0 := by
            rw [gt_iff_lt, List.length_pos_iff]
            exact fun empty => blank ⟨file, empty⟩
          simp [loadFrom, file, some, started, popHead, startDrain]
        · simp [loadFrom, buffer, started, popHead, startDrain]

/-! ## The invariant -/

/-- The last play, of the item that is being drained. -/
structure Current (q : State) (p : Play) : Prop where
  id : p.item.id = q.drainItemId
  type : p.item.type = q.drainType
  buf : p.item.buf = q.drainBuf
  len : q.drainLen = q.drainBuf.length
  pos : q.drainPos ≤ q.drainLen
  samples : p.samples = q.drainBuf.take q.drainPos
  gapless : p.gap = []
  full : ∀ f ∈ p.frames, f.body.length = f.size

structure Inv (rate : Nat) (h : History) (plays : List Play) : Prop where
  rate : h.queue.rate = rate
  played : Played h plays
  once : EachOnce h
  fresh : ∀ item ∈ h.accepted, item.id < h.queue.nextId
  lateFresh : ∀ id ∈ h.late, id < h.queue.nextId
  ordered : InOrder h
  counted : Counted h.queue
  batched : h.queue.draining = true ∨ 0 < h.queue.gapRemaining → h.queue.batchActive = true
  prompt : h.queue.batchActive = false → ∀ item ∈ h.queue.head, item.id ∉ h.late
  data : ∀ item ∈ h.queue.head, item.type = .audioFile ∨ item.type = .audioBuffer
  onAir : h.queue.draining = true → h.queue.gapRemaining = 0 ∧
    ∃ earlier p, plays = earlier ++ [p] ∧
      (∀ other ∈ earlier, other.samples = other.item.buf ∨ other.item.id ∈ h.cut) ∧
      Current h.queue p
  inGap : 0 < h.queue.gapRemaining → h.queue.head ≠ [] ∧
    ∃ earlier p, plays = earlier ++ [p] ∧ p.item.type = .audioFile ∧ p.samples = p.item.buf ∧
      p.gapLength + h.queue.gapRemaining = gapSamples h.queue

theorem Inv.head_fresh {rate : Nat} {h : History} {plays : List Play} (inv : Inv rate h plays)
    {item : Item} (member : item ∈ h.queue.head) : item.id < h.queue.nextId := by
  have kept : item.untagged ∈ h.accepted := by
    apply inv.once.kept.subset
    exact List.mem_map_of_mem (List.mem_append_right _ member)
  exact inv.fresh item.untagged kept

theorem start_inv (rate : Nat) : Inv rate (start rate) [] where
  rate := rfl
  played := ⟨rfl, rfl, by simp⟩
  once := ⟨List.nodup_nil, List.Perm.refl _⟩
  fresh := by simp [start]
  lateFresh := by simp [start]
  ordered := List.Pairwise.nil
  counted := ⟨rfl, by simp [start, init]⟩
  batched := by simp [start, init]
  prompt := by simp [start, init]
  data := by simp [start, init]
  onAir := by simp [start, init]
  inGap := by simp [start, init]

theorem Play.Sound.carry {h h' : History} {p : Play} (sound : p.Sound h)
    (rate : h'.queue.rate = h.queue.rate)
    (whole : p.samples = p.item.buf ∨ p.item.id ∈ h'.cut ∨
      h'.queue.draining = true ∧ h'.queue.drainItemId = p.item.id) : p.Sound h' :=
  -- A play stays sound when its account of how it ended does.
  { sound with
    whole := whole
    gapBounded := by
      have bounded := sound.gapBounded
      rwa [gapSamples, ← rate] at bounded }

theorem Played.carry {h h' : History} {plays : List Play} (played : Played h plays)
    (rate : h'.queue.rate = h.queue.rate) (out : h'.out = h.out)
    (items : (h'.left.filter Departure.played).map Departure.item =
      (h.left.filter Departure.played).map Departure.item)
    (whole : ∀ p ∈ plays, p.samples = p.item.buf ∨ p.item.id ∈ h'.cut ∨
      h'.queue.draining = true ∧ h'.queue.drainItemId = p.item.id) : Played h' plays where
  output := out.trans played.output
  items := played.items.trans items.symm
  sound p member := (played.sound p member).carry rate (whole p member)

/-! ## Adding and tagging -/

theorem precedes_place {late : List Nat} {q : State} {item : Item}
    (ordered : q.head.Pairwise (Precedes late))
    (latest : ∀ other ∈ q.head, other.id < item.id)
    (prompt : q.batchActive = false → ∀ other ∈ q.head, other.id ∉ late)
    (isLate : item.id ∈ late ↔ ¬ Idle q) :
    (place q item).Pairwise (Precedes late) := by
  unfold place
  split_ifs with idle
  · have onTime := prompt idle.1
    have before : q.head.Pairwise (StableInsert.Before Item.priority Item.id) := by
      refine ordered.imp_of_mem fun {x y} xIn yIn precedes => ?_
      simpa [Precedes, onTime x xIn, onTime y yIn] using precedes
    refine (StableInsert.insert_ordered Item.priority Item.id before latest).imp_of_mem
      fun {x y} xIn yIn earlier => ?_
    have notLate : ∀ other, other ∈ StableInsert.insert Item.priority item q.head →
        other.id ∉ late := by
      intro other member
      rcases (StableInsert.mem_insert Item.priority).mp member with rfl | old
      · exact fun claimed => isLate.mp claimed idle
      · exact onTime other old
    exact .inr (.inl ⟨notLate x xIn, notLate y yIn, earlier⟩)
  · refine List.pairwise_append.mpr ⟨ordered, List.pairwise_singleton _ _, ?_⟩
    intro other member last isItem
    rw [List.mem_singleton.mp isItem]
    by_cases otherLate : other.id ∈ late
    · exact .inr (.inr ⟨otherLate, isLate.mpr idle, latest other member⟩)
    · exact .inl ⟨otherLate, isLate.mpr idle⟩

theorem precedes_fresh {late : List Nat} {id : Nat} {items : List Item}
    (ordered : items.Pairwise (Precedes late)) (old : ∀ item ∈ items, item.id < id) :
    items.Pairwise (Precedes (late ++ [id])) := by
  refine ordered.imp_of_mem fun {x y} xIn yIn precedes => ?_
  have xOld : x.id ≠ id := (old x xIn).ne
  have yOld : y.id ≠ id := (old y yIn).ne
  simpa [Precedes, xOld, yOld] using precedes

theorem Inv.not_idle {rate : Nat} {h : History} {plays : List Play} (inv : Inv rate h plays) :
    ¬ Idle h.queue ↔ h.queue.batchActive = true := by
  constructor
  · intro busy
    by_contra quiet
    have quiet : h.queue.batchActive = false := by simpa using quiet
    have noDrain : h.queue.draining = false := by
      by_contra draining
      simp [inv.batched (.inl (by simpa using draining))] at quiet
    have noGap : h.queue.gapRemaining = 0 := by
      by_contra gap
      simp [inv.batched (.inr (Nat.pos_of_ne_zero gap))] at quiet
    exact busy ⟨quiet, noDrain, noGap⟩
  · intro batch idle
    simp [idle.1] at batch

def History.placed (h : History) (item : Item) : History :=
  -- The history after the queue has taken `item` under the next id.
  { h with
    queue :=
      { h.queue with
        nextId := h.queue.nextId + 1
        head := place h.queue item
        count := h.queue.count + 1 }
    accepted := h.accepted ++ [item]
    late := if h.queue.batchActive then h.late ++ [item.id] else h.late }

theorem placed_isLate {rate : Nat} {h : History} {plays : List Play} (inv : Inv rate h plays)
    {item : Item} (numbered : item.id = h.queue.nextId) :
    item.id ∈ (h.placed item).late ↔ ¬ Idle h.queue := by
  rw [inv.not_idle, numbered]
  by_cases batch : h.queue.batchActive = true
  · simp [History.placed, batch, numbered]
  · have old : h.queue.nextId ∉ h.late := fun claimed => Nat.lt_irrefl _ (inv.lateFresh _ claimed)
    simp [History.placed, batch, old]

theorem placed_once {rate : Nat} {h : History} {plays : List Play} (inv : Inv rate h plays)
    {item : Item} (plain : Plain item) (numbered : item.id = h.queue.nextId) :
    EachOnce (h.placed item) := by
  -- Placed, left and tagged items together are still those accepted, each once.
  have self : item.untagged = item := by
    cases item
    simpa [Item.untagged] using plain.untagged.symm
  refine ⟨?_, ?_⟩
  · have distinct := inv.once.distinct
    simp only [History.placed, List.map_append, List.map_cons, List.map_nil]
    refine List.nodup_append.mpr ⟨distinct, by simp, ?_⟩
    intro id member other last
    obtain ⟨old, oldIn, rfl⟩ := List.mem_map.mp member
    have := inv.fresh old oldIn
    simp only [List.mem_singleton] at last
    omega
  · have moved : (h.left.map Departure.item ++ place h.queue item).Perm
        ((h.left.map Departure.item ++ h.queue.head) ++ [item]) := by
      rw [List.append_assoc]
      exact List.Perm.append_left _
        ((place_perm h.queue item).trans (List.perm_append_singleton item h.queue.head).symm)
    have split : ((h.left.map Departure.item ++ h.queue.head) ++ [item]).map Item.untagged =
        (h.left.map Departure.item ++ h.queue.head).map Item.untagged ++ [item] := by
      rw [List.map_append, List.map_singleton, self]
    refine (moved.map Item.untagged).trans ?_
    rw [split]
    exact inv.once.kept.append_right [item]

theorem placed_lateFresh {rate : Nat} {h : History} {plays : List Play} (inv : Inv rate h plays)
    {item : Item} (numbered : item.id = h.queue.nextId) :
    ∀ id ∈ (h.placed item).late, id < h.queue.nextId + 1 := by
  intro id member
  by_cases batch : h.queue.batchActive = true
  · simp only [History.placed, batch, if_true, List.mem_append, List.mem_singleton] at member
    rcases member with old | rfl
    · exact Nat.lt_succ_of_lt (inv.lateFresh id old)
    · rw [numbered]
      exact Nat.lt_succ_self _
  · simp only [History.placed, batch] at member
    exact Nat.lt_succ_of_lt (inv.lateFresh id member)

theorem placed_ordered {rate : Nat} {h : History} {plays : List Play} (inv : Inv rate h plays)
    {item : Item} (numbered : item.id = h.queue.nextId) : InOrder (h.placed item) := by
  have isLate := placed_isLate inv numbered
  have onTime : h.queue.batchActive = false → ∀ other ∈ h.queue.head,
      other.id ∉ (h.placed item).late := by
    intro quiet
    simpa [History.placed, quiet] using inv.prompt quiet
  have older : ∀ other ∈ h.queue.head, other.id < item.id := by
    intro other member
    rw [numbered]
    exact inv.head_fresh member
  have ordered : h.queue.head.Pairwise (Precedes (h.placed item).late) := by
    by_cases batch : h.queue.batchActive = true
    · simpa [History.placed, batch] using precedes_fresh inv.ordered older
    · simpa [InOrder, History.placed, batch] using inv.ordered
  exact precedes_place ordered older onTime isLate

theorem inv_placed {rate : Nat} {h : History} {plays : List Play} (inv : Inv rate h plays)
    {item : Item} (plain : Plain item) (numbered : item.id = h.queue.nextId)
    (room : ¬ h.queue.count ≥ maxQueueDepth) : Inv rate (h.placed item) plays := by
  have isLate := placed_isLate inv numbered
  have nonempty : place h.queue item ≠ [] := by
    intro empty
    have : item ∈ place h.queue item := mem_place.mpr (.inl rfl)
    simp [empty] at this
  exact {
    rate := inv.rate
    played := inv.played.carry rfl rfl rfl fun p member => (inv.played.sound p member).whole
    once := placed_once inv plain numbered
    fresh := by
      intro other member
      rcases List.mem_append.mp member with old | new
      · exact Nat.lt_succ_of_lt (inv.fresh other old)
      · rw [List.mem_singleton.mp new, numbered]
        exact Nat.lt_succ_self _
    lateFresh := placed_lateFresh inv numbered
    ordered := placed_ordered inv numbered
    counted := by
      have counted := inv.counted.1
      have length := (place_perm h.queue item).length_eq
      simp only [List.length_cons] at length
      refine ⟨?_, ?_⟩
      · show h.queue.count + 1 = ((place h.queue item).length : Int)
        omega
      · show (place h.queue item).length ≤ maxQueueDepth
        omega
    batched := inv.batched
    prompt := by
      intro quiet other member
      rcases mem_place.mp member with rfl | old
      · have idle : Idle h.queue := by
          by_contra busy
          have batch := inv.not_idle.mp busy
          rw [show h.queue.batchActive = false from quiet] at batch
          cases batch
        exact fun claimed => isLate.mp claimed idle
      · have onTime := inv.prompt quiet other old
        simpa [History.placed, show h.queue.batchActive = false from quiet] using onTime
    data := by
      intro other member
      rcases mem_place.mp member with rfl | old
      · exact plain.data
      · exact inv.data other old
    onAir := fun draining => by
      obtain ⟨noGap, earlier, p, split, ended, current⟩ := inv.onAir draining
      exact ⟨noGap, earlier, p, split, ended, { current with }⟩
    inGap := fun gap => ⟨nonempty, (inv.inGap gap).2⟩ }

theorem inv_accept {rate : Nat} {h : History} {plays : List Play} (inv : Inv rate h plays)
    (built : Option Item) (plain : ∀ item, built = some item → Plain item) :
    Inv rate (h.accept built (addBuilt h.queue built)) plays := by
  cases built with
  | none => exact inv
  | some item =>
      by_cases full : h.queue.count ≥ maxQueueDepth
      · have refused : h.accept (some item) (addBuilt h.queue (some item)) =
            { h with queue := { h.queue with nextId := h.queue.nextId + 1 } } := by
          simp [addBuilt, addItem_eq, full, History.accept]
        rw [refused]
        exact { inv with
          played := inv.played.carry rfl rfl rfl fun p member => (inv.played.sound p member).whole
          once := ⟨inv.once.distinct, inv.once.kept⟩
          fresh := fun other member => Nat.lt_succ_of_lt (inv.fresh other member)
          lateFresh := fun id member => Nat.lt_succ_of_lt (inv.lateFresh id member)
          onAir := fun draining => by
            obtain ⟨noGap, earlier, p, split, ended, current⟩ := inv.onAir draining
            exact ⟨noGap, earlier, p, split, ended, { current with }⟩ }
      · have batch : (h.queue.batchActive || h.queue.draining) = h.queue.batchActive := by
          cases draining : h.queue.draining with
          | false => simp
          | true => simp [inv.batched (.inl draining)]
        have taken : h.accept (some item) (addBuilt h.queue (some item)) =
            h.placed { item with id := h.queue.nextId } := by
          simp [addBuilt, addItem_eq, full, History.accept, History.placed, batch]
        rw [taken]
        exact inv_placed inv ⟨(plain item rfl).untagged, (plain item rfl).data⟩ rfl full

theorem inv_tagItem {rate : Nat} {h : History} {plays : List Play} (inv : Inv rate h plays)
    (id : Nat) (source : List Char) :
    Inv rate { h with queue := tagItem h.queue id source } plays := by
  have same := tagFirst_untagged id source h.queue.head
  have length : (tagFirst id source h.queue.head).length = h.queue.head.length := by
    simpa using congrArg List.length same
  -- Every fact below speaks of an item only through its untagged form.
  have transfer : ∀ P : Item → Prop, (∀ item ∈ h.queue.head, P item.untagged) →
      ∀ item ∈ tagFirst id source h.queue.head, P item.untagged := by
    intro P holds item member
    have : item.untagged ∈ h.queue.head.map Item.untagged := same ▸ List.mem_map_of_mem member
    obtain ⟨other, otherIn, equal⟩ := List.mem_map.mp this
    exact equal ▸ holds other otherIn
  exact { inv with
    played := inv.played.carry rfl rfl rfl fun p member => (inv.played.sound p member).whole
    once := by
      refine ⟨inv.once.distinct, ?_⟩
      have kept := inv.once.kept
      rw [List.map_append] at kept ⊢
      show (_ ++ (tagFirst id source h.queue.head).map Item.untagged).Perm _
      rw [same]
      exact kept
    ordered := by
      have ordered : (h.queue.head.map Item.untagged).Pairwise (Precedes h.late) :=
        List.pairwise_map.mpr inv.ordered
      rw [← same] at ordered
      have unmapped := List.pairwise_map.mp ordered
      exact unmapped
    counted := by
      show h.queue.count = ((tagFirst id source h.queue.head).length : Int) ∧
        (tagFirst id source h.queue.head).length ≤ maxQueueDepth
      rw [length]
      exact inv.counted
    prompt := fun quiet => transfer (fun item => item.id ∉ h.late) (inv.prompt quiet)
    data := transfer (fun item => item.type = .audioFile ∨ item.type = .audioBuffer) inv.data
    onAir := fun draining => by
      obtain ⟨noGap, earlier, p, split, ended, current⟩ := inv.onAir draining
      exact ⟨noGap, earlier, p, split, ended, { current with }⟩
    inGap := fun gap => by
      refine ⟨?_, (inv.inGap gap).2⟩
      have waiting := List.length_pos_iff.mpr (inv.inGap gap).1
      exact List.length_pos_iff.mp (length ▸ waiting) }

/-! ## Removing -/

structure Cleared (q q' : State) : Prop where
  head : q'.head = []
  count : q'.count = 0
  draining : q'.draining = false
  gap : q'.gapRemaining = 0
  rate : q'.rate = q.rate
  nextId : q'.nextId = q.nextId

theorem flush_cleared {q : State} (gapless : q.gapRemaining = 0) : Cleared q (flush q).2 :=
  ⟨rfl, rfl, rfl, gapless, rfl, rfl⟩

theorem preempt_cleared (q : State) : Cleared q (preempt q).2.2 := by
  cases draining : q.draining <;>
    exact ⟨rfl, rfl, by simp [preempt, draining, resetDrain], rfl,
      by simp [preempt, draining, resetDrain], by simp [preempt, draining, resetDrain]⟩

theorem inv_clear {rate : Nat} {h : History} {plays : List Play} (inv : Inv rate h plays)
    {q : State} (cleared : Cleared h.queue q) : Inv rate (h.clear q) plays where
  rate := cleared.rate.trans inv.rate
  played := by
    refine inv.played.carry cleared.rate rfl ?_ ?_
    · have none : (h.queue.head.map fun item => (⟨item, false⟩ : Departure)).filter
          Departure.played = [] := by
        simp [List.filter_eq_nil_iff, Departure.played]
      simp [History.clear, none]
    · intro p member
      rcases (inv.played.sound p member).whole with whole | already | ⟨draining, same⟩
      · exact .inl whole
      · refine .inr (.inl ?_)
        simp only [History.clear]
        split_ifs
        · exact List.mem_append_left _ already
        · exact already
      · refine .inr (.inl ?_)
        simp [History.clear, draining, same]
  once := by
    refine ⟨inv.once.distinct, ?_⟩
    simpa [History.clear, cleared.head, Function.comp_def] using inv.once.kept
  fresh := by simpa [History.clear, cleared.nextId] using inv.fresh
  lateFresh := by simpa [History.clear, cleared.nextId] using inv.lateFresh
  ordered := by simp [History.clear, InOrder, cleared.head]
  counted := by simp [History.clear, Counted, cleared.head, cleared.count]
  batched := by simp [History.clear, cleared.draining, cleared.gap]
  prompt := by simp [History.clear, cleared.head]
  data := by simp [History.clear, cleared.head]
  onAir := by simp [History.clear, cleared.draining]
  inGap := by simp [History.clear, cleared.gap]

end Kerchunk.Queue
