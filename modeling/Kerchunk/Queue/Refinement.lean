import Kerchunk.Queue.Invariant

set_option autoImplicit false

namespace Kerchunk.Queue

/-! ## Draining -/

def History.inGap (h : History) (maxN : Nat) : History :=
  { h with
    queue := { h.queue with gapRemaining := h.queue.gapRemaining - min h.queue.gapRemaining maxN }
    out := h.out ++ [⟨List.replicate maxN 0, nextInLine h.queue⟩] }

def History.stopped (h : History) : History :=
  { h with queue := { h.queue with draining := false } }

def History.loaded (h : History) (q : State) : History :=
  { h with
    queue := q
    left := h.left ++ (popped h.queue q).map fun item => ⟨item, true⟩ }

def drainFrame (q : State) (maxN : Nat) (next : Option Nat) : Frame :=
  ⟨drainBody q maxN, maxN, next⟩

def History.emitted (h : History) (maxN : Nat) (next : Option Nat) : History :=
  { h with
    queue := drainAdvance h.queue maxN
    out := h.out ++ [(drainFrame h.queue maxN next).output] }

/-- The last play goes on by one frame. -/
theorem Played.goes_on {h h' : History} {earlier : List Play} {p p' : Play} {shown : Output}
    (played : Played h (earlier ++ [p])) (out : h'.out = h.out ++ [shown]) (left : h'.left = h.left)
    (output : p'.output = p.output ++ [shown]) (item : p'.item = p.item)
    (before : ∀ other ∈ earlier, other.Sound h') (sound : p'.Sound h') :
    Played h' (earlier ++ [p']) where
  output := by
    rw [out, played.output]
    simp [output]
  items := by
    rw [left, ← played.items]
    simp [item]
  sound := by
    intro other member
    rcases List.mem_append.mp member with old | last
    · exact before other old
    · rw [List.mem_singleton.mp last]
      exact sound

def Play.extendGap (p : Play) (f : Frame) : Play :=
  { p with gap := p.gap ++ [f] }

theorem extendGap_gapLength (p : Play) (f : Frame) :
    (p.extendGap f).gapLength = p.gapLength + f.body.length := by
  simp [Play.extendGap, Play.gapLength]

theorem extendGap_sound {h h' : History} {p : Play} {f : Frame} (sound : p.Sound h)
    (fits : 0 < f.size ∧ f.body.length ≤ f.size) (silent : ∀ sample ∈ f.body, sample = 0)
    (file : p.item.type = .audioFile) (whole : p.samples = p.item.buf) (waiting : f.next.isSome)
    (room : p.gapLength + f.body.length ≤ gapSamples h'.queue) : (p.extendGap f).Sound h' where
  fits := by
    intro g member
    rcases List.mem_append.mp member with frame | gap
    · exact sound.fits g (List.mem_append_left _ frame)
    · rcases List.mem_append.mp gap with before | final
      · exact sound.fits g (List.mem_append_right _ before)
      · rw [List.mem_singleton.mp final]
        exact fits
  fromStart := sound.fromStart
  whole := .inl whole
  padded := sound.padded
  gapSilent := List.forall_mem_append.mpr ⟨sound.gapSilent, List.forall_mem_singleton.mpr silent⟩
  gapAsked := fun _ => ⟨file, whole⟩
  gapBetween := List.forall_mem_append.mpr ⟨sound.gapBetween, List.forall_mem_singleton.mpr waiting⟩
  gapBounded := by
    rw [extendGap_gapLength]
    exact room

theorem inv_inGap {rate : Nat} {h : History} {plays : List Play} (inv : Inv rate h plays)
    {maxN : Nat} (asked : 0 < maxN) (gap : 0 < h.queue.gapRemaining) :
    ∃ plays', Inv rate (h.inGap maxN) plays' := by
  obtain ⟨waiting, earlier, p, rfl, file, whole, room⟩ := inv.inGap gap
  have quiet : h.queue.draining = false := by
    by_contra draining
    have := (inv.onAir (by simpa using draining)).1
    omega
  let f : Frame := ⟨List.replicate (min h.queue.gapRemaining maxN) 0, maxN, nextInLine h.queue⟩
  have output : f.output = ⟨List.replicate maxN 0, nextInLine h.queue⟩ := by
    simp only [Frame.output, f, List.length_replicate, List.replicate_append_replicate]
    congr 2
    omega
  have length : f.body.length = min h.queue.gapRemaining maxN := List.length_replicate ..
  have sound : (p.extendGap f).Sound (h.inGap maxN) := by
    have mine := inv.played.sound p (by simp)
    refine extendGap_sound mine ⟨asked, by simp [f]⟩ ?_ file whole ?_ ?_
    · exact fun sample member => List.eq_of_mem_replicate member
    · simpa [f, nextInLine, List.isSome_head?] using waiting
    · rw [length]
      show _ ≤ gapSamples h.queue
      omega
  have before : ∀ other ∈ earlier, other.Sound (h.inGap maxN) := by
    intro other old
    have sound := inv.played.sound other (List.mem_append_left _ old)
    exact sound.carry rfl sound.whole
  refine ⟨earlier ++ [p.extendGap f], ?_⟩
  exact { inv with
    played := by
      refine inv.played.goes_on rfl rfl ?_ rfl before sound
      rw [← output]
      simp [Play.output, Play.extendGap]
    once := ⟨inv.once.distinct, inv.once.kept⟩
    batched := fun _ => inv.batched (.inr gap)
    onAir := fun draining => by
      rw [show h.queue.draining = true from draining] at quiet
      cases quiet
    inGap := by
      intro left
      refine ⟨waiting, earlier, p.extendGap f, rfl, file, whole, ?_⟩
      rw [extendGap_gapLength, length]
      show _ + (h.queue.gapRemaining - min h.queue.gapRemaining maxN) = gapSamples h.queue
      omega }

theorem inv_stopped {rate : Nat} {h : History} {plays : List Play} (inv : Inv rate h plays)
    (finished : h.queue.draining = true → h.queue.drainPos ≥ h.queue.drainLen) :
    Inv rate h.stopped plays :=
  { inv with
    played := by
      refine inv.played.carry rfl rfl rfl fun p member => ?_
      cases draining : h.queue.draining with
      | false =>
          have whole := (inv.played.sound p member).whole
          simp only [draining, Bool.false_eq_true, false_and, or_false] at whole
          exact whole.imp id .inl
      | true =>
          obtain ⟨_, earlier, last, split, ended, current⟩ := inv.onAir draining
          rw [split] at member
          rcases List.mem_append.mp member with old | final
          · exact (ended p old).imp id .inl
          · rw [List.mem_singleton.mp final, current.samples, current.buf]
            refine .inl (List.take_of_length_le ?_)
            rw [← current.len]
            exact finished draining
    once := ⟨inv.once.distinct, inv.once.kept⟩
    batched := fun busy => inv.batched (busy.imp (fun draining => by cases draining) id)
    onAir := fun draining => by cases draining }

theorem popped_append {q q' : State} {gone rest : List Item} (before : q.head = gone ++ rest)
    (after : q'.head = rest) : popped q q' = gone := by
  simp [popped, before, after]

theorem blank_not_played {items : List Item} (blank : ∀ item ∈ items, item.blank) :
    (items.map fun item => (⟨item, true⟩ : Departure)).filter Departure.played = [] := by
  rw [List.filter_eq_nil_iff]
  intro d member
  obtain ⟨item, itemIn, rfl⟩ := List.mem_map.mp member
  simp [Departure.played, (blank item itemIn).1, (blank item itemIn).2]

theorem Played.ended {h : History} {plays : List Play} (played : Played h plays)
    (quiet : h.queue.draining = false) :
    ∀ p ∈ plays, p.samples = p.item.buf ∨ p.item.id ∈ h.cut := by
  intro p member
  have whole := (played.sound p member).whole
  simpa only [quiet, Bool.false_eq_true, false_and, or_false] using whole

theorem inv_silent {rate : Nat} {h : History} {plays : List Play} (inv : Inv rate h plays)
    {q : State} (quiet : h.queue.draining = false) (noGap : h.queue.gapRemaining = 0)
    (blank : ∀ item ∈ h.queue.head, item.blank) (silent : Silent h.queue q) :
    Inv rate (h.loaded q) plays := by
  have gone : popped h.queue q = h.queue.head := popped_append (by simp [silent.head]) rfl
  have noGap' : q.gapRemaining = 0 := silent.gap.trans noGap
  have quiet' : q.draining = false := silent.draining.trans quiet
  exact {
    rate := silent.rate.trans inv.rate
    played := by
      refine inv.played.carry silent.rate rfl ?_ fun p member =>
        (inv.played.ended quiet p member).imp id .inl
      simp only [History.loaded, gone, List.filter_append, blank_not_played blank, List.append_nil]
    once := by
      refine ⟨inv.once.distinct, ?_⟩
      have kept := inv.once.kept
      simpa [History.loaded, gone, silent.head, Function.comp_def] using kept
    fresh := by simpa [History.loaded, silent.nextId] using inv.fresh
    lateFresh := by simpa [History.loaded, silent.nextId] using inv.lateFresh
    ordered := by simp [History.loaded, InOrder, silent.head]
    counted := by
      have counted := inv.counted.1
      simp [History.loaded, Counted, silent.head, silent.count, counted]
    batched := by simp [History.loaded, quiet', noGap']
    prompt := by simp [History.loaded, silent.head]
    data := by simp [History.loaded, silent.head]
    onAir := by simp [History.loaded, quiet']
    inGap := by simp [History.loaded, noGap'] }

theorem started_current (q : State) (item : Item) (rest : List Item) (pops : Nat) :
    Current (started q item rest pops) ⟨item, [], []⟩ where
  id := rfl
  type := rfl
  buf := rfl
  len := rfl
  pos := Nat.zero_le _
  samples := rfl
  gapless := rfl
  full := by simp

theorem popped_started {q : State} {skipped rest : List Item} {item : Item}
    (line : q.head = skipped ++ item :: rest) :
    popped q (started q item rest (skipped.length + 1)) = skipped ++ [item] := by
  have split : q.head = (skipped ++ [item]) ++ rest := by simp [line]
  exact popped_append split rfl

theorem played_started {h : History} {plays : List Play} (played : Played h plays)
    (quiet : h.queue.draining = false) {skipped rest : List Item} {item : Item}
    (line : h.queue.head = skipped ++ item :: rest) (blank : ∀ other ∈ skipped, other.blank)
    (sound : ¬ item.blank) :
    Played (h.loaded (started h.queue item rest (skipped.length + 1)))
      (plays ++ [⟨item, [], []⟩]) where
  -- What was skipped leaves unheard; the item's play begins without a frame.
  output := by
    show h.out = _
    rw [played.output]
    simp [Play.output]
  items := by
    have heard : (⟨item, true⟩ : Departure).played = true := by
      by_contra silent
      refine sound ⟨?_, ?_⟩ <;> simp_all [Departure.played]
    simp only [History.loaded, popped_started line, List.map_append, List.filter_append,
      List.map_cons, List.map_nil, blank_not_played blank, played.items]
    rw [List.filter_cons_of_pos heard, List.filter_nil]
    rfl
  sound := by
    intro p member
    rcases List.mem_append.mp member with old | new
    · exact (played.sound p old).carry rfl ((played.ended quiet p old).imp id .inl)
    · rw [List.mem_singleton.mp new]
      exact {
        fits := by simp
        fromStart := List.nil_prefix
        whole := .inr (.inr ⟨rfl, rfl⟩)
        padded := by simp
        gapSilent := by simp
        gapAsked := by simp
        gapBetween := by simp
        gapBounded := Nat.zero_le _ }

theorem inv_started {rate : Nat} {h : History} {plays : List Play} (inv : Inv rate h plays)
    (quiet : h.queue.draining = false) (noGap : h.queue.gapRemaining = 0)
    {skipped rest : List Item} {item : Item} (line : h.queue.head = skipped ++ item :: rest)
    (blank : ∀ other ∈ skipped, other.blank) (sound : ¬ item.blank) :
    Inv rate (h.loaded (started h.queue item rest (skipped.length + 1)))
      (plays ++ [⟨item, [], []⟩]) := by
  have gone := popped_started line
  have later : ∀ other ∈ rest, other ∈ h.queue.head := by
    intro other member
    simp [line, member]
  exact {
    rate := inv.rate
    played := played_started inv.played quiet line blank sound
    once := by
      refine ⟨inv.once.distinct, ?_⟩
      have kept := inv.once.kept
      rw [line] at kept
      have after : (started h.queue item rest (skipped.length + 1)).head = rest := rfl
      simpa [History.loaded, gone, after, Function.comp_def] using kept
    fresh := inv.fresh
    lateFresh := inv.lateFresh
    ordered := by
      have ordered : (skipped ++ item :: rest).Pairwise (Precedes h.late) := line ▸ inv.ordered
      exact (List.pairwise_cons.mp (List.pairwise_append.mp ordered).2.1).2
    counted := by
      have counted := inv.counted
      rw [Counted, line] at counted
      simp only [List.length_append, List.length_cons] at counted
      refine ⟨?_, ?_⟩
      · show h.queue.count - ((skipped.length + 1 : Nat) : Int) = (rest.length : Int)
        omega
      · show rest.length ≤ maxQueueDepth
        omega
    batched := fun _ => rfl
    prompt := fun off => by cases off
    data := fun other member => inv.data other (later other member)
    onAir := fun _ =>
      ⟨noGap, plays, _, rfl, inv.played.ended quiet, started_current h.queue item rest _⟩
    inGap := by
      intro gap
      have gap : 0 < h.queue.gapRemaining := gap
      omega }

theorem drainBody_length {q : State} {p : Play} (current : Current q p) (maxN : Nat) :
    (drainBody q maxN).length = min (q.drainLen - q.drainPos) maxN := by
  simp only [drainBody, List.length_take, List.length_drop, current.len]
  omega

theorem drainBody_extends {q : State} {p : Play} (current : Current q p) (maxN : Nat) :
    p.samples ++ drainBody q maxN =
      p.item.buf.take (q.drainPos + min (q.drainLen - q.drainPos) maxN) := by
  rw [current.samples, current.buf, drainBody, List.take_add]

theorem split_before_last {A : Type} {init before after : List A} {last x : A}
    (split : init ++ [last] = before ++ x :: after) : after = [] ∧ x = last ∨ x ∈ init := by
  rcases after.eq_nil_or_concat with rfl | ⟨middle, final, rfl⟩
  · exact .inl ⟨rfl, by simpa using (List.append_inj_right' split rfl).symm⟩
  · refine .inr ?_
    rw [List.concat_eq_append, ← List.cons_append, ← List.append_assoc] at split
    have shorter : init = before ++ x :: middle := List.append_inj_left' split rfl
    simp [shorter]

/-- Draining a frame leaves all but the drain's own progress as it was. -/
structure SameLine (q q' : State) : Prop where
  rate : q'.rate = q.rate
  head : q'.head = q.head
  nextId : q'.nextId = q.nextId
  count : q'.count = q.count
  batch : q'.batchActive = q.batchActive
  itemId : q'.drainItemId = q.drainItemId

theorem drainAdvance_line (q : State) (maxN : Nat) : SameLine q (drainAdvance q maxN) := by
  unfold drainAdvance
  dsimp only
  split <;> exact ⟨rfl, rfl, rfl, rfl, rfl, rfl⟩

def reaches (q : State) (maxN : Nat) : Nat :=
  q.drainPos + min (q.drainLen - q.drainPos) maxN

theorem drainAdvance_ends {q : State} {maxN : Nat} (ends : reaches q maxN ≥ q.drainLen) :
    (drainAdvance q maxN).draining = false ∧
      (drainAdvance q maxN).gapRemaining =
        if q.head ≠ [] ∧ q.drainType = .audioFile then gapSamples q else q.gapRemaining := by
  unfold reaches at ends
  simp [drainAdvance, ends]

theorem drainAdvance_goes_on {q : State} {maxN : Nat} (short : reaches q maxN < q.drainLen) :
    drainAdvance q maxN = { q with drainPos := reaches q maxN } := by
  unfold reaches at short ⊢
  unfold drainAdvance
  exact if_neg (Nat.not_le_of_lt short)

def Play.extend (p : Play) (f : Frame) : Play :=
  { p with frames := p.frames ++ [f] }

theorem extend_samples {q : State} {p : Play} (current : Current q p) (maxN : Nat)
    (next : Option Nat) :
    (p.extend (drainFrame q maxN next)).samples = p.item.buf.take (reaches q maxN) := by
  rw [reaches, ← drainBody_extends current maxN]
  simp [Play.samples, Play.extend, drainFrame]

theorem extend_whole {q : State} {p : Play} (current : Current q p) {maxN : Nat}
    (reached : reaches q maxN ≥ q.drainLen) (next : Option Nat) :
    (p.extend (drainFrame q maxN next)).samples = p.item.buf := by
  rw [extend_samples current]
  apply List.take_of_length_le
  rw [current.buf, ← current.len]
  exact reached

theorem extend_sound {h h' : History} {p : Play} {maxN : Nat} {next : Option Nat}
    (current : Current h.queue p) (sound : p.Sound h) (asked : 0 < maxN)
    (onAir : reaches h.queue maxN < h.queue.drainLen →
      h'.queue.draining = true ∧ h'.queue.drainItemId = p.item.id) :
    (p.extend (drainFrame h.queue maxN next)).Sound h' := by
  have length := drainBody_length current maxN
  have within := current.pos
  have none : ∀ f ∈ p.gap, False := by simp [current.gapless]
  exact {
    fits := by
      intro f member
      simp only [Play.extend, current.gapless, List.append_nil, List.mem_append, List.mem_singleton] at member
      rcases member with old | rfl
      · exact sound.fits f (List.mem_append_left _ old)
      · refine ⟨asked, ?_⟩
        simp only [drainFrame, length]
        exact Nat.min_le_right _ _
    fromStart := by
      rw [extend_samples current]
      exact List.take_prefix _ _
    whole := by
      by_cases reached : reaches h.queue maxN ≥ h.queue.drainLen
      · exact .inl (extend_whole current reached next)
      · exact .inr (.inr (onAir (Nat.lt_of_not_le reached)))
    padded := by
      intro before f after split short
      rcases split_before_last split with ⟨last, rfl⟩ | old
      · refine ⟨last, extend_whole current ?_ next⟩
        simp only [drainFrame, length] at short
        unfold reaches
        omega
      · have := current.full f old
        omega
    gapSilent := fun f member => (none f member).elim
    gapAsked := fun some => absurd current.gapless some
    gapBetween := fun f member => (none f member).elim
    gapBounded := by simp [Play.gapLength, Play.extend, current.gapless] }

theorem Current.goes_on {q : State} {p : Play} (current : Current q p) {maxN : Nat}
    (short : reaches q maxN < q.drainLen) (next : Option Nat) :
    Current { q with drainPos := reaches q maxN } (p.extend (drainFrame q maxN next)) :=
  -- An item that has more to play stays the current one.
  { current with
    pos := Nat.le_of_lt short
    samples := by
      rw [← current.buf]
      exact extend_samples current maxN next
    full := by
      intro f member
      rcases List.mem_append.mp member with old | last
      · exact current.full f old
      · rw [List.mem_singleton.mp last]
        have length := drainBody_length current maxN
        simp only [drainFrame]
        unfold reaches at short
        omega }

theorem emitted_gap {h : History} {maxN : Nat} {next : Option Nat}
    (noGap : h.queue.gapRemaining = 0) (gap : 0 < (h.emitted maxN next).queue.gapRemaining) :
    reaches h.queue maxN ≥ h.queue.drainLen ∧ h.queue.head ≠ [] ∧
      h.queue.drainType = .audioFile ∧
      (h.emitted maxN next).queue.gapRemaining = gapSamples h.queue := by
  -- Where there was no gap, one begins only at the end of a file with something behind it.
  by_cases reached : reaches h.queue maxN ≥ h.queue.drainLen
  · have pending : (h.emitted maxN next).queue.gapRemaining =
        if h.queue.head ≠ [] ∧ h.queue.drainType = .audioFile then gapSamples h.queue
        else h.queue.gapRemaining := (drainAdvance_ends reached).2
    by_cases asks : h.queue.head ≠ [] ∧ h.queue.drainType = .audioFile
    · rw [if_pos asks] at pending
      exact ⟨reached, asks.1, asks.2, pending⟩
    · rw [if_neg asks, noGap] at pending
      omega
  · have queue : (h.emitted maxN next).queue = { h.queue with drainPos := reaches h.queue maxN } :=
      drainAdvance_goes_on (Nat.lt_of_not_le reached)
    rw [queue] at gap
    have gap : 0 < h.queue.gapRemaining := gap
    omega

theorem inv_emitted {rate : Nat} {h : History} {plays : List Play} (inv : Inv rate h plays)
    {maxN : Nat} (asked : 0 < maxN) (draining : h.queue.draining = true) (next : Option Nat) :
    ∃ plays', Inv rate (h.emitted maxN next) plays' := by
  obtain ⟨noGap, earlier, p, rfl, ended, current⟩ := inv.onAir draining
  let p' : Play := p.extend (drainFrame h.queue maxN next)
  have line : SameLine h.queue (h.emitted maxN next).queue := drainAdvance_line h.queue maxN
  have batch : (h.emitted maxN next).queue.batchActive = true :=
    line.batch.trans (inv.batched (.inl draining))
  have mine := inv.played.sound p (by simp)
  have sound : p'.Sound (h.emitted maxN next) := by
    refine extend_sound current mine asked fun short => ⟨?_, ?_⟩
    · show (drainAdvance h.queue maxN).draining = true
      rw [drainAdvance_goes_on short]
      exact draining
    · exact line.itemId.trans current.id.symm
  have before : ∀ other ∈ earlier, other.Sound (h.emitted maxN next) := by
    intro other old
    have sound := inv.played.sound other (List.mem_append_left _ old)
    exact sound.carry line.rate ((ended other old).imp id .inl)
  refine ⟨earlier ++ [p'], ?_⟩
  exact {
    rate := line.rate.trans inv.rate
    played := by
      refine inv.played.goes_on rfl rfl ?_ rfl before sound
      simp [Play.output, Play.extend, p', current.gapless]
    once := by
      refine ⟨inv.once.distinct, ?_⟩
      rw [line.head]
      exact inv.once.kept
    fresh := by
      rw [line.nextId]
      exact inv.fresh
    lateFresh := by
      rw [line.nextId]
      exact inv.lateFresh
    ordered := by
      unfold InOrder
      rw [line.head]
      exact inv.ordered
    counted := by
      unfold Counted
      rw [line.head, line.count]
      exact inv.counted
    batched := fun _ => batch
    prompt := fun quiet => by simp [batch] at quiet
    data := by simpa only [line.head] using inv.data
    onAir := by
      intro still
      by_cases reached : reaches h.queue maxN ≥ h.queue.drainLen
      · have stopped : (h.emitted maxN next).queue.draining = false := (drainAdvance_ends reached).1
        simp [stopped] at still
      · have short := Nat.lt_of_not_le reached
        have queue : (h.emitted maxN next).queue = { h.queue with drainPos := reaches h.queue maxN } :=
          drainAdvance_goes_on short
        rw [queue]
        exact ⟨noGap, earlier, p', rfl, ended, current.goes_on short next⟩
    inGap := by
      intro gap
      obtain ⟨reached, more, audio, samples⟩ := emitted_gap noGap gap
      refine ⟨by rw [line.head]; exact more, earlier, p', rfl, current.type.trans audio,
        extend_whole current reached next, ?_⟩
      rw [samples]
      simp [p', Play.gapLength, Play.extend, current.gapless, gapSamples, line.rate] }

theorem popped_same {q q' : State} (same : q'.head = q.head) : popped q q' = [] := by
  simp [popped, same]

theorem drain_zero (h : History) : h.drain 0 = h := by
  simp [History.drain, drain, popped_same rfl]

theorem drain_gap {h : History} {maxN : Nat} (asked : 0 < maxN) (gap : 0 < h.queue.gapRemaining) :
    h.drain maxN = h.inGap maxN := by
  have silence : List.replicate (min h.queue.gapRemaining maxN) (0 : Int) ++
      List.replicate (maxN - min h.queue.gapRemaining maxN) 0 = List.replicate maxN 0 := by
    rw [List.replicate_append_replicate]
    congr 1
    omega
  have some : List.replicate maxN (0 : Int) ≠ [] := by simp; omega
  have drained : drain h.queue maxN = (List.replicate maxN 0,
      { h.queue with gapRemaining := h.queue.gapRemaining - min h.queue.gapRemaining maxN }) := by
    simp only [drain, Nat.ne_of_gt asked, gap, silence, if_false, if_true]
  simp only [History.drain, drained, popped_same, List.map_nil, List.append_nil, some, if_false,
    History.inGap]

theorem drain_onAir {q q' : State} {p : Play} {maxN : Nat} (asked : 0 < maxN)
    (noGap : q.gapRemaining = 0) (ready : ensureLoaded q = (true, q')) (current : Current q' p)
    (next : Option Nat) :
    drain q maxN = ((drainFrame q' maxN next).output.samples, drainAdvance q' maxN) ∧
      (drainFrame q' maxN next).output.samples ≠ [] := by
  -- What `drain` returns once an item is on the air.
  have length := drainBody_length current maxN
  refine ⟨?_, ?_⟩
  · simp [drain, Nat.ne_of_gt asked, noGap, ready, Frame.output, drainFrame, length]
  · intro empty
    have := congrArg List.length empty
    simp only [Frame.output, drainFrame, List.length_append, List.length_replicate, length,
      List.length_nil] at this
    omega

theorem drain_emits {h : History} {q : State} {p : Play} {maxN : Nat} (asked : 0 < maxN)
    (noGap : h.queue.gapRemaining = 0) (ready : ensureLoaded h.queue = (true, q))
    (current : Current q p) :
    h.drain maxN = (h.loaded q).emitted maxN (nextInLine h.queue) := by
  obtain ⟨drained, some⟩ := drain_onAir asked noGap ready current (nextInLine h.queue)
  have line := drainAdvance_line q maxN
  have gone : popped h.queue (drainAdvance q maxN) = popped h.queue q := by
    simp only [popped, line.head]
  simp only [History.drain, drained, some, if_false, gone, History.emitted, History.loaded]
  rfl

theorem ensureLoaded_cases (q : State)
    (data : ∀ item ∈ q.head, item.type = .audioFile ∨ item.type = .audioBuffer) :
    (q.draining = true ∧ q.drainPos < q.drainLen ∧ ensureLoaded q = (true, q)) ∨
    ((q.draining = true → q.drainPos ≥ q.drainLen) ∧ (∀ item ∈ q.head, item.blank) ∧
      ∃ q', Silent { q with draining := false } q' ∧ ensureLoaded q = (false, q')) ∨
    ((q.draining = true → q.drainPos ≥ q.drainLen) ∧
      ∃ skipped item rest, q.head = skipped ++ item :: rest ∧ (∀ other ∈ skipped, other.blank) ∧
        ¬ item.blank ∧ ensureLoaded q =
          (true, started { q with draining := false } item rest (skipped.length + 1))) := by
  -- What the loader does before a frame: nothing, find no item, or start the next one.
  by_cases finished : q.draining = true → q.drainPos ≥ q.drainLen
  · have loads : ensureLoaded q = loadFrom { q with draining := false } q.head := by
      unfold ensureLoaded
      cases draining : q.draining with
      | false => simp [loadNextItem]
      | true => simp [loadNextItem, finished draining]
    rcases loadFrom_cases { q with draining := false } q.head rfl data with
      ⟨q', loaded, blank, silent⟩ | ⟨skipped, item, rest, split, blank, sound, loaded⟩
    · exact .inr (.inl ⟨finished, blank, q', silent, loads.trans loaded⟩)
    · exact .inr (.inr ⟨finished, skipped, item, rest, split, blank, sound, loads.trans loaded⟩)
  · have playing : q.draining = true ∧ q.drainPos < q.drainLen := by
      simpa only [Classical.not_imp, Nat.not_le] using finished
    refine .inl ⟨playing.1, playing.2, ?_⟩
    simp [ensureLoaded, playing.1, Nat.not_le_of_lt playing.2]

theorem drain_queue_cases (q : State)
    (data : ∀ item ∈ q.head, item.type = .audioFile ∨ item.type = .audioBuffer) (maxN : Nat) :
    (maxN = 0 ∧ (drain q maxN).2 = q) ∨
    (0 < maxN ∧ 0 < q.gapRemaining ∧
      (drain q maxN).2 = { q with gapRemaining := q.gapRemaining - min q.gapRemaining maxN }) ∨
    (0 < maxN ∧ q.gapRemaining = 0 ∧ q.draining = true ∧ q.drainPos < q.drainLen ∧
      (drain q maxN).2 = drainAdvance q maxN) ∨
    (0 < maxN ∧ q.gapRemaining = 0 ∧ (∀ item ∈ q.head, item.blank) ∧
      Silent { q with draining := false } (drain q maxN).2) ∨
    (0 < maxN ∧ q.gapRemaining = 0 ∧ (q.draining = true → q.drainPos ≥ q.drainLen) ∧
      ∃ skipped item rest, q.head = skipped ++ item :: rest ∧ (∀ other ∈ skipped, other.blank) ∧
        ¬ item.blank ∧ (drain q maxN).2 =
          drainAdvance (started { q with draining := false } item rest (skipped.length + 1)) maxN) := by
  -- What a drain leaves in the queue.
  by_cases asked : 0 < maxN
  · by_cases gap : 0 < q.gapRemaining
    · refine .inr (.inl ⟨asked, gap, ?_⟩)
      simp [drain, Nat.ne_of_gt asked, gap]
    have noGap : q.gapRemaining = 0 := by omega
    rcases ensureLoaded_cases q data with ⟨draining, short, ready⟩ |
      ⟨finished, blank, q', silent, ready⟩ | ⟨finished, skipped, item, rest, split, blank, sound, ready⟩
    · refine .inr (.inr (.inl ⟨asked, noGap, draining, short, ?_⟩))
      simp [drain, Nat.ne_of_gt asked, noGap, ready]
    · refine .inr (.inr (.inr (.inl ⟨asked, noGap, blank, ?_⟩)))
      simpa [drain, Nat.ne_of_gt asked, noGap, ready] using silent
    · refine .inr (.inr (.inr (.inr
        ⟨asked, noGap, finished, skipped, item, rest, split, blank, sound, ?_⟩)))
      simp [drain, Nat.ne_of_gt asked, noGap, ready]
  · have none : maxN = 0 := by omega
    exact .inl ⟨none, by simp [drain, none]⟩

theorem drain_cases {rate : Nat} {h : History} {plays : List Play} (inv : Inv rate h plays)
    {maxN : Nat} (asked : 0 < maxN) :
    (0 < h.queue.gapRemaining ∧ h.drain maxN = h.inGap maxN) ∨
    (h.queue.gapRemaining = 0 ∧ (h.queue.draining = true → h.queue.drainPos ≥ h.queue.drainLen) ∧
      ∃ q, (∀ item ∈ h.queue.head, item.blank) ∧ Silent h.stopped.queue q ∧
        h.drain maxN = h.stopped.loaded q) ∨
    (h.queue.gapRemaining = 0 ∧ (h.queue.draining = true → h.queue.drainPos ≥ h.queue.drainLen) ∧
      ∃ skipped item rest, h.queue.head = skipped ++ item :: rest ∧
        (∀ other ∈ skipped, other.blank) ∧ ¬ item.blank ∧
        h.drain maxN = (h.stopped.loaded (started h.stopped.queue item rest
          (skipped.length + 1))).emitted maxN (nextInLine h.queue)) ∨
    (h.queue.draining = true ∧ h.drain maxN = h.emitted maxN (nextInLine h.queue)) := by
  -- Every drain either finds nothing, plays on through a gap, or puts a frame on the air.
  by_cases gap : 0 < h.queue.gapRemaining
  · exact .inl ⟨gap, drain_gap asked gap⟩
  have noGap : h.queue.gapRemaining = 0 := by omega
  rcases ensureLoaded_cases h.queue inv.data with ⟨draining, short, ready⟩ |
    ⟨finished, blank, q, silent, ready⟩ | ⟨finished, skipped, item, rest, split, blank, sound, ready⟩
  · refine .inr (.inr (.inr ⟨draining, ?_⟩))
    obtain ⟨_, earlier, p, split, ended, current⟩ := inv.onAir draining
    rw [drain_emits asked noGap ready current]
    simp [History.emitted, History.loaded, popped_same rfl]
  · refine .inr (.inl ⟨noGap, finished, q, blank, silent, ?_⟩)
    have drained : drain h.queue maxN = ([], q) := by
      simp [drain, Nat.ne_of_gt asked, noGap, ready]
    simp [History.drain, drained, History.loaded, History.stopped, popped]
  · refine .inr (.inr (.inl ⟨noGap, finished, skipped, item, rest, split, blank, sound, ?_⟩))
    exact drain_emits asked noGap ready (started_current _ item rest _)

theorem inv_drain {rate : Nat} {h : History} {plays : List Play} (inv : Inv rate h plays)
    (maxN : Nat) : ∃ plays', Inv rate (h.drain maxN) plays' := by
  by_cases asked : 0 < maxN
  · rcases drain_cases inv asked with ⟨gap, eq⟩ | ⟨noGap, finished, q, blank, silent, eq⟩ |
      ⟨noGap, finished, skipped, item, rest, line, blank, sound, eq⟩ | ⟨draining, eq⟩
    · rw [eq]
      exact inv_inGap inv asked gap
    · rw [eq]
      exact ⟨plays, inv_silent (inv_stopped inv finished) rfl noGap blank silent⟩
    · rw [eq]
      have loaded := inv_started (inv_stopped inv finished) rfl noGap line blank sound
      exact inv_emitted loaded asked rfl _
    · rw [eq]
      exact inv_emitted inv asked draining _
  · have : maxN = 0 := by omega
    subst this
    exact ⟨plays, (drain_zero h).symm ▸ inv⟩

/-! ## Runs -/

def FlushesBetweenGaps (h : History) : Op → Prop
  -- A flush that leaves no pending gap behind; every other operation is free.
  | .produce .flush => h.queue.gapRemaining = 0
  | _ => True

instance (h : History) : (op : Op) → Decidable (FlushesBetweenGaps h op)
  | .produce .flush => inferInstanceAs (Decidable (_ = _))
  | .produce (.addFile ..) | .produce (.addBuffer ..) | .produce (.addTone ..)
  | .produce (.addSilence ..) | .produce (.tagItem ..) | .produce .preempt
  | .drain _ => inferInstanceAs (Decidable True)

theorem inv_produce {rate : Nat} {h : History} {plays : List Play} (inv : Inv rate h plays)
    (request : Producer) (allowed : FlushesBetweenGaps h (.produce request)) :
    Inv rate (h.produce request) plays := by
  cases request with
  | addFile path priority => exact inv_accept inv _ fun _ => fileItem_plain
  | addBuffer buf priority flags => exact inv_accept inv _ fun _ => bufferItem_plain
  | addTone freqHz durationMs tone priority => exact inv_accept inv _ fun _ => toneItem_plain
  | addSilence durationMs priority => exact inv_accept inv _ fun _ => silenceItem_plain
  | tagItem id source => exact inv_tagItem inv id source
  | flush => exact inv_clear inv (flush_cleared allowed)
  | preempt => exact inv_clear inv (preempt_cleared h.queue)

theorem inv_step {rate : Nat} (h : History) (op : Op) (inv : ∃ plays, Inv rate h plays)
    (allowed : FlushesBetweenGaps h op) : ∃ plays, Inv rate (step h op) plays := by
  obtain ⟨plays, inv⟩ := inv
  cases op with
  | produce request => exact ⟨plays, inv_produce inv request allowed⟩
  | drain maxN => exact inv_drain inv maxN

theorem inv_run {rate : Nat} {ops : List Op}
    (allowed : Machine.Guarded step FlushesBetweenGaps (start rate) ops) :
    ∃ plays, Inv rate (Machine.run step (start rate) ops) plays :=
  Machine.run_invariant step inv_step ⟨[], start_inv rate⟩ allowed

/-! ## Every queued item is reached -/

def itemWork (gap : Nat) (item : Item) : Nat :=
  item.buf.length + gap + 1

def work (q : State) : Nat :=
  q.gapRemaining + (q.head.map (itemWork (gapSamples q))).sum +
    if q.draining then q.drainLen - q.drainPos + gapSamples q + 1 else 0

theorem work_drainAdvance {q : State} {maxN : Nat} (asked : 0 < maxN) (draining : q.draining = true)
    (noGap : q.gapRemaining = 0) : work (drainAdvance q maxN) < work q := by
  have line := drainAdvance_line q maxN
  have gap : gapSamples (drainAdvance q maxN) = gapSamples q := by
    simp only [gapSamples, line.rate]
  unfold work
  rw [line.head, gap]
  by_cases reached : reaches q maxN ≥ q.drainLen
  · obtain ⟨stopped, pending⟩ := drainAdvance_ends reached
    have bounded : (drainAdvance q maxN).gapRemaining ≤ gapSamples q := by
      rw [pending]
      split_ifs <;> omega
    simp only [stopped, draining, if_true, Bool.false_eq_true, if_false]
    omega
  · have short := Nat.lt_of_not_le reached
    rw [drainAdvance_goes_on short]
    simp only [draining, if_true, gapSamples]
    unfold reaches at short ⊢
    omega

theorem work_drain {rate : Nat} {h : History} {plays : List Play} (inv : Inv rate h plays)
    {maxN : Nat} (asked : 0 < maxN) :
    Exhausted (h.drain maxN).queue ∨ work (h.drain maxN).queue < work h.queue := by
  rcases drain_cases inv asked with ⟨gap, eq⟩ | ⟨_, _, q, _, silent, eq⟩ |
    ⟨noGap, _, skipped, item, rest, line, _, _, eq⟩ | ⟨draining, eq⟩
  · right
    rw [eq]
    have left : work (h.inGap maxN).queue + min h.queue.gapRemaining maxN = work h.queue := by
      have quiet : h.queue.draining = false := by
        by_contra draining
        have := (inv.onAir (by simpa using draining)).1
        omega
      simp only [work, History.inGap, gapSamples, quiet, Bool.false_eq_true, if_false]
      omega
    omega
  · left
    rw [eq]
    exact ⟨silent.head, silent.draining⟩
  · right
    rw [eq]
    refine lt_of_lt_of_le (work_drainAdvance asked rfl noGap) ?_
    have loaded : work (started h.stopped.queue item rest (skipped.length + 1)) =
        (rest.map (itemWork (gapSamples h.queue))).sum + itemWork (gapSamples h.queue) item := by
      show h.queue.gapRemaining + (rest.map (itemWork (gapSamples h.queue))).sum +
        itemWork (gapSamples h.queue) item = _
      rw [noGap, Nat.zero_add]
    show work (started h.stopped.queue item rest (skipped.length + 1)) ≤ _
    rw [loaded, work, line, List.map_append, List.sum_append, List.map_cons, List.sum_cons]
    omega
  · right
    rw [eq]
    exact work_drainAdvance asked draining (inv.onAir draining).1

theorem drains_exhaust {rate : Nat} {h : History} (inv : ∃ plays, Inv rate h plays) {maxN : Nat}
    (asked : 0 < maxN) :
    ∃ k, Exhausted (Machine.run step h (List.replicate k (.drain maxN))).queue := by
  -- Drains alone bring the queue to its end, whatever their frame size.
  induction size : work h.queue using Nat.strong_induction_on generalizing h with
  | _ size ih =>
      obtain ⟨plays, held⟩ := inv
      rcases work_drain held asked with exhausted | less
      · exact ⟨1, exhausted⟩
      · obtain ⟨k, exhausted⟩ := ih _ (size ▸ less) (inv_drain held maxN) rfl
        exact ⟨k + 1, exhausted⟩

/-! ## The queue against its description -/

/-- What the queue promises of a history: the list is ordered and counted, every accepted item is
in it or has left it once, and the output is the plays of the drained items in list order. -/
structure Refines (h : History) : Prop where
  inOrder : InOrder h
  counted : Counted h.queue
  eachOnce : EachOnce h
  played : ∃ plays, Played h plays
  reached : ∀ maxN > 0, ∃ k, Exhausted (Machine.run step h (List.replicate k (.drain maxN))).queue

theorem refines_of_flushes_between_gaps (rate : Nat) (ops : List Op)
    (allowed : Machine.Guarded step FlushesBetweenGaps (start rate) ops) :
    Refines (Machine.run step (start rate) ops) := by
  obtain ⟨plays, inv⟩ := inv_run allowed
  exact ⟨inv.ordered, inv.counted, inv.once, ⟨plays, inv.played⟩,
    fun _ asked => drains_exhaust ⟨plays, inv⟩ asked⟩

def wavFile (buf : List Int) : Option FileData :=
  some ⟨some (buf, 0), none, none⟩

theorem refines_of_flush_after_gap :
    Refines (Machine.run step (start 8000)
      [.produce (.addFile (wavFile [1]) 0), .produce (.addFile (wavFile [2, 3]) 5), .drain 4,
        .produce (.addBuffer [6] 9 0), .drain 80, .drain 1, .drain 80, .produce .flush,
        .produce (.addBuffer [4] 0 0), .produce (.addBuffer [5] 5 0)]) :=
  refines_of_flushes_between_gaps 8000 _ (by decide)

/-- A flush inside the gap after `[1]`: the later priority 5 waits behind priority 0. -/
theorem flush_in_gap_not_refines :
    ¬ Refines (Machine.run step (start 8000)
      [.produce (.addFile (wavFile [1]) 0), .produce (.addFile (wavFile [2, 3]) 0), .drain 1,
        .produce .flush, .produce (.addBuffer [4] 0 0), .produce (.addBuffer [5] 5 0)]) :=
  fun refines => absurd refines.inOrder (by decide)

end Kerchunk.Queue
