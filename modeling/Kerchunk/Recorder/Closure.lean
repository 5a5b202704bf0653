import Kerchunk.Lib.Machine
import Kerchunk.Recorder.Model

set_option autoImplicit false

/-!
# Transmit recordings and transmissions

A transmission begins with a virtual COR, or when the queue plays and none is in progress, and lasts
until no virtual COR is active and the queue is idle.
-/

namespace Kerchunk.Recorder

open Config (Text KerchunkConfig)

structure Transmission where
  number : Nat
  speaker : Option Attribution
deriving DecidableEq

def Transmission.attribution (t : Transmission) : Attribution :=
  t.speaker.getD nobody

/-- A sample as it is transmitted, with its frame and the transmission then in progress. -/
structure Sample where
  pcm : BitVec 16
  frame : Nat
  during : Option Transmission
deriving DecidableEq

/-- A file, the transmission in which its recording began, and the name of that one's speaker when
the file was written. -/
structure Entry where
  file : Saved Sample
  transmission : Transmission
  own : Text

/-- `keyed` has the sources whose virtual COR is active. The queue has `items`, or owes the event
that it is complete. -/
structure OnAir where
  recorder : State Sample
  keyed : List Text
  items : Bool
  owes : Bool
  current : Option Transmission
  begun : Nat
  sent : Nat
  opened : Transmission
  stored : List Entry

/-- Beside the events: the queue gets an item, loses the last one, and plays on because items came
while the tail was sent. -/
inductive Input where
  | drain (src now : Text) (memory : Bool)
  | complete (users : Int → Option Text) (written : Bool)
  | vcorAssert (userId : Int) (source username : Text)
  | vcorDrop (source : Text)
  | frame (pcm : List (BitVec 16)) (memory : Bool)
  | configure (cfg : KerchunkConfig)
  | queued
  | emptied
  | resumed

namespace OnAir

def start : OnAir where
  recorder := initial Sample
  keyed := []
  items := false
  owes := false
  current := none
  begun := 0
  sent := 0
  opened := ⟨0, none⟩
  stored := []

def next (s : OnAir) : Transmission :=
  s.current.getD ⟨s.begun, none⟩

def play (s : OnAir) : OnAir :=
  { s with
    owes := true
    current := some s.next
    begun := if s.current = none then s.begun + 1 else s.begun }

def drain (rate : Nat) (s : OnAir) (src now : Text) (memory : Bool) : OnAir :=
  { s.play with
    recorder := s.recorder.onQueueDrain rate src now memory
    opened := if s.recorder.txActive then s.opened else s.next }

def complete (s : OnAir) (users : Int → Option Text) (written : Bool) : OnAir :=
  let stopped := s.recorder.onQueueComplete users written
  { s with
    recorder := stopped.1
    owes := false
    stored := s.stored ++ (stopped.2.map fun file =>
      ⟨file, s.opened, label users s.opened.attribution⟩).toList }

def key (s : OnAir) (userId : Int) (source username : Text) : OnAir :=
  let recorder := s.recorder.onVcorAssert userId source username
  { s with
    recorder := recorder
    keyed := s.keyed.insert source
    current := some ⟨s.begun, some recorder.txVcor⟩
    begun := s.begun + 1 }

def heard (s : OnAir) (pcm : List (BitVec 16)) : List Sample :=
  pcm.map fun x => ⟨x, s.sent, s.current⟩

def transmit (rate : Nat) (s : OnAir) (pcm : List (BitVec 16)) (memory : Bool) : OnAir :=
  { s with
    recorder := s.recorder.txPlaybackTap rate (s.heard pcm) memory
    sent := s.sent + 1 }

def react (rate : Nat) (s : OnAir) : Input → OnAir
  | .drain src now memory => s.drain rate src now memory
  | .complete users written => s.complete users written
  | .vcorAssert userId source username => s.key userId source username
  | .vcorDrop source =>
    { s with
      recorder := s.recorder.onVcorDrop
      keyed := s.keyed.filter fun other => other ≠ source }
  | .frame pcm memory => s.transmit rate pcm memory
  | .configure cfg => { s with recorder := s.recorder.configure cfg }
  | .queued => { s with items := true }
  | .emptied => { s with items := false }
  | .resumed => s.play

def Quiet (s : OnAir) : Prop :=
  -- No virtual COR is active and the queue is idle.
  s.keyed = [] ∧ s.items = false ∧ s.owes = false

instance (s : OnAir) : Decidable s.Quiet :=
  inferInstanceAs (Decidable (_ ∧ _ ∧ _))

def settle (s : OnAir) : OnAir :=
  if s.Quiet then { s with current := none } else s

def step (rate : Nat) (s : OnAir) (i : Input) : OnAir :=
  (s.react rate i).settle

end OnAir

/-! ## What recordings have to be -/

def OnAir.recordings (s : OnAir) : List (List Sample) :=
  s.stored.map (fun entry => entry.file.samples) ++ [s.recorder.txBuf]

def Apart (first second : List Sample) : Prop :=
  ∀ x ∈ first, ∀ y ∈ second, x.frame ≠ y.frame

structure Entry.Lawful (entry : Entry) : Prop where
  single : ∀ x ∈ entry.file.samples, x.during = some entry.transmission
  named : entry.file.who = entry.own ∨ entry.file.who = "transmit".toList

/-- None is open when all is quiet, no frame is in two, each is in one transmission from beginning
to end, and none has the name of another transmission's speaker. -/
structure Lawful (s : OnAir) : Prop where
  closed : s.Quiet → s.recorder.txActive = false
  apart : s.recordings.Pairwise Apart
  within : s.recorder.txActive = true → s.current = some s.opened
  single : ∀ x ∈ s.recorder.txBuf, x.during = some s.opened
  stored : ∀ entry ∈ s.stored, entry.Lawful

/-! ## When they are -/

def Leaves (s : OnAir) (users : Int → Option Text) (written : Bool) : Prop :=
  -- A transmission without a virtual COR is stored under the name that an earlier one has left.
  s.recorder.enabled = true ∧ s.recorder.txVcorActive = false ∧ s.recorder.txActive = true ∧
    s.recorder.txBuf ≠ [] ∧ written = true ∧ s.opened.speaker = none ∧
    label users s.recorder.txVcor ≠ "transmit".toList

/-- With a recording open, no virtual COR is asserted, the last one is not dropped while the queue
is idle, nor does the queue become idle with recording switched off. -/
def Ready (s : OnAir) : Input → Prop
  | .vcorAssert _ _ _ => s.recorder.txActive = false
  | .vcorDrop source =>
    (∀ other ∈ s.keyed, other = source) → s.items = false → s.owes = false →
      s.recorder.txActive = false
  | .emptied => s.keyed = [] → s.owes = false → s.recorder.txActive = false
  | .complete users written =>
    (s.recorder.enabled = false → s.keyed = [] → s.items = false → s.recorder.txActive = false) ∧
      ¬ Leaves s users written
  | _ => True

/-! ## Frames -/

theorem apart_buf {others : List (List Sample)} {buf buf' : List Sample}
    (apart : (others ++ [buf]).Pairwise Apart)
    (grown : ∀ y ∈ buf', y ∈ buf ∨ ∀ x ∈ others.flatten, x.frame ≠ y.frame) :
    (others ++ [buf']).Pairwise Apart := by
  rw [List.pairwise_append] at apart ⊢
  refine ⟨apart.1, List.pairwise_singleton .., fun frames member last same x inFrames y inBuf => ?_⟩
  rw [List.mem_singleton] at same
  subst same
  rcases grown y inBuf with old | fresh
  next => exact apart.2.2 frames member buf (List.mem_singleton_self buf) x inFrames y old
  next => exact fresh x (List.mem_flatten.mpr ⟨frames, member, inFrames⟩)

/-! ## What every step keeps -/

section

variable {s : OnAir} {rate : Nat}

/-- The bookkeeping behind `Lawful`, which no input breaks. -/
structure Tracked (s : OnAir) : Prop where
  flag : s.recorder.txVcorActive = true → s.keyed ≠ []
  attributed : ∀ t ∈ s.current, ∀ speaker ∈ t.speaker,
    s.recorder.txVcor = speaker ∨ s.recorder.txVcor = nobody
  number : ∀ t ∈ s.current, t.number < s.begun
  empty : s.recorder.txActive = false → s.recorder.txBuf = []
  sent : ∀ x ∈ s.recordings.flatten, x.frame < s.sent
  apart : s.recordings.Pairwise Apart

theorem mem_frames {x : Sample} : x ∈ s.recordings.flatten ↔
    (∃ entry ∈ s.stored, x ∈ entry.file.samples) ∨ x ∈ s.recorder.txBuf := by
  simp [OnAir.recordings]

theorem start_tracked : Tracked .start where
  flag := by simp [OnAir.start, initial]
  attributed := by simp [OnAir.start]
  number := by simp [OnAir.start]
  empty := fun _ => rfl
  sent := by simp [OnAir.recordings, OnAir.start, initial]
  apart := List.pairwise_singleton ..

theorem play_tracked (tracked : Tracked s) : Tracked s.play where
  flag := tracked.flag
  attributed := by
    intro t now speaker speaks
    obtain rfl : s.next = t := Option.some.inj now
    rw [OnAir.next] at speaks
    cases before : s.current with
    | none =>
      rw [before] at speaks
      cases speaks
    | some t =>
      rw [before] at speaks
      exact tracked.attributed t before speaker speaks
  number := by
    intro t now
    obtain rfl : s.next = t := Option.some.inj now
    rw [OnAir.next, OnAir.play]
    cases before : s.current with
    | none => simp
    | some t => simpa using tracked.number t before
  empty := tracked.empty
  sent := tracked.sent
  apart := tracked.apart

theorem drain_tracked (tracked : Tracked s) (src now : Text) (memory : Bool) :
    Tracked (s.drain rate src now memory) := by
  have playing := play_tracked tracked
  have kept := onQueueDrain_kept s.recorder rate src now memory
  have buf : (s.recorder.onQueueDrain rate src now memory).txBuf = s.recorder.txBuf := by
    cases active : s.recorder.txActive with
    | true => rw [onQueueDrain_active active]
    | false => rw [onQueueDrain_empty (tracked.empty active), tracked.empty active]
  refine ⟨?_, ?_, playing.number, ?_, ?_, ?_⟩
  next =>
    simp only [OnAir.drain, kept.2]
    exact tracked.flag
  next =>
    simp only [OnAir.drain, kept.1]
    exact playing.attributed
  next =>
    intro stopped
    cases active : s.recorder.txActive with
    | true =>
      simp only [OnAir.drain, onQueueDrain_active active, active] at stopped
      cases stopped
    | false => exact buf.trans (tracked.empty active)
  next =>
    simp only [OnAir.recordings, OnAir.drain, OnAir.play, buf]
    exact tracked.sent
  next =>
    simp only [OnAir.recordings, OnAir.drain, OnAir.play, buf]
    exact tracked.apart

theorem complete_tracked (tracked : Tracked s) (users : Int → Option Text) (written : Bool) :
    Tracked (s.complete users written) := by
  have outcome := onQueueComplete_completes s.recorder users written
  rw [OnAir.complete]
  generalize s.recorder.onQueueComplete users written = stopped at outcome
  cases outcome with
  | ignored | idle =>
    simp only [Option.map_none, Option.toList_none, List.append_nil]
    exact ⟨tracked.flag, tracked.attributed, tracked.number, tracked.empty, tracked.sent,
      tracked.apart⟩
  | loses enabled ended =>
    simp only [Option.map_none, Option.toList_none, List.append_nil]
    refine ⟨fun active => ?_, fun _ _ _ _ => .inr rfl, tracked.number, fun _ => rfl, ?_, ?_⟩
    next => exact absurd (ended.symm.trans active) (by decide)
    next =>
      intro x member
      refine tracked.sent x (mem_frames.mpr (.inl ?_))
      simpa [OnAir.recordings, closed] using member
    next => exact apart_buf tracked.apart (by simp [closed])
  | stores enabled ended =>
    simp only [Option.map_some, Option.toList_some]
    refine ⟨fun active => ?_, fun _ _ _ _ => .inr rfl, tracked.number, fun _ => rfl, ?_, ?_⟩
    next => exact absurd (ended.symm.trans active) (by decide)
    next => simpa [OnAir.recordings, closed] using tracked.sent
    next =>
      have apart := tracked.apart
      rw [OnAir.recordings] at apart ⊢
      rw [List.map_append, List.map_singleton, List.pairwise_append]
      exact ⟨apart, List.pairwise_singleton .., by simp [Apart, closed]⟩

theorem key_tracked (tracked : Tracked s) (userId : Int) (source username : Text) :
    Tracked (s.key userId source username) where
  flag := by
    intro _
    have member : source ∈ s.keyed.insert source := List.mem_insert_self
    exact List.ne_nil_of_mem member
  attributed := by
    intro t now speaker speaks
    cases now
    exact .inl (Option.some.inj speaks)
  number := by
    intro t now
    cases now
    exact Nat.lt_succ_self s.begun
  empty := tracked.empty
  sent := tracked.sent
  apart := tracked.apart

theorem transmit_tracked (tracked : Tracked s) (pcm : List (BitVec 16)) (memory : Bool) :
    Tracked (s.transmit rate pcm memory) := by
  have kept := txPlaybackTap_kept s.recorder rate (s.heard pcm) memory
  have grown := txPlaybackTap_buf s.recorder rate (s.heard pcm) memory
  have fresh : ∀ x ∈ (s.transmit rate pcm memory).recorder.txBuf,
      x ∈ s.recorder.txBuf ∨ x.frame = s.sent := by
    intro x member
    rcases grown with same | ⟨_, n, more⟩
    next => exact .inl (same ▸ member)
    next =>
      rw [OnAir.transmit, more] at member
      rcases List.mem_append.mp member with old | new
      next => exact .inl old
      next =>
        obtain ⟨_, _, rfl⟩ := List.mem_map.mp (List.mem_of_mem_take new)
        exact .inr rfl
  refine ⟨?_, ?_, tracked.number, ?_, ?_, ?_⟩
  next =>
    simp only [OnAir.transmit, kept.2.2]
    exact tracked.flag
  next =>
    simp only [OnAir.transmit, kept.2.1]
    exact tracked.attributed
  next =>
    intro stopped
    simp only [OnAir.transmit, kept.1] at stopped
    rcases grown with same | ⟨active, _⟩
    next => exact same.trans (tracked.empty stopped)
    next => exact absurd (stopped.symm.trans active) (by decide)
  next =>
    intro x member
    rcases mem_frames.mp member with old | buf
    next => exact Nat.lt_succ_of_lt (tracked.sent x (mem_frames.mpr (.inl old)))
    next =>
      rcases fresh x buf with old | new
      next => exact Nat.lt_succ_of_lt (tracked.sent x (mem_frames.mpr (.inr old)))
      next => exact new ▸ Nat.lt_succ_self s.sent
  next =>
    refine apart_buf tracked.apart fun y member => (fresh y member).imp_right fun new x old => ?_
    rw [new]
    refine Nat.ne_of_lt (tracked.sent x ?_)
    rw [OnAir.recordings, List.flatten_append]
    exact List.mem_append_left _ old

theorem react_tracked (tracked : Tracked s) (i : Input) : Tracked (s.react rate i) := by
  cases i with
  | drain src now memory => exact drain_tracked tracked src now memory
  | complete users written => exact complete_tracked tracked users written
  | vcorAssert userId source username => exact key_tracked tracked userId source username
  | frame pcm memory => exact transmit_tracked tracked pcm memory
  | resumed => exact play_tracked tracked
  | vcorDrop source =>
    exact ⟨nofun, tracked.attributed, tracked.number, tracked.empty, tracked.sent, tracked.apart⟩
  | configure _ | queued | emptied =>
    exact ⟨tracked.flag, tracked.attributed, tracked.number, tracked.empty, tracked.sent,
      tracked.apart⟩

theorem settle_tracked (tracked : Tracked s) : Tracked s.settle := by
  rw [OnAir.settle]
  split_ifs
  next => exact ⟨tracked.flag, nofun, nofun, tracked.empty, tracked.sent, tracked.apart⟩
  next => exact tracked

/-! ## What a step may break -/

theorem start_lawful : Lawful .start where
  closed := fun _ => rfl
  apart := start_tracked.apart
  within := nofun
  single := by simp [OnAir.start, initial]
  stored := by simp [OnAir.start]

theorem settle_lawful : Lawful s.settle ↔ Lawful s := by
  rw [OnAir.settle]
  split_ifs with quiet
  next =>
    constructor
    next =>
      intro lawful
      have stopped := lawful.closed quiet
      exact ⟨lawful.closed, lawful.apart,
        fun active => absurd (stopped.symm.trans active) (by decide), lawful.single, lawful.stored⟩
    next =>
      intro lawful
      have stopped := lawful.closed quiet
      exact ⟨lawful.closed, lawful.apart,
        fun active => absurd (stopped.symm.trans active) (by decide), lawful.single, lawful.stored⟩
  next => rfl

theorem next_opened (lawful : Lawful s) (active : s.recorder.txActive = true) :
    s.next = s.opened := by
  rw [OnAir.next, lawful.within active, Option.getD_some]

theorem play_lawful (lawful : Lawful s) : Lawful s.play where
  closed := by simp [OnAir.Quiet, OnAir.play]
  apart := lawful.apart
  within := fun active => congrArg some (next_opened lawful active)
  single := lawful.single
  stored := lawful.stored

theorem drain_lawful (lawful : Lawful s) (tracked : Tracked s) (src now : Text) (memory : Bool) :
    Lawful (s.drain rate src now memory) := by
  cases active : s.recorder.txActive with
  | true =>
    have playing := play_lawful lawful
    simp only [OnAir.drain, onQueueDrain_active active, active, if_true]
    exact ⟨playing.closed, playing.apart, playing.within, playing.single, playing.stored⟩
  | false =>
    have empty := onQueueDrain_empty (tracked.empty active) rate src now memory
    refine ⟨by simp [OnAir.Quiet, OnAir.drain, OnAir.play], (drain_tracked tracked ..).apart, ?_,
      ?_, lawful.stored⟩
    next => simp [OnAir.drain, OnAir.play, active]
    next => simp [OnAir.drain, empty]

theorem entry_lawful (lawful : Lawful s) (tracked : Tracked s)
    (active : s.recorder.txActive = true) (users : Int → Option Text) (path : Text) :
    (⟨⟨path, label users s.recorder.txVcor, s.recorder.txBuf⟩, s.opened,
      label users s.opened.attribution⟩ : Entry).Lawful ↔
    (s.opened.speaker = none → label users s.recorder.txVcor = "transmit".toList) := by
  constructor
  next =>
    intro entry unspoken
    rcases entry.named with named | named
    next =>
      rw [← label_nobody users]
      simpa only [Transmission.attribution, unspoken, Option.getD_none] using named
    next => exact named
  next =>
    intro blank
    refine ⟨lawful.single, ?_⟩
    cases speaker : s.opened.speaker with
    | none => exact .inr (blank speaker)
    | some a =>
      rcases tracked.attributed s.opened (lawful.within active) a speaker with same | none
      next => exact .inl (by simp only [Transmission.attribution, speaker, Option.getD_some, same])
      next => exact .inr (by rw [none, label_nobody])

theorem complete_lawful (lawful : Lawful s) (tracked : Tracked s) (users : Int → Option Text)
    (written : Bool) :
    Lawful (s.complete users written) ↔ Ready s (.complete users written) := by
  have apart := (complete_tracked tracked users written).apart
  have outcome := onQueueComplete_completes s.recorder users written
  rw [OnAir.complete] at apart ⊢
  rw [Ready]
  generalize s.recorder.onQueueComplete users written = stopped at outcome apart
  cases outcome with
  | ignored why =>
    have quiet : ¬ Leaves s users written := by
      rintro ⟨enabled, ended, _⟩
      simp [enabled, ended] at why
    simp only [Option.map_none, Option.toList_none, List.append_nil]
    rw [and_iff_left quiet]
    constructor
    next => exact fun after _ none items => after.closed ⟨none, items, rfl⟩
    next =>
      refine fun ready => ⟨fun quiet => ?_, lawful.apart, lawful.within, lawful.single,
        lawful.stored⟩
      rcases why with disabled | flag
      next => exact ready disabled quiet.1 quiet.2.1
      next => exact absurd quiet.1 (tracked.flag flag)
  | idle enabled ended stopped =>
    simp only [Option.map_none, Option.toList_none, List.append_nil]
    refine iff_of_true ⟨fun _ => stopped, lawful.apart, lawful.within, lawful.single, lawful.stored⟩
      ⟨fun _ _ _ => stopped, fun leaves => ?_⟩
    exact absurd (stopped.symm.trans leaves.2.2.1) (by decide)
  | loses enabled ended active why =>
    rw [and_iff_right fun disabled => absurd (enabled.symm.trans disabled) (by decide)]
    simp only [Option.map_none, Option.toList_none, List.append_nil] at apart ⊢
    refine iff_of_true ⟨fun _ => rfl, apart, nofun, by simp [closed], lawful.stored⟩
      fun leaves => ?_
    obtain ⟨_, _, _, heard, wrote, _⟩ := leaves
    simp [heard, wrote] at why
  | stores enabled ended active heard wrote path =>
    rw [and_iff_right fun disabled => absurd (enabled.symm.trans disabled) (by decide)]
    simp only [Option.map_some, Option.toList_some] at apart ⊢
    constructor
    next =>
      intro after leaves
      obtain ⟨_, _, _, _, _, unspoken, left⟩ := leaves
      have entry := after.stored _ (List.mem_append_right _ (List.mem_singleton_self _))
      exact left ((entry_lawful lawful tracked active users path).mp entry unspoken)
    next =>
      intro clean
      refine ⟨fun _ => rfl, apart, nofun, by simp [closed], fun entry member => ?_⟩
      rcases List.mem_append.mp member with old | new
      next => exact lawful.stored entry old
      next =>
        rw [List.mem_singleton.mp new]
        refine (entry_lawful lawful tracked active users path).mpr fun unspoken => ?_
        by_contra left
        exact clean ⟨enabled, ended, active, heard, wrote, unspoken, left⟩

theorem key_lawful (lawful : Lawful s) (tracked : Tracked s) (userId : Int)
    (source username : Text) :
    Lawful (s.key userId source username) ↔ s.recorder.txActive = false := by
  have keyed : (s.key userId source username).keyed ≠ [] := by
    have member : source ∈ s.keyed.insert source := List.mem_insert_self
    exact List.ne_nil_of_mem member
  constructor
  next =>
    intro after
    by_contra running
    have active : s.recorder.txActive = true := by simpa using running
    -- The new transmission has a number that no earlier one has.
    have same : (⟨s.begun, _⟩ : Transmission) = s.opened := Option.some.inj (after.within active)
    have earlier := tracked.number s.opened (lawful.within active)
    rw [← same] at earlier
    exact absurd earlier (Nat.lt_irrefl s.begun)
  next =>
    intro stopped
    exact ⟨fun quiet => absurd quiet.1 keyed, lawful.apart,
      fun active => absurd (stopped.symm.trans active) (by decide), lawful.single, lawful.stored⟩

theorem transmit_lawful (lawful : Lawful s) (tracked : Tracked s) (pcm : List (BitVec 16))
    (memory : Bool) : Lawful (s.transmit rate pcm memory) := by
  have kept := txPlaybackTap_kept s.recorder rate (s.heard pcm) memory
  refine ⟨?_, (transmit_tracked tracked pcm memory).apart, ?_, fun x member => ?_, lawful.stored⟩
  next =>
    simp only [OnAir.Quiet, OnAir.transmit, kept.1]
    exact lawful.closed
  next =>
    simp only [OnAir.transmit, kept.1]
    exact lawful.within
  next =>
    rcases txPlaybackTap_buf s.recorder rate (s.heard pcm) memory with same | ⟨active, n, more⟩
    next =>
      rw [OnAir.transmit, same] at member
      exact lawful.single x member
    next =>
      rw [OnAir.transmit, more] at member
      rcases List.mem_append.mp member with old | new
      next => exact lawful.single x old
      next =>
        obtain ⟨_, _, rfl⟩ := List.mem_map.mp (List.mem_of_mem_take new)
        exact lawful.within active

theorem closed_lawful (lawful : Lawful s) (after : OnAir) (recordings : after.stored = s.stored)
    (buf : after.recorder.txBuf = s.recorder.txBuf)
    (active : after.recorder.txActive = s.recorder.txActive) (current : after.current = s.current)
    (opened : after.opened = s.opened) :
    Lawful after ↔ (after.Quiet → s.recorder.txActive = false) := by
  constructor
  next => exact fun lawful quiet => active ▸ lawful.closed quiet
  next =>
    intro closed
    refine ⟨fun quiet => active.trans (closed quiet), ?_, ?_, ?_, ?_⟩
    next =>
      rw [OnAir.recordings, recordings, buf]
      exact lawful.apart
    next =>
      rw [active, current, opened]
      exact lawful.within
    next =>
      rw [buf, opened]
      exact lawful.single
    next =>
      rw [recordings]
      exact lawful.stored

theorem react_lawful (lawful : Lawful s) (tracked : Tracked s) (i : Input) :
    Lawful (s.react rate i) ↔ Ready s i := by
  cases i with
  | drain src now memory => exact iff_of_true (drain_lawful lawful tracked src now memory) trivial
  | complete users written => exact complete_lawful lawful tracked users written
  | vcorAssert userId source username => exact key_lawful lawful tracked userId source username
  | frame pcm memory => exact iff_of_true (transmit_lawful lawful tracked pcm memory) trivial
  | resumed => exact iff_of_true (play_lawful lawful) trivial
  | vcorDrop source =>
    refine (closed_lawful lawful (s.react rate (.vcorDrop source)) rfl rfl rfl rfl rfl).trans ?_
    simp [Ready, OnAir.Quiet, OnAir.react, List.filter_eq_nil_iff]
  | emptied =>
    refine (closed_lawful lawful (s.react rate .emptied) rfl rfl rfl rfl rfl).trans ?_
    simp [Ready, OnAir.Quiet, OnAir.react]
  | queued =>
    refine (closed_lawful lawful (s.react rate .queued) rfl rfl rfl rfl rfl).trans ?_
    simp [Ready, OnAir.Quiet, OnAir.react]
  | configure cfg =>
    exact (closed_lawful lawful (s.react rate (.configure cfg)) rfl rfl rfl rfl rfl).trans
      (iff_of_true lawful.closed trivial)

end

/-- In every interleaving, recordings are closed, apart, of one transmission each and under its
name, if and only if each event finds the recorder ready for it. -/
theorem recordings_closed (rate : Nat) (inputs : List Input) :
    Machine.Guarded (OnAir.step rate) (fun s i => Lawful (s.step rate i)) .start inputs ↔
      Machine.Guarded (OnAir.step rate) Ready .start inputs :=
  Machine.guarded_iff_of_invariant (OnAir.step rate) (P := fun s => Lawful s ∧ Tracked s)
    (fun _ i held => settle_lawful.trans (react_lawful held.1 held.2 i))
    (fun _ i held ready =>
      ⟨settle_lawful.mpr ((react_lawful held.1 held.2 i).mpr ready),
        settle_tracked (react_tracked held.2 i)⟩)
    ⟨start_lawful, start_tracked⟩

/-- A web client pauses until the queue is empty, and releases its key: the recording stays open. -/
theorem idle_drop_keeps_recording :
    ¬ Machine.Guarded (OnAir.step 48000) (fun s i => Lawful (s.step 48000 i)) .start
      [.configure [⟨"recording".toList, "enabled".toList, "on".toList⟩],
        .vcorAssert 1 "web_ptt".toList [], .queued, .drain [] "now".toList true, .frame [7] true,
        .emptied, .complete (fun _ => none) true, .vcorDrop "web_ptt".toList] := by
  rintro ⟨_, _, _, _, _, _, _, last, _⟩
  exact absurd (last.closed (by decide)) (by decide)

end Kerchunk.Recorder
