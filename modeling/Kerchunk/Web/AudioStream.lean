import Kerchunk.Lib.BoundedFifo
import Kerchunk.Lib.CircularWindow
import Kerchunk.Lib.Machine
import Mathlib.Algebra.GroupWithZero.Nat

set_option autoImplicit false

/-!
# Live audio over WebSocket (`modules/mod_web.c`)

The audio thread puts frames into a ring, and the web thread sends them to whoever listens. The threads
share the two indices of the ring, of which each may see an older value, and the count of listeners.
-/

namespace Kerchunk.Web.AudioStream

open CircularWindow
open Machine (run)
open Published (Counts)

/-- `WS_RING_SLOTS` -/
def ringSlots : Nat := 512

def ringMask : Nat := ringSlots - 1

/-- `dir` is 0 for received audio and 1 for transmitted. -/
structure Slot where
  samples : List Int
  dir : Nat
deriving DecidableEq

def Slot.zero : Slot := ⟨[], 0⟩

/-- The four bytes before the samples, and the samples. -/
structure Message where
  header : List Nat
  samples : List Int
deriving DecidableEq

def message (s : Slot) (wsSeq : Nat) : Message where
  header := [1, s.dir, wsSeq &&& 255, (wsSeq >>> 8) &&& 255]
  samples := s.samples

/-- What a connection with a state has been sent, and how many frames had been sent to others before
it was opened. -/
structure Listener where
  missed : Nat
  messages : List Message

/-- `pushing` is the slot of a push that has not moved the write index yet, and `flushing` the two
indices of a flush that is under way. `pushed` are the frames that were taken into the ring so far,
`sent` counts those that a flush has passed, and `taken` those up to the read index. -/
structure Feed where
  ring : Nat → Slot
  w : Nat
  r : Nat
  heads : Published Nat
  tails : Published Nat
  pushing : Option Slot
  flushing : Option (Nat × Nat)
  wsSeq : Nat
  audioCount : Int
  conns : Nat → Option (Option Listener)
  pushed : List Slot
  sent : Nat
  taken : Nat

def Feed.init : Feed where
  ring := fun _ => .zero
  w := 0
  r := 0
  heads := ⟨0, []⟩
  tails := ⟨0, []⟩
  pushing := none
  flushing := none
  wsSeq := 0
  audioCount := 0
  conns := fun _ => none
  pushed := []
  sent := 0
  taken := 0

namespace Feed

variable (s : Feed)

/-! ## The audio thread -/

def wsRingPush (slot : Slot) (later : Nat) : Feed :=
  -- `ws_ring_push` up to the store of the index: a full ring drops the frame.
  let next := (s.w + 1) &&& ringMask
  let tails := s.tails.load later
  if next = tails.seen then { s with tails := tails }
  else { s with tails := tails, ring := Function.update s.ring s.w slot, pushing := some slot }

def wsRingPublish : Feed :=
  match s.pushing with
  | none => s
  | some slot =>
      let next := (s.w + 1) &&& ringMask
      { s with
        w := next, heads := s.heads.store next, pushing := none, pushed := s.pushed ++ [slot] }

/-! ## The web thread -/

def flushBegin (later : Nat) : Feed :=
  if s.audioCount ≤ 0 then s
  else
    let heads := s.heads.load later
    { s with heads := heads, flushing := some (s.r, heads.seen) }

def deliver (m : Message) : Option (Option Listener) → Option (Option Listener) :=
  Option.map (Option.map fun l => { l with messages := l.messages ++ [m] })

def flushNext (r w : Nat) : Feed :=
  if r = w then
    { s with r := r, tails := s.tails.store r, flushing := none, taken := s.sent }
  else
    let m := message (s.ring r) s.wsSeq
    { s with
      wsSeq := (s.wsSeq + 1) % 65536
      conns := fun c => deliver m (s.conns c)
      flushing := some ((r + 1) &&& ringMask, w)
      sent := s.sent + 1 }

def wsOpen (c : Nat) (allocated : Bool) : Feed :=
  match s.conns c with
  | some _ => s
  | none =>
      { s with
        conns := Function.update s.conns c
          (some (if allocated then some { missed := s.sent, messages := [] } else none))
        audioCount := s.audioCount + 1 }

def wsClose (c : Nat) : Feed :=
  { s with
    conns := Function.update s.conns c none
    audioCount := if (s.conns c).join.isSome then s.audioCount - 1 else s.audioCount }

/-- One access of one of the threads. The web thread does nothing else while it flushes. -/
inductive Step where
  | push (slot : Slot) (later : Nat)
  | publish
  | flush (later : Nat)
  | opened (c : Nat) (allocated : Bool)
  | closed (c : Nat)

def step : Step → Feed
  | .push slot later =>
      if s.audioCount ≤ 0 ∨ s.pushing ≠ none then s else s.wsRingPush slot later
  | .publish => s.wsRingPublish
  | .flush later =>
      match s.flushing with
      | none => s.flushBegin later
      | some (r, w) => s.flushNext r w
  | .opened c allocated => if s.flushing = none then s.wsOpen c allocated else s
  | .closed c => if s.flushing = none then s.wsClose c else s

end Feed

/-! ## Listeners hear what was pushed -/

def numbered (first : Nat) (slots : List Slot) : List Message :=
  slots.mapIdx fun i slot => message slot ((first + i) % 65536)

theorem numbered_snoc (first : Nat) (slots : List Slot) (slot : Slot) :
    numbered first (slots ++ [slot]) =
      numbered first slots ++ [message slot ((first + slots.length) % 65536)] := by
  simp [numbered, List.mapIdx_concat]

/-- Each listener has been sent the frames from when it came up to the last one sent, in order, each
once, under the numbers that all listeners get; what is not sent yet fits the ring. -/
structure Heard (s : Feed) : Prop where
  listeners : ∀ c l, s.conns c = some (some l) →
    l.messages = numbered l.missed ((s.pushed.take s.sent).drop l.missed)
  behind : s.sent ≤ s.pushed.length ∧ s.pushed.length < s.sent + ringSlots

namespace Feed

structure Sound (s : Feed) : Prop where
  w : s.w = s.pushed.length % ringSlots
  r : s.r = s.taken % ringSlots
  wsSeq : s.wsSeq = s.sent % 65536
  order : s.taken ≤ s.sent ∧ s.sent ≤ s.pushed.length
  contents : window ringSlots s.ring s.taken (s.pushed.length - s.taken) = s.pushed.drop s.taken
  pushing : ∀ slot, s.pushing = some slot → s.ring s.w = slot
  heads : Counts ringSlots s.sent s.pushed.length s.heads
  tails : Counts ringSlots (s.pushed.length + s.pushing.toList.length - (ringSlots - 1)) s.taken s.tails
  idle : s.flushing = none → s.taken = s.sent
  flushing : ∀ r w, s.flushing = some (r, w) → r = s.sent % ringSlots ∧
    ∃ k, w = k % ringSlots ∧ s.sent ≤ k ∧ k ≤ s.pushed.length ∧ Counts ringSlots k s.pushed.length s.heads
  listeners : ∀ c l, s.conns c = some (some l) → l.missed ≤ s.sent ∧
    l.messages = numbered l.missed ((s.pushed.take s.sent).drop l.missed)

theorem mask_succ (n : Nat) : (n % ringSlots + 1) &&& ringMask = (n + 1) % ringSlots := by
  rw [ringMask, ringSlots, Nat.and_two_pow_sub_one_eq_mod _ 9]
  omega

theorem sound_init : Sound init where
  w := rfl
  r := rfl
  wsSeq := rfl
  order := ⟨Nat.le_refl _, Nat.le_refl _⟩
  contents := rfl
  pushing := nofun
  heads := Counts.single 0
  tails := Counts.single 0
  idle := fun _ => rfl
  flushing := nofun
  listeners := nofun

section

variable {s : Feed} (sound : Sound s)

include sound

theorem Sound.room : s.pushed.length + s.pushing.toList.length < s.taken + ringSlots := by
  obtain ⟨k, above, below, -⟩ := sound.tails.seen
  have size : ringSlots = 512 := rfl
  omega

/-- A frame that has not been sent is in its place in the ring. -/
theorem Sound.slot {i : Nat} (after : s.taken ≤ i) (before : i < s.pushed.length) :
    s.ring (i % ringSlots) = s.pushed[i] := by
  have inside : i - s.taken < s.pushed.length - s.taken := by omega
  have place : s.taken + (i - s.taken) = i := by omega
  have stored := congrArg (fun slots => slots[i - s.taken]?) sound.contents
  simp only [window, List.getElem?_map, List.getElem?_range inside, Option.map_some,
    List.getElem?_drop, place, List.getElem?_eq_getElem before, Option.some.injEq] at stored
  exact stored

theorem push_sound (idle : s.pushing = none) (slot : Slot) (later : Nat) :
    Sound (s.wsRingPush slot later) := by
  have size : ringSlots = 512 := rfl
  have tails := sound.tails.load later
  obtain ⟨k, above, below, seen, counts⟩ := tails.seen
  have room := sound.room
  obtain ⟨first, last⟩ := sound.order
  rw [idle, Option.toList_none, List.length_nil, Nat.add_zero] at above room
  unfold wsRingPush
  simp only
  split
  next => exact { sound with tails := tails }
  next free =>
    rw [sound.w, mask_succ, seen] at free
    have fits : s.pushed.length + 1 ≤ k + 511 := by
      have other : (s.pushed.length + 1) % 512 ≠ k % 512 := free
      omega
    refine { sound with
      contents := ?_
      pushing := fun _ same => by cases same; simp
      tails := counts.lower (by simp only [Option.toList_some, List.length_singleton]; omega) }
    have cell : s.w = (s.taken + (s.pushed.length - s.taken)) % ringSlots := by
      rw [sound.w]
      congr 1
      omega
    simp only
    rw [cell, window_update_after _ _ _ _ _ (by omega)]
    exact sound.contents

theorem publish_sound : Sound s.wsRingPublish := by
  unfold wsRingPublish
  split
  next => exact sound
  next slot pushing =>
    have size : ringSlots = 512 := rfl
    obtain ⟨first, last⟩ := sound.order
    have room := sound.room
    have tails := sound.tails
    rw [pushing, Option.toList_some, List.length_singleton] at room tails
    have next_ : (s.w + 1) &&& ringMask = (s.pushed.length + 1) % ringSlots := by
      rw [sound.w, mask_succ]
    refine {
      w := by simp [next_]
      r := sound.r
      wsSeq := sound.wsSeq
      order := ⟨first, by simp; omega⟩
      contents := ?_
      pushing := nofun
      heads := ?_
      tails := by simpa using tails
      idle := sound.idle
      flushing := fun r w under => ?_
      listeners := fun c l here => ?_ }
    next =>
      have more : (s.pushed ++ [slot]).length - s.taken = s.pushed.length - s.taken + 1 := by
        simp only [List.length_append, List.length_singleton]
        omega
      have cell : s.ring ((s.taken + (s.pushed.length - s.taken)) % ringSlots) = slot := by
        rw [show s.taken + (s.pushed.length - s.taken) = s.pushed.length by omega, ← sound.w]
        exact sound.pushing slot pushing
      simp only
      rw [more, window_succ, sound.contents, cell, List.drop_append_of_le_length (by omega)]
    next =>
      simp only [next_, List.length_append, List.length_singleton]
      exact sound.heads.store (by omega) last
    next =>
      obtain ⟨here, k, w_, low, high, counts⟩ := sound.flushing r w under
      refine ⟨here, k, w_, low, by simp; omega, ?_⟩
      simp only [next_, List.length_append, List.length_singleton]
      exact counts.store (by omega) high
    next =>
      obtain ⟨came, heard⟩ := sound.listeners c l here
      refine ⟨came, ?_⟩
      simp only
      rw [List.take_append_of_le_length last]
      exact heard

theorem flushBegin_sound (idle : s.flushing = none) (later : Nat) : Sound (s.flushBegin later) := by
  unfold flushBegin
  split
  next => exact sound
  next =>
    have heads := sound.heads.load later
    obtain ⟨k, low, high, seen, counts⟩ := heads.seen
    refine { sound with
      heads := heads
      idle := nofun
      flushing := fun r w under => ?_ }
    cases under
    exact ⟨by rw [sound.r, sound.idle idle], k, seen, low, high, counts⟩

theorem flushNext_sound {r w : Nat} (under : s.flushing = some (r, w)) : Sound (s.flushNext r w) := by
  have size : ringSlots = 512 := rfl
  obtain ⟨first, last⟩ := sound.order
  have room := sound.room
  obtain ⟨rfl, k, rfl, low, high, counts⟩ := sound.flushing r w under
  unfold flushNext
  split
  next met =>
    refine { sound with
      r := rfl
      order := ⟨Nat.le_refl _, last⟩
      contents := ?_
      tails := ?_
      idle := fun _ => rfl
      flushing := nofun }
    next =>
      have split_ : s.pushed.length - s.taken = (s.sent - s.taken) + (s.pushed.length - s.sent) := by
        omega
      have whole := sound.contents
      rw [split_, window_add, show s.taken + (s.sent - s.taken) = s.sent by omega] at whole
      have dropped := congrArg (List.drop (s.sent - s.taken)) whole
      rw [List.drop_left' (window_length ..), List.drop_drop,
        show s.taken + (s.sent - s.taken) = s.sent by omega] at dropped
      exact dropped
    next => exact sound.tails.store first (by
        obtain ⟨j, above, below, -⟩ := sound.tails.seen
        omega)
  next apart =>
    have some_ : s.sent < k := by
      by_contra none
      have same : s.sent = k := by omega
      exact apart (by rw [same])
    have before : s.sent < s.pushed.length := by omega
    have slot := sound.slot first before
    refine { sound with
      wsSeq := by simp only [sound.wsSeq]; omega
      order := ⟨by simp only; omega, before⟩
      heads := counts.lower some_
      idle := nofun
      flushing := fun r w under => ?_
      listeners := fun c l here => ?_ }
    next =>
      cases under
      exact ⟨mask_succ s.sent, k, rfl, some_, high, counts⟩
    next =>
      obtain ⟨old, was, heardNow⟩ := Option.map_eq_some_iff.mp here
      obtain ⟨l', rfl, rfl⟩ := Option.map_eq_some_iff.mp heardNow
      obtain ⟨came, heard⟩ := sound.listeners c l' was
      refine ⟨Nat.le_succ_of_le came, ?_⟩
      have counted : ((s.pushed.take s.sent).drop l'.missed).length = s.sent - l'.missed := by
        simp only [List.length_drop, List.length_take]
        omega
      have number : l'.missed + (s.sent - l'.missed) = s.sent := by omega
      simp only
      rw [List.take_succ_eq_append_getElem before,
        List.drop_append_of_le_length (by simp only [List.length_take]; omega), numbered_snoc, counted,
        number, heard, slot, sound.wsSeq]

theorem open_sound (c : Nat) (allocated : Bool) : Sound (s.wsOpen c allocated) := by
  unfold wsOpen
  split
  next => exact sound
  next =>
    refine { sound with listeners := fun d l here => ?_ }
    by_cases at_ : d = c
    next =>
      subst at_
      cases allocated with
      | false => simp at here
      | true =>
        simp only [Function.update_self, if_true, Option.some.injEq] at here
        subst here
        refine ⟨Nat.le_refl _, ?_⟩
        have none_ : (s.pushed.take s.sent).drop s.sent = [] :=
          List.drop_eq_nil_of_le (List.length_take_le _ _)
        simp [none_, numbered]
    next =>
      simp only [Function.update_of_ne at_] at here
      exact sound.listeners d l here

theorem close_sound (c : Nat) : Sound (s.wsClose c) := by
  refine { sound with listeners := fun d l here => ?_ }
  by_cases at_ : d = c
  next =>
    subst at_
    simp [wsClose] at here
  next =>
    simp only [wsClose, Function.update_of_ne at_] at here
    exact sound.listeners d l here

theorem step_sound (i : Step) : Sound (s.step i) := by
  cases i with
  | push slot later =>
    simp only [step]
    split
    next => exact sound
    next may =>
      have idle : s.pushing = none := by
        by_contra busy
        exact may (Or.inr busy)
      exact push_sound sound idle slot later
  | publish => exact publish_sound sound
  | flush later =>
    simp only [step]
    split
    next idle => exact flushBegin_sound sound idle later
    next r w under => exact flushNext_sound sound under
  | opened c allocated =>
    simp only [step]
    split
    next => exact open_sound sound c allocated
    next => exact sound
  | closed c =>
    simp only [step]
    split
    next => exact close_sound sound c
    next => exact sound

end

end Feed

open Feed (Sound step_sound sound_init)

/-- Every interleaving of the audio thread and the web thread, with whatever each sees of the other. -/
theorem listeners_hear_stream (steps : List Feed.Step) :
    Heard (run Feed.step Feed.init steps) := by
  have sound : Sound (run Feed.step Feed.init steps) :=
    Machine.run_holds (P := Sound) Feed.step (fun _ i sound => step_sound sound i) sound_init
  have room := sound.room
  have order := sound.order
  exact ⟨fun c l here => (sound.listeners c l here).2, order.2, by omega⟩

end Kerchunk.Web.AudioStream
