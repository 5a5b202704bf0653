import Kerchunk.Lib.Machine
import Kerchunk.Lib.Serial
import Mathlib.Data.List.Chain
import Mathlib.Logic.Function.Basic

set_option autoImplicit false

/-!
# The jitter buffer of the link client (`modules/mod_link.c`)

Times are milliseconds of the monotonic clock. What the decoder makes of a packet does not act on the
buffer.
-/

namespace Kerchunk.Link

open Serial (Seq ahead)

def jbSlots : Nat := 5
def jbPlcMax : Nat := 5
def jbPayloadMax : Nat := 256
def jbPlayoutBudget : Nat := 10
def opusFrameMs : Int := 60

structure Packet where
  seq : Seq
  payload : List UInt8
deriving DecidableEq

/-- `restart` empties the buffer, and `concealed` is a pop that finds no packet. -/
inductive JbEvent where
  | restart
  | stored (p : Packet)
  | displaced (p : Packet) (by' : Packet)
  | decoded (p : Packet)
  | concealed
deriving DecidableEq

/-- A slot without a packet is not in use. The log has the newest event first. -/
structure JitterBuffer where
  slots : Fin jbSlots → Option Packet
  initialized : Bool
  cursor : Seq
  nextPlayMs : Int
  consecMiss : Nat
  late : Nat
  overflow : Nat
  log : List JbEvent

namespace JitterBuffer

def init : JitterBuffer where
  slots := fun _ => none
  initialized := false
  cursor := 0
  nextPlayMs := 0
  consecMiss := 0
  late := 0
  overflow := 0
  log := []

def slotOf (seq : Seq) : Fin jbSlots :=
  ⟨seq.toNat % jbSlots, Nat.mod_lt _ (by decide)⟩

variable (jb : JitterBuffer)

def reset : JitterBuffer :=
  { jb with
    slots := fun _ => none
    initialized := false
    cursor := 0
    nextPlayMs := 0
    consecMiss := 0
    log := .restart :: jb.log }

def startAt (seq : Seq) (now targetMs : Int) : JitterBuffer :=
  { jb with cursor := seq, nextPlayMs := now + targetMs, initialized := true }

def started (seq : Seq) (now targetMs : Int) : JitterBuffer :=
  -- The first packet starts the buffer.
  if jb.initialized then jb else jb.startAt seq now targetMs

def displacing (p : Packet) : Option Packet :=
  (jb.slots (slotOf p.seq)).filter fun old => old.seq ≠ p.seq

def store (p : Packet) : JitterBuffer :=
  { jb with
    slots := Function.update jb.slots (slotOf p.seq) (some p)
    overflow := if (jb.displacing p).isSome then jb.overflow + 1 else jb.overflow
    log := .stored p :: (((jb.displacing p).map fun old => .displaced old p).toList ++ jb.log) }

def insert (p : Packet) (now targetMs : Int) : JitterBuffer :=
  if p.payload.length = 0 ∨ p.payload.length > jbPayloadMax then jb
  else
    let jb := jb.started p.seq now targetMs
    let delta := ahead p.seq jb.cursor
    if delta < 0 ∧ delta > -200 then { jb with late := jb.late + 1 }
    else
      let jb := if delta > 200 ∨ delta < -200 then jb.reset.startAt p.seq now targetMs else jb
      jb.store p

def taking : Option Packet :=
  (jb.slots (slotOf jb.cursor)).filter fun p => p.seq = jb.cursor

def pop : JitterBuffer :=
  -- One frame: a packet is decoded, or its loss concealed.
  let jb :=
    match jb.taking with
    | some p =>
      { jb with
        slots := Function.update jb.slots (slotOf jb.cursor) none
        consecMiss := 0
        log := .decoded p :: jb.log }
    | none => { jb with consecMiss := jb.consecMiss + 1, log := .concealed :: jb.log }
  { jb with cursor := jb.cursor + 1, nextPlayMs := jb.nextPlayMs + opusFrameMs }

def playout (now : Int) : Nat → JitterBuffer → JitterBuffer
  | 0, jb => jb
  | budget + 1, jb =>
    if now ≥ jb.nextPlayMs then
      let jb := jb.pop
      if jb.consecMiss ≥ jbPlcMax then jb.reset else playout now budget jb
    else jb

def playoutTick (now : Int) (sessionActive muted : Bool) : JitterBuffer :=
  if !jb.initialized || !sessionActive || muted then jb else playout now jbPlayoutBudget jb

end JitterBuffer

/-- `cleanup` is the end of a session. -/
inductive JbInput where
  | packet (p : Packet) (now targetMs : Int)
  | tick (now : Int) (sessionActive muted : Bool)
  | cleanup

namespace JitterBuffer

def step (jb : JitterBuffer) : JbInput → JitterBuffer
  | .packet p now targetMs => jb.insert p now targetMs
  | .tick now sessionActive muted => jb.playoutTick now sessionActive muted
  | .cleanup => jb.reset

/-! ## What the buffer promises -/

def isRestart : JbEvent → Bool
  | .restart => true
  | _ => false

def epoch (log : List JbEvent) : List JbEvent :=
  -- The events since the last restart, the newest first.
  log.takeWhile fun e => !isRestart e

def decodedSeq : JbEvent → Option Seq
  | .decoded p => some p.seq
  | _ => none

def decodes (log : List JbEvent) : List Seq :=
  (epoch log).filterMap decodedSeq

def Waits (jb : JitterBuffer) (seq : Seq) : Prop :=
  ∃ i p, jb.slots i = some p ∧ p.seq = seq

instance decidableWaits (jb : JitterBuffer) (seq : Seq) : Decidable (jb.Waits seq) :=
  decidable_of_iff (∃ i, (jb.slots i).map Packet.seq = some seq) (by simp [Waits])

/-- What becomes of a stored packet: it waits in its slot, has been decoded, or was displaced. -/
structure Conserves (jb : JitterBuffer) : Prop where
  kept : ∀ p, .stored p ∈ epoch jb.log →
    jb.Waits p.seq ∨ p.seq ∈ decodes jb.log ∨ ∃ old by', .displaced old by' ∈ epoch jb.log ∧ old.seq = p.seq
  once : ∀ p, (epoch jb.log).count (.decoded p) + (if ∃ i, jb.slots i = some p then 1 else 0) ≤
    (epoch jb.log).count (.stored p)

structure Buffers (jb : JitterBuffer) : Prop where
  window : ∀ i p, jb.slots i = some p → 0 ≤ ahead p.seq jb.cursor ∧ ahead p.seq jb.cursor ≤ 200
  order : (decodes jb.log).IsChain fun newer older => 0 < ahead newer older ∧ ahead newer older ≤ jbPlcMax
  conserves : jb.Conserves
  apart : ∀ old by', .displaced old by' ∈ jb.log →
    old.seq.toNat + jbSlots ≤ by'.seq.toNat ∨ by'.seq.toNat + jbSlots ≤ old.seq.toNat

def OffEdge (jb : JitterBuffer) : JbInput → Prop
  -- No packet is exactly 200 behind the cursor.
  | .packet p _ _ => jb.initialized = true → ahead p.seq jb.cursor ≠ -200
  | _ => True

instance decidableOffEdge (jb : JitterBuffer) : (i : JbInput) → Decidable (jb.OffEdge i)
  | .packet .. => inferInstanceAs (Decidable (_ → _))
  | .tick .. | .cleanup => .isTrue trivial

/-- A packet that is not late comes less than the depth of the buffer ahead of the cursor, with no
wrap between the cursor and it. -/
def InTime (jb : JitterBuffer) : JbInput → Prop
  | .packet p _ _ => jb.initialized = true → 0 ≤ ahead p.seq jb.cursor →
      ahead p.seq jb.cursor < jbSlots ∧ jb.cursor.toNat ≤ p.seq.toNat
  | _ => True

def Undisplaced (jb : JitterBuffer) : Prop :=
  -- Nothing is displaced.
  ∀ old by', .displaced old by' ∉ epoch jb.log

@[simp] theorem epoch_restart (log : List JbEvent) : epoch (.restart :: log) = [] := rfl

@[simp] theorem epoch_stored (p : Packet) (log : List JbEvent) :
    epoch (.stored p :: log) = .stored p :: epoch log := rfl

@[simp] theorem epoch_displaced (old p : Packet) (log : List JbEvent) :
    epoch (.displaced old p :: log) = .displaced old p :: epoch log := rfl

@[simp] theorem epoch_decoded (p : Packet) (log : List JbEvent) :
    epoch (.decoded p :: log) = .decoded p :: epoch log := rfl

@[simp] theorem epoch_concealed (log : List JbEvent) :
    epoch (.concealed :: log) = .concealed :: epoch log := rfl

/-! ## What keeps the promise -/

structure Sound (jb : JitterBuffer) : Prop where
  fresh : jb.initialized = false → jb.slots = (fun _ => none) ∧ epoch jb.log = [] ∧ jb.consecMiss = 0
  place : ∀ i p, jb.slots i = some p → i = slotOf p.seq
  buffers : jb.Buffers
  last : ∀ newest ∈ (decodes jb.log).head?, ahead jb.cursor newest = jb.consecMiss + 1
  misses : jb.consecMiss < jbPlcMax

theorem empty_sound {jb : JitterBuffer} (empty : jb.slots = fun _ => none)
    (restarted : epoch jb.log = []) (misses : jb.consecMiss = 0)
    (apart : ∀ old by', .displaced old by' ∈ jb.log →
      old.seq.toNat + jbSlots ≤ by'.seq.toNat ∨ by'.seq.toNat + jbSlots ≤ old.seq.toNat) :
    jb.Sound where
  fresh := fun _ => ⟨empty, restarted, misses⟩
  place := by simp [empty]
  buffers :=
    { window := by simp [empty]
      order := by simp [decodes, restarted]
      conserves := ⟨by simp [restarted], by simp [restarted, empty]⟩
      apart := apart }
  last := by simp [decodes, restarted]
  misses := by
    rw [misses]
    decide

theorem init_sound : init.Sound :=
  empty_sound rfl rfl rfl nofun

theorem reset_sound {jb : JitterBuffer} (apart : ∀ old by', .displaced old by' ∈ jb.log →
    old.seq.toNat + jbSlots ≤ by'.seq.toNat ∨ by'.seq.toNat + jbSlots ≤ old.seq.toNat) :
    jb.reset.Sound :=
  empty_sound rfl rfl rfl fun old by' displaced => apart old by' (by simpa [reset] using displaced)

theorem startAt_sound {jb : JitterBuffer} (sound : jb.Sound) (idle : jb.initialized = false)
    (seq : Seq) (now targetMs : Int) : (jb.startAt seq now targetMs).Sound := by
  obtain ⟨empty, restarted, misses⟩ := sound.fresh idle
  exact empty_sound empty restarted misses sound.buffers.apart

theorem slotOf_apart {a b : Seq} (shared : slotOf a = slotOf b) (other : a ≠ b) :
    a.toNat + jbSlots ≤ b.toNat ∨ b.toNat + jbSlots ≤ a.toNat := by
  have same : a.toNat % 5 = b.toNat % 5 := congrArg Fin.val shared
  have differ : a.toNat ≠ b.toNat := fun numbers => other (BitVec.eq_of_toNat_eq numbers)
  unfold jbSlots
  omega

section

variable {jb : JitterBuffer} {p : Packet}

theorem displacing_some {old : Packet} (found : jb.displacing p = some old) :
    jb.slots (slotOf p.seq) = some old ∧ old.seq ≠ p.seq := by
  simpa [displacing, Option.filter_eq_some_iff] using found

theorem epoch_store : epoch (jb.store p).log =
    .stored p :: (((jb.displacing p).map fun old => .displaced old p).toList ++ epoch jb.log) := by
  cases found : jb.displacing p <;> simp [store, found]

@[simp] theorem decodes_store : decodes (jb.store p).log = decodes jb.log := by
  rw [decodes, epoch_store]
  cases jb.displacing p <;> rfl

theorem store_conserves (conserves : jb.Conserves) : (jb.store p).Conserves where
  kept q stored := by
    rw [epoch_store] at stored ⊢
    rw [decodes_store]
    have waits_here : (jb.store p).Waits p.seq := ⟨slotOf p.seq, p, by simp [store], rfl⟩
    by_cases same : q.seq = p.seq
    next => exact Or.inl (same ▸ waits_here)
    have before : .stored q ∈ epoch jb.log := by
      have other : q ≠ p := fun equal => same (equal ▸ rfl)
      cases found : jb.displacing p <;> simpa [found, other] using stored
    rcases conserves.kept q before with ⟨i, old, present, seq⟩ | decoded | ⟨old, by', displaced, seq⟩
    next =>
      by_cases here : i = slotOf p.seq
      next =>
        have found : jb.displacing p = some old := by
          have other : old.seq ≠ p.seq := seq ▸ same
          simp [displacing, ← here, present, other]
        exact Or.inr (Or.inr ⟨old, p, by simp [found], seq⟩)
      next => exact Or.inl ⟨i, old, by simpa [store, here] using present, seq⟩
    next => exact Or.inr (Or.inl decoded)
    next => exact Or.inr (Or.inr ⟨old, by', by simp [displaced], seq⟩)
  once q := by
    have counted := conserves.once q
    rw [epoch_store]
    have decodes_same : (JbEvent.stored p :: (((jb.displacing p).map fun old =>
        JbEvent.displaced old p).toList ++ epoch jb.log)).count (.decoded q) =
          (epoch jb.log).count (.decoded q) := by
      cases jb.displacing p <;> simp
    have stores : (JbEvent.stored p :: (((jb.displacing p).map fun old =>
        JbEvent.displaced old p).toList ++ epoch jb.log)).count (.stored q) =
          (epoch jb.log).count (.stored q) + if p = q then 1 else 0 := by
      cases jb.displacing p <;> simp [List.count_cons]
    rw [decodes_same, stores]
    by_cases same : p = q
    next =>
      rw [if_pos same]
      split <;> split at counted <;> omega
    next =>
      have fewer : (∃ i, (jb.store p).slots i = some q) → ∃ i, jb.slots i = some q := by
        rintro ⟨i, present⟩
        by_cases here : i = slotOf p.seq
        next =>
          subst here
          exact absurd (by simpa [store] using present) same
        next => exact ⟨i, by simpa [store, here] using present⟩
      rw [if_neg same]
      by_cases after : ∃ i, (jb.store p).slots i = some q
      next =>
        rw [if_pos (fewer after)] at counted
        rw [if_pos after]
        exact counted
      next =>
        rw [if_neg after]
        omega

theorem store_sound (sound : jb.Sound) (running : jb.initialized = true)
    (low : 0 ≤ ahead p.seq jb.cursor) (up : ahead p.seq jb.cursor ≤ 200) : (jb.store p).Sound where
  fresh idle := by cases running.symm.trans idle
  place i q present := by
    by_cases here : i = slotOf p.seq
    next =>
      subst here
      obtain rfl : p = q := by simpa [store] using present
      rfl
    next => exact sound.place i q (by simpa [store, here] using present)
  buffers :=
    { window := by
        intro i q present
        by_cases here : i = slotOf p.seq
        next =>
          subst here
          obtain rfl : p = q := by simpa [store] using present
          exact ⟨low, up⟩
        next => exact sound.buffers.window i q (by simpa [store, here] using present)
      order := by simpa using sound.buffers.order
      conserves := store_conserves sound.buffers.conserves
      apart := by
        intro old by' displaced
        cases found : jb.displacing p with
        | none => exact sound.buffers.apart old by' (by simpa [store, found] using displaced)
        | some here =>
          obtain ⟨present, other⟩ := displacing_some found
          have moved : old = here ∧ by' = p ∨ .displaced old by' ∈ jb.log := by
            simpa [store, found] using displaced
          rcases moved with ⟨rfl, rfl⟩ | before
          next => exact slotOf_apart (sound.place _ _ present).symm other
          next => exact sound.buffers.apart old by' before }
  last newest head := sound.last newest (by simpa using head)
  misses := sound.misses

/-- The packet ignored, late, or stored, after a restart when it is far off. -/
theorem insert_cases (now targetMs : Int) :
    jb.insert p now targetMs = jb ∨
      let started := jb.started p.seq now targetMs
      let delta := ahead p.seq started.cursor
      (delta < 0 ∧ delta > -200 ∧
        jb.insert p now targetMs = { started with late := started.late + 1 }) ∨
      ((delta > 200 ∨ delta < -200) ∧
        jb.insert p now targetMs = (started.reset.startAt p.seq now targetMs).store p) ∨
      (¬ (delta < 0 ∧ delta > -200) ∧ ¬ (delta > 200 ∨ delta < -200) ∧
        jb.insert p now targetMs = started.store p) := by
  unfold insert
  split
  next => exact Or.inl rfl
  next =>
    right
    dsimp only
    split
    next late => exact Or.inl ⟨late.1, late.2, rfl⟩
    next notLate =>
      split
      next far => exact Or.inr (Or.inl ⟨far, rfl⟩)
      next close => exact Or.inr (Or.inr ⟨notLate, close, rfl⟩)

theorem started_sound (sound : jb.Sound) (seq : Seq) (now targetMs : Int) :
    (jb.started seq now targetMs).Sound := by
  unfold started
  split
  next => exact sound
  next idle => exact startAt_sound sound (Bool.eq_false_iff.mpr idle) seq now targetMs

theorem started_running (seq : Seq) (now targetMs : Int) :
    (jb.started seq now targetMs).initialized = true := by
  unfold started
  split
  next running => exact running
  next => rfl

theorem started_offEdge {now targetMs : Int} (offEdge : jb.OffEdge (.packet p now targetMs)) :
    ahead p.seq (jb.started p.seq now targetMs).cursor ≠ -200 := by
  unfold started
  split
  next initialized => exact offEdge initialized
  next => simp [startAt]

theorem insert_sound (sound : jb.Sound) {now targetMs : Int}
    (offEdge : jb.OffEdge (.packet p now targetMs)) : (jb.insert p now targetMs).Sound := by
  have started := started_sound sound p.seq now targetMs
  have running : (jb.started p.seq now targetMs).initialized = true :=
    started_running p.seq now targetMs
  have edge := started_offEdge offEdge
  rcases @insert_cases jb p now targetMs with
    ignored | ⟨-, -, late⟩ | ⟨-, far⟩ | ⟨notLate, close, stored⟩
  next => rwa [ignored]
  next =>
    rw [late]
    exact ⟨started.fresh, started.place,
      ⟨started.buffers.window, started.buffers.order,
        ⟨started.buffers.conserves.kept, started.buffers.conserves.once⟩, started.buffers.apart⟩,
      started.last, started.misses⟩
  next =>
    rw [far]
    have restarted := startAt_sound (reset_sound started.buffers.apart) rfl p.seq now targetMs
    exact store_sound restarted rfl (by simp [startAt]) (by simp [startAt])
  next =>
    rw [stored]
    exact store_sound started running (by omega) (by omega)

/-! ## A frame is played -/

theorem taking_some {q : Packet} (found : jb.taking = some q) :
    jb.slots (slotOf jb.cursor) = some q ∧ q.seq = jb.cursor := by
  simpa [taking, Option.filter_eq_some_iff] using found

theorem pop_taken {q : Packet} (found : jb.taking = some q) : jb.pop =
    { jb with
      slots := Function.update jb.slots (slotOf jb.cursor) none
      consecMiss := 0
      log := .decoded q :: jb.log
      cursor := jb.cursor + 1
      nextPlayMs := jb.nextPlayMs + opusFrameMs } := by
  simp [pop, found]

theorem pop_missed (missing : jb.taking = none) : jb.pop =
    { jb with
      consecMiss := jb.consecMiss + 1
      log := .concealed :: jb.log
      cursor := jb.cursor + 1
      nextPlayMs := jb.nextPlayMs + opusFrameMs } := by
  simp [pop, missing]

theorem untaken_ahead (sound : jb.Sound) {i : Fin jbSlots} {q : Packet} (present : jb.slots i = some q)
    (other : i ≠ slotOf jb.cursor ∨ jb.taking = none) : q.seq ≠ jb.cursor := by
  -- A packet that is not taken is ahead of the cursor.
  intro same
  have here : i = slotOf jb.cursor := same ▸ sound.place i q present
  rcases other with elsewhere | missing
  next => exact elsewhere here
  next =>
    rw [taking, ← here, present, Option.filter_some, if_pos (by simp [same])] at missing
    cases missing

theorem window_pop (sound : jb.Sound) {i : Fin jbSlots} {q : Packet} (present : jb.slots i = some q)
    (other : i ≠ slotOf jb.cursor ∨ jb.taking = none) :
    0 ≤ ahead q.seq (jb.cursor + 1) ∧ ahead q.seq (jb.cursor + 1) ≤ 200 := by
  obtain ⟨low, up⟩ := sound.buffers.window i q present
  have apart : ahead q.seq jb.cursor ≠ 0 := fun zero =>
    untaken_ahead sound present other (Serial.ahead_eq_zero.mp zero)
  rw [Serial.ahead_succ_right (by omega)]
  omega

theorem decoded_conserves (sound : jb.Sound) {q : Packet} (found : jb.taking = some q) :
    jb.pop.Conserves := by
  obtain ⟨present, seq⟩ := taking_some found
  obtain ⟨kept, once⟩ := sound.buffers.conserves
  rw [pop_taken found]
  constructor
  next =>
    intro r stored
    rcases kept r (by simpa using stored) with ⟨i, old, waiting, same⟩ | decoded | displaced
    next =>
      by_cases here : i = slotOf jb.cursor
      next =>
        have taken : old = q := Option.some.inj ((here ▸ waiting).symm.trans present)
        refine Or.inr (Or.inl ?_)
        rw [← same, taken]
        simp [decodes, decodedSeq]
      next => exact Or.inl ⟨i, old, by simpa [here] using waiting, same⟩
    next => exact Or.inr (Or.inl (by simp [decodes, decodedSeq] at decoded ⊢; exact Or.inr decoded))
    next => exact Or.inr (Or.inr (by simpa using displaced))
  next =>
    intro r
    have counted := once r
    by_cases same : q = r
    next =>
      subst same
      have gone : ¬ ∃ i, Function.update jb.slots (slotOf jb.cursor) none i = some q := by
        rintro ⟨i, still⟩
        by_cases here : i = slotOf jb.cursor
        next =>
          subst here
          simp at still
        next =>
          have there : jb.slots i = some q := by simpa [here] using still
          exact here (seq ▸ sound.place i q there)
      rw [if_pos ⟨_, present⟩] at counted
      rw [if_neg gone]
      simpa using counted
    next =>
      have fewer : (∃ i, Function.update jb.slots (slotOf jb.cursor) none i = some r) →
          ∃ i, jb.slots i = some r := by
        rintro ⟨i, still⟩
        by_cases here : i = slotOf jb.cursor
        next =>
          subst here
          simp at still
        next => exact ⟨i, by simpa [here] using still⟩
      by_cases after : ∃ i, Function.update jb.slots (slotOf jb.cursor) none i = some r
      next =>
        rw [if_pos (fewer after)] at counted
        rw [if_pos after]
        simpa [same] using counted
      next =>
        rw [if_neg after]
        have less : (epoch jb.log).count (.decoded r) ≤ (epoch jb.log).count (.stored r) := by omega
        simpa [same] using less

theorem decodes_decoded (q : Packet) (log : List JbEvent) :
    decodes (.decoded q :: log) = q.seq :: decodes log := rfl

theorem decodes_concealed (log : List JbEvent) : decodes (.concealed :: log) = decodes log := rfl

theorem concealed_conserves (conserves : jb.Conserves) (missing : jb.taking = none) :
    jb.pop.Conserves := by
  rw [pop_missed missing]
  exact ⟨fun q stored => (conserves.kept q (by simpa using stored)).imp_right
      (Or.imp_right fun ⟨old, by', displaced, seq⟩ => ⟨old, by', by simpa using displaced, seq⟩),
    fun q => by simpa using conserves.once q⟩

theorem pop_apart (sound : jb.Sound) (old by' : Packet) (displaced : .displaced old by' ∈ jb.pop.log) :
    old.seq.toNat + jbSlots ≤ by'.seq.toNat ∨ by'.seq.toNat + jbSlots ≤ old.seq.toNat := by
  refine sound.buffers.apart old by' ?_
  cases found : jb.taking with
  | none => simpa [pop_missed found] using displaced
  | some q => simpa [pop_taken found] using displaced

theorem decoded_sound (sound : jb.Sound) (running : jb.initialized = true) {q : Packet}
    (found : jb.taking = some q) : jb.pop.Sound := by
  have conserves := decoded_conserves sound found
  have apart := pop_apart sound
  rw [pop_taken found] at conserves apart ⊢
  obtain ⟨-, seq⟩ := taking_some found
  refine ⟨fun idle => absurd (running.symm.trans idle) (by decide), ?_, ⟨?_, ?_, conserves, apart⟩, ?_,
    show 0 < jbPlcMax by decide⟩
  next =>
    intro i r present
    by_cases here : i = slotOf jb.cursor
    next =>
      subst here
      simp at present
    next => exact sound.place i r (by simpa [here] using present)
  next =>
    intro i r present
    by_cases here : i = slotOf jb.cursor
    next =>
      subst here
      simp at present
    next => exact window_pop sound (by simpa [here] using present) (Or.inl here)
  next =>
    rw [decodes_decoded, List.isChain_cons]
    refine ⟨fun newest head => ?_, sound.buffers.order⟩
    have distance := sound.last newest head
    have few := sound.misses
    rw [seq, distance]
    omega
  next =>
    intro newest head
    obtain rfl : q.seq = newest := by simpa [decodes_decoded] using head
    rw [seq, Serial.ahead_succ_left (by simp), Serial.ahead_self]
    rfl

theorem concealed_sound (sound : jb.Sound) (running : jb.initialized = true)
    (missing : jb.taking = none) (few : jb.pop.consecMiss < jbPlcMax) : jb.pop.Sound := by
  have conserves := concealed_conserves sound.buffers.conserves missing
  have apart := pop_apart sound
  rw [pop_missed missing] at conserves apart few ⊢
  refine ⟨fun idle => absurd (running.symm.trans idle) (by decide), sound.place, ⟨?_, ?_, conserves, apart⟩, ?_, few⟩
  next =>
    intro i r present
    exact window_pop sound present (Or.inr missing)
  next =>
    rw [decodes_concealed]
    exact sound.buffers.order
  next =>
    intro newest head
    rw [decodes_concealed] at head
    have distance := sound.last newest head
    have bound := sound.misses
    have limit : jbPlcMax = 5 := rfl
    rw [Serial.ahead_succ_left (by omega), distance]
    push_cast
    rfl

theorem pop_sound (sound : jb.Sound) (running : jb.initialized = true)
    (few : jb.pop.consecMiss < jbPlcMax) : jb.pop.Sound := by
  cases found : jb.taking with
  | none => exact concealed_sound sound running found few
  | some q => exact decoded_sound sound running found

theorem pop_initialized (jb : JitterBuffer) : jb.pop.initialized = jb.initialized := by
  cases found : jb.taking with
  | none => rw [pop_missed found]
  | some q => rw [pop_taken found]

theorem playout_sound (now : Int) (budget : Nat) (sound : jb.Sound) (running : jb.initialized = true) :
    (playout now budget jb).Sound := by
  induction budget generalizing jb with
  | zero => exact sound
  | succ budget ih =>
    rw [playout]
    split
    next =>
      dsimp only
      split
      next => exact reset_sound (pop_apart sound)
      next few =>
        have popped := pop_sound sound running (Nat.not_le.mp few)
        exact ih popped ((pop_initialized jb).trans running)
    next => exact sound

theorem step_sound (sound : jb.Sound) {i : JbInput} (offEdge : jb.OffEdge i) : (jb.step i).Sound := by
  cases i with
  | packet p now targetMs => exact insert_sound sound offEdge
  | tick now sessionActive muted =>
    rw [step, playoutTick]
    split
    next => exact sound
    next active =>
      simp only [Bool.or_eq_true, not_or, Bool.not_eq_true, Bool.not_eq_false'] at active
      exact playout_sound now jbPlayoutBudget sound active.1.1
  | cleanup => exact reset_sound sound.buffers.apart

end

/-! ## Packets that come in time -/

/-- No packet waits five ahead of the cursor or past the wrap. -/
structure Close (jb : JitterBuffer) : Prop where
  near : ∀ i p, jb.slots i = some p →
    jb.cursor.toNat ≤ p.seq.toNat ∧ p.seq.toNat < jb.cursor.toNat + jbSlots
  undisplaced : jb.Undisplaced

section

variable {jb : JitterBuffer} {p : Packet}

theorem reset_close : jb.reset.Close :=
  ⟨nofun, by simp [Undisplaced, reset]⟩

theorem startAt_close (sound : jb.Sound) (idle : jb.initialized = false) (seq : Seq)
    (now targetMs : Int) : (jb.startAt seq now targetMs).Close := by
  obtain ⟨empty, restarted, -⟩ := sound.fresh idle
  exact ⟨by simp [startAt, empty], by simp [startAt, Undisplaced, restarted]⟩

theorem store_close (sound : jb.Sound) (close : jb.Close) (low : jb.cursor.toNat ≤ p.seq.toNat)
    (up : p.seq.toNat < jb.cursor.toNat + jbSlots) : (jb.store p).Close := by
  have nothing : jb.displacing p = none := by
    cases found : jb.displacing p with
    | none => rfl
    | some old =>
      obtain ⟨present, other⟩ := displacing_some found
      have near := close.near _ old present
      rcases slotOf_apart (sound.place _ _ present).symm other with before | after <;> omega
  constructor
  next =>
    intro i q present
    by_cases here : i = slotOf p.seq
    next =>
      subst here
      obtain rfl : p = q := by simpa [store] using present
      exact ⟨low, up⟩
    next => exact close.near i q (by simpa [store, here] using present)
  next =>
    intro old by' displaced
    rw [epoch_store, nothing] at displaced
    exact close.undisplaced old by' (by simpa using displaced)

theorem insert_close (sound : jb.Sound) (close : jb.Close) {now targetMs : Int}
    (inTime : jb.InTime (.packet p now targetMs)) (offEdge : jb.OffEdge (.packet p now targetMs)) :
    (jb.insert p now targetMs).Close := by
  have startedSound := started_sound sound p.seq now targetMs
  have started : (jb.started p.seq now targetMs).Close := by
    unfold JitterBuffer.started
    split
    next => exact close
    next idle => exact startAt_close sound (Bool.eq_false_iff.mpr idle) p.seq now targetMs
  have timely (ahead_low : 0 ≤ ahead p.seq (jb.started p.seq now targetMs).cursor) :
      ahead p.seq (jb.started p.seq now targetMs).cursor < jbSlots ∧
        (jb.started p.seq now targetMs).cursor.toNat ≤ p.seq.toNat := by
    unfold JitterBuffer.started at ahead_low ⊢
    split
    next running =>
      rw [if_pos running] at ahead_low
      exact inTime running ahead_low
    next => exact ⟨by simp [startAt, jbSlots], Nat.le_refl _⟩
  rcases @insert_cases jb p now targetMs with
    ignored | ⟨-, -, late⟩ | ⟨-, far⟩ | ⟨notLate, near, stored⟩
  next => rwa [ignored]
  next =>
    rw [late]
    exact ⟨started.near, started.undisplaced⟩
  next =>
    rw [far]
    have fresh := reset_sound startedSound.buffers.apart
    refine store_close (startAt_sound fresh rfl p.seq now targetMs)
      (startAt_close fresh rfl p.seq now targetMs) (Nat.le_refl _) ?_
    exact Nat.lt_add_of_pos_right (by decide)
  next =>
    have edge := started_offEdge offEdge
    have forward : 0 ≤ ahead p.seq (jb.started p.seq now targetMs).cursor := by omega
    obtain ⟨few, order⟩ := timely forward
    have distance := Serial.ahead_toNat order forward
    rw [stored]
    exact store_close startedSound started order (by omega)

theorem pop_close (sound : jb.Sound) (close : jb.Close) : jb.pop.Close := by
  have moves {i : Fin jbSlots} {q : Packet} (present : jb.slots i = some q)
      (other : i ≠ slotOf jb.cursor ∨ jb.taking = none) :
      (jb.cursor + 1).toNat ≤ q.seq.toNat ∧ q.seq.toNat < (jb.cursor + 1).toNat + jbSlots := by
    have near := close.near i q present
    have apart : q.seq.toNat ≠ jb.cursor.toNat := fun numbers =>
      untaken_ahead sound present other (BitVec.eq_of_toNat_eq numbers)
    have bound := q.seq.isLt
    have moved : (jb.cursor + 1).toNat = jb.cursor.toNat + 1 := by bv_omega
    omega
  cases found : jb.taking with
  | none =>
    rw [pop_missed found]
    exact ⟨fun i q present => moves present (Or.inr found), fun old by' displaced =>
      close.undisplaced old by' (by simpa using displaced)⟩
  | some taken =>
    rw [pop_taken found]
    refine ⟨fun i q present => ?_, fun old by' displaced =>
      close.undisplaced old by' (by simpa using displaced)⟩
    by_cases here : i = slotOf jb.cursor
    next =>
      subst here
      simp at present
    next => exact moves (by simpa [here] using present) (Or.inl here)

theorem playout_close (now : Int) (budget : Nat) (sound : jb.Sound) (close : jb.Close)
    (running : jb.initialized = true) : (playout now budget jb).Close := by
  induction budget generalizing jb with
  | zero => exact close
  | succ budget ih =>
    rw [playout]
    split
    next =>
      dsimp only
      split
      next => exact reset_close
      next few =>
        exact ih (pop_sound sound running (Nat.not_le.mp few)) (pop_close sound close)
          ((pop_initialized jb).trans running)
    next => exact close

theorem step_close (sound : jb.Sound) (close : jb.Close) {i : JbInput} (offEdge : jb.OffEdge i)
    (inTime : jb.InTime i) : (jb.step i).Close := by
  cases i with
  | packet p now targetMs => exact insert_close sound close inTime offEdge
  | tick now sessionActive muted =>
    rw [step, playoutTick]
    split
    next => exact close
    next active =>
      simp only [Bool.or_eq_true, not_or, Bool.not_eq_true, Bool.not_eq_false'] at active
      exact playout_close now jbPlayoutBudget sound close active.1.1
  | cleanup => exact reset_close

end

theorem undisplaced_kept {jb : JitterBuffer} (conserves : jb.Conserves) (undisplaced : jb.Undisplaced)
    (p : Packet) (stored : .stored p ∈ epoch jb.log) : jb.Waits p.seq ∨ p.seq ∈ decodes jb.log := by
  rcases conserves.kept p stored with waits | decoded | ⟨old, by', displaced, -⟩
  next => exact Or.inl waits
  next => exact Or.inr decoded
  next => exact absurd displaced (undisplaced old by')

/-- Packets that all come in time are all decoded, each when the cursor reaches it. -/
theorem jitter_buffer (inputs : List JbInput) (offEdge : Machine.Guarded step OffEdge init inputs) :
    let jb := Machine.run step init inputs
    jb.Buffers ∧ (Machine.Guarded step InTime init inputs →
      ∀ p, .stored p ∈ epoch jb.log → jb.Waits p.seq ∨ p.seq ∈ decodes jb.log) := by
  have sound := Machine.run_invariant step (P := Sound)
    (fun _ _ sound offEdge => step_sound sound offEdge) init_sound offEdge
  refine ⟨sound.buffers, fun inTime => ?_⟩
  have kept := Machine.run_invariant step (P := fun jb => jb.Sound ∧ jb.Close)
    (fun _ _ both allowed =>
      ⟨step_sound both.1 allowed.1, step_close both.1 both.2 allowed.1 allowed.2⟩)
    (⟨init_sound, nofun, nofun⟩ : init.Sound ∧ init.Close) (Machine.guarded_and step offEdge inTime)
  exact undisplaced_kept sound.buffers.conserves kept.2.undisplaced

def swapped : List JbInput :=
  -- 8 comes after 9 and is decoded before it.
  [.packet ⟨7, [1]⟩ 0 100, .packet ⟨9, [1]⟩ 120 100, .packet ⟨8, [1]⟩ 130 100, .tick 160 true false,
    .tick 220 true false]

theorem swapped_buffers : (Machine.run step init swapped).Buffers ∧
    (Machine.Guarded step InTime init swapped →
      ∀ p, .stored p ∈ epoch (Machine.run step init swapped).log →
        (Machine.run step init swapped).Waits p.seq ∨
          p.seq ∈ decodes (Machine.run step init swapped).log) :=
  jitter_buffer swapped (by decide)

example : decodes (Machine.run step init swapped).log = [9, 8, 7] := by decide

def burst : List JbInput :=
  -- Six packets come in order before the first of them is due.
  [.packet ⟨1, [1]⟩ 0 100, .packet ⟨2, [1]⟩ 0 100, .packet ⟨3, [1]⟩ 0 100, .packet ⟨4, [1]⟩ 0 100,
    .packet ⟨5, [1]⟩ 0 100, .packet ⟨6, [1]⟩ 0 100, .tick 400 true false]

/-- 6 takes the slot of 1. -/
theorem burst_loses_packet : ∃ p, .packet p 0 100 ∈ burst ∧
    p.seq ∉ decodes (Machine.run step init burst).log ∧
    ¬ (Machine.run step init burst).Waits p.seq ∧
    ahead p.seq (Machine.run step init burst).cursor < 0 :=
  ⟨⟨1, [1]⟩, by simp [burst], by decide, by decide, by decide⟩

end JitterBuffer

end Kerchunk.Link
