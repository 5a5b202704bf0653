import Kerchunk.AudioTick.Capacity
import Kerchunk.AudioTick.Lifecycle
import Kerchunk.AudioTick.Rx
import Kerchunk.Core.Ptt

set_option autoImplicit false

/-!
# The published TX state (`src/kerchunk_tx_state.c`, `main.c`)

After the TX passes of a tick the audio thread computes a label from the counters of the two
sub-ticks, the core's PTT and COR, and publishes it.
-/

namespace Kerchunk.AudioTick

open Kerchunk.Core (Ptt PttCall)

inductive TxState where
  | idle
  | relay
  | delay
  | drain
  | tail
  | hold
deriving DecidableEq

structure TxStateInputs where
  corActive : Bool
  softwareRelay : Bool
  queuePtt : Bool
  txDelayRem : Int
  txTailRem : Int
  relayDrain : Int
  pttHeld : Bool
deriving DecidableEq

def txStateCompute (inp : TxStateInputs) : TxState :=
  if inp.corActive && inp.softwareRelay then .relay
  else if inp.relayDrain > 0 then .tail
  else if inp.queuePtt then
    if inp.txDelayRem > 0 then .delay
    else if inp.txTailRem ≥ 0 then .tail
    else .drain
  else if inp.pttHeld then .hold
  else .idle

/-! ## The audio thread -/

/-- `relayActive` is what the tick has read of `receiving` for its frames, and `actions` are left to
do of the last TX pass. Of the last passes, `live` says that the frame was relayed while COR was on,
`fed` that items were drained, and `held` that a hold tick was counted. -/
structure Station (D : Type) where
  audio : RelayState
  rx : RxTick D
  ptt : Ptt
  receiving : Bool
  relayActive : Bool
  actions : List Action
  txState : TxState
  live : Bool
  fed : Bool
  held : Bool

def queueHolder : Core.Holder := "queue"

/-- Other holders, COR and a reload may come between any two steps of the audio thread: a tick reads
COR, makes an RX pass for each frame, then up to three TX passes, and publishes. -/
inductive StationInput where
  | ptt (c : PttCall)
  | receive (active : Bool)
  | reload (softwareRelay : Bool) (relayDrainMs txDelayMs txTailMs : Nat)
  | sample
  | rx (frame : List Int) (playWritable : Nat)
  | tx (queueDepth : Int) (queueIsDraining : Bool) (playWritable playPending : Nat) (nowUs : UInt64)
  | act
  | publish
deriving DecidableEq

namespace Station

variable {D : Type} (decoder : DtmfDecoder D) (sampleRate frameSamples : Int)

def start (rx : RxTick D) : Station D where
  audio := { AudioState.init with softwareRelay := false, relayDrainMs := 0, relayWasActive := false }
  rx := rx
  ptt := Ptt.init
  receiving := false
  relayActive := false
  actions := []
  txState := .idle
  live := false
  fed := false
  held := false

variable (s : Station D)

def reload (softwareRelay : Bool) (relayDrainMs txDelayMs txTailMs : Nat) : Station D :=
  { s with
    audio :=
      { s.audio with
        softwareRelay := softwareRelay
        relayDrainMs := relayDrainMs
        txDelayMs := txDelayMs
        txTailMs := txTailMs } }

def rxPass (frame : List Int) (playWritable : Nat) : Station D :=
  let out := audioTickRx decoder s.audio s.rx
    { frame := frame
      relayActive := s.relayActive
      pttHeld := s.ptt.active
      playWritable := playWritable
      sampleRate := sampleRate }
  { s with audio := out.1, rx := out.2.1, live := s.relayActive && out.2.2.relayWrite }

def txIn (queueDepth : Int) (queueIsDraining : Bool) (playWritable playPending : Nat)
    (nowUs : UInt64) : TxIn where
  relayActive := s.receiving
  pttHeld := s.ptt.active
  queueDepth := queueDepth
  queueIsDraining := queueIsDraining
  playWritable := playWritable
  playPending := playPending
  nowUs := nowUs

def txPass (inp : TxIn) : Station D :=
  let out := audioTickTx s.audio.toAudioState inp sampleRate frameSamples
  { s with
    audio := { s.audio with toAudioState := out.state }
    actions := out.actions
    fed := out.actions.any Action.isDrain
    held := decide (s.audio.pttHoldTicks < out.state.pttHoldTicks) }

def act : Station D :=
  -- Events, silence and frames go to components that the label does not look at.
  match s.actions with
  | [] => s
  | .assertPtt :: rest =>
    { s with actions := rest, ptt := s.ptt.call (.request queueHolder) }
  | .releasePtt :: rest =>
    { s with actions := rest, ptt := s.ptt.call (.release queueHolder) }
  | _ :: rest => { s with actions := rest }

def inputs : TxStateInputs where
  corActive := s.receiving
  softwareRelay := s.audio.softwareRelay
  queuePtt := s.audio.queuePtt
  txDelayRem := s.audio.txDelayRem
  txTailRem := s.audio.txTailRem
  relayDrain := s.audio.relayDrain
  pttHeld := s.ptt.active

def publish : Station D :=
  { s with txState := txStateCompute s.inputs }

def step : StationInput → Station D
  | .ptt c => { s with ptt := s.ptt.call c }
  | .receive active => { s with receiving := active }
  | .reload softwareRelay relayDrainMs txDelayMs txTailMs =>
    s.reload softwareRelay relayDrainMs txDelayMs txTailMs
  | .sample => { s with relayActive := s.receiving }
  | .rx frame playWritable => s.rxPass decoder sampleRate frame playWritable
  | .tx queueDepth queueIsDraining playWritable playPending nowUs =>
    -- A pass follows when the last one has done its actions.
    if s.actions = [] then
      s.txPass sampleRate frameSamples
        (s.txIn queueDepth queueIsDraining playWritable playPending nowUs)
    else s
  | .act => s.act
  | .publish => if s.actions = [] then s.publish else s

/-! ## What the label says -/

def Delaying : Prop :=
  s.audio.queuePtt = true ∧ 0 < s.audio.txDelayRem

def TailSilence : Prop :=
  s.audio.queuePtt = true ∧ 0 < s.audio.txTailRem

def DrainSilence : Prop :=
  s.receiving = false ∧ 0 < s.audio.relayDrain

def Relaying : Prop :=
  s.receiving = true ∧ s.audio.softwareRelay = true

instance : Decidable s.Delaying :=
  inferInstanceAs (Decidable (_ ∧ _))

instance : Decidable s.Relaying :=
  inferInstanceAs (Decidable (_ ∧ _))

/-- The published state names the phase that the tick is in. -/
structure Agrees : Prop where
  delay : s.txState = .delay ↔ s.Delaying
  drain : s.fed = true → s.txState = .drain
  tail : s.TailSilence ∨ s.DrainSilence → s.txState = .tail
  hold : s.txState = .hold ↔ s.held = true
  relay : s.txState = .relay → s.live = true
  idle : s.txState = .idle ↔ s.ptt.refcount = 0

/-- The relay, its drain and the queue take turns, one of them is on exactly while somebody holds PTT,
and no hold tick has been counted. -/
structure Clear : Prop where
  holder : s.ptt.refcount ≠ 0 ↔ s.Relaying ∨ 0 < s.audio.relayDrain ∨ s.audio.queuePtt = true
  relayed : s.Relaying → s.live = true
  apart : s.Relaying ∨ 0 < s.audio.relayDrain → ¬ s.Delaying ∧ s.fed = false
  silent : s.Relaying → ¬ s.TailSilence
  items : s.fed = true → s.audio.txTailRem < 0
  unheld : s.held = false

end Station

/-! ## What a TX pass leaves -/

theorem cancelTail_keeps (inp : TxIn) (p : Pass) :
    (cancelTail inp p).state.queuePtt = p.state.queuePtt ∧
      (cancelTail inp p).state.txDelayRem = p.state.txDelayRem ∧
      (cancelTail inp p).state.pttHoldTicks ≤ p.state.pttHoldTicks := by
  unfold cancelTail
  split
  next => exact ⟨rfl, rfl, Nat.zero_le _⟩
  next => exact ⟨rfl, rfl, Nat.le_refl _⟩

theorem openPass_ticks (s : AudioState) (inp : TxIn) (sampleRate frameSamples : Int) :
    (openPass s inp sampleRate frameSamples).state.pttHoldTicks = s.pttHoldTicks := by
  unfold openPass feedDelay startPtt
  split <;> split <;> rfl

theorem release_ticks (inp : TxIn) (p : Pass) :
    (release inp p).state.pttHoldTicks = 0 ∨
      (release inp p).state.queuePtt = p.state.queuePtt := by
  unfold release
  split
  next =>
    dsimp only
    split
    next => exact .inl rfl
    next => exact .inr rfl
  next => exact .inl rfl

theorem endQueue_ticks (inp : TxIn) (sampleRate frameSamples : Int) (p : Pass) :
    (endQueue inp sampleRate frameSamples p).1.state.pttHoldTicks = 0 ∨
      (endQueue inp sampleRate frameSamples p).1.state.queuePtt = p.state.queuePtt := by
  unfold endQueue
  split
  next =>
    dsimp only
    split
    next => exact .inr rfl
    next => exact release_ticks inp (feedTail frameSamples (startTail sampleRate p))
  next => exact release_ticks inp (feedTail frameSamples p)

/-- A pass drains items, and counts a hold tick, only for a transmission of the queue; and no item is
drained before the delay has passed. -/
structure PassKeyed (s : AudioState) (out : TxOut) : Prop where
  fed : out.actions.any Action.isDrain = true → out.state.queuePtt = true ∧ out.state.txDelayRem ≤ 0
  held : s.pttHoldTicks < out.state.pttHoldTicks → out.state.queuePtt = true

theorem undrained_any {actions : List Action} (undrained : Undrained actions) :
    actions.any Action.isDrain = false := by
  rw [List.any_eq_false]
  intro action member
  simp [undrained action member]

theorem cancelTail_undrained {inp : TxIn} {p : Pass} (undrained : Undrained p.actions) :
    (cancelTail inp p).actions.any Action.isDrain = false :=
  undrained_any fun action member => undrained action (mem_cancelTail member)

theorem tick_keyed (s : AudioState) (inp : TxIn) (sampleRate frameSamples : Int) :
    PassKeyed s (audioTickTx s inp sampleRate frameSamples) := by
  have nothing : PassKeyed s ⟨s, [], false⟩ :=
    ⟨fun fed => absurd fed Bool.false_ne_true, fun held => absurd held (Nat.lt_irrefl _)⟩
  have ticks := openPass_ticks s inp sampleRate frameSamples
  have undrained : Undrained (openPass s inp sampleRate frameSamples).actions := fun action member =>
    (openPass_plain s inp sampleRate frameSamples action member).1
  rw [audioTickTx]
  split
  next => exact nothing
  next =>
    split
    next => exact nothing
    next =>
      generalize openPass s inp sampleRate frameSamples = p at ticks undrained
      rw [runPass]
      split
      next drains =>
        simp only [AudioTick.drains, Bool.and_eq_true, decide_eq_true_eq] at drains
        obtain ⟨ptt, owed, -⟩ := drainFrame_keeps inp frameSamples p
        obtain ⟨cancelPtt, cancelOwed, -⟩ := cancelTail_keeps inp (drainFrame inp frameSamples p)
        have keyed := cancelPtt.trans (ptt.trans drains.1.1.1.1)
        exact ⟨fun _ => ⟨keyed, by rw [cancelOwed, owed]; exact drains.1.1.1.2⟩, fun _ => keyed⟩
      next =>
        split
        next emptied =>
          simp only [queueEmptied, Bool.and_eq_true, decide_eq_true_eq] at emptied
          have ended := endQueue_undrained undrained inp sampleRate frameSamples
          have counted := endQueue_ticks inp sampleRate frameSamples p
          have keyed := emptied.1.1.1
          split
          next p' early =>
            rw [early] at ended counted
            refine ⟨fun fed => ?_, fun held => ?_⟩
            next => exact absurd fed (by simp [undrained_any ended])
            next =>
              rcases counted with none | same
              next => exact absurd held (none ▸ Nat.not_lt_zero _)
              next => exact same.trans keyed
          next p' goesOn =>
            rw [goesOn] at ended counted
            obtain ⟨ptt, -, fewer⟩ := cancelTail_keeps inp p'
            refine ⟨fun fed => ?_, fun held => ?_⟩
            next => exact absurd fed (by simp [cancelTail_undrained ended])
            next =>
              rcases counted with none | same
              next =>
                have none : p'.state.pttHoldTicks = 0 := none
                omega
              next => exact ptt.trans (same.trans keyed)
        next =>
          obtain ⟨-, -, fewer⟩ := cancelTail_keeps inp p
          refine ⟨fun fed => ?_, fun held => ?_⟩
          next => exact absurd fed (by simp [cancelTail_undrained undrained])
          next => omega

theorem rx_keeps {D : Type} (decoder : DtmfDecoder D) (s : RelayState) (rx : RxTick D) (inp : RxIn) :
    ∃ rest, (audioTickRx decoder s rx inp).1.toAudioState = { s.toAudioState with relayDrain := rest } := by
  have begun : ∃ rest, (drained s inp).toAudioState = { s.toAudioState with relayDrain := rest } := by
    unfold drained startDrain
    split
    next => exact ⟨_, rfl⟩
    next => exact ⟨s.relayDrain, rfl⟩
  obtain ⟨rest, begun⟩ := begun
  unfold audioTickRx
  dsimp only
  split
  next =>
    unfold countDrain
    split
    next => exact ⟨_, by rw [begun]⟩
    next => exact ⟨rest, begun⟩
  next => exact ⟨rest, begun⟩

/-! ## The station -/

namespace Station

variable {D : Type} {decoder : DtmfDecoder D} {sampleRate frameSamples : Int} {s : Station D}

structure Sound (s : Station D) : Prop where
  active : s.ptt.active = true ↔ s.ptt.refcount ≠ 0
  paid : Paid s.audio.toAudioState
  fed : s.fed = true → s.audio.queuePtt = true ∧ s.audio.txDelayRem ≤ 0
  held : s.held = true → s.audio.queuePtt = true

theorem call_active {p : Ptt} (active : p.active = true ↔ p.refcount ≠ 0) (c : PttCall) :
    (p.call c).active = true ↔ (p.call c).refcount ≠ 0 := by
  cases c with
  | request h =>
    simp only [Ptt.call, Ptt.coreRequestPtt]
    split
    next on => simp [on]
    next => simp
  | release h =>
    simp only [Ptt.call, Ptt.coreReleasePtt]
    split
    next last => simp [last.1]
    next more =>
      simp only [not_and, Bool.not_eq_true] at more
      constructor
      next =>
        intro on none
        simp [more none] at on
      next =>
        intro some
        have some : p.refcount - 1 ≠ 0 := some
        exact active.mpr (by omega)

theorem sound_start (rx : RxTick D) : Sound (start rx) where
  active := by simp [start, Ptt.init]
  paid := paid_of_le (Int.le_refl 0)
  fed := fun fed => absurd fed Bool.false_ne_true
  held := fun held => absurd held Bool.false_ne_true

theorem Sound.with_ptt (sound : Sound s) (c : PttCall) (actions : List Action) :
    Sound { s with actions := actions, ptt := s.ptt.call c } :=
  ⟨call_active sound.active c, sound.paid, sound.fed, sound.held⟩

theorem sound_act (sound : Sound s) : Sound s.act := by
  unfold act
  split
  next => exact sound
  next => exact sound.with_ptt _ _
  next => exact sound.with_ptt _ _
  next => exact ⟨sound.active, sound.paid, sound.fed, sound.held⟩

theorem sound_rx (sound : Sound s) (frame : List Int) (playWritable : Nat) :
    Sound (s.rxPass decoder sampleRate frame playWritable) := by
  obtain ⟨rest, kept⟩ := rx_keeps decoder s.audio s.rx
    { frame := frame
      relayActive := s.relayActive
      pttHeld := s.ptt.active
      playWritable := playWritable
      sampleRate := sampleRate }
  have same : ∀ after : RelayState, after.toAudioState = { s.audio.toAudioState with relayDrain := rest } →
      Paid after.toAudioState ∧ after.queuePtt = s.audio.queuePtt ∧
        after.txDelayRem = s.audio.txDelayRem := by
    intro after kept
    rw [kept]
    exact ⟨⟨sound.paid.fired, sound.paid.tail⟩, rfl, rfl⟩
  obtain ⟨paid, ptt, owed⟩ := same _ kept
  refine ⟨sound.active, paid, ?_, ?_⟩
  next =>
    intro fed
    have before := sound.fed fed
    exact ⟨ptt.trans before.1, owed.trans_le before.2⟩
  next => exact fun held => ptt.trans (sound.held held)

theorem sound_tx (sound : Sound s) (inp : TxIn) : Sound (s.txPass sampleRate frameSamples inp) := by
  have keyed := tick_keyed s.audio.toAudioState inp sampleRate frameSamples
  refine ⟨sound.active, tick_paid sound.paid inp sampleRate frameSamples, keyed.fed, ?_⟩
  exact fun held => keyed.held (of_decide_eq_true held)

theorem sound_step (sound : Sound s) (i : StationInput) :
    Sound (s.step decoder sampleRate frameSamples i) := by
  cases i with
  | ptt c => exact sound.with_ptt c s.actions
  | receive active => exact ⟨sound.active, sound.paid, sound.fed, sound.held⟩
  | reload softwareRelay relayDrainMs txDelayMs txTailMs =>
    exact ⟨sound.active, ⟨sound.paid.fired, sound.paid.tail⟩, sound.fed, sound.held⟩
  | sample => exact ⟨sound.active, sound.paid, sound.fed, sound.held⟩
  | rx frame playWritable => exact sound_rx sound frame playWritable
  | tx queueDepth queueIsDraining playWritable playPending nowUs =>
    simp only [step]
    split
    next => exact sound_tx sound _
    next => exact sound
  | act => exact sound_act sound
  | publish =>
    simp only [step]
    split
    next => exact ⟨sound.active, sound.paid, sound.fed, sound.held⟩
    next => exact sound

/-! ## The label -/

theorem publish_label (sound : Sound s) :
    s.publish.txState =
      if s.Relaying then .relay
      else if 0 < s.audio.relayDrain then .tail
      else if s.Delaying then .delay
      else if s.audio.queuePtt = true then if 0 ≤ s.audio.txTailRem then .tail else .drain
      else if s.ptt.refcount ≠ 0 then .hold
      else .idle := by
  have active := sound.active
  simp only [publish, inputs, txStateCompute, Relaying, Delaying, Bool.and_eq_true]
  grind

/-- The label is right in each of its branches when the other phases are off there. -/
theorem publish_agrees_iff (sound : Sound s) : s.publish.Agrees ↔ s.Clear := by
  have label := publish_label sound
  have owed := sound.paid.tail
  have fed := sound.fed
  have held := sound.held
  constructor
  next =>
    intro agrees
    obtain ⟨delay, drain, tail, hold, relay, idle⟩ := agrees
    rw [label] at delay drain tail hold relay idle
    constructor
    all_goals
      simp only [publish, Relaying, Delaying, TailSilence, DrainSilence] at *
      grind
  next =>
    intro clear
    obtain ⟨holder, relayed, apart, silent, items, unheld⟩ := clear
    constructor
    all_goals
      rw [label]
      simp only [publish, Relaying, Delaying, TailSilence, DrainSilence] at *
      grind

def Publishes (s : Station D) (i : StationInput) : Prop :=
  -- The thread publishes after the last pass of a tick.
  i = .publish ∧ s.actions = []

end Station

section Runs

variable {D : Type} (decoder : DtmfDecoder D) (sampleRate frameSamples : Int)

theorem tx_state_agrees_iff (rx : RxTick D) (inputs : List StationInput) :
    Machine.Guarded (Station.step decoder sampleRate frameSamples)
        (fun s i => s.Publishes i → (s.step decoder sampleRate frameSamples i).Agrees)
        (Station.start rx) inputs ↔
      Machine.Guarded (Station.step decoder sampleRate frameSamples)
        (fun s i => s.Publishes i → s.Clear) (Station.start rx) inputs := by
  refine @Machine.guarded_iff_of_invariant _ _ _ _ _ Station.Sound ?_
    (fun s i sound _ => Station.sound_step sound i) _ _ (Station.sound_start rx)
  intro s i sound
  refine imp_congr_right fun publishes => ?_
  obtain ⟨rfl, done⟩ := publishes
  rw [Station.step, if_pos done]
  exact Station.publish_agrees_iff sound

end Runs

/-! ## The hold ticks of a transmission -/

-- A decoder that hears nothing.
def quietDecoder : DtmfDecoder Unit where
  reset := id
  process := fun dec _ => (dec, none)

/-- One item of one frame: it is drained, its end is reported in the next tick, and the pass that
follows has no tail to feed and counts a hold tick. -/
def oneItem : List StationInput :=
  [.tx 1 false 4096 0 20000, .act, .act, .act, .publish, .tx 0 false 4096 0 40000, .act,
    .tx 0 false 4096 0 40000]

theorem hold_tick_is_tail :
    ¬ Machine.Guarded (Station.step quietDecoder 48000 960)
      (fun s i => s.Publishes i → (s.step quietDecoder 48000 960 i).Agrees)
      (Station.start ⟨false, none⟩) (oneItem ++ [.publish]) := by
  intro guarded
  rw [Machine.guarded_append] at guarded
  have agrees := guarded.2.1 ⟨rfl, by decide⟩
  exact absurd (agrees.hold.mpr (by decide)) (by decide)

end Kerchunk.AudioTick
