import Kerchunk.Bridge.Poc

set_option autoImplicit false

/-!
# The Zello bridge (`modules/mod_zello.c`)

What goes from RF to the channel is left out.
-/

namespace Kerchunk.Bridge.Zello

/-- `user_id` and `username` of a VCOR event; no username is NULL. -/
structure Who where
  userId : Int
  username : Option String
deriving DecidableEq

structure State where
  zelloToRf : Bool
  virtualUserId : Int
  zelloRxActive : Bool
  zelloRxUsername : String
deriving DecidableEq

def init (zelloToRf : Bool) (virtualUserId : Int) : State where
  zelloToRf := zelloToRf
  virtualUserId := virtualUserId
  zelloRxActive := false
  zelloRxUsername := ""

def stash (name : Option String) : String :=
  -- What fits the buffer `g_zello_rx_username`.
  String.ofList ((name.getD "").toList.take 63)

def State.speaker (s : State) : Who where
  userId := s.virtualUserId
  username := if s.zelloRxUsername = "" then none else some s.zelloRxUsername

def onStreamStart (s : State) (speaker : Option String) : State × List (Action Who) :=
  if s.zelloToRf then
    let active := { s with zelloRxActive := true, zelloRxUsername := stash speaker }
    (active, [.requestPtt, .vcorAssert active.speaker])
  else (s, [])

def endStream (s : State) : State × List (Action Who) :=
  -- `on_zello_stream_stop` and the end of `on_zello_disconnected`.
  if s.zelloRxActive then
    ({ s with zelloRxActive := false, zelloRxUsername := "" }, [.releasePtt, .vcorDrop s.speaker])
  else (s, [])

/-- The callbacks of the client, the settings that `mod_configure` reads, and `teardown_client`
after whatever callbacks stopping the client brings. -/
inductive Input where
  | streamStart (sid : Nat) (speaker : Option String)
  | streamStop (sid : Nat)
  | audio (sid : Nat)
  | disconnected
  | configured (zelloToRf : Bool) (virtualUserId : Int)
  | teardown
deriving DecidableEq

def handle (s : State) : Input → State × List (Action Who)
  | .streamStart _ speaker => onStreamStart s speaker
  | .streamStop _ => endStream s
  | .audio _ => (s, [])
  | .disconnected => endStream s
  | .configured zelloToRf virtualUserId =>
    ({ s with zelloToRf := zelloToRf, virtualUserId := virtualUserId }, [])
  -- Unlike the callback, this only forgets.
  | .teardown => ({ s with zelloRxActive := false }, [])

/-- `talkers` are the streams that have started and not stopped. -/
structure Bridged where
  zello : State
  talkers : List Nat
  ledger : Ledger Who
deriving DecidableEq

def idle (zello : State) : Bridged where
  zello := zello
  talkers := []
  ledger := Ledger.start

def talkersAfter (talkers : List Nat) : Input → List Nat
  | .streamStart sid _ => sid :: talkers
  | .streamStop sid => talkers.filter (· ≠ sid)
  | .disconnected => []
  | .teardown => []
  | _ => talkers

def step (b : Bridged) (i : Input) : Bridged where
  zello := (handle b.zello i).1
  talkers := talkersAfter b.talkers i
  ledger := b.ledger.notes (handle b.zello i).2

def Balances (b : Bridged) (i : Input) : Prop :=
  (step b i).ledger.Balanced ((step b i).talkers ≠ [])

def SameUser (b : Bridged) : Prop :=
  -- The stream that was announced ends under the user id it was announced with.
  b.zello.zelloRxActive = true → b.ledger.asserted.map Who.userId = some b.zello.virtualUserId

def Orderly (b : Bridged) : Input → Prop
  -- One stream at a time, under one user id, and none when the client is torn down.
  | .streamStart _ _ => b.zello.zelloToRf = true → b.zello.zelloRxActive = false
  | .streamStop _ => SameUser b
  | .disconnected => SameUser b
  | .teardown => b.zello.zelloRxActive = false
  | _ => True

structure Sound (b : Bridged) : Prop where
  alternates : b.ledger.alternates = true
  held : b.ledger.held = if b.ledger.asserted.isSome then 1 else 0
  active : b.zello.zelloRxActive = true →
    b.talkers ≠ [] ∧ b.ledger.asserted.map Who.username = some b.zello.speaker.username
  inactive : b.zello.zelloRxActive = false → b.ledger.asserted = none

variable {b : Bridged}

theorem idle_sound (zelloToRf : Bool) (virtualUserId : Int) :
    Sound (idle (init zelloToRf virtualUserId)) where
  alternates := rfl
  held := rfl
  active := by simp [idle, init]
  inactive _ := rfl

theorem Sound.balanced (sound : Sound b) : b.ledger.Balanced (b.talkers ≠ []) where
  alternates := sound.alternates
  held := sound.held
  silent := by
    intro nobody
    have off : b.zello.zelloRxActive = false := by
      by_contra on
      exact nobody (sound.active (by simpa using on)).1
    have silent := sound.inactive off
    exact ⟨silent, by simp [sound.held, silent]⟩

theorem Sound.kept {i : Input} (after : Sound (step b i)) (orderly : Orderly b i) :
    (Balances b i ↔ Orderly b i) ∧ (Orderly b i → Sound (step b i)) :=
  ⟨iff_of_true after.balanced orderly, fun _ => after⟩

theorem refused {i : Input} (wrong : ¬ Balances b i) (disorderly : ¬ Orderly b i) :
    (Balances b i ↔ Orderly b i) ∧ (Orderly b i → Sound (step b i)) :=
  ⟨iff_of_false wrong disorderly, fun orderly => absurd orderly disorderly⟩

theorem Sound.asserted (sound : Sound b) (on : b.zello.zelloRxActive = true) :
    ∃ who, b.ledger.asserted = some who ∧ who.username = b.zello.speaker.username := by
  simpa using (sound.active on).2

theorem end_step (sound : Sound b) {i : Input} (ends : handle b.zello i = endStream b.zello)
    (orderly : Orderly b i ↔ SameUser b) :
    (Balances b i ↔ Orderly b i) ∧ (Orderly b i → Sound (step b i)) := by
  -- The callbacks that only end the stream.
  by_cases on : b.zello.zelloRxActive = true
  next =>
    obtain ⟨who, asserted, username⟩ := sound.asserted on
    have held : b.ledger.held = 1 := by simp [sound.held, asserted]
    have same : SameUser b ↔ who = b.zello.speaker := by
      simp only [SameUser, on, asserted, Option.map_some, Option.some.injEq, forall_const]
      constructor
      next =>
        intro id
        cases who
        simp_all [State.speaker]
      next =>
        rintro rfl
        rfl
    have after : (step b i).ledger =
        { asserted := none, held := 0, alternates := decide (who = b.zello.speaker) } := by
      simp [step, ends, endStream, on, Ledger.note, asserted, held, sound.alternates]
    have off : (step b i).zello.zelloRxActive = false := by
      simp [step, ends, endStream, on]
    rw [orderly, same]
    by_cases mine : who = b.zello.speaker
    next =>
      have kept : Sound (step b i) :=
        { alternates := by simp [after, mine]
          held := by simp [after]
          active := by simp [off]
          inactive := by simp [after] }
      exact ⟨iff_of_true kept.balanced mine, fun _ => kept⟩
    next =>
      refine ⟨iff_of_false ?_ mine, fun same => absurd same mine⟩
      intro balanced
      have alternates := balanced.alternates
      simp [after, mine] at alternates
  next =>
    have same : (step b i).ledger = b.ledger ∧ (step b i).zello = b.zello := by
      simp [step, ends, endStream, on]
    have kept : Sound (step b i) :=
      { alternates := by simpa [same] using sound.alternates
        held := by simpa [same] using sound.held
        active := by simp [same, on]
        inactive := by simpa [same] using sound.inactive }
    exact kept.kept (orderly.mpr fun active => absurd active on)

theorem start_step (sound : Sound b) (sid : Nat) (speaker : Option String) :
    (Balances b (.streamStart sid speaker) ↔ Orderly b (.streamStart sid speaker)) ∧
      (Orderly b (.streamStart sid speaker) → Sound (step b (.streamStart sid speaker))) := by
  by_cases toRf : b.zello.zelloToRf = true
  next =>
    by_cases on : b.zello.zelloRxActive = true
    next =>
      -- A second stream asserts again.
      obtain ⟨who, asserted, -⟩ := sound.asserted on
      refine refused ?_ (by simp [Orderly, toRf, on])
      intro balanced
      have alternates := balanced.alternates
      simp [step, handle, onStreamStart, toRf, Ledger.note, asserted] at alternates
    next =>
      have off : b.zello.zelloRxActive = false := by simpa using on
      have silent := sound.inactive off
      have unheld : b.ledger.held = 0 := by simp [sound.held, silent]
      have kept : Sound (step b (.streamStart sid speaker)) :=
        { alternates := by
            simp [step, handle, onStreamStart, toRf, Ledger.note, silent, sound.alternates]
          held := by simp [step, handle, onStreamStart, toRf, Ledger.note, unheld]
          active := by simp [step, handle, onStreamStart, toRf, Ledger.note, talkersAfter]
          inactive := by simp [step, handle, onStreamStart, toRf] }
      exact kept.kept fun _ => off
  next =>
    have kept : Sound (step b (.streamStart sid speaker)) :=
      { alternates := by simpa [step, handle, onStreamStart, toRf] using sound.alternates
        held := by simpa [step, handle, onStreamStart, toRf] using sound.held
        active := by
          intro on
          have before := sound.active (by simpa [step, handle, onStreamStart, toRf] using on)
          exact ⟨by simp [step, talkersAfter],
            by simpa [step, handle, onStreamStart, toRf] using before.2⟩
        inactive := by simpa [step, handle, onStreamStart, toRf] using sound.inactive }
    exact kept.kept fun on => absurd on toRf

theorem teardown_step (sound : Sound b) :
    (Balances b .teardown ↔ Orderly b .teardown) ∧
      (Orderly b .teardown → Sound (step b .teardown)) := by
  by_cases on : b.zello.zelloRxActive = true
  next =>
    obtain ⟨who, asserted, -⟩ := sound.asserted on
    refine refused ?_ (by simp [Orderly, on])
    intro balanced
    have silent := balanced.silent (by simp [step, talkersAfter])
    simp [step, handle, asserted] at silent
  next =>
    have off : b.zello.zelloRxActive = false := by simpa using on
    have kept : Sound (step b .teardown) :=
      { alternates := sound.alternates
        held := sound.held
        active := by simp [step, handle]
        inactive := fun _ => sound.inactive off }
    exact kept.kept off

theorem sound_step (sound : Sound b) (i : Input) :
    (Balances b i ↔ Orderly b i) ∧ (Orderly b i → Sound (step b i)) := by
  cases i with
  | streamStart sid speaker => exact start_step sound sid speaker
  | streamStop sid => exact end_step sound rfl Iff.rfl
  | audio sid =>
    have same : step b (.audio sid) = b := by simp [step, handle, talkersAfter]
    exact Sound.kept (by rw [same]; exact sound) trivial
  | disconnected => exact end_step sound rfl Iff.rfl
  | configured zelloToRf virtualUserId =>
    have kept : Sound (step b (.configured zelloToRf virtualUserId)) :=
      { alternates := sound.alternates
        held := sound.held
        active := sound.active
        inactive := sound.inactive }
    exact kept.kept trivial
  | teardown => exact teardown_step sound

theorem balances_iff_orderly (zelloToRf : Bool) (virtualUserId : Int) (inputs : List Input) :
    Machine.Guarded step Balances (idle (init zelloToRf virtualUserId)) inputs ↔
      Machine.Guarded step Orderly (idle (init zelloToRf virtualUserId)) inputs :=
  Machine.guarded_iff_of_invariant step (P := Sound) (fun _ i sound => (sound_step sound i).1)
    (fun _ i sound => (sound_step sound i).2) (idle_sound zelloToRf virtualUserId)

end Kerchunk.Bridge.Zello

namespace Kerchunk.Bridge

/-- Each bridge keeps its books along a run if and only if its talkers come one at a time and leave
in order. -/
theorem bridges_balance_iff (rfBridgeGroup : Nat) (rfToPoc : Bool) (pocInputs : List Poc.Input)
    (zelloToRf : Bool) (virtualUserId : Int) (zelloInputs : List Zello.Input) :
    (Machine.Guarded Poc.step Poc.Balances (Poc.idle (Poc.init rfBridgeGroup rfToPoc)) pocInputs ↔
        Machine.Guarded Poc.step Poc.Orderly (Poc.idle (Poc.init rfBridgeGroup rfToPoc))
          pocInputs) ∧
      (Machine.Guarded Zello.step Zello.Balances
          (Zello.idle (Zello.init zelloToRf virtualUserId)) zelloInputs ↔
        Machine.Guarded Zello.step Zello.Orderly
          (Zello.idle (Zello.init zelloToRf virtualUserId)) zelloInputs) :=
  ⟨Poc.balances_iff_orderly rfBridgeGroup rfToPoc pocInputs,
    Zello.balances_iff_orderly zelloToRf virtualUserId zelloInputs⟩

/-- The speaker's disconnect leaves PTT held, and so does a second stream. -/
theorem bridges_leave_ptt_held :
    ¬ Machine.Guarded Poc.step Poc.Balances (Poc.idle (Poc.init 1 true))
        [.pttRequest 1001 1, .disconnect 1001] ∧
      ¬ Machine.Guarded Zello.step Zello.Balances (Zello.idle (Zello.init true 998))
        [.streamStart 1 (some "alice"), .streamStart 2 (some "bob")] := by
  constructor
  next =>
    rintro ⟨-, balanced, -⟩
    exact absurd (balanced.silent (by decide)).2 (by decide)
  next =>
    rintro ⟨-, balanced, -⟩
    exact absurd balanced.alternates (by decide)

end Kerchunk.Bridge
