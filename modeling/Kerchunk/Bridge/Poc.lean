import Kerchunk.Bridge.Vcor
import Kerchunk.Lib.Machine

set_option autoImplicit false

/-!
# The PoC bridge (`modules/mod_poc.c`)

Push notifications and what the audio itself does are left out.
-/

namespace Kerchunk.Bridge.Poc

def pocUserIdOffset : Nat := 1000

def pocUidToKerchunk (pocUid : Nat) : Nat :=
  if pocUserIdOffset < pocUid then pocUid - pocUserIdOffset else pocUid

/-- 0 stands for no speaker and for no bridge group. -/
structure State where
  srv : Bool
  rfBridgeGroup : Nat
  rfToPoc : Bool
  rfRxActive : Bool
  pocPttActive : Bool
  pocPttSpeaker : Nat
  audioFrameCount : Nat
deriving DecidableEq

def init (rfBridgeGroup : Nat) (rfToPoc : Bool) : State where
  srv := true
  rfBridgeGroup := rfBridgeGroup
  rfToPoc := rfToPoc
  rfRxActive := false
  pocPttActive := false
  pocPttSpeaker := 0
  audioFrameCount := 0

def pocOnDisconnect (s : State) (uid : Nat) : State :=
  if uid = s.pocPttSpeaker then { s with pocPttActive := false, pocPttSpeaker := 0 } else s

def denied (s : State) (gid : Nat) : Prop :=
  gid = s.rfBridgeGroup ∧ s.rfRxActive = true

instance (s : State) (gid : Nat) : Decidable (denied s gid) :=
  inferInstanceAs (Decidable (_ ∧ _))

def pocOnPttRequest (s : State) (uid gid : Nat) : State × List (Action Nat) :=
  if denied s gid then (s, [])
  else
    ({ s with pocPttActive := true, pocPttSpeaker := uid, audioFrameCount := 0 },
      [.requestPtt, .vcorAssert (pocUidToKerchunk uid)])

def pocOnPttEnd (s : State) (uid : Nat) : State × List (Action Nat) :=
  if uid = s.pocPttSpeaker then
    ({ s with pocPttActive := false, pocPttSpeaker := 0 },
      [.releasePtt, .vcorDrop (pocUidToKerchunk uid)])
  else (s, [])

/-- The callbacks of the server, RF COR, the settings, and the server taken down with all its
clients. -/
inductive Input where
  | pttRequest (uid gid : Nat)
  | pttEnd (uid : Nat)
  | disconnect (uid : Nat)
  | audio (uid gid : Nat)
  | corAssert
  | corDrop
  | configured (rfBridgeGroup : Nat) (rfToPoc : Bool)
  | serverStarted
  | serverStopped
deriving DecidableEq

def handle (s : State) : Input → State × List (Action Nat)
  | .pttRequest uid gid => pocOnPttRequest s uid gid
  | .pttEnd uid => pocOnPttEnd s uid
  | .disconnect uid => (pocOnDisconnect s uid, [])
  | .audio _ _ => ({ s with audioFrameCount := s.audioFrameCount + 1 }, [])
  | .corAssert =>
    if s.rfToPoc = false ∨ s.srv = false ∨ s.rfBridgeGroup = 0 then (s, [])
    else ({ s with rfRxActive := true }, [])
  | .corDrop =>
    if s.rfRxActive = false ∨ s.srv = false then (s, []) else ({ s with rfRxActive := false }, [])
  | .configured rfBridgeGroup rfToPoc =>
    ({ s with rfBridgeGroup := rfBridgeGroup, rfToPoc := rfToPoc }, [])
  | .serverStarted => ({ s with srv := true }, [])
  -- Neither `mod_configure` nor `mod_unload` looks at the speaker.
  | .serverStopped => ({ s with srv := false }, [])

/-- `talkers` are the users who were granted the floor and have neither ended nor gone. -/
structure Bridged where
  poc : State
  talkers : List Nat
  ledger : Ledger Nat
deriving DecidableEq

def idle (poc : State) : Bridged where
  poc := poc
  talkers := []
  ledger := Ledger.start

def talkersAfter (b : Bridged) : Input → List Nat
  | .pttRequest uid gid => if denied b.poc gid then b.talkers else uid :: b.talkers
  | .pttEnd uid => b.talkers.filter (· ≠ uid)
  | .disconnect uid => b.talkers.filter (· ≠ uid)
  | .serverStopped => []
  | _ => b.talkers

def step (b : Bridged) (i : Input) : Bridged where
  poc := (handle b.poc i).1
  talkers := talkersAfter b i
  ledger := b.ledger.notes (handle b.poc i).2

def Balances (b : Bridged) (i : Input) : Prop :=
  (step b i).ledger.Balanced ((step b i).talkers ≠ [])

def Orderly (b : Bridged) : Input → Prop
  -- One talker at a time, who ends before he goes.
  | .pttRequest _ gid => ¬ denied b.poc gid → b.poc.pocPttActive = false
  | .pttEnd uid => uid = b.poc.pocPttSpeaker → b.poc.pocPttActive = true
  | .disconnect uid => uid = b.poc.pocPttSpeaker → b.poc.pocPttActive = false
  | .serverStopped => b.poc.pocPttActive = false
  | _ => True

def talking (poc : State) : Bridged where
  poc := poc
  talkers := [poc.pocPttSpeaker]
  ledger :=
    { asserted := some (pocUidToKerchunk poc.pocPttSpeaker), held := 1, alternates := true }

/-- Nobody talks, or the speaker does and the core knows. -/
inductive Sound : Bridged → Prop where
  | idle (poc : State) (inactive : poc.pocPttActive = false) (speaker : poc.pocPttSpeaker = 0) :
      Sound (idle poc)
  | talking (poc : State) (active : poc.pocPttActive = true) : Sound (talking poc)

theorem start_balanced (talking : Prop) : (Ledger.start : Ledger Nat).Balanced talking where
  alternates := rfl
  held := rfl
  silent _ := ⟨rfl, rfl⟩

variable {b : Bridged}

theorem Sound.balanced (sound : Sound b) : b.ledger.Balanced (b.talkers ≠ []) := by
  cases sound with
  | idle => exact start_balanced _
  | talking => exact { alternates := rfl, held := rfl, silent := by simp [Poc.talking] }

theorem Sound.kept {i : Input} (after : Sound (step b i)) (orderly : Orderly b i) :
    (Balances b i ↔ Orderly b i) ∧ (Orderly b i → Sound (step b i)) :=
  -- Steps that are always in order.
  ⟨iff_of_true after.balanced orderly, fun _ => after⟩

theorem refused {i : Input} (wrong : ¬ Balances b i) (disorderly : ¬ Orderly b i) :
    (Balances b i ↔ Orderly b i) ∧ (Orderly b i → Sound (step b i)) :=
  -- Steps that neither the rules nor the ledger allow.
  ⟨iff_of_false wrong disorderly, fun orderly => absurd orderly disorderly⟩

variable {poc : State}

theorem denied_step {uid gid : Nat} (busy : denied b.poc gid) :
    step b (.pttRequest uid gid) = b := by
  simp [step, handle, pocOnPttRequest, talkersAfter, busy]

theorem idle_step (inactive : poc.pocPttActive = false) (speaker : poc.pocPttSpeaker = 0)
    (i : Input) :
    (Balances (idle poc) i ↔ Orderly (idle poc) i) ∧
      (Orderly (idle poc) i → Sound (step (idle poc) i)) := by
  have still := Sound.idle poc inactive speaker
  cases i with
  | pttRequest uid gid =>
    refine Sound.kept ?_ fun _ => inactive
    by_cases busy : denied (idle poc).poc gid
    next =>
      rw [denied_step busy]
      exact still
    next =>
      have talks := Sound.talking
        { poc with pocPttActive := true, pocPttSpeaker := uid, audioFrameCount := 0 } rfl
      simp only [idle] at busy
      simpa [step, handle, pocOnPttRequest, talkersAfter, busy, idle, talking, Ledger.note,
        Ledger.start] using talks
  | pttEnd uid =>
    by_cases zero : uid = 0
    next =>
      -- No speaker and user 0 look alike.
      refine refused ?_ (by simp [Orderly, idle, zero, speaker, inactive])
      intro balanced
      have alternates := balanced.alternates
      simp [step, handle, pocOnPttEnd, idle, zero, speaker, Ledger.note, Ledger.start]
        at alternates
    next =>
      refine Sound.kept ?_ fun same => absurd (same.trans speaker) zero
      simpa [step, handle, pocOnPttEnd, talkersAfter, speaker, zero, idle] using still
  | disconnect uid =>
    refine Sound.kept ?_ fun _ => inactive
    have same : pocOnDisconnect poc uid = poc := by
      unfold pocOnDisconnect
      split
      next => rw [← inactive, ← speaker]
      next => rfl
    simpa [step, handle, talkersAfter, same, idle] using still
  | corAssert =>
    refine Sound.kept ?_ trivial
    simp only [step, handle, talkersAfter]
    split
    next => exact still
    next => exact .idle { poc with rfRxActive := true } inactive speaker
  | corDrop =>
    refine Sound.kept ?_ trivial
    simp only [step, handle, talkersAfter]
    split
    next => exact still
    next => exact .idle { poc with rfRxActive := false } inactive speaker
  | serverStopped => exact Sound.kept (.idle { poc with srv := false } inactive speaker) inactive
  | _ => exact Sound.kept (.idle _ inactive speaker) trivial

theorem talking_step (active : poc.pocPttActive = true) (i : Input) :
    (Balances (talking poc) i ↔ Orderly (talking poc) i) ∧
      (Orderly (talking poc) i → Sound (step (talking poc) i)) := by
  have still := Sound.talking poc active
  cases i with
  | pttRequest uid gid =>
    by_cases busy : denied (talking poc).poc gid
    next =>
      refine Sound.kept ?_ fun free => absurd busy free
      rw [denied_step busy]
      exact still
    next =>
      simp only [talking] at busy
      refine refused ?_ (by simp [Orderly, busy, talking, active])
      intro balanced
      have alternates := balanced.alternates
      simp [step, handle, pocOnPttRequest, busy, talking, Ledger.note] at alternates
  | pttEnd uid =>
    refine Sound.kept ?_ fun _ => active
    by_cases mine : uid = poc.pocPttSpeaker
    next =>
      have finished := Sound.idle { poc with pocPttActive := false, pocPttSpeaker := 0 } rfl rfl
      simpa [step, handle, pocOnPttEnd, talkersAfter, mine, talking, idle, Ledger.note,
        Ledger.start] using finished
    next =>
      have other : poc.pocPttSpeaker ≠ uid := Ne.symm mine
      simpa [step, handle, pocOnPttEnd, talkersAfter, mine, other, talking] using still
  | disconnect uid =>
    by_cases mine : uid = poc.pocPttSpeaker
    next =>
      refine refused ?_ (by simp [Orderly, talking, mine, active])
      intro balanced
      have silent := balanced.silent (by simp [step, talkersAfter, talking, mine])
      simp [step, handle, talking] at silent
    next =>
      refine Sound.kept ?_ fun same => absurd same mine
      have other : poc.pocPttSpeaker ≠ uid := Ne.symm mine
      simpa [step, handle, pocOnDisconnect, talkersAfter, mine, other, talking] using still
  | corAssert =>
    refine Sound.kept ?_ trivial
    simp only [step, handle, talkersAfter]
    split
    next => exact still
    next => exact .talking { poc with rfRxActive := true } active
  | serverStopped =>
    refine refused ?_ (by simp [Orderly, talking, active])
    intro balanced
    have silent := balanced.silent (by simp [step, talkersAfter])
    simp [step, handle, talking] at silent
  | audio uid gid =>
    exact Sound.kept (.talking { poc with audioFrameCount := poc.audioFrameCount + 1 } active) trivial
  | corDrop =>
    refine Sound.kept ?_ trivial
    simp only [step, handle, talkersAfter]
    split
    next => exact still
    next => exact .talking { poc with rfRxActive := false } active
  | serverStarted => exact Sound.kept (.talking { poc with srv := true } active) trivial
  | configured group toPoc =>
    exact Sound.kept (.talking { poc with rfBridgeGroup := group, rfToPoc := toPoc } active) trivial

theorem sound_step (sound : Sound b) (i : Input) :
    (Balances b i ↔ Orderly b i) ∧ (Orderly b i → Sound (step b i)) := by
  cases sound with
  | idle poc inactive speaker => exact idle_step inactive speaker i
  | talking poc active => exact talking_step active i

theorem balances_iff_orderly (rfBridgeGroup : Nat) (rfToPoc : Bool) (inputs : List Input) :
    Machine.Guarded step Balances (idle (init rfBridgeGroup rfToPoc)) inputs ↔
      Machine.Guarded step Orderly (idle (init rfBridgeGroup rfToPoc)) inputs :=
  Machine.guarded_iff_of_invariant step (P := Sound) (fun _ i sound => (sound_step sound i).1)
    (fun _ i sound => (sound_step sound i).2) (.idle (init rfBridgeGroup rfToPoc) rfl rfl)

end Kerchunk.Bridge.Poc
