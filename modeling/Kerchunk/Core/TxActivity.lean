import Kerchunk.Lib.Machine

set_option autoImplicit false

/-!
# The fused TX-activity detector (`src/kerchunk_txactivity.c`)

`src/kerchunk_txactivity.h`: "Either input asserts presence; both must be quiet
continuously for end_silence_ticks before TX_END is declared." The counters of the
detector are compared with the polls that it has been given.
-/

namespace Kerchunk.Core

inductive TxactEvent where
  | noEdge
  | txBegin
  | txEnd
deriving DecidableEq

structure TxActivity where
  endSilenceTicks : Nat
  endSilenceDtmfTicks : Nat
  dtmfGraceTicks : Nat
  trustCosBit : Bool
  published : Bool
  silentTicks : Nat
  dtmfSeenAgo : Nat
  cosBitSticky : Bool
  cosFlappedSession : Bool
deriving DecidableEq

namespace TxActivity

/-- `INT_MAX / 2` -/
def longAgo : Nat := 1073741823

def init (endSilenceTicks endSilenceDtmfTicks dtmfGraceTicks : Int) (trustCosBit : Bool) :
    TxActivity where
  -- `kerchunk_txactivity_init`. A negative argument counts as 0.
  endSilenceTicks := endSilenceTicks.toNat
  endSilenceDtmfTicks := max endSilenceDtmfTicks.toNat endSilenceTicks.toNat
  dtmfGraceTicks := dtmfGraceTicks.toNat
  trustCosBit := trustCosBit
  published := false
  silentTicks := 0
  dtmfSeenAgo := longAgo
  cosBitSticky := false
  cosFlappedSession := false

def activeSilenceTicks (s : TxActivity) : Nat :=
  if s.dtmfSeenAgo < s.dtmfGraceTicks ∨ s.cosFlappedSession = true then s.endSilenceDtmfTicks
  else s.endSilenceTicks

def observe (s : TxActivity) (cosRaw : Option Bool) (dtmfActive : Bool) : TxActivity :=
  -- The sticky bit, the flap flag and the age of the last tone. `none` is a read without data.
  let cosBit := s.trustCosBit && cosRaw.getD s.cosBitSticky
  { s with
    cosBitSticky := cosBit
    cosFlappedSession := s.cosFlappedSession || (s.published && !s.cosBitSticky && cosBit)
    dtmfSeenAgo :=
      if dtmfActive then 0
      else if s.dtmfSeenAgo < longAgo then s.dtmfSeenAgo + 1
      else s.dtmfSeenAgo }

def edge (s : TxActivity) (dtmfActive : Bool) : TxactEvent × TxActivity :=
  -- The edge that the new inputs make.
  if s.cosBitSticky || dtmfActive then
    if s.published then (.noEdge, { s with silentTicks := 0 })
    else (.txBegin, { s with silentTicks := 0, published := true })
  else if s.published then
    if s.activeSilenceTicks ≤ s.silentTicks + 1 then
      (.txEnd, { s with published := false, silentTicks := 0, cosFlappedSession := false })
    else (.noEdge, { s with silentTicks := s.silentTicks + 1 })
  else (.noEdge, s)

def tick (s : TxActivity) (cosRaw : Option Bool) (dtmfActive : Bool) : TxactEvent × TxActivity :=
  (s.observe cosRaw dtmfActive).edge dtmfActive

end TxActivity

/-! ## What the polls say -/

/-- One poll of the main loop: what `kerchunk_hid_read_cor` returns, and the state of the DTMF
decoder. While PTT is held neither reaches the detector. -/
structure Poll where
  pttHeld : Bool
  reading : Option Bool
  dtmf : Bool
deriving DecidableEq

def Poll.cosRaw (trust : Bool) (p : Poll) : Option Bool :=
  if trust && !p.pttHeld then p.reading else some false

def Poll.tone (p : Poll) : Bool :=
  !p.pttHeld && p.dtmf

namespace Polls

variable (trust : Bool)

def cosLevel : List Poll → Bool
  -- The level that the newest reading with data gave. The newest poll comes first.
  | [] => false
  | p :: earlier => trust && (p.cosRaw trust).getD (cosLevel earlier)

def heard (p : Poll) (earlier : List Poll) : Bool :=
  cosLevel trust (p :: earlier) || p.tone

def quietStretch : List Poll → Nat
  -- How many polls in a row, up to the newest, neither input has reached.
  | [] => 0
  | p :: earlier => if heard trust p earlier then 0 else quietStretch earlier + 1

def recentTone (grace : Nat) (polls : List Poll) : Bool :=
  (polls.take grace).any Poll.tone

def flapped : Nat → List Poll → Bool
  -- COS came back up at one of the newest `since` polls.
  | since + 1, p :: earlier =>
    (!cosLevel trust earlier && cosLevel trust (p :: earlier)) || flapped since earlier
  | _, _ => false

end Polls

def TxActivity.window (s : TxActivity) (since : Nat) (polls : List Poll) : Nat :=
  -- The silence that ends a transmission whose COR_ASSERT is `since` polls ago.
  if Polls.recentTone s.dtmfGraceTicks polls || Polls.flapped s.trustCosBit since polls then
    s.endSilenceDtmfTicks
  else s.endSilenceTicks

/-! ## The counters follow the polls -/

namespace TxActivity

/-- What the detector never changes. -/
structure SameSetting (s s' : TxActivity) : Prop where
  endSilence : s'.endSilenceTicks = s.endSilenceTicks
  endSilenceDtmf : s'.endSilenceDtmfTicks = s.endSilenceDtmfTicks
  grace : s'.dtmfGraceTicks = s.dtmfGraceTicks
  trust : s'.trustCosBit = s.trustCosBit

theorem SameSetting.trans {s s' s'' : TxActivity} (later : SameSetting s' s'')
    (same : SameSetting s s') : SameSetting s s'' :=
  ⟨later.endSilence.trans same.endSilence, later.endSilenceDtmf.trans same.endSilenceDtmf,
    later.grace.trans same.grace, later.trust.trans same.trust⟩

theorem edge_setting (s : TxActivity) (dtmfActive : Bool) : SameSetting s (s.edge dtmfActive).2 := by
  unfold edge
  split
  next => split <;> exact ⟨rfl, rfl, rfl, rfl⟩
  next =>
    split
    next => split <;> exact ⟨rfl, rfl, rfl, rfl⟩
    next => exact ⟨rfl, rfl, rfl, rfl⟩

theorem tick_setting (s : TxActivity) (cosRaw : Option Bool) (dtmfActive : Bool) :
    SameSetting s (s.tick cosRaw dtmfActive).2 := by
  obtain ⟨endSilence, endSilenceDtmf, grace, trust⟩ :=
    edge_setting (s.observe cosRaw dtmfActive) dtmfActive
  exact ⟨endSilence, endSilenceDtmf, grace, trust⟩

/-- `since` counts the polls after the one that fired COR_ASSERT, `none` when no transmission is
published. -/
structure Tracks (s : TxActivity) (since : Option Nat) (polls : List Poll) : Prop where
  grace : s.dtmfGraceTicks ≤ longAgo
  sticky : s.cosBitSticky = Polls.cosLevel s.trustCosBit polls
  tone : ∀ ago ≤ longAgo, s.dtmfSeenAgo < ago ↔ Polls.recentTone ago polls = true
  published : s.published = since.isSome
  silent : s.published = true → s.silentTicks = Polls.quietStretch s.trustCosBit polls
  flapped : s.cosFlappedSession = since.any fun n => Polls.flapped s.trustCosBit n polls

theorem init_tracks (endSilenceTicks endSilenceDtmfTicks : Int) {dtmfGraceTicks : Int}
    (grace : dtmfGraceTicks.toNat ≤ longAgo) (trustCosBit : Bool) :
    Tracks (init endSilenceTicks endSilenceDtmfTicks dtmfGraceTicks trustCosBit) none [] where
  grace := grace
  sticky := rfl
  tone ago short := by simpa [init, Polls.recentTone] using short
  published := rfl
  silent := nofun
  flapped := rfl

section

variable {s : TxActivity} {since : Option Nat} {polls : List Poll}

theorem observe_sticky (tracks : Tracks s since polls) (p : Poll) :
    (s.observe (p.cosRaw s.trustCosBit) p.tone).cosBitSticky =
      Polls.cosLevel s.trustCosBit (p :: polls) := by
  simp [observe, Polls.cosLevel, tracks.sticky]

theorem observe_tone (tracks : Tracks s since polls) (p : Poll) (ago : Nat) (short : ago ≤ longAgo) :
    (s.observe (p.cosRaw s.trustCosBit) p.tone).dtmfSeenAgo < ago ↔
      Polls.recentTone ago (p :: polls) = true := by
  cases ago with
  | zero => simp [Polls.recentTone]
  | succ before =>
    have earlier := tracks.tone before (by omega)
    have now : Polls.recentTone (before + 1) (p :: polls) =
        (p.tone || Polls.recentTone before polls) := rfl
    rw [now]
    by_cases tone : p.tone = true
    next => simp [observe, tone]
    next =>
      have silent : p.tone = false := Bool.eq_false_iff.mpr tone
      simp only [observe, silent, Bool.false_or, ← earlier, Bool.false_eq_true, if_false]
      -- At the cap the tone is further back than any grace.
      split <;> omega

theorem observe_flapped (tracks : Tracks s since polls) (p : Poll) :
    (s.observe (p.cosRaw s.trustCosBit) p.tone).cosFlappedSession =
      since.any fun n => Polls.flapped s.trustCosBit (n + 1) (p :: polls) := by
  have level := observe_sticky tracks p
  simp only [observe, tracks.sticky] at level
  simp only [observe, tracks.sticky, level, tracks.flapped, tracks.published]
  cases since with
  | none => rfl
  | some n => simp [Polls.flapped, Bool.or_comm]

theorem observe_window (tracks : Tracks s since polls) (p : Poll) {n : Nat} (live : since = some n) :
    (s.observe (p.cosRaw s.trustCosBit) p.tone).activeSilenceTicks =
      s.window (n + 1) (p :: polls) := by
  have tone := observe_tone tracks p s.dtmfGraceTicks tracks.grace
  have flap := observe_flapped tracks p
  simp only [live, Option.any_some] at flap
  rw [activeSilenceTicks, window, flap]
  simp only [Bool.or_eq_true, ← tone]
  rfl

theorem observe_present (tracks : Tracks s since polls) (p : Poll) :
    ((s.observe (p.cosRaw s.trustCosBit) p.tone).cosBitSticky || p.tone) =
      Polls.heard s.trustCosBit p polls := by
  rw [observe_sticky tracks p, Polls.heard]

def follow (since : Option Nat) : TxactEvent → Option Nat
  -- The poll count after COR_ASSERT that an edge leaves.
  | .noEdge => since.map (· + 1)
  | .txBegin => some 0
  | .txEnd => none

theorem tick_heard (tracks : Tracks s since polls) (p : Poll)
    (heard : Polls.heard s.trustCosBit p polls = true) :
    let after := s.observe (p.cosRaw s.trustCosBit) p.tone
    s.tick (p.cosRaw s.trustCosBit) p.tone =
      (if since.isSome then .noEdge else .txBegin,
        { after with silentTicks := 0, published := true }) := by
  intro after
  have present : (after.cosBitSticky || p.tone) = true := (observe_present tracks p).trans heard
  have published : after.published = since.isSome := tracks.published
  rw [tick, edge, if_pos present, published]
  cases since with
  | none => rfl
  | some n =>
    have live : s.published = true := tracks.published
    simp [after, observe, live]

theorem tick_idle (tracks : Tracks s none polls) (p : Poll)
    (quiet : Polls.heard s.trustCosBit p polls = false) :
    s.tick (p.cosRaw s.trustCosBit) p.tone =
      (.noEdge, s.observe (p.cosRaw s.trustCosBit) p.tone) := by
  have present := (observe_present tracks p).trans quiet
  have published : (s.observe (p.cosRaw s.trustCosBit) p.tone).published = false := tracks.published
  rw [tick, edge, present, published]
  rfl

/-- A poll that neither input reaches adds to the stretch, and ends the transmission when the
stretch fills the window. -/
theorem tick_quiet {n : Nat} (tracks : Tracks s (some n) polls) (p : Poll)
    (quiet : Polls.heard s.trustCosBit p polls = false) :
    let after := s.observe (p.cosRaw s.trustCosBit) p.tone
    let stretch := Polls.quietStretch s.trustCosBit (p :: polls)
    s.tick (p.cosRaw s.trustCosBit) p.tone =
      if s.window (n + 1) (p :: polls) ≤ stretch then
        (.txEnd, { after with published := false, silentTicks := 0, cosFlappedSession := false })
      else (.noEdge, { after with silentTicks := stretch }) := by
  intro after stretch
  have present : (after.cosBitSticky || p.tone) = false := (observe_present tracks p).trans quiet
  have published : after.published = true := tracks.published
  have stretched : after.silentTicks + 1 = stretch := by
    simp [stretch, Polls.quietStretch, quiet, ← tracks.silent tracks.published, after, observe]
  rw [tick, edge, present, published, stretched, observe_window tracks p rfl]
  rfl

theorem tick_tracks (tracks : Tracks s since polls) (p : Poll) :
    let next := s.tick (p.cosRaw s.trustCosBit) p.tone
    Tracks next.2 (follow since next.1) (p :: polls) := by
  intro next
  have sticky := observe_sticky tracks p
  have tone := observe_tone tracks p
  have flap := observe_flapped tracks p
  by_cases heard : Polls.heard s.trustCosBit p polls = true
  next =>
    have eq : next = _ := tick_heard tracks p heard
    have stretch : Polls.quietStretch s.trustCosBit (p :: polls) = 0 := by
      simp [Polls.quietStretch, heard]
    rw [eq]
    cases since with
    | none => exact ⟨tracks.grace, sticky, tone, rfl, fun _ => stretch.symm, flap⟩
    | some n => exact ⟨tracks.grace, sticky, tone, rfl, fun _ => stretch.symm, flap⟩
  next =>
    have quiet : Polls.heard s.trustCosBit p polls = false := Bool.eq_false_iff.mpr heard
    cases since with
    | none =>
      have eq : next = _ := tick_idle tracks p quiet
      have unpublished : s.published = false := tracks.published
      rw [eq]
      refine ⟨tracks.grace, sticky, tone, unpublished, fun published => ?_, flap⟩
      cases unpublished.symm.trans published
    | some n =>
      have eq : next = _ := tick_quiet tracks p quiet
      rw [eq]
      split
      next => exact ⟨tracks.grace, sticky, tone, rfl, nofun, rfl⟩
      next => exact ⟨tracks.grace, sticky, tone, tracks.published, fun _ => rfl, flap⟩

theorem tick_ends_iff (tracks : Tracks s since polls) (p : Poll) :
    (s.tick (p.cosRaw s.trustCosBit) p.tone).1 = .txEnd ↔
      ∃ n, since = some n ∧ Polls.heard s.trustCosBit p polls = false ∧
        s.window (n + 1) (p :: polls) ≤ Polls.quietStretch s.trustCosBit (p :: polls) := by
  by_cases heard : Polls.heard s.trustCosBit p polls = true
  next =>
    rw [tick_heard tracks p heard]
    cases since <;> simp [heard]
  next =>
    have quiet : Polls.heard s.trustCosBit p polls = false := Bool.eq_false_iff.mpr heard
    cases since with
    | none => simp [tick_idle tracks p quiet]
    | some n =>
      rw [tick_quiet tracks p quiet]
      split
      next filled => simp [quiet, filled]
      next short => simp [quiet, short]

end

end TxActivity

end Kerchunk.Core
