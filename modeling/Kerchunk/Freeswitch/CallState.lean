import Kerchunk.Freeswitch.Model
import Kerchunk.Lib.Machine

set_option autoImplicit false

/-!
# What a call holds

Between two inputs the call state says which timers, taps, sockets and PTT requests the module has.
-/

namespace Kerchunk.Freeswitch

open Kerchunk.Core (Slot TimerTable)
open Kerchunk.Config (Text)

/-! ## What is asked -/

/-- Nothing of a call is left. -/
structure Quiescent (s : State) : Prop where
  call : ¬ s.timers.Pending .call
  dial : ¬ s.timers.Pending .dial
  inactivity : ¬ s.timers.Pending .inactivity
  udpRx : s.udpRx = false
  udpTx : s.udpTx = false
  taps : s.taps.count .own = 0
  playbackTaps : s.playbackTaps.count .own = 0
  active : s.callActive = false
  ptt : s.pttRequests = 0
  uuid : s.callUuid = []

structure Equipped (s : State) : Prop where
  active : s.callActive = true
  udpRx : s.udpRx = true
  udpTx : s.udpTx = true
  taps : s.taps.count .own = 1
  playbackTaps : s.playbackTaps.count .own = 1
  call : s.timers.Pending .call
  inactivity : s.timers.Pending .inactivity

structure Consistent (s : State) : Prop where
  idle : s.callState = .idle ↔ Quiescent s
  dialing : s.callState = .dialing ∨ s.callState = .ringing → s.timers.Pending .dial
  connected : s.callState = .connected → Equipped s

/-- A dialled call gets its timer, an answered one its timers and taps, and a user who keys up does
not find the limit on inactivity turned off. -/
def Resourced (s : State) (input : Input) : Prop :=
  let dials (digits : Text) : Prop :=
    mayDial s digits = true →
      goesOut input.1 s (.originate (originateCommand s.settings digits)) = true →
      0 < s.settings.dialTimeoutMs ∧ s.timers.HasRoom
  match input.2 with
  | .autopatch arg => s.loaded = true → arg ≠ [] → dials arg
  | .dial digits => s.loaded = true → dials digits
  | .block text =>
    ∀ uuid, s.loaded = true → s.settings.enabled = true → s.eslOpen = true →
      eslEvent text = .answer uuid → adopts s uuid = true → input.1.udpOpens = true →
      0 < s.settings.inactivityMs ∧ s.timers.HasRoom ∧ s.taps.length < maxTaps ∧
        s.playbackTaps.length < maxTaps
  | .corAssert =>
    s.loaded = true → s.callActive = true → s.inactivityTimer ≠ none → 0 < s.settings.inactivityMs
  | _ => True

/-! ## What holds in between -/

abbrev Own (callback : Callback) : Prop :=
  callback ≠ .foreign

def handles (s : State) : Callback → Option Nat
  | .call => s.callTimer
  | .dial => s.dialTimer
  | .inactivity => s.inactivityTimer
  | .foreign => none

/-- What no handler loses track of, whatever the call state. -/
structure Kept (s : State) : Prop where
  timers : s.timers.OwnsEach Own (handles s)
  limit : 30 ≤ s.settings.maxCallSecs
  taps : s.taps.count .own ≤ 1
  playbackTaps : s.playbackTaps.count .own ≤ 1
  ptt : s.pttRequests = if s.voxPttHeld then 1 else 0

/-- What the module has in hand; of a timer, only whether it runs. -/
structure Holdings where
  udpRx : Bool
  udpTx : Bool
  taps : Nat
  playbackTaps : Nat
  active : Bool
  held : Bool
  uuid : Text
  call : Bool
  dial : Bool
  inactivity : Bool

def holdings (s : State) : Holdings where
  udpRx := s.udpRx
  udpTx := s.udpTx
  taps := s.taps.count .own
  playbackTaps := s.playbackTaps.count .own
  active := s.callActive
  held := s.voxPttHeld
  uuid := s.callUuid
  call := s.callTimer.isSome
  dial := s.dialTimer.isSome
  inactivity := s.inactivityTimer.isSome

def bare (dial : Bool) : Holdings where
  -- Nothing but the dial timer, if that.
  udpRx := false
  udpTx := false
  taps := 0
  playbackTaps := 0
  active := false
  held := false
  uuid := []
  call := false
  dial := dial
  inactivity := false

def equipped (held : Bool) (uuid : Text) : Holdings where
  -- All but the dial timer.
  udpRx := true
  udpTx := true
  taps := 1
  playbackTaps := 1
  active := true
  held := held
  uuid := uuid
  call := true
  dial := false
  inactivity := true

def holds (s : State) : CallState → Holdings
  | .idle => bare false
  | .dialing | .ringing => bare true
  | .connected => equipped s.voxPttHeld s.callUuid

structure Sound (s : State) : Prop where
  kept : Kept s
  holds : holdings s = holds s s.callState

variable {s : State}

/-- The call's resources as fields of the state. -/
structure Bare (s : State) : Prop where
  udpRx : s.udpRx = false
  udpTx : s.udpTx = false
  taps : s.taps.count .own = 0
  playbackTaps : s.playbackTaps.count .own = 0
  active : s.callActive = false
  held : s.voxPttHeld = false
  uuid : s.callUuid = []
  call : s.callTimer = none
  inactivity : s.inactivityTimer = none

theorem bare_of_holdings {dial : Bool} (holds : holdings s = bare dial) :
    Bare s ∧ s.dialTimer.isSome = dial := by
  refine ⟨⟨?_, ?_, ?_, ?_, ?_, ?_, ?_, ?_, ?_⟩, ?_⟩
  · exact congrArg Holdings.udpRx holds
  · exact congrArg Holdings.udpTx holds
  · exact congrArg Holdings.taps holds
  · exact congrArg Holdings.playbackTaps holds
  · exact congrArg Holdings.active holds
  · exact congrArg Holdings.held holds
  · exact congrArg Holdings.uuid holds
  · exact Option.isSome_eq_false_iff.mp (congrArg Holdings.call holds) |> Option.isNone_iff_eq_none.mp
  · exact Option.isSome_eq_false_iff.mp (congrArg Holdings.inactivity holds) |>
      Option.isNone_iff_eq_none.mp
  · exact congrArg Holdings.dial holds

theorem owns_isSome {t : TimerTable Callback} {handle : Option Nat} {callback : Callback}
    (owns : t.Owns handle callback) : t.Pending callback ↔ handle.isSome = true := by
  rw [TimerTable.owns_pending owns, Option.isSome_iff_ne_none]

theorem Kept.call (kept : Kept s) : s.timers.Owns s.callTimer .call :=
  kept.timers .call (by decide)

theorem Kept.dial (kept : Kept s) : s.timers.Owns s.dialTimer .dial :=
  kept.timers .dial (by decide)

theorem Kept.inactivity (kept : Kept s) : s.timers.Owns s.inactivityTimer .inactivity :=
  kept.timers .inactivity (by decide)

theorem Sound.consistent (sound : Sound s) : Consistent s := by
  obtain ⟨kept, held⟩ := sound
  have call := owns_isSome kept.call
  have dial := owns_isSome kept.dial
  have inactivity := owns_isSome kept.inactivity
  cases now : s.callState with
  | idle =>
      rw [now] at held
      obtain ⟨bare, none⟩ := bare_of_holdings held
      have quiet : Quiescent s :=
        { call := by simp [call, bare.call]
          dial := by simp [dial, none]
          inactivity := by simp [inactivity, bare.inactivity]
          udpRx := bare.udpRx
          udpTx := bare.udpTx
          taps := bare.taps
          playbackTaps := bare.playbackTaps
          active := bare.active
          ptt := by simp [kept.ptt, bare.held]
          uuid := bare.uuid }
      constructor <;> simp [now, quiet]
  | dialing =>
      rw [now] at held
      have running := dial.mpr (bare_of_holdings held).2
      have busy : ¬ Quiescent s := fun quiet => quiet.dial running
      constructor <;> simp [now, busy, running]
  | ringing =>
      rw [now] at held
      have running := dial.mpr (bare_of_holdings held).2
      have busy : ¬ Quiescent s := fun quiet => quiet.dial running
      constructor <;> simp [now, busy, running]
  | connected =>
      rw [now] at held
      have fitted : Equipped s :=
        { active := congrArg Holdings.active held
          udpRx := congrArg Holdings.udpRx held
          udpTx := congrArg Holdings.udpTx held
          taps := congrArg Holdings.taps held
          playbackTaps := congrArg Holdings.playbackTaps held
          call := call.mpr (congrArg Holdings.call held)
          inactivity := inactivity.mpr (congrArg Holdings.inactivity held) }
      have busy : ¬ Quiescent s := fun quiet => quiet.call fitted.call
      constructor <;> simp [now, busy, fitted]

theorem init_sound (settings : Settings) : Sound (init settings) where
  kept :=
    { timers := fun callback _ => by cases callback <;> exact TimerTable.init_owns
      limit := by
        simp only [init, Settings.clamped]
        omega
      taps := by simp [init]
      playbackTaps := by simp [init]
      ptt := rfl }
  holds := rfl

/-! ## The handlers -/

theorem eslSend_same (env : Env) (s : State) (command : EslCommand) :
    ∃ sent, eslSend env s command = { s with sent := sent } := by
  rw [eslSend]
  split
  next => exact ⟨_, rfl⟩
  next => exact ⟨s.sent, rfl⟩

theorem killCall_same (env : Env) (s : State) : ∃ sent, killCall env s = { s with sent := sent } := by
  rw [killCall]
  split
  next => exact ⟨s.sent, rfl⟩
  next => exact eslSend_same env s _

theorem Kept.of_sent (kept : Kept s) (sent : List EslCommand) : Kept { s with sent := sent } :=
  ⟨kept.timers, kept.limit, kept.taps, kept.playbackTaps, kept.ptt⟩

theorem erase_own {taps : List Tap} (once : taps.count .own ≤ 1) :
    (taps.erase .own).count .own = 0 := by
  rw [List.count_erase_self]
  omega

theorem registerTap_own {taps : List Tap} (none : taps.count .own = 0) :
    (registerTap taps .own).count .own = 1 ↔ taps.length < maxTaps := by
  rw [registerTap]
  split
  next full => simp [none, Nat.not_lt.mpr full]
  next room => simp [none, Nat.not_le.mp room]

theorem registerTap_le {taps : List Tap} (none : taps.count .own = 0) :
    (registerTap taps .own).count .own ≤ 1 := by
  rw [registerTap]
  split <;> simp [none]

theorem registerTap_foreign (taps : List Tap) (n : Nat) :
    (registerTap taps (.foreign n)).count .own = taps.count .own := by
  rw [registerTap]
  split <;> simp

theorem erase_foreign (taps : List Tap) (n : Nat) :
    (taps.erase (.foreign n)).count .own = taps.count .own :=
  List.count_erase_of_ne (by simp)

theorem teardown_sound (kept : Kept s) : Sound (callTeardown s) := by
  -- A teardown leaves nothing, whatever was there.
  have noCall := kept.timers.cancel .call (by decide)
  have noDial := noCall.cancel .dial (by decide)
  have none := noDial.cancel .inactivity (by decide)
  have noTaps := erase_own kept.taps
  have noPlayback := erase_own kept.playbackTaps
  have released : (if s.voxPttHeld then s.pttRequests - 1 else s.pttRequests) = 0 := by
    rw [kept.ptt]
    split <;> rfl
  constructor
  · exact
      { timers := fun callback own => by cases callback <;> exact none _ own
        limit := kept.limit
        taps := by simp [callTeardown, noTaps]
        playbackTaps := by simp [callTeardown, noPlayback]
        ptt := by simp [callTeardown, released] }
  · simp only [holdings, callTeardown, noTaps, noPlayback]
    rfl

theorem killed_sound (kept : Kept s) (env : Env) : Sound (callTeardown (killCall env s)) := by
  obtain ⟨sent, same⟩ := killCall_same env s
  rw [same]
  exact teardown_sound (kept.of_sent sent)

theorem hangup_sound (sound : Sound s) (env : Env) : Sound (autopatchHangup env s) := by
  rw [autopatchHangup]
  split
  next => exact sound
  next => exact killed_sound sound.kept env

theorem ended_sound (sound : Sound s) : Sound (if s.callState = .idle then s else callTeardown s) := by
  split
  next => exact sound
  next => exact teardown_sound sound.kept

theorem settled {resources : Prop} (granted : Consistent s → resources)
    (fine : resources → Sound s) :
    (Consistent s ↔ resources) ∧ (Consistent s → Sound s) :=
  ⟨⟨granted, fun given => (fine given).consistent⟩, fun consistent => fine (granted consistent)⟩

theorem unasked (sound : Sound s) : (Consistent s ↔ True) ∧ (Consistent s → Sound s) :=
  ⟨iff_of_true sound.consistent trivial, fun _ => sound⟩

/-! ## A call is dialled -/

theorem mayDial_idle {digits : Text} (may : mayDial s digits = true) : s.callState = .idle := by
  simp only [mayDial, decide_eq_true_eq] at may
  exact may.2.1

theorem dial_consistent (sound : Sound s) (env : Env) (digits : Text) :
    (Consistent (autopatchDial env s digits) ↔
      (mayDial s digits = true →
        goesOut env s (.originate (originateCommand s.settings digits)) = true →
        0 < s.settings.dialTimeoutMs ∧ s.timers.HasRoom)) ∧
      (Consistent (autopatchDial env s digits) → Sound (autopatchDial env s digits)) := by
  rw [autopatchDial]
  by_cases may : mayDial s digits = true
  next =>
    have idle := mayDial_idle may
    obtain ⟨kept, held⟩ := sound
    rw [idle] at held
    obtain ⟨bare, none⟩ := bare_of_holdings held
    have none := Option.isNone_iff_eq_none.mp (Option.isSome_eq_false_iff.mp none)
    have same (command : EslCommand) :
        goesOut env { s with callDigits := digits.take 31, callUuid := [] } command =
          goesOut env s command := rfl
    simp only [may, if_true, same, true_implies]
    by_cases out : goesOut env s (.originate (originateCommand s.settings digits)) = true
    next =>
      simp only [out, if_true, true_implies]
      have made : (s.timers.create s.settings.dialTimeoutMs false .dial).1 ≠ Option.none ↔
          0 < s.settings.dialTimeoutMs ∧ s.timers.HasRoom := by
        simp [TimerTable.create_fst]
      have timers := kept.timers.create .dial none s.settings.dialTimeoutMs
      obtain ⟨sent, sends⟩ := eslSend_same env
        { s with callDigits := digits.take 31, callUuid := [] }
        (.originate (originateCommand s.settings digits))
      rw [sends]
      apply settled
      · intro consistent
        have owned := timers .dial (by decide)
        exact made.mp ((TimerTable.owns_pending owned).mp (consistent.dialing (.inl rfl)))
      · intro granted
        exact
          { kept :=
              { timers := fun callback own => by cases callback <;> exact timers _ own
                limit := kept.limit
                taps := kept.taps
                playbackTaps := kept.playbackTaps
                ptt := kept.ptt }
            holds := by
              have running := Option.isSome_iff_ne_none.mpr (made.mpr granted)
              simp only [holdings, bare.udpRx, bare.udpTx, bare.taps, bare.playbackTaps,
                bare.active, bare.held, bare.call, bare.inactivity, running]
              rfl }
    next =>
      have still : Sound { s with callDigits := digits.take 31, callUuid := [] } :=
        { kept := ⟨kept.timers, kept.limit, kept.taps, kept.playbackTaps, kept.ptt⟩
          holds := by
            simp only [holdings, bare.udpRx, bare.udpTx, bare.taps, bare.playbackTaps, bare.active,
              bare.held, bare.call, bare.inactivity, none, idle]
            rfl }
      simp only [out, if_false, Bool.false_eq_true, false_implies]
      exact unasked still
  next =>
    simp only [may, if_false, Bool.false_eq_true, false_implies]
    exact unasked sound

/-! ## A call is answered -/

theorem Sound.dialled (sound : Sound s) {uuid : Text} (adopted : adopts s uuid = true) :
    holdings s = bare true := by
  have held := sound.holds
  simp only [adopts, decide_eq_true_eq] at adopted
  rcases adopted.1 with now | now
  · rwa [now] at held
  · rwa [now] at held

theorem setup_consistent (kept : Kept s) (dialled : holdings s = bare true) {env : Env}
    (opens : env.udpOpens = true) (uuid : Text) {after : State}
    (setUp : callSetupAudio env { s with callUuid := uuid, callState := .connected } = after) :
    (Consistent after ↔ 0 < s.settings.inactivityMs ∧ s.timers.HasRoom ∧
      s.taps.length < maxTaps ∧ s.playbackTaps.length < maxTaps) ∧
      (Consistent after → Sound after) := by
  -- The ports are open: what the call still needs is its timers and taps.
  obtain ⟨bare, running⟩ := bare_of_holdings dialled
  have running := Option.isSome_iff_ne_none.mp running
  obtain ⟨sent, sends⟩ := eslSend_same env
    { s with callUuid := uuid, callState := .connected, udpRx := true, udpTx := true }
    (.unicast uuid s.settings.fsHost s.settings.udpBasePort)
  simp only [callSetupAudio, opens, if_true, sends] at setUp
  have duration : 0 < s.settings.maxCallSecs * 1000 := by
    have := kept.limit
    omega
  -- The dial timer gives its place to the call's; the limit on inactivity needs one more.
  have noDial : (s.timers.cancelIf s.dialTimer).OwnsEach Own
      (Function.update (handles s) .dial none) :=
    kept.timers.cancel .dial (by decide)
  have room := TimerTable.cancel_hasRoom kept.dial (.inl running)
  have left : ((s.timers.cancelIf s.dialTimer).create (s.settings.maxCallSecs * 1000) false
      .call).2.HasRoom ↔ s.timers.HasRoom :=
    TimerTable.create_hasRoom kept.dial running duration false
  generalize s.timers.cancelIf s.dialTimer = timers at noDial room left setUp
  have called := noDial.create .call bare.call (s.settings.maxCallSecs * 1000)
  have callMade : (timers.create (s.settings.maxCallSecs * 1000) false .call).1 ≠ none := by
    simp [TimerTable.create_fst, duration, room]
  generalize timers.create (s.settings.maxCallSecs * 1000) false .call = first at *
  have limited := called.create .inactivity bare.inactivity s.settings.inactivityMs
  have made : (first.2.create s.settings.inactivityMs false .inactivity).1 ≠ none ↔
      0 < s.settings.inactivityMs ∧ s.timers.HasRoom := by
    simp [TimerTable.create_fst, left]
  generalize first.2.create s.settings.inactivityMs false .inactivity = second at *
  have taps := registerTap_own bare.taps
  have playbackTaps := registerTap_own bare.playbackTaps
  subst setUp
  apply settled
  · intro consistent
    have equipped := consistent.connected rfl
    have owned := limited .inactivity (by decide)
    obtain ⟨positive, free⟩ := made.mp ((TimerTable.owns_pending owned).mp equipped.inactivity)
    exact ⟨positive, free, taps.mp equipped.taps, playbackTaps.mp equipped.playbackTaps⟩
  · rintro ⟨positive, free, tapRoom, playbackRoom⟩
    exact
      { kept :=
          { timers := fun callback own => by cases callback <;> exact limited _ own
            limit := kept.limit
            taps := registerTap_le bare.taps
            playbackTaps := registerTap_le bare.playbackTaps
            ptt := by simp [kept.ptt, bare.held] }
        holds := by
          have running := Option.isSome_iff_ne_none.mpr callMade
          have counting := Option.isSome_iff_ne_none.mpr (made.mpr ⟨positive, free⟩)
          simp only [holdings, taps.mpr tapRoom, playbackTaps.mpr playbackRoom, running, counting]
          rfl }

theorem answer_consistent (sound : Sound s) (env : Env) (uuid : Text) :
    (Consistent (onAnswer env s uuid) ↔ (adopts s uuid = true → env.udpOpens = true →
      0 < s.settings.inactivityMs ∧ s.timers.HasRoom ∧ s.taps.length < maxTaps ∧
        s.playbackTaps.length < maxTaps)) ∧
      (Consistent (onAnswer env s uuid) → Sound (onAnswer env s uuid)) := by
  rw [onAnswer]
  by_cases adopted : adopts s uuid = true
  next =>
    have dialled := sound.dialled adopted
    have unknown := (bare_of_holdings dialled).1.uuid
    simp only [adopted, if_true, true_implies, unknown]
    cases opens : env.udpOpens with
    | false =>
        have hung := killed_sound (s := { s with callUuid := uuid, callState := .connected })
          ⟨sound.kept.timers, sound.kept.limit, sound.kept.taps, sound.kept.playbackTaps,
            sound.kept.ptt⟩ env
        simp only [callSetupAudio, opens, autopatchHangup, reduceCtorEq, if_false,
          Bool.false_eq_true, false_implies]
        exact unasked hung
    | true =>
        simp only [true_implies]
        exact setup_consistent sound.kept dialled opens uuid rfl
  next =>
    simp only [adopted, if_false, Bool.false_eq_true, false_implies]
    exact unasked sound

/-! ## The other handlers -/

theorem Sound.retimed (sound : Sound s) {timers : TimerTable Callback}
    (owned : timers.OwnsEach Own (handles s)) : Sound { s with timers := timers } where
  -- Where the timers are still those of the module's handles, nothing else of them matters.
  kept := ⟨owned, sound.kept.limit, sound.kept.taps, sound.kept.playbackTaps, sound.kept.ptt⟩
  holds := sound.holds

theorem Sound.of_kept {after : State} (sound : Sound s) (kept : Kept s → Kept after)
    (state : after.callState = s.callState) (same : holdings after = holdings s) : Sound after where
  kept := kept sound.kept
  holds := by
    have held := congrArg Holdings.held same
    have uuid := congrArg Holdings.uuid same
    simp only [holdings] at held uuid
    rw [same, sound.holds, state]
    cases s.callState <;> simp only [Freeswitch.holds, held, uuid]

theorem Sound.of_sent (sound : Sound s) (sent : List EslCommand) : Sound { s with sent := sent } :=
  sound.of_kept (fun kept => kept.of_sent sent) rfl rfl

theorem Kept.of_esl (kept : Kept s) (opened authed loaded : Bool) :
    Kept { s with eslOpen := opened, eslAuthed := authed, loaded := loaded } :=
  ⟨kept.timers, kept.limit, kept.taps, kept.playbackTaps, kept.ptt⟩

theorem Sound.of_esl (sound : Sound s) (opened authed loaded : Bool) :
    Sound { s with eslOpen := opened, eslAuthed := authed, loaded := loaded } :=
  sound.of_kept (fun kept => kept.of_esl opened authed loaded) rfl rfl

theorem Sound.of_cor (sound : Sound s) (active : Bool) : Sound { s with corActive := active } :=
  sound.of_kept (fun kept => ⟨kept.timers, kept.limit, kept.taps, kept.playbackTaps, kept.ptt⟩) rfl rfl

theorem send_sound (sound : Sound s) (env : Env) (command : EslCommand) :
    Sound (eslSend env s command) := by
  obtain ⟨sent, same⟩ := eslSend_same env s command
  rw [same]
  exact sound.of_sent sent

theorem event_sound (sound : Sound s) (env : Env) {event : EslEvent}
    (other : ∀ uuid, event ≠ .answer uuid) : Sound (handleEvent env s event) := by
  cases event with
  | authRequest => exact send_sound sound env _
  | accepted =>
      rw [handleEvent]
      split
      next => exact sound
      next => exact send_sound (sound.of_esl s.eslOpen true s.loaded) env _
  | answer uuid => exact absurd rfl (other uuid)
  | progress =>
      rw [handleEvent]
      split
      next dialing =>
        obtain ⟨kept, held⟩ := sound
        rw [dialing] at held
        exact
          { kept := ⟨kept.timers, kept.limit, kept.taps, kept.playbackTaps, kept.ptt⟩
            holds := held }
      next => exact sound
  | hangup uuid =>
      rw [handleEvent]
      split
      next => exact teardown_sound sound.kept
      next => exact sound
  | other => exact sound

theorem Sound.connected (sound : Sound s) (active : s.callActive = true) :
    s.callState = .connected := by
  have same := congrArg Holdings.active sound.holds
  simp only [holdings, active] at same
  cases now : s.callState with
  | connected => rfl
  | idle => rw [now] at same; cases same
  | dialing => rw [now] at same; cases same
  | ringing => rw [now] at same; cases same

theorem cor_consistent (sound : Sound s) :
    (Consistent (onCorAssert s) ↔
      (s.callActive = true → s.inactivityTimer ≠ none → 0 < s.settings.inactivityMs)) ∧
      (Consistent (onCorAssert s) → Sound (onCorAssert s)) := by
  by_cases active : s.callActive = true ∧ s.inactivityTimer ≠ none
  next =>
    have connected := sound.connected active.1
    obtain ⟨kept, held⟩ := sound
    rw [onCorAssert, if_pos active]
    -- The cancelled timer leaves room for the next one.
    have room := TimerTable.cancel_hasRoom kept.inactivity (.inl active.2)
    have stopped : (s.timers.cancelIf s.inactivityTimer).OwnsEach Own
        (Function.update (handles s) .inactivity none) :=
      kept.timers.cancel .inactivity (by decide)
    generalize s.timers.cancelIf s.inactivityTimer = timers at room stopped
    have again := stopped.create .inactivity rfl s.settings.inactivityMs
    have made : (timers.create s.settings.inactivityMs false .inactivity).1 ≠ Option.none ↔
        0 < s.settings.inactivityMs := by
      simp [TimerTable.create_fst, room]
    generalize timers.create s.settings.inactivityMs false .inactivity = result at *
    apply settled
    · intro consistent _ _
      have owned := again .inactivity (by decide)
      exact made.mp ((TimerTable.owns_pending owned).mp (consistent.connected connected).inactivity)
    · intro positive
      have running := Option.isSome_iff_ne_none.mpr (made.mpr (positive active.1 active.2))
      have before := Option.isSome_iff_ne_none.mpr active.2
      exact
        { kept :=
            { timers := fun callback own => by cases callback <;> exact again _ own
              limit := kept.limit
              taps := kept.taps
              playbackTaps := kept.playbackTaps
              ptt := kept.ptt }
          holds := by
            rw [holdings, before] at held
            rw [holdings, running]
            exact held }
  next =>
    have free : s.callActive = true → s.inactivityTimer ≠ none → 0 < s.settings.inactivityMs :=
      fun first second => absurd ⟨first, second⟩ active
    rw [onCorAssert, if_neg active]
    have still := sound.of_cor true
    exact ⟨iff_of_true still.consistent free, fun _ => still⟩

theorem vox_sound (sound : Sound s) (speaking : Bool) : Sound (voxProcess s speaking) := by
  have ptt := sound.kept.ptt
  have changed (active : s.callActive = true) (pressed : Bool) : Sound
      { s with pttRequests := if pressed then 1 else 0, voxPttHeld := pressed } := by
    have connected := sound.connected active
    obtain ⟨kept, held⟩ := sound
    rw [connected] at held
    have same := congrArg (fun h : Holdings => { h with held := pressed }) held
    exact
      { kept := ⟨kept.timers, kept.limit, kept.taps, kept.playbackTaps, rfl⟩
        holds := by
          simp only [connected]
          exact same }
  rw [voxProcess]
  split
  next live =>
    cases speaking with
    | true =>
        cases pressed : s.voxPttHeld with
        | true => simpa [pressed] using sound
        | false => simpa [ptt, pressed] using changed live.1 true
    | false =>
        cases pressed : s.voxPttHeld with
        | true => simpa [ptt, pressed] using changed live.1 false
        | false => simpa [pressed] using sound
  next => exact sound

/-! ## Timers that run out -/

theorem visit_sound (sound : Sound s) (env : Env) (i : Slot) : Sound (visit env s i) := by
  obtain ⟨timers, limit, taps, playbackTaps, ptt⟩ := sound.kept
  rw [visit]
  cases found : s.timers.due i with
  | none => exact sound.retimed (timers.visit_idle found)
  | some e =>
      simp only [Option.map_some]
      have passed := timers.visit found
      cases mine : e.callback with
      | call =>
          rw [mine] at passed
          exact killed_sound (s := { s with timers := s.timers.visit i, callTimer := none })
            ⟨fun callback own => by cases callback <;> exact passed _ own, limit, taps,
              playbackTaps, ptt⟩ env
      | dial =>
          rw [mine] at passed
          exact killed_sound (s := { s with timers := s.timers.visit i, dialTimer := none })
            ⟨fun callback own => by cases callback <;> exact passed _ own, limit, taps,
              playbackTaps, ptt⟩ env
      | inactivity =>
          have running := (TimerTable.due_owned (mine ▸ sound.kept.inactivity) found).2
          rw [mine] at passed
          -- Only a connected call has this timer.
          have busy : s.callState ≠ .idle := by
            intro idle
            have held := sound.holds
            rw [idle] at held
            rw [(bare_of_holdings held).1.inactivity] at running
            cases running
          simp only [onInactivityTimeout, autopatchHangup, busy, if_false]
          exact killed_sound (s := { s with timers := s.timers.visit i, inactivityTimer := none })
            ⟨fun callback own => by cases callback <;> exact passed _ own, limit, taps,
              playbackTaps, ptt⟩ env
      | foreign =>
          rw [mine] at passed
          exact sound.retimed fun callback own => by cases callback <;> exact passed _ own

/-! ## Every step -/

theorem Sound.retapped (sound : Sound s) {taps playbackTaps : List Tap}
    (same : taps.count .own = s.taps.count .own)
    (samePlayback : playbackTaps.count .own = s.playbackTaps.count .own) :
    Sound { s with taps := taps, playbackTaps := playbackTaps } :=
  sound.of_kept (fun kept => ⟨kept.timers, kept.limit, same ▸ kept.taps,
    samePlayback ▸ kept.playbackTaps, kept.ptt⟩) rfl (by simp only [holdings, same, samePlayback])

theorem Sound.reset (sound : Sound s) (settings : Settings) (loaded corActive : Bool) : Sound
    { s with settings := settings.clamped, loaded := loaded, corActive := corActive } :=
  sound.of_kept (fun kept =>
    { timers := kept.timers
      limit := by
        simp only [Settings.clamped]
        omega
      taps := kept.taps
      playbackTaps := kept.playbackTaps
      ptt := kept.ptt }) rfl rfl

theorem handle_consistent (sound : Sound s) (env : Env) (action : Action) (loaded : s.loaded = true) :
    (Consistent (handle env s action) ↔ Resourced s (env, action)) ∧
      (Consistent (handle env s action) → Sound (handle env s action)) := by
  have free (kept : Sound (handle env s action)) (always : Resourced s (env, action)) :
      (Consistent (handle env s action) ↔ Resourced s (env, action)) ∧
        (Consistent (handle env s action) → Sound (handle env s action)) :=
    ⟨iff_of_true kept.consistent always, fun _ => kept⟩
  cases action with
  | autopatch arg =>
      by_cases empty : arg = []
      next =>
        refine free ?_ fun _ some => absurd empty some
        rw [handle, if_pos empty]
        exact hangup_sound sound env
      next =>
        have dialled := dial_consistent sound env arg
        simpa [handle, Resourced, empty, loaded] using dialled
  | dial digits =>
      have dialled := dial_consistent sound env digits
      simpa [handle, Resourced, loaded] using dialled
  | hangup => exact free (hangup_sound sound env) trivial
  | eslOpened =>
      refine free ?_ trivial
      simp only [handle]
      split
      next => exact sound.of_esl true false s.loaded
      next => exact sound
  | block text =>
      by_cases delivered : s.settings.enabled = true ∧ s.eslOpen = true
      next =>
        simp only [handle, delivered, and_self, if_true]
        by_cases answers : ∃ uuid, eslEvent text = .answer uuid
        next =>
          obtain ⟨uuid, answer⟩ := answers
          have answered := answer_consistent sound env uuid
          simpa [Resourced, answer, loaded, delivered, handleEvent] using answered
        next =>
          have still := event_sound sound env fun uuid same => answers ⟨uuid, same⟩
          refine ⟨iff_of_true still.consistent ?_, fun _ => still⟩
          intro uuid _ _ _ answer
          exact absurd ⟨uuid, answer⟩ answers
      next =>
        refine free ?_ fun uuid _ enabled opened => absurd ⟨enabled, opened⟩ delivered
        rw [handle, if_neg delivered]
        exact sound
  | eslLost =>
      refine free ?_ trivial
      simp only [handle]
      split
      next => exact ended_sound (sound.of_esl false false s.loaded)
      next => exact sound
  | frame speaking =>
      refine free ?_ trivial
      simp only [handle]
      split
      next => exact vox_sound sound speaking
      next => exact sound
  | corAssert =>
      have asserted := cor_consistent sound
      simpa [handle, Resourced, loaded] using asserted
  | corDrop => exact free (sound.of_cor false) trivial
  | shutdown =>
      refine free ?_ trivial
      simp only [handle, onShutdown]
      split
      next => exact sound
      next => exact hangup_sound sound env
  | configure settings => exact free (sound.reset settings s.loaded s.corActive) trivial
  | unload => exact free ((ended_sound sound).of_esl false false false) trivial
  | load settings => exact free sound trivial
  | elapse us => exact free sound trivial
  | tick => exact free sound trivial
  | visit i => exact free sound trivial
  | timerSet ms repeats => exact free sound trivial
  | timerCancelled timerId => exact free sound trivial
  | tapAdded playback n => exact free sound trivial
  | tapRemoved playback n => exact free sound trivial

theorem step_consistent (sound : Sound s) (input : Input) :
    (Consistent (step s input) ↔ Resourced s input) ∧
      (Consistent (step s input) → Sound (step s input)) := by
  have free (kept : Sound (step s input)) (always : Resourced s input) :
      (Consistent (step s input) ↔ Resourced s input) ∧
        (Consistent (step s input) → Sound (step s input)) :=
    ⟨iff_of_true kept.consistent always, fun _ => kept⟩
  obtain ⟨env, action⟩ := input
  -- An unloaded module gets nothing.
  have delivered (handled : step s (env, action) = if s.loaded then handle env s action else s) :
      (Consistent (step s (env, action)) ↔ Resourced s (env, action)) ∧
        (Consistent (step s (env, action)) → Sound (step s (env, action))) := by
    by_cases loaded : s.loaded = true
    next =>
      rw [handled, if_pos loaded]
      exact handle_consistent sound env action loaded
    next =>
      have nothing : Resourced s (env, action) := by
        cases action <;> simp [Resourced, loaded]
      rw [handled, if_neg loaded]
      exact ⟨iff_of_true sound.consistent nothing, fun _ => sound⟩
  cases action with
  | load settings =>
      refine free ?_ trivial
      simp only [step]
      split
      next => exact sound
      next => exact sound.reset settings true false
  | elapse us => exact free (sound.retimed sound.kept.timers) trivial
  | tick => exact free (sound.retimed sound.kept.timers) trivial
  | visit i => exact free (visit_sound sound env i) trivial
  | timerSet ms repeats =>
      exact free (sound.retimed (sound.kept.timers.create_other (by decide) ms repeats)) trivial
  | timerCancelled timerId =>
      refine free (sound.retimed (sound.kept.timers.drop ?_)) trivial
      intro e own
      simp [own]
  | tapAdded playback n =>
      refine free ?_ trivial
      cases playback with
      | true => exact sound.retapped rfl (registerTap_foreign _ n)
      | false => exact sound.retapped (registerTap_foreign _ n) rfl
  | tapRemoved playback n =>
      refine free ?_ trivial
      cases playback with
      | true => exact sound.retapped rfl (erase_foreign _ n)
      | false => exact sound.retapped (erase_foreign _ n) rfl
  | _ => exact delivered rfl

/-- The call state tells what the module holds along every run if and only if each dialled and each
answered call gets its timers and taps. -/
theorem consistent_iff_resourced (settings : Settings) (inputs : List Input) :
    Machine.Guarded step (fun s input => Consistent (step s input)) (init settings) inputs ↔
      Machine.Guarded step Resourced (init settings) inputs :=
  Machine.guarded_iff_of_invariant step (P := Sound)
    (fun _ input sound => (step_consistent sound input).1)
    (fun _ input sound resourced =>
      (step_consistent sound input).2 ((step_consistent sound input).1.mpr resourced))
    (init_sound settings)

/-! ## A limit of 0 is no timer -/

def gateway (dialTimeoutMs inactivityMs : Int) : Settings where
  enabled := true
  adminOnly := false
  fsHost := "127.0.0.1".toList
  eslPassword := "ClueCon".toList
  sipGateway := "trunk".toList
  dialPrefix := []
  dialWhitelist := []
  udpBasePort := 16000
  maxCallSecs := 180
  dialTimeoutMs := dialTimeoutMs
  inactivityMs := inactivityMs

def working : Env where
  sends _ := true
  udpOpens := true

def accepted : Text := "Content-Type: command/reply\nReply-Text: +OK accepted".toList

theorem dial_without_timer :
    ¬ Machine.Guarded step (fun s input => Consistent (step s input)) (init (gateway 0 60000))
      [(working, .eslOpened), (working, .block accepted), (working, .dial "5551234".toList)] := by
  intro guarded
  have opened := (step_consistent (init_sound _) _).2 guarded.1
  have authed := (step_consistent opened _).2 guarded.2.1
  have resourced := (step_consistent authed _).1.mp guarded.2.2.1
  have positive := (resourced (by decide) (by decide) (by decide)).1
  exact absurd positive (by decide)

end Kerchunk.Freeswitch
