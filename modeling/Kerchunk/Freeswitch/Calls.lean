import Kerchunk.Freeswitch.CallState

set_option autoImplicit false

/-!
# What becomes of the calls

FreeSWITCH puts each originate on a channel of its own, and the module learns the channel's UUID
from the answer. The record beside the state says which calls a run leaves behind.
-/

namespace Kerchunk.Freeswitch

open Kerchunk.Config (Text)

structure Channels where
  uuidOf : Nat → Text
  named : ∀ k, uuidOf k ≠ []

def isOriginate : EslCommand → Bool
  | .originate _ => true
  | _ => false

def originates (s : State) : Nat :=
  s.sent.countP isOriginate

def currentCall (s : State) : Nat :=
  -- The last call dialled.
  originates s - 1

def received (s : State) (input : Input) : Option EslEvent :=
  match input.2 with
  | .block text =>
    if s.loaded ∧ s.settings.enabled ∧ s.eslOpen then some (eslEvent text) else none
  | _ => none

def answerIn (s : State) (input : Input) : Option Text :=
  match received s input with
  | some (.answer uuid) => some uuid
  | _ => none

def hangupIn (s : State) (input : Input) : Option Text :=
  match received s input with
  | some (.hangup uuid) => some uuid
  | _ => none

def fromOutside (s : State) (input : Input) : Bool :=
  -- The call is ended for the module, by the far end or with the ESL link.
  match input.2 with
  | .eslLost => true
  | .block _ => (hangupIn s input).isSome
  | _ => false

/-- `answered` and `hungUp` are the channels of the events so far, `abandoned` the calls that ended
without their channel's hang-up, `left` those of them that a local action ended, and `adopted` the
calls taken for answered, with the channel that answered. -/
structure Calls where
  state : State
  answered : List Text
  hungUp : List Text
  abandoned : List Nat
  left : List Nat
  adopted : List (Nat × Text)

def opening (settings : Settings) : Calls where
  state := init settings
  answered := []
  hungUp := []
  abandoned := []
  left := []
  adopted := []

def record (c : Channels) (w : Calls) (input : Input) : Calls :=
  let after := step w.state input
  let call := currentCall w.state
  let hungUp := (hangupIn w.state input).toList ++ w.hungUp
  let ends := w.state.callState ≠ .idle ∧ after.callState = .idle ∧
    hungUp.contains (c.uuidOf call) = false
  { state := after
    answered := (answerIn w.state input).toList ++ w.answered
    hungUp := hungUp
    abandoned := if ends then call :: w.abandoned else w.abandoned
    left := if ends ∧ fromOutside w.state input = false then call :: w.left else w.left
    adopted :=
      (((answerIn w.state input).filter (adopts w.state)).map (call, ·)).toList ++ w.adopted }

/-- No call is left to itself once its channel is known, and none takes an abandoned one's answer
for its own. -/
structure Faithful (c : Channels) (w : Calls) : Prop where
  killed : ∀ k ∈ w.left, c.uuidOf k ∈ w.answered →
    c.uuidOf k ∈ w.hungUp ∨ .uuidKill (c.uuidOf k) ∈ w.state.sent
  own : ∀ n uuid, (n, uuid) ∈ w.adopted → ∀ k ∈ w.abandoned, k < n → uuid ≠ c.uuidOf k

/-! ## What a local action does to a call -/

def endsCall (s : State) (input : Input) : Bool :=
  -- Whether the input is a local action that ends the module's call.
  match input.2 with
  | .autopatch arg => s.loaded && arg.isEmpty
  | .hangup | .shutdown | .unload => s.loaded
  | .visit i => (s.timers.due i).any fun e => e.callback ≠ .foreign
  | .block _ => (answerIn s input).any (adopts s) && ! input.1.udpOpens
  | _ => false

def givesUp (s : State) (input : Input) : Bool :=
  s.callState ≠ .idle && endsCall s input

def killTarget (s : State) (input : Input) : Text :=
  -- The channel it asks FreeSWITCH to kill, if any.
  match input.2 with
  | .unload => []
  | .block _ => if s.callUuid = [] then (answerIn s input).getD [] else s.callUuid
  | _ => s.callUuid

/-- A late answer is no answer to a call left without a kill or to one that comes after an abandoned
one, and a call whose channel has answered is given up by its own UUID and with the kill going out. -/
structure Careful (c : Channels) (w : Calls) (input : Input) : Prop where
  timely : ∀ uuid, answerIn w.state input = some uuid → ∀ k ∈ w.left, uuid = c.uuidOf k →
    uuid ∈ w.hungUp ∨ .uuidKill uuid ∈ w.state.sent
  own : ∀ uuid, answerIn w.state input = some uuid → adopts w.state uuid = true →
    ∀ k ∈ w.abandoned, uuid ≠ c.uuidOf k
  killed : givesUp w.state input = true → ∀ uuid, uuid = c.uuidOf (currentCall w.state) →
    answerIn w.state input = some uuid ∨ uuid ∈ w.answered →
    uuid ∈ w.hungUp ∨ .uuidKill uuid ∈ w.state.sent ∨
      killTarget w.state input = uuid ∧ goesOut input.1 w.state (.uuidKill uuid) = true

/-! ## What a step does -/

variable {s : State}

def Settled (s : State) : Prop :=
  -- Before the answer the module has no UUID.
  s.callState ≠ .connected → s.callUuid = []

def isKill : EslCommand → Bool
  | .uuidKill _ => true
  | _ => false

def Plain (command : EslCommand) : Prop :=
  isOriginate command = false ∧ isKill command = false

def killOf (env : Env) (s : State) (uuid : Text) : List EslCommand :=
  if uuid ≠ [] ∧ goesOut env s (.uuidKill uuid) = true then [.uuidKill uuid] else []

inductive Outcome (s : State) (input : Input) (after : State) : Prop where
  | going (still : givesUp s input = false)
      (idle : after.callState = .idle ↔ s.callState = .idle)
      (settled : Settled after) (new : List EslCommand)
      (sent : after.sent = s.sent ++ new) (plain : ∀ command ∈ new, Plain command)
  | dialled (idle : s.callState = .idle) (busy : after.callState = .dialing)
      (uuid : after.callUuid = []) (command : Text)
      (sent : after.sent = s.sent ++ [.originate command])
  | ended (outside : fromOutside s input = true) (still : givesUp s input = false)
      (idle : after.callState = .idle) (uuid : after.callUuid = [])
      (sent : after.sent = s.sent)
  | left (gone : givesUp s input = true) (inside : fromOutside s input = false)
      (idle : after.callState = .idle) (uuid : after.callUuid = [])
      (sent : after.sent = s.sent ++ killOf input.1 s (killTarget s input))

theorem eslSend_adds (env : Env) (s : State) (command : EslCommand) :
    ∃ new, eslSend env s command = { s with sent := s.sent ++ new } ∧ ∀ c ∈ new, c = command := by
  rw [eslSend]
  split
  next => exact ⟨[command], rfl, by simp⟩
  next => exact ⟨[], by simp, by simp⟩

theorem killCall_sent (env : Env) (s : State) :
    (killCall env s).sent = s.sent ++ killOf env s s.callUuid := by
  rw [killCall, killOf]
  by_cases unknown : s.callUuid = []
  next => simp [unknown]
  next =>
    simp only [eslSend, unknown, if_false]
    split
    next out => simp [out, unknown]
    next silent => simp [silent]

theorem Outcome.unchanged {input : Input} {after : State} (settled : Settled s)
    (still : givesUp s input = false) (state : after.callState = s.callState)
    (uuid : after.callUuid = s.callUuid) (sent : after.sent = s.sent) : Outcome s input after :=
  -- An input that changes nothing of the call.
  .going still (by rw [state]) (by rwa [Settled, state, uuid]) [] (by simp [sent]) (by simp)

theorem dial_outcome (settled : Settled s) (input : Input) (still : givesUp s input = false)
    (digits : Text) : Outcome s input (autopatchDial input.1 s digits) := by
  rw [autopatchDial]
  by_cases may : mayDial s digits = true
  next =>
    have idle := mayDial_idle may
    rw [if_pos may]
    dsimp only
    split
    next out =>
      refine .dialled idle rfl ?_ (originateCommand s.settings digits) ?_
      · obtain ⟨sent, same⟩ := eslSend_same input.1
          { s with callDigits := digits.take 31, callUuid := [] }
          (.originate (originateCommand s.settings digits))
        simp only [same]
      · simp only [eslSend]
        rw [if_pos out]
    next =>
      have unknown := settled (by simp [idle])
      exact .unchanged settled still rfl unknown.symm rfl
  next =>
    rw [if_neg may]
    exact .unchanged settled still rfl rfl rfl

theorem adopts_unknown (settled : Settled s) {uuid : Text} (adopted : adopts s uuid = true) :
    s.callState ≠ .idle ∧ s.callUuid = [] := by
  simp only [adopts, decide_eq_true_eq] at adopted
  rcases adopted.1 with now | now
  · exact ⟨by simp [now], settled (by simp [now])⟩
  · exact ⟨by simp [now], settled (by simp [now])⟩

theorem hungUp_outcome {input : Input} {before : State} (gone : givesUp s input = true)
    (inside : fromOutside s input = false) (sent : before.sent = s.sent)
    (opened : before.eslOpen = s.eslOpen) (target : killTarget s input = before.callUuid) :
    Outcome s input (callTeardown (killCall input.1 before)) := by
  -- A hang-up after the commands of a handler.
  refine .left gone inside rfl rfl ?_
  have same : (callTeardown (killCall input.1 before)).sent = (killCall input.1 before).sent := rfl
  rw [same, killCall_sent, sent, target, killOf, killOf, goesOut, goesOut, opened]

theorem setup_adds {env : Env} (opens : env.udpOpens = true) (s : State) :
    (callSetupAudio env s).callState = s.callState ∧
      ∃ new, (callSetupAudio env s).sent = s.sent ++ new ∧ ∀ command ∈ new, Plain command := by
  obtain ⟨new, adds, only⟩ := eslSend_adds env { s with udpRx := true, udpTx := true }
    (.unicast s.callUuid s.settings.fsHost s.settings.udpBasePort)
  simp only [callSetupAudio, opens, if_true, adds, true_and]
  refine ⟨new, rfl, fun command member => ?_⟩
  rw [only command member]
  exact ⟨rfl, rfl⟩

theorem answer_outcome (settled : Settled s) {env : Env} {text uuid : Text}
    (answer : answerIn s (env, .block text) = some uuid)
    (inside : fromOutside s (env, .block text) = false) :
    Outcome s (env, .block text) (onAnswer env s uuid) := by
  by_cases adopted : adopts s uuid = true
  next =>
    obtain ⟨busy, unknown⟩ := adopts_unknown settled adopted
    rw [onAnswer, if_pos adopted]
    cases opens : env.udpOpens with
    | true =>
        have still : givesUp s (env, .block text) = false := by
          simp [givesUp, endsCall, opens]
        obtain ⟨state, new, sent, plain⟩ := setup_adds opens
          { s with
            callUuid := if s.callUuid = [] then uuid else s.callUuid
            callState := .connected }
        refine .going still ?_ (fun other => absurd state other) new sent plain
        simp [state, busy]
    | false =>
        have gone : givesUp s (env, .block text) = true := by
          simp [givesUp, endsCall, opens, busy, answer, adopted]
        simp only [callSetupAudio, opens, Bool.false_eq_true, if_false, autopatchHangup,
          reduceCtorEq]
        exact hungUp_outcome gone inside rfl rfl (by simp [killTarget, answer])
  next =>
    rw [onAnswer, if_neg adopted]
    exact .unchanged settled (by simp [givesUp, endsCall, answer, adopted]) rfl rfl rfl

theorem send_outcome (settled : Settled s) {input : Input} (still : givesUp s input = false)
    (authed : Bool) {command : EslCommand} (plain : Plain command) :
    Outcome s input (eslSend input.1 { s with eslAuthed := authed } command) := by
  obtain ⟨new, adds, only⟩ := eslSend_adds input.1 { s with eslAuthed := authed } command
  rw [adds]
  exact .going still Iff.rfl settled new rfl fun c member => only c member ▸ plain

theorem hangup_outcome (settled : Settled s) {input : Input} (ends : endsCall s input = true)
    (inside : fromOutside s input = false) (target : killTarget s input = s.callUuid) :
    Outcome s input (autopatchHangup input.1 s) := by
  rw [autopatchHangup]
  by_cases idle : s.callState = .idle
  next =>
    rw [if_pos idle]
    exact .unchanged settled (by simp [givesUp, idle]) rfl rfl rfl
  next =>
    rw [if_neg idle]
    exact hungUp_outcome (by simp [givesUp, ends, idle]) inside rfl rfl target

theorem event_outcome (settled : Settled s) (env : Env) (text : Text)
    (delivered : s.loaded = true ∧ s.settings.enabled = true ∧ s.eslOpen = true) :
    Outcome s (env, .block text) (handleEvent env s (eslEvent text)) := by
  have event : received s (env, .block text) = some (eslEvent text) := by
    simp [received, delivered]
  have quiet (none : answerIn s (env, .block text) = none) : givesUp s (env, .block text) = false := by
    simp [givesUp, endsCall, none]
  cases said : eslEvent text with
  | authRequest =>
      have still := quiet (by simp [answerIn, event, said])
      exact send_outcome settled still s.eslAuthed ⟨rfl, rfl⟩
  | accepted =>
      have still := quiet (by simp [answerIn, event, said])
      rw [handleEvent]
      split
      next => exact .unchanged settled still rfl rfl rfl
      next => exact send_outcome settled still true ⟨rfl, rfl⟩
  | answer uuid =>
      exact answer_outcome settled (by simp [answerIn, event, said])
        (by simp [fromOutside, hangupIn, event, said])
  | progress =>
      have still := quiet (by simp [answerIn, event, said])
      rw [handleEvent]
      split
      next dialing =>
        have unknown := settled (by simp [dialing])
        exact .going still (by simp [dialing]) (fun _ => unknown) [] (by simp) (by simp)
      next => exact .unchanged settled still rfl rfl rfl
  | hangup uuid =>
      have still := quiet (by simp [answerIn, event, said])
      rw [handleEvent]
      split
      next => exact .ended (by simp [fromOutside, hangupIn, event, said]) still rfl rfl rfl
      next => exact .unchanged settled still rfl rfl rfl
  | other => exact .unchanged settled (quiet (by simp [answerIn, event, said])) rfl rfl rfl

theorem visit_outcome (settled : Settled s) (env : Env) (i : Core.Slot) :
    Outcome s (env, .visit i) (visit env s i) := by
  rw [visit]
  cases found : s.timers.due i with
  | none => exact .unchanged settled (by simp [givesUp, endsCall, found]) rfl rfl rfl
  | some e =>
      simp only [Option.map_some]
      have fired (own : e.callback ≠ .foreign) {before : State} (idle : s.callState ≠ .idle)
          (sent : before.sent = s.sent) (opened : before.eslOpen = s.eslOpen)
          (target : s.callUuid = before.callUuid) :
          Outcome s (env, .visit i) (callTeardown (killCall env before)) :=
        hungUp_outcome (by simp [givesUp, endsCall, found, own, idle]) rfl sent opened target
      -- A call's timer that is left over finds nothing to end.
      have stray {before : State} (idle : s.callState = .idle) (sent : before.sent = s.sent)
          (uuid : before.callUuid = s.callUuid) :
          Outcome s (env, .visit i) (callTeardown (killCall env before)) := by
        have unknown := settled (by simp [idle])
        refine .unchanged settled (by simp [givesUp, idle]) idle.symm unknown.symm ?_
        simp [callTeardown, killCall_sent, killOf, sent, uuid, unknown]
      cases mine : e.callback with
      | call =>
          by_cases idle : s.callState = .idle
          next => exact stray idle rfl rfl
          next => exact fired (by simp [mine]) idle rfl rfl rfl
      | dial =>
          by_cases idle : s.callState = .idle
          next => exact stray idle rfl rfl
          next => exact fired (by simp [mine]) idle rfl rfl rfl
      | inactivity =>
          simp only [onInactivityTimeout, autopatchHangup]
          by_cases idle : s.callState = .idle
          next =>
            rw [if_pos idle]
            exact .unchanged settled (by simp [givesUp, idle]) rfl rfl rfl
          next =>
            rw [if_neg idle]
            exact fired (by simp [mine]) idle rfl rfl rfl
      | foreign => exact .unchanged settled (by simp [givesUp, endsCall, found, mine]) rfl rfl rfl

theorem handle_outcome (settled : Settled s) (env : Env) (action : Action) (loaded : s.loaded = true)
    (delivered : step s (env, action) = handle env s action) :
    Outcome s (env, action) (step s (env, action)) := by
  rw [delivered]
  have nothing (still : endsCall s (env, action) = false) {after : State}
      (state : after.callState = s.callState) (uuid : after.callUuid = s.callUuid)
      (sent : after.sent = s.sent) : Outcome s (env, action) after :=
    .unchanged settled (by simp [givesUp, still]) state uuid sent
  cases action with
  | autopatch arg =>
      rw [handle]
      split
      next empty => exact hangup_outcome settled (by simp [endsCall, loaded, empty]) rfl rfl
      next some => exact dial_outcome settled _ (by simp [givesUp, endsCall, some]) arg
  | dial digits => exact dial_outcome settled _ (by simp [givesUp, endsCall]) digits
  | hangup => exact hangup_outcome settled loaded rfl rfl
  | eslOpened =>
      rw [handle]
      split
      next => exact nothing rfl rfl rfl rfl
      next => exact nothing rfl rfl rfl rfl
  | block text =>
      rw [handle]
      split
      next received => exact event_outcome settled env text ⟨loaded, received⟩
      next ignored =>
        refine nothing ?_ rfl rfl rfl
        simp [endsCall, answerIn, received, loaded, ignored]
  | eslLost =>
      rw [handle]
      split
      next =>
        rw [Freeswitch.eslLost]
        dsimp only
        split
        next => exact nothing rfl rfl rfl rfl
        next => exact .ended rfl (by simp [givesUp, endsCall]) rfl rfl rfl
      next => exact nothing rfl rfl rfl rfl
  | frame speaking =>
      rw [handle]
      split
      next =>
        rw [voxProcess]
        repeat' split
        all_goals exact nothing rfl rfl rfl rfl
      next => exact nothing rfl rfl rfl rfl
  | corAssert =>
      rw [handle, onCorAssert]
      split
      next => exact nothing rfl rfl rfl rfl
      next => exact nothing rfl rfl rfl rfl
  | corDrop => exact nothing rfl rfl rfl rfl
  | shutdown =>
      rw [handle, onShutdown]
      split
      next idle => exact .unchanged settled (by simp [givesUp, idle]) rfl rfl rfl
      next => exact hangup_outcome settled loaded rfl rfl
  | configure settings => exact nothing rfl rfl rfl rfl
  | unload =>
      rw [handle, freeswitchUnload]
      split
      next idle => exact .unchanged settled (by simp [givesUp, idle]) rfl rfl rfl
      next busy =>
        exact .left (by simp [givesUp, endsCall, busy, loaded]) rfl rfl rfl
          (by simp [killTarget, killOf, callTeardown])
  | load settings => exact nothing rfl rfl rfl rfl
  | elapse us => exact nothing rfl rfl rfl rfl
  | tick => exact nothing rfl rfl rfl rfl
  | visit i =>
      rw [← delivered]
      exact visit_outcome settled env i
  | timerSet ms repeats => exact nothing rfl rfl rfl rfl
  | timerCancelled timerId => exact nothing rfl rfl rfl rfl
  | tapAdded playback n => exact nothing rfl rfl rfl rfl
  | tapRemoved playback n => exact nothing rfl rfl rfl rfl

theorem step_outcome (settled : Settled s) (input : Input) : Outcome s input (step s input) := by
  obtain ⟨env, action⟩ := input
  have nothing (still : endsCall s (env, action) = false) {after : State}
      (state : after.callState = s.callState) (uuid : after.callUuid = s.callUuid)
      (sent : after.sent = s.sent) : Outcome s (env, action) after :=
    .unchanged settled (by simp [givesUp, still]) state uuid sent
  -- An unloaded module gets nothing.
  have guarded (handled : step s (env, action) = if s.loaded then handle env s action else s)
      (deaf : s.loaded = false → endsCall s (env, action) = false) :
      Outcome s (env, action) (step s (env, action)) := by
    cases loaded : s.loaded with
    | true =>
        rw [loaded] at handled
        exact handle_outcome settled env action loaded handled
    | false =>
        rw [loaded] at handled
        rw [handled]
        exact nothing (deaf loaded) rfl rfl rfl
  cases action with
  | load settings =>
      simp only [step]
      split
      next => exact nothing rfl rfl rfl rfl
      next => exact nothing rfl rfl rfl rfl
  | elapse us => exact nothing rfl rfl rfl rfl
  | tick => exact nothing rfl rfl rfl rfl
  | visit i => exact visit_outcome settled env i
  | timerSet ms repeats => exact nothing rfl rfl rfl rfl
  | timerCancelled timerId => exact nothing rfl rfl rfl rfl
  | tapAdded playback n => cases playback <;> exact nothing rfl rfl rfl rfl
  | tapRemoved playback n => cases playback <;> exact nothing rfl rfl rfl rfl
  | block text =>
      exact guarded rfl fun unloaded => by simp [endsCall, answerIn, received, unloaded]
  | _ => exact guarded rfl fun unloaded => by simp [endsCall, unloaded]

section Outcomes

variable {input : Input} {after : State}

theorem Outcome.settled (outcome : Outcome s input after) : Settled after := by
  cases outcome with
  | going still idle settled new sent plain => exact settled
  | dialled idle busy uuid command sent => exact fun _ => uuid
  | ended outside still idle uuid sent => exact fun _ => uuid
  | left gone inside idle uuid sent => exact fun _ => uuid

theorem Outcome.gone (outcome : Outcome s input after) :
    (s.callState ≠ .idle ∧ after.callState = .idle) ∧ fromOutside s input = false ↔
      givesUp s input = true := by
  cases outcome with
  | going still idle settled new sent plain => simp [still, idle]
  | dialled idle busy uuid command sent => simp [givesUp, idle]
  | ended outside still idle uuid sent => simp [outside, still]
  | left gone inside idle uuid sent =>
      have busy : s.callState ≠ .idle := by
        rw [givesUp, Bool.and_eq_true, decide_eq_true_eq] at gone
        exact gone.1
      simp [gone, inside, idle, busy]

theorem Outcome.kill (outcome : Outcome s input after) {uuid : Text} (named : uuid ≠ []) :
    .uuidKill uuid ∈ after.sent ↔ .uuidKill uuid ∈ s.sent ∨ givesUp s input = true ∧
      killTarget s input = uuid ∧ goesOut input.1 s (.uuidKill uuid) = true := by
  cases outcome with
  | going still idle settled new sent plain =>
      have none : .uuidKill uuid ∉ new := fun member => by
        have := (plain _ member).2
        simp [isKill] at this
      simp [sent, none, still]
  | dialled idle busy unknown command sent => simp [sent, givesUp, idle]
  | ended outside still idle unknown sent => simp [sent, still]
  | left gone inside idle unknown sent =>
      rw [sent, List.mem_append, gone, killOf]
      refine or_congr_right ?_
      split
      next out =>
        simp only [List.mem_singleton, EslCommand.uuidKill.injEq, true_and]
        constructor
        · rintro rfl
          exact ⟨rfl, out.2⟩
        · intro same
          exact same.1.symm
      next silent =>
        simp only [List.not_mem_nil, true_and, false_iff]
        rintro ⟨rfl, out⟩
        exact silent ⟨named, out⟩

theorem originates_append (before after : State) (new : List EslCommand)
    (sent : after.sent = before.sent ++ new) (none : ∀ command ∈ new, isOriginate command = false) :
    originates after = originates before := by
  have zero : new.countP isOriginate = 0 := by
    rw [List.countP_eq_zero]
    intro command member
    simp [none command member]
  rw [originates, sent, List.countP_append, zero, Nat.add_zero, originates]

theorem Outcome.originates (outcome : Outcome s input after) :
    (originates after = originates s ∧ (after.callState ≠ .idle → s.callState ≠ .idle)) ∨
      originates after = originates s + 1 ∧ s.callState = .idle ∧ after.callState ≠ .idle := by
  -- A call is dialled where the module is idle, and at no other time.
  cases outcome with
  | going still idle settled new sent plain =>
      exact .inl ⟨originates_append s after new sent fun command member => (plain command member).1,
        fun busy => mt idle.mpr busy⟩
  | dialled idle busy uuid command sent =>
      right
      refine ⟨?_, idle, by simp [busy]⟩
      rw [Freeswitch.originates, sent, List.countP_append]
      rfl
  | ended outside still idle uuid sent =>
      exact .inl ⟨originates_append s after [] (by simp [sent]) (by simp),
        fun busy => absurd idle busy⟩
  | left gone inside idle uuid sent =>
      refine .inl ⟨originates_append s after _ sent ?_, fun busy => absurd idle busy⟩
      intro command member
      rw [killOf] at member
      split at member
      next => simp_all [isOriginate]
      next => cases member

end Outcomes

/-! ## The record -/

def endedCalls (s : State) : Nat :=
  -- The calls before the one the module has, if it has one.
  if s.callState = .idle then originates s else currentCall s

structure Tidy (w : Calls) : Prop where
  settled : Settled w.state
  dialled : w.state.callState ≠ .idle → 0 < originates w.state
  abandoned : ∀ k ∈ w.abandoned, k < endedCalls w.state
  left : ∀ k ∈ w.left, k ∈ w.abandoned
  adopted : ∀ n uuid, (n, uuid) ∈ w.adopted → n < originates w.state

variable {c : Channels} {w : Calls} {input : Input}

theorem mem_answered (uuid : Text) : uuid ∈ (record c w input).answered ↔
    answerIn w.state input = some uuid ∨ uuid ∈ w.answered := by
  simp [record]

theorem mem_hungUp (uuid : Text) : uuid ∈ (record c w input).hungUp ↔
    hangupIn w.state input = some uuid ∨ uuid ∈ w.hungUp := by
  simp [record]

theorem mem_abandoned (c : Channels) (input : Input) (k : Nat) : k ∈ (record c w input).abandoned ↔
    (k = currentCall w.state ∧ w.state.callState ≠ .idle ∧
      (step w.state input).callState = .idle ∧ c.uuidOf k ∉ (record c w input).hungUp) ∨
      k ∈ w.abandoned := by
  simp only [record, List.contains_eq_mem, decide_eq_false_iff_not]
  split <;> grind

theorem mem_adopted (n : Nat) (uuid : Text) : (n, uuid) ∈ (record c w input).adopted ↔
    (n = currentCall w.state ∧ answerIn w.state input = some uuid ∧ adopts w.state uuid = true) ∨
      (n, uuid) ∈ w.adopted := by
  simp only [record, List.mem_append, Option.mem_toList, Option.map_eq_some_iff,
    Option.filter_eq_some_iff, Prod.mk.injEq]
  grind

theorem hangupIn_inside (inside : fromOutside w.state input = false) :
    hangupIn w.state input = none := by
  obtain ⟨env, action⟩ := input
  cases action with
  | block text => simpa [fromOutside] using inside
  | _ => rfl

theorem hangupIn_answer {uuid : Text} (answer : answerIn w.state input = some uuid) :
    hangupIn w.state input = none := by
  rw [answerIn] at answer
  rw [hangupIn]
  split at answer
  next said => simp [said]
  next => cases answer

theorem mem_left (settled : Settled w.state) (c : Channels) (input : Input) (k : Nat) :
    k ∈ (record c w input).left ↔
    (k = currentCall w.state ∧ givesUp w.state input = true ∧ c.uuidOf k ∉ w.hungUp) ∨
      k ∈ w.left := by
  -- The calls that a local action left are those it gave up.
  have gone := (step_outcome settled input).gone
  by_cases inside : fromOutside w.state input = false
  next =>
    have none := hangupIn_inside inside
    simp only [record, inside, none, Option.toList_none, List.nil_append, List.contains_eq_mem,
      decide_eq_false_iff_not]
    split <;> grind
  next =>
    simp only [record, inside]
    grind

theorem step_endedCalls (tidy : Tidy w) (input : Input) : endedCalls w.state ≤ endedCalls (step w.state input) ∧
    (w.state.callState ≠ .idle → (step w.state input).callState = .idle →
      currentCall w.state < endedCalls (step w.state input)) := by
  have dialled := tidy.dialled
  rcases (step_outcome tidy.settled input).originates with ⟨same, busy⟩ | ⟨more, idle, busy⟩
  · by_cases after : (step w.state input).callState = .idle
    next =>
      have upper : endedCalls w.state ≤ originates w.state := by
        rw [endedCalls, currentCall]
        split <;> omega
      rw [endedCalls.eq_1 (step w.state input), if_pos after, same]
      refine ⟨upper, fun before _ => ?_⟩
      have := dialled before
      rw [currentCall]
      omega
    next =>
      simp only [endedCalls, currentCall, after, busy after, same, if_false, le_refl, true_and]
      exact fun _ impossible => impossible.elim
  · simp [endedCalls, currentCall, more, idle, busy]

theorem record_tidy (c : Channels) (tidy : Tidy w) (input : Input) : Tidy (record c w input) := by
  have outcome := step_outcome tidy.settled input
  obtain ⟨further, past⟩ := step_endedCalls tidy input
  have grows : originates w.state ≤ originates (step w.state input) := by
    rcases outcome.originates with ⟨same, busy⟩ | ⟨more, idle, busy⟩ <;> omega
  constructor
  · exact outcome.settled
  · intro busy
    change 0 < originates (step w.state input)
    rcases outcome.originates with ⟨same, before⟩ | ⟨more, idle, now⟩
    · rw [same]
      exact tidy.dialled (before busy)
    · omega
  · intro k member
    rcases (mem_abandoned c input k).mp member with ⟨rfl, busy, idle, unreported⟩ | earlier
    · exact past busy idle
    · exact (tidy.abandoned k earlier).trans_le further
  · intro k member
    rw [mem_abandoned]
    rcases (mem_left tidy.settled c input k).mp member with ⟨rfl, gone, unreported⟩ | earlier
    · obtain ⟨⟨busy, idle⟩, inside⟩ := outcome.gone.mpr gone
      refine .inl ⟨rfl, busy, idle, ?_⟩
      simpa [mem_hungUp, hangupIn_inside inside] using unreported
    · exact .inr (tidy.left k earlier)
  · intro n uuid member
    change n < originates (step w.state input)
    rcases (mem_adopted n uuid).mp member with ⟨rfl, answer, adopted⟩ | earlier
    · have := tidy.dialled (adopts_unknown tidy.settled adopted).1
      rw [currentCall]
      omega
    · exact (tidy.adopted n uuid earlier).trans_le grows

theorem earlier_call (tidy : Tidy w) {uuid : Text} (adopted : adopts w.state uuid = true) {k : Nat}
    (member : k ∈ w.abandoned) : k < currentCall w.state := by
  have before := tidy.abandoned k member
  rwa [endedCalls, if_neg (adopts_unknown tidy.settled adopted).1] at before

theorem adopts_gone {uuid : Text} (answer : answerIn w.state input = some uuid)
    (gone : givesUp w.state input = true) : adopts w.state uuid = true := by
  -- An answer that ends the call again was taken for the call's own.
  obtain ⟨env, action⟩ := input
  cases action with
  | block text =>
      simp only [givesUp, endsCall, answer, Option.any_some, Bool.and_eq_true] at gone
      exact gone.2.1
  | _ => cases answer

theorem careful_of_faithful (tidy : Tidy w) (after : Faithful c (record c w input)) :
    Careful c w input := by
  have outcome := step_outcome tidy.settled input
  have own : ∀ uuid, answerIn w.state input = some uuid → adopts w.state uuid = true →
      ∀ k ∈ w.abandoned, uuid ≠ c.uuidOf k := by
    intro uuid answer adopted k member
    have taken := (mem_adopted (c := c) _ uuid).mpr (.inl ⟨rfl, answer, adopted⟩)
    have past := (mem_abandoned c input k).mpr (.inr member)
    exact after.own _ uuid taken k past (earlier_call tidy adopted member)
  constructor
  · rintro uuid answer k member rfl
    have past := (mem_left tidy.settled c input k).mpr (.inr member)
    have known := (mem_answered (c := c) (c.uuidOf k)).mpr (.inl answer)
    rcases after.killed k past known with reported | killed
    · left
      simpa [mem_hungUp, hangupIn_answer answer] using reported
    · rcases (outcome.kill (c.named k)).mp killed with before | ⟨gone, target⟩
      · exact .inr before
      · exact absurd rfl (own _ answer (adopts_gone answer gone) k (tidy.left k member))
  · exact own
  · rintro gone uuid rfl known
    by_cases reported : c.uuidOf (currentCall w.state) ∈ w.hungUp
    next => exact .inl reported
    next =>
      have member := (mem_left tidy.settled c input _).mpr
        (.inl ⟨rfl, gone, reported⟩)
      have inside := (outcome.gone.mpr gone).2
      rcases after.killed _ member ((mem_answered _).mpr known) with late | killed
      · simp [mem_hungUp, hangupIn_inside inside, reported] at late
      · rcases (outcome.kill (c.named _)).mp killed with before | ⟨_, target⟩
        · exact .inr (.inl before)
        · exact .inr (.inr target)

theorem faithful_of_careful (tidy : Tidy w) (before : Faithful c w) (careful : Careful c w input) :
    Faithful c (record c w input) := by
  have outcome := step_outcome tidy.settled input
  have still {uuid : Text} (said : uuid ∈ w.hungUp) : uuid ∈ (record c w input).hungUp :=
    (mem_hungUp uuid).mpr (.inr said)
  constructor
  · intro k member known
    have sent := (outcome.kill (c.named k)).mpr
    rcases (mem_left tidy.settled c input k).mp member with ⟨rfl, gone, unreported⟩ | earlier
    · rcases careful.killed gone _ rfl ((mem_answered _).mp known) with reported | killed | out
      · exact absurd reported unreported
      · exact .inr (sent (.inl killed))
      · exact .inr (sent (.inr ⟨gone, out⟩))
    · rcases (mem_answered _).mp known with answer | known
      · exact (careful.timely _ answer k earlier rfl).imp still fun killed => sent (.inl killed)
      · exact (before.killed k earlier known).imp still fun killed => sent (.inl killed)
  · intro n uuid taken k past less
    rcases (mem_abandoned c input k).mp past with ⟨rfl, busy, idle, unreported⟩ | earlier
    · -- No answer was taken for a call after the present one.
      have bound : n ≤ currentCall w.state := by
        rcases (mem_adopted n uuid).mp taken with ⟨rfl, _⟩ | old
        · exact Nat.le_refl _
        · have := tidy.adopted n uuid old
          rw [currentCall]
          omega
      omega
    · rcases (mem_adopted n uuid).mp taken with ⟨rfl, answer, adopted⟩ | old
      · exact careful.own uuid answer adopted k earlier
      · exact before.own n uuid old k earlier less

theorem opening_tidy (settings : Settings) : Tidy (opening settings) where
  settled _ := rfl
  dialled busy := absurd rfl busy
  abandoned _ member := by cases member
  left _ member := by cases member
  adopted _ _ member := by cases member

theorem opening_faithful (settings : Settings) : Faithful c (opening settings) where
  killed _ member := by cases member
  own _ _ member := by cases member

/-- Along every run each call given up is killed once its channel is known and no abandoned call's
answer is taken for a later one's, if and only if every step is careful. -/
theorem faithful_iff_careful (c : Channels) (settings : Settings) (inputs : List Input) :
    Machine.Guarded (record c) (fun w input => Faithful c (record c w input)) (opening settings)
        inputs ↔
      Machine.Guarded (record c) (Careful c) (opening settings) inputs :=
  Machine.guarded_iff_of_invariant (record c) (P := fun w => Tidy w ∧ Faithful c w)
    (fun _ _ holds => ⟨careful_of_faithful holds.1, faithful_of_careful holds.1 holds.2⟩)
    (fun _ input holds careful =>
      ⟨record_tidy c holds.1 input, faithful_of_careful holds.1 holds.2 careful⟩)
    ⟨opening_tidy settings, opening_faithful settings⟩

/-! ## A call given up before it is answered -/

def numbered : Channels where
  uuidOf k := "6c5f2d0e-4b1a-11ef-9d6b-".toList ++ List.replicate 11 '0' ++ Nat.toDigits 10 k
  named k := by simp

def dialAndHangUp : List Input :=
  [(working, .eslOpened), (working, .block accepted), (working, .dial "5551234".toList),
    (working, .hangup)]

def lateAnswer : Input :=
  (working, .block ("Event-Name: CHANNEL_ANSWER\nUnique-ID: ".toList ++ numbered.uuidOf 0))

/-- The answer of a call that was hung up before gets no kill, and after a second dial it is taken
for the second call's. -/
theorem late_answer_unkilled :
    ¬ Machine.Guarded (record numbered)
        (fun w input => Faithful numbered (record numbered w input)) (opening (gateway 30000 60000))
        (dialAndHangUp ++ [lateAnswer]) ∧
      ¬ Machine.Guarded (record numbered)
        (fun w input => Faithful numbered (record numbered w input)) (opening (gateway 30000 60000))
        (dialAndHangUp ++ [(working, .dial "5559876".toList), lateAnswer]) := by
  constructor
  · intro guarded
    have faithful := ((Machine.guarded_append ..).mp guarded).2.1
    have kept := faithful.killed 0 (by decide) (by decide)
    exact absurd kept (by decide)
  · intro guarded
    have faithful := ((Machine.guarded_append ..).mp guarded).2.2.1
    have other := faithful.own 1 (numbered.uuidOf 0) (by decide) 0 (by decide) (by decide)
    exact absurd rfl other

end Kerchunk.Freeswitch
