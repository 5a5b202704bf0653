import Kerchunk.Ai.Model
import Kerchunk.Lib.Machine

set_option autoImplicit false

/-!
# Whose authority a tool runs with (`modules/mod_asr.c`, `modules/mod_ai.c`)

Speech recognition beside the assistant. Who spoke is noted with everything that is recorded; the
modules do not know it. Both modules are enabled.
-/

namespace Kerchunk.Ai

open Kerchunk.Config (Text bounded isspace)

inductive AsrMode where
  | batch
  | streaming
deriving DecidableEq

inductive TriggerMode where
  | wakePhrase
  | dtmf
  | always
deriving DecidableEq

structure Station where
  mode : AsrMode
  trigger : TriggerMode
  wakePhrase : Text
  settings : Settings

def requestQueueSize : Nat := 8

/-- A queued request. `speaker` said what is in the transcript. -/
structure AiRequest where
  transcript : Text
  callerId : Int
  speaker : Int
deriving DecidableEq

/-- A transcript whose announcement waits for the table of conversations. -/
structure Waiting where
  transcript : Text
  callerId : Int
  speaker : Int

/-- Recordings are told by who speaks in them. `spokenByAdmin` says of the current turn whether the
speaker was an admin when it began. -/
structure System where
  capturing : Option Int
  txCapturing : Option Int
  pending : Option Int
  transcribing : Option Int
  waiting : Option Waiting
  currentCallerId : Int
  dtmfArmed : Option Int
  queue : List AiRequest
  taken : Option AiRequest
  ai : Assistant
  spokenByAdmin : Bool
  otpElevated : List Int
  admins : List Int

def booted (env : Station) : System where
  capturing := none
  txCapturing := none
  pending := none
  transcribing := none
  waiting := none
  currentCallerId := 0
  dtmfArmed := none
  queue := []
  taken := none
  ai := load env.settings
  spokenByAdmin := false
  otpElevated := []
  admins := []

def callerIsAdminP (s : System) (callerId : Int) : Bool :=
  decide (0 < callerId) && (s.otpElevated.contains callerId || s.admins.contains callerId)

/-! ## Transcripts -/

def isalnum (c : Char) : Bool :=
  c.isAlphanum

def ispunct (c : Char) : Bool :=
  decide (0x20 < c.toNat) && decide (c.toNat < 0x7f) && !isalnum c

def noiseOnly (inParen inBrack : Nat) : Text → Bool
  | [] => true
  | c :: rest =>
    if c = '(' then noiseOnly (inParen + 1) inBrack rest
    else if c = ')' ∧ 0 < inParen then noiseOnly (inParen - 1) inBrack rest
    else if c = '[' then noiseOnly inParen (inBrack + 1) rest
    else if c = ']' ∧ 0 < inBrack then noiseOnly inParen (inBrack - 1) rest
    else if inParen = 0 ∧ inBrack = 0 ∧ isalnum c then false
    else noiseOnly inParen inBrack rest

def isNoiseOnlyMarker (transcript : Text) : Bool :=
  noiseOnly 0 0 transcript

def stripWakePhrase (wakePhrase transcript : Text) : Option Text :=
  if wakePhrase = [] then none
  else
    let p := transcript.dropWhile isspace
    if (p.take wakePhrase.length).map Char.toLower ≠ wakePhrase.map Char.toLower then none
    else
      let after := p.drop wakePhrase.length
      if after.head?.any fun c => !isspace c && !ispunct c then none
      else some (after.dropWhile fun c => isspace c || ispunct c)

namespace System

variable (env : Station) (s : System)

/-! ## Speech recognition -/

def onCorAssert (speaker : Int) (ready : Bool) : System :=
  -- `ready`: there is memory for the recording, or a connection.
  { s with capturing := if ready then some speaker else none }

def onCorDrop (long : Bool) : System :=
  -- `long`: the recording lasts long enough.
  match s.capturing with
  | none => s
  | some speaker =>
    let s := { s with capturing := none }
    if !long then s
    else
      match env.mode with
      | .batch => { s with pending := some speaker }
      -- The text is waited for in the handler.
      | .streaming => { s with transcribing := some speaker }

def onVcorAssert (userId : Int) (ready : Bool) : System :=
  if s.txCapturing.isSome then s
  else { s with txCapturing := if ready then some userId else none }

def onVcorDrop (long : Bool) : System :=
  match s.txCapturing with
  | none => s
  | some speaker =>
    let s := { s with txCapturing := none }
    if long then { s with pending := some speaker } else s

def takeRecording : System :=
  -- The batch worker takes the recording that is pending.
  if env.mode = .batch ∧ s.transcribing = none ∧ s.waiting.isNone then
    { s with pending := none, transcribing := s.pending }
  else s

/-! ## The assistant's handlers -/

def aiIsBusy : Bool :=
  s.ai.turn.isSome || !s.queue.isEmpty

def enqueueRequest (transcript : Text) (callerId speaker : Int) : System :=
  if s.queue.length ≥ requestQueueSize then s
  else
    { s with queue := s.queue ++
        [{ transcript := bounded maxMessageBytes transcript
           callerId := callerId
           speaker := speaker }] }

def submit (transcript : Text) (callerId speaker : Int) : System :=
  if s.aiIsBusy then s else s.enqueueRequest transcript callerId speaker

def armMatches : Bool :=
  s.dtmfArmed.any fun armed =>
    armed = 0 || (s.currentCallerId ≠ 0 && armed = s.currentCallerId)

def onAnnouncement (transcript : Text) (speaker : Int) : System :=
  if transcript = [] ∨ isNoiseOnlyMarker transcript then s
  else if env.trigger = .always then s.submit transcript s.currentCallerId speaker
  else if s.armMatches then
    { s with dtmfArmed := none }.submit transcript s.currentCallerId speaker
  else
    match stripWakePhrase env.wakePhrase transcript with
    | some [] => s
    | some toSend => s.submit toSend s.currentCallerId speaker
    | none => { s with waiting := some ⟨transcript, s.currentCallerId, speaker⟩ }

def takesUp (transcript : Text) : Bool :=
  -- The announcement queues the transcript at once.
  transcript ≠ [] && !isNoiseOnlyMarker transcript && !s.aiIsBusy &&
    (decide (env.trigger = .always) || s.armMatches ||
      (stripWakePhrase env.wakePhrase transcript).any fun toSend => !toSend.isEmpty)

def transcribed (text : Option Text) : System :=
  -- The text is there; `none` when the recogniser failed.
  match s.transcribing with
  | none => s
  | some speaker =>
    let s := { s with transcribing := none }
    match text with
    | none => s
    | some transcript => s.onAnnouncement env transcript speaker

def hasConversation (callerId : Int) : Bool :=
  s.ai.convs.any fun c => c.callerId = callerId && !c.messages.isEmpty

def continues (now callerId : Int) : Bool :=
  -- The transcript that waits is queued.
  s.ai.turn.isNone && { s with ai := s.ai.cleanup now }.hasConversation callerId && !s.aiIsBusy

def resume (now : Int) : System :=
  -- The rest of the announcement, with the table of conversations locked.
  match s.waiting with
  | none => s
  | some w =>
    if s.ai.turn.isSome then s
    else
      let s := { s with waiting := none, ai := s.ai.cleanup now }
      if s.hasConversation w.callerId then s.submit w.transcript w.callerId w.speaker else s

def onDtmfAi (arg : Text) : System :=
  -- A stop waits for the table of conversations: it comes once the turn is over.
  if arg = [] then { s with dtmfArmed := some s.currentCallerId }
  else if arg = ['0'] ∧ s.ai.turn = none then
    { s with dtmfArmed := none, ai := s.ai.forget s.currentCallerId }
  else s

/-! ## The worker -/

def dequeue : System :=
  match s.queue with
  | [] => s
  | r :: rest =>
    if s.taken.isSome ∨ s.ai.turn.isSome then s else { s with queue := rest, taken := some r }

def beginTurn (now : Int) (disabled : Bool) : System :=
  -- `disabled`: after too many failures.
  match s.taken with
  | none => s
  | some r =>
    if disabled then { s with taken := none }
    else
      { s with
        taken := none
        ai := s.ai.begins now r.callerId (callerIsAdminP s r.callerId) r.transcript
        spokenByAdmin := callerIsAdminP s r.speaker }

end System

/-! ## Runs -/

inductive Happening where
  | corAssert (speaker : Int) (ready : Bool)
  | corDrop (long : Bool)
  | vcorAssert (userId : Int) (ready : Bool)
  | vcorDrop (long : Bool)
  | callerIdentified (userId : Int)
  | callerCleared
  | takeRecording
  | transcribed (text : Option Text)
  | resume (now : Int)
  | dtmfAi (arg : Text)
  | dequeue
  | beginTurn (now : Int) (disabled : Bool)
  | post (outcome : Outcome) (returned : List (Option Text)) (now : Int)
  | setOtpElevated (users : List Int)
  | setAdmins (users : List Int)

section Runs

variable (cjson : Text → Option (List ToolCall)) (env : Station)

def happen (s : System) : Happening → System
  | .corAssert speaker ready => s.onCorAssert speaker ready
  | .corDrop long => s.onCorDrop env long
  | .vcorAssert userId ready => s.onVcorAssert userId ready
  | .vcorDrop long => s.onVcorDrop long
  | .callerIdentified userId => { s with currentCallerId := userId }
  | .callerCleared => { s with currentCallerId := 0 }
  | .takeRecording => s.takeRecording env
  | .transcribed text => s.transcribed env text
  | .resume now => s.resume now
  | .dtmfAi arg => s.onDtmfAi arg
  | .dequeue => s.dequeue
  | .beginTurn now disabled => s.beginTurn now disabled
  | .post outcome returned now => { s with ai := s.ai.post cjson outcome returned now }
  | .setOtpElevated users => { s with otpElevated := users }
  | .setAdmins users => { s with admins := users }

/-! ## What is asked for, and what it takes -/

/-- A turn has nobody's authority or its speaker's, and admin-only tools run only in a turn whose
speaker was an admin when it began. -/
def Authorised (s : System) : Happening → Prop
  | .beginTurn _ disabled =>
    disabled = false → ∀ r ∈ s.taken, r.callerId = 0 ∨ r.callerId = r.speaker
  | .post outcome _ _ =>
    ∀ inv ∈ s.ai.executed cjson outcome, inv.tool.adminOnly = true → s.spokenByAdmin = true
  | _ => True

instance (s : System) : (h : Happening) → Decidable (Authorised cjson s h)
  | .beginTurn _ disabled =>
    inferInstanceAs (Decidable (disabled = false →
      ∀ r ∈ s.taken, r.callerId = 0 ∨ r.callerId = r.speaker))
  | .post outcome _ _ =>
    inferInstanceAs (Decidable (∀ inv ∈ s.ai.executed cjson outcome,
      inv.tool.adminOnly = true → s.spokenByAdmin = true))
  | .corAssert .. | .corDrop _ | .vcorAssert .. | .vcorDrop _ | .callerIdentified _
  | .callerCleared | .takeRecording | .transcribed _ | .resume _ | .dtmfAi _ | .dequeue
  | .setOtpElevated _ | .setAdmins _ => inferInstanceAs (Decidable True)

def Attributed (s : System) : Happening → Prop
  -- A transcript that is queued came in with nobody on the channel, or with its speaker.
  | .transcribed (some text) =>
    ∀ speaker ∈ s.transcribing, s.takesUp env text = true →
      s.currentCallerId = 0 ∨ s.currentCallerId = speaker
  | .resume now =>
    ∀ w ∈ s.waiting, s.continues now w.callerId = true → w.callerId = 0 ∨ w.callerId = w.speaker
  | _ => True

instance (s : System) : (h : Happening) → Decidable (Attributed env s h)
  | .transcribed (some text) =>
    inferInstanceAs (Decidable (∀ speaker ∈ s.transcribing, s.takesUp env text = true →
      s.currentCallerId = 0 ∨ s.currentCallerId = speaker))
  | .resume now =>
    inferInstanceAs (Decidable (∀ w ∈ s.waiting, s.continues now w.callerId = true →
      w.callerId = 0 ∨ w.callerId = w.speaker))
  | .transcribed none | .corAssert .. | .corDrop _ | .vcorAssert .. | .vcorDrop _
  | .callerIdentified _ | .callerCleared | .takeRecording | .dtmfAi _ | .dequeue
  | .beginTurn .. | .post .. | .setOtpElevated _ | .setAdmins _ => inferInstanceAs (Decidable True)

end Runs

/-! ## Queued requests -/

def AiRequest.Own (r : AiRequest) : Prop :=
  r.callerId = 0 ∨ r.callerId = r.speaker

/-- What is queued is attributed, and so is the turn. -/
structure Owned (s : System) : Prop where
  queued : ∀ r ∈ s.queue, r.Own
  taken : ∀ r ∈ s.taken, r.Own
  turn : ∀ t ∈ s.ai.turn, t.callerAdmin = true → s.spokenByAdmin = true

theorem callerIsAdminP_nobody (s : System) : callerIsAdminP s 0 = false := by
  simp [callerIsAdminP]

theorem owned_admin {s : System} {r : AiRequest} (own : r.Own)
    (admin : callerIsAdminP s r.callerId = true) : callerIsAdminP s r.speaker = true := by
  rcases own with nobody | same
  next =>
    rw [nobody, callerIsAdminP_nobody] at admin
    cases admin
  next => exact same ▸ admin

theorem submit_owned {s : System} (owned : Owned s) {transcript : Text} {callerId speaker : Int}
    (own : s.aiIsBusy = false → callerId = 0 ∨ callerId = speaker) :
    Owned (s.submit transcript callerId speaker) := by
  unfold System.submit System.enqueueRequest
  split
  next => exact owned
  next idle =>
    split
    next => exact owned
    next =>
      refine ⟨fun r member => ?_, owned.taken, owned.turn⟩
      rcases List.mem_append.mp member with old | new
      next => exact owned.queued r old
      next =>
        obtain rfl := List.mem_singleton.mp new
        exact own (by simpa using idle)

theorem onAnnouncement_owned {env : Station} {s : System} (owned : Owned s) {transcript : Text}
    {speaker : Int} (own : s.takesUp env transcript = true →
      s.currentCallerId = 0 ∨ s.currentCallerId = speaker) :
    Owned (s.onAnnouncement env transcript speaker) := by
  unfold System.onAnnouncement
  split
  next => exact owned
  next speech =>
    simp only [not_or, Bool.not_eq_true] at speech
    split
    next always =>
      exact submit_owned owned fun idle => own (by simp [System.takesUp, speech, idle, always])
    next =>
      split
      next armed =>
        refine submit_owned (s := { s with dtmfArmed := none }) ?_ fun idle => ?_
        next => exact ⟨owned.queued, owned.taken, owned.turn⟩
        next =>
          have free : s.aiIsBusy = false := idle
          exact own (by simp [System.takesUp, speech, free, armed])
      next =>
        split
        next => exact owned
        next toSend some found =>
          refine submit_owned owned fun idle => own ?_
          cases toSend with
          | nil => exact absurd rfl some
          | cons c rest => simp [System.takesUp, speech, idle, found]
        next => exact ⟨owned.queued, owned.taken, owned.turn⟩

theorem post_turn {cjson : Text → Option (List ToolCall)} {s : Assistant} {outcome : Outcome}
    {returned : List (Option Text)} {now : Int} {t : Turn}
    (after : t ∈ (s.post cjson outcome returned now).turn) :
    ∃ before ∈ s.turn, before.callerAdmin = t.callerAdmin := by
  unfold Assistant.post at after
  split at after
  next idle => simp [idle] at after
  next before turn =>
    refine ⟨before, turn, ?_⟩
    split at after
    next => cases after
    next => cases after
    next =>
      unfold afterReply at after
      split at after
      next =>
        obtain rfl := Option.mem_some.mp after
        rfl
      next =>
        split at after
        next =>
          obtain rfl := Option.mem_some.mp after
          rfl
        next => cases after

theorem executed_admin {cjson : Text → Option (List ToolCall)} {s : Assistant} {outcome : Outcome}
    {inv : Invocation} (executed : inv ∈ s.executed cjson outcome)
    (adminOnly : inv.tool.adminOnly = true) : ∃ t ∈ s.turn, t.callerAdmin = true := by
  unfold Assistant.executed at executed
  split at executed
  next t _ r turn _ =>
    refine ⟨t, turn, ?_⟩
    split at executed
    next =>
      simp only [invocations, List.mem_filterMap, Option.bind_eq_some_iff,
        Option.map_eq_some_iff] at executed
      obtain ⟨call, -, f, -, tool, found, rfl⟩ := executed
      have allowed := (Option.filter_eq_some_iff.mp found).2
      simpa [show tool.adminOnly = true from adminOnly] using allowed
    next => cases executed
  next => cases executed

/-! ## Runs -/

theorem owned_of_parts {s s' : System} (owned : Owned s) (queue : s'.queue = s.queue)
    (taken : s'.taken = s.taken) (ai : s'.ai.turn = s.ai.turn)
    (spoken : s'.spokenByAdmin = s.spokenByAdmin) : Owned s' where
  queued := queue ▸ owned.queued
  taken := taken ▸ owned.taken
  turn := ai ▸ spoken ▸ owned.turn

theorem resume_owned {s : System} (owned : Owned s) {now : Int}
    (own : ∀ w ∈ s.waiting, s.continues now w.callerId = true →
      w.callerId = 0 ∨ w.callerId = w.speaker) : Owned (s.resume now) := by
  unfold System.resume
  split
  next => exact owned
  next w waits =>
    split
    next => exact owned
    next unlocked =>
      have base : Owned { s with waiting := none, ai := s.ai.cleanup now } :=
        owned_of_parts owned rfl rfl rfl rfl
      dsimp only
      split
      next active =>
        refine submit_owned base fun idle => own w waits ?_
        have free : s.aiIsBusy = false := idle
        have known : { s with ai := s.ai.cleanup now }.hasConversation w.callerId = true := active
        have open' : s.ai.turn.isNone = true := by simpa using unlocked
        simp [System.continues, free, known, open']
      next => exact base

theorem transcribed_owned {env : Station} {s : System} (owned : Owned s) {text : Option Text}
    (attributed : Attributed env s (.transcribed text)) : Owned (s.transcribed env text) := by
  unfold System.transcribed
  split
  next => exact owned
  next speaker heard =>
    have base : Owned { s with transcribing := none } := owned_of_parts owned rfl rfl rfl rfl
    cases text with
    | none => exact base
    | some transcript => exact onAnnouncement_owned base fun takes => attributed speaker heard takes

theorem beginTurn_owned {s : System} (owned : Owned s) (now : Int) (disabled : Bool) :
    Owned (s.beginTurn now disabled) := by
  unfold System.beginTurn
  split
  next => exact owned
  next r found =>
    split
    next => exact ⟨owned.queued, by simp, owned.turn⟩
    next =>
      refine ⟨owned.queued, by simp, fun t begun admin => ?_⟩
      obtain rfl := Option.mem_some.mp begun
      exact owned_admin (owned.taken r found) admin

theorem dequeue_owned {s : System} (owned : Owned s) : Owned s.dequeue := by
  unfold System.dequeue
  split
  next => exact owned
  next r rest queue =>
    split
    next => exact owned
    next =>
      have listed : ∀ other ∈ r :: rest, other.Own := queue ▸ owned.queued
      refine ⟨fun other member => listed other (List.mem_cons_of_mem _ member), ?_, owned.turn⟩
      intro other same
      exact Option.mem_some.mp same ▸ listed r (List.mem_cons_self ..)

theorem recording_owned (env : Station) {s : System} (owned : Owned s) (long : Bool) :
    Owned (s.onCorDrop env long) ∧ Owned (s.onVcorDrop long) ∧ Owned (s.takeRecording env) := by
  refine ⟨?_, ?_, ?_⟩
  next =>
    unfold System.onCorDrop
    split
    next => exact owned
    next =>
      dsimp only
      split
      next => exact owned_of_parts owned rfl rfl rfl rfl
      next => split <;> exact owned_of_parts owned rfl rfl rfl rfl
  next =>
    unfold System.onVcorDrop
    split
    next => exact owned
    next =>
      dsimp only
      split <;> exact owned_of_parts owned rfl rfl rfl rfl
  next =>
    unfold System.takeRecording
    split
    next => exact owned_of_parts owned rfl rfl rfl rfl
    next => exact owned

theorem happen_owned {cjson : Text → Option (List ToolCall)} {env : Station} {s : System}
    (owned : Owned s) {h : Happening} (attributed : Attributed env s h) :
    Owned (happen cjson env s h) := by
  cases h with
  | transcribed text => exact transcribed_owned owned attributed
  | resume now => exact resume_owned owned attributed
  | corDrop long => exact (recording_owned env owned long).1
  | vcorDrop long => exact (recording_owned env owned long).2.1
  | takeRecording => exact (recording_owned env owned true).2.2
  | dequeue => exact dequeue_owned owned
  | beginTurn now disabled => exact beginTurn_owned owned now disabled
  | post outcome returned now =>
    refine ⟨owned.queued, owned.taken, fun t after admin => ?_⟩
    obtain ⟨before, turn, same⟩ := post_turn after
    exact owned.turn before turn (same.trans admin)
  | vcorAssert userId ready =>
    change Owned (s.onVcorAssert userId ready)
    unfold System.onVcorAssert
    split <;> exact owned_of_parts owned rfl rfl rfl rfl
  | dtmfAi arg =>
    change Owned (s.onDtmfAi arg)
    unfold System.onDtmfAi
    split
    next => exact owned_of_parts owned rfl rfl rfl rfl
    next => split <;> exact owned_of_parts owned rfl rfl rfl rfl
  | corAssert | callerIdentified | callerCleared | setOtpElevated | setAdmins =>
    exact owned_of_parts owned rfl rfl rfl rfl

theorem owned_authorised {cjson : Text → Option (List ToolCall)} {s : System} (owned : Owned s)
    (h : Happening) : Authorised cjson s h := by
  cases h with
  | beginTurn now disabled => exact fun _ r found => owned.taken r found
  | post outcome returned now =>
    intro inv executed adminOnly
    obtain ⟨t, turn, admin⟩ := executed_admin executed adminOnly
    exact owned.turn t turn admin
  | corAssert | corDrop | vcorAssert | vcorDrop | callerIdentified | callerCleared | takeRecording
  | transcribed | resume | dtmfAi | dequeue | setOtpElevated | setAdmins => trivial

theorem attributed_authorised (cjson : Text → Option (List ToolCall)) (env : Station)
    (happenings : List Happening) :
    Machine.Guarded (happen cjson env) (Attributed env) (booted env) happenings →
      Machine.Guarded (happen cjson env) (Authorised cjson) (booted env) happenings := by
  refine Machine.guarded_of_invariant (happen cjson env) (P := Owned) ?_ ?_
  next =>
    intro s h owned attributed
    exact ⟨happen_owned owned attributed, owned_authorised owned h⟩
  next => exact ⟨by simp [booted], by simp [booted], by simp [booted, load]⟩

/-! ## A slow transcript -/

def emergencyCall : Text :=
  ("[\x7b\"id\":\"call_1\",\"type\":\"function\",\"function\":" ++
    "\x7b\"name\":\"set_emergency\",\"arguments\":\"\x7b\x7d\"\x7d\x7d]").toList

def emergencyEntries (json : Text) : Option (List ToolCall) :=
  -- What the library makes of the text.
  if json = emergencyCall then
    some [{ id := some "call_1".toList
            function := some
              { name := some "set_emergency".toList, arguments := .text "\x7b\x7d".toList } }]
  else none

def always : Station where
  mode := .batch
  trigger := .always
  wakePhrase := "kerchunk".toList
  settings := defaultSettings "[]".toList

def emergencyTurn (speaker caller : Int) : List Happening :=
  -- The caller is identified while the speaker's words are being recognised; user 2 is an admin.
  [.setAdmins [2], .corAssert speaker true, .corDrop true, .takeRecording, .callerIdentified caller,
    .transcribed (some "emergency off".toList), .dequeue, .beginTurn 0 false,
    .post (.replied { content := none, toolCallsJson := some emergencyCall }) [some []] 0]

theorem slow_transcript_misattributed :
    ¬ Machine.Guarded (happen emergencyEntries always) (Authorised emergencyEntries) (booted always)
      (emergencyTurn 1 2) := by
  decide +kernel

theorem admin_ends_emergency :
    Machine.Guarded (happen emergencyEntries always) (Authorised emergencyEntries) (booted always)
      (emergencyTurn 2 2) :=
  attributed_authorised emergencyEntries always _ (by decide +kernel)

end Kerchunk.Ai
