import Kerchunk.Asr.Model
import Kerchunk.Caller.Signals
import Kerchunk.Cdr.Replay
import Mathlib.Data.List.Permutation

set_option autoImplicit false

/-!
# Whom records and transcripts name

The modules `mod_caller`, `mod_cdr` and `mod_asr` on one bus, in any order of subscription. A
transmission lasts from one change of COR to the next.
-/

namespace Kerchunk.Caller.Attribution

open Kerchunk.Caller.Signals (Directory Outcome Session Signal)
open Kerchunk.Config (Text)
open Kerchunk.Core (Bus maxDepth)

/-- `monitor` notes who speaks. -/
inductive Module where
  | monitor
  | caller
  | cdr
  | asr
deriving DecidableEq

inductive Evt where
  | corAssert (clock : Cdr.Clock) (emergency opened : Bool)
  | corDrop (clock : Cdr.Clock) (append : Cdr.Append) (text : Bool)
  | caller (signal : Signal)

/-- The users, the settings, and the orders of subscription. -/
structure Station where
  dir : Directory
  userName : Nat → Option Text
  day : Cdr.Day
  asr : Asr.Config
  corAssertOrder : List Module
  corDropOrder : List Module
  identifiedOrder : List Module
  corAssertPerm : corAssertOrder.Perm [.caller, .cdr, .asr]
  corDropPerm : corDropOrder.Perm [.caller, .cdr, .asr]
  identifiedPerm : identifiedOrder.Perm [.cdr, .asr]

/-- What is filed about a transmission, with the user who has spoken in it. -/
inductive Entry where
  | call (row : Text) (speaker : Nat)
  | transcript (callerId speaker : Nat)
deriving DecidableEq

/-- `speaker` is what the monitor notes: the session's user at COR_ASSERT, then whoever is
identified; 0 is nobody. `requestSpeaker` is the speaker of the request that waits. -/
structure System where
  receiving : Bool
  session : Session
  cdr : Cdr.State
  asr : Asr.State
  speaker : Nat
  requestSpeaker : Nat
  filed : List Entry

def start (csv : Option Text) : System where
  receiving := false
  session := Signals.init
  cdr := Cdr.statics csv
  asr := Asr.init
  speaker := 0
  requestSpeaker := 0
  filed := []

def rowUser (row : Text) : Option Text :=
  -- The fourth column.
  match Cdr.splitCommas 4 row with
  | [_, _, _, user, _] => some user
  | _ => none

def Entry.Names : Entry → Prop
  | .call row speaker => rowUser row = some (Cdr.intText speaker)
  | .transcript callerId speaker => callerId = speaker

instance decidableNames : (e : Entry) → Decidable e.Names
  | .call row speaker => inferInstanceAs (Decidable (rowUser row = some (Cdr.intText speaker)))
  | .transcript callerId speaker => inferInstanceAs (Decidable (callerId = speaker))

def System.Attributed (s : System) : Prop :=
  ∀ e ∈ s.filed, e.Names

instance (s : System) : Decidable s.Attributed :=
  List.decidableBAll _ s.filed

/-! ## The bus -/

section Handlers

variable (env : Station) (fire : Evt → System → System)

def monitor (s : System) : Evt → System
  | .corAssert .. => { s with speaker := s.session.sessionUserId }
  | .corDrop .. | .caller .cleared => s
  | .caller (.identified userId _) => { s with speaker := userId }

def raise (out : Outcome) (s : System) : System :=
  match out.signal with
  | none => { s with session := out.session }
  | some signal => fire (.caller signal) { s with session := out.session }

def callerHandle (s : System) : Evt → System
  | .corAssert .. => raise fire (Signals.onCorAssert s.session) s
  | .corDrop .. => raise fire (Signals.onCorDrop s.session) s
  | .caller _ => s

def methodCode : Method → Int
  -- `kerchunk_caller_method_t`
  | .unknown => 0
  | .dtmfAni => 3
  | .dtmfLogin => 4

def calls (day : Cdr.Day) (cdr : Cdr.State) (clock : Cdr.Clock) (speaker : Nat) : List Entry :=
  -- The row of `write_cdr`.
  if cdr.enabled && cdr.inCall then [.call (Cdr.voiceRow day cdr clock) speaker] else []

def cdrHandle (s : System) : Evt → System
  | .corAssert clock emergency _ => { s with cdr := Cdr.onCorAssert s.cdr clock emergency }
  | .corDrop clock append _ =>
    { s with
      cdr := Cdr.onCorDrop env.day s.cdr clock append
      filed := s.filed ++ calls env.day s.cdr clock s.speaker }
  | .caller (.identified userId method) =>
    { s with cdr :=
        Cdr.onCallerIdentified s.cdr userId (env.userName userId) (methodCode method) }
  | .caller .cleared => s

def transcripts (callerId : Option Nat) (speaker : Nat) : List Entry :=
  callerId.toList.map fun id => .transcript id speaker

def asrHandle (s : System) : Evt → System
  | .corAssert _ _ opened => { s with asr := Asr.onCorAssert env.asr s.asr opened }
  | .corDrop _ _ text =>
    let out := Asr.onCorDrop env.asr s.asr text
    { s with
      asr := out.1
      requestSpeaker := if Asr.handsOver env.asr s.asr then s.speaker else s.requestSpeaker
      filed := s.filed ++ transcripts out.2 s.speaker }
  | .caller (.identified userId _) => { s with asr := Asr.onCallerIdentified s.asr userId }
  | .caller .cleared => s

end Handlers

def bus (env : Station) : Bus System Evt Module where
  subscribers
    | .corAssert .. => .monitor :: env.corAssertOrder
    | .corDrop .. => env.corDropOrder
    | .caller (.identified ..) => .monitor :: env.identifiedOrder
    | .caller .cleared => []
  handle
    | .monitor, _, evt, s => monitor s evt
    | .caller, fire, evt, s => callerHandle fire s evt
    | .cdr, _, evt, s => cdrHandle env s evt
    | .asr, _, evt, s => asrHandle env s evt

inductive Input where
  | keyUp (clock : Cdr.Clock) (emergency opened : Bool)
  | unkey (clock : Cdr.Clock) (append : Cdr.Append) (text : Bool)
  | caller (input : Signals.Input)
  | audio (samples : List Int) (taken : Bool)
  | worker (text : Bool)

variable (env : Station)

def keyUp (s : System) (clock : Cdr.Clock) (emergency opened : Bool) : System :=
  (bus env).fire maxDepth (.corAssert clock emergency opened) { s with receiving := true }

def unkey (s : System) (clock : Cdr.Clock) (append : Cdr.Append) (text : Bool) : System :=
  (bus env).fire maxDepth (.corDrop clock append text) { s with receiving := false }

def worker (s : System) (text : Bool) : System :=
  let out := Asr.batchWorker s.asr text
  { s with asr := out.1, filed := s.filed ++ transcripts out.2 s.requestSpeaker }

def step (s : System) : Input → System
  | .keyUp clock emergency opened => if s.receiving then s else keyUp env s clock emergency opened
  | .unkey clock append text => if s.receiving then unkey env s clock append text else s
  | .caller input => raise ((bus env).fire maxDepth) (Signals.handle env.dir s.session input) s
  | .audio samples taken =>
    { s with
      cdr := Cdr.sqAudioTap s.cdr samples
      asr := Asr.audioTap env.asr s.asr samples.length taken }
  | .worker text => worker s text

def LateFiring (s : System) : Prop :=
  -- An active session is signalled at key-up, after the other two modules have begun the call.
  0 < s.session.sessionUserId → env.corAssertOrder.getLast? = some .caller ∧
    s.session.currentUserId ≠ s.session.sessionUserId

def Announced (s : System) : Input → Prop
  | .keyUp .. => s.receiving = false → LateFiring env s
  | _ => True

instance decidableAnnounced (s : System) : (i : Input) → Decidable (Announced env s i)
  | .keyUp .. => inferInstanceAs (Decidable (_ = _ → (_ < _ → _ ∧ _)))
  | .unkey .. | .caller _ | .audio .. | .worker _ => .isTrue trivial

/-! ## What one event does -/

theorem perm_triple {α : Type} {a b c : α} {order : List α} (perm : order.Perm [a, b, c]) :
    order = [a, b, c] ∨ order = [a, c, b] ∨ order = [b, a, c] ∨ order = [b, c, a] ∨
      order = [c, a, b] ∨ order = [c, b, a] := by
  have member := List.mem_permutations.mpr perm
  simp [List.permutations, List.permutationsAux, List.permutationsAux.rec,
    List.permutationsAux2] at member
  tauto

theorem rowUser_voiceRow (day : Cdr.Day) (cdr : Cdr.State) (clock : Cdr.Clock) :
    rowUser (Cdr.voiceRow day cdr clock) = some (Cdr.intText cdr.userId) := by
  have now := (Cdr.intText_numeric clock.now).column.noComma
  have date := (Cdr.dateText_numeric day).column.noComma
  have time := (Cdr.timeText_numeric clock).column.noComma
  have user := (Cdr.intText_numeric cdr.userId).column.noComma
  simp only [rowUser, Cdr.voiceRow, Cdr.csvRow, Cdr.csvColumns, List.append_assoc, List.cons_append]
  rw [Cdr.splitCommas_column now, Cdr.splitCommas_column date, Cdr.splitCommas_column time,
    Cdr.splitCommas_column user, Cdr.splitCommas]

variable {env} {s : System}

def identify (env : Station) (s : System) (userId : Nat) (method : Method) : System :=
  -- All modules have taken note.
  { s with
    speaker := userId
    cdr := Cdr.onCallerIdentified s.cdr userId (env.userName userId) (methodCode method)
    asr := Asr.onCallerIdentified s.asr userId }

theorem handle_caller (fire : Evt → System → System) (evt : Evt) :
    (bus env).handle .caller fire evt s = callerHandle fire s evt := rfl

theorem handle_cdr (fire : Evt → System → System) (evt : Evt) :
    (bus env).handle .cdr fire evt s = cdrHandle env s evt := rfl

theorem handle_asr (fire : Evt → System → System) (evt : Evt) :
    (bus env).handle .asr fire evt s = asrHandle env s evt := rfl

theorem fire_identified (depth userId : Nat) (method : Method) :
    (bus env).fire (depth + 1) (.caller (.identified userId method)) s =
      identify env s userId method := by
  rcases List.perm_pair.mp env.identifiedPerm with order | order <;>
    simp [Bus.fire_succ, bus, order, monitor, cdrHandle, asrHandle, identify]

theorem keyUp_eq (clock : Cdr.Clock) (emergency opened : Bool) :
    keyUp env s clock emergency opened =
      env.corAssertOrder.foldl (fun s h =>
        (bus env).handle h ((bus env).fire 15) (.corAssert clock emergency opened) s)
          { s with receiving := true, speaker := s.session.sessionUserId } := rfl

theorem unkey_eq (clock : Cdr.Clock) (append : Cdr.Append) (text : Bool) :
    unkey env s clock append text =
      env.corDropOrder.foldl (fun s h =>
        (bus env).handle h ((bus env).fire 15) (.corDrop clock append text) s)
          { s with receiving := false } := rfl

theorem fire_cleared (depth : Nat) : (bus env).fire (depth + 1) (.caller .cleared) s = s := rfl

theorem raise_drop (depth : Nat) (c : Session) :
    raise ((bus env).fire (depth + 1)) (Signals.onCorDrop c) s =
      { s with session := (Signals.onCorDrop c).session } := by
  have cleared : (Signals.onCorDrop c).signal = none ∨
      (Signals.onCorDrop c).signal = some .cleared := by
    simp only [Signals.onCorDrop, Signals.fireCleared, Signals.silent]
    split_ifs <;> simp
  unfold raise
  rcases cleared with signal | signal <;> rw [signal]
  exact fire_cleared depth

theorem raise_assert (depth : Nat) (c : Session) :
    raise ((bus env).fire (depth + 1)) (Signals.onCorAssert c) s =
      let after := { s with session := (Signals.onCorAssert c).session }
      if 0 < c.sessionUserId ∧ c.currentUserId ≠ c.sessionUserId then
        identify env after c.sessionUserId .dtmfLogin
      else after := by
  have armed : (Signals.armAni c).sessionUserId = c.sessionUserId ∧
      (Signals.armAni c).currentUserId = c.currentUserId := by
    unfold Signals.armAni
    split <;> trivial
  unfold raise Signals.onCorAssert
  simp only [armed]
  split_ifs
  next => exact fire_identified ..
  next => rfl

def begun (env : Station) (s : System) (clock : Cdr.Clock) (emergency opened : Bool) : System :=
  -- The call has begun, and nobody is identified in it yet.
  { s with
    receiving := true
    session := (Signals.onCorAssert s.session).session
    speaker := s.session.sessionUserId
    cdr := Cdr.onCorAssert s.cdr clock emergency
    asr := Asr.onCorAssert env.asr s.asr opened }

theorem keyUp_idle (clock : Cdr.Clock) (emergency opened : Bool)
    (idle : s.session.sessionUserId = 0) :
    keyUp env s clock emergency opened = begun env s clock emergency opened := by
  rcases perm_triple env.corAssertPerm with order | order | order | order | order | order <;>
    simp [keyUp_eq, order, handle_caller, handle_cdr, handle_asr, callerHandle, cdrHandle, asrHandle,
      begun, raise_assert, idle]

theorem keyUp_late (clock : Cdr.Clock) (emergency opened : Bool)
    (active : 0 < s.session.sessionUserId) (late : LateFiring env s) :
    keyUp env s clock emergency opened =
      identify env (begun env s clock emergency opened) s.session.sessionUserId .dtmfLogin := by
  obtain ⟨last, changes⟩ := late active
  have order : env.corAssertOrder = [.cdr, .asr, .caller] ∨
      env.corAssertOrder = [.asr, .cdr, .caller] := by
    rcases perm_triple env.corAssertPerm with order | order | order | order | order | order <;>
      simp [order] at last ⊢
  rcases order with order | order <;>
    simp [keyUp_eq, order, handle_caller, handle_cdr, handle_asr, callerHandle, cdrHandle, asrHandle,
      begun, raise_assert, active, changes]

def ended (env : Station) (s : System) (clock : Cdr.Clock) (append : Cdr.Append) (text : Bool)
    (filed : List Entry) : System :=
  { s with
    receiving := false
    session := (Signals.onCorDrop s.session).session
    cdr := Cdr.onCorDrop env.day s.cdr clock append
    asr := (Asr.onCorDrop env.asr s.asr text).1
    requestSpeaker := if Asr.handsOver env.asr s.asr then s.speaker else s.requestSpeaker
    filed := s.filed ++ filed }

theorem unkey_ended (clock : Cdr.Clock) (append : Cdr.Append) (text : Bool) :
    ∃ filed, filed.Perm (calls env.day s.cdr clock s.speaker ++
        transcripts (Asr.onCorDrop env.asr s.asr text).2 s.speaker) ∧
      unkey env s clock append text = ended env s clock append text filed := by
  -- Only the order of the two entries depends on the order of the handlers.
  have callFirst : env.corDropOrder ∈ [[.caller, .cdr, .asr], [.cdr, .caller, .asr],
      [.cdr, .asr, .caller]] → unkey env s clock append text = ended env s clock append text
        (calls env.day s.cdr clock s.speaker ++
          transcripts (Asr.onCorDrop env.asr s.asr text).2 s.speaker) := by
    intro order
    simp only [List.mem_cons, List.not_mem_nil, or_false] at order
    rcases order with order | order | order <;>
      simp [unkey_eq, order, handle_caller, handle_cdr, handle_asr, callerHandle, cdrHandle,
        asrHandle, raise_drop, ended]
  have transcriptFirst : env.corDropOrder ∈ [[.caller, .asr, .cdr], [.asr, .caller, .cdr],
      [.asr, .cdr, .caller]] → unkey env s clock append text = ended env s clock append text
        (transcripts (Asr.onCorDrop env.asr s.asr text).2 s.speaker ++
          calls env.day s.cdr clock s.speaker) := by
    intro order
    simp only [List.mem_cons, List.not_mem_nil, or_false] at order
    rcases order with order | order | order <;>
      simp [unkey_eq, order, handle_caller, handle_cdr, handle_asr, callerHandle, cdrHandle,
        asrHandle, raise_drop, ended]
  rcases perm_triple env.corDropPerm with order | order | order | order | order | order
  next => exact ⟨_, .refl _, callFirst (by simp [order])⟩
  next => exact ⟨_, List.perm_append_comm, transcriptFirst (by simp [order])⟩
  next => exact ⟨_, .refl _, callFirst (by simp [order])⟩
  next => exact ⟨_, .refl _, callFirst (by simp [order])⟩
  next => exact ⟨_, List.perm_append_comm, transcriptFirst (by simp [order])⟩
  next => exact ⟨_, List.perm_append_comm, transcriptFirst (by simp [order])⟩

/-! ## Runs -/

/-- Between transmissions nothing is open; during one, all modules know the same speaker. -/
structure Agreed (s : System) : Prop where
  enabled : s.cdr.enabled = true
  quiet : s.receiving = false → s.cdr.inCall = false ∧ s.cdr.userId = 0
  known : s.receiving = true → s.cdr.userId = s.speaker ∧ s.asr.callerId = s.speaker
  called : s.receiving = true → s.cdr.inCall = true
  requested : ∀ request ∈ s.asr.asrReq, request.callerId = s.requestSpeaker
  named : s.Attributed

theorem start_agreed (csv : Option Text) : Agreed (start csv) where
  enabled := rfl
  quiet _ := ⟨rfl, rfl⟩
  known impossible := nomatch impossible
  called impossible := nomatch impossible
  requested _ impossible := nomatch impossible
  named _ impossible := nomatch impossible

theorem identify_agreed (agreed : Agreed s) (userId : Nat) (method : Method) :
    Agreed (identify env s userId method) := by
  have inCall : (identify env s userId method).cdr.inCall = s.cdr.inCall := by
    unfold identify Cdr.onCallerIdentified
    split <;> rfl
  have same : (identify env s userId method).cdr.enabled = s.cdr.enabled := by
    unfold identify Cdr.onCallerIdentified
    split <;> rfl
  constructor
  next => rw [same, agreed.enabled]
  next =>
    intro idle
    obtain ⟨closed, nobody⟩ := agreed.quiet idle
    simp [identify, Cdr.onCallerIdentified, closed, nobody]
  next =>
    intro receiving
    simp [identify, Cdr.onCallerIdentified, Asr.onCallerIdentified, agreed.called receiving]
  next =>
    intro receiving
    rw [inCall, agreed.called receiving]
  next => exact agreed.requested
  next => exact agreed.named

theorem raise_agreed (agreed : Agreed s) (out : Outcome) :
    Agreed (raise ((bus env).fire maxDepth) out s) := by
  have moved (session : Session) : Agreed { s with session } := by
    obtain ⟨enabled, quiet, known, called, requested, named⟩ := agreed
    exact ⟨enabled, quiet, known, called, requested, named⟩
  unfold raise
  split
  next => exact moved out.session
  next signal _ =>
    cases signal with
    | identified userId method =>
      rw [maxDepth, fire_identified]
      exact identify_agreed (moved out.session) userId method
    | cleared => exact moved out.session

theorem begun_agreed (agreed : Agreed s) (idle : s.receiving = false) (clock : Cdr.Clock)
    (emergency opened : Bool) :
    Agreed { begun env s clock emergency opened with speaker := 0 } := by
  have nobody := (agreed.quiet idle).2
  constructor
  next => simp [begun, Cdr.onCorAssert, agreed.enabled]
  next =>
    intro impossible
    cases impossible
  next => simp [begun, Cdr.onCorAssert, agreed.enabled, nobody, Asr.onCorAssert_callerId]
  next => simp [begun, Cdr.onCorAssert, agreed.enabled]
  next => simpa [begun, Asr.onCorAssert_asrReq] using agreed.requested
  next => exact agreed.named

theorem keyUp_agreed (agreed : Agreed s) (idle : s.receiving = false) (late : LateFiring env s)
    (clock : Cdr.Clock) (emergency opened : Bool) :
    Agreed (keyUp env s clock emergency opened) := by
  have begins : Agreed { begun env s clock emergency opened with speaker := 0 } :=
    begun_agreed agreed idle clock emergency opened
  rcases Nat.eq_zero_or_pos s.session.sessionUserId with nobody | active
  next =>
    rw [keyUp_idle clock emergency opened nobody]
    have same : { begun env s clock emergency opened with speaker := 0 } =
        begun env s clock emergency opened := by
      simp [begun, nobody]
    rwa [same] at begins
  next =>
    rw [keyUp_late clock emergency opened active late]
    exact identify_agreed begins s.session.sessionUserId .dtmfLogin

theorem unkey_agreed (agreed : Agreed s) (receiving : s.receiving = true) (clock : Cdr.Clock)
    (append : Cdr.Append) (text : Bool) : Agreed (unkey env s clock append text) := by
  obtain ⟨filed, entries, ends⟩ := @unkey_ended env s clock append text
  obtain ⟨user, caller⟩ := agreed.known receiving
  have inCall := agreed.called receiving
  have calls_name : ∀ e ∈ calls env.day s.cdr clock s.speaker, e.Names := by
    simp [calls, agreed.enabled, inCall, Entry.Names, rowUser_voiceRow, user]
  have transcripts_name : ∀ e ∈ transcripts (Asr.onCorDrop env.asr s.asr text).2 s.speaker,
      e.Names := by
    intro e member
    obtain ⟨id, given, rfl⟩ := List.mem_map.mp member
    exact (Asr.onCorDrop_names text id (by simpa using given)).trans caller
  rw [ends]
  constructor
  next => simp [ended, Cdr.onCorDrop, agreed.enabled, inCall, Cdr.writeCdr_frame]
  next => simp [ended, Cdr.onCorDrop, agreed.enabled, inCall]
  next =>
    intro impossible
    cases impossible
  next =>
    intro impossible
    cases impossible
  next =>
    simp only [ended, Asr.onCorDrop_asrReq]
    split_ifs
    next => simp [caller]
    next => exact agreed.requested
  next =>
    intro e member
    rcases List.mem_append.mp member with before | new
    next => exact agreed.named e before
    next =>
      rcases List.mem_append.mp (entries.subset new) with call | transcript
      next => exact calls_name e call
      next => exact transcripts_name e transcript

theorem audio_agreed (agreed : Agreed s) (samples : List Int) (taken : Bool) :
    Agreed (step env s (.audio samples taken)) := by
  have cdr : (Cdr.sqAudioTap s.cdr samples).enabled = s.cdr.enabled ∧
      (Cdr.sqAudioTap s.cdr samples).inCall = s.cdr.inCall ∧
      (Cdr.sqAudioTap s.cdr samples).userId = s.cdr.userId := by
    unfold Cdr.sqAudioTap
    split <;> exact ⟨rfl, rfl, rfl⟩
  have asr := @Asr.audioTap_frame env.asr s.asr samples.length taken
  obtain ⟨enabled, quiet, known, called, requested, named⟩ := agreed
  constructor <;> simpa [step, cdr, asr]

theorem worker_agreed (agreed : Agreed s) (text : Bool) : Agreed (worker s text) := by
  obtain ⟨caller, empty⟩ := Asr.batchWorker_frame (s := s.asr) text
  constructor
  next => exact agreed.enabled
  next => exact agreed.quiet
  next => simpa [worker, caller] using agreed.known
  next => exact agreed.called
  next => simp [worker, empty]
  next =>
    intro e member
    rcases List.mem_append.mp member with before | new
    next => exact agreed.named e before
    next =>
      obtain ⟨id, transcribed, rfl⟩ := List.mem_map.mp new
      obtain ⟨request, waits, rfl⟩ := Asr.batchWorker_names text id (by simpa using transcribed)
      exact agreed.requested request waits

theorem step_agreed (agreed : Agreed s) (i : Input) (announced : Announced env s i) :
    Agreed (step env s i) := by
  cases i with
  | keyUp clock emergency opened =>
    unfold step
    split_ifs with receiving
    next => exact agreed
    next =>
      have idle : s.receiving = false := by simpa using receiving
      exact keyUp_agreed agreed idle (announced idle) clock emergency opened
  | unkey clock append text =>
    unfold step
    split_ifs with receiving
    next => exact unkey_agreed agreed receiving clock append text
    next => exact agreed
  | caller input => exact raise_agreed agreed _
  | audio samples taken => exact audio_agreed agreed samples taken
  | worker text => exact worker_agreed agreed text

/-- Records and transcripts name the speaker as long as a session is signalled late at key-up. -/
theorem speakers_named (env : Station) (csv : Option Text) (inputs : List Input)
    (announced : Machine.Guarded (step env) (Announced env) (start csv) inputs) :
    (Machine.run (step env) (start csv) inputs).Attributed :=
  (Machine.run_invariant (step env) (P := Agreed)
    (fun _ i agreed announced => step_agreed agreed i announced) (start_agreed csv) announced).named

def loadedAs (order : List Module) (perm : order.Perm [.caller, .cdr, .asr])
    (identifiedPerm : (order.filter (· ≠ .caller)).Perm [.cdr, .asr]) : Station where
  -- A station whose three modules were loaded in this order.
  dir := { users := [⟨7, "42".toList, "12".toList, by decide⟩], logoutCode := [] }
  userName := fun id => if id = 7 then some "Ann".toList else none
  day := Cdr.newYear
  asr := { mode := .batch, maxSamples := 480000, isShort := fun n => n < 4 }
  corAssertOrder := order
  corDropOrder := order
  identifiedOrder := order.filter (· ≠ .caller)
  corAssertPerm := perm
  corDropPerm := perm
  identifiedPerm := identifiedPerm

def twoCalls : List Input :=
  -- A login in the first transmission, and a second one.
  [.keyUp (Cdr.noon 0) false true, .caller (.dtmfDigit '*'), .caller (.dtmfDigit '1'),
    .caller (.dtmfDigit '2'), .caller (.dtmfDigit '#'), .audio [1, 2, 3, 4] true,
    .unkey (Cdr.noon 5) .whole true, .worker true,
    .keyUp (Cdr.noon 10) false true, .audio [1, 2, 3, 4] true,
    .unkey (Cdr.noon 15) .whole true, .worker true]

def callerLast : Station := loadedAs [.cdr, .asr, .caller] (by decide) (by decide)

def callerFirst : Station := loadedAs [.caller, .cdr, .asr] (by decide) (by decide)

/-- The caller module is loaded after the other two. -/
theorem session_named : (Machine.run (step callerLast) (start none) twoCalls).Attributed :=
  speakers_named callerLast none twoCalls (by decide +kernel)

/-- The caller module is loaded first: the second transmission is filed under nobody. -/
theorem session_unnamed : ¬ (Machine.run (step callerFirst) (start none) twoCalls).Attributed := by
  decide +kernel

end Kerchunk.Caller.Attribution
