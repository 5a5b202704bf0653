import Kerchunk.Ai.Authority
import Kerchunk.Ai.History

set_option autoImplicit false

/-!
# Whose conversation it is (`modules/mod_ai.c`)

The assistant with everything that was ever appended to a conversation: for whom, when and what.
-/

namespace Kerchunk.Ai.Conversations

open Kerchunk.Config (Text bounded)

structure Entry where
  callerId : Int
  time : Int
  message : Message

structure Session where
  sys : System
  log : List Entry

def own (log : List Entry) (callerId : Int) : List Message :=
  -- What was appended in the turns of a caller.
  (log.filter fun e => e.callerId = callerId).map Entry.message

inductive Input where
  | happening (h : Happening)
  | ask (text : Text)
  | reset
  | configure (cfg : Settings)

section Runs

variable (cjson : Text → Option (List ToolCall)) (env : Station)

def replyMessages (cfg : Settings) (t : Turn) (r : Reply) (returned : List (Option Text)) :
    List Message :=
  -- What a round appends.
  assistantMessage r ::
    if executes cfg t r then
      toolReplies (entries cjson r.toolCallsJson) t.callerAdmin returned
    else []

def appended (s : System) : Happening → List Entry
  | .beginTurn now false =>
    s.taken.toList.map fun r => ⟨r.callerId, now, stored (userMessage r.transcript)⟩
  | .post (.replied r) returned now =>
    match s.ai.turn, s.ai.request with
    | some t, some _ =>
      (replyMessages cjson s.ai.cfg t r returned).map fun m => ⟨t.callerId, now, stored m⟩
    | _, _ => []
  | _ => []

def step (s : Session) : Input → Session
  | .happening h =>
    { sys := happen cjson env s.sys h, log := s.log ++ appended cjson s.sys h }
  | .ask text => { s with sys := s.sys.enqueueRequest text s.sys.currentCallerId 0 }
  -- The table is locked during a turn.
  | .reset => if s.sys.ai.turn.isSome then s else { s with sys.ai := s.sys.ai.reset }
  | .configure cfg => { s with sys.ai.cfg := cfg }

def booted : Session where
  sys := Ai.booted env
  log := []

/-! ## What is asked of it -/

def Conversation.Used (c : Conversation) : Prop :=
  c.callerId ≠ 0 ∨ c.messages ≠ []

def Triggered (s : System) (text : Text) : Prop :=
  -- Something other than an open conversation makes the transcript one for the assistant.
  env.trigger = .always ∨ s.armMatches = true ∨ (stripWakePhrase env.wakePhrase text).isSome

def Recent (s : Session) (callerId now : Int) : Prop :=
  -- A turn of the caller was less than the timeout ago.
  ∃ e ∈ s.log, e.callerId = callerId ∧ now - e.time ≤ s.sys.ai.cfg.conversationTimeoutS

def Answered (s : Session) (i : Input) : Prop :=
  -- What is queued for a transcript is triggered or follows a turn of the same caller.
  match i with
  | .happening (.transcribed (some text)) =>
    (step cjson env s i).sys.queue ≠ s.sys.queue → Triggered env s.sys text
  | .happening (.resume now) =>
    (step cjson env s i).sys.queue ≠ s.sys.queue → ∀ w ∈ s.sys.waiting, Recent s w.callerId now
  | _ => True

/-- The conversations in a state, and what a step does with a transcript. -/
structure Apart (s : Session) (i : Input) : Prop where
  single : ∀ (m n : Nat) (c d : Conversation), s.sys.ai.convs[m]? = some c →
    s.sys.ai.convs[n]? = some d → Conversation.Used c → Conversation.Used d →
      c.callerId = d.callerId → m = n
  ownOnly : ∀ t ∈ s.sys.ai.turn, ∀ messages ∈ s.sys.ai.request, messages <:+ own s.log t.callerId
  answered : Answered cjson env s i

def Input.Proper (s : Session) : Input → Prop
  -- No transcript of an unidentified caller finds an unidentified conversation that has run out.
  | .happening (.resume now) =>
    ∀ w ∈ s.sys.waiting, w.callerId = 0 → ∀ c ∈ s.sys.ai.convs, c.callerId = 0 → c.messages ≠ [] →
      now - c.lastActive ≤ s.sys.ai.cfg.conversationTimeoutS
  | _ => True

instance (s : Session) (callerId now : Int) : Decidable (Recent s callerId now) :=
  List.decidableBEx _ s.log

instance (s : Session) (i : Input) : Decidable (i.Proper s) := by
  unfold Input.Proper
  split
  next =>
    have (w : Waiting) (now : Int) : Decidable (w.callerId = 0 → ∀ c ∈ s.sys.ai.convs, c.callerId = 0 →
        c.messages ≠ [] → now - c.lastActive ≤ s.sys.ai.cfg.conversationTimeoutS) :=
      have := List.decidableBAll (fun c : Conversation => c.callerId = 0 → c.messages ≠ [] →
        now - c.lastActive ≤ s.sys.ai.cfg.conversationTimeoutS) s.sys.ai.convs
      inferInstance
    infer_instance
  next => infer_instance

end Runs

/-! ## The table -/

/-- The table is a partition of the callers, and holds the end of what was appended for each. -/
structure Separate (convs : List Conversation) (log : List Entry) : Prop where
  places : convs.length = maxConversations
  single : ∀ (m n : Nat) (c d : Conversation), convs[m]? = some c → convs[n]? = some d →
    Conversation.Used c → Conversation.Used d → c.callerId = d.callerId → m = n
  held : ∀ c ∈ convs, c.messages <:+ own log c.callerId
  active : ∀ c ∈ convs, c.messages ≠ [] →
    ∃ e ∈ log, e.callerId = c.callerId ∧ e.time = c.lastActive

theorem own_append (first second : List Entry) (callerId : Int) :
    own (first ++ second) callerId = own first callerId ++ own second callerId := by
  simp [own]

theorem own_entries (messages : List Message) (now callerId other : Int) :
    own (messages.map fun m => ⟨callerId, now, stored m⟩) other =
      if callerId = other then messages.map stored else [] := by
  by_cases same : callerId = other
  next => simp [own, same, List.filter_eq_self.mpr]
  next => simp [own, same, List.filter_eq_nil_iff.mpr]

theorem appended_fields (now : Int) (c : Conversation) (messages : List Message) :
    (messages.foldl (convAppend now) c).callerId = c.callerId ∧
      (messages ≠ [] → (messages.foldl (convAppend now) c).lastActive = now) := by
  induction messages generalizing c with
  | nil => exact ⟨rfl, fun more => absurd rfl more⟩
  | cons m rest ih =>
    have ⟨callerId, lastActive⟩ := ih (convAppend now c m)
    refine ⟨callerId, fun _ => ?_⟩
    cases rest with
    | nil => rfl
    | cons next more => exact lastActive (List.cons_ne_nil next more)

theorem unused_free : ¬ Conversation.Used unused := by
  simp [Conversation.Used, unused]

theorem separate_map {convs : List Conversation} {log : List Entry} (separate : Separate convs log)
    {f : Conversation → Conversation} (freed : ∀ c, f c = c ∨ f c = unused) :
    Separate (convs.map f) log := by
  constructor
  next => simpa using separate.places
  next =>
    intro m n c d left right used also same
    rw [List.getElem?_map, Option.map_eq_some_iff] at left right
    obtain ⟨a, here, rfl⟩ := left
    obtain ⟨b, there, rfl⟩ := right
    rcases freed a with keeps | frees
    next =>
      rcases freed b with keeps' | frees'
      next =>
        rw [keeps] at used same
        rw [keeps'] at also same
        exact separate.single m n a b here there used also same
      next => exact absurd (frees' ▸ also) unused_free
    next => exact absurd (frees ▸ used) unused_free
  next =>
    intro c member
    obtain ⟨a, listed, rfl⟩ := List.mem_map.mp member
    rcases freed a with keeps | frees
    next => rw [keeps]; exact separate.held a listed
    next => rw [frees]; exact List.nil_suffix
  next =>
    intro c member more
    obtain ⟨a, listed, rfl⟩ := List.mem_map.mp member
    rcases freed a with keeps | frees
    next =>
      rw [keeps] at more ⊢
      exact separate.active a listed more
    next => exact absurd rfl (frees ▸ more)

def Alone (convs : List Conversation) (slot : Nat) (callerId : Int) : Prop :=
  -- No other slot is the caller's.
  ∀ n d, convs[n]? = some d → Conversation.Used d → d.callerId = callerId → n = slot

/-- Messages are appended to the slot of their caller. -/
theorem separate_append {convs : List Conversation} {log : List Entry} (separate : Separate convs log)
    {slot : Nat} {c : Conversation} (found : convs[slot]? = some c)
    (alone : Alone convs slot c.callerId) {messages : List Message} (some : messages ≠ [])
    (now : Int) :
    Separate (convs.set slot (messages.foldl (convAppend now) c))
      (log ++ messages.map fun m => ⟨c.callerId, now, stored m⟩) := by
  obtain ⟨callerId, lastActive⟩ := appended_fields now c messages
  have bound : slot < convs.length := (List.getElem?_eq_some_iff.mp found).1
  have elsewhere {n : Nat} {d : Conversation} (apart : slot ≠ n)
      (there : (convs.set slot (messages.foldl (convAppend now) c))[n]? = .some d) :
      convs[n]? = .some d := by rwa [List.getElem?_set_ne apart] at there
  have here {d : Conversation}
      (there : (convs.set slot (messages.foldl (convAppend now) c))[slot]? = .some d) :
      messages.foldl (convAppend now) c = d := by
    rw [List.getElem?_set_self bound] at there
    exact Option.some.inj there
  constructor
  next => simpa using separate.places
  next =>
    intro m n d e left right used also same
    by_cases first : slot = m
    next =>
      by_cases second : slot = n
      next => exact first.symm.trans second
      next =>
        subst first
        have := here left
        subst this
        exact (alone n e (elsewhere second right) also (same.symm.trans callerId)).symm
    next =>
      by_cases second : slot = n
      next =>
        subst second
        have := here right
        subst this
        exact alone m d (elsewhere first left) used (same.trans callerId)
      next => exact separate.single m n d e (elsewhere first left) (elsewhere second right) used also same
  next =>
    intro d member
    obtain ⟨n, there⟩ := List.getElem?_of_mem member
    rw [own_append, own_entries]
    by_cases mine : slot = n
    next =>
      subst mine
      have := here there
      subst this
      rw [callerId, if_pos rfl, appended_messages]
      exact Exchange.pushes_suffix (separate.held c (List.mem_of_getElem? found)) _
    next =>
      have before := elsewhere mine there
      have held := separate.held d (List.mem_of_getElem? before)
      split
      next same =>
        -- The slot of nobody is empty.
        have free : ¬ Conversation.Used d := fun used => mine (alone n d before used same.symm).symm
        have empty : d.messages = [] := by
          by_contra more
          exact free (.inr more)
        rw [empty]
        exact List.nil_suffix
      next => rwa [List.append_nil]
  next =>
    intro d member more
    obtain ⟨n, there⟩ := List.getElem?_of_mem member
    by_cases mine : slot = n
    next =>
      subst mine
      have := here there
      subst this
      obtain ⟨m, listed⟩ := List.exists_mem_of_ne_nil _ some
      exact ⟨⟨c.callerId, now, stored m⟩,
        List.mem_append_right _ (List.mem_map.mpr ⟨m, listed, rfl⟩), callerId.symm,
        (lastActive some).symm⟩
    next =>
      obtain ⟨e, listed, same, time⟩ :=
        separate.active d (List.mem_of_getElem? (elsewhere mine there)) more
      exact ⟨e, List.mem_append_left _ listed, same, time⟩

theorem modify_found {A : Type} {list : List A} {n : Nat} {a : A} (found : list[n]? = some a)
    (f : A → A) : list.modify n f = list.set n (f a) := by
  simp [List.modify_eq_set_getElem?, found]

theorem separate_claim {convs : List Conversation} {log : List Entry} (separate : Separate convs log)
    {slot : Nat} (bound : slot < convs.length) {callerId : Int}
    (free : ∀ d ∈ convs, Conversation.Used d → d.callerId ≠ callerId) (now : Int) :
    Separate (convs.set slot ⟨callerId, now, []⟩) log ∧
      Alone (convs.set slot ⟨callerId, now, []⟩) slot callerId := by
  -- A slot is given to a caller who has none.
  have alone : Alone (convs.set slot ⟨callerId, now, []⟩) slot callerId := by
    intro n d there used same
    by_contra apart
    rw [List.getElem?_set_ne (Ne.symm apart)] at there
    exact free d (List.mem_of_getElem? there) used same
  have either {d : Conversation} (member : d ∈ convs.set slot ⟨callerId, now, []⟩) :
      d ∈ convs ∨ d.messages = [] := by
    rcases List.mem_or_eq_of_mem_set member with old | rfl
    next => exact .inl old
    next => exact .inr rfl
  refine ⟨⟨by simpa using separate.places, ?_, ?_, ?_⟩, alone⟩
  next =>
    intro m n d e left right used also same
    by_cases mine : d.callerId = callerId
    next => exact (alone m d left used mine).trans (alone n e right also (same.symm.trans mine)).symm
    next =>
      have first : slot ≠ m := by
        rintro rfl
        rw [List.getElem?_set_self bound] at left
        exact mine (Option.some.inj left ▸ rfl)
      have second : slot ≠ n := by
        rintro rfl
        rw [List.getElem?_set_self bound] at right
        exact mine (same.trans (Option.some.inj right ▸ rfl))
      rw [List.getElem?_set_ne first] at left
      rw [List.getElem?_set_ne second] at right
      exact separate.single m n d e left right used also same
  next =>
    intro d member
    rcases either member with old | empty
    next => exact separate.held d old
    next => exact empty ▸ List.nil_suffix
  next =>
    intro d member more
    rcases either member with old | empty
    next => exact separate.active d old more
    next => exact absurd empty more

theorem cleanup_separate {convs : List Conversation} {log : List Entry} (separate : Separate convs log)
    (timeoutS now : Int) : Separate (convCleanupExpired timeoutS now convs) log := by
  refine separate_map separate fun c => ?_
  split
  next => exact .inl rfl
  next =>
    split
    next => exact .inr rfl
    next => exact .inl rfl

theorem oldest_bound {convs : List Conversation} (places : convs.length = maxConversations) :
    oldest convs < convs.length := by
  unfold oldest
  cases found : convs.findIdx? fun c => convs.all fun other => c.lastActive ≤ other.lastActive with
  | none => simp [places, maxConversations]
  | some slot => exact (List.findIdx?_eq_some_iff_findIdx_eq.mp found).1

/-- The slot that is looked up is the caller's and nobody else's. -/
theorem lookup_separate {convs : List Conversation} {log : List Entry} (separate : Separate convs log)
    (timeoutS now callerId : Int) :
    Separate (convLookupOrCreate timeoutS now callerId convs).1 log ∧
      ∃ c, (convLookupOrCreate timeoutS now callerId convs).1[
        (convLookupOrCreate timeoutS now callerId convs).2]? = some c ∧ c.callerId = callerId ∧
        Alone (convLookupOrCreate timeoutS now callerId convs).1
          (convLookupOrCreate timeoutS now callerId convs).2 callerId := by
  have cleaned := cleanup_separate separate timeoutS now
  unfold convLookupOrCreate
  generalize convCleanupExpired timeoutS now convs = table at cleaned
  dsimp only
  split
  next slot found =>
    obtain ⟨bound, mine, -⟩ := List.findIdx?_eq_some_iff_getElem.mp found
    obtain ⟨same, used⟩ : table[slot].callerId = callerId ∧
        (callerId ≠ 0 ∨ table[slot].messages ≠ []) := by simpa using mine
    have here : table[slot]? = some table[slot] := List.getElem?_eq_getElem bound
    refine ⟨cleaned, table[slot], here, same, ?_⟩
    intro n d there also owned
    have taken : Conversation.Used table[slot] := used.imp_left fun some => by rwa [same]
    exact cleaned.single n slot d table[slot] there here also taken (owned.trans same.symm)
  next missing =>
    have free : ∀ d ∈ table, Conversation.Used d → d.callerId ≠ callerId := by
      intro d member used same
      have := List.findIdx?_eq_none_iff.mp missing d member
      simp only [same, true_and, decide_eq_false_iff_not, not_or, not_not] at this
      rcases used with some | more
      next => exact some (same.trans this.1)
      next => exact more this.2
    split
    next slot found =>
      obtain ⟨bound, mine, -⟩ := List.findIdx?_eq_some_iff_getElem.mp found
      obtain ⟨-, empty⟩ : table[slot].callerId = 0 ∧ table[slot].messages = [] := by simpa using mine
      have taken : table.modify slot (fun c => { c with callerId := callerId, lastActive := now }) =
          table.set slot ⟨callerId, now, []⟩ := by
        rw [modify_found (List.getElem?_eq_getElem bound), empty]
      rw [taken]
      have ⟨after, alone⟩ := separate_claim cleaned bound free now
      exact ⟨after, _, List.getElem?_set_self bound, rfl, alone⟩
    next =>
      have bound := oldest_bound cleaned.places
      have ⟨after, alone⟩ := separate_claim cleaned bound free now
      exact ⟨after, _, List.getElem?_set_self bound, rfl, alone⟩

/-! ## The assistant -/

def Holding (ai : Assistant) : Prop :=
  -- The slot of the turn is its caller's.
  ∀ t ∈ ai.turn, ∃ c, ai.convs[t.slot]? = some c ∧ c.callerId = t.callerId ∧ c.messages ≠ []

structure Sound (ai : Assistant) (log : List Entry) : Prop where
  separate : Separate ai.convs log
  holding : Holding ai

theorem holding_idle {ai : Assistant} (idle : ai.turn = none) : Holding ai := by
  intro t turn
  rw [idle] at turn
  cases turn

/-- The turn's slot after messages were appended to it. -/
theorem append_holds {convs : List Conversation} {slot : Nat} {c : Conversation}
    (found : convs[slot]? = some c) {messages : List Message} (some : messages ≠ []) (now : Int) :
    ∃ d, (convs.set slot (messages.foldl (convAppend now) c))[slot]? = Option.some d ∧
      d.callerId = c.callerId ∧ d.messages ≠ [] := by
  have bound : slot < convs.length := (List.getElem?_eq_some_iff.mp found).1
  refine ⟨_, List.getElem?_set_self bound, (appended_fields now c messages).1, ?_⟩
  rw [appended_messages]
  exact Exchange.pushes_ne_nil (by simpa using some)

theorem begins_sound {ai : Assistant} {log : List Entry} (separate : Separate ai.convs log)
    (now callerId : Int) (callerAdmin : Bool) (transcript : Text) :
    Sound (ai.begins now callerId callerAdmin transcript)
      (log ++ [⟨callerId, now, stored (userMessage transcript)⟩]) := by
  obtain ⟨after, c, found, rfl, alone⟩ :=
    lookup_separate separate ai.cfg.conversationTimeoutS now callerId
  have placed := modify_found found fun c => convAppend now c (userMessage transcript)
  have more : [userMessage transcript] ≠ [] := List.cons_ne_nil _ _
  constructor
  next =>
    simp only [Assistant.begins, placed]
    exact separate_append after found alone more now
  next =>
    intro t turn
    obtain rfl := Option.mem_some.mp turn
    simp only [Assistant.begins, placed]
    exact append_holds found more now

theorem afterReply_eq (cjson : Text → Option (List ToolCall)) (cfg : Settings) (now : Int) (t : Turn)
    (c : Conversation) (r : Reply) (returned : List (Option Text)) :
    (afterReply cjson cfg now t c r returned).1 =
        (replyMessages cjson cfg t r returned).foldl (convAppend now) c ∧
      ∀ next ∈ (afterReply cjson cfg now t c r returned).2,
        next.slot = t.slot ∧ next.callerId = t.callerId := by
  unfold afterReply replyMessages
  dsimp only
  split
  next =>
    refine ⟨rfl, fun next same => ?_⟩
    obtain rfl := Option.mem_some.mp same
    exact ⟨rfl, rfl⟩
  next =>
    split
    next =>
      refine ⟨rfl, fun next same => ?_⟩
      obtain rfl := Option.mem_some.mp same
      exact ⟨rfl, rfl⟩
    next => exact ⟨rfl, fun next same => by cases same⟩

theorem conv_found {ai : Assistant} {slot : Nat} {c : Conversation}
    (found : ai.convs[slot]? = some c) : ai.conv slot = c := by
  simp [Assistant.conv, List.getD_eq_getElem?_getD, found]

theorem request_messages {ai : Assistant} {t : Turn} (turn : ai.turn = some t)
    {messages : List Message} (asked : messages ∈ ai.request) :
    messages = (ai.conv t.slot).messages := by
  obtain ⟨json, -, same⟩ : ∃ json, buildRequestJson ai.cfg (ai.conv t.slot).messages
      t.forceNoTools = some json ∧ (ai.conv t.slot).messages = messages := by
    simpa [Assistant.request, turn, Option.map_eq_some_iff] using asked
  exact same.symm

theorem sound_request {ai : Assistant} {log : List Entry} (sound : Sound ai log) :
    ∀ t ∈ ai.turn, ∀ messages ∈ ai.request, messages <:+ own log t.callerId := by
  intro t turn messages asked
  obtain ⟨c, found, same, -⟩ := sound.holding t turn
  rw [request_messages turn asked, conv_found found, ← same]
  exact sound.separate.held c (List.mem_of_getElem? found)

theorem post_sound (cjson : Text → Option (List ToolCall)) {s : System} {log : List Entry}
    (sound : Sound s.ai log) (outcome : Outcome) (returned : List (Option Text)) (now : Int) :
    Sound (s.ai.post cjson outcome returned now)
      (log ++ appended cjson s (.post outcome returned now)) := by
  cases turn : s.ai.turn with
  | none =>
    have same : s.ai.post cjson outcome returned now = s.ai := by simp [Assistant.post, turn]
    have nothing : appended cjson s (.post outcome returned now) = [] := by
      cases outcome <;> simp [appended, turn]
    simpa [same, nothing] using sound
  | some t =>
    have ended : Sound { s.ai with turn := none } log := ⟨sound.separate, holding_idle rfl⟩
    cases asked : s.ai.request with
    | none =>
      have nothing : appended cjson s (.post outcome returned now) = [] := by
        cases outcome <;> simp [appended, turn, asked]
      simpa [Assistant.post, turn, asked, nothing] using ended
    | some messages =>
      cases outcome with
      | failed => simpa [Assistant.post, turn, asked, appended] using ended
      | replied r =>
        obtain ⟨c, found, same, more⟩ := sound.holding t turn
        have ⟨conv, next⟩ := afterReply_eq cjson s.ai.cfg now t c r returned
        have some : replyMessages cjson s.ai.cfg t r returned ≠ [] := List.cons_ne_nil _ _
        have after : s.ai.post cjson (.replied r) returned now =
            { s.ai with
              convs := s.ai.convs.set t.slot
                ((replyMessages cjson s.ai.cfg t r returned).foldl (convAppend now) c)
              turn := (afterReply cjson s.ai.cfg now t c r returned).2 } := by
          simp [Assistant.post, turn, asked, conv_found found, conv]
        have alone : Alone s.ai.convs t.slot c.callerId := fun n d there used owned =>
          sound.separate.single n t.slot d c there found used (.inr more) owned
        rw [after]
        constructor
        next =>
          simpa [appended, turn, asked, same] using
            separate_append sound.separate found alone some now
        next =>
          intro u left
          obtain ⟨slot, callerId⟩ := next u left
          obtain ⟨d, there, owned, full⟩ := append_holds found some now
          exact ⟨d, by rw [slot]; exact there, owned.trans (same.trans callerId.symm), full⟩

theorem map_sound {ai : Assistant} {log : List Entry} (sound : Sound ai log) (idle : ai.turn = none)
    {f : Conversation → Conversation} (freed : ∀ c, f c = c ∨ f c = unused) :
    Sound { ai with convs := ai.convs.map f } log :=
  ⟨separate_map sound.separate freed, holding_idle idle⟩

/-! ## Runs -/

section Steps

variable {cjson : Text → Option (List ToolCall)} {env : Station} {s : System} {log : List Entry}

@[simp] theorem submit_ai (s : System) (transcript : Text) (callerId speaker : Int) :
    (s.submit transcript callerId speaker).ai = s.ai := by
  unfold System.submit System.enqueueRequest
  split
  next => rfl
  next => split <;> rfl

@[simp] theorem onAnnouncement_ai (s : System) (transcript : Text) (speaker : Int) :
    (s.onAnnouncement env transcript speaker).ai = s.ai := by
  unfold System.onAnnouncement
  split
  next => rfl
  next =>
    split
    next => exact submit_ai ..
    next =>
      split
      next => exact submit_ai ..
      next => split <;> simp

theorem transcribed_ai (s : System) (text : Option Text) : (s.transcribed env text).ai = s.ai := by
  unfold System.transcribed
  split
  next => rfl
  next => cases text <;> simp

theorem recording_ai (s : System) (long : Bool) :
    (s.onCorDrop env long).ai = s.ai ∧ (s.onVcorDrop long).ai = s.ai ∧
      (s.takeRecording env).ai = s.ai ∧ s.dequeue.ai = s.ai := by
  refine ⟨?_, ?_, ?_, ?_⟩
  next =>
    unfold System.onCorDrop
    split
    next => rfl
    next =>
      dsimp only
      split
      next => rfl
      next => split <;> rfl
  next =>
    unfold System.onVcorDrop
    split
    next => rfl
    next =>
      dsimp only
      split <;> rfl
  next =>
    unfold System.takeRecording
    split <;> rfl
  next =>
    unfold System.dequeue
    split
    next => rfl
    next => split <;> rfl

theorem resume_sound (sound : Sound s.ai log) (now : Int) : Sound (s.resume now).ai log := by
  unfold System.resume
  split
  next => exact sound
  next =>
    split
    next => exact sound
    next idle =>
      have cleaned : Sound (s.ai.cleanup now) log :=
        ⟨cleanup_separate sound.separate _ now, holding_idle (by simpa [Assistant.cleanup] using idle)⟩
      dsimp only
      split
      next => simpa using cleaned
      next => exact cleaned

theorem onDtmfAi_sound (sound : Sound s.ai log) (arg : Text) : Sound (s.onDtmfAi arg).ai log := by
  unfold System.onDtmfAi
  split
  next => exact sound
  next =>
    split
    next idle =>
      refine map_sound sound idle.2 fun c => ?_
      split
      next => exact .inr rfl
      next => exact .inl rfl
    next => exact sound

theorem beginTurn_sound (sound : Sound s.ai log) (now : Int) (disabled : Bool) :
    Sound (s.beginTurn now disabled).ai (log ++ appended cjson s (.beginTurn now disabled)) := by
  unfold System.beginTurn
  cases taken : s.taken with
  | none => cases disabled <;> simpa [appended, taken] using sound
  | some r =>
    cases disabled with
    | true => simpa [appended] using sound
    | false =>
      simpa [appended, taken] using
        begins_sound sound.separate now r.callerId (callerIsAdminP s r.callerId) r.transcript

theorem happen_sound (sound : Sound s.ai log) (h : Happening) :
    Sound (happen cjson env s h).ai (log ++ appended cjson s h) := by
  have same {ai : Assistant} (ai_ : ai = s.ai) : Sound ai (log ++ []) := by
    rw [ai_, List.append_nil]
    exact sound
  have recording (long : Bool) : (s.onCorDrop env long).ai = s.ai ∧ (s.onVcorDrop long).ai = s.ai ∧
      (s.takeRecording env).ai = s.ai ∧ s.dequeue.ai = s.ai := recording_ai s long
  cases h with
  | resume now => simpa [appended, happen] using resume_sound sound now
  | dtmfAi arg => simpa [appended, happen] using onDtmfAi_sound sound arg
  | beginTurn now disabled => exact beginTurn_sound sound now disabled
  | post outcome returned now => exact post_sound cjson sound outcome returned now
  | transcribed text => exact same (transcribed_ai s text)
  | corDrop long => exact same (recording long).1
  | vcorDrop long => exact same (recording long).2.1
  | takeRecording => exact same (recording false).2.2.1
  | dequeue => exact same (recording false).2.2.2
  | vcorAssert userId ready =>
    refine same ?_
    simp only [happen, System.onVcorAssert]
    split <;> rfl
  | corAssert | callerIdentified | callerCleared | setOtpElevated | setAdmins => exact same rfl

theorem step_sound {t : Session} (sound : Sound t.sys.ai t.log) (i : Input) :
    Sound (step cjson env t i).sys.ai (step cjson env t i).log := by
  cases i with
  | happening h => exact happen_sound sound h
  | ask text =>
    simp only [step, System.enqueueRequest]
    split <;> exact sound
  | reset =>
    simp only [step]
    split
    next => exact sound
    next idle => exact map_sound sound (by simpa using idle) fun _ => .inr rfl
  | configure cfg => exact ⟨sound.separate, sound.holding⟩

/-! ## What is queued -/

theorem onAnnouncement_triggered {transcript : Text} {speaker : Int}
    (queued : (s.onAnnouncement env transcript speaker).queue ≠ s.queue) :
    Triggered env s transcript := by
  unfold System.onAnnouncement at queued
  split at queued
  next => exact absurd rfl queued
  next =>
    split at queued
    next always => exact .inl always
    next =>
      split at queued
      next armed => exact .inr (.inl armed)
      next =>
        split at queued
        next => exact absurd rfl queued
        next toSend _ found => exact .inr (.inr (by simp [found]))
        next => exact absurd rfl queued

theorem transcribed_triggered {text : Text}
    (queued : (s.transcribed env (some text)).queue ≠ s.queue) : Triggered env s text := by
  unfold System.transcribed at queued
  split at queued
  next => exact absurd rfl queued
  next speaker _ => exact onAnnouncement_triggered (s := { s with transcribing := none }) queued

theorem resume_recent {t : Session} (sound : Sound t.sys.ai t.log) {now : Int}
    (proper : Input.Proper t (.happening (.resume now)))
    (queued : (t.sys.resume now).queue ≠ t.sys.queue) :
    ∀ w ∈ t.sys.waiting, Recent t w.callerId now := by
  intro w waits
  have waits : t.sys.waiting = some w := waits
  simp only [System.resume, waits] at queued
  split at queued
  next => exact absurd rfl queued
  next =>
    split at queued
    next open_ =>
      obtain ⟨c, member, found⟩ := List.any_eq_true.mp open_
      simp only [Bool.and_eq_true, decide_eq_true_eq, Bool.not_eq_true', List.isEmpty_eq_false_iff]
        at found
      obtain ⟨same, more⟩ := found
      obtain ⟨a, listed, left⟩ := List.mem_map.mp member
      -- It was there before the clean-up, and has not run out.
      have recent : a = c ∧ now - c.lastActive ≤ t.sys.ai.cfg.conversationTimeoutS := by
        split at left
        next nobody =>
          subst left
          exact ⟨rfl, proper w waits (same.symm.trans nobody) a listed nobody more⟩
        next =>
          split at left
          next =>
            subst left
            exact absurd rfl more
          next fresh =>
            subst left
            exact ⟨rfl, by omega⟩
      obtain ⟨rfl, recent⟩ := recent
      obtain ⟨e, logged, owner, time⟩ := sound.separate.active a listed more
      exact ⟨e, logged, owner.trans same, by rw [time]; exact recent⟩
    next => exact absurd rfl queued

theorem sound_answered {t : Session} (sound : Sound t.sys.ai t.log) {i : Input} (proper : i.Proper t) :
    Answered cjson env t i := by
  unfold Answered
  split
  next => exact transcribed_triggered
  next now => exact resume_recent sound proper
  next => trivial

end Steps

theorem booted_sound (env : Station) : Sound (booted env).sys.ai (booted env).log := by
  refine ⟨⟨rfl, ?_, ?_, ?_⟩, holding_idle rfl⟩
  next =>
    intro m n c d left _ used
    have member := List.mem_of_getElem? left
    have free : c = unused := List.eq_of_mem_replicate member
    exact absurd (free ▸ used) unused_free
  next =>
    intro c member
    rw [show c = unused from List.eq_of_mem_replicate member]
    exact List.nil_suffix
  next =>
    intro c member more
    rw [show c = unused from List.eq_of_mem_replicate member] at more
    exact absurd rfl more

/-- In every run in which no transcript of an unidentified caller finds an unidentified conversation
that has run out, the conversations are apart and expire. -/
theorem conversations_apart (cjson : Text → Option (List ToolCall)) (env : Station)
    (inputs : List Input)
    (proper : Machine.Guarded (step cjson env) (fun s i => i.Proper s) (booted env) inputs) :
    Machine.Guarded (step cjson env) (Apart cjson env) (booted env) inputs :=
  Machine.guarded_of_invariant (step cjson env) (P := fun s => Sound s.sys.ai s.log)
    (fun _ i sound ok => ⟨step_sound sound i,
      sound.separate.single, sound_request sound, sound_answered sound ok⟩)
    (booted_sound env) proper

/-! ## A conversation that never runs out -/

def noTools (_ : Text) : Option (List ToolCall) :=
  none

def byPhrase : Station where
  mode := .batch
  trigger := .wakePhrase
  wakePhrase := "kerchunk".toList
  settings := defaultSettings "[]".toList

def spoken (text : Text) : List Input :=
  [.happening (.corAssert 1 true), .happening (.corDrop true), .happening .takeRecording,
    .happening (.transcribed (some text))]

def turnAt (now : Int) : List Input :=
  [.happening .dequeue, .happening (.beginTurn now false), .happening (.post .failed [] now)]

/-- Two turns of a caller, the second without the wake phrase. -/
def followUp : List Input :=
  .happening (.callerIdentified 1) :: spoken "kerchunk hello".toList ++ turnAt 0 ++
    spoken "hello".toList ++ [.happening (.resume 200)] ++ turnAt 200

theorem followUp_apart :
    Machine.Guarded (step noTools byPhrase) (Apart noTools byPhrase) (booted byPhrase) followUp :=
  conversations_apart noTools byPhrase followUp (by decide +kernel)

def unidentified : List Input :=
  spoken "kerchunk hello".toList ++ turnAt 0 ++ spoken "hello".toList

/-- A transcript of an unidentified caller is answered days after the last turn. -/
theorem unidentified_stays :
    ¬ ∀ cjson env inputs, Machine.Guarded (step cjson env) (Apart cjson env) (booted env) inputs := by
  intro always
  have guarded := always noTools byPhrase (unidentified ++ [.happening (.resume 1000000)])
  have answered := ((Machine.guarded_append ..).mp guarded).2.1.answered
  let s := Machine.run (step noTools byPhrase) (booted byPhrase) unidentified
  have facts : (step noTools byPhrase s (.happening (.resume 1000000))).sys.queue ≠ s.sys.queue ∧
      s.sys.waiting.isSome = true ∧ ∀ w ∈ s.sys.waiting, ¬ Recent s w.callerId 1000000 := by
    decide +kernel
  obtain ⟨queued, waits, late⟩ := facts
  obtain ⟨w, found⟩ := Option.isSome_iff_exists.mp waits
  exact late w found (answered queued w found)

end Kerchunk.Ai.Conversations
