import Kerchunk.Ai.Model
import Kerchunk.Lib.Json
import Kerchunk.Lib.Machine

set_option autoImplicit false

/-!
# The history of a conversation

What a request says about tool calls and their results.
-/

namespace Kerchunk.Ai

open Kerchunk.Config (Text bounded)

/-! ## Runs -/

inductive Input where
  | ask (now callerId : Int) (callerAdmin : Bool) (transcript : Text)
  | post (outcome : Outcome) (returned : List (Option Text)) (now : Int)
  | cleanup (now : Int)
  | forget (callerId : Int)
  | reset
  | configure (cfg : Settings)

section Runs

variable (cjson : Text → Option (List ToolCall))

def step (s : Assistant) : Input → Assistant
  | .ask now callerId callerAdmin transcript =>
    if s.turn.isSome then s else s.begins now callerId callerAdmin transcript
  | .post outcome returned now => s.post cjson outcome returned now
  -- The table is locked during a turn.
  | .cleanup now => if s.turn.isSome then s else s.cleanup now
  | .forget callerId => if s.turn.isSome then s else s.forget callerId
  | .reset => if s.turn.isSome then s else s.reset
  | .configure cfg => { s with cfg := cfg }

/-! ## What is asked for -/

def Message.answers (m : Message) : Bool :=
  m.role = .tool

def Message.calls (m : Message) : List (Option Text) :=
  -- The ids of the calls of an assistant message.
  if m.role = .assistant then (entries cjson m.toolCallsJson).map (·.id) else []

def Message.key (m : Message) : Option Text :=
  -- The id of a tool message, as the request tells it: it is written as it is.
  if m.toolCallId = [] then none
  else
    ((Json.readString (m.toolCallId.length + 1) (m.toolCallId ++ ['"'])).filter
      fun r => r.2.isEmpty).map Prod.fst

abbrev Sound (messages : List Message) : Prop :=
  Exchange.WellFormed Message.answers (Message.calls cjson) Message.key messages

def SoundRequest (s : Assistant) : Input → Prop
  -- Every request that is posted has a sound history.
  | .post .. => ∀ messages, s.request = some messages → Sound cjson messages
  | _ => True

/-! ## What it takes -/

/-- The call names a function and has an id that its answer can tell. -/
structure Answerable (call : ToolCall) : Prop where
  named : call.function.isSome = true
  told : ∃ id ∈ call.id, id ≠ [] ∧ id.length < 64 ∧ Json.Plain id

instance (call : ToolCall) : Decidable (Answerable call) :=
  decidable_of_iff (_ ∧ _) ⟨fun both => ⟨both.1, both.2⟩, fun a => ⟨a.named, a.told⟩⟩

/-- What the appended messages push out of the conversation ends with a whole group. -/
structure Kept (messages : List Message) (added : Nat) : Prop where
  within : messages.length + added - maxMessagesPerConv ≤ messages.length
  boundary : ∀ m ∈ (messages.drop (messages.length + added - maxMessagesPerConv)).head?,
    m.answers = false

instance (messages : List Message) (added : Nat) : Decidable (Kept messages added) :=
  decidable_of_iff (_ ∧ _) ⟨fun both => ⟨both.1, both.2⟩, fun k => ⟨k.within, k.boundary⟩⟩

/-- A new message finds the conversation with room or with a first message that has no answers. A
reply with tool calls is one whose calls are executed, all of them answerable. -/
def Unbroken (s : Assistant) : Input → Prop
  | .ask now callerId _ _ =>
    s.turn = none →
      let found := convLookupOrCreate s.cfg.conversationTimeoutS now callerId s.convs
      Kept (found.1.getD found.2 unused).messages 1
  | .post (.replied r) _ _ =>
    ∀ t ∈ s.turn, s.request ≠ none →
      let calls := entries cjson r.toolCallsJson
      Kept (s.conv t.slot).messages (1 + calls.length) ∧ (∀ call ∈ calls, Answerable call) ∧
        (calls ≠ [] → executes s.cfg t r = true)
  | _ => True

instance (s : Assistant) : (i : Input) → Decidable (Unbroken cjson s i)
  | .ask .. => inferInstanceAs (Decidable (_ → Kept _ 1))
  | .post (.replied r) .. =>
    inferInstanceAs (Decidable (∀ t ∈ s.turn, s.request ≠ none → Kept _ _ ∧
      (∀ call ∈ entries cjson r.toolCallsJson, Answerable call) ∧
        (entries cjson r.toolCallsJson ≠ [] → executes s.cfg t r = true)))
  | .post .failed .. | .cleanup _ | .forget _ | .reset | .configure _ =>
    inferInstanceAs (Decidable True)

end Runs

/-! ## Replies to tool calls -/

theorem key_told {id : Text} (more : id ≠ []) (short : id.length < 64) (plain : Json.Plain id)
    (content toolCallsJson : Option Text) :
    Message.key { role := .tool, content, toolCallsJson, toolCallId := bounded 64 id } = some id := by
  have whole : bounded 64 id = id := List.take_of_length_le (by omega)
  have reads := Json.readString_plain plain [] (Nat.lt_succ_self id.length)
  simp [Message.key, whole, more, reads]

def stored (m : Message) : Message :=
  { m with toolCallId := bounded 64 m.toolCallId }

/-- The message tells the result of the call. -/
structure Tells (m : Message) (call : ToolCall) : Prop where
  role : m.role = .tool
  id : m.toolCallId = call.id.getD "call_0".toList

theorem mem_toolReplies {calls : List ToolCall} {callerAdmin : Bool} {returned : List (Option Text)}
    {m : Message} (member : m ∈ toolReplies calls callerAdmin returned) :
    ∃ call ∈ calls, Tells m call := by
  have single : ∀ {call : ToolCall} {r : Option Text},
      m ∈ (call.reply callerAdmin r).toList → Tells m call := by
    intro call r found
    simp only [ToolCall.reply, Option.mem_toList, Option.map_eq_some_iff] at found
    obtain ⟨f, -, rfl⟩ := found
    exact ⟨rfl, rfl⟩
  induction calls generalizing returned with
  | nil => simp [toolReplies] at member
  | cons call rest ih =>
    have cases : (∃ r, m ∈ (call.reply callerAdmin r).toList) ∨
        ∃ later, m ∈ toolReplies rest callerAdmin later := by
      cases returned with
      | nil => exact (List.mem_append.mp member).imp (fun now => ⟨_, now⟩) fun later => ⟨_, later⟩
      | cons r returned =>
        exact (List.mem_append.mp member).imp (fun now => ⟨_, now⟩) fun later => ⟨_, later⟩
    rcases cases with ⟨r, now⟩ | ⟨returned, later⟩
    next => exact ⟨call, by simp, single now⟩
    next =>
      obtain ⟨other, listed, tells⟩ := ih later
      exact ⟨other, by simp [listed], tells⟩

theorem reply_named {call : ToolCall} (named : call.function.isSome = true) (callerAdmin : Bool)
    (returned : Option Text) : ∃ m, call.reply callerAdmin returned = some m ∧ Tells m call := by
  obtain ⟨f, found⟩ := Option.isSome_iff_exists.mp named
  exact ⟨_, by rw [ToolCall.reply, found, Option.map_some], rfl, rfl⟩

theorem toolReplies_named {calls : List ToolCall} (named : ∀ call ∈ calls, call.function.isSome = true)
    (callerAdmin : Bool) (returned : List (Option Text)) :
    (toolReplies calls callerAdmin returned).length = calls.length ∧
      ∀ call ∈ calls, ∃ m ∈ toolReplies calls callerAdmin returned, Tells m call := by
  induction calls generalizing returned with
  | nil => simp [toolReplies]
  | cons call rest ih =>
    have step : ∀ (r : Option Text) (later : List (Option Text)),
        ((call.reply callerAdmin r).toList ++ toolReplies rest callerAdmin later).length =
            rest.length + 1 ∧
          ∀ c ∈ call :: rest, ∃ m ∈ (call.reply callerAdmin r).toList ++
            toolReplies rest callerAdmin later, Tells m c := by
      intro r later
      obtain ⟨count, each⟩ := ih (fun c member => named c (by simp [member])) later
      obtain ⟨m, found, tells⟩ := reply_named (named call (by simp)) callerAdmin r
      rw [found]
      refine ⟨by simp [count], fun c member => ?_⟩
      rcases List.mem_cons.mp member with rfl | listed
      next => exact ⟨m, by simp, tells⟩
      next =>
        obtain ⟨other, among, told⟩ := each c listed
        exact ⟨other, by simp [among], told⟩
    cases returned with
    | nil => exact step none []
    | cons r later => exact step r later

theorem replies_answer (cjson : Text → Option (List ToolCall)) (r : Reply) (callerAdmin : Bool)
    (returned : List (Option Text))
    (answerable : ∀ call ∈ entries cjson r.toolCallsJson, Answerable call) :
    Exchange.Answers Message.answers (Message.calls cjson) Message.key (stored (assistantMessage r))
      ((toolReplies (entries cjson r.toolCallsJson) callerAdmin returned).map stored) := by
  have asked : Message.calls cjson (stored (assistantMessage r)) =
      (entries cjson r.toolCallsJson).map (·.id) := rfl
  have told : ∀ {m : Message} {call : ToolCall}, Tells m call → Answerable call →
      ∃ id, call.id = some id ∧ Message.key (stored m) = some id := by
    intro m call tells answers
    obtain ⟨id, same, more, short, plain⟩ := answers.told
    refine ⟨id, same, ?_⟩
    have which : m.toolCallId = id := by
      rw [tells.id, same, Option.getD_some]
    have whole : stored m =
        { role := .tool
          content := m.content
          toolCallsJson := m.toolCallsJson
          toolCallId := bounded 64 id } := by
      simp [stored, tells.role, which]
    rw [whole]
    exact key_told more short plain m.content m.toolCallsJson
  constructor
  next => rfl
  next =>
    intro t member
    obtain ⟨m, found, rfl⟩ := List.mem_map.mp member
    obtain ⟨call, listed, tells⟩ := mem_toolReplies found
    obtain ⟨id, same, key⟩ := told tells (answerable call listed)
    have role : (stored m).role = .tool := tells.role
    refine ⟨by simp [Message.answers, role], by simp [Message.calls, role], id, key, ?_⟩
    rw [asked]
    exact List.mem_map.mpr ⟨call, listed, same⟩
  next =>
    intro wanted member
    rw [asked] at member
    obtain ⟨call, listed, rfl⟩ := List.mem_map.mp member
    obtain ⟨-, each⟩ := toolReplies_named (fun c among => (answerable c among).named) callerAdmin
      returned
    obtain ⟨m, found, tells⟩ := each call listed
    obtain ⟨id, same, key⟩ := told tells (answerable call listed)
    exact ⟨id, same, stored m, List.mem_map_of_mem found, key⟩

/-! ## One conversation -/

section Conversations

variable (cjson : Text → Option (List ToolCall))

/-- The history consists of whole groups. -/
structure Tidy (messages : List Message) : Prop where
  bounded : messages.length ≤ maxMessagesPerConv
  grouped : Exchange.Grouped Message.answers (Message.calls cjson) Message.key messages

variable {cjson}

theorem tidy_nil : Tidy cjson [] :=
  ⟨Nat.zero_le _, .nil⟩

theorem appended_messages (now : Int) (c : Conversation) (added : List Message) :
    (added.foldl (convAppend now) c).messages =
      Exchange.pushes maxMessagesPerConv c.messages (added.map stored) := by
  induction added generalizing c with
  | nil => rfl
  | cons m rest ih => exact ih (convAppend now c m)

theorem pushes_tidy {messages : List Message} (tidy : Tidy cjson messages) {m : Message}
    {answers : List Message}
    (group : Exchange.Answers Message.answers (Message.calls cjson) Message.key m answers)
    (kept : Kept messages (1 + answers.length)) :
    Tidy cjson (Exchange.pushes maxMessagesPerConv messages (m :: answers)) := by
  have positive : 0 < maxMessagesPerConv := by decide
  refine ⟨Exchange.length_pushes tidy.bounded positive _, ?_⟩
  have count : messages.length + (m :: answers).length = messages.length + (1 + answers.length) := by
    simp
    omega
  rw [Exchange.pushes_eq tidy.bounded positive, count, List.drop_append_of_le_length kept.within]
  exact (tidy.grouped.drop _ kept.boundary).append (.single group)

theorem user_tidy {messages : List Message} (tidy : Tidy cjson messages) (kept : Kept messages 1)
    (transcript : Text) :
    Tidy cjson (Exchange.push maxMessagesPerConv messages (stored (userMessage transcript))) :=
  pushes_tidy tidy (Exchange.answers_plain rfl rfl) kept

theorem afterReply_tidy {cfg : Settings} {t : Turn} {c : Conversation} {r : Reply}
    (tidy : Tidy cjson c.messages) (now : Int) (returned : List (Option Text))
    (kept : Kept c.messages (1 + (entries cjson r.toolCallsJson).length))
    (answerable : ∀ call ∈ entries cjson r.toolCallsJson, Answerable call)
    (executed : entries cjson r.toolCallsJson ≠ [] → executes cfg t r = true) :
    Tidy cjson (afterReply cjson cfg now t c r returned).1.messages := by
  let calls := entries cjson r.toolCallsJson
  have group := replies_answer cjson r t.callerAdmin returned answerable
  have count := (toolReplies_named (fun c among => (answerable c among).named) t.callerAdmin
    returned).1
  have whole := pushes_tidy tidy group (by rwa [List.length_map, count])
  unfold afterReply
  by_cases runs : executes cfg t r = true
  next =>
    simp only [runs, if_true]
    rw [appended_messages]
    exact whole
  next =>
    have none : entries cjson r.toolCallsJson = [] := by
      by_contra some
      exact runs (executed some)
    have single : Tidy cjson (convAppend now c (assistantMessage r)).messages := by
      rw [none] at whole
      exact whole
    rw [if_neg runs]
    split <;> exact single

end Conversations

/-! ## The table -/

theorem forall_mem_modify {A : Type} {P : A → Prop} {list : List A} {f : A → A} {n : Nat}
    (each : ∀ a ∈ list, P a) (changed : ∀ a, list[n]? = some a → P (f a)) :
    ∀ a ∈ list.modify n f, P a := by
  intro a member
  obtain ⟨i, found⟩ := List.mem_iff_getElem?.mp member
  rw [List.getElem?_modify, Option.map_eq_map, Option.map_eq_some_iff] at found
  obtain ⟨old, listed, rfl⟩ := found
  split
  next same => exact changed old (same ▸ listed)
  next => exact each old (List.mem_of_getElem? listed)

theorem lookup_messages {P : List Message → Prop} (empty : P []) {convs : List Conversation}
    (each : ∀ c ∈ convs, P c.messages) (timeoutS now callerId : Int) :
    ∀ c ∈ (convLookupOrCreate timeoutS now callerId convs).1, P c.messages := by
  have cleaned : ∀ c ∈ convCleanupExpired timeoutS now convs, P c.messages := by
    intro c member
    obtain ⟨old, listed, rfl⟩ := List.mem_map.mp member
    have := each old listed
    split
    next => exact this
    next =>
      split
      next => exact empty
      next => exact this
  unfold convLookupOrCreate
  dsimp only
  split
  next => exact cleaned
  next =>
    split
    next =>
      exact forall_mem_modify cleaned fun old found => cleaned old (List.mem_of_getElem? found)
    next =>
      intro c member
      rcases List.mem_or_eq_of_mem_set member with old | rfl
      next => exact cleaned c old
      next => exact empty

/-! ## Runs -/

variable {cjson : Text → Option (List ToolCall)}

def AllTidy (cjson : Text → Option (List ToolCall)) (s : Assistant) : Prop :=
  ∀ c ∈ s.convs, Tidy cjson c.messages

theorem conv_tidy {s : Assistant} (tidy : AllTidy cjson s) (slot : Nat) :
    Tidy cjson (s.conv slot).messages := by
  unfold Assistant.conv
  rw [List.getD_eq_getElem?_getD]
  cases found : s.convs[slot]? with
  | none => exact tidy_nil
  | some c => exact tidy c (List.mem_of_getElem? found)

theorem begins_tidy {s : Assistant} (tidy : AllTidy cjson s) (now callerId : Int)
    (callerAdmin : Bool) (transcript : Text)
    (kept : let found := convLookupOrCreate s.cfg.conversationTimeoutS now callerId s.convs
      Kept (found.1.getD found.2 unused).messages 1) :
    AllTidy cjson (s.begins now callerId callerAdmin transcript) := by
  have each := lookup_messages tidy_nil tidy s.cfg.conversationTimeoutS now callerId
  refine forall_mem_modify each fun c found => user_tidy (each c (List.mem_of_getElem? found)) ?_ _
  simpa only [List.getD_eq_getElem?_getD, found, Option.getD_some] using kept

theorem post_tidy {s : Assistant} (tidy : AllTidy cjson s) {outcome : Outcome}
    (returned : List (Option Text)) (now : Int)
    (unbroken : Unbroken cjson s (.post outcome returned now)) :
    AllTidy cjson (s.post cjson outcome returned now) := by
  unfold Assistant.post
  split
  next => exact tidy
  next t turn =>
    split
    next => exact tidy
    next => exact tidy
    next messages r asked =>
      obtain ⟨kept, answerable, executed⟩ := unbroken t turn (by simp [asked])
      intro c member
      rcases List.mem_or_eq_of_mem_set member with old | rfl
      next => exact tidy c old
      next => exact afterReply_tidy (conv_tidy tidy t.slot) now returned kept answerable executed

theorem map_tidy {s : Assistant} (tidy : AllTidy cjson s) {f : Conversation → Conversation}
    (changed : ∀ c, f c = c ∨ f c = unused) : ∀ c ∈ s.convs.map f, Tidy cjson c.messages := by
  intro c member
  obtain ⟨old, listed, same⟩ := List.mem_map.mp member
  rcases changed old with kept | gone
  next => exact same ▸ kept.symm ▸ tidy old listed
  next => exact same ▸ gone.symm ▸ tidy_nil

theorem cleanup_tidy {s : Assistant} (tidy : AllTidy cjson s) (now : Int) :
    AllTidy cjson (s.cleanup now) := by
  refine map_tidy tidy fun c => ?_
  split
  next => exact Or.inl rfl
  next =>
    split
    next => exact Or.inr rfl
    next => exact Or.inl rfl

theorem forget_tidy {s : Assistant} (tidy : AllTidy cjson s) (callerId : Int) :
    AllTidy cjson (s.forget callerId) := by
  refine map_tidy tidy fun c => ?_
  split
  next => exact Or.inr rfl
  next => exact Or.inl rfl

theorem step_tidy {s : Assistant} (tidy : AllTidy cjson s) {i : Input}
    (unbroken : Unbroken cjson s i) : AllTidy cjson (step cjson s i) := by
  have unlocked : ∀ {after : Assistant}, (s.turn = none → AllTidy cjson after) →
      AllTidy cjson (if s.turn.isSome then s else after) := by
    intro after free
    split
    next => exact tidy
    next idle => exact free (by simpa using idle)
  cases i with
  | ask now callerId callerAdmin transcript =>
    exact unlocked fun idle => begins_tidy tidy now callerId callerAdmin transcript (unbroken idle)
  | post outcome returned now => exact post_tidy tidy returned now unbroken
  | cleanup now => exact unlocked fun _ => cleanup_tidy tidy now
  | forget callerId => exact unlocked fun _ => forget_tidy tidy callerId
  | reset => exact unlocked fun _ => map_tidy tidy fun _ => Or.inr rfl
  | configure => exact tidy

theorem request_sound {s : Assistant} (tidy : AllTidy cjson s) {messages : List Message}
    (posted : s.request = some messages) : Sound cjson messages := by
  simp only [Assistant.request, Option.bind_eq_some_iff, Option.map_eq_some_iff] at posted
  obtain ⟨t, -, _, -, rfl⟩ := posted
  exact (conv_tidy tidy t.slot).grouped.wellFormed

/-- While no step breaks a group, every request of the run has a sound history. -/
theorem requests_sound (cfg : Settings) (inputs : List Input) :
    Machine.Guarded (step cjson) (Unbroken cjson) (load cfg) inputs →
      Machine.Guarded (step cjson) (SoundRequest cjson) (load cfg) inputs := by
  refine Machine.guarded_of_invariant (step cjson) (P := AllTidy cjson) ?_ ?_
  next =>
    intro s i tidy unbroken
    refine ⟨step_tidy tidy unbroken, ?_⟩
    cases i with
    | post => exact fun messages posted => request_sound tidy posted
    | ask | cleanup | forget | reset | configure => trivial
  next =>
    intro c member
    rw [List.eq_of_mem_replicate member]
    exact tidy_nil

/-! ## Three rounds -/

def timeCall : Text :=
  ("[\x7b\"id\":\"call_1\",\"type\":\"function\",\"function\":" ++
    "\x7b\"name\":\"get_time\",\"arguments\":\"\x7b\x7d\"\x7d\x7d]").toList

def timeCallEntries (json : Text) : Option (List ToolCall) :=
  -- What the library makes of the text.
  if json = timeCall then
    some [{ id := some "call_1".toList
            function := some
              { name := some "get_time".toList, arguments := .text "\x7b\x7d".toList } }]
  else none

def asksForTime : Input :=
  .post (.replied { content := none, toolCallsJson := some timeCall })
    [some "\x7b\"time\":\"12:00:00\"\x7d".toList] 0

def station : Assistant :=
  load (defaultSettings "[]".toList)

def threeRounds : List Input :=
  [.ask 0 1 false "what time is it".toList, asksForTime, asksForTime, asksForTime]

theorem round_limit_unanswered :
    ¬ Machine.Guarded (step timeCallEntries) (SoundRequest timeCallEntries) station
      (threeRounds ++ [.post .failed [] 0]) := by
  rw [Machine.guarded_append]
  rintro ⟨-, sound, -⟩
  let s := Machine.run (step timeCallEntries) station threeRounds
  let last := stored (assistantMessage { content := none, toolCallsJson := some timeCall })
  have facts : s.request = some (s.conv 0).messages ∧
      (s.conv 0).messages = (s.conv 0).messages.take 5 ++ [last] := by decide +kernel
  obtain ⟨posted, ends⟩ := facts
  have answered := (sound _ posted).answered ((s.conv 0).messages.take 5) last [] ends
  obtain ⟨id, -, t, member, -⟩ := answered (some "call_1".toList) (by decide +kernel)
  cases member

/-- A conversation of two requests, the second of which tells the result of a call. -/
theorem time_told :
    Machine.Guarded (step timeCallEntries) (SoundRequest timeCallEntries) station
      [.ask 0 1 false "what time is it".toList, asksForTime,
        .post (.replied { content := some "Noon.".toList, toolCallsJson := none }) [] 0] :=
  requests_sound _ _ (by decide +kernel)

end Kerchunk.Ai
