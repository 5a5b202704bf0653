import Kerchunk.Config.Ini
import Kerchunk.Lib.Exchange

set_option autoImplicit false

/-!
# Conversations with a language model (`modules/mod_ai.c`)

The library for JSON is not part of the repository: `cjson` stands for what it makes of the text of a
`tool_calls` array.
-/

namespace Kerchunk.Ai

open Kerchunk.Config (Text bounded)

def maxConversations : Nat := 8
def maxMessagesPerConv : Nat := 20
def maxRequestBytes : Nat := 65536
def maxToolResultBytes : Nat := 4096
def maxMessageBytes : Nat := 2048

/-! ## Messages -/

inductive Role where
  | system
  | user
  | assistant
  | tool
deriving DecidableEq

def Role.name : Role → Text
  | .system => "system".toList
  | .user => "user".toList
  | .assistant => "assistant".toList
  | .tool => "tool".toList

/-- An empty `toolCallId` is none. -/
structure Message where
  role : Role
  content : Option Text
  toolCallsJson : Option Text
  toolCallId : Text
deriving DecidableEq

/-- A slot of the table; a caller id of 0 and no messages make it a free one. -/
structure Conversation where
  callerId : Int
  lastActive : Int
  messages : List Message
deriving DecidableEq

def unused : Conversation where
  -- The slot after `conv_reset`.
  callerId := 0
  lastActive := 0
  messages := []

def convAppend (now : Int) (c : Conversation) (m : Message) : Conversation :=
  { c with
    messages := Exchange.push maxMessagesPerConv c.messages
      { m with toolCallId := bounded 64 m.toolCallId }
    lastActive := now }

def userMessage (transcript : Text) : Message where
  role := .user
  content := some transcript
  toolCallsJson := none
  toolCallId := []

/-! ## The table of conversations -/

def convCleanupExpired (timeoutS now : Int) (convs : List Conversation) : List Conversation :=
  convs.map fun c =>
    if c.callerId = 0 then c else if now - c.lastActive > timeoutS then unused else c

def oldest (convs : List Conversation) : Nat :=
  -- The first slot that was active least recently.
  (convs.findIdx? fun c => convs.all fun other => c.lastActive ≤ other.lastActive).getD 0

def convLookupOrCreate (timeoutS now callerId : Int) (convs : List Conversation) :
    List Conversation × Nat :=
  let convs := convCleanupExpired timeoutS now convs
  match convs.findIdx? fun c => c.callerId = callerId ∧ (callerId ≠ 0 ∨ c.messages ≠ []) with
  | some slot => (convs, slot)
  | none =>
    match convs.findIdx? fun c => c.callerId = 0 ∧ c.messages = [] with
    | some slot =>
      (convs.modify slot fun c => { c with callerId := callerId, lastActive := now }, slot)
    | none =>
      let slot := oldest convs
      (convs.set slot { unused with callerId := callerId, lastActive := now }, slot)

/-! ## Tools -/

structure Tool where
  name : Text
  adminOnly : Bool
deriving DecidableEq

def builtinTools : List Tool :=
  -- `register_builtin_tools`
  [⟨"get_time".toList, false⟩,
    ⟨"get_weather".toList, false⟩,
    ⟨"get_forecast".toList, false⟩,
    ⟨"get_repeater_status".toList, false⟩,
    ⟨"get_stats".toList, false⟩,
    ⟨"get_nws_alerts".toList, false⟩,
    ⟨"get_user_info".toList, false⟩,
    ⟨"get_asr_history".toList, false⟩,
    ⟨"set_emergency".toList, true⟩,
    ⟨"send_page".toList, true⟩]

def toolFind (name : Text) : Option Tool :=
  builtinTools.find? fun t => t.name = name

/-- `value` is an argument that is no string, as the library prints it. -/
inductive Arguments where
  | absent
  | text (value : Text)
  | value (printed : Text)
deriving DecidableEq

structure ToolFunction where
  name : Option Text
  arguments : Arguments
deriving DecidableEq

/-- An entry of the array: its strings, as far as they are there. -/
structure ToolCall where
  id : Option Text
  function : Option ToolFunction
deriving DecidableEq

def ToolFunction.args (f : ToolFunction) : Text :=
  match f.arguments with
  | .text value => value
  | .value printed => bounded maxToolResultBytes printed
  | .absent => "\x7b\x7d".toList

def ToolFunction.tool (f : ToolFunction) (callerAdmin : Bool) : Option Tool :=
  -- The tool that is executed.
  (toolFind (f.name.getD [])).filter fun t => !(t.adminOnly && !callerAdmin)

def unknownTool (name : Text) : Text :=
  bounded 160 ("\x7b\"error\":\"unknown tool: ".toList ++ name ++ "\"\x7d".toList)

def accessDenied : Text :=
  "\x7b\"error\":\"access denied \xe2\x80\x94 admin required\"\x7d".toList

def returnedNull : Text :=
  "\x7b\"error\":\"tool returned null\"\x7d".toList

def capped (result : Text) : Text :=
  if result.length > maxToolResultBytes - 64 then
    bounded maxToolResultBytes
      (result.take (maxToolResultBytes - 64) ++ "\"...truncated\"\x7d".toList)
  else result

def ToolFunction.result (f : ToolFunction) (callerAdmin : Bool) (returned : Option Text) : Text :=
  -- `returned` is what the tool returns, should it be executed.
  match toolFind (f.name.getD []) with
  | none => unknownTool (f.name.getD [])
  | some t => if t.adminOnly && !callerAdmin then accessDenied else returned.getD returnedNull

def ToolCall.reply (call : ToolCall) (callerAdmin : Bool) (returned : Option Text) :
    Option Message :=
  call.function.map fun f =>
    { role := .tool
      content := some (capped (f.result callerAdmin returned))
      toolCallsJson := none
      toolCallId := call.id.getD "call_0".toList }

def toolReplies (calls : List ToolCall) (callerAdmin : Bool) (returned : List (Option Text)) :
    List Message :=
  -- What `execute_tool_calls` appends; `returned` goes with the calls.
  match calls, returned with
  | [], _ => []
  | call :: rest, [] => (call.reply callerAdmin none).toList ++ toolReplies rest callerAdmin []
  | call :: rest, r :: later =>
    (call.reply callerAdmin r).toList ++ toolReplies rest callerAdmin later

structure Invocation where
  tool : Tool
  args : Text
  callerId : Int
deriving DecidableEq

def invocations (calls : List ToolCall) (callerAdmin : Bool) (callerId : Int) : List Invocation :=
  -- The tools that `execute_tool_calls` executes.
  calls.filterMap fun call => call.function.bind fun f =>
    (f.tool callerAdmin).map fun t => { tool := t, args := f.args, callerId := callerId }

/-! ## Requests -/

structure Settings where
  model : Text
  maxTokens : Int
  /-- With two decimals. -/
  temperature : Text
  disableReasoning : Bool
  systemPrompt : Text
  toolsJson : Text
  conversationTimeoutS : Int
  maxToolRounds : Int

def defaultSystemPrompt : Text :=
  ("You are a radio repeater assistant. Respond concisely \xe2\x80\x94 " ++
    "your output will be spoken over radio. Keep responses under " ++
    "three sentences. Use tools for real-time data.").toList

def defaultSettings (toolsJson : Text) : Settings where
  model := []
  maxTokens := 200
  temperature := "0.30".toList
  disableReasoning := true
  systemPrompt := defaultSystemPrompt
  toolsJson := toolsJson
  conversationTimeoutS := 300
  maxToolRounds := 3

def hexDigit (n : Nat) : Char :=
  if n < 10 then Char.ofNat (48 + n) else Char.ofNat (87 + n)

def escapeChar (c : Char) : Text :=
  if c = '"' then "\\\"".toList
  else if c = '\\' then "\\\\".toList
  else if c = '\n' then "\\n".toList
  else if c = '\r' then "\\r".toList
  else if c = '\t' then "\\t".toList
  else if c.toNat < 0x20 then "\\u00".toList ++ [hexDigit (c.toNat / 16), hexDigit (c.toNat % 16)]
  else [c]

-- The buffer is always large enough.
def jsonEscape (text : Text) : Text :=
  text.flatMap escapeChar

def nonempty (text : Option Text) : Option Text :=
  text.filter fun t => !t.isEmpty

def appendMessage (first : Bool) (m : Message) : Text :=
  (if first then [] else [',']) ++ "\x7b\"role\":\"".toList ++ m.role.name ++
    "\",\"content\":\"".toList ++ jsonEscape (m.content.getD []) ++ ['"'] ++
    ((nonempty m.toolCallsJson).map fun json => ",\"tool_calls\":".toList ++ json).getD [] ++
    (if m.toolCallId = [] then []
      else ",\"tool_call_id\":\"".toList ++ m.toolCallId ++ ['"']) ++ "\x7d".toList

def systemMessage (prompt : Text) : Message where
  role := .system
  content := some prompt
  toolCallsJson := none
  toolCallId := []

def buildRequestJson (cfg : Settings) (messages : List Message) (forceNoTools : Bool) :
    Option Text :=
  -- `none` when it does not fit.
  let json := "\x7b\"model\":\"".toList ++ cfg.model ++ "\",\"max_tokens\":".toList ++
    (toString cfg.maxTokens).toList ++ ",\"temperature\":".toList ++ cfg.temperature ++
    (if cfg.disableReasoning then ",\"think\":false".toList else []) ++ ",\"messages\":[".toList ++
    appendMessage true (systemMessage cfg.systemPrompt) ++
    messages.flatMap (appendMessage false) ++ "],\"tools\":".toList ++ cfg.toolsJson ++
    ",\"tool_choice\":\"".toList ++ (if forceNoTools then "none".toList else "auto".toList) ++
    "\"\x7d".toList
  if json.length ≥ maxRequestBytes - 1 then none else some json

/-! ## Turns -/

/-- What a reply holds; the array of tool calls is not empty. -/
structure Reply where
  content : Option Text
  toolCallsJson : Option Text

def assistantMessage (r : Reply) : Message where
  role := .assistant
  content := r.content
  toolCallsJson := r.toolCallsJson
  toolCallId := []

/-- How a request ends: with no reply that can be read, or with one. -/
inductive Outcome where
  | failed
  | replied (r : Reply)

/-- The variables of `run_ai_turn`, and the slot of its conversation. -/
structure Turn where
  slot : Nat
  callerId : Int
  callerAdmin : Bool
  rounds : Nat
  forceNoTools : Bool
deriving DecidableEq

structure Assistant where
  cfg : Settings
  convs : List Conversation
  turn : Option Turn

def load (cfg : Settings) : Assistant where
  cfg := cfg
  convs := List.replicate maxConversations unused
  turn := none

section Turns

variable (cjson : Text → Option (List ToolCall))

def entries (json : Option Text) : List ToolCall :=
  ((nonempty json).bind cjson).getD []

def executes (cfg : Settings) (t : Turn) (r : Reply) : Bool :=
  -- The calls of the reply to this round are executed.
  r.toolCallsJson.isSome && !t.forceNoTools && decide ((t.rounds + 1 : Int) < cfg.maxToolRounds)

def afterReply (cfg : Settings) (now : Int) (t : Turn) (c : Conversation) (r : Reply)
    (returned : List (Option Text)) : Conversation × Option Turn :=
  -- One round of the loop of `run_ai_turn`, once a reply is there.
  let c := convAppend now c (assistantMessage r)
  if executes cfg t r then
    let replies := toolReplies (entries cjson r.toolCallsJson) t.callerAdmin returned
    (replies.foldl (convAppend now) c,
      some { t with rounds := t.rounds + 1, forceNoTools := replies.isEmpty })
  else if r.toolCallsJson.isSome && !t.forceNoTools then
    (c, some { t with rounds := t.rounds + 1, forceNoTools := true })
  else (c, none)

namespace Assistant

variable (s : Assistant)

def cleanup (now : Int) : Assistant :=
  { s with convs := convCleanupExpired s.cfg.conversationTimeoutS now s.convs }

def conv (slot : Nat) : Conversation :=
  s.convs.getD slot unused

def begins (now : Int) (callerId : Int) (callerAdmin : Bool) (transcript : Text) : Assistant :=
  -- The worker takes up a request.
  let found := convLookupOrCreate s.cfg.conversationTimeoutS now callerId s.convs
  { s with
    convs := found.1.modify found.2 fun c => convAppend now c (userMessage transcript)
    turn := some
      { slot := found.2
        callerId := callerId
        callerAdmin := callerAdmin
        rounds := 0
        forceNoTools := false } }

def request : Option (List Message) :=
  -- The messages of the request that is posted next.
  s.turn.bind fun t =>
    let messages := (s.conv t.slot).messages
    (buildRequestJson s.cfg messages t.forceNoTools).map fun _ => messages

def post (outcome : Outcome) (returned : List (Option Text)) (now : Int) : Assistant :=
  match s.turn with
  | none => s
  | some t =>
    match s.request, outcome with
    | none, _ | some _, .failed => { s with turn := none }
    | some _, .replied r =>
      let after := afterReply cjson s.cfg now t (s.conv t.slot) r returned
      { s with convs := s.convs.set t.slot after.1, turn := after.2 }

def executed (outcome : Outcome) : List Invocation :=
  -- The tools that the round executes.
  match s.turn, s.request, outcome with
  | some t, some _, .replied r =>
    if executes s.cfg t r then
      invocations (entries cjson r.toolCallsJson) t.callerAdmin t.callerId
    else []
  | _, _, _ => []

def forget (callerId : Int) : Assistant :=
  -- `*990#`
  { s with convs := s.convs.map fun c =>
      if c.callerId = callerId ∧ c.messages ≠ [] then unused else c }

def reset : Assistant :=
  { s with convs := s.convs.map fun _ => unused }

end Assistant

end Turns

end Kerchunk.Ai
