import Kerchunk.Ai.Model
import Kerchunk.Lib.Appends

set_option autoImplicit false

/-!
# Building a request (`modules/mod_ai.c`)

The bodies of the requests and the array of tools, with the appends that they are built of.
-/

namespace Kerchunk.Ai

open Appends (Buffer appendAll)
open Kerchunk.Config (Text)

def maxToolsJson : Nat := 16384

/-! ## The pieces -/

def messagePieces (first : Bool) (m : Message) : List Text :=
  -- `append_message`
  (if first then [] else [[',']]) ++
    ["\x7b\"role\":\"".toList ++ m.role.name ++ ['"'],
      ",\"content\":\"".toList ++ jsonEscape (m.content.getD []) ++ ['"']] ++
    ((nonempty m.toolCallsJson).map fun json => ",\"tool_calls\":".toList ++ json).toList ++
    (if m.toolCallId = [] then []
      else [",\"tool_call_id\":\"".toList ++ m.toolCallId ++ ['"']]) ++ ["\x7d".toList]

def openingPiece (cfg : Settings) : Text :=
  "\x7b\"model\":\"".toList ++ cfg.model ++ "\",\"max_tokens\":".toList ++
    (toString cfg.maxTokens).toList ++ ",\"temperature\":".toList ++ cfg.temperature ++
    (if cfg.disableReasoning then ",\"think\":false".toList else []) ++ ",\"messages\":[".toList

def requestPieces (cfg : Settings) (messages : List Message) (forceNoTools : Bool) : List Text :=
  openingPiece cfg :: messagePieces true (systemMessage cfg.systemPrompt) ++
    messages.flatMap (messagePieces false) ++
    [[']'],
      ",\"tools\":".toList ++ cfg.toolsJson,
      ",\"tool_choice\":\"".toList ++
        (if forceNoTools then "none".toList else "auto".toList) ++ ['"']]

def brace : Text := "\x7d".toList

def buildRequest (cfg : Settings) (messages : List Message) (forceNoTools : Bool) : Buffer Char :=
  appendAll maxRequestBytes Appends.empty (requestPieces cfg messages forceNoTools ++ [brace])

def requestLength (cfg : Settings) (messages : List Message) (forceNoTools : Bool) : Nat :=
  -- What `build_request_json` returns.
  let j := (buildRequest cfg messages forceNoTools).cursor
  if j ≥ maxRequestBytes - 1 then 0 else j

/-- The whole text. -/
def requestText (cfg : Settings) (messages : List Message) (forceNoTools : Bool) : Text :=
  (requestPieces cfg messages forceNoTools).flatten ++ brace

/-- A tool as the registry has it. -/
structure RegisteredTool where
  name : Text
  description : Text
  parametersJson : Option Text

def toolPiece (t : RegisteredTool) : Text :=
  "\x7b\"type\":\"function\",\"function\":\x7b\"name\":\"".toList ++ t.name ++
    "\",\"description\":\"".toList ++ t.description ++ "\",\"parameters\":".toList ++
    t.parametersJson.getD "\x7b\"type\":\"object\",\"properties\":\x7b\x7d\x7d".toList ++
    "\x7d\x7d".toList

def toolsPieces (tools : List RegisteredTool) : List Text :=
  ['['] :: ((tools.map toolPiece).intersperse [','])

def buildToolsJson (tools : List RegisteredTool) : Buffer Char :=
  appendAll maxToolsJson Appends.empty (toolsPieces tools ++ [[']']])

def toolsText (tools : List RegisteredTool) : Text :=
  (toolsPieces tools).flatten ++ [']']

/-! ## Their text -/

theorem messagePieces_flatten (first : Bool) (m : Message) :
    (messagePieces first m).flatten = appendMessage first m := by
  unfold messagePieces appendMessage
  cases first <;> cases nonempty m.toolCallsJson <;> by_cases call : m.toolCallId = [] <;>
    simp [call]

theorem buildRequest_cursor (cfg : Settings) (messages : List Message) (forceNoTools : Bool) :
    (buildRequest cfg messages forceNoTools).cursor =
      (requestText cfg messages forceNoTools).length := by
  unfold buildRequest requestText
  rw [Appends.appendAll_cursor, List.flatten_append]
  simp [Appends.empty]

theorem requestLength_zero (cfg : Settings) (messages : List Message) (forceNoTools : Bool) :
    requestLength cfg messages forceNoTools = 0 ↔
      maxRequestBytes - 1 ≤ (requestText cfg messages forceNoTools).length := by
  have long : 0 < (requestText cfg messages forceNoTools).length := by
    rw [requestText, List.length_append]
    exact Nat.add_pos_right _ (by decide)
  unfold requestLength
  rw [buildRequest_cursor]
  dsimp only
  split <;> omega

/-! ## In bounds -/

/-- No append begins behind the end of the buffer, and an overflow is reported when the text and
its terminator do not fit. -/
structure RequestLawful (cfg : Settings) (messages : List Message) (forceNoTools : Bool) : Prop where
  inBounds : (buildRequest cfg messages forceNoTools).overrun = false
  overflow : requestLength cfg messages forceNoTools = 0 ↔
    maxRequestBytes < (requestText cfg messages forceNoTools).length + 1

theorem request_lawful_iff (cfg : Settings) (messages : List Message) (forceNoTools : Bool) :
    RequestLawful cfg messages forceNoTools ↔
      (requestText cfg messages forceNoTools).length ≤ maxRequestBytes + 1 ∧
        (requestText cfg messages forceNoTools).length ≠ maxRequestBytes - 1 := by
  have sound : (buildRequest cfg messages forceNoTools).overrun = false ↔
      (requestText cfg messages forceNoTools).length ≤ maxRequestBytes + 1 := by
    unfold buildRequest requestText
    rw [Appends.overrun_iff rfl, List.length_append]
    have last : brace.length = 1 := rfl
    have begins : (Appends.empty : Buffer Char).cursor = 0 := rfl
    omega
  have reports := requestLength_zero cfg messages forceNoTools
  unfold maxRequestBytes at *
  constructor
  · intro lawful
    have overflow := lawful.overflow
    unfold maxRequestBytes at overflow
    have room := sound.mp lawful.inBounds
    omega
  · rintro ⟨room, other⟩
    refine ⟨sound.mpr room, ?_⟩
    unfold maxRequestBytes
    omega

theorem tools_in_bounds_iff (tools : List RegisteredTool) :
    (buildToolsJson tools).overrun = false ↔ (toolsText tools).length ≤ maxToolsJson + 1 := by
  unfold buildToolsJson toolsText
  rw [Appends.overrun_iff rfl, List.length_append]
  have last : [']'].length = 1 := rfl
  have begins : (Appends.empty : Buffer Char).cursor = 0 := rfl
  omega

/-! ## Long prompts -/

theorem escapeChar_length (c : Char) : 1 ≤ (escapeChar c).length := by
  unfold escapeChar
  split_ifs <;> simp

theorem jsonEscape_length (text : Text) : text.length ≤ (jsonEscape text).length := by
  unfold jsonEscape
  induction text with
  | nil => simp
  | cons c rest ih =>
    have one := escapeChar_length c
    rw [List.flatMap_cons, List.length_append, List.length_cons]
    omega

theorem requestText_length (cfg : Settings) (messages : List Message) (forceNoTools : Bool) :
    cfg.systemPrompt.length + 40 ≤ (requestText cfg messages forceNoTools).length := by
  -- The opening alone takes more than 40.
  have prompt := jsonEscape_length cfg.systemPrompt
  have opening : 40 ≤ (openingPiece cfg).length := by
    unfold openingPiece
    simp only [List.length_append]
    have first : "\x7b\"model\":\"".toList.length = 10 := by decide
    have second : "\",\"max_tokens\":".toList.length = 15 := by decide
    have third : ",\"temperature\":".toList.length = 15 := by decide
    omega
  simp only [requestText, requestPieces, List.flatten_append, List.flatten_cons,
    messagePieces_flatten, appendMessage, systemMessage, Option.getD_some, List.length_append]
  omega

end Kerchunk.Ai
