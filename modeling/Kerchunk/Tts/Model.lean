import Kerchunk.Cdr.WebApi
import Kerchunk.Config.Duration
import Kerchunk.Lib.Machine
import Mathlib.Logic.Function.Basic

set_option autoImplicit false

/-!
# Speech (`modules/mod_tts.c`)

Requests to speak, the worker that turns them into audio, and the cache of its audio. The
synthesisers are not part of the repository: audio is told by the voice and the text that a
synthesiser was given, and `samples` is how long that takes at the rate of the system. The text
normaliser, an optional library, is left out. A dequeued request takes two steps: up to the call of
the engine, and from its answer on.
-/

namespace Kerchunk.Tts

open Config (KerchunkConfig Text atoiText bounded configGet)

def ttsQueueSize : Nat := 8

def maxTtsSamples (rate : Nat) : Nat :=
  rate * 60

/-! ## Settings -/

inductive Engine where
  | elevenLabs
  | wyoming
deriving DecidableEq

structure Settings where
  engine : Engine
  apiKey : Text
  voiceId : Text
  model : Text
  wyomingHost : Text
  wyomingPort : Int
  wyomingVoice : Text
  cacheDir : Text
deriving DecidableEq

def defaults : Settings where
  engine := .elevenLabs
  apiKey := []
  voiceId := "21m00Tcm4TlvDq8ikWAM".toList
  model := "eleven_turbo_v2_5".toList
  wyomingHost := "127.0.0.1".toList
  wyomingPort := 10200
  wyomingVoice := []
  cacheDir := []

/-- What the sound of a text depends on. -/
inductive Voice where
  | elevenLabs (voiceId model : Text)
  | wyoming (host : Text) (port : Int) (voice : Text)
deriving DecidableEq

def Settings.elevenLabsVoice (cfg : Settings) : Voice :=
  .elevenLabs cfg.voiceId cfg.model

/-- The voice in force. -/
def Settings.voice (cfg : Settings) : Voice :=
  match cfg.engine with
  | .elevenLabs => cfg.elevenLabsVoice
  | .wyoming => .wyoming cfg.wyomingHost cfg.wyomingPort cfg.wyomingVoice

def configured (cfg : Settings) (file : KerchunkConfig) : Settings :=
  let value (key : String) := configGet file "tts".toList key.toList
  let text (key : String) (size : Nat) (old : Text) := ((value key).map (bounded size)).getD old
  { engine := match value "engine" with
      | some v => if v = "wyoming".toList then .wyoming else .elevenLabs
      | none => cfg.engine
    apiKey := text "api_key" 128 cfg.apiKey
    voiceId := text "voice_id" 64 cfg.voiceId
    model := text "model" 64 cfg.model
    wyomingHost := text "wyoming_host" 64 cfg.wyomingHost
    wyomingPort := ((value "wyoming_port").map atoiText).getD cfg.wyomingPort
    wyomingVoice := text "wyoming_voice" 64 cfg.wyomingVoice
    cacheDir := bounded 512
      ((configGet file "general".toList "sounds_dir".toList).getD "./sounds".toList ++
        "/cache/tts".toList) }

def Settings.valid (libwyoming : Bool) (cfg : Settings) : Bool :=
  match cfg.engine with
  | .wyoming => libwyoming && decide (0 < cfg.wyomingPort) && decide (cfg.wyomingPort ≤ 65535)
  | .elevenLabs => cfg.apiKey ≠ []

/-! ## Cache keys -/

def fnv1a (s : Text) : UInt32 :=
  s.foldl (fun h c => (h ^^^ UInt32.ofNat (c.toNat % 256)) * 16777619) 2166136261

def hex8 (h : UInt32) : Text :=
  let digits := Nat.toDigits 16 h.toNat
  List.replicate (8 - digits.length) '0' ++ digits

def decimal (n : Int) : Text :=
  (toString n).toList

structure CachePath where
  dir : Text
  name : Text
deriving DecidableEq

def cacheKey (cfg : Settings) (text : Text) : Text :=
  bounded 3072 <|
    match cfg.engine with
    | .wyoming =>
      "wyoming:".toList ++ cfg.wyomingHost ++ ":".toList ++ decimal cfg.wyomingPort ++
        ":".toList ++ cfg.wyomingVoice ++ ":".toList ++ text
    | .elevenLabs =>
      "el:".toList ++ cfg.voiceId ++ ":".toList ++ cfg.model ++ ":".toList ++ text

def cachePathForText (cfg : Settings) (text : Text) : CachePath where
  dir := cfg.cacheDir
  name := hex8 (fnv1a (cacheKey cfg text)) ++ "_".toList ++ decimal text.length ++ ".wav".toList

/-! ## The engines -/

/-- The audio of a text that an engine was sent. -/
structure Clip where
  voice : Voice
  text : Text
deriving DecidableEq

def jsonEscape (text : Text) : Text :=
  -- `escaped` has 1024 characters.
  Cdr.WebApi.jsonEscapeFrom (1024 - 6) text

def requestBody (model text : Text) : Text :=
  bounded 2048
    ("\x7b\"text\":\"".toList ++ jsonEscape text ++ "\",\"model_id\":\"".toList ++ model ++
      "\"\x7d".toList)

def elevenLabsText (text : Text) : Text :=
  -- What a reader of the body finds.
  Json.kept (1024 - 6) text

def synthesize (libwyoming : Bool) (cfg : Settings) (text : Text) : Clip :=
  -- Without the library every request goes to ElevenLabs.
  if cfg.engine = .wyoming ∧ libwyoming = true then { voice := cfg.voice, text := text }
  else { voice := cfg.elevenLabsVoice, text := elevenLabsText text }

/-! ## The module -/

/-- `asked` is what was to be spoken; the module does not keep it. -/
structure Request where
  asked : Text
  text : Text
  priority : Int
deriving DecidableEq

/-- Where the worker is: with an engine, once it has called it. `inForce` was in force then. -/
inductive Worker where
  | waiting
  | synthesizing (req : Request) (inForce : Voice) (clip : Clip)
deriving DecidableEq

/-- `running` says whether there is a worker, and `restarting` that it is to be joined. -/
structure State where
  cfg : Settings
  initialized : Bool
  running : Bool
  restarting : Bool
  queue : List Request
  worker : Worker
  files : CachePath → Option Clip

def start : State where
  cfg := defaults
  initialized := false
  running := false
  restarting := false
  queue := []
  worker := .waiting
  files := fun _ => none

/-- Audio that was queued for a request, with the voice in force. -/
structure Play where
  asked : Text
  inForce : Voice
  clip : Clip
  priority : Int
deriving DecidableEq

def ttsSpeak (s : State) (text : Text) (priority : Int) : State :=
  if s.initialized = false ∨ text = [] then s
  else if s.queue.length ≥ ttsQueueSize then s
  else
    { s with queue := s.queue ++ [{ asked := text, text := bounded 2048 text, priority := priority }] }

def State.cached (s : State) (text : Text) : Option Clip :=
  if s.cfg.cacheDir = [] then none else s.files (cachePathForText s.cfg text)

def State.next (s : State) : Option Request :=
  -- What the worker dequeues.
  if s.running = true ∧ s.worker = .waiting then s.queue.head? else none

def beginRequest (libwyoming : Bool) (s : State) : State × List Play :=
  match s.next with
  | none => (s, [])
  | some req =>
    let dequeued := { s with queue := s.queue.tail }
    match s.cached req.text with
    | some clip => (dequeued, [⟨req.asked, s.cfg.voice, clip, req.priority⟩])
    | none =>
      ({ dequeued with
          worker := .synthesizing req s.cfg.voice (synthesize libwyoming s.cfg req.text) }, [])

def finishRequest (samples : Voice → Text → Nat) (s : State) (answered written : Bool) :
    State × List Play :=
  match s.worker with
  | .waiting => (s, [])
  | .synthesizing req inForce clip =>
    let s := { s with worker := .waiting }
    if answered = false ∨ samples clip.voice clip.text = 0 then (s, [])
    else
      -- The path is made of the settings of now.
      ({ s with
          files :=
            if s.cfg.cacheDir ≠ [] ∧ written = true then
              Function.update s.files (cachePathForText s.cfg req.text) (some clip)
            else s.files }, [⟨req.asked, inForce, clip, req.priority⟩])

def configure (libwyoming : Bool) (s : State) (file : KerchunkConfig) : State :=
  -- It returns when the worker is joined, should there be need to.
  if s.restarting then s
  else
    let cfg := configured s.cfg file
    { s with cfg := cfg, restarting := cfg.valid libwyoming }

def restart (s : State) (created : Bool) : State :=
  if s.restarting = true ∧ s.worker = .waiting then
    { s with
      queue := []
      running := created
      restarting := false
      initialized := s.initialized || created }
  else s

def cacheClear (s : State) : State :=
  { s with files := fun path => if path.dir = s.cfg.cacheDir then none else s.files path }

inductive Input where
  | speak (text : Text) (priority : Int)
  | beginRequest
  | finishRequest (answered written : Bool)
  | configure (file : KerchunkConfig)
  | restart (created : Bool)
  | cacheClear
  /-- The process begins anew; its files stay. -/
  | relaunch

section Steps

variable (libwyoming : Bool) (samples : Voice → Text → Nat)

def react (s : State) : Input → State × List Play
  | .speak text priority => (ttsSpeak s text priority, [])
  | .beginRequest => beginRequest libwyoming s
  | .finishRequest answered written => finishRequest samples s answered written
  | .configure file => (configure libwyoming s file, [])
  | .restart created => (restart s created, [])
  | .cacheClear => (cacheClear s, [])
  | .relaunch => ({ start with files := s.files }, [])

def step (s : State) (i : Input) : State :=
  (react libwyoming samples s i).1

def plays (s : State) (i : Input) : List Play :=
  (react libwyoming samples s i).2

end Steps

end Kerchunk.Tts
