import Kerchunk.Tts.Model
import Mathlib.Data.List.TakeDrop

set_option autoImplicit false

/-!
# The words that are played (`modules/mod_tts.c`)

Whether the audio that is queued for a request is that of its text, whatever the synthesisers make of
the texts that they are sent.
-/

namespace Kerchunk.Tts

open Config (KerchunkConfig Text bounded)
open Machine (Guarded)

structure SampleRate where
  hz : Nat
  positive : 0 < hz

def Clip.audio (rate : SampleRate) (synth : Voice → Text → List Int) (c : Clip) : List Int :=
  (synth c.voice c.text).take (maxTtsSamples rate.hz)

section Right

variable (rate : SampleRate) (samples : Voice → Text → Nat)

/-- It is the synthesis of the whole text by the voice in force, for every synthesiser. -/
def Play.Right (p : Play) : Prop :=
  ∀ synth : Voice → Text → List Int,
    (∀ voice text, (synth voice text).length = samples voice text) →
      p.clip.audio rate synth = synth p.inForce p.asked

variable {rate samples}

theorem right_iff {p : Play} (sounds : 0 < samples p.clip.voice p.clip.text) :
    p.Right rate samples ↔
      p.clip = ⟨p.inForce, p.asked⟩ ∧ samples p.inForce p.asked ≤ maxTtsSamples rate.hz := by
  constructor
  · intro right
    have same : p.clip = ⟨p.inForce, p.asked⟩ := by
      by_contra other
      -- A synthesiser to which this text in this voice is something of its own.
      let synth : Voice → Text → List Int := fun voice text =>
        List.replicate (samples voice text)
          (if (⟨voice, text⟩ : Clip) = ⟨p.inForce, p.asked⟩ then 1 else 0)
      have heard := right synth fun _ _ => List.length_replicate
      have zero : (1 : Int) ∉ p.clip.audio rate synth := by
        intro member
        have value := List.eq_of_mem_replicate (List.mem_of_mem_take member)
        rw [if_neg other] at value
        cases value
      have empty : samples p.inForce p.asked = 0 := by
        by_contra some_
        refine zero ?_
        rw [heard]
        exact List.mem_replicate.mpr ⟨some_, (if_pos rfl).symm⟩
      have lengths := congrArg List.length heard
      rw [Clip.audio, List.length_take, List.length_replicate, List.length_replicate, empty] at lengths
      have room := rate.positive
      unfold maxTtsSamples at lengths
      omega
    refine ⟨same, ?_⟩
    have heard := right (fun voice text => List.replicate (samples voice text) 0)
      fun _ _ => List.length_replicate
    have lengths := congrArg List.length heard
    rw [Clip.audio, same, List.length_take, List.length_replicate] at lengths
    dsimp only at lengths
    omega
  · rintro ⟨same, short⟩ synth lengths
    rw [Clip.audio, same]
    exact List.take_of_length_le (by rwa [lengths])

end Right

/-! ## What the engines are sent -/

theorem requestBody_read {model : Text} (short : model.length < 64) (text : Text) {fuel : Nat}
    (enough : (elevenLabsText text).length < fuel) :
    ∃ rest, Json.readString fuel ((requestBody model text).drop 9) =
      some (elevenLabsText text, rest) := by
  -- The body is not cut off, and the text in it is what the escaping kept.
  have escaped : jsonEscape text = Json.escaped (elevenLabsText text) :=
    Cdr.WebApi.jsonEscapeFrom_eq _ text
  have length : (jsonEscape text).length ≤ 1019 := by
    rw [escaped]
    exact Json.escaped_kept_length 1018 text
  let rest := ",\"model_id\":\"".toList ++ model ++ "\"\x7d".toList
  have whole : requestBody model text =
      "\x7b\"text\":\"".toList ++ (Json.escaped (elevenLabsText text) ++ '"' :: rest) := by
    unfold requestBody
    rw [← escaped]
    have fits : ("\x7b\"text\":\"".toList ++ jsonEscape text ++ "\",\"model_id\":\"".toList ++ model ++
        "\"\x7d".toList).length ≤ 2047 := by
      simp only [List.length_append]
      have first : "\x7b\"text\":\"".toList.length = 9 := by decide
      have second : "\",\"model_id\":\"".toList.length = 14 := by decide
      have third : "\"\x7d".toList.length = 2 := by decide
      omega
    rw [bounded, List.take_of_length_le fits]
    simp [rest]
  refine ⟨rest, ?_⟩
  rw [whole]
  exact Json.readString_escaped Json.kept_writable rest enough

theorem bounded_whole {asked : Text} : bounded 2048 asked = asked ↔ asked.length < 2048 := by
  unfold bounded
  rw [List.take_eq_self_iff]
  omega

theorem elevenLabsText_whole {text : Text} :
    elevenLabsText text = text ↔
      (∀ c ∈ text, Json.writable c = true) ∧ Json.Fits (1024 - 6) text := by
  unfold elevenLabsText
  constructor
  · intro same
    constructor
    · rw [← same]
      exact Json.kept_writable
    · rw [← same]
      exact Json.kept_fits _ _
  · rintro ⟨all, fits⟩
    exact Json.kept_eq all fits

/-- The engine of the voice is there and is sent the whole text. -/
def Speakable (libwyoming : Bool) (asked : Text) : Voice → Prop
  | .wyoming _ _ _ => libwyoming = true ∧ asked.length < 2048
  | .elevenLabs _ _ => (∀ c ∈ asked, Json.writable c = true) ∧ Json.Fits (1024 - 6) asked

theorem fits_short {asked : Text} (fits : Json.Fits (1024 - 6) asked) : asked.length < 2048 := by
  by_cases none : asked = []
  next => simp [none]
  next =>
    have escaped := fits none
    have long := Json.length_le_escaped asked.dropLast
    rw [List.length_dropLast] at long
    omega

theorem synthesize_whole (libwyoming : Bool) (cfg : Settings) (asked : Text) :
    synthesize libwyoming cfg (bounded 2048 asked) = ⟨cfg.voice, asked⟩ ↔
      Speakable libwyoming asked cfg.voice := by
  unfold synthesize Settings.voice
  cases cfg.engine with
  | wyoming =>
    cases libwyoming with
    | true => simp [Speakable, bounded_whole]
    | false => simp [Speakable, Settings.elevenLabsVoice]
  | elevenLabs =>
    simp only [reduceCtorEq, false_and, if_false, Clip.mk.injEq, true_and, Speakable,
      Settings.elevenLabsVoice]
    constructor
    · intro same
      have length := (Json.kept_sublist (1024 - 6) (bounded 2048 asked)).length_le
      rw [elevenLabsText] at same
      rw [same] at length
      have whole : bounded 2048 asked = asked := by
        rw [bounded, List.take_eq_self_iff]
        rw [bounded, List.length_take] at length
        omega
      rw [whole] at same
      exact elevenLabsText_whole.mp same
    · intro sendable
      rw [bounded_whole.mpr (fits_short sendable.2)]
      exact elevenLabsText_whole.mpr sendable

/-! ## Every step -/

section Runs

variable (libwyoming : Bool) (rate : SampleRate) (samples : Voice → Text → Nat)

def Lawful (s : State) (i : Input) : Prop :=
  ∀ p ∈ plays libwyoming samples s i, p.Right rate samples

def Ready (s : State) : Input → Prop
  | .beginRequest =>
    -- The file that the path names was made of this text with this voice.
    ∀ req ∈ s.next, ∀ clip ∈ s.cached req.text,
      clip = ⟨s.cfg.voice, req.asked⟩ ∧ samples s.cfg.voice req.asked ≤ maxTtsSamples rate.hz
  | .finishRequest answered _ =>
    ∀ req inForce clip, s.worker = .synthesizing req inForce clip → answered = true →
      samples clip.voice clip.text ≠ 0 →
        Speakable libwyoming req.asked inForce ∧
          samples inForce req.asked ≤ maxTtsSamples rate.hz
  | _ => True

structure Sound (s : State) : Prop where
  files : ∀ path, ∀ clip ∈ s.files path, 0 < samples clip.voice clip.text
  queue : ∀ req ∈ s.queue, req.text = bounded 2048 req.asked
  worker : ∀ req inForce clip, s.worker = .synthesizing req inForce clip →
    ∃ cfg : Settings, inForce = cfg.voice ∧
      clip = synthesize libwyoming cfg (bounded 2048 req.asked)

variable {libwyoming rate samples}

theorem cached_file {s : State} {text : Text} {clip : Clip} (found : clip ∈ s.cached text) :
    ∃ path, clip ∈ s.files path := by
  unfold State.cached at found
  split at found
  next => cases found
  next => exact ⟨_, found⟩

theorem begin_lawful_iff {s : State} (sound : Sound libwyoming samples s) :
    Lawful libwyoming rate samples s .beginRequest ↔
      Ready libwyoming rate samples s .beginRequest := by
  have played : plays libwyoming samples s .beginRequest = (beginRequest libwyoming s).2 := rfl
  unfold Lawful Ready
  rw [played]
  unfold beginRequest
  cases s.next with
  | none => simp
  | some req =>
    cases found : s.cached req.text with
    | none => simp [found]
    | some clip =>
      obtain ⟨path, stored⟩ := cached_file (Option.mem_def.mpr found)
      have right := @right_iff rate samples ⟨req.asked, s.cfg.voice, clip, req.priority⟩
        (sound.files path clip stored)
      simpa [found] using right

theorem finish_lawful_iff {s : State} (sound : Sound libwyoming samples s)
    (answered written : Bool) :
    Lawful libwyoming rate samples s (.finishRequest answered written) ↔
      Ready libwyoming rate samples s (.finishRequest answered written) := by
  have played : plays libwyoming samples s (.finishRequest answered written) =
      (finishRequest samples s answered written).2 := rfl
  unfold Lawful Ready
  rw [played]
  unfold finishRequest
  cases working : s.worker with
  | waiting => simp
  | synthesizing req inForce clip =>
    obtain ⟨cfg, voice, sent⟩ := sound.worker req inForce clip working
    by_cases silent : answered = false ∨ samples clip.voice clip.text = 0
    next =>
      rcases silent with failed | empty
      next => simp [failed]
      next => simp [empty]
    next =>
      have heard : answered = true ∧ samples clip.voice clip.text ≠ 0 := by simpa using silent
      have right := @right_iff rate samples ⟨req.asked, inForce, clip, req.priority⟩
        (Nat.pos_of_ne_zero heard.2)
      have whole := synthesize_whole libwyoming cfg req.asked
      rw [← sent, ← voice] at whole
      simp only [whole] at right
      simpa [silent, heard.1, heard.2] using right

theorem lawful_iff {s : State} (sound : Sound libwyoming samples s) (i : Input) :
    Lawful libwyoming rate samples s i ↔ Ready libwyoming rate samples s i := by
  cases i with
  | beginRequest => exact begin_lawful_iff sound
  | finishRequest answered written => exact finish_lawful_iff sound answered written
  | speak | configure | restart | cacheClear | relaunch =>
    exact iff_of_true (fun p member => by cases member) trivial

theorem begin_sound {s : State} (sound : Sound libwyoming samples s) :
    Sound libwyoming samples (beginRequest libwyoming s).1 := by
  unfold beginRequest
  cases next : s.next with
  | none => exact sound
  | some req =>
    have queued : req ∈ s.queue := by
      unfold State.next at next
      split at next
      · exact List.mem_of_mem_head? next
      · cases next
    have rest : ∀ r ∈ s.queue.tail, r.text = bounded 2048 r.asked :=
      fun r member => sound.queue r (List.mem_of_mem_tail member)
    dsimp only
    cases s.cached req.text with
    | some clip => exact ⟨sound.files, rest, sound.worker⟩
    | none =>
      refine ⟨sound.files, rest, ?_⟩
      intro r inForce clip working
      cases working
      exact ⟨s.cfg, rfl, by rw [sound.queue req queued]⟩

theorem finish_sound {s : State} (sound : Sound libwyoming samples s) (answered written : Bool) :
    Sound libwyoming samples (finishRequest samples s answered written).1 := by
  have idle : ∀ req inForce clip, Worker.waiting = .synthesizing req inForce clip →
      ∃ cfg : Settings, inForce = cfg.voice ∧
        clip = synthesize libwyoming cfg (bounded 2048 req.asked) :=
    fun _ _ _ working => by cases working
  unfold finishRequest
  cases s.worker with
  | waiting => exact sound
  | synthesizing req inForce clip =>
    dsimp only
    split
    next => exact ⟨sound.files, sound.queue, idle⟩
    next heard =>
      refine ⟨?_, sound.queue, idle⟩
      intro path stored member
      dsimp only at member
      split at member
      next =>
        by_cases here : path = cachePathForText s.cfg req.text
        next =>
          rw [here, Function.update_self] at member
          cases member
          exact Nat.pos_of_ne_zero (not_or.mp heard).2
        next =>
          rw [Function.update_of_ne here] at member
          exact sound.files path stored member
      next => exact sound.files path stored member

theorem step_sound {s : State} (sound : Sound libwyoming samples s) (i : Input) :
    Sound libwyoming samples (step libwyoming samples s i) := by
  cases i with
  | beginRequest => exact begin_sound sound
  | finishRequest answered written => exact finish_sound sound answered written
  | speak text priority =>
    change Sound libwyoming samples (ttsSpeak s text priority)
    unfold ttsSpeak
    split_ifs
    next => exact sound
    next => exact sound
    next =>
      refine ⟨sound.files, ?_, sound.worker⟩
      intro req member
      rcases List.mem_append.mp member with earlier | here
      next => exact sound.queue req earlier
      next =>
        rw [List.mem_singleton.mp here]
  | configure file =>
    change Sound libwyoming samples (configure libwyoming s file)
    unfold configure
    split_ifs
    next => exact sound
    next => exact ⟨sound.files, sound.queue, sound.worker⟩
  | restart created =>
    change Sound libwyoming samples (restart s created)
    unfold restart
    split_ifs
    next => exact ⟨sound.files, by simp, sound.worker⟩
    next => exact sound
  | cacheClear =>
    refine ⟨?_, sound.queue, sound.worker⟩
    intro path clip member
    change clip ∈ (if path.dir = s.cfg.cacheDir then none else s.files path) at member
    split_ifs at member
    next => cases member
    next => exact sound.files path clip member
  | relaunch =>
    refine ⟨sound.files, ?_, ?_⟩
    · intro req member
      cases member
    · intro req inForce clip working
      cases working

theorem start_sound : Sound libwyoming samples start where
  files := by
    intro path clip member
    cases member
  queue := by
    intro req member
    cases member
  worker := by
    intro req inForce clip working
    cases working

end Runs

/-! ## Two texts with one path -/

def withKey : KerchunkConfig :=
  [{ sectionName := "tts".toList, key := "api_key".toList, value := "secret".toList }]

def keyed : Settings :=
  configured defaults withKey

theorem rate48k_positive : 0 < 48000 := by decide

def rate48k : SampleRate where
  hz := 48000
  positive := rate48k_positive

def oneSecond : Voice → Text → Nat :=
  fun _ _ => 48000

/-- Once the module is configured, it is asked for one text and then for the other. -/
def oneThenOther (first second : Text) : List Input :=
  [.configure withKey, .restart true, .speak first 3, .beginRequest, .finishRequest true true,
    .speak second 3]

def ready : State :=
  { start with cfg := keyed, initialized := true, running := true }

theorem ready_reached :
    Machine.run (step false oneSecond) start [.configure withKey, .restart true] = ready := by
  have valid : keyed.valid false = true := by decide
  have configured : configure false start withKey =
      { start with cfg := keyed, restarting := keyed.valid false } := rfl
  change restart (configure false start withKey) true = ready
  rw [configured, valid]
  rfl

theorem one_for_other {first second : Text} (one : first ≠ []) (other : second ≠ [])
    (path : cachePathForText keyed (bounded 2048 first) =
      cachePathForText keyed (bounded 2048 second)) :
    plays false oneSecond (Machine.run (step false oneSecond) start (oneThenOther first second))
        .beginRequest =
      [⟨second, keyed.voice, synthesize false keyed (bounded 2048 first), 3⟩] := by
  have begun : oneThenOther first second = [.configure withKey, .restart true] ++
      [.speak first 3, .beginRequest, .finishRequest true true, .speak second 3] := rfl
  have dir : keyed.cacheDir ≠ [] := by decide
  rw [begun, Machine.run_append, ready_reached]
  simp [Machine.run, step, react, plays, ready, start, ttsSpeak, ttsQueueSize, beginRequest,
    finishRequest, State.next, State.cached, oneSecond, one, other, dir, path]

/-- As `mod_weather` puts them together. -/
def snow : Text :=
  "Current weather.".toList ++ " Snow.".toList ++ " Temperature 49 degrees.".toList ++
    " Wind from the".toList ++ " northeast".toList ++ " at 12 miles per hour.".toList

def rain : Text :=
  "Current weather.".toList ++ " Heavy rain.".toList ++ " Temperature 60 degrees.".toList ++
    " Wind from the".toList ++ " west".toList ++ " at 3 miles per hour.".toList

end Kerchunk.Tts
