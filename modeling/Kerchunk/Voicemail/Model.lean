import Kerchunk.Cwid.Model
import Kerchunk.Dtmf.Command

set_option autoImplicit false

/-!
# Voicemail (`modules/mod_voicemail.c`)

With the DTMF commands that drive it. The snapshots for the dashboard are left out. A timer is only
known to run or not; one that could not be created is one that never runs out.
-/

namespace Kerchunk.Voicemail

open Kerchunk.Config (KerchunkConfig Text atoiText bounded configGet configGetDurationS isDigit isspace
  wrap)
open Kerchunk.Cwid (configGetInt)
open Kerchunk.Dtmf (CustomEvent Dtmfcmd kerchevtCustom)

/-! ## Mailboxes -/

structure File where
  name : Text
  samples : List Int
deriving DecidableEq

/-- The directory of each user below a voicemail directory, in the order of `readdir`. -/
abbrev Disk := Text → Int → Option (List File)

def Disk.put (disk : Disk) (dir : Text) (userId : Int) (files : List File) : Disk :=
  fun dir' userId' => if dir' = dir ∧ userId' = userId then some files else disk dir' userId'

def isPcm (f : File) : Bool :=
  -- `strstr(name, ".pcm")`
  f.name.tails.any fun rest => ".pcm".toList.isPrefixOf rest

def scanNum (name : Text) : Option Int :=
  -- `sscanf(name, "msg_%d.pcm", &num)`: what stands behind the number is not looked at.
  if "msg_".toList.isPrefixOf name then
    let rest := (name.drop 4).dropWhile isspace
    let digits := if rest.head? = some '-' ∨ rest.head? = some '+' then rest.tail else rest
    if digits.takeWhile isDigit = [] then none else some (atoiText rest)
  else none

def nextMsgNum (files : List File) : Int :=
  wrap ((files.filterMap fun f => scanNum f.name).foldl max 0 + 1)

def padded (width n : Nat) : Text :=
  List.replicate (width - (Nat.toDigits 10 n).length) '0' ++ Nat.toDigits 10 n

def msgName (num : Int) : Text :=
  -- `msg_%04d.pcm`
  let number := if num < 0 then '-' :: padded 3 num.natAbs else padded 4 num.natAbs
  "msg_".toList ++ (number ++ ".pcm".toList)

/-! ## State -/

/-- Memory for so many samples, of which the first ones are written. -/
structure Buffer where
  cap : Nat
  data : List Int
deriving DecidableEq

def realloc (buf : Option Buffer) (cap : Nat) : Buffer where
  cap := cap
  data := (buf.elim [] Buffer.data).take cap

/-- What the module makes known: words, tones, files. A saved message comes with whether there was
no file of its name. -/
inductive Output where
  | reject (spokenReason : String)
  | status (userId : Int) (count : Nat)
  | armed (userId : Int)
  | disarmed
  | saved (userId : Int) (file : File) (isNew : Bool)
  | notSaved
  | playing (userId : Int) (name : Text)
  | deleted (userId : Int) (name : Text)
  | noMessages (userId : Int)
deriving DecidableEq

/-- `taps` counts the registrations of `rec_audio_tap`. `overrun` notes that samples were written
where there is no buffer. `known` is what `user_lookup_by_id` finds. -/
structure State where
  vmDir : Text
  maxMessages : Int
  maxDurationS : Int
  enabled : Bool
  loaded : Bool
  recording : Bool
  recordArmed : Bool
  recordUserId : Int
  recBuf : Option Buffer
  recLen : Nat
  recCap : Nat
  recTimer : Bool
  armTimer : Bool
  currentCallerId : Int
  taps : Nat
  overrun : Bool
  known : Int → Bool
  disk : Disk
  out : List Output

/-- The rate of the audio, and the order of the handlers of COR_DROP. -/
structure Station where
  sampleRate : Nat
  voicemailFirst : Bool

def load (disk : Disk) : State where
  vmDir := "/var/lib/kerchunk/voicemail".toList
  maxMessages := 20
  maxDurationS := 60
  enabled := false
  loaded := true
  recording := false
  recordArmed := false
  recordUserId := 0
  recBuf := none
  recLen := 0
  recCap := 0
  recTimer := false
  armTimer := false
  currentCallerId := 0
  taps := 0
  overrun := false
  known _ := false
  disk := disk
  out := []

/-- How writing a message ends. -/
inductive Write where
  | whole
  | refused
  | cut (samples : Nat)
deriving DecidableEq

namespace State

variable (env : Station) (s : State)

def emit (output : Output) : State :=
  { s with out := s.out ++ [output] }

def files (userId : Int) : List File :=
  (s.disk s.vmDir userId).getD []

def countMessages (userId : Int) : Nat :=
  (s.files userId).countP isPcm

/-! ## Recording -/

def saveRecording (write : Write) : State :=
  match s.recBuf with
  | none => s
  | some buf =>
    if s.recLen = 0 ∨ s.recordUserId ≤ 0 then s
    else
      let files := s.files s.recordUserId
      let name := msgName (nextMsgNum files)
      let others := files.filter (·.name ≠ name)
      let put (samples : List Int) :=
        s.disk.put s.vmDir s.recordUserId (others ++ [⟨name, samples⟩])
      let samples := buf.data.take s.recLen
      match write with
      | .whole =>
        { s with disk := put samples }.emit
          (.saved s.recordUserId ⟨name, samples⟩ (!files.any (·.name = name)))
      | .refused => s.emit .notSaved
      | .cut n => { s with disk := put (samples.take n) }.emit .notSaved

def stopRecording (write : Write) : State :=
  if !s.recording then s
  else
    let s := { s with recording := false, taps := s.taps - 1, recTimer := false }
    { s.saveRecording write with recBuf := none, recLen := 0, recCap := 0 }

def recTimeout (write : Write) : State :=
  { s with recTimer := false }.stopRecording write

def maxSamples : Nat :=
  env.sampleRate * s.maxDurationS.toNat

def recWrite (buf : Option Buffer) (samples : List Int) : State :=
  -- `memcpy` behind the samples that are there.
  match buf with
  | none => { s with recBuf := none, overrun := true, recLen := s.recLen + samples.length }
  | some buf =>
    { s with
      recBuf := some { buf with data := buf.data.take s.recLen ++ samples }
      overrun := s.overrun || buf.cap < s.recLen + samples.length
      recLen := s.recLen + samples.length }

def recAudioTap (samples : List Int) (grown : Bool) : State :=
  if !s.recording ∨ s.recLen ≥ s.maxSamples env then s
  else
    let needed := s.recLen + samples.length
    let taken := samples.take (s.maxSamples env - s.recLen)
    if needed > s.recCap then
      let newCap := if s.recCap * 2 < needed then needed + env.sampleRate else s.recCap * 2
      let newCap := min newCap (s.maxSamples env)
      if grown then
        { s with recCap := newCap }.recWrite (some (realloc s.recBuf newCap)) taken
      else s
    else s.recWrite s.recBuf taken

/-! ## Commands -/

def reject (spokenReason : String) : State :=
  s.emit (.reject spokenReason)

def recordTarget (arg : Text) : Int :=
  if arg ≠ [] ∧ 0 < atoiText arg then atoiText arg else s.currentCallerId

def recordRefusal (arg : Text) : Option String :=
  let target := s.recordTarget arg
  if !s.enabled then some "Voicemail is disabled."
  else if target ≤ 0 then some "Please log in before recording a voicemail."
  else if s.countMessages target ≥ s.maxMessages then some "Mailbox is full."
  else if target ≠ s.currentCallerId ∧ !s.known target then some "Unknown user."
  else none

def onVmRecord (arg : Text) : State :=
  match s.recordRefusal arg with
  | some reason => s.reject reason
  | none =>
    { s with
      recordArmed := true
      recordUserId := s.recordTarget arg
      armTimer := true }.emit (.armed (s.recordTarget arg))

def withCaller (command : Int → State) : State :=
  -- What status, play and delete begin with.
  if !s.enabled then s.reject "Voicemail is disabled."
  else if s.currentCallerId ≤ 0 then s.reject "Please log in before using voicemail."
  else command s.currentCallerId

def onVmStatus : State :=
  s.withCaller fun userId => s.emit (.status userId (s.countMessages userId))

def onVmPlay : State :=
  s.withCaller fun userId =>
    match (s.files userId).find? isPcm with
    | none => s.emit (.noMessages userId)
    | some f => s.emit (.playing userId f.name)

def onVmDelete : State :=
  s.withCaller fun userId =>
    match (s.files userId).find? isPcm with
    | none => s.emit (.noMessages userId)
    | some f =>
      { s with disk := s.disk.put s.vmDir userId ((s.files userId).eraseP isPcm) }.emit
        (.deleted userId f.name)

def onCustom (evt : CustomEvent) : State :=
  if !s.loaded then s
  else if evt.id = kerchevtCustom + 0 then s.onVmStatus
  else if evt.id = kerchevtCustom + 1 then s.onVmRecord evt.arg
  else if evt.id = kerchevtCustom + 2 then s.onVmPlay
  else if evt.id = kerchevtCustom + 3 then s.onVmDelete
  -- Same as status for audio interface.
  else if evt.id = kerchevtCustom + 4 then s.onVmStatus
  else s

def armTimeout : State :=
  let s := { s with armTimer := false }
  if s.recordArmed then { s with recordArmed := false }.emit .disarmed else s

/-! ## Key-up and release -/

/-- What a recording needs: memory, a place among the taps, and a timer. -/
structure Room where
  allocated : Bool
  tap : Bool
  timer : Bool
deriving DecidableEq

def startRecordingNow (room : Room) : State :=
  let cap := s.maxSamples env
  let s := { s with armTimer := false, recordArmed := false, recLen := 0, recCap := cap }
  if !room.allocated then { s with recBuf := none }
  else
    let s := { s with
      recBuf := some ⟨cap, []⟩
      recording := true
      taps := if room.tap then s.taps + 1 else s.taps }
    if room.timer then { s with recTimer := true }
    else { s with recTimer := false, recording := false, taps := s.taps - 1, recBuf := none }

def onCallerIdentified (userId : Int) : State :=
  if s.loaded then { s with currentCallerId := userId } else s

def onCorAssert (room : Room) : State :=
  if s.loaded && s.recordArmed && !s.recording then s.startRecordingNow env room else s

def onCorDrop (write : Write) : State :=
  if s.loaded then s.stopRecording write else s

/-! ## Lifecycle -/

def configure (cfg : KerchunkConfig) : State :=
  let seconds := configGetDurationS cfg "voicemail".toList "max_duration".toList 60
  { s with
    vmDir :=
      match configGet cfg "voicemail".toList "voicemail_dir".toList with
      | some dir => bounded 256 dir
      | none => s.vmDir
    maxMessages := configGetInt cfg "voicemail".toList "max_messages".toList 20
    maxDurationS := max 1 (min seconds 300)
    enabled := configGet cfg "voicemail".toList "enabled".toList = some "on".toList }

def unload : State :=
  { s with loaded := false, armTimer := false, recTimer := false, recBuf := none }

end State

/-! ## With the commands -/

/-- A recording: the mailbox that was selected when it was armed, and the audio since the key-up. -/
structure Take where
  mailbox : Int
  heard : List Int
deriving DecidableEq

/-- `live` is the recording that goes on, `ended` are those before. -/
structure System where
  cmd : Dtmfcmd
  vm : State
  live : Option Take
  ended : List Take

def start (disk : Disk) : System where
  cmd := Dtmf.load false
  vm := load disk
  live := none
  ended := []

inductive Input where
  | digit (d : Char)
  | entryTimeout
  | register (pattern : Text) (eventOffset : Int) (description configKey : Text)
  | unregister (pattern : Text)
  | identified (userId : Int)
  | keyUp (room : State.Room)
  | unkey (write : Write)
  | armTimeout
  | recTimeout (write : Write)
  | audio (samples : List Int) (grown : Bool)
  | users (known : Int → Bool)
  | reload (cfg : KerchunkConfig)
  | unload

def patterns : List Text :=
  ["87".toList, "86".toList, "85".toList, "83".toList, "84".toList]

def selected (out : List Output) : Int :=
  -- The mailbox of the last `*86` that armed.
  (out.reverse.findSome? fun
    | .armed userId => some userId
    | _ => none).getD 0

def dispatch (s : System) (cmd : Dtmfcmd) : System :=
  -- What the module fires is handled before it goes on.
  { s with cmd := cmd, vm := (cmd.fired.drop s.cmd.fired.length).foldl State.onCustom s.vm }

def keypad (s : System) (i : Dtmf.Input) : System :=
  dispatch s (s.cmd.step i)

def endTake (s : System) : System :=
  { s with live := none, ended := s.ended ++ s.live.toList }

variable (env : Station)

def keyUp (s : System) (room : State.Room) : System :=
  let begins := s.vm.loaded && s.vm.recordArmed && !s.vm.recording
  { s with
    cmd := s.cmd.step .corAssert
    vm := s.vm.onCorAssert env room
    live := if begins then some ⟨selected s.vm.out, []⟩ else s.live }

def unkey (s : System) (write : Write) : System :=
  -- Two modules subscribe to COR_DROP.
  endTake <|
    if env.voicemailFirst then keypad { s with vm := s.vm.onCorDrop write } .corDrop
    else
      let s := keypad s .corDrop
      { s with vm := s.vm.onCorDrop write }

def recTimeout (s : System) (write : Write) : System :=
  if s.vm.recTimer then endTake { s with vm := s.vm.recTimeout write } else s

def audio (s : System) (samples : List Int) (grown : Bool) : System :=
  { s with
    vm := if s.vm.taps = 0 then s.vm else s.vm.recAudioTap env samples grown
    live := s.live.map fun t => { t with heard := t.heard ++ samples } }

def step (s : System) : Input → System
  | .digit d => keypad s (.digit d)
  | .entryTimeout => keypad s .timeout
  | .register pattern eventOffset description configKey =>
    keypad s (.register pattern eventOffset description configKey)
  | .unregister pattern => keypad s (.unregister pattern)
  | .identified userId => { s with vm := s.vm.onCallerIdentified userId }
  | .keyUp room => keyUp env s room
  | .unkey write => unkey env s write
  | .armTimeout => if s.vm.armTimer then { s with vm := s.vm.armTimeout } else s
  | .recTimeout write => recTimeout s write
  | .audio samples grown => audio env s samples grown
  | .users known => { s with vm := { s.vm with known := known } }
  | .reload cfg =>
    let s := keypad s (.configure cfg)
    { s with vm := if s.vm.loaded then s.vm.configure cfg else s.vm }
  | .unload =>
    { s with
      cmd := patterns.foldl Dtmfcmd.dtmfUnregisterCmd s.cmd
      vm := s.vm.unload }

end Kerchunk.Voicemail
