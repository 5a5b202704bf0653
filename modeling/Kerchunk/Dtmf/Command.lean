import Kerchunk.Config.Duration
import Kerchunk.Lib.Machine

set_option autoImplicit false

/-!
# DTMF commands (`modules/mod_dtmfcmd.c`)

An entry is typed between `*` and `#`. A timer that could not be created is one that never runs out.
-/

namespace Kerchunk.Dtmf

open Kerchunk.Config (KerchunkConfig bounded configGet)

def maxCmdLen : Nat := 16
def maxCommands : Nat := 64
def maxDescription : Nat := 64
def maxConfigKey : Nat := 32

/-- `KERCHEVT_CUSTOM` -/
def kerchevtCustom : Int := 1000

structure DtmfCmdEntry where
  pattern : List Char
  customEventId : Int
  description : List Char
  configKey : List Char
deriving DecidableEq

structure CustomEvent where
  id : Int
  arg : List Char
deriving DecidableEq

/-- `receiving` is the core's. The length of `buf` is `g_pos`, and `timeoutTimer` says that the
inter-digit timer runs. -/
structure Dtmfcmd where
  active : Bool
  buf : List Char
  timeoutTimer : Bool
  pendingDispatch : Bool
  cmds : List DtmfCmdEntry
  receiving : Bool
  dispatched : List (List Char)
  fired : List CustomEvent
deriving DecidableEq

def load (receiving : Bool) : Dtmfcmd where
  active := false
  buf := []
  timeoutTimer := false
  pendingDispatch := false
  cmds := []
  receiving := receiving
  dispatched := []
  fired := []

inductive Input where
  | digit (d : Char)
  | corAssert
  | corDrop
  | timeout
  | register (pattern : List Char) (eventOffset : Int) (description configKey : List Char)
  | unregister (pattern : List Char)
  | configure (cfg : KerchunkConfig)

namespace Dtmfcmd

variable (s : Dtmfcmd)

def resetCmd : Dtmfcmd :=
  { s with active := false, buf := [], timeoutTimer := false }

def matchCommand (cmds : List DtmfCmdEntry) (buf : List Char) : Option CustomEvent :=
  -- The first pattern that the buffer starts with; the rest of the buffer is its argument.
  (cmds.find? fun c => c.pattern.isPrefixOf buf).map fun c =>
    ⟨c.customEventId, bounded maxCmdLen (buf.drop c.pattern.length)⟩

def dispatchCommand : Dtmfcmd :=
  { s with
    dispatched := s.dispatched ++ [s.buf]
    fired := s.fired ++ (matchCommand s.cmds s.buf).toList }

def onCorDrop : Dtmfcmd :=
  if s.pendingDispatch then { s with pendingDispatch := false }.dispatchCommand.resetCmd else s

def onDtmfDigit (d : Char) : Dtmfcmd :=
  if d = '*' then { s with active := true, buf := [], timeoutTimer := true }
  else if !s.active then s
  else if d = '#' then
    let s := { s with timeoutTimer := false }
    if s.receiving then { s with pendingDispatch := true } else s.dispatchCommand.resetCmd
  else if s.buf.length < maxCmdLen then { s with buf := s.buf ++ [d], timeoutTimer := true }
  else s.resetCmd

def timeoutCb : Dtmfcmd :=
  { s with timeoutTimer := false }.resetCmd

def dtmfRegisterCmd (pattern : List Char) (eventOffset : Int) (description configKey : List Char) :
    Dtmfcmd :=
  if s.cmds.length ≥ maxCommands then s
  else
    { s with
      cmds := s.cmds ++
        [{ pattern := bounded maxCmdLen pattern
           customEventId := kerchevtCustom + eventOffset
           description := bounded maxDescription description
           configKey := bounded maxConfigKey configKey }] }

def dtmfUnregisterCmd (pattern : List Char) : Dtmfcmd :=
  { s with cmds := s.cmds.eraseP fun c => c.pattern = pattern }

def overridePattern (cfg : KerchunkConfig) (c : DtmfCmdEntry) : DtmfCmdEntry :=
  -- Pattern overrides from the `[dtmf]` section.
  if c.configKey = [] then c
  else
    match configGet cfg "dtmf".toList c.configKey with
    | none | some [] => c
    | some pattern => { c with pattern := bounded maxCmdLen pattern }

def configure (cfg : KerchunkConfig) : Dtmfcmd :=
  { s with cmds := s.cmds.map (overridePattern cfg) }

def step : Input → Dtmfcmd
  | .digit d => s.onDtmfDigit d
  | .corAssert => { s with receiving := true }
  | .corDrop => { s with receiving := false }.onCorDrop
  | .timeout => if s.timeoutTimer then s.timeoutCb else s
  | .register pattern eventOffset description configKey =>
      s.dtmfRegisterCmd pattern eventOffset description configKey
  | .unregister pattern => s.dtmfUnregisterCmd pattern
  | .configure cfg => s.configure cfg

section

variable {s} {d : Char}

theorem onDtmfDigit_star : s.onDtmfDigit '*' =
    { s with active := true, buf := [], timeoutTimer := true } := if_pos rfl

theorem onDtmfDigit_idle (idle : s.active = false) (other : d ≠ '*') : s.onDtmfDigit d = s := by
  simp [onDtmfDigit, idle, other]

theorem onDtmfDigit_wait (active : s.active = true) (receiving : s.receiving = true) :
    s.onDtmfDigit '#' = { s with timeoutTimer := false, pendingDispatch := true } := by
  simp [onDtmfDigit, active, receiving]

theorem onDtmfDigit_dispatch (active : s.active = true) (receiving : s.receiving = false) :
    s.onDtmfDigit '#' = s.dispatchCommand.resetCmd := by
  simp [onDtmfDigit, active, receiving, dispatchCommand, resetCmd]

theorem onDtmfDigit_add (active : s.active = true) (star : d ≠ '*') (hash : d ≠ '#')
    (room : s.buf.length < maxCmdLen) :
    s.onDtmfDigit d = { s with buf := s.buf ++ [d], timeoutTimer := true } := by
  simp [onDtmfDigit, active, star, hash, room]

theorem onDtmfDigit_long (active : s.active = true) (star : d ≠ '*') (hash : d ≠ '#')
    (full : ¬ s.buf.length < maxCmdLen) : s.onDtmfDigit d = s.resetCmd := by
  simp [onDtmfDigit, active, star, hash, full]

end

end Dtmfcmd

/-! ## What is typed -/

/-- The digits since the last `*`, when no `#`, timeout or digit too many has ended them. The newest
input comes first. -/
def openEntry : List Input → Option (List Char)
  | [] => none
  | .digit d :: before =>
      if d = '*' then some []
      else if d = '#' then none
      else
        (openEntry before).bind fun digits =>
          if digits.length < maxCmdLen then some (digits ++ [d]) else none
  | .timeout :: _ => none
  | _ :: before => openEntry before

def entries : List Input → List (List Char)
  -- One for each `#` that terminates an entry.
  | [] => []
  | .digit d :: before => entries before ++ if d = '#' then (openEntry before).toList else []
  | _ :: before => entries before

/-- The module with all its inputs. -/
structure Keypad where
  cmd : Dtmfcmd
  history : List Input

def keypad (receiving : Bool) : Keypad := ⟨load receiving, []⟩

namespace Keypad

def step (k : Keypad) (i : Input) : Keypad :=
  ⟨k.cmd.step i, i :: k.history⟩

def Extracts (k : Keypad) : Prop :=
  -- The entries are dispatched in order, each of them once; only while COR is up some still wait.
  ∃ waiting, entries k.history = k.cmd.dispatched ++ waiting ∧
    (k.cmd.receiving = false → waiting = [])

def Unhurried (k : Keypad) (i : Input) : Prop :=
  -- Nothing but `#` is typed while an entry waits for COR to drop.
  k.cmd.pendingDispatch = true → ∀ d, i = .digit d → d = '#'

instance decidableUnhurried (k : Keypad) : (i : Input) → Decidable (k.Unhurried i)
  | .digit d =>
      decidable_of_iff (k.cmd.pendingDispatch = true → d = '#') (by simp [Unhurried])
  | .corAssert | .corDrop | .timeout | .register .. | .unregister _ | .configure _ =>
      .isTrue (by simp [Unhurried])

/-! ## How the buffer follows -/

/-- Nothing waits: the buffer holds the entry that is being typed. -/
structure Typing (k : Keypad) : Prop where
  settled : k.cmd.pendingDispatch = false
  timed : k.cmd.timeoutTimer = k.cmd.active
  entry : openEntry k.history = if k.cmd.active then some k.cmd.buf else none
  done : entries k.history = k.cmd.dispatched

/-- The buffer holds an entry that waits. -/
structure Waiting (k : Keypad) : Prop where
  pending : k.cmd.pendingDispatch = true
  active : k.cmd.active = true
  receiving : k.cmd.receiving = true
  untimed : k.cmd.timeoutTimer = false
  entry : openEntry k.history = none
  done : entries k.history = k.cmd.dispatched ++ [k.cmd.buf]

def Follows (k : Keypad) : Prop :=
  k.Typing ∨ k.Waiting

theorem start_follows (receiving : Bool) : (keypad receiving).Follows :=
  Or.inl ⟨rfl, rfl, rfl, rfl⟩

theorem follows_extracts {k : Keypad} (follows : k.Follows) : k.Extracts := by
  rcases follows with typing | waiting
  next => exact ⟨[], by rw [typing.done, List.append_nil], fun _ => rfl⟩
  next =>
    refine ⟨[k.cmd.buf], waiting.done, fun dropped => ?_⟩
    cases waiting.receiving.symm.trans dropped

theorem step_of {k : Keypad} {i : Input} {cmd : Dtmfcmd} (moves : k.cmd.step i = cmd) :
    k.step i = ⟨cmd, i :: k.history⟩ := by
  rw [step, moves]

theorem typing_star {k : Keypad} (typing : k.Typing) : (k.step (.digit '*')).Typing := by
  rw [step_of (i := .digit '*') Dtmfcmd.onDtmfDigit_star]
  exact ⟨typing.settled, rfl, rfl, by simpa [entries] using typing.done⟩

theorem typing_hash {k : Keypad} (typing : k.Typing) (active : k.cmd.active = true) :
    (k.step (.digit '#')).Follows := by
  have typed : openEntry k.history = some k.cmd.buf := by
    rw [typing.entry, if_pos active]
  have finished : entries (.digit '#' :: k.history) = k.cmd.dispatched ++ [k.cmd.buf] := by
    simp [entries, typed, typing.done]
  cases receiving : k.cmd.receiving with
  | true =>
    have waits := Dtmfcmd.onDtmfDigit_wait active receiving
    rw [step_of (i := .digit '#') waits]
    exact Or.inr ⟨rfl, active, receiving, rfl, rfl, finished⟩
  | false =>
    have dispatches := Dtmfcmd.onDtmfDigit_dispatch active receiving
    rw [step_of (i := .digit '#') dispatches]
    exact Or.inl ⟨typing.settled, rfl, rfl, finished⟩

theorem typing_add {k : Keypad} (typing : k.Typing) (active : k.cmd.active = true) {d : Char}
    (star : d ≠ '*') (hash : d ≠ '#') : (k.step (.digit d)).Typing := by
  have typed : openEntry k.history = some k.cmd.buf := by
    rw [typing.entry, if_pos active]
  have done : entries (.digit d :: k.history) = k.cmd.dispatched := by
    simp [entries, hash, typing.done]
  by_cases room : k.cmd.buf.length < maxCmdLen
  next =>
    have adds := Dtmfcmd.onDtmfDigit_add active star hash room
    rw [step_of (i := .digit d) adds]
    exact ⟨typing.settled, active.symm, by simp [openEntry, star, hash, typed, room, active], done⟩
  next =>
    have resets := Dtmfcmd.onDtmfDigit_long active star hash room
    rw [step_of (i := .digit d) resets]
    refine ⟨typing.settled, rfl, ?_, done⟩
    simp [openEntry, star, hash, typed, room, Dtmfcmd.resetCmd]

theorem typing_idle {k : Keypad} (typing : k.Typing) (idle : k.cmd.active = false) {d : Char}
    (star : d ≠ '*') : (k.step (.digit d)).Typing := by
  have nothing : openEntry k.history = none := by
    rw [typing.entry, idle]
    rfl
  have same := Dtmfcmd.onDtmfDigit_idle idle star
  rw [step_of (i := .digit d) same]
  refine ⟨typing.settled, typing.timed, ?_, ?_⟩
  next => simp [openEntry, star, nothing, idle]
  next => simp [entries, nothing, typing.done]

theorem typing_digit {k : Keypad} (typing : k.Typing) (d : Char) : (k.step (.digit d)).Follows := by
  by_cases star : d = '*'
  next => exact Or.inl (star ▸ typing_star typing)
  cases active : k.cmd.active with
  | false => exact Or.inl (typing_idle typing active star)
  | true =>
    by_cases hash : d = '#'
    next => exact hash ▸ typing_hash typing active
    next => exact Or.inl (typing_add typing active star hash)

theorem waiting_hash {k : Keypad} (waiting : k.Waiting) : (k.step (.digit '#')).Waiting := by
  -- Another `#` changes nothing.
  have waits := Dtmfcmd.onDtmfDigit_wait waiting.active waiting.receiving
  rw [step_of (i := .digit '#') waits]
  exact ⟨rfl, waiting.active, waiting.receiving, rfl, rfl, by
    simp [entries, waiting.entry, waiting.done]⟩

theorem typing_drop {k : Keypad} (typing : k.Typing) : (k.step .corDrop).Typing := by
  have keeps : k.cmd.step .corDrop = { k.cmd with receiving := false } := by
    simp [Dtmfcmd.step, Dtmfcmd.onCorDrop, typing.settled]
  rw [step_of keeps]
  exact ⟨typing.settled, typing.timed, typing.entry, typing.done⟩

theorem waiting_drop {k : Keypad} (waiting : k.Waiting) : (k.step .corDrop).Typing := by
  have dispatches : k.cmd.step .corDrop =
      { k.cmd with receiving := false, pendingDispatch := false }.dispatchCommand.resetCmd := by
    simp [Dtmfcmd.step, Dtmfcmd.onCorDrop, waiting.pending]
  rw [step_of dispatches]
  exact ⟨rfl, rfl, waiting.entry, waiting.done⟩

theorem typing_timeout {k : Keypad} (typing : k.Typing) : (k.step .timeout).Typing := by
  cases running : k.cmd.timeoutTimer with
  | true =>
    have expires : k.cmd.step .timeout = k.cmd.timeoutCb := by
      simp [Dtmfcmd.step, running]
    rw [step_of expires]
    exact ⟨typing.settled, rfl, rfl, typing.done⟩
  | false =>
    have idle : k.cmd.active = false := typing.timed.symm.trans running
    have stays : k.cmd.step .timeout = k.cmd := by
      simp [Dtmfcmd.step, running]
    rw [step_of stays]
    exact ⟨typing.settled, typing.timed, by simp [openEntry, idle], typing.done⟩

theorem waiting_timeout {k : Keypad} (waiting : k.Waiting) : (k.step .timeout).Waiting := by
  have stays : k.cmd.step .timeout = k.cmd := by
    simp [Dtmfcmd.step, waiting.untimed]
  rw [step_of stays]
  exact ⟨waiting.pending, waiting.active, waiting.receiving, waiting.untimed, rfl, waiting.done⟩

theorem register_follows {k : Keypad} (follows : k.Follows)
    (pattern : List Char) (eventOffset : Int) (description configKey : List Char) :
    (k.step (.register pattern eventOffset description configKey)).Follows := by
  have cmdsOnly : ∃ cmds, k.cmd.dtmfRegisterCmd pattern eventOffset description configKey =
      { k.cmd with cmds } := by
    unfold Dtmfcmd.dtmfRegisterCmd
    split
    next => exact ⟨k.cmd.cmds, rfl⟩
    next => exact ⟨_, rfl⟩
  obtain ⟨cmds, same⟩ := cmdsOnly
  rw [step_of (i := .register pattern eventOffset description configKey) same]
  exact follows.imp (fun t => ⟨t.settled, t.timed, t.entry, t.done⟩)
    fun w => ⟨w.pending, w.active, w.receiving, w.untimed, w.entry, w.done⟩

theorem step_follows {k : Keypad} {i : Input} (follows : k.Follows) (unhurried : k.Unhurried i) :
    (k.step i).Follows := by
  cases i with
  | digit d =>
    rcases follows with typing | waiting
    next => exact typing_digit typing d
    next => exact Or.inr (unhurried waiting.pending d rfl ▸ waiting_hash waiting)
  | corAssert =>
    exact follows.imp (fun t => ⟨t.settled, t.timed, t.entry, t.done⟩)
      fun w => ⟨w.pending, w.active, rfl, w.untimed, w.entry, w.done⟩
  | corDrop => exact Or.inl (follows.elim typing_drop waiting_drop)
  | timeout => exact follows.imp typing_timeout waiting_timeout
  | register pattern eventOffset description configKey =>
    exact register_follows follows pattern eventOffset description configKey
  | unregister | configure =>
    exact follows.imp (fun t => ⟨t.settled, t.timed, t.entry, t.done⟩)
      fun w => ⟨w.pending, w.active, w.receiving, w.untimed, w.entry, w.done⟩

theorem unhurried_extracts (receiving : Bool) (inputs : List Input)
    (guarded : Machine.Guarded step Unhurried (keypad receiving) inputs) :
    (Machine.run step (keypad receiving) inputs).Extracts :=
  follows_extracts (Machine.run_invariant step (P := Follows)
    (fun _ _ follows unhurried => step_follows follows unhurried) (start_follows receiving) guarded)

/-- A time check that is asked for under COR and followed by a pause. -/
theorem paused_entry_extracts :
    (Machine.run step (keypad true)
      [.register "95".toList 10 "Time check".toList "time_check".toList, .digit '*', .digit '9',
        .digit '5', .digit '#', .timeout, .corDrop]).Extracts :=
  unhurried_extracts true _ (by decide)

/-- A digit after `#` is dispatched with the entry. -/
theorem late_digit_dispatched :
    ¬ (Machine.run step (keypad true)
      [.digit '*', .digit '9', .digit '5', .digit '#', .digit '1', .corDrop]).Extracts := by
  rintro ⟨waiting, extracted, dropped⟩
  obtain rfl := dropped rfl
  revert extracted
  decide

end Keypad

end Kerchunk.Dtmf
