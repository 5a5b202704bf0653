import Kerchunk.Core.Timer

set_option autoImplicit false

/-!
# What modules register with the core

`src/kerchunk_events.c`, the taps of `src/kerchunk_core.c`, `src/kerchunk_modules.c`, and the load
and unload of two modules. A dispatch goes on one handler after the other; what a handler does
comes between two of these steps, and so does what other threads do.
-/

namespace Kerchunk.Core.Registry

/-- `kerchevt_type_t` -/
inductive Evt where
  | audioFrame
  | ctcssDetect
  | dcsDetect
  | dtmfDigit
  | dtmfEnd
  | corAssert
  | corDrop
  | vcorAssert
  | vcorDrop
  | pttAssert
  | pttDrop
  | linkRxAssert
  | linkRxDrop
  | rxStateChange
  | txStateChange
  | tailStart
  | tailExpire
  | rxTimeout
  | callerIdentified
  | callerCleared
  | queueDrain
  | queueComplete
  | queuePreempted
  | recordingSaved
  | announcement
  | configReload
  | shutdown
  | tick
  | heartbeat
  | custom (n : Nat)
deriving DecidableEq

def builtinCount : Nat := 29
def maxTypes : Nat := 1128
def maxSubs : Nat := 32
def maxTaps : Nat := 8
def maxFireDepth : Nat := 16
def maxModules : Nat := 64

def Evt.indexed : Evt → Bool
  -- `evt_index(type) >= 0`
  | .custom n => n < maxTypes - builtinCount
  | _ => true

/-- Where handlers are listed: an event, or the audio taps. -/
inductive Source where
  | event (e : Evt)
  | capture
  | playback
deriving DecidableEq

/-- A function of a module, and where the module was mapped. -/
structure Fn where
  moduleName : String
  image : Nat
  symbol : String
deriving DecidableEq

/-- A dispatch in progress. `called` and `left` are its snapshot; `kept` are the handlers that have
been registered ever since it was taken. -/
structure Frame where
  source : Source
  called : List Fn
  left : List Fn
  kept : List Fn
deriving DecidableEq

structure System where
  registered : Source → List Fn
  timers : TimerTable Fn
  modules : List (String × Nat)
  frames : Nat → List Frame

def init : System where
  registered := fun _ => []
  timers := TimerTable.init
  modules := []
  frames := fun _ => []

def refuses (listed : List Fn) (fn : Fn) : Source → Bool
  -- `kerchevt_subscribe`, `core_audio_tap_register` or `core_playback_tap_register`
  | .event e => !e.indexed || decide (fn ∈ listed) || decide (maxSubs ≤ listed.length)
  | _ => maxTaps ≤ listed.length

def register (s : System) (source : Source) (fn : Fn) : System :=
  if refuses (s.registered source) fn source then s
  else
    { s with
      registered := Function.update s.registered source (s.registered source ++ [fn]) }

def unregister (s : System) (source : Source) (fn : Fn) : System :=
  -- `kerchevt_unsubscribe` and the unregistering of taps: the first that matches goes.
  { s with registered := Function.update s.registered source ((s.registered source).erase fn) }

def settle (s : System) : System :=
  -- Forgets what is no longer registered.
  { s with
    frames := fun thread =>
      (s.frames thread).map fun f =>
        { f with kept := f.kept.filter fun fn => fn ∈ s.registered f.source } }

/-! ## Modules -/

inductive Registration where
  | register (source : Source) (symbol : String)
  | timer (symbol : String) (ms : Int) (repeats : Bool)

/-- A timer is cancelled through the variable that holds its id. -/
inductive Removal where
  | unregister (source : Source) (symbol : String)
  | cancel (symbol : String)

/-- What `load` registers and `unload` removes. -/
structure ModuleDef where
  load : List Registration
  unload : List Removal

section Image

variable (name : String) (image : Nat)

def applyRegistration (s : System) : Registration → System
  | .register source symbol => register s source ⟨name, image, symbol⟩
  | .timer symbol ms repeats =>
    { s with timers := (s.timers.create ms repeats ⟨name, image, symbol⟩).2 }

def applyRemoval (s : System) : Removal → System
  | .unregister source symbol => unregister s source ⟨name, image, symbol⟩
  | .cancel symbol =>
    { s with timers := s.timers.drop fun e => decide (e.callback = ⟨name, image, symbol⟩) }

end Image

def Live (s : System) (fn : Fn) : Prop :=
  -- The function's module is loaded where the function is.
  (fn.moduleName, fn.image) ∈ s.modules

instance (s : System) (fn : Fn) : Decidable (Live s fn) :=
  inferInstanceAs (Decidable (_ ∈ s.modules))

def loggerTypes : List Evt :=
  -- `logger_load` and `logger_unload`: what is subscribed but not in `g_sub_types` stays.
  [.ctcssDetect, .dcsDetect, .dtmfDigit, .dtmfEnd, .corAssert, .corDrop, .pttAssert, .pttDrop,
    .rxStateChange, .txStateChange, .tailStart, .tailExpire, .rxTimeout, .callerIdentified,
    .callerCleared, .queueDrain, .queueComplete, .queuePreempted, .announcement, .configReload,
    .shutdown]

def loggerSubTypes : List Evt :=
  [.ctcssDetect, .dcsDetect, .dtmfDigit, .dtmfEnd, .corAssert, .corDrop, .pttAssert, .pttDrop,
    .rxStateChange, .txStateChange, .tailStart, .tailExpire, .rxTimeout, .callerIdentified,
    .callerCleared, .queueDrain, .queueComplete, .queuePreempted, .configReload, .shutdown]

def modLogger : ModuleDef where
  load :=
    (loggerTypes ++ (List.range 16).map Evt.custom).map fun e => .register (.event e) "log_event"
  unload :=
    (loggerSubTypes ++ (List.range 16).map Evt.custom).map fun e =>
      .unregister (.event e) "log_event"

def voicemailHandlers : List (Evt × String) :=
  [(.custom 0, "on_vm_status"), (.custom 1, "on_vm_record"), (.custom 2, "on_vm_play"),
    (.custom 3, "on_vm_delete"), (.custom 4, "on_vm_list"),
    (.callerIdentified, "on_caller_identified"), (.corAssert, "on_cor_assert"),
    (.corDrop, "on_cor_drop")]

/-- The tap of a recording in progress is registered by `on_cor_assert`; `voicemail_unload` cancels
the two timers and leaves the tap. -/
def modVoicemail : ModuleDef where
  load := voicemailHandlers.map fun h => .register (.event h.1) h.2
  unload :=
    (voicemailHandlers.map fun h => .unregister (.event h.1) h.2) ++
      [.cancel "arm_timeout", .cancel "rec_timeout"]

/-! ## The loader and the dispatch -/

inductive Input where
  | load (name : String) (image : Nat) (succeeds : Bool)
  | unload (name : String)
  | register (source : Source) (fn : Fn)
  | unregister (source : Source) (fn : Fn)
  | timerSet (fn : Fn) (ms : Int) (repeats : Bool)
  | timerCancel (timerId : Nat)
  | elapse (us : Nat)
  | tick
  | visit (i : Slot)
  | fire (thread : Nat) (source : Source)
  | next (thread : Nat)
deriving DecidableEq

section Step

variable (defs : String → ModuleDef)

def moduleLoad (s : System) (name : String) (image : Nat) (succeeds : Bool) : System :=
  -- `kerchunk_module_load`, where `dlopen` maps the module at `image`.
  if name ∈ s.modules.map Prod.fst ∨ image ∈ s.modules.map Prod.snd ∨
      maxModules ≤ s.modules.length then s
  else
    let done := (defs name).load.foldl (applyRegistration name image) s
    -- After a failed `load` the module is closed, and that is all.
    if succeeds then { done with modules := done.modules ++ [(name, image)] } else done

def moduleUnload (s : System) (name : String) : System :=
  match s.modules.find? fun m => m.1 = name with
  | none => s
  | some m =>
    let done := (defs name).unload.foldl (applyRemoval name m.2) s
    settle { done with modules := done.modules.filter fun m => m.1 ≠ name }

def fireDepth (frames : List Frame) : Nat :=
  -- `g_fire_depth`; taps do not count.
  frames.countP fun f => f.source ≠ .capture ∧ f.source ≠ .playback

def fire (s : System) (thread : Nat) (source : Source) : System :=
  -- `kerchevt_fire` and the dispatch of taps, up to the first handler.
  let snapshot := s.registered source
  let frame : Frame := { source := source, called := [], left := snapshot, kept := snapshot }
  let pushed := { s with frames := Function.update s.frames thread (frame :: s.frames thread) }
  match source with
  | .event e => if e.indexed ∧ fireDepth (s.frames thread) < maxFireDepth then pushed else s
  | _ => pushed

def next (s : System) (thread : Nat) : System :=
  -- The handler called last returns: the next one is called, or the dispatch ends.
  match s.frames thread with
  | [] => s
  | f :: outer =>
    match f.left with
    | [] => { s with frames := Function.update s.frames thread outer }
    | fn :: left =>
      let f := { f with called := f.called ++ [fn], left := left }
      { s with frames := Function.update s.frames thread (f :: outer) }

-- Only what is mapped runs, so only that registers.
def step (s : System) : Input → System
  | .load name image succeeds => moduleLoad defs s name image succeeds
  | .unload name => moduleUnload defs s name
  | .register source fn => if Live s fn then register s source fn else s
  | .unregister source fn => settle (unregister s source fn)
  | .timerSet fn ms repeats =>
    if Live s fn then { s with timers := (s.timers.create ms repeats fn).2 } else s
  | .timerCancel timerId => { s with timers := s.timers.cancel timerId }
  | .elapse us => { s with timers := s.timers.elapse us }
  | .tick => { s with timers := s.timers.beginTick }
  | .visit i => { s with timers := s.timers.visit i }
  | .fire thread source => fire s thread source
  | .next thread => next s thread

end Step

end Kerchunk.Core.Registry

/-!
## Event dispatch (`src/kerchunk_events.c`)

A handler may fire further events; they are dispatched before it goes on.
-/

namespace Kerchunk.Core

/-- `KERCHEVT_MAX_DEPTH` -/
def maxDepth : Nat := 16

/-- The subscribers of an event in the order of their subscription, and what each does; the
handler is given what fires an event from inside it. -/
structure Bus (S E H : Type) where
  subscribers : E → List H
  handle : H → (E → S → S) → E → S → S

def Bus.fire {S E H : Type} (b : Bus S E H) : Nat → E → S → S
  -- `kerchevt_fire`, with the levels left below the recursion limit.
  | 0, _, s => s
  | depth + 1, evt, s => (b.subscribers evt).foldl (fun s h => b.handle h (b.fire depth) evt s) s

theorem Bus.fire_succ {S E H : Type} (b : Bus S E H) (depth : Nat) (evt : E) (s : S) :
    b.fire (depth + 1) evt s =
      (b.subscribers evt).foldl (fun s h => b.handle h (b.fire depth) evt s) s := rfl

end Kerchunk.Core
