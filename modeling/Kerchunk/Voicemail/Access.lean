import Kerchunk.Caller.Signals
import Kerchunk.Voicemail.Recording

set_option autoImplicit false

/-!
# Who gets at a mailbox

Voicemail beside `modules/mod_caller.c`. COR_ASSERT begins a transmission. Digits still come in its
squelch tail, and belong to it.
-/

namespace Kerchunk.Voicemail.Access

open Kerchunk.Caller.Signals (Directory Outcome Session)
open Kerchunk.Config (KerchunkConfig Text)
open Kerchunk.Dtmf (CustomEvent Dtmfcmd kerchevtCustom)
open Machine (Guarded run)

/-- `callerFirst` is the order of the handlers of DTMF_DIGIT. -/
structure Station extends Voicemail.Station where
  callerFirst : Bool

/-- A command told about a mailbox or deleted from it. -/
structure Use where
  owner : Int
  live : Bool
deriving DecidableEq

/-- `identified` are those identified in the transmission, the last one first; `atEntry` is the user
of the session when `#` was typed. -/
structure System where
  dir : Directory
  session : Session
  mail : Voicemail.System
  identified : List Int
  atEntry : Int
  uses : List Use

def start (disk : Disk) : System where
  dir := ⟨[], []⟩
  session := Caller.Signals.init
  mail := Voicemail.start disk
  identified := []
  atEntry := 0
  uses := []

inductive Input where
  | digit (d : Char)
  | entryTimeout
  | aniTimeout
  | sessionTimeout
  | logoutCommand
  | register (pattern : Text) (eventOffset : Int) (description configKey : Text)
  | unregister (pattern : Text)
  | keyUp (room : State.Room)
  | unkey (write : Write)
  | armTimeout
  | recTimeout (write : Write)
  | audio (samples : List Int) (grown : Bool)
  | users (dir : Directory)
  | reload (cfg : KerchunkConfig)
  | unload

def touched : Output → Option Int
  | .status userId _ => some userId
  | .playing userId _ => some userId
  | .deleted userId _ => some userId
  | .noMessages userId => some userId
  | _ => none

variable (env : Station) (s : System)

def mailStep (i : Voicemail.Input) : System :=
  let mail := Voicemail.step env.toStation s.mail i
  let owners := (mail.vm.out.drop s.mail.vm.out.length).filterMap touched
  { s with
    mail := mail
    uses := s.uses ++
      owners.map fun owner => ⟨owner, decide (owner ∈ s.identified ∨ owner = s.atEntry)⟩ }

def hear (outcome : Outcome) : System :=
  match outcome.signal with
  | some (.identified userId _) =>
    mailStep env { s with session := outcome.session, identified := (userId : Int) :: s.identified }
      (.identified userId)
  | _ => { s with session := outcome.session }

def callerStep (i : Caller.Signals.Input) : System :=
  hear env s (Caller.Signals.handle s.dir s.session i)

def typed (d : Char) : System :=
  if d = '#' then { s with atEntry := s.session.sessionUserId } else s

def digit (d : Char) : System :=
  if env.callerFirst then mailStep env (callerStep env (typed s d) (.dtmfDigit d)) (.digit d)
  else callerStep env (mailStep env (typed s d) (.digit d)) (.dtmfDigit d)

def step : Input → System
  | .digit d => digit env s d
  | .entryTimeout => mailStep env s .entryTimeout
  | .aniTimeout => callerStep env s .aniTimeout
  | .sessionTimeout => callerStep env s .sessionTimeout
  | .logoutCommand => callerStep env s .logoutCommand
  | .register pattern eventOffset description configKey =>
    mailStep env s (.register pattern eventOffset description configKey)
  | .unregister pattern => mailStep env s (.unregister pattern)
  -- No other handler of COR reads what the caller module changes.
  | .keyUp room =>
    let s := hear env { s with identified := [] } (Caller.Signals.onCorAssert s.session)
    mailStep env s (.keyUp room)
  | .unkey write =>
    let s := mailStep env s (.unkey write)
    hear env s (Caller.Signals.onCorDrop s.session)
  | .armTimeout => mailStep env s .armTimeout
  | .recTimeout write => mailStep env s (.recTimeout write)
  | .audio samples grown => mailStep env s (.audio samples grown)
  | .users dir =>
    mailStep env { s with dir := dir } (.users fun userId => dir.users.any fun u => (u.id : Int) = userId)
  | .reload cfg => mailStep env s (.reload cfg)
  | .unload => mailStep env s .unload

/-! ## What must hold -/

/-- Each mailbox was used by a command of its owner, identified in the transmission or with a
session. -/
def Owned : Prop :=
  ∀ use ∈ s.uses, use.live = true

instance : Decidable (Owned s) :=
  List.decidableBAll _ _

def due (cmd : Dtmfcmd) : Voicemail.Input → Option CustomEvent
  -- The command that is dispatched.
  | .digit d =>
    if d = '#' ∧ cmd.active ∧ !cmd.receiving then Dtmfcmd.matchCommand cmd.cmds cmd.buf else none
  | .unkey _ => waiting cmd
  | _ => none

def Uses (vm : State) (evt : CustomEvent) : Prop :=
  -- The command uses the mailbox of whoever was identified last.
  vm.loaded ∧ vm.enabled ∧ 0 < vm.currentCallerId ∧
    evt.id - kerchevtCustom ∈ ([0, 2, 3, 4] : List Int)

instance (vm : State) (evt : CustomEvent) : Decidable (Uses vm evt) :=
  inferInstanceAs (Decidable (_ ∧ _ ∧ _ ∧ _))

def Vouched : Prop :=
  -- Somebody was identified in the transmission, or who was identified last has the session.
  s.identified ≠ [] ∨ s.mail.vm.currentCallerId = s.atEntry

def Entitled (i : Voicemail.Input) : Prop :=
  ∀ evt ∈ due s.mail.cmd i, Uses s.mail.vm evt → Vouched s

def Allowed : Input → Prop
  | .digit d =>
    let s := typed s d
    Entitled (if env.callerFirst then callerStep env s (.dtmfDigit d) else s) (.digit d)
  | .unkey write => Entitled s (.unkey write)
  | _ => True

/-! ## What voicemail does -/

section Mail

variable {vm after later : State} {owners more : List Int}

/-- The mailboxes of the owners are used; who was identified last stays. -/
structure Moves (vm after : State) (owners : List Int) : Prop where
  caller : after.currentCallerId = vm.currentCallerId
  loaded : after.loaded = true → vm.loaded = true
  told : ∃ outputs, after.out = vm.out ++ outputs ∧ outputs.filterMap touched = owners

theorem moves_trans (first : Moves vm after owners) (second : Moves after later more) :
    Moves vm later (owners ++ more) := by
  obtain ⟨outputs, out, told⟩ := first.told
  obtain ⟨outputs', out', told'⟩ := second.told
  refine ⟨second.caller.trans first.caller, fun loaded => first.loaded (second.loaded loaded),
    outputs ++ outputs', ?_, ?_⟩
  next => rw [out', out, List.append_assoc]
  next => rw [List.filterMap_append, told, told']

theorem moves_still (caller : after.currentCallerId = vm.currentCallerId)
    (loaded : after.loaded = true → vm.loaded = true) (out : after.out = vm.out) :
    Moves vm after [] :=
  ⟨caller, loaded, [], by rw [out, List.append_nil], rfl⟩

theorem moves_refl : Moves vm vm [] :=
  moves_still rfl id rfl

theorem moves_emit (output : Output) : Moves vm (vm.emit output) (touched output).toList := by
  refine ⟨rfl, id, [output], rfl, ?_⟩
  cases found : touched output <;> simp [found]

theorem withCaller_moves {command : Int → State}
    (moves : ∀ userId, Moves vm (command userId) [userId]) :
    Moves vm (vm.withCaller command)
      (if vm.enabled = true ∧ 0 < vm.currentCallerId then [vm.currentCallerId] else []) := by
  unfold State.withCaller
  by_cases enabled : vm.enabled = true
  next =>
    by_cases somebody : 0 < vm.currentCallerId
    next =>
      rw [if_neg (by simp [enabled]), if_neg (by omega), if_pos ⟨enabled, somebody⟩]
      exact moves _
    next =>
      rw [if_neg (by simp [enabled]), if_pos (by omega), if_neg fun both => somebody both.2]
      exact moves_emit _
  next =>
    rw [if_pos (by simp [enabled]), if_neg fun both => enabled both.1]
    exact moves_emit _

theorem onVmStatus_moves : Moves vm vm.onVmStatus
    (if vm.enabled = true ∧ 0 < vm.currentCallerId then [vm.currentCallerId] else []) :=
  withCaller_moves fun _ => moves_emit _

theorem onVmPlay_moves : Moves vm vm.onVmPlay
    (if vm.enabled = true ∧ 0 < vm.currentCallerId then [vm.currentCallerId] else []) := by
  refine withCaller_moves fun userId => ?_
  split <;> exact moves_emit _

theorem onVmDelete_moves : Moves vm vm.onVmDelete
    (if vm.enabled = true ∧ 0 < vm.currentCallerId then [vm.currentCallerId] else []) := by
  refine withCaller_moves fun userId => ?_
  split
  next => exact moves_emit _
  next f _ =>
    have removed (files : List File) :
        Moves vm { vm with disk := vm.disk.put vm.vmDir userId files } [] := moves_still rfl id rfl
    exact moves_trans (removed _) (moves_emit (.deleted userId f.name))

theorem onVmRecord_moves (arg : Text) : Moves vm (vm.onVmRecord arg) [] := by
  unfold State.onVmRecord
  split
  next reason _ => exact moves_emit (.reject reason)
  next => exact ⟨rfl, id, _, rfl, rfl⟩

def usedBy (vm : State) (evt : CustomEvent) : List Int :=
  if Uses vm evt then [vm.currentCallerId] else []

theorem onCustom_moves (evt : CustomEvent) : Moves vm (vm.onCustom evt) (usedBy vm evt) := by
  have used (member : evt.id - kerchevtCustom ∈ ([0, 2, 3, 4] : List Int))
      (loaded : vm.loaded = true) : usedBy vm evt =
        if vm.enabled = true ∧ 0 < vm.currentCallerId then [vm.currentCallerId] else [] := by
    simp [usedBy, Uses, member, loaded]
  have unused (other : vm.loaded = true → evt.id - kerchevtCustom ∉ ([0, 2, 3, 4] : List Int)) :
      usedBy vm evt = [] := if_neg fun uses => other uses.1 uses.2.2.2
  unfold State.onCustom
  split_ifs with unloaded status record play delete list
  next =>
    rw [unused (by simp_all)]
    exact moves_refl
  next =>
    rw [used (by simp [status]) (by simpa using unloaded)]
    exact onVmStatus_moves
  next =>
    rw [unused (by simp [record])]
    exact onVmRecord_moves _
  next =>
    rw [used (by simp [play]) (by simpa using unloaded)]
    exact onVmPlay_moves
  next =>
    rw [used (by simp [delete]) (by simpa using unloaded)]
    exact onVmDelete_moves
  next =>
    rw [used (by simp [list]) (by simpa using unloaded)]
    exact onVmStatus_moves
  next =>
    rw [unused (fun _ => by simp; omega)]
    exact moves_refl

theorem saveRecording_frame (vm : State) (write : Write) : ∃ disk outputs,
    vm.saveRecording write = { vm with disk := disk, out := vm.out ++ outputs } ∧
      outputs.filterMap touched = [] := by
  have same : ∃ disk outputs, vm = { vm with disk := disk, out := vm.out ++ outputs } ∧
      outputs.filterMap touched = [] := ⟨vm.disk, [], by simp, rfl⟩
  unfold State.saveRecording
  split
  next => exact same
  next =>
    split_ifs
    next => exact same
    next => cases write <;> exact ⟨_, _, rfl, rfl⟩

theorem stopRecording_moves (vm : State) (write : Write) :
    Moves vm (vm.stopRecording write) [] ∧ (vm.stopRecording write).enabled = vm.enabled ∧
      (vm.stopRecording write).loaded = vm.loaded := by
  -- A recording that is saved uses no mailbox.
  unfold State.stopRecording
  dsimp only
  split_ifs
  next => exact ⟨moves_refl, rfl, rfl⟩
  next =>
    obtain ⟨disk, outputs, saved, untold⟩ := saveRecording_frame
      { vm with recording := false, taps := vm.taps - 1, recTimer := false } write
    rw [saved]
    exact ⟨⟨rfl, id, outputs, rfl, untold⟩, rfl, rfl⟩

theorem onCorDrop_moves (vm : State) (write : Write) :
    Moves vm (vm.onCorDrop write) [] ∧ (vm.onCorDrop write).enabled = vm.enabled ∧
      (vm.onCorDrop write).loaded = vm.loaded := by
  unfold State.onCorDrop
  split_ifs
  next => exact stopRecording_moves vm write
  next => exact ⟨moves_refl, rfl, rfl⟩

theorem recTimeout_moves (write : Write) : Moves vm (vm.recTimeout write) [] := by
  obtain ⟨caller, loaded, told⟩ := (stopRecording_moves { vm with recTimer := false } write).1
  exact ⟨caller, loaded, told⟩

theorem armTimeout_moves : Moves vm vm.armTimeout [] := by
  unfold State.armTimeout
  dsimp only
  split_ifs
  next => exact ⟨rfl, id, _, rfl, rfl⟩
  next => exact moves_still rfl id rfl

theorem recAudioTap_moves (env : Voicemail.Station) (samples : List Int) (grown : Bool) :
    Moves vm (vm.recAudioTap env samples grown) [] := by
  rcases @recAudioTap_cases env vm samples grown with same | ⟨cap, buf, taken, wrote, -⟩
  next =>
    rw [same]
    exact moves_refl
  next =>
    rw [wrote]
    unfold State.recWrite
    split <;> exact moves_still rfl id rfl

theorem onCorAssert_moves (env : Voicemail.Station) (room : State.Room) :
    Moves vm (vm.onCorAssert env room) [] := by
  unfold State.onCorAssert State.startRecordingNow
  dsimp only
  split_ifs <;> exact moves_still rfl id rfl

/-! ## With the commands -/

variable {m : Voicemail.System}

theorem digit_fired (cmd : Dtmfcmd) (d : Char) :
    (cmd.step (.digit d)).fired = cmd.fired ++ (due cmd (.digit d)).toList := by
  unfold Dtmfcmd.step Dtmfcmd.onDtmfDigit due
  dsimp only
  split_ifs <;> simp_all [Dtmfcmd.dispatchCommand, Dtmfcmd.resetCmd]

theorem keypad_moves {i : Dtmf.Input} {event : Option CustomEvent}
    (fires : (m.cmd.step i).fired = m.cmd.fired ++ event.toList) :
    Moves m.vm (keypad m i).vm (event.toList.flatMap (usedBy m.vm)) := by
  unfold keypad dispatch
  rw [fires, List.drop_left']
  cases event with
  | none => exact moves_refl
  | some evt =>
    have moves := @onCustom_moves m.vm evt
    rw [Option.toList_some, List.flatMap_singleton]
    exact moves
  rfl

theorem silent_moves {i : Dtmf.Input} (silent : (m.cmd.step i).fired = m.cmd.fired) :
    Moves m.vm (keypad m i).vm [] := by
  have fires : (m.cmd.step i).fired = m.cmd.fired ++ (none : Option CustomEvent).toList := by
    rw [silent]
    exact (List.append_nil _).symm
  exact keypad_moves fires

theorem unkey_moves (env : Voicemail.Station) (write : Write) :
    Moves m.vm (unkey env m write).vm ((waiting m.cmd).toList.flatMap (usedBy m.vm)) := by
  unfold unkey endTake
  dsimp only
  split_ifs
  next =>
    obtain ⟨drops, enabled, loaded⟩ := onCorDrop_moves m.vm write
    have same : usedBy (m.vm.onCorDrop write) = usedBy m.vm := by
      funext evt
      have uses : Uses (m.vm.onCorDrop write) evt ↔ Uses m.vm evt := by
        rw [Uses, enabled, loaded, drops.caller, Uses]
      exact if_congr uses (by rw [drops.caller]) rfl
    have moves := @keypad_moves { m with vm := m.vm.onCorDrop write } .corDrop _ (onCorDrop_fired m.cmd)
    rw [same] at moves
    exact moves_trans drops moves
  next =>
    have moves := @keypad_moves m .corDrop _ (onCorDrop_fired m.cmd)
    obtain ⟨drops, -⟩ := onCorDrop_moves (keypad m .corDrop).vm write
    have both := moves_trans moves drops
    rw [List.append_nil] at both
    exact both

theorem step_moves (env : Voicemail.Station) {i : Voicemail.Input}
    (other : ∀ userId, i ≠ .identified userId) :
    Moves m.vm (Voicemail.step env m i).vm ((due m.cmd i).toList.flatMap (usedBy m.vm)) := by
  -- What each input of voicemail uses, but for an identification.
  cases i with
  | digit d => exact keypad_moves (digit_fired m.cmd d)
  | entryTimeout =>
    refine silent_moves ?_
    unfold Dtmfcmd.step
    dsimp only
    split_ifs <;> rfl
  | register pattern eventOffset description configKey =>
    refine silent_moves ?_
    unfold Dtmfcmd.step Dtmfcmd.dtmfRegisterCmd
    dsimp only
    split_ifs <;> rfl
  | unregister pattern => exact silent_moves rfl
  | identified userId => exact absurd rfl (other userId)
  | keyUp room => exact onCorAssert_moves env room
  | unkey write => exact unkey_moves env write
  | armTimeout =>
    unfold Voicemail.step
    dsimp only
    split_ifs
    next => exact armTimeout_moves
    next => exact moves_refl
  | recTimeout write =>
    unfold Voicemail.step Voicemail.recTimeout
    dsimp only
    split_ifs
    next => exact recTimeout_moves write
    next => exact moves_refl
  | audio samples grown =>
    unfold Voicemail.step Voicemail.audio
    dsimp only
    split_ifs
    next => exact moves_refl
    next => exact recAudioTap_moves env samples grown
  | users known => exact moves_still rfl id rfl
  | reload cfg =>
    have configures (vm : State) :
        Moves vm (if vm.loaded then vm.configure cfg else vm) [] := by
      split_ifs
      next => exact moves_still rfl id rfl
      next => exact moves_refl
    exact moves_trans (@silent_moves m (.configure cfg) rfl) (configures _)
  | unload =>
    refine moves_still rfl (fun impossible => ?_) rfl
    cases impossible

end Mail

/-! ## Runs -/

variable {env : Station} {s : System}

def Follows (s : System) : Prop :=
  -- Voicemail keeps whoever was identified last.
  s.mail.vm.loaded = true → ∀ userId ∈ s.identified.head?, s.mail.vm.currentCallerId = userId

theorem mailStep_follows (follows : Follows s) {i : Voicemail.Input}
    (other : ∀ userId, i ≠ .identified userId) : Follows (mailStep env s i) := by
  intro loaded userId last
  have moves := @step_moves s.mail env.toStation i other
  exact moves.caller.trans (follows (moves.loaded loaded) userId last)

theorem vouched_iff (follows : Follows s) (loaded : s.mail.vm.loaded = true) : Vouched s ↔
    s.mail.vm.currentCallerId ∈ s.identified ∨ s.mail.vm.currentCallerId = s.atEntry := by
  refine or_congr_left ⟨fun somebody => ?_, List.ne_nil_of_mem⟩
  obtain ⟨userId, before, identified⟩ := List.exists_cons_of_ne_nil somebody
  have last : s.mail.vm.currentCallerId = userId :=
    follows loaded userId (by rw [identified]; rfl)
  rw [last, identified]
  exact List.mem_cons_self ..

theorem mailStep_owned (follows : Follows s) {i : Voicemail.Input}
    (other : ∀ userId, i ≠ .identified userId) :
    Owned (mailStep env s i) ↔ Owned s ∧ Entitled s i := by
  -- The mailboxes used in a step are their owners' if and only if the step is entitled to them.
  obtain ⟨-, -, outputs, out, told⟩ := @step_moves s.mail env.toStation i other
  have uses : (mailStep env s i).uses = s.uses ++
      ((due s.mail.cmd i).toList.flatMap (usedBy s.mail.vm)).map fun owner =>
        ⟨owner, decide (owner ∈ s.identified ∨ owner = s.atEntry)⟩ := by
    simp only [mailStep]
    rw [out, List.drop_left, told]
  unfold Owned Entitled
  rw [uses, List.forall_mem_append]
  refine and_congr_right fun _ => ?_
  cases due s.mail.cmd i with
  | none => simp
  | some evt =>
    by_cases used : Uses s.mail.vm evt
    next => simp [usedBy, used, vouched_iff follows used.1]
    next => simp [usedBy, used]

/-- A step keeps `Follows`, and keeps `Owned` if and only if it is allowed. -/
structure Accounts (before after : System) (allowed : Prop) : Prop where
  follows : Follows after
  owned : Owned after ↔ Owned before ∧ allowed

theorem hear_owned (outcome : Outcome) : Owned (hear env s outcome) ↔ Owned s := by
  have same : (hear env s outcome).uses = s.uses := by
    unfold hear
    split
    next userId _ _ =>
      have out : (s.mail.vm.onCallerIdentified userId).out = s.mail.vm.out := by
        unfold State.onCallerIdentified
        split_ifs <;> rfl
      simp [mailStep, Voicemail.step, out]
    next => rfl
  rw [Owned, same, Owned]

theorem hear_follows (follows : Follows s) (outcome : Outcome) : Follows (hear env s outcome) := by
  unfold hear
  split
  next userId _ _ =>
    intro loaded last identified
    obtain rfl := Option.some.inj identified
    revert loaded
    simp only [mailStep, Voicemail.step, State.onCallerIdentified]
    split_ifs with before
    next => exact fun _ => rfl
    next => exact fun loaded => absurd loaded before
  next => exact follows

theorem typed_follows (follows : Follows s) (d : Char) : Follows (typed s d) := by
  unfold typed
  split_ifs <;> exact follows

theorem typed_owned (d : Char) : Owned (typed s d) ↔ Owned s := by
  unfold typed
  split_ifs <;> rfl

theorem mailStep_accounts (follows : Follows s) {i : Voicemail.Input}
    (other : ∀ userId, i ≠ .identified userId) (quiet : due s.mail.cmd i = none) :
    Accounts s (mailStep env s i) True := by
  refine ⟨mailStep_follows follows other, ?_⟩
  rw [mailStep_owned follows other, Entitled, quiet]
  exact and_congr_right fun _ => iff_true_intro fun evt impossible => by cases impossible

theorem hear_accounts (follows : Follows s) (outcome : Outcome) :
    Accounts s (hear env s outcome) True :=
  ⟨hear_follows follows outcome, (hear_owned outcome).trans (and_iff_left trivial).symm⟩

theorem digit_accounts (follows : Follows s) (d : Char) :
    Accounts s (digit env s d) (Allowed env s (.digit d)) := by
  have before := typed_follows follows d
  unfold digit Allowed
  dsimp only
  split_ifs
  next =>
    have heard : Follows (callerStep env (typed s d) (.dtmfDigit d)) := hear_follows before _
    refine ⟨mailStep_follows heard (by simp), ?_⟩
    rw [mailStep_owned heard (by simp)]
    exact and_congr_left fun _ => (hear_owned _).trans (typed_owned d)
  next =>
    refine ⟨hear_follows (mailStep_follows before (by simp)) _, (hear_owned _).trans ?_⟩
    rw [mailStep_owned before (by simp)]
    exact and_congr_left fun _ => typed_owned d

theorem keyUp_accounts (s : System) (room : State.Room) :
    Accounts s (step env s (.keyUp room)) True := by
  have reset : Follows { s with identified := [] } := by
    intro _ userId impossible
    cases impossible
  have heard := @hear_accounts env _ reset (Caller.Signals.onCorAssert s.session)
  have keyed := @mailStep_accounts env _ heard.follows (.keyUp room) (by simp) rfl
  exact ⟨keyed.follows, keyed.owned.trans (and_congr_left fun _ => hear_owned _)⟩

theorem unkey_accounts (follows : Follows s) (write : Write) :
    Accounts s (step env s (.unkey write)) (Entitled s (.unkey write)) where
  follows := hear_follows (mailStep_follows follows (by simp)) _
  owned := (hear_owned _).trans (mailStep_owned follows (by simp))

theorem step_accounts (follows : Follows s) (i : Input) :
    Accounts s (step env s i) (Allowed env s i) := by
  cases i with
  | digit d => exact digit_accounts follows d
  | aniTimeout => exact hear_accounts follows _
  | sessionTimeout => exact hear_accounts follows _
  | logoutCommand => exact hear_accounts follows _
  | keyUp room => exact keyUp_accounts s room
  | unkey write => exact unkey_accounts follows write
  | users dir =>
    have renamed : Follows { s with dir := dir } := follows
    obtain ⟨keeps, owned⟩ := @mailStep_accounts env _ renamed
      (.users fun userId => dir.users.any fun u => (u.id : Int) = userId) (by simp) rfl
    exact ⟨keeps, owned⟩
  | entryTimeout => exact mailStep_accounts follows (by simp) rfl
  | register pattern eventOffset description configKey =>
    exact mailStep_accounts follows (by simp) rfl
  | unregister pattern => exact mailStep_accounts follows (by simp) rfl
  | armTimeout => exact mailStep_accounts follows (by simp) rfl
  | recTimeout write => exact mailStep_accounts follows (by simp) rfl
  | audio samples grown => exact mailStep_accounts follows (by simp) rfl
  | reload cfg => exact mailStep_accounts follows (by simp) rfl
  | unload => exact mailStep_accounts follows (by simp) rfl

def dial (text : String) : List Input :=
  [.keyUp ⟨true, true, true⟩] ++ text.toList.map .digit ++ [.unkey .whole]

def alice : Caller.User where
  id := 1
  ani := []
  dtmfLogin := "55".toList
  numbered := by decide

def enabled : List Input :=
  [.register "85".toList 2 "Voicemail play".toList "voicemail_play".toList,
    .users ⟨[alice], "56".toList⟩,
    .reload [⟨"voicemail".toList, "enabled".toList, "on".toList⟩]]

def oneMessage : Disk := fun _ _ => some [⟨"msg_0001.pcm".toList, [7, -7]⟩]

end Kerchunk.Voicemail.Access
