import Kerchunk.Lib.CString
import Kerchunk.Lib.Machine
import Kerchunk.Voicemail.Model
import Mathlib.Data.List.Forall2

set_option autoImplicit false

/-!
# Where a recording goes
-/

namespace Kerchunk.Voicemail

open Kerchunk.Config (Text atoi atoiText digit isDigit isspace wrap)
open Kerchunk.Dtmf (CustomEvent Dtmfcmd kerchevtCustom)
open Machine (Guarded run)

/-! ## Names of messages -/

theorem isDigit_same {c : Char} (digit : c.isDigit = true) : isDigit c = true := by
  rw [Char.isDigit, Bool.and_eq_true, decide_eq_true_eq, decide_eq_true_eq] at digit
  rw [isDigit, Bool.and_eq_true, decide_eq_true_eq, decide_eq_true_eq]
  exact digit

theorem padded_digits (width n : Nat) : ∀ c ∈ padded width n, isDigit c = true := fun c member =>
  isDigit_same (Decimal.isDigit_padded _ n c member)

theorem foldl_digits {text : Text} (digits : ∀ c ∈ text, isDigit c = true) (v : Nat) :
    text.foldl (fun (val : Int) c => val * 10 + digit c) v = Nat.ofDigitChars 10 text v := by
  induction text generalizing v with
  | nil => simp
  | cons c rest ih =>
    obtain ⟨first, later⟩ := List.forall_mem_cons.mp digits
    have low : 48 ≤ c.toNat := by
      rw [isDigit, Bool.and_eq_true, decide_eq_true_eq] at first
      exact first.1
    have shifted : (v : Int) * 10 + digit c = ((10 * v + (c.toNat - 48) : Nat) : Int) := by
      rw [digit]
      omega
    rw [List.foldl_cons, shifted, ih later, Nat.ofDigitChars_cons]
    rfl

theorem wrap_small {n : Int} (low : 0 ≤ n) (high : n ≤ 2147483647) : wrap n = n :=
  Int.bmod_eq_of_le (by omega) (by omega)

theorem atoi_padded {width n : Nat} (small : n ≤ 2147483647) : atoi (padded width n) = n := by
  have value : (padded width n).foldl (fun (val : Int) c => val * 10 + digit c) 0 = n := by
    have folded := foldl_digits (padded_digits width n) 0
    rw [padded, Decimal.value_padded] at folded
    exact folded
  rw [atoi, value, min_eq_left (by omega)]
  exact wrap_small (by omega) (by omega)

theorem padded_ne_nil (width n : Nat) : padded width n ≠ [] := by
  have some := Nat.toDigits_ne_nil (b := 10) (n := n)
  exact fun none => some (List.append_eq_nil_iff.mp none).2

theorem digit_plain {c : Char} (first : isDigit c = true) :
    isspace c = false ∧ c ≠ '-' ∧ c ≠ '+' := by
  rw [isDigit, Bool.and_eq_true, decide_eq_true_eq, decide_eq_true_eq] at first
  refine ⟨?_, ?_, ?_⟩
  next =>
    rw [isspace, Bool.or_eq_false_iff, Bool.and_eq_false_iff, decide_eq_false_iff_not,
      decide_eq_false_iff_not, decide_eq_false_iff_not]
    omega
  next =>
    rintro rfl
    revert first
    decide
  next =>
    rintro rfl
    revert first
    decide

theorem atoiText_digits {c : Char} (first : isDigit c = true) (rest : Text) :
    atoiText (c :: rest) = atoi ((c :: rest).takeWhile isDigit) := by
  obtain ⟨space, minus, plus⟩ := digit_plain first
  have stays : (c :: rest).dropWhile isspace = c :: rest := by
    rw [List.dropWhile_cons_of_neg (by simp [space])]
  unfold atoiText
  rw [stays]
  split
  next same => exact absurd (List.cons.inj same).1 minus
  next same => exact absurd (List.cons.inj same).1 plus
  next => rfl

theorem scanNum_msgName {n : Nat} (small : n ≤ 2147483647) : scanNum (msgName n) = some (n : Int) := by
  obtain ⟨c, rest, number⟩ := List.exists_cons_of_ne_nil (padded_ne_nil 4 n)
  have first : isDigit c = true :=
    padded_digits 4 n c (by rw [number]; exact List.mem_cons_self ..)
  obtain ⟨space, minus, plus⟩ := digit_plain first
  have name : msgName n = "msg_".toList ++ (padded 4 n ++ ".pcm".toList) := by
    simp [msgName]
  have stops : (padded 4 n ++ ".pcm".toList).takeWhile isDigit = padded 4 n := by
    rw [List.takeWhile_append_of_pos (padded_digits 4 n)]
    simp [isDigit]
  have value := atoiText_digits first (rest ++ ".pcm".toList)
  rw [← List.cons_append, ← number, stops, atoi_padded small] at value
  have before : ("msg_".toList ++ (padded 4 n ++ ".pcm".toList)).drop 4 =
      padded 4 n ++ ".pcm".toList := rfl
  have begins : "msg_".toList.isPrefixOf ("msg_".toList ++ (padded 4 n ++ ".pcm".toList)) = true :=
    List.isPrefixOf_iff_prefix.mpr (List.prefix_append ..)
  have stays : (padded 4 n ++ ".pcm".toList).dropWhile isspace = padded 4 n ++ ".pcm".toList := by
    rw [number, List.cons_append, List.dropWhile_cons_of_neg (by simp [space])]
  have unsigned : ¬ ((padded 4 n ++ ".pcm".toList).head? = some '-' ∨
      (padded 4 n ++ ".pcm".toList).head? = some '+') := by
    simp [number, minus, plus]
  rw [scanNum, name, if_pos begins, before, stays]
  dsimp only
  rw [if_neg unsigned, stops, if_neg (padded_ne_nil 4 n), value]

theorem le_foldl_max {numbers : List Int} (v : Int) :
    v ≤ numbers.foldl max v ∧ ∀ n ∈ numbers, n ≤ numbers.foldl max v := by
  induction numbers generalizing v with
  | nil => simp
  | cons n rest ih =>
    obtain ⟨start, all⟩ := ih (max v n)
    refine ⟨(le_max_left v n).trans start, List.forall_mem_cons.mpr ⟨?_, all⟩⟩
    exact (le_max_right v n).trans start

theorem foldl_max_le {numbers : List Int} {v bound : Int} (start : v ≤ bound)
    (all : ∀ n ∈ numbers, n ≤ bound) : numbers.foldl max v ≤ bound := by
  induction numbers generalizing v with
  | nil => exact start
  | cons n rest ih =>
    obtain ⟨first, later⟩ := List.forall_mem_cons.mp all
    exact ih (max_le start first) later

theorem wrap_le (n : Int) : wrap n ≤ 2147483647 := by
  have below : n.bmod (4294967296 : Nat) < ((4294967296 : Nat) + 1) / 2 := Int.bmod_lt (by decide)
  unfold wrap
  omega

theorem scanNum_le {name : Text} {num : Int} (scanned : scanNum name = some num) :
    num ≤ 2147483647 := by
  have bounded (text : Text) : atoiText text ≤ 2147483647 := by
    unfold atoiText
    split <;> exact wrap_le _
  unfold scanNum at scanned
  dsimp only at scanned
  split_ifs at scanned <;> cases scanned <;> exact bounded _

def HasRoom (files : List File) : Prop :=
  -- No message has the largest number.
  ∀ f ∈ files, scanNum f.name ≠ some 2147483647

instance (files : List File) : Decidable (HasRoom files) :=
  List.decidableBAll _ files

theorem nextMsgNum_free {files : List File} (room : HasRoom files) :
    ∀ f ∈ files, f.name ≠ msgName (nextMsgNum files) := by
  -- The next number is free.
  intro f member same
  obtain ⟨numbers, numbers_eq⟩ : ∃ numbers, (files.filterMap fun f => scanNum f.name) = numbers :=
    ⟨_, rfl⟩
  have present {num : Int} (scanned : scanNum f.name = some num) : num ∈ numbers := by
    rw [← numbers_eq]
    exact List.mem_filterMap.mpr ⟨f, member, scanned⟩
  obtain ⟨start, all⟩ := @le_foldl_max numbers 0
  have top : numbers.foldl max 0 ≤ 2147483646 := by
    refine foldl_max_le (by decide) fun n among => ?_
    rw [← numbers_eq] at among
    obtain ⟨g, inside, scanned⟩ := List.mem_filterMap.mp among
    have small := scanNum_le scanned
    have other : n ≠ 2147483647 := fun largest => room g inside (largest ▸ scanned)
    omega
  have value : nextMsgNum files = ((numbers.foldl max 0 + 1).toNat : Int) := by
    rw [nextMsgNum, numbers_eq, wrap_small (by omega) (by omega)]
    omega
  have scanned : scanNum f.name = some (((numbers.foldl max 0 + 1).toNat : Nat) : Int) := by
    rw [same, value]
    exact scanNum_msgName (by omega)
  have under := all _ (present scanned)
  omega

/-! ## What must hold -/

/-- A message that was saved. -/
structure Saved where
  userId : Int
  file : File
  isNew : Bool
deriving DecidableEq

def saves (out : List Output) : List Saved :=
  out.filterMap fun
    | .saved userId file isNew => some ⟨userId, file, isNew⟩
    | _ => none

/-- The message is the recording's. -/
structure Kept (take : Take) (message : Saved) : Prop where
  mailbox : message.userId = take.mailbox
  heard : message.file.samples.Sublist take.heard
  isNew : message.isNew = true

/-- Each recording that has ended is one new message, nothing was written past the buffer, and the
tap is registered while a recording goes on. -/
structure Recorded (s : System) : Prop where
  kept : List.Forall₂ Kept s.ended (saves s.vm.out)
  inBounds : s.vm.overrun = false
  tapped : s.vm.taps = if s.live.isSome then 1 else 0

def Storable (vm : State) (write : Write) : Prop :=
  write = .whole ∧ vm.recLen ≠ 0 ∧ HasRoom (vm.files vm.recordUserId)

instance (vm : State) (write : Write) : Decidable (Storable vm write) :=
  inferInstanceAs (Decidable (_ ∧ _ ∧ _))

def waiting (cmd : Dtmfcmd) : Option CustomEvent :=
  -- The command that is dispatched when COR drops.
  if cmd.pendingDispatch then Dtmfcmd.matchCommand cmd.cmds cmd.buf else none

def Redirects (vm : State) (evt : CustomEvent) : Prop :=
  -- A `*86` that is accepted for another mailbox.
  evt.id = kerchevtCustom + 1 ∧ vm.recordRefusal evt.arg = none ∧
    vm.recordTarget evt.arg ≠ vm.recordUserId

instance (vm : State) (evt : CustomEvent) : Decidable (Redirects vm evt) :=
  inferInstanceAs (Decidable (_ ∧ _ ∧ _))

def Calm (env : Station) (s : System) : Input → Prop
  | .keyUp room => s.vm.loaded = true → s.vm.recordArmed = true → s.vm.recording = false →
      room = ⟨true, true, true⟩
  | .unkey write => s.vm.recording = true → Storable s.vm write ∧
      (env.voicemailFirst = false → ∀ evt ∈ waiting s.cmd, ¬ Redirects s.vm evt)
  | .recTimeout write => s.vm.recTimer = true → Storable s.vm write
  | .unload => s.vm.recording = false
  | _ => True

instance decidableCalm (env : Station) (s : System) : (i : Input) → Decidable (Calm env s i)
  | .keyUp room => inferInstanceAs (Decidable (_ → _ → _ → room = _))
  | .unkey _ => inferInstanceAs (Decidable (_ → _ ∧ (_ → ∀ evt ∈ _, _)))
  | .recTimeout _ => inferInstanceAs (Decidable (_ → _))
  | .unload => inferInstanceAs (Decidable (_ = _))
  | .digit _ | .entryTimeout | .register .. | .unregister _ | .identified _ | .armTimeout
  | .audio .. | .users _ | .reload _ => .isTrue trivial

/-! ## Where the recording stands -/

/-- The samples written so far are of the audio heard. -/
structure Taking (vm : State) (take : Take) (buf : Buffer) : Prop where
  memory : vm.recBuf = some buf
  cap : buf.cap = vm.recCap
  length : buf.data.length = vm.recLen
  fits : vm.recLen ≤ vm.recCap
  heard : buf.data.Sublist take.heard

structure Sound (s : System) : Prop where
  kept : List.Forall₂ Kept s.ended (saves s.vm.out)
  inBounds : s.vm.overrun = false
  armed : s.vm.recordArmed = true → selected s.vm.out = s.vm.recordUserId ∧ 0 < s.vm.recordUserId
  idle : s.vm.recording = false → s.vm.recTimer = false ∧ s.vm.taps = 0 ∧ s.live = none
  busy : s.vm.recording = true → s.vm.loaded = true ∧ s.vm.taps = 1 ∧ 0 < s.vm.recordUserId ∧
    ∃ take buf, s.live = some take ∧ take.mailbox = s.vm.recordUserId ∧ Taking s.vm take buf

theorem start_sound (disk : Disk) : Sound (start disk) where
  kept := .nil
  inBounds := rfl
  armed impossible := by cases impossible
  idle _ := ⟨rfl, rfl, rfl⟩
  busy impossible := by cases impossible

theorem sound_recorded {s : System} (sound : Sound s) : Recorded s := by
  refine ⟨sound.kept, sound.inBounds, ?_⟩
  cases recording : s.vm.recording with
  | false =>
    obtain ⟨-, taps, live⟩ := sound.idle recording
    rw [taps, live]
    rfl
  | true =>
    obtain ⟨-, taps, -, take, buf, live, -⟩ := sound.busy recording
    rw [taps, live]
    rfl

theorem saves_append (out more : List Output) : saves (out ++ more) = saves out ++ saves more :=
  List.filterMap_append ..

theorem selected_append {out : List Output} {output : Output}
    (other : ∀ userId, output ≠ .armed userId) : selected (out ++ [output]) = selected out := by
  unfold selected
  rw [List.reverse_append, List.reverse_singleton, List.singleton_append, List.findSome?_cons]
  cases output with
  | armed userId => exact absurd rfl (other userId)
  | _ => rfl

theorem selected_armed (out : List Output) (userId : Int) :
    selected (out ++ [.armed userId]) = userId := by
  simp [selected]

/-! ## Commands -/

section Commands

variable {vm : State} {evt : CustomEvent}

/-- A command that does not arm: it may delete a message. -/
structure Quiet (vm after : State) : Prop where
  same : ∃ disk output, after = { vm with disk, out := vm.out ++ [output] } ∧
    (∀ userId, output ≠ .armed userId) ∧ saves [output] = []
  files : ∀ userId, (after.files userId).Sublist (vm.files userId)

theorem emit_quiet {output : Output} (other : ∀ userId, output ≠ .armed userId)
    (unsaved : saves [output] = []) : Quiet vm (vm.emit output) :=
  ⟨⟨vm.disk, output, rfl, other, unsaved⟩, fun _ => .refl _⟩

theorem reject_quiet (spokenReason : String) : Quiet vm (vm.reject spokenReason) :=
  emit_quiet (by simp) rfl

theorem withCaller_quiet {command : Int → State} (quiet : ∀ userId, Quiet vm (command userId)) :
    Quiet vm (vm.withCaller command) := by
  unfold State.withCaller
  split_ifs
  next => exact reject_quiet _
  next => exact reject_quiet _
  next => exact quiet _

theorem put_files {dir : Text} {userId : Int} {files : List File} {other : Int} :
    ((vm.disk.put dir userId files) vm.vmDir other).getD [] =
      if vm.vmDir = dir ∧ other = userId then files else vm.files other := by
  unfold Disk.put State.files
  split_ifs <;> rfl

theorem onVmStatus_quiet : Quiet vm vm.onVmStatus :=
  withCaller_quiet fun _ => emit_quiet (by simp) rfl

theorem onVmPlay_quiet : Quiet vm vm.onVmPlay := by
  refine withCaller_quiet fun userId => ?_
  split <;> exact emit_quiet (by simp) rfl

theorem onVmDelete_quiet : Quiet vm vm.onVmDelete := by
  refine withCaller_quiet fun userId => ?_
  split
  next => exact emit_quiet (by simp) rfl
  next =>
    refine ⟨⟨_, _, rfl, by simp, rfl⟩, fun other => ?_⟩
    have after := @put_files vm vm.vmDir userId ((vm.files userId).eraseP isPcm) other
    change (((vm.disk.put vm.vmDir userId _) vm.vmDir other).getD []).Sublist _
    rw [after]
    split_ifs with own
    next =>
      rw [own.2]
      exact List.eraseP_sublist
    next => exact .refl _

/-- What a command does: nothing, something quiet, or it arms a recording. -/
theorem onCustom_cases : vm.onCustom evt = vm ∨ Quiet vm (vm.onCustom evt) ∨
    evt.id = kerchevtCustom + 1 ∧ vm.recordRefusal evt.arg = none ∧
      0 < vm.recordTarget evt.arg ∧
      vm.onCustom evt = { vm with
        recordArmed := true
        recordUserId := vm.recordTarget evt.arg
        armTimer := true
        out := vm.out ++ [.armed (vm.recordTarget evt.arg)] } := by
  unfold State.onCustom
  split_ifs with unloaded status record play delete list
  next => exact .inl rfl
  next => exact .inr (.inl onVmStatus_quiet)
  next =>
    unfold State.onVmRecord
    cases refusal : vm.recordRefusal evt.arg with
    | some reason => exact .inr (.inl (reject_quiet reason))
    | none =>
      refine .inr (.inr ⟨record, rfl, ?_, rfl⟩)
      unfold State.recordRefusal at refusal
      dsimp only at refusal
      split_ifs at refusal with disabled nobody
      omega
  next => exact .inr (.inl onVmPlay_quiet)
  next => exact .inr (.inl onVmDelete_quiet)
  next => exact .inr (.inl onVmStatus_quiet)
  next => exact .inl rfl

end Commands

variable {env : Station} {s : System}

/-- Nothing that a recording rests on has changed. -/
structure Framed (vm after : State) : Prop where
  recording : after.recording = vm.recording
  loaded : after.loaded = vm.loaded
  taps : after.taps = vm.taps
  timer : after.recTimer = vm.recTimer
  mailbox : after.recordUserId = vm.recordUserId
  memory : after.recBuf = vm.recBuf
  length : after.recLen = vm.recLen
  cap : after.recCap = vm.recCap
  inBounds : after.overrun = vm.overrun
  saved : saves after.out = saves vm.out

theorem framed_taking {vm after : State} (framed : Framed vm after) {take : Take} {buf : Buffer}
    (taking : Taking vm take buf) : Taking after take buf where
  memory := framed.memory.trans taking.memory
  cap := taking.cap.trans framed.cap.symm
  length := taking.length.trans framed.length.symm
  fits := by
    rw [framed.length, framed.cap]
    exact taking.fits
  heard := taking.heard

theorem framed_sound (sound : Sound s) {vm : State} (framed : Framed s.vm vm)
    (armed : vm.recordArmed = true → selected vm.out = vm.recordUserId ∧ 0 < vm.recordUserId) :
    Sound { s with vm := vm } := by
  constructor
  next =>
    rw [framed.saved]
    exact sound.kept
  next => exact framed.inBounds.trans sound.inBounds
  next => exact armed
  next =>
    intro idle
    obtain ⟨timer, taps, live⟩ := sound.idle (framed.recording.symm.trans idle)
    exact ⟨framed.timer.trans timer, framed.taps.trans taps, live⟩
  next =>
    intro recording
    obtain ⟨loaded, taps, owner, take, buf, live, mailbox, taking⟩ :=
      sound.busy (framed.recording.symm.trans recording)
    refine ⟨framed.loaded.trans loaded, framed.taps.trans taps, ?_, take, buf, live,
      mailbox.trans framed.mailbox.symm, framed_taking framed taking⟩
    rw [framed.mailbox]
    exact owner

theorem quiet_sound (sound : Sound s) {vm : State} (quiet : Quiet s.vm vm) :
    Sound { s with vm := vm } := by
  obtain ⟨⟨disk, output, rfl, other, unsaved⟩, -⟩ := quiet
  have framed : Framed s.vm { s.vm with disk, out := s.vm.out ++ [output] } := by
    refine ⟨rfl, rfl, rfl, rfl, rfl, rfl, rfl, rfl, rfl, ?_⟩
    rw [saves_append, unsaved, List.append_nil]
  refine framed_sound sound framed fun armed => ?_
  dsimp only
  rw [selected_append other]
  exact sound.armed armed

theorem custom_sound (sound : Sound s) {evt : CustomEvent}
    (keeps : s.vm.recording = true → ¬ Redirects s.vm evt) :
    Sound { s with vm := s.vm.onCustom evt } := by
  rcases @onCustom_cases s.vm evt with same | quiet | ⟨record, accepted, owner, arms⟩
  next =>
    rw [same]
    exact sound
  next => exact quiet_sound sound quiet
  next =>
    rw [arms]
    constructor
    next =>
      rw [saves_append]
      exact (List.append_nil (saves s.vm.out)).symm ▸ sound.kept
    next => exact sound.inBounds
    next => exact fun _ => ⟨selected_armed .., owner⟩
    next => exact sound.idle
    next =>
      intro recording
      have target : s.vm.recordTarget evt.arg = s.vm.recordUserId := by
        by_contra other
        exact keeps recording ⟨record, accepted, other⟩
      obtain ⟨loaded, taps, -, take, buf, live, mailbox, taking⟩ := sound.busy recording
      exact ⟨loaded, taps, owner, take, buf, live, mailbox.trans target.symm,
        ⟨taking.memory, taking.cap, taking.length, taking.fits, taking.heard⟩⟩

theorem onCustom_recording {vm : State} {evt : CustomEvent} :
    (vm.onCustom evt).recording = vm.recording := by
  rcases @onCustom_cases vm evt with same | quiet | ⟨-, -, -, arms⟩
  next => rw [same]
  next =>
    obtain ⟨⟨disk, output, after, -⟩, -⟩ := quiet
    rw [after]
  next => rw [arms]

theorem customs_sound (sound : Sound s) (idle : s.vm.recording = false) (evts : List CustomEvent) :
    Sound { s with vm := evts.foldl State.onCustom s.vm } ∧
      (evts.foldl State.onCustom s.vm).recording = false := by
  -- While nothing is recorded any commands are harmless.
  induction evts generalizing s with
  | nil => exact ⟨sound, idle⟩
  | cons evt rest ih =>
    have harmless : s.vm.recording = true → ¬ Redirects s.vm evt := by
      intro recording
      cases idle.symm.trans recording
    exact ih (custom_sound sound harmless) (onCustom_recording.trans idle)

theorem sound_cmd (sound : Sound s) (cmd : Dtmfcmd) : Sound { s with cmd := cmd } :=
  ⟨sound.kept, sound.inBounds, sound.armed, sound.idle, sound.busy⟩

theorem keypad_sound (sound : Sound s) (i : Dtmf.Input)
    (silent : s.vm.recording = true → (s.cmd.step i).fired = s.cmd.fired) :
    Sound (keypad s i) ∧ (keypad s i).vm.recording = s.vm.recording := by
  unfold keypad dispatch
  cases recording : s.vm.recording with
  | false =>
    obtain ⟨after, idle⟩ := @customs_sound s sound recording
      ((s.cmd.step i).fired.drop s.cmd.fired.length)
    exact ⟨sound_cmd after _, idle⟩
  | true =>
    have none : (s.cmd.step i).fired.drop s.cmd.fired.length = [] := by
      rw [silent recording, List.drop_length]
    rw [none]
    exact ⟨sound_cmd sound _, recording⟩

/-! ## The end of a recording -/

theorem stopRecording_idle {vm : State} (idle : vm.recording = false) (write : Write) :
    vm.stopRecording write = vm := by
  simp [State.stopRecording, idle]

theorem stopRecording_whole {vm : State} {take : Take} {buf : Buffer} {write : Write}
    (recording : vm.recording = true) (taking : Taking vm take buf) (owner : 0 < vm.recordUserId)
    (storable : Storable vm write) :
    ∃ disk name, vm.stopRecording write = { vm with
      recording := false
      taps := vm.taps - 1
      recTimer := false
      disk := disk
      out := vm.out ++ [.saved vm.recordUserId ⟨name, buf.data⟩ true]
      recBuf := none
      recLen := 0
      recCap := 0 } := by
  obtain ⟨rfl, some, room⟩ := storable
  obtain ⟨files, files_eq⟩ : ∃ files, vm.files vm.recordUserId = files := ⟨_, rfl⟩
  obtain ⟨name, name_eq⟩ : ∃ name, msgName (nextMsgNum files) = name := ⟨_, rfl⟩
  rw [files_eq] at room
  have all : buf.data.take vm.recLen = buf.data := List.take_of_length_le taking.length.le
  have free : files.any (·.name = name) = false := by
    rw [List.any_eq_false]
    intro f member
    simpa [← name_eq] using nextMsgNum_free room f member
  have saves : ¬ (vm.recLen = 0 ∨ vm.recordUserId ≤ 0) := by omega
  refine ⟨vm.disk.put vm.vmDir vm.recordUserId
    (files.filter (·.name ≠ name) ++ [⟨name, buf.data⟩]), name, ?_⟩
  unfold State.files at files_eq
  simp [State.stopRecording, State.saveRecording, State.files, State.emit, recording,
    taking.memory, saves, all, files_eq, name_eq, free]

theorem stop_sound (sound : Sound s) (recording : s.vm.recording = true) {write : Write}
    (storable : Storable s.vm write) :
    Sound (endTake { s with vm := s.vm.stopRecording write }) ∧
      (s.vm.stopRecording write).recording = false := by
  obtain ⟨loaded, taps, owner, take, buf, live, mailbox, taking⟩ := sound.busy recording
  obtain ⟨disk, name, stopped⟩ := stopRecording_whole recording taking owner storable
  rw [stopped]
  refine ⟨?_, rfl⟩
  constructor
  next =>
    have message : Kept take ⟨s.vm.recordUserId, ⟨name, buf.data⟩, true⟩ :=
      ⟨mailbox.symm, taking.heard, rfl⟩
    simp only [endTake, live, Option.toList_some]
    rw [saves_append]
    exact List.rel_append sound.kept (.cons message .nil)
  next => exact sound.inBounds
  next =>
    intro armed
    simp only [endTake]
    rw [selected_append (by simp)]
    exact sound.armed armed
  next =>
    intro _
    simp only [endTake, taps]
    trivial
  next =>
    intro impossible
    cases impossible

theorem endTake_idle (sound : Sound s) (idle : s.vm.recording = false) : endTake s = s := by
  have live := (sound.idle idle).2.2
  cases s
  simp only [endTake]
  simp_all

/-! ## Steps -/

theorem onCorDrop_fired (cmd : Dtmfcmd) :
    (cmd.step .corDrop).fired = cmd.fired ++ (waiting cmd).toList := by
  unfold waiting
  cases pending : cmd.pendingDispatch <;>
    simp [Dtmfcmd.step, Dtmfcmd.onCorDrop, Dtmfcmd.dispatchCommand, Dtmfcmd.resetCmd, pending]

theorem keypad_drop (s : System) : keypad s .corDrop =
    { s with
      cmd := s.cmd.step .corDrop
      vm := (waiting s.cmd).toList.foldl State.onCustom s.vm } := by
  rw [keypad, dispatch, onCorDrop_fired, List.drop_left']
  rfl

theorem custom_storable {vm : State} {evt : CustomEvent} {write : Write}
    (keeps : ¬ Redirects vm evt) (storable : Storable vm write) :
    Storable (vm.onCustom evt) write := by
  obtain ⟨whole, some, room⟩ := storable
  rcases @onCustom_cases vm evt with same | quiet | ⟨record, accepted, -, arms⟩
  next =>
    rw [same]
    exact ⟨whole, some, room⟩
  next =>
    obtain ⟨⟨disk, output, after, -⟩, files⟩ := quiet
    have owner : (vm.onCustom evt).recordUserId = vm.recordUserId := by rw [after]
    refine ⟨whole, by rw [after]; exact some, ?_⟩
    rw [owner]
    exact fun f member => room f ((files vm.recordUserId).subset member)
  next =>
    have target : vm.recordTarget evt.arg = vm.recordUserId := by
      by_contra other
      exact keeps ⟨record, accepted, other⟩
    rw [arms, target]
    exact ⟨whole, some, room⟩

theorem unkey_idle (sound : Sound s) (idle : s.vm.recording = false) (write : Write) :
    Sound (unkey env s write) ∧ (unkey env s write).vm.recording = false := by
  have stays (vm : State) (idle : vm.recording = false) : vm.onCorDrop write = vm := by
    unfold State.onCorDrop
    split_ifs
    next => exact stopRecording_idle idle write
    next => rfl
  obtain ⟨after, same⟩ := @keypad_sound _ sound .corDrop (by simp [idle])
  rw [idle] at same
  have unkeyed : unkey env s write = keypad s .corDrop := by
    unfold unkey
    split_ifs
    next =>
      rw [stays s.vm idle]
      exact endTake_idle after same
    next =>
      dsimp only
      rw [stays _ same]
      exact endTake_idle after same
  rw [unkeyed]
  exact ⟨after, same⟩

theorem unkey_busy (sound : Sound s) (recording : s.vm.recording = true) {write : Write}
    (calm : Calm env s (.unkey write)) :
    Sound (unkey env s write) ∧ (unkey env s write).vm.recording = false := by
  obtain ⟨storable, keeps⟩ := calm recording
  have loaded := (sound.busy recording).1
  cases first : env.voicemailFirst with
  | true =>
    obtain ⟨stopped, idle⟩ := stop_sound sound recording storable
    have unkeyed : unkey env s write =
        keypad (endTake { s with vm := s.vm.stopRecording write }) .corDrop := by
      simp only [unkey, first, if_true, State.onCorDrop, loaded]
      rfl
    obtain ⟨after, same⟩ := @keypad_sound _ stopped .corDrop (by
      intro impossible
      cases idle.symm.trans impossible)
    rw [unkeyed]
    exact ⟨after, same.trans idle⟩
  | false =>
    have unkeyed : unkey env s write =
        let vm := (waiting s.cmd).toList.foldl State.onCustom s.vm
        endTake { s with cmd := s.cmd.step .corDrop, vm := vm.onCorDrop write } := by
      simp only [unkey, first, Bool.false_eq_true, if_false, keypad_drop]
    rw [unkeyed]
    have stops {vm : State} (after : Sound { s with vm := vm }) (recording : vm.recording = true)
        (storable : Storable vm write) :
        Sound (endTake { s with cmd := s.cmd.step .corDrop, vm := vm.onCorDrop write }) ∧
          (vm.onCorDrop write).recording = false := by
      obtain ⟨stopped, idle⟩ := stop_sound after recording storable
      have drops : vm.onCorDrop write = vm.stopRecording write := if_pos (after.busy recording).1
      rw [drops]
      exact ⟨sound_cmd stopped _, idle⟩
    cases waits : waiting s.cmd with
    | none => exact stops sound recording storable
    | some evt =>
      have harmless := keeps first evt waits
      exact stops (custom_sound sound fun _ => harmless) (onCustom_recording.trans recording)
        (custom_storable harmless storable)

theorem startRecordingNow_room {vm : State} (idle : vm.taps = 0) :
    vm.startRecordingNow env ⟨true, true, true⟩ = { vm with
      armTimer := false
      recordArmed := false
      recLen := 0
      recCap := vm.maxSamples env
      recBuf := some ⟨vm.maxSamples env, []⟩
      recording := true
      taps := 1
      recTimer := true } := by
  simp [State.startRecordingNow, idle]

theorem keyUp_sound (sound : Sound s) {room : State.Room} (calm : Calm env s (.keyUp room)) :
    Sound (keyUp env s room) := by
  unfold keyUp State.onCorAssert
  dsimp only
  split_ifs with begins
  next =>
    simp only [Bool.and_eq_true, Bool.not_eq_true'] at begins
    obtain ⟨⟨loaded, armed⟩, idle⟩ := begins
    obtain rfl := calm loaded armed idle
    obtain ⟨mailbox, owner⟩ := sound.armed armed
    rw [startRecordingNow_room (sound.idle idle).2.1]
    constructor
    next => exact sound.kept
    next => exact sound.inBounds
    next =>
      intro impossible
      cases impossible
    next =>
      intro impossible
      cases impossible
    next =>
      exact fun _ => ⟨loaded, rfl, owner, _, _, rfl, mailbox, rfl, rfl, rfl, Nat.zero_le _, .refl _⟩
  next => exact sound_cmd sound _

theorem recWrite_taking {vm : State} {take : Take} {buf : Buffer} (taking : Taking vm take buf)
    {cap : Nat} {samples more : List Int} (prior : more.Sublist samples)
    (fits : vm.recLen + more.length ≤ cap) (inBounds : vm.overrun = false) :
    ∃ after len, ({ vm with recCap := cap }.recWrite (some ⟨cap, buf.data⟩) more =
        { vm with recCap := cap, recBuf := some after, recLen := len }) ∧
      Taking { vm with recCap := cap, recBuf := some after, recLen := len }
        { take with heard := take.heard ++ samples } after := by
  -- Samples behind those that are there, as many as the buffer holds.
  have all : buf.data.take vm.recLen = buf.data := List.take_of_length_le taking.length.le
  have within : decide (cap < vm.recLen + more.length) = false :=
    decide_eq_false (Nat.not_lt.mpr fits)
  refine ⟨⟨cap, buf.data ++ more⟩, vm.recLen + more.length, ?_, rfl, rfl, ?_, fits, ?_⟩
  next => simp [State.recWrite, all, inBounds, within]
  next => simp [taking.length]
  next => exact taking.heard.append prior

/-- The tap does nothing, or it copies what the buffer, grown or not, has room for. -/
theorem recAudioTap_cases (vm : State) (samples : List Int) (grown : Bool) :
    vm.recAudioTap env samples grown = vm ∨ ∃ cap buf more,
      vm.recAudioTap env samples grown = { vm with recCap := cap }.recWrite buf more ∧
        more.Sublist samples ∧ vm.recLen + more.length ≤ cap ∧
        (buf = vm.recBuf ∧ cap = vm.recCap ∨ buf = some (realloc vm.recBuf cap)) := by
  obtain ⟨more, more_eq⟩ : ∃ more, samples.take (vm.maxSamples env - vm.recLen) = more := ⟨_, rfl⟩
  have prior : more.Sublist samples := more_eq ▸ List.take_sublist ..
  have short : more.length ≤ samples.length := prior.length_le
  have below : more.length ≤ vm.maxSamples env - vm.recLen := by
    rw [← more_eq, List.length_take]
    exact Nat.min_le_left ..
  unfold State.recAudioTap
  dsimp only
  rw [more_eq]
  by_cases full : (!vm.recording) = true ∨ vm.recLen ≥ vm.maxSamples env
  next => exact .inl (if_pos full)
  rw [if_neg full]
  by_cases grows : vm.recLen + samples.length > vm.recCap
  next =>
    rw [if_pos grows]
    cases grown with
    | false => exact .inl rfl
    | true =>
      have enough : vm.recLen + more.length ≤ min
          (if vm.recCap * 2 < vm.recLen + samples.length then
            vm.recLen + samples.length + env.sampleRate
          else vm.recCap * 2) (vm.maxSamples env) := by
        split_ifs <;> omega
      exact .inr ⟨_, _, more, rfl, prior, enough, .inr rfl⟩
  next =>
    rw [if_neg grows]
    exact .inr ⟨vm.recCap, vm.recBuf, more, rfl, prior, by omega, .inl ⟨rfl, rfl⟩⟩

/-- The tap only ever extends the buffer with what was heard. -/
theorem recAudioTap_taking {vm : State} {take : Take} {buf : Buffer} (taking : Taking vm take buf)
    (samples : List Int) (grown : Bool) (inBounds : vm.overrun = false) :
    ∃ cap after len, vm.recAudioTap env samples grown =
        { vm with recCap := cap, recBuf := some after, recLen := len } ∧
      Taking { vm with recCap := cap, recBuf := some after, recLen := len }
        { take with heard := take.heard ++ samples } after := by
  rcases @recAudioTap_cases env vm samples grown with
    same | ⟨cap, target, more, wrote, prior, fits, memory⟩
  next =>
    refine ⟨vm.recCap, buf, vm.recLen, by rw [same, ← taking.memory], rfl, taking.cap,
      taking.length, taking.fits, ?_⟩
    exact taking.heard.trans (List.sublist_append_left ..)
  next =>
    have copied : target = some ⟨cap, buf.data⟩ := by
      rcases memory with ⟨same, rfl⟩ | realloced
      next => rw [same, taking.memory, ← taking.cap]
      next =>
        have length := taking.length
        have whole : buf.data.take cap = buf.data := List.take_of_length_le (by omega)
        simp [realloced, realloc, taking.memory, whole]
    obtain ⟨after, len, written, goes⟩ := recWrite_taking taking prior fits inBounds
    rw [wrote, copied]
    exact ⟨cap, after, len, written, goes⟩

theorem audio_sound (sound : Sound s) (samples : List Int) (grown : Bool) :
    Sound (audio env s samples grown) ∧
      (audio env s samples grown).vm.recording = s.vm.recording := by
  unfold audio
  cases recording : s.vm.recording with
  | false =>
    obtain ⟨timer, taps, live⟩ := sound.idle recording
    rw [if_pos taps, live]
    refine ⟨⟨sound.kept, sound.inBounds, sound.armed, fun _ => ⟨timer, taps, rfl⟩, ?_⟩, recording⟩
    intro impossible
    cases recording.symm.trans impossible
  | true =>
    obtain ⟨loaded, taps, owner, take, buf, live, mailbox, taking⟩ := sound.busy recording
    have tapped : s.vm.taps ≠ 0 := by omega
    obtain ⟨cap, after, len, taped, goes⟩ :=
      @recAudioTap_taking env _ _ _ taking samples grown sound.inBounds
    rw [if_neg tapped, taped, live]
    refine ⟨⟨sound.kept, sound.inBounds, sound.armed, ?_, ?_⟩, recording⟩
    next =>
      intro impossible
      cases recording.symm.trans impossible
    next => exact fun _ => ⟨loaded, taps, owner, _, after, rfl, mailbox, goes⟩

theorem armTimeout_sound (sound : Sound s) : Sound { s with vm := s.vm.armTimeout } := by
  unfold State.armTimeout
  dsimp only
  split_ifs with armed
  next =>
    have saved : saves (s.vm.out ++ [.disarmed]) = saves s.vm.out := by
      rw [saves_append]
      exact List.append_nil _
    refine framed_sound sound ⟨rfl, rfl, rfl, rfl, rfl, rfl, rfl, rfl, rfl, saved⟩ ?_
    intro impossible
    cases impossible
  next => exact framed_sound sound ⟨rfl, rfl, rfl, rfl, rfl, rfl, rfl, rfl, rfl, rfl⟩ sound.armed

theorem unload_sound (sound : Sound s) (idle : s.vm.recording = false) :
    Sound { s with vm := s.vm.unload } := by
  obtain ⟨-, taps, live⟩ := sound.idle idle
  refine ⟨sound.kept, sound.inBounds, sound.armed, fun _ => ⟨rfl, taps, live⟩, ?_⟩
  intro impossible
  cases idle.symm.trans impossible

/-! ## Runs -/

theorem step_receiving {cmd : Dtmfcmd} (receiving : cmd.receiving = true) {i : Dtmf.Input}
    (other : i ≠ .corDrop) :
    (cmd.step i).fired = cmd.fired ∧ (cmd.step i).receiving = true := by
  cases i with
  | digit d =>
    unfold Dtmfcmd.step Dtmfcmd.onDtmfDigit
    dsimp only
    split_ifs <;> exact ⟨rfl, receiving⟩
  | corAssert => exact ⟨rfl, rfl⟩
  | corDrop => exact absurd rfl other
  | timeout =>
    unfold Dtmfcmd.step
    dsimp only
    split_ifs <;> exact ⟨rfl, receiving⟩
  | register pattern eventOffset description configKey =>
    unfold Dtmfcmd.step Dtmfcmd.dtmfRegisterCmd
    dsimp only
    split_ifs <;> exact ⟨rfl, receiving⟩
  | unregister pattern => exact ⟨rfl, receiving⟩
  | configure cfg => exact ⟨rfl, receiving⟩

/-- A recording goes on only while COR is up, so no command is dispatched meanwhile. -/
structure Steady (s : System) : Prop where
  sound : Sound s
  receiving : s.vm.recording = true → s.cmd.receiving = true

theorem keypad_steady (steady : Steady s) {i : Dtmf.Input} (other : i ≠ .corDrop) :
    Steady (keypad s i) := by
  have silent (recording : s.vm.recording = true) :=
    step_receiving (steady.receiving recording) other
  obtain ⟨sound, same⟩ := keypad_sound steady.sound i fun recording => (silent recording).1
  exact ⟨sound, fun recording => (silent (same.symm.trans recording)).2⟩

theorem idle_steady (sound : Sound s) (idle : s.vm.recording = false) : Steady s := by
  refine ⟨sound, fun impossible => ?_⟩
  cases idle.symm.trans impossible

theorem unkey_steady (steady : Steady s) {write : Write} (calm : Calm env s (.unkey write)) :
    Steady (unkey env s write) := by
  cases recording : s.vm.recording with
  | false =>
    obtain ⟨sound, idle⟩ := @unkey_idle env _ steady.sound recording write
    exact idle_steady sound idle
  | true =>
    obtain ⟨sound, idle⟩ := unkey_busy steady.sound recording calm
    exact idle_steady sound idle

theorem recTimeout_steady (steady : Steady s) {write : Write}
    (calm : Calm env s (.recTimeout write)) : Steady (recTimeout s write) := by
  unfold recTimeout
  split_ifs with running
  next =>
    have recording : s.vm.recording = true := by
      by_contra idle
      rw [Bool.not_eq_true] at idle
      cases (steady.sound.idle idle).1.symm.trans running
    have same : s.vm.recTimeout write = s.vm.stopRecording write := by
      simp [State.recTimeout, State.stopRecording, recording]
    obtain ⟨stopped, idle⟩ := stop_sound steady.sound recording (calm running)
    rw [same]
    exact idle_steady stopped idle
  next => exact steady

theorem armTimeout_recording (vm : State) : vm.armTimeout.recording = vm.recording := by
  unfold State.armTimeout
  dsimp only
  split_ifs <;> rfl

theorem framed_steady (steady : Steady s) {vm : State} (framed : Framed s.vm vm)
    (armed : vm.recordArmed = s.vm.recordArmed) (out : vm.out = s.vm.out) :
    Steady { s with vm := vm } := by
  refine ⟨framed_sound steady.sound framed fun arms => ?_,
    fun recording => steady.receiving (framed.recording.symm.trans recording)⟩
  rw [out, framed.mailbox]
  exact steady.sound.armed (armed.symm.trans arms)

theorem identified_steady (steady : Steady s) (userId : Int) :
    Steady { s with vm := s.vm.onCallerIdentified userId } := by
  unfold State.onCallerIdentified
  split_ifs
  next => exact framed_steady steady ⟨rfl, rfl, rfl, rfl, rfl, rfl, rfl, rfl, rfl, rfl⟩ rfl rfl
  next => exact steady

theorem configure_steady (steady : Steady s) (cfg : Config.KerchunkConfig) :
    Steady { s with vm := if s.vm.loaded then s.vm.configure cfg else s.vm } := by
  split_ifs
  next => exact framed_steady steady ⟨rfl, rfl, rfl, rfl, rfl, rfl, rfl, rfl, rfl, rfl⟩ rfl rfl
  next => exact steady

theorem step_steady (steady : Steady s) {i : Input} (calm : Calm env s i) :
    Steady (step env s i) := by
  cases i with
  | digit d => exact keypad_steady steady (by simp)
  | entryTimeout => exact keypad_steady steady (by simp)
  | register pattern eventOffset description configKey => exact keypad_steady steady (by simp)
  | unregister pattern => exact keypad_steady steady (by simp)
  | identified userId => exact identified_steady steady userId
  | keyUp room => exact ⟨keyUp_sound steady.sound calm, fun _ => rfl⟩
  | unkey write => exact unkey_steady steady calm
  | armTimeout =>
    unfold step
    dsimp only
    split_ifs
    next =>
      refine ⟨armTimeout_sound steady.sound, fun recording => ?_⟩
      exact steady.receiving ((armTimeout_recording s.vm).symm.trans recording)
    next => exact steady
  | recTimeout write => exact recTimeout_steady steady calm
  | audio samples grown =>
    obtain ⟨sound, same⟩ := @audio_sound env _ steady.sound samples grown
    exact ⟨sound, fun recording => steady.receiving (same.symm.trans recording)⟩
  | users known =>
    exact framed_steady steady ⟨rfl, rfl, rfl, rfl, rfl, rfl, rfl, rfl, rfl, rfl⟩ rfl rfl
  | reload cfg =>
    have after : Steady (keypad s (.configure cfg)) := keypad_steady steady (by simp)
    exact configure_steady after cfg
  | unload => exact idle_steady (sound_cmd (unload_sound steady.sound calm) _) calm

/-- Each recording is saved once as the armed mailbox's new message, in every run where a recording
finds memory, a tap and a timer, ends with audio that is stored under a number that is left, and is
neither unloaded nor rearmed for another mailbox before it is saved. -/
theorem recordings_saved (env : Station) (disk : Disk) (inputs : List Input)
    (calm : Guarded (step env) (Calm env) (start disk) inputs) :
    Recorded (run (step env) (start disk) inputs) := by
  have start : Steady (start disk) := idle_steady (start_sound disk) rfl
  have keeps (s : System) (i : Input) (steady : Steady s) (calm : Calm env s i) :
      Steady (step env s i) := step_steady steady calm
  have steady := Machine.run_invariant (step env) keeps start calm
  exact sound_recorded steady.sound

def dial (text : String) : List Input :=
  [.keyUp ⟨true, true, true⟩] ++ text.toList.map .digit ++ [.unkey .whole]

def opening (userId : Int) : List Input :=
  -- The commands of the module, which is enabled, and somebody who speaks.
  [.register "87".toList 0 "Voicemail status".toList "voicemail_status".toList,
    .register "86".toList 1 "Voicemail record".toList "voicemail_record".toList,
    .register "85".toList 2 "Voicemail play".toList "voicemail_play".toList,
    .register "83".toList 3 "Voicemail delete".toList "voicemail_delete".toList,
    .register "84".toList 4 "Voicemail list".toList "voicemail_list".toList,
    .reload [⟨"voicemail".toList, "enabled".toList, "on".toList⟩],
    .users fun _ => true,
    .identified userId]

def spoken (during : String) : List Input :=
  [.keyUp ⟨true, true, true⟩, .audio [7, -7] true] ++ during.toList.map .digit ++ [.unkey .whole]

def noFiles : Disk := fun _ _ => none

theorem message_saved : Recorded (run (step ⟨8000, false⟩) (start noFiles)
    (opening 1 ++ dial "*86#" ++ spoken "")) :=
  recordings_saved ⟨8000, false⟩ noFiles (opening 1 ++ dial "*86#" ++ spoken "") (by decide +kernel)

theorem kept_mailboxes {takes : List Take} {messages : List Saved}
    (kept : List.Forall₂ Kept takes messages) :
    messages.map Saved.userId = takes.map Take.mailbox := by
  induction kept with
  | nil => rfl
  | cons first _ ih => rw [List.map_cons, List.map_cons, first.mailbox, ih]

/-- Another `*86` is dialled while the message is spoken; the commands' handler runs first. -/
theorem message_misfiled : ¬ Recorded (run (step ⟨8000, false⟩) (start noFiles)
    (opening 1 ++ dial "*86#" ++ spoken "*862#")) := by
  intro recorded
  have mailboxes := kept_mailboxes recorded.kept
  revert mailboxes
  decide +kernel

end Kerchunk.Voicemail
