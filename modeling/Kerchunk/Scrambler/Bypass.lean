import Kerchunk.Cwid.Identification
import Kerchunk.Lib.Machine
import Kerchunk.Scrambler.Model

set_option autoImplicit false

/-!
# The scrambler's bypass for a CW ID

The bypass begins with the announcement of an ID, which follows the queueing of its items, and lasts
until QUEUE_COMPLETE.
-/

namespace Kerchunk.Scrambler

open Config (KerchunkConfig Text)
open Cwid (CwidConfig Plcode cwidTag)

-- `counted` are the frames that count: all of them, or those with sound in them.
variable (tables : Tables) (plcode : Plcode) (counted : List Int → Bool)

def Sent.proper (f : Sent) : Prop :=
  -- The audio of an ID in the clear, and all else scrambled.
  f.owed = true → f.origin ≠ .gap → counted f.samples = true →
    (f.scrambled = true ↔ f.origin ≠ .ident)

instance (f : Sent) : Decidable (f.proper counted) :=
  inferInstanceAs (Decidable (_ → _ → _ → _))

def Covers (log : List Entry) : Prop :=
  ∀ f, .sent f ∈ log → f.proper counted

def Open (log : List Entry) : Prop :=
  -- An ID has been announced since the last QUEUE_COMPLETE.
  ∃ before after, log = before ++ .announced cwidTag :: after ∧ .completed ∉ after

/-- A frame that is about to be played is of an ID if and only if one has been announced since the
last QUEUE_COMPLETE. -/
def Windowed (s : Sys) (i : Input) : Prop :=
  ∀ origin samples, i = .write → s.hand = some (origin, samples) →
    s.scrambler.enabled = true → s.emergency = false → origin ≠ .gap → counted samples = true →
      (origin = .ident ↔ Open s.log)

/-! ## The flag and the log -/

theorem open_nil : ¬Open [] := by
  intro ⟨before, after, split, _⟩
  cases before with
  | nil => cases split
  | cons first rest => cases split

theorem open_append {log : List Entry} {e : Entry} :
    Open (log ++ [e]) ↔ e = .announced cwidTag ∨ Open log ∧ e ≠ .completed := by
  constructor
  next =>
    intro ⟨before, after, split, unfinished⟩
    rcases List.eq_nil_or_concat after with rfl | ⟨later, last, rfl⟩
    next => exact .inl (List.singleton_inj.mp (List.append_inj' split rfl).2)
    next =>
      rw [List.concat_eq_append] at split unfinished
      have split : log ++ [e] = (before ++ .announced cwidTag :: later) ++ [last] := by
        simpa using split
      obtain ⟨same, only⟩ := List.append_inj' split rfl
      obtain rfl := List.singleton_inj.mp only
      refine .inr ⟨⟨before, later, same, fun member => ?_⟩, ?_⟩
      next => exact unfinished (List.mem_append_left _ member)
      next =>
        rintro rfl
        exact unfinished (List.mem_append_right _ (List.mem_singleton.mpr rfl))
  next =>
    intro either
    rcases either with rfl | ⟨⟨before, after, rfl, unfinished⟩, other⟩
    next => exact ⟨log, [], rfl, List.not_mem_nil⟩
    next =>
      refine ⟨before, after ++ [e], by simp, fun member => ?_⟩
      rcases List.mem_append.mp member with old | new
      next => exact unfinished old
      next => exact other (List.mem_singleton.mp new).symm

structure Tracked (s : Sys) : Prop where
  hooks : s.hooks = s.scrambler.enabled
  bypass : s.scrambler.cwidBypass = true ↔ Open s.log

/-- The hooks follow the switch, and the log and the flag are left alone. -/
structure Tunes (s s' : Sys) : Prop where
  log : s'.log = s.log
  bypass : s'.scrambler.cwidBypass = s.scrambler.cwidBypass
  hooks : s.hooks = s.scrambler.enabled → s'.hooks = s'.scrambler.enabled

theorem Tunes.trans {a b c : Sys} (first : Tunes a b) (second : Tunes b c) : Tunes a c where
  log := second.log.trans first.log
  bypass := second.bypass.trans first.bypass
  hooks synced := second.hooks (first.hooks synced)

theorem Tunes.tracked {s s' : Sys} (tunes : Tunes s s') (tracked : Tracked s) : Tracked s' where
  hooks := tunes.hooks tracked.hooks
  bypass := by
    rw [tunes.bypass, tunes.log]
    exact tracked.bypass

theorem applyCode_tunes (s : Sys) (code : Int) : Tunes s (s.applyCode tables code) :=
  ⟨rfl, rfl, fun synced => synced⟩

theorem setEnabled_tunes (s : Sys) (enabled : Bool) : Tunes s (s.setEnabled tables enabled) := by
  cases enabled with
  | true => exact ⟨rfl, rfl, fun _ => rfl⟩
  | false => exact ⟨rfl, rfl, fun _ => rfl⟩

theorem configure_tunes (s : Sys) (cfg : KerchunkConfig) : Tunes s (s.configure tables cfg) := by
  have coded := applyCode_tunes tables s
    (Cwid.configGetInt cfg "scrambler".toList "code".toList 4)
  unfold Sys.configure
  dsimp only
  refine Tunes.trans ?_ (setEnabled_tunes tables _ _)
  split
  next => exact coded.trans ⟨rfl, rfl, fun synced => synced⟩
  next => exact coded

theorem cliScrambler_tunes (s : Sys) (argv : List Text) : Tunes s (s.cliScrambler tables argv) := by
  have same : Tunes s s := ⟨rfl, rfl, fun synced => synced⟩
  unfold Sys.cliScrambler
  split
  next word rest =>
    split
    next => exact setEnabled_tunes tables s true
    next =>
      split
      next => exact setEnabled_tunes tables s false
      next =>
        split
        next number _ =>
          split
          next =>
            refine (applyCode_tunes tables s (Config.atoiText number)).trans ?_
            dsimp only
            split
            next on => exact ⟨rfl, rfl, fun _ => on.symm⟩
            next => exact ⟨rfl, rfl, fun synced => synced⟩
          next => exact same
        next => exact same
  next => exact same

/-- A step that plays no frame. -/
structure Silent (s s' : Sys) : Prop where
  tracked : Tracked s → Tracked s'
  sent : ∀ f, Entry.sent f ∈ s'.log ↔ .sent f ∈ s.log

theorem Tunes.silent {s s' : Sys} (tunes : Tunes s s') : Silent s s' where
  tracked := tunes.tracked
  sent f := by rw [tunes.log]

theorem Silent.trans {a b c : Sys} (first : Silent a b) (second : Silent b c) : Silent a c where
  tracked before := second.tracked (first.tracked before)
  sent f := (second.sent f).trans (first.sent f)

theorem announce_silent (s : Sys) (source : Text) : Silent s (s.announce source) := by
  unfold Sys.announce Sys.onAnnouncement
  split
  next ident =>
    refine ⟨fun tracked => ⟨tracked.hooks, ?_⟩, fun f => by simp⟩
    exact iff_of_true rfl (open_append.mpr (.inl (by rw [ident])))
  next other =>
    refine ⟨fun tracked => ⟨tracked.hooks, tracked.bypass.trans ?_⟩, fun f => by simp⟩
    simp [open_append, other]

theorem onScramblerCmd_silent (s : Sys) (data : Option Text) :
    Silent s (s.onScramblerCmd tables data) := by
  unfold Sys.onScramblerCmd
  dsimp only
  refine Silent.trans (Tunes.silent ?_) (announce_silent _ _)
  split
  next => exact setEnabled_tunes tables s false
  next =>
    split
    next => exact (applyCode_tunes tables s _).trans (setEnabled_tunes tables _ true)
    next => exact setEnabled_tunes tables s _

theorem sendNext_silent (s : Sys) : Silent s s.sendNext := by
  have tunes {s' : Sys} (tunes : Tunes s s') : Silent s s' := tunes.silent
  unfold Sys.sendNext
  split
  next => exact tunes ⟨rfl, rfl, fun synced => synced⟩
  next => exact tunes ⟨rfl, rfl, fun synced => synced⟩
  next => exact tunes ⟨rfl, rfl, fun synced => synced⟩
  next => exact tunes ⟨rfl, rfl, fun synced => synced⟩
  next rest _ =>
    have taken : Silent s { s with sending := rest } := tunes ⟨rfl, rfl, fun synced => synced⟩
    exact taken.trans (announce_silent _ cwidTag)

theorem act_silent (s : Sys) : Silent s s.act := by
  unfold Sys.act
  dsimp only
  split
  next => exact Tunes.silent ⟨rfl, rfl, fun synced => synced⟩
  next =>
    split
    next =>
      refine ⟨fun tracked => ⟨tracked.hooks, iff_of_false (by simp [Sys.onQueueComplete]) ?_⟩,
        fun f => by simp [Sys.onQueueComplete]⟩
      simp [Sys.onQueueComplete, open_append]
    next => exact Tunes.silent ⟨rfl, rfl, fun synced => synced⟩

theorem step_silent (s : Sys) {i : Input} (quiet : i ≠ .write ∨ s.hand = none) :
    Silent s (step tables plcode s i) := by
  have same : Tunes s s := ⟨rfl, rfl, fun synced => synced⟩
  cases i with
  | configure cfg => exact (configure_tunes tables s cfg).silent
  | command data => exact onScramblerCmd_silent tables s data
  | cli argv => exact (cliScrambler_tunes tables s argv).silent
  | emergency active => exact Tunes.silent ⟨rfl, rfl, fun synced => synced⟩
  | announcement source => exact announce_silent s source
  | sendCwid cfg hasTts =>
    unfold step
    dsimp only
    split
    next => exact Tunes.silent ⟨rfl, rfl, fun synced => synced⟩
    next => exact same.silent
  | sendNext => exact sendNext_silent s
  | produce request => exact Tunes.silent ⟨rfl, rfl, fun synced => synced⟩
  | capture rx =>
    unfold step
    dsimp only
    split
    next => exact Tunes.silent ⟨rfl, rfl, fun synced => synced⟩
    next => exact same.silent
  | readDepth =>
    unfold step
    dsimp only
    split
    next => exact Tunes.silent ⟨rfl, rfl, fun synced => synced⟩
    next => exact same.silent
  | tick c =>
    unfold step
    dsimp only
    split
    next => exact Tunes.silent ⟨rfl, rfl, fun synced => synced⟩
    next => exact same.silent
  | act =>
    unfold step
    dsimp only
    split
    next => exact act_silent s
    next => exact same.silent
  | write =>
    have empty := quiet.resolve_left (fun differs => differs rfl)
    have nothing : step tables plcode s .write = s := by simp [step, Sys.write, empty]
    rw [nothing]
    exact same.silent

/-! ## A frame, and a run -/

theorem write_some {s : Sys} {origin : Origin} {samples : List Int}
    (hand : s.hand = some (origin, samples)) :
    s.write tables =
      { s with
        scrambler := { s.scrambler with txState := (s.transmitted tables samples).2 }
        hand := none
        log := s.log ++ [.sent (s.frame tables origin samples)] } := by
  simp [Sys.write, hand]

theorem frame_proper {s : Sys} (tracked : Tracked s) (origin : Origin) (samples : List Int) :
    (s.frame tables origin samples).proper counted ↔
      (s.scrambler.enabled = true → s.emergency = false → origin ≠ .gap →
        counted samples = true → (origin = .ident ↔ Open s.log)) := by
  rw [← tracked.bypass]
  simp only [Sent.proper, Sys.frame, tracked.hooks, Bool.and_eq_true, Bool.not_eq_true',
    Bool.or_eq_false_iff]
  cases s.scrambler.enabled with
  | false => simp
  | true =>
    cases s.emergency with
    | true => simp
    | false =>
      cases s.scrambler.cwidBypass with
      | true => simp
      | false => simp

theorem write_covers {s : Sys} (tracked : Tracked s) {origin : Origin} {samples : List Int}
    (hand : s.hand = some (origin, samples)) :
    Covers counted (s.write tables).log ↔ Covers counted s.log ∧ Windowed counted s .write := by
  have last : Windowed counted s .write ↔ (s.frame tables origin samples).proper counted := by
    rw [frame_proper tables counted tracked]
    refine ⟨fun windowed => windowed origin samples rfl hand, fun proper o f _ held => ?_⟩
    obtain ⟨rfl, rfl⟩ := Prod.mk.inj (Option.some.inj (hand.symm.trans held))
    exact proper
  rw [last, write_some tables hand]
  constructor
  next =>
    intro covers
    exact ⟨fun f member => covers f (List.mem_append_left _ member), covers _ (by simp)⟩
  next =>
    intro ⟨covers, proper⟩ f member
    rcases List.mem_append.mp member with old | new
    next => exact covers f old
    next =>
      cases List.mem_singleton.mp new
      exact proper

theorem write_tracked {s : Sys} (tracked : Tracked s) : Tracked (s.write tables) := by
  unfold Sys.write
  split
  next => exact tracked
  next => exact ⟨tracked.hooks, tracked.bypass.trans (by simp [open_append])⟩

theorem step_covers {s : Sys} (tracked : Tracked s) (i : Input) :
    Covers counted (step tables plcode s i).log ↔ Covers counted s.log ∧ Windowed counted s i := by
  by_cases quiet : i ≠ .write ∨ s.hand = none
  next =>
    have sent := (step_silent tables plcode s quiet).sent
    have idle : Windowed counted s i := by
      intro origin samples writes hand
      rcases quiet with other | empty
      next => exact absurd writes other
      next =>
        rw [empty] at hand
        cases hand
    exact ⟨fun covers => ⟨fun f member => covers f ((sent f).mpr member), idle⟩,
      fun covers f member => covers.1 f ((sent f).mp member)⟩
  next =>
    obtain ⟨writes, full⟩ := not_or.mp quiet
    obtain rfl := not_not.mp writes
    obtain ⟨⟨origin, samples⟩, hand⟩ := Option.ne_none_iff_exists'.mp full
    exact write_covers tables counted tracked hand

theorem step_tracked {s : Sys} (tracked : Tracked s) (i : Input) :
    Tracked (step tables plcode s i) := by
  by_cases writes : i = .write
  next =>
    rw [writes]
    exact write_tracked tables tracked
  next => exact (step_silent tables plcode s (.inl writes)).tracked tracked

theorem start_tracked (rate : Nat) : Tracked (start rate) where
  hooks := rfl
  bypass := iff_of_false Bool.false_ne_true open_nil

theorem bypass_covers_id (rate : Nat) (inputs : List Input) :
    Covers counted (Machine.run (step tables plcode) (start rate) inputs).log ↔
      Machine.Guarded (step tables plcode) (Windowed counted) (start rate) inputs := by
  have none : Covers counted (start rate).log := fun _ member => by cases member
  refine (Machine.run_iff_guarded (step tables plcode) (Q := fun s => Covers counted s.log)
    (fun _ i tracked => step_tracked tables plcode tracked i)
    (fun _ i tracked => step_covers tables plcode counted tracked i)
    (start_tracked rate)).trans (and_iff_right none)

/-! ## An ID that a key-up removes -/

def plainTables : Tables where
  sine _ := 32767
  coefficients _ _ := [32767]
  increment _ _ := 0

def scramblerOn : KerchunkConfig :=
  [{ sectionName := "scrambler".toList, key := "enabled".toList, value := "on".toList }]

def voice : RxFrame where
  samples := [1000, 2000]
  softwareRelay := true
  pttHeld := true
  relayActive := true
  relayDrain := 0
  playWritable := 160

/-- An ID is announced, a key-up preempts the queue, and what the user says is relayed. -/
def preemptedId : List Input :=
  [.configure scramblerOn,
   .sendCwid { Cwid.defaultConfig with callsign := "WRDP519".toList } false] ++
    List.replicate 5 .sendNext ++ [.produce .preempt, .capture voice, .write]

def relayedInClear : Sent where
  origin := .relayed
  samples := [1994, 3984]
  onAir := [1994, 3984]
  owed := true
  scrambled := false

theorem preempted_id_bypasses :
    ¬Covers (fun _ => true)
      (Machine.run (step plainTables Cwid.oneDash) (start 8000) preemptedId).log := by
  intro covers
  exact absurd (covers relayedInClear (by decide +kernel)) (by decide)

end Kerchunk.Scrambler
