import Kerchunk.Lib.Machine
import Kerchunk.Reflectd.Recordings

set_option autoImplicit false

/-!
# Each recording has its file

Files are opened for overwriting under a name of the talkgroup, the second and the node.
-/

namespace Kerchunk.Reflectd.Recordings

open Config (Text)

/-! ## Sessions in progress -/

section

variable {D : Type} {lib : Library D} {s : Studio D}

/-- The daemon's session of a talkgroup, against what was said in it. -/
structure Agrees (lib : Library D) (s : Studio D) (tg : Nat) (rec : RecSession D) (take : Take) :
    Prop where
  ofTg : take.tg = tg
  tg : rec.tg = take.tg
  tgName : rec.tgName = take.tgName.take 63
  nodeId : rec.nodeId = take.nodeId.take 63
  startedAt : rec.startedAt = take.startedAt
  path : rec.relPath = take.path lib
  dec : rec.dec = (take.heard lib).1
  bytes : rec.pcmBytesWritten = take.bytes lib % 4294967296
  file : s.disk.wavs (take.path lib) = some ⟨0, 0, (take.heard lib).2⟩
  apart : ∀ other ∈ s.done, other.path lib ≠ take.path lib

structure Sound (lib : Library D) (s : Studio D) : Prop where
  running : ∀ tg rec, s.recording tg = some rec →
    ∃ take, s.live tg = some take ∧ Agrees lib s tg rec take
  idle : ∀ tg, s.recording tg = none → s.live tg = none

theorem start_sound : Sound lib .start := by
  constructor <;> simp [Studio.start]

theorem start_stored : Stored lib .start := by
  constructor <;> simp [Studio.start]

theorem path_ne_of_tg {take other : Take} (apart : take.tg ≠ other.tg) :
    take.path lib ≠ other.path lib := fun same => apart (relPath_eq_iff.mp same).1

theorem Agrees.frame {s' : Studio D} {tg : Nat} {rec : RecSession D} {take : Take}
    (agrees : Agrees lib s tg rec take)
    (file : s'.disk.wavs (take.path lib) = s.disk.wavs (take.path lib))
    (apart : ∀ other ∈ s'.done, other.path lib ≠ take.path lib) : Agrees lib s' tg rec take :=
  { agrees with
    file := file.trans agrees.file
    apart := apart }

theorem Agrees.path_ne {tg other : Nat} {rec rec' : RecSession D} {take take' : Take}
    (agrees : Agrees lib s tg rec take) (agrees' : Agrees lib s other rec' take')
    (apart : other ≠ tg) : take.path lib ≠ take'.path lib := by
  refine path_ne_of_tg fun tgs => apart ?_
  rw [← agrees'.ofTg, ← tgs, agrees.ofTg]

/-! ## Ending a session -/

theorem finish_done (sound : Sound lib s) (tg : Nat) :
    (s.finish lib tg).done = s.done ++ (s.live tg).toList := by
  rw [Studio.finish]
  cases running : s.recording tg with
  | none => simp [sound.idle tg running]
  | some rec => rfl

theorem finish_sound (sound : Sound lib s) (tg : Nat) : Sound lib (s.finish lib tg) := by
  rw [Studio.finish]
  cases running : s.recording tg with
  | none => exact sound
  | some rec =>
    obtain ⟨take, live, agrees⟩ := sound.running tg rec running
    constructor
    case running =>
      intro other rec' running'
      by_cases same : other = tg
      next => simp [same] at running'
      next =>
        simp only [Function.update_of_ne same] at running' ⊢
        obtain ⟨take', live', agrees'⟩ := sound.running other rec' running'
        have different := agrees.path_ne agrees' same
        refine ⟨take', live', agrees'.frame ?_ fun ended member => ?_⟩
        next =>
          rw [recordingsEnd, agrees.path]
          exact Function.update_of_ne (Ne.symm different) ..
        next =>
          rw [live] at member
          rcases List.mem_append.mp member with before | now
          next => exact agrees'.apart ended before
          next =>
            obtain rfl : ended = take := by simpa using now
            exact different
    case idle =>
      intro other stopped
      by_cases same : other = tg
      next => simp [same]
      next =>
        simp only [Function.update_of_ne same] at stopped ⊢
        exact sound.idle other stopped

theorem finalized_iff (take : Take) :
    wavFinalize ⟨0, 0, (take.heard lib).2⟩ (take.bytes lib % 4294967296) = take.wav lib ↔
      36 + take.bytes lib < 4294967296 := by
  simp only [wavFinalize, Take.wav, Wav.mk.injEq, and_true]
  omega

theorem finish_stored (sound : Sound lib s) (stored : Stored lib s) (tg : Nat) :
    Stored lib (s.finish lib tg) ↔ Short lib s tg := by
  rw [Studio.finish, Short]
  cases running : s.recording tg with
  | none =>
    rw [sound.idle tg running]
    exact iff_of_true stored (by simp)
  | some rec =>
    obtain ⟨take, live, agrees⟩ := sound.running tg rec running
    simp only [live, Option.toList_some, Option.mem_def, Option.some.injEq, forall_eq']
    have file : (recordingsEnd lib s.disk rec).wavs (take.path lib) =
        some (wavFinalize ⟨0, 0, (take.heard lib).2⟩ (take.bytes lib % 4294967296)) := by
      rw [recordingsEnd, agrees.path, agrees.bytes]
      simp only [Function.update_self, agrees.file, Option.map_some]
    constructor
    next =>
      intro after
      have kept := after.kept take (by simp)
      rw [file] at kept
      exact (finalized_iff take).mp (Option.some.inj kept)
    next =>
      intro short
      constructor
      case own =>
        rw [List.map_append, List.map_singleton]
        refine List.Nodup.append stored.own (List.nodup_singleton _) ?_
        intro path member again
        obtain ⟨other, ended, rfl⟩ := List.mem_map.mp member
        exact agrees.apart other ended (by simpa using again)
      case kept =>
        intro other member
        rcases List.mem_append.mp member with before | now
        next =>
          rw [← stored.kept other before, recordingsEnd, agrees.path]
          exact Function.update_of_ne (agrees.apart other before) ..
        next =>
          obtain rfl : other = take := by simpa using now
          rw [file, (finalized_iff other).mpr short]
      case indexed =>
        intro other member
        simp only [recordingsEnd, Function.update_apply]
        rcases List.mem_append.mp member with before | now
        next =>
          obtain ⟨text, there, row⟩ := stored.indexed other before
          split
          next same =>
            rw [same] at there
            refine ⟨_, rfl, ?_⟩
            rw [there, Option.getD_some]
            exact row.trans (List.prefix_append _ _).isInfix
          next => exact ⟨text, there, row⟩
        next =>
          obtain rfl : other = take := by simpa using now
          rw [agrees.startedAt, if_pos rfl]
          refine ⟨_, rfl, ?_⟩
          have small : other.bytes lib % 4294967296 = other.bytes lib := Nat.mod_eq_of_lt (by omega)
          rw [agrees.tg, agrees.tgName, agrees.nodeId, agrees.bytes, agrees.path, small]
          exact (List.suffix_append _ _).isInfix

/-! ## Beginning a session -/

section

variable {tg : Nat} {tgName nodeId : Text} {now : Int} {opening : Opening}

theorem begin_wavs_other {path : Text} (other : path ≠ relPath tg (lib.localtime now) nodeId) :
    (s.begin lib tg tgName nodeId now opening).disk.wavs path = s.disk.wavs path := by
  cases opening with
  | opened => exact Function.update_of_ne other ..
  | noFile => rfl
  | noDecoder => exact Function.update_of_ne other ..

theorem begin_csvs : (s.begin lib tg tgName nodeId now opening).disk.csvs = s.disk.csvs := by
  cases opening <;> rfl

theorem begin_sound (sound : Sound lib s)
    (fresh : opening = .opened →
      ∀ take ∈ s.done, take.path lib ≠ relPath tg (lib.localtime now) nodeId) :
    Sound lib (s.begin lib tg tgName nodeId now opening) := by
  constructor
  case running =>
    intro other rec running
    by_cases same : other = tg
    next =>
      subst same
      cases opening with
      | opened =>
        simp only [Studio.begin, recordingsStart, Function.update_self, Option.some.injEq] at running
        subst running
        refine ⟨_, Function.update_self .., ?_⟩
        exact ⟨rfl, rfl, rfl, rfl, rfl, rfl, rfl, rfl, Function.update_self .., fresh rfl⟩
      | noFile => simp [Studio.begin, recordingsStart] at running
      | noDecoder => simp [Studio.begin, recordingsStart] at running
    next =>
      simp only [Studio.begin, Function.update_of_ne same] at running ⊢
      obtain ⟨take, live, agrees⟩ := sound.running other rec running
      refine ⟨take, live, agrees.frame (begin_wavs_other ?_) agrees.apart⟩
      intro paths
      exact same (agrees.ofTg.symm.trans (relPath_eq_iff.mp paths).1)
  case idle =>
    intro other stopped
    by_cases same : other = tg
    next =>
      subst same
      cases opening with
      | opened => simp [Studio.begin, recordingsStart] at stopped
      | noFile => simp [Studio.begin]
      | noDecoder => simp [Studio.begin]
    next =>
      simp only [Studio.begin, Function.update_of_ne same] at stopped ⊢
      exact sound.idle other stopped

theorem begin_stored : Stored lib (s.begin lib tg tgName nodeId now opening) ↔
    Stored lib s ∧ (opening ≠ .noFile →
      ∀ take ∈ s.done, take.path lib ≠ relPath tg (lib.localtime now) nodeId) := by
  constructor
  next =>
    intro after
    have fresh (opens : opening ≠ .noFile) :
        ∀ take ∈ s.done, take.path lib ≠ relPath tg (lib.localtime now) nodeId := by
      -- A file that is opened again has the sizes of a file without a header.
      intro take member same
      have kept := after.kept take member
      rw [same] at kept
      cases opening with
      | opened =>
        simp only [Studio.begin, recordingsStart, Function.update_self, Option.some.injEq] at kept
        have size : 0 = 36 + take.bytes lib := congrArg Wav.riff kept
        omega
      | noFile => exact opens rfl
      | noDecoder =>
        simp [Studio.begin, recordingsStart] at kept
    refine ⟨⟨after.own, ?_, ?_⟩, fresh⟩
    next =>
      intro take member
      rw [← after.kept take member]
      cases opening with
      | noFile => rfl
      | opened => exact (begin_wavs_other (fresh (by decide) take member)).symm
      | noDecoder => exact (begin_wavs_other (fresh (by decide) take member)).symm
    next =>
      intro take member
      obtain ⟨text, there, row⟩ := after.indexed take member
      rw [begin_csvs] at there
      exact ⟨text, there, row⟩
  next =>
    rintro ⟨stored, fresh⟩
    refine ⟨stored.own, ?_, ?_⟩
    next =>
      intro take member
      rw [← stored.kept take member]
      cases opening with
      | noFile => rfl
      | opened => exact begin_wavs_other (fresh (by decide) take member)
      | noDecoder => exact begin_wavs_other (fresh (by decide) take member)
    next =>
      intro take member
      rw [begin_csvs]
      exact stored.indexed take member

end

/-! ## Audio -/

theorem heard_append (take : Take) (opus : List UInt8) :
    ({ take with payloads := take.payloads ++ [opus] } : Take).heard lib =
      hear lib (take.heard lib) opus := by
  rw [Take.heard, List.foldl_concat, Take.heard]

theorem append_wavs_other (disk : Disk) (rec : RecSession D) (opus : List UInt8) {path : Text}
    (other : path ≠ rec.relPath) :
    (recordingsAppend lib disk rec opus).1.wavs path = disk.wavs path := by
  rw [recordingsAppend]
  split
  next => rfl
  next => exact Function.update_of_ne other ..

theorem append_csvs (disk : Disk) (rec : RecSession D) (opus : List UInt8) :
    (recordingsAppend lib disk rec opus).1.csvs = disk.csvs := by
  rw [recordingsAppend]
  split <;> rfl

theorem append_sound (sound : Sound lib s) (tg : Nat) (opus : List UInt8) :
    Sound lib (s.append lib tg opus) := by
  rw [Studio.append]
  cases running : s.recording tg with
  | none => exact sound
  | some rec =>
    obtain ⟨take, live, agrees⟩ := sound.running tg rec running
    constructor
    case running =>
      intro other rec' running'
      by_cases same : other = tg
      next =>
        subst same
        simp only [Function.update_self, Option.some.injEq] at running'
        subst running'
        refine ⟨{ take with payloads := take.payloads ++ [opus] }, by simp [live], ?_⟩
        have grown := @heard_append _ lib take opus
        have path : ({ take with payloads := take.payloads ++ [opus] } : Take).path lib =
            take.path lib := rfl
        by_cases silent : opus = []
        next =>
          have same : hear lib (take.heard lib) opus = take.heard lib := if_pos silent
          rw [same] at grown
          simp only [recordingsAppend, if_pos silent]
          refine ⟨agrees.ofTg, agrees.tg, agrees.tgName, agrees.nodeId, agrees.startedAt,
            agrees.path, ?_, ?_, ?_, agrees.apart⟩
          next => rw [grown, agrees.dec]
          next => rw [Take.bytes, grown, agrees.bytes, Take.bytes]
          next => rw [grown, path, agrees.file]
        next =>
          have more : hear lib (take.heard lib) opus = ((lib.decode (take.heard lib).1 opus).1,
              (take.heard lib).2 ++ (lib.decode (take.heard lib).1 opus).2) := if_neg silent
          rw [more] at grown
          simp only [recordingsAppend, if_neg silent]
          refine ⟨agrees.ofTg, agrees.tg, agrees.tgName, agrees.nodeId, agrees.startedAt,
            agrees.path, ?_, ?_, ?_, agrees.apart⟩
          next => rw [grown, agrees.dec]
          next =>
            rw [Take.bytes, grown, agrees.bytes, Take.bytes, agrees.dec, List.length_append]
            simp only
            omega
          next =>
            simp only [grown, path, agrees.path, agrees.dec, Function.update_self, agrees.file,
              Option.map_some]
      next =>
        simp only [Function.update_of_ne same] at running' ⊢
        obtain ⟨take', live', agrees'⟩ := sound.running other rec' running'
        refine ⟨take', live', agrees'.frame (append_wavs_other s.disk rec opus ?_) agrees'.apart⟩
        rw [agrees.path]
        exact (agrees.path_ne agrees' same).symm
    case idle =>
      intro other stopped
      by_cases same : other = tg
      next => simp [same] at stopped
      next =>
        simp only [Function.update_of_ne same] at stopped ⊢
        exact sound.idle other stopped

theorem append_stored (sound : Sound lib s) (stored : Stored lib s) (tg : Nat)
    (opus : List UInt8) : Stored lib (s.append lib tg opus) := by
  rw [Studio.append]
  cases running : s.recording tg with
  | none => exact stored
  | some rec =>
    obtain ⟨take, live, agrees⟩ := sound.running tg rec running
    refine ⟨stored.own, fun other member => ?_, fun other member => ?_⟩
    next =>
      rw [← stored.kept other member]
      refine append_wavs_other s.disk rec opus ?_
      rw [agrees.path]
      exact agrees.apart other member
    next =>
      simp only [append_csvs]
      exact stored.indexed other member

/-! ## Every run -/

theorem named_iff (tg : Nat) (nodeId : Text) (now : Int)
    (sound : Sound lib s) : Named lib s tg nodeId now ↔
      ∃ take ∈ (s.finish lib tg).done, take.path lib = relPath tg (lib.localtime now) nodeId := by
  rw [finish_done sound, Named]
  simp only [Take.path, relPath_eq_iff]

theorem step_stored (sound : Sound lib s) (stored : Stored lib s) (i : Input) :
    Stored lib (s.step lib i) ↔ Fresh lib s i := by
  cases i with
  | talk tg tgName nodeId now opening =>
    rw [Studio.step, begin_stored, finish_stored sound stored, Fresh, named_iff tg nodeId now sound]
    simp only [ne_eq, not_exists, not_and]
  | audio tg opus => exact iff_of_true (append_stored sound stored tg opus) trivial
  | release tg => exact finish_stored sound stored tg

theorem step_sound (sound : Sound lib s) (i : Input)
    (fresh : Fresh lib s i) : Sound lib (s.step lib i) := by
  cases i with
  | talk tg tgName nodeId now opening =>
    refine begin_sound (finish_sound sound tg) fun opened take member same => ?_
    have opens : opening ≠ .noFile := by
      rw [opened]
      decide
    exact fresh.2 opens ((named_iff tg nodeId now sound).mpr ⟨take, member, same⟩)
  | audio tg opus => exact append_sound sound tg opus
  | release tg => exact finish_sound sound tg

end

/-- Every ended session keeps its file and its row if and only if no session begins in the same second
as an earlier one of its talkgroup by a node of the same name, and none outgrows the sizes of a
header. -/
theorem recordings_stored {D : Type} (lib : Library D) (inputs : List Input) :
    Machine.Guarded (Studio.step lib) (fun s i => Stored lib (s.step lib i)) .start inputs ↔
      Machine.Guarded (Studio.step lib) (Fresh lib) .start inputs :=
  Machine.guarded_iff_of_invariant (Studio.step lib) (P := fun s => Sound lib s ∧ Stored lib s)
    (fun _ i held => step_stored held.1 held.2 i)
    (fun _ i held fresh =>
      ⟨step_sound held.1 i fresh, (step_stored held.1 held.2 i).mpr fresh⟩)
    ⟨start_sound, start_stored⟩

def noonLibrary : Library Unit where
  localtime := fun _ => ⟨2026, 7, 1, 12, 0, 0, by decide⟩
  create := ()
  decode := fun _ _ => ((), [7#16])
  durationText := fun _ => "0.00".toList

/-- A node talks twice within a second: its first recording is gone. -/
theorem second_take_overwrites :
    ¬ Machine.Guarded (Studio.step noonLibrary)
      (fun s i => Stored noonLibrary (s.step noonLibrary i)) .start
      [.talk 1 [] "K1ABC".toList 0 .opened, .audio 1 [1], .release 1,
        .talk 1 [] "K1ABC".toList 0 .opened] := by
  rintro ⟨_, _, _, last, _⟩
  have kept := last.kept ⟨1, [], "K1ABC".toList, 0, [[1]]⟩ (by decide)
  exact absurd kept (by decide)

end Kerchunk.Reflectd.Recordings
