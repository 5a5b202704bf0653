import Kerchunk.Cdr.Model
import Kerchunk.Lib.CString
import Mathlib.Logic.Function.Basic

set_option autoImplicit false

/-!
# Recordings of floor sessions (`src/reflectd/recordings.c`)

A path is relative to the recording directory. A talkgroup goes by its number, of which the first place
in the configuration is used.
-/

namespace Kerchunk.Reflectd.Recordings

open Config (Text nul newline)
open Cdr (digits padded intText csvField csvRow)

/-! ## Names -/

/-- The fields of `struct tm` that the names are made of, the year and the month as they are
printed. -/
structure Tm where
  year : Nat
  mon : Nat
  mday : Nat
  hour : Nat
  min : Nat
  sec : Nat
  twoDigits : hour < 100 ∧ min < 100 ∧ sec < 100
deriving DecidableEq

def ymd (t : Tm) : Text :=
  padded 4 t.year ++ '-' :: (padded 2 t.mon ++ '-' :: padded 2 t.mday)

def clockText (t : Tm) : Text :=
  padded 2 t.hour ++ ':' :: (padded 2 t.min ++ ':' :: padded 2 t.sec)

def safeChar (c : Char) : Bool :=
  ('a' ≤ c && c ≤ 'z') || ('A' ≤ c && c ≤ 'Z') || ('0' ≤ c && c ≤ '9') || c = '-' || c = '_'

def safeNode (nodeId : Text) : Text :=
  let kept := (nodeId.filter safeChar).take 63
  if kept = [] then "unknown".toList else kept

def relPath (tg : Nat) (t : Tm) (nodeId : Text) : Text :=
  ymd t ++ '/' :: 'T' :: 'G' :: (digits tg ++ '_' ::
    ((padded 2 t.hour ++ (padded 2 t.min ++ padded 2 t.sec)) ++ '_' ::
      (safeNode nodeId ++ ".wav".toList)))

def csvPath (t : Tm) : Text :=
  ymd t ++ ".csv".toList

/-! ## Files -/

/-- The two sizes of the header, and the samples. -/
structure Wav where
  riff : Nat
  data : Nat
  pcm : List (BitVec 16)
deriving DecidableEq

structure Disk where
  wavs : Text → Option Wav
  csvs : Text → Option Text

def wavWriteHeader : Wav where
  riff := 0
  data := 0
  pcm := []

def wavFinalize (w : Wav) (pcmBytes : Nat) : Wav :=
  { w with riff := (36 + pcmBytes) % 4294967296, data := pcmBytes }

/-- The C library and Opus: `durationText` is the `%.2f` of the seconds that so many bytes last. -/
structure Library (D : Type) where
  localtime : Int → Tm
  create : D
  decode : D → List UInt8 → D × List (BitVec 16)
  durationText : Nat → Text

structure RecSession (D : Type) where
  dec : D
  pcmBytesWritten : Nat
  tg : Nat
  tgName : Text
  nodeId : Text
  relPath : Text
  startedAt : Int

/-- Recording may be off, or the day's directory or the file fail to open, and after that the
decoder. -/
inductive Opening where
  | opened
  | noFile
  | noDecoder
deriving DecidableEq

section

variable {D : Type} (lib : Library D)

def recordingsStart (disk : Disk) (tg : Nat) (tgName nodeId : Text) (now : Int) :
    Opening → Disk × Option (RecSession D)
  | .noFile => (disk, none)
  | .noDecoder =>
    -- The file has been created, and is unlinked.
    let path := relPath tg (lib.localtime now) nodeId
    ({ disk with wavs := Function.update disk.wavs path none }, none)
  | .opened =>
    let path := relPath tg (lib.localtime now) nodeId
    ({ disk with wavs := Function.update disk.wavs path (some wavWriteHeader) },
      some
        { dec := lib.create
          pcmBytesWritten := 0
          tg := tg
          tgName := tgName.take 63
          nodeId := nodeId.take 63
          relPath := path
          startedAt := now })

def recordingsAppend (disk : Disk) (s : RecSession D) (opus : List UInt8) : Disk × RecSession D :=
  if opus = [] then (disk, s)
  else
    let pcm := (lib.decode s.dec opus).2
    ({ disk with
        wavs := Function.update disk.wavs s.relPath
          ((disk.wavs s.relPath).map fun w => { w with pcm := w.pcm ++ pcm }) },
      { s with
        dec := (lib.decode s.dec opus).1
        pcmBytesWritten := (s.pcmBytesWritten + 2 * pcm.length) % 4294967296 })

def header : Text :=
  csvRow ["timestamp".toList, "date".toList, "time".toList, "tg".toList, "tg_name".toList,
    "node_id".toList, "duration_s".toList, "pcm_bytes".toList, "recording".toList]

def columns (startedAt : Int) (tg : Nat) (tgName nodeId : Text) (pcmBytes : Nat) : List Text :=
  [intText startedAt, ymd (lib.localtime startedAt), clockText (lib.localtime startedAt), digits tg,
    tgName, nodeId, lib.durationText pcmBytes, digits pcmBytes]

def indexRow (startedAt : Int) (tg : Nat) (tgName nodeId : Text) (pcmBytes : Nat)
    (recording : Text) : Text :=
  csvRow ((columns lib startedAt tg tgName nodeId pcmBytes).map csvField ++ [csvField recording])

def recordingsEnd (disk : Disk) (s : RecSession D) : Disk :=
  let csv := csvPath (lib.localtime s.startedAt)
  { wavs := Function.update disk.wavs s.relPath
      ((disk.wavs s.relPath).map fun w => wavFinalize w s.pcmBytesWritten)
    csvs := Function.update disk.csvs csv
      (some ((disk.csvs csv).getD header ++
        indexRow lib s.startedAt s.tg s.tgName s.nodeId s.pcmBytesWritten s.relPath)) }

/-! ## The floor -/

/-- What was said in a session and who said it, beside what the daemon keeps. -/
structure Take where
  tg : Nat
  tgName : Text
  nodeId : Text
  startedAt : Int
  payloads : List (List UInt8)
deriving DecidableEq

structure Studio (D : Type) where
  disk : Disk
  recording : Nat → Option (RecSession D)
  live : Nat → Option Take
  done : List Take

/-- The floor of a talkgroup goes to another node, audio comes from its holder, and it becomes
idle. -/
inductive Input where
  | talk (tg : Nat) (tgName nodeId : Text) (now : Int) (opening : Opening)
  | audio (tg : Nat) (opus : List UInt8)
  | release (tg : Nat)

namespace Studio

def start : Studio D where
  disk := { wavs := fun _ => none, csvs := fun _ => none }
  recording := fun _ => none
  live := fun _ => none
  done := []

def finish (s : Studio D) (tg : Nat) : Studio D :=
  -- `if (t->rec) { recordings_end(t->rec); t->rec = NULL; }`
  match s.recording tg with
  | none => s
  | some rec =>
    { disk := recordingsEnd lib s.disk rec
      recording := Function.update s.recording tg none
      live := Function.update s.live tg none
      done := s.done ++ (s.live tg).toList }

def begin (s : Studio D) (tg : Nat) (tgName nodeId : Text) (now : Int) (opening : Opening) :
    Studio D :=
  let started := recordingsStart lib s.disk tg tgName nodeId now opening
  { s with
    disk := started.1
    recording := Function.update s.recording tg started.2
    live := Function.update s.live tg
      (if opening = .opened then some ⟨tg, tgName, nodeId, now, []⟩ else none) }

def append (s : Studio D) (tg : Nat) (opus : List UInt8) : Studio D :=
  match s.recording tg with
  | none => s
  | some rec =>
    let more := recordingsAppend lib s.disk rec opus
    { s with
      disk := more.1
      recording := Function.update s.recording tg (some more.2)
      live := Function.update s.live tg
        ((s.live tg).map fun take => { take with payloads := take.payloads ++ [opus] }) }

def step (s : Studio D) : Input → Studio D
  | .talk tg tgName nodeId now opening => (s.finish lib tg).begin lib tg tgName nodeId now opening
  | .audio tg opus => s.append lib tg opus
  | .release tg => s.finish lib tg

end Studio

/-! ## What a recording has to be -/

def hear (heard : D × List (BitVec 16)) (opus : List UInt8) : D × List (BitVec 16) :=
  if opus = [] then heard
  else ((lib.decode heard.1 opus).1, heard.2 ++ (lib.decode heard.1 opus).2)

namespace Take

def heard (take : Take) : D × List (BitVec 16) :=
  take.payloads.foldl (hear lib) (lib.create, [])

def path (take : Take) : Text :=
  relPath take.tg (lib.localtime take.startedAt) take.nodeId

def bytes (take : Take) : Nat :=
  2 * (take.heard lib).2.length

def wav (take : Take) : Wav where
  riff := 36 + take.bytes lib
  data := take.bytes lib
  pcm := (take.heard lib).2

def row (take : Take) : Text :=
  indexRow lib take.startedAt take.tg (take.tgName.take 63) (take.nodeId.take 63) (take.bytes lib)
    (take.path lib)

end Take

/-- Each session that has ended has a file of its own with its audio, and a row that names the
file. -/
structure Stored (s : Studio D) : Prop where
  own : (s.done.map (Take.path lib)).Nodup
  kept : ∀ take ∈ s.done, s.disk.wavs (take.path lib) = some (take.wav lib)
  indexed : ∀ take ∈ s.done, ∃ text,
    s.disk.csvs (csvPath (lib.localtime take.startedAt)) = some text ∧ take.row lib <:+: text

def Short (s : Studio D) (tg : Nat) : Prop :=
  -- The sizes of the header can hold the session that ends.
  ∀ take ∈ s.live tg, 36 + take.bytes lib < 4294967296

def Named (s : Studio D) (tg : Nat) (nodeId : Text) (now : Int) : Prop :=
  -- An earlier session of the talkgroup began in the same second with a node of the same name.
  ∃ take ∈ s.done ++ (s.live tg).toList, take.tg = tg ∧
    lib.localtime take.startedAt = lib.localtime now ∧ safeNode take.nodeId = safeNode nodeId

def Fresh (s : Studio D) : Input → Prop
  | .talk tg _ nodeId now opening =>
    Short lib s tg ∧ (opening ≠ .noFile → ¬ Named lib s tg nodeId now)
  | .audio _ _ => True
  | .release tg => Short lib s tg

end

/-! ## Names tell sessions apart -/

theorem isDigit_padded (width n : Nat) : ∀ c ∈ padded width n, c.isDigit = true :=
  Decimal.isDigit_padded _ n

theorem padded_two {n : Nat} (small : n < 100) : (padded 2 n).length = 2 := by
  have short : (digits n).length ≤ 2 := (Nat.length_toDigits_le_iff (by decide) (by decide)).mpr small
  rw [padded, List.length_append, List.length_replicate]
  omega

/-- Two numbers that are followed by the same sign. -/
theorem sign_end {text text' rest rest' : Text} {sign : Char} (ends : sign.isDigit = false)
    (all : ∀ c ∈ text, c.isDigit = true) (all' : ∀ c ∈ text', c.isDigit = true)
    (same : text ++ sign :: rest = text' ++ sign :: rest') : text = text' ∧ rest = rest' := by
  have stops (rest : Text) : ∀ c ∈ (sign :: rest).head?, c.isDigit = false := by simpa using ends
  obtain ⟨number, behind⟩ := Decimal.digits_end all all' (stops rest) (stops rest') same
  exact ⟨number, (List.cons.inj behind).2⟩

theorem ymd_end {t t' : Tm} {r r' : Text} (same : ymd t ++ '/' :: r = ymd t' ++ '/' :: r') :
    (t.year = t'.year ∧ t.mon = t'.mon ∧ t.mday = t'.mday) ∧ r = r' := by
  simp only [ymd, List.append_assoc, List.cons_append] at same
  obtain ⟨year, same⟩ := sign_end rfl (isDigit_padded 4 t.year) (isDigit_padded 4 t'.year) same
  obtain ⟨mon, same⟩ := sign_end rfl (isDigit_padded 2 t.mon) (isDigit_padded 2 t'.mon) same
  obtain ⟨mday, same⟩ := sign_end rfl (isDigit_padded 2 t.mday) (isDigit_padded 2 t'.mday) same
  exact ⟨⟨Decimal.padded_inj year, Decimal.padded_inj mon, Decimal.padded_inj mday⟩, same⟩

theorem clock_end {t t' : Tm} {r r' : Text}
    (same : padded 2 t.hour ++ (padded 2 t.min ++ padded 2 t.sec) ++ r =
      padded 2 t'.hour ++ (padded 2 t'.min ++ padded 2 t'.sec) ++ r') :
    (t.hour = t'.hour ∧ t.min = t'.min ∧ t.sec = t'.sec) ∧ r = r' := by
  have two (n m : Nat) (small : n < 100) (small' : m < 100) :
      (padded 2 n).length = (padded 2 m).length := by rw [padded_two small, padded_two small']
  simp only [List.append_assoc] at same
  obtain ⟨hour, same⟩ := List.append_inj same (two _ _ t.twoDigits.1 t'.twoDigits.1)
  obtain ⟨min, same⟩ := List.append_inj same (two _ _ t.twoDigits.2.1 t'.twoDigits.2.1)
  obtain ⟨sec, same⟩ := List.append_inj same (two _ _ t.twoDigits.2.2 t'.twoDigits.2.2)
  exact ⟨⟨Decimal.padded_inj hour, Decimal.padded_inj min, Decimal.padded_inj sec⟩, same⟩

/-- The name of a file tells the talkgroup, the local second and what is left of the node's id. -/
theorem relPath_eq_iff {tg tg' : Nat} {t t' : Tm} {nodeId nodeId' : Text} :
    relPath tg t nodeId = relPath tg' t' nodeId' ↔
      tg = tg' ∧ t = t' ∧ safeNode nodeId = safeNode nodeId' := by
  constructor
  next =>
    intro same
    rw [relPath, relPath] at same
    obtain ⟨⟨year, mon, mday⟩, same⟩ := ymd_end same
    have same := (List.cons.inj (List.cons.inj same).2).2
    obtain ⟨tg, same⟩ := sign_end rfl (Decimal.isDigit_toDigits tg) (Decimal.isDigit_toDigits tg')
      same
    obtain ⟨⟨hour, min, sec⟩, same⟩ := clock_end same
    have node := List.append_cancel_right (List.cons.inj same).2
    refine ⟨Decimal.toDigits_inj tg, ?_, node⟩
    cases t
    cases t'
    simp_all
  next =>
    rintro ⟨rfl, rfl, node⟩
    rw [relPath, relPath, node]

end Kerchunk.Reflectd.Recordings
