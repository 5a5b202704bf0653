import Kerchunk.Lib.Octets
import Mathlib.Algebra.Ring.Int.Defs

set_option autoImplicit false

/-!
# WAV files (`src/kerchunk_wav.c`)

A file is its bytes, and the stream behind the file position is what is left of them.
-/

namespace Kerchunk.Wav

open Riff (Byte Chunk littleEndian number number_littleEndian)

abbrev Sample := BitVec 16

def riffId : List Byte := [0x52, 0x49, 0x46, 0x46]
def waveId : List Byte := [0x57, 0x41, 0x56, 0x45]
def fmtId : List Byte := [0x66, 0x6d, 0x74, 0x20]
def dataId : List Byte := [0x64, 0x61, 0x74, 0x61]

def headerSize : Nat := 44
def maxDataSize : Nat := 100 * 1024 * 1024
def maxFmtSize : Nat := 1024

def field (file : List Byte) (offset size : Nat) : Nat :=
  -- A number of the header, which is read from the first bytes of the file.
  number ((file.drop offset).take size)

def samplesOf : List Byte → List Sample
  | low :: high :: rest => BitVec.ofNat 16 (number [low, high]) :: samplesOf rest
  | _ => []

def mixed : List Sample → List Sample
  -- Mix to mono.
  | left :: right :: rest => BitVec.ofInt 16 ((left.toInt + right.toInt).tdiv 2) :: mixed rest
  | _ => []

-- Every round passes eight bytes at least, so the length of the file bounds their number.
def findData : Nat → List Byte → Nat → Nat × List Byte
  -- `data_size` and the stream, where the loop ends.
  | 0, stream, dataSize => (dataSize, stream)
  | rounds + 1, stream, dataSize =>
    if stream.length < 8 then (dataSize, [])
    else if stream.take 4 = dataId then (number ((stream.drop 4).take 4), stream.drop 8)
    else findData rounds (stream.drop (8 + number ((stream.drop 4).take 4))) dataSize

def wavRead (file : List Byte) : Option (List Sample × Int) :=
  let channels := field file 22 2
  if file.length < headerSize then none
  else if file.take 4 ≠ riffId ∨ (file.drop 8).take 4 ≠ waveId then none
  else if field file 20 2 ≠ 1 ∨ field file 34 2 ≠ 16 then none
  else if channels = 0 ∨ 2 < channels then none
  else if maxDataSize < field file 40 4 then none
  else if maxFmtSize < field file 16 4 then none
  else
    let found :=
      if (file.drop 36).take 4 = dataId then (field file 40 4, file.drop headerSize)
      else findData file.length (file.drop (12 + 8 + field file 16 4)) (field file 40 4)
    let samples := found.1 / (channels * 2)
    let total := samples * channels
    if found.2.length < 2 * total then none
    else
      let read := samplesOf (found.2.take (2 * total))
      some (if channels = 1 then read else mixed read, (BitVec.ofNat 32 (field file 24 4)).toInt)

def wavWrite (buf : List Sample) (rate : BitVec 32) : Option (List Byte) :=
  if buf = [] ∨ rate.toInt ≤ 0 then none
  else
    let dataSize := buf.length * 2 % 4294967296
    some
      (riffId ++ littleEndian 4 (dataSize + headerSize - 8) ++ waveId ++
        (fmtId ++ littleEndian 4 16 ++ littleEndian 2 1 ++ littleEndian 2 1 ++
          littleEndian 4 rate.toNat ++ littleEndian 4 (rate.toNat * 2) ++ littleEndian 2 2 ++
          littleEndian 2 16) ++
        (dataId ++ littleEndian 4 dataSize) ++ buf.flatMap fun s => littleEndian 2 s.toNat)

/-! ## Well-formed files -/

/-- A format chunk that says 16-bit PCM. -/
structure Format where
  channels : Nat
  rate : BitVec 32
  byteRate : BitVec 32
  blockAlign : BitVec 16
  extension : List Byte
  pad : Byte
  some : 0 < channels
  fits : channels < 65536

def Format.chunk (f : Format) : Chunk where
  id := fmtId
  body :=
    littleEndian 2 1 ++ littleEndian 2 f.channels ++ littleEndian 4 f.rate.toNat ++
      littleEndian 4 f.byteRate.toNat ++ littleEndian 2 f.blockAlign.toNat ++ littleEndian 2 16 ++
      f.extension
  pad := f.pad
  four := rfl

def frameBytes {channels : Nat} (frame : Vector Sample channels) : List Byte :=
  frame.toList.flatMap fun s => littleEndian 2 s.toNat

def dataChunk {channels : Nat} (frames : List (Vector Sample channels)) : Chunk where
  id := dataId
  body := frames.flatMap frameBytes
  pad := 0
  four := rfl

def chunkList (fmt : Format) (before between after : List Chunk)
    (frames : List (Vector Sample fmt.channels)) : List Byte :=
  before.flatMap Chunk.bytes ++ fmt.chunk.bytes ++ between.flatMap Chunk.bytes ++
    (dataChunk frames).bytes ++ after.flatMap Chunk.bytes

/-- A format chunk, a data chunk behind it, and any other chunks around them. -/
structure WavFile where
  fmt : Format
  frames : List (Vector Sample fmt.channels)
  before : List Chunk
  between : List Chunk
  after : List Chunk
  others : ∀ c ∈ before ++ between ++ after, c.id ≠ fmtId ∧ c.id ≠ dataId
  fits : 4 + (chunkList fmt before between after frames).length < 4294967296

namespace WavFile

def chunks (f : WavFile) : List Byte :=
  chunkList f.fmt f.before f.between f.after f.frames

def bytes (f : WavFile) : List Byte :=
  riffId ++ littleEndian 4 (4 + f.chunks.length) ++ waveId ++ f.chunks

end WavFile

/-- The mean of a frame's samples; of one sample, the sample. -/
def monoOf {channels : Nat} (frame : Vector Sample channels) : Sample :=
  BitVec.ofInt 16 ((frame.toList.map BitVec.toInt).sum.tdiv channels)

def WavFile.content (f : WavFile) : List Sample × Int :=
  (f.frames.map monoOf, f.fmt.rate.toNat)

/-!
## What is read of a file, and of one that was written

The walk from the format to the data adds up the sizes of the chunks; it passes no padding.
-/

namespace WavFile

/-- The format stands first and the walk from it to the data meets no padding. Four bytes of a
longer format do not read as the header of the data. -/
structure Straight (f : WavFile) : Prop where
  first : f.before = []
  formatEven : f.fmt.extension.length % 2 = 0
  betweenEven : ∀ c ∈ f.between, c.body.length % 2 = 0
  header : f.fmt.extension = [] ∨ (f.bytes.drop 36).take 4 ≠ dataId

/-- What the code takes. The last limit is on the number in the place of a data size. -/
structure Within (f : WavFile) : Prop where
  channels : f.fmt.channels ≤ 2
  rate : f.fmt.rate.toNat < 2147483648
  format : 16 + f.fmt.extension.length ≤ maxFmtSize
  size : field f.bytes 40 4 ≤ maxDataSize

end WavFile

/-! ### Samples -/

theorem samplesOf_bytes (samples : List Sample) :
    samplesOf (samples.flatMap fun s => littleEndian 2 s.toNat) = samples := by
  induction samples with
  | nil => rfl
  | cons s rest ih =>
    have value : BitVec.ofNat 16 (number (littleEndian 2 s.toNat)) = s := by
      rw [number_littleEndian]
      apply BitVec.eq_of_toNat_eq
      have words : 256 ^ 2 = 2 ^ 16 := by decide
      rw [BitVec.toNat_ofNat, words, Nat.mod_mod, Nat.mod_eq_of_lt s.isLt]
    rw [List.flatMap_cons]
    change BitVec.ofNat 16 (number (littleEndian 2 s.toNat)) ::
      samplesOf (rest.flatMap fun s => littleEndian 2 s.toNat) = s :: rest
    rw [value, ih]

theorem samplesOf_length (bytes : List Byte) : (samplesOf bytes).length = bytes.length / 2 := by
  induction bytes using samplesOf.induct with
  | case1 low high rest ih =>
    rw [samplesOf, List.length_cons, ih, List.length_cons, List.length_cons]
    omega
  | case2 bytes short =>
    match bytes, short with
    | [], _ => simp [samplesOf]
    | [b], _ => simp [samplesOf]
    | low :: high :: rest, short => exact absurd rfl (short low high rest)

section Frames

variable {channels : Nat} (frames : List (Vector Sample channels))

theorem body_samples : (dataChunk frames).body =
    (frames.flatMap Vector.toList).flatMap fun s => littleEndian 2 s.toNat := by
  rw [List.flatMap_assoc]
  rfl

theorem samples_length : (frames.flatMap Vector.toList).length = channels * frames.length := by
  induction frames with
  | nil => simp
  | cons frame rest ih =>
    rw [List.flatMap_cons, List.length_append, ih, Vector.length_toList, List.length_cons,
      Nat.mul_succ, Nat.add_comm]

theorem body_length : (dataChunk frames).body.length = 2 * (channels * frames.length) := by
  rw [body_samples, List.length_flatMap, ← samples_length frames]
  simp [Nat.mul_comm]

theorem mono_one (one : channels = 1) : frames.flatMap Vector.toList = frames.map monoOf := by
  subst one
  induction frames with
  | nil => rfl
  | cons frame rest ih =>
    have single : frame.toList = [frame[0]] := by
      refine List.ext_getElem (by simp) fun i low _ => ?_
      obtain rfl : i = 0 := by simpa using low
      simp
    have mean : monoOf frame = frame[0] := by
      simp [monoOf, single]
    rw [List.flatMap_cons, List.map_cons, ih, single, mean]
    rfl

theorem mono_two (two : channels = 2) :
    mixed (frames.flatMap Vector.toList) = frames.map monoOf := by
  subst two
  induction frames with
  | nil => rfl
  | cons frame rest ih =>
    have pair : frame.toList = [frame[0], frame[1]] := by
      refine List.ext_getElem (by simp) fun i low _ => ?_
      have small : i < 2 := by simpa using low
      have cases : i = 0 ∨ i = 1 := by omega
      rcases cases with rfl | rfl <;> simp
    have mean : monoOf frame = BitVec.ofInt 16 ((frame[0].toInt + frame[1].toInt).tdiv 2) := by
      simp [monoOf, pair]
    rw [List.flatMap_cons, List.map_cons, pair, mean, ← ih]
    rfl

end Frames

/-! ### The header -/

section Header

variable (riffSize fmtSize format channels rate byteRate blockAlign bits : Nat) (tail : List Byte)

/-- The first 36 bytes, with what stands behind them. -/
def headed : List Byte :=
  riffId ++ (littleEndian 4 riffSize ++ (waveId ++ (fmtId ++ (littleEndian 4 fmtSize ++
    (littleEndian 2 format ++ (littleEndian 2 channels ++ (littleEndian 4 rate ++
      (littleEndian 4 byteRate ++ (littleEndian 2 blockAlign ++ (littleEndian 2 bits ++ tail))))))))))

variable {riffSize fmtSize format channels rate byteRate blockAlign bits tail}

theorem headed_fields :
    let file := headed riffSize fmtSize format channels rate byteRate blockAlign bits tail
    file.take 4 = riffId ∧ (file.drop 8).take 4 = waveId ∧ field file 16 4 = fmtSize % 4294967296 ∧
      field file 20 2 = format % 65536 ∧ field file 22 2 = channels % 65536 ∧
      field file 24 4 = rate % 4294967296 ∧ field file 34 2 = bits % 65536 ∧
      file.drop 36 = tail ∧ file.length = 36 + tail.length := by
  refine ⟨rfl, rfl, number_littleEndian 4 _, number_littleEndian 2 _, number_littleEndian 2 _,
    number_littleEndian 4 _, number_littleEndian 2 _, rfl, ?_⟩
  simp only [headed, List.length_append, Riff.littleEndian_length]
  rw [show riffId.length = 4 from rfl, show waveId.length = 4 from rfl,
    show fmtId.length = 4 from rfl]
  omega

/-- What is read of a file whose header says 16-bit PCM. -/
theorem wavRead_headed (file : List Byte)
    (same : file = headed riffSize fmtSize 1 channels rate byteRate blockAlign 16 tail)
    (room : 8 ≤ tail.length) (some : 0 < channels) (fits : channels < 65536)
    (rateFits : rate < 4294967296) (sizeFits : fmtSize < 4294967296) :
    wavRead file =
      if 2 < channels ∨ maxDataSize < field file 40 4 ∨ maxFmtSize < fmtSize then none
      else
        let found :=
          if tail.take 4 = dataId then (field file 40 4, tail.drop 8)
          else findData file.length (file.drop (20 + fmtSize)) (field file 40 4)
        let total := found.1 / (channels * 2) * channels
        if found.2.length < 2 * total then none
        else
          Option.some
            (if channels = 1 then samplesOf (found.2.take (2 * total))
              else mixed (samplesOf (found.2.take (2 * total))),
            (BitVec.ofNat 32 rate).toInt) := by
  obtain ⟨riff, wave, size, format, count, speed, bits, behind, long⟩ :=
    @headed_fields riffSize fmtSize 1 channels rate byteRate blockAlign 16 tail
  rw [← same] at riff wave size format count speed bits behind long
  rw [Nat.mod_eq_of_lt sizeFits] at size
  rw [Nat.mod_eq_of_lt fits] at count
  rw [Nat.mod_eq_of_lt rateFits] at speed
  have stream : file.drop headerSize = tail.drop 8 := by
    rw [← behind, List.drop_drop]
    rfl
  unfold wavRead
  simp only [riff, wave, size, format, count, speed, bits, behind, stream]
  rw [if_neg (by simp only [headerSize]; omega)]
  rw [if_neg (by simp), if_neg (by simp)]
  by_cases many : 2 < channels
  next => rw [if_pos (.inr many), if_pos (.inl many)]
  next =>
    rw [if_neg (by omega)]
    by_cases large : maxDataSize < field file 40 4
    next => rw [if_pos large, if_pos (.inr (.inl large))]
    next =>
      rw [if_neg large]
      by_cases long : maxFmtSize < fmtSize
      next => rw [if_pos long, if_pos (.inr (.inr long))]
      next =>
        have taken : ¬ (2 < channels ∨ maxDataSize < field file 40 4 ∨ maxFmtSize < fmtSize) := by
          simp [many, large, long]
        rw [if_neg long, if_neg taken]

end Header

/-! ### The walk -/

theorem chunk_head (c : Chunk) (tail : List Byte) : (c.bytes ++ tail).take 4 = c.id ∧
    ((c.bytes ++ tail).drop 4).take 4 = littleEndian 4 c.body.length := by
  have four := c.four
  simp only [Chunk.bytes, List.append_assoc]
  constructor
  next => rw [← four, List.take_left]
  next =>
    rw [← four, List.drop_left, four, List.take_append_of_le_length (by simp),
      List.take_of_length_le (by simp)]

/-- Chunks that end where their bodies do are passed one after the other. -/
theorem findData_passes (between : List Chunk) (data : Chunk) (rest : List Byte) (size rounds : Nat)
    (enough : between.length < rounds) (named : data.id = dataId)
    (even : ∀ c ∈ between, c.body.length % 2 = 0) (other : ∀ c ∈ between, c.id ≠ dataId)
    (fits : (between.flatMap Chunk.bytes ++ data.bytes ++ rest).length < 4294967296) :
    findData rounds (between.flatMap Chunk.bytes ++ (data.bytes ++ rest)) size =
      (data.body.length, (data.bytes ++ rest).drop 8) := by
  induction between generalizing rounds with
  | nil =>
    obtain ⟨more, rfl⟩ : ∃ more, rounds = more + 1 := ⟨rounds - 1, by simp at enough; omega⟩
    have long := data.bytes_length
    simp only [List.flatMap_nil, List.nil_append, List.length_append] at fits ⊢
    rw [findData, if_neg (by simp; omega), (chunk_head data rest).1, if_pos named, (chunk_head data rest).2,
      number_littleEndian, Nat.mod_eq_of_lt (by omega)]
  | cons c between ih =>
    obtain ⟨more, rfl⟩ : ∃ more, rounds = more + 1 := ⟨rounds - 1, by simp at enough; omega⟩
    obtain ⟨evenC, evenRest⟩ := List.forall_mem_cons.mp even
    obtain ⟨otherC, otherRest⟩ := List.forall_mem_cons.mp other
    have long := c.bytes_length
    have past : (c.bytes ++ (between.flatMap Chunk.bytes ++ (data.bytes ++ rest))).drop
        (8 + c.body.length) = between.flatMap Chunk.bytes ++ (data.bytes ++ rest) := by
      have exact : 8 + c.body.length = c.bytes.length := by
        rw [Chunk.bytes_even evenC, List.length_append, List.length_append, c.four,
          Riff.littleEndian_length]
      rw [exact, List.drop_left]
    simp only [List.flatMap_cons, List.append_assoc, List.length_append] at fits ⊢
    rw [findData, if_neg (by simp; omega), (chunk_head c _).1, if_neg otherC, (chunk_head c _).2,
      number_littleEndian, Nat.mod_eq_of_lt (by omega), past]
    refine ih more (by simp at enough; omega) evenRest otherRest ?_
    simp only [List.append_assoc, List.length_append]
    omega

/-! ### Reading -/

section Reading

variable {f : WavFile}

def afterFormat (f : WavFile) : List Byte :=
  f.between.flatMap Chunk.bytes ++ ((dataChunk f.frames).bytes ++ f.after.flatMap Chunk.bytes)

theorem formatBody_length (fmt : Format) : fmt.chunk.body.length = 16 + fmt.extension.length := by
  simp only [Format.chunk, List.length_append, Riff.littleEndian_length]

theorem bytes_headed (straight : f.Straight) :
    f.bytes = headed (4 + f.chunks.length) (16 + f.fmt.extension.length) 1 f.fmt.channels
      f.fmt.rate.toNat f.fmt.byteRate.toNat f.fmt.blockAlign.toNat 16
      (f.fmt.extension ++ afterFormat f) := by
  have size := formatBody_length f.fmt
  have whole : f.chunks = f.fmt.chunk.bytes ++ afterFormat f := by
    simp only [WavFile.chunks, chunkList, straight.first, afterFormat, List.flatMap_nil,
      List.nil_append, List.append_assoc]
  have even := straight.formatEven
  rw [WavFile.bytes]
  generalize 4 + f.chunks.length = riffSize
  rw [whole, Chunk.bytes_even (by omega), size]
  simp only [Format.chunk, headed, List.append_assoc]

theorem afterFormat_fits (f : WavFile) : (afterFormat f).length < 4294967296 := by
  have fits := f.fits
  simp only [chunkList, List.length_append] at fits
  simp only [afterFormat, List.length_append]
  omega

theorem length_le_bytes (chunks : List Chunk) :
    chunks.length ≤ (chunks.flatMap Chunk.bytes).length := by
  induction chunks with
  | nil => exact Nat.zero_le _
  | cons c rest ih =>
    have long := c.bytes_length
    rw [List.flatMap_cons, List.length_append, List.length_cons]
    omega

/-- The stream that the code comes to, and the size that it has there. -/
theorem found_data (straight : f.Straight) :
    (if (f.fmt.extension ++ afterFormat f).take 4 = dataId then
        (field f.bytes 40 4, (f.fmt.extension ++ afterFormat f).drop 8)
      else findData f.bytes.length (f.bytes.drop (20 + (16 + f.fmt.extension.length)))
        (field f.bytes 40 4)) =
      ((dataChunk f.frames).body.length,
        ((dataChunk f.frames).bytes ++ f.after.flatMap Chunk.bytes).drop 8) := by
  have fits := afterFormat_fits f
  have behind : f.bytes.drop 36 = f.fmt.extension ++ afterFormat f := by
    rw [bytes_headed straight]
    exact headed_fields.2.2.2.2.2.2.2.1
  have others (c : Chunk) (member : c ∈ f.between) : c.id ≠ dataId :=
    (f.others c (List.mem_append_left _ (List.mem_append_right _ member))).2
  by_cases named : (f.fmt.extension ++ afterFormat f).take 4 = dataId
  next =>
    have plain : f.fmt.extension = [] := by
      rcases straight.header with plain | different
      next => exact plain
      next => exact absurd (behind ▸ named) different
    have next : f.between = [] := by
      by_contra some
      obtain ⟨c, rest, between⟩ := List.exists_cons_of_ne_nil some
      refine others c (between ▸ List.mem_cons_self) ?_
      rw [plain, List.nil_append, afterFormat, between, List.flatMap_cons, List.append_assoc,
        (chunk_head c _).1] at named
      exact named
    have long := (dataChunk f.frames).bytes_length
    have stream : afterFormat f = (dataChunk f.frames).bytes ++ f.after.flatMap Chunk.bytes := by
      rw [afterFormat, next]
      rfl
    have size : field f.bytes 40 4 = (dataChunk f.frames).body.length := by
      rw [stream, List.length_append] at fits
      rw [field, show 40 = 36 + 4 from rfl, ← List.drop_drop, behind, plain, List.nil_append, stream,
        (chunk_head _ _).2, number_littleEndian, Nat.mod_eq_of_lt (by omega)]
    rw [if_pos named, size, plain, List.nil_append, stream]
  next =>
    have past : f.bytes.drop (20 + (16 + f.fmt.extension.length)) = afterFormat f := by
      rw [← Nat.add_assoc, ← List.drop_drop, behind, List.drop_left]
    have enough : f.between.length < f.bytes.length := by
      have long := headed_fields.2.2.2.2.2.2.2.2 ▸ congrArg List.length (bytes_headed straight)
      have counted := length_le_bytes f.between
      simp only [afterFormat, List.length_append] at long
      omega
    rw [if_neg named, past, afterFormat]
    refine findData_passes f.between (dataChunk f.frames) _ _ _ enough rfl straight.betweenEven others ?_
    simpa only [afterFormat, List.append_assoc] using fits

theorem data_stream (f : WavFile) :
    ((dataChunk f.frames).bytes ++ f.after.flatMap Chunk.bytes).drop 8 =
      (dataChunk f.frames).body ++ f.after.flatMap Chunk.bytes := by
  have length := body_length f.frames
  rw [Chunk.bytes_even (by omega), List.append_assoc, List.append_assoc]
  rfl

theorem read_iff (straight : f.Straight) : wavRead f.bytes = some f.content ↔ f.Within := by
  have count := f.fmt.some
  have length := body_length f.frames
  have fits := f.fits
  have small : 16 + f.fmt.extension.length < 4294967296 := by
    have size := formatBody_length f.fmt
    have long := f.fmt.chunk.bytes_length
    simp only [chunkList, List.length_append] at fits
    omega
  have room : 8 ≤ (f.fmt.extension ++ afterFormat f).length := by
    have long := (dataChunk f.frames).bytes_length
    simp only [afterFormat, List.length_append]
    omega
  rw [wavRead_headed f.bytes (bytes_headed straight) room count f.fmt.fits f.fmt.rate.isLt small,
    found_data straight]
  have frames : (dataChunk f.frames).body.length / (f.fmt.channels * 2) = f.frames.length := by
    rw [length, Nat.mul_comm 2, Nat.mul_assoc, Nat.mul_comm f.frames.length, ← Nat.mul_assoc]
    exact Nat.mul_div_cancel_left _ (by omega)
  simp only [frames, data_stream, Nat.mul_comm f.frames.length, ← length]
  have whole : ((dataChunk f.frames).body ++ f.after.flatMap Chunk.bytes).take
      (dataChunk f.frames).body.length = (dataChunk f.frames).body := List.take_left
  rw [whole, body_samples, samplesOf_bytes]
  by_cases refused : 2 < f.fmt.channels ∨ maxDataSize < field f.bytes 40 4 ∨
      maxFmtSize < 16 + f.fmt.extension.length
  next =>
    rw [if_pos refused]
    refine ⟨fun none => by simp at none, fun within => ?_⟩
    rcases refused with many | large | long
    next => exact absurd within.channels (by omega)
    next => exact absurd within.size (by omega)
    next => exact absurd within.format (by omega)
  next =>
    have mono : (if f.fmt.channels = 1 then f.frames.flatMap Vector.toList
        else mixed (f.frames.flatMap Vector.toList)) = f.frames.map monoOf := by
      by_cases one : f.fmt.channels = 1
      next => rw [if_pos one, mono_one _ one]
      next => rw [if_neg one, mono_two _ (by omega)]
    have speed : (BitVec.ofNat 32 f.fmt.rate.toNat).toInt = (f.fmt.rate.toNat : Int) ↔
        f.fmt.rate.toNat < 2147483648 := by
      have wide := f.fmt.rate.isLt
      rw [BitVec.ofNat_toNat, BitVec.setWidth_eq, BitVec.toInt_eq_toNat_cond]
      split <;> omega
    rw [if_neg refused, if_neg (by simp), mono, WavFile.content, Option.some_inj, Prod.mk.injEq,
      speed]
    refine ⟨fun same => ⟨by omega, same.2, by omega, by omega⟩, fun within => ⟨rfl, within.rate⟩⟩

end Reading

/-! ### Writing -/

/-- The header's sizes are right up to a hundred megabytes, and longer data is not read back. -/
theorem written_iff {buf : List Sample} {rate : BitVec 32} {file : List Byte}
    (written : wavWrite buf rate = some file) :
    wavRead file = some (buf, rate.toInt) ↔ 2 * buf.length ≤ maxDataSize := by
  unfold wavWrite at written
  split at written
  next => simp at written
  next accepted =>
    have headedFile : file = headed (2 * buf.length % 4294967296 + 36) 16 1 1 rate.toNat
        (rate.toNat * 2) 2 16 (dataId ++ (littleEndian 4 (2 * buf.length % 4294967296) ++
          buf.flatMap fun s => littleEndian 2 s.toNat)) := by
      rw [← Option.some.inj written]
      simp only [headed, List.append_assoc, Nat.mul_comm buf.length]
      rfl
    have long : (buf.flatMap fun s => littleEndian 2 s.toNat).length = 2 * buf.length := by
      rw [List.length_flatMap]
      simp [Nat.mul_comm]
    have size : field file 40 4 = 2 * buf.length % 4294967296 := by
      have behind : file.drop 36 = _ := headedFile ▸ headed_fields.2.2.2.2.2.2.2.1
      rw [field, show 40 = 36 + 4 from rfl, ← List.drop_drop, behind]
      refine (number_littleEndian 4 _).trans ?_
      exact Nat.mod_mod _ _
    have eight : 8 ≤ (dataId ++ (littleEndian 4 (2 * buf.length % 4294967296) ++
        buf.flatMap fun s => littleEndian 2 s.toNat)).length := by
      simp only [List.length_append, Riff.littleEndian_length]
      rw [show dataId.length = 4 from rfl]
      omega
    rw [wavRead_headed file headedFile eight (by omega) (by omega) rate.isLt (by omega), size]
    generalize sized : 2 * buf.length % 4294967296 = dataSize
    have named : (dataId ++ (littleEndian 4 dataSize ++
        buf.flatMap fun s => littleEndian 2 s.toNat)).take 4 = dataId := rfl
    have stream : (dataId ++ (littleEndian 4 dataSize ++
        buf.flatMap fun s => littleEndian 2 s.toNat)).drop 8 =
          buf.flatMap fun s => littleEndian 2 s.toNat := rfl
    by_cases large : maxDataSize < dataSize
    next =>
      rw [if_pos (.inr (.inl large))]
      refine ⟨fun none => by simp at none, fun fits => absurd large ?_⟩
      omega
    next =>
      have total : 2 * (dataSize / (1 * 2) * 1) = dataSize := by omega
      have enough : ¬ (buf.flatMap fun s => littleEndian 2 s.toNat).length < dataSize := by omega
      have taken : ¬ (2 < 1 ∨ maxDataSize < dataSize ∨ maxFmtSize < 16) := by
        simp [large, maxFmtSize]
      rw [if_neg taken]
      simp only [named, stream, if_true, total, if_neg enough]
      constructor
      next =>
        intro same
        have same := congrArg List.length (Prod.mk.inj (Option.some.inj same)).1
        rw [samplesOf_length, List.length_take, long] at same
        omega
      next =>
        intro fits
        have whole : dataSize = 2 * buf.length := by
          unfold maxDataSize at fits
          omega
        rw [whole, ← long, List.take_length, samplesOf_bytes, BitVec.ofNat_toNat, BitVec.setWidth_eq]

/-- A file that the code can follow is read as its data within the limits, and a file that was
written is read back up to a hundred megabytes. -/
theorem wavRead_iff {f : WavFile} (straight : f.Straight) {buf : List Sample} {rate : BitVec 32}
    {file : List Byte} (written : wavWrite buf rate = some file) :
    (wavRead f.bytes = some f.content ↔ f.Within) ∧
      (wavRead file = some (buf, rate.toInt) ↔ 2 * buf.length ≤ maxDataSize) :=
  ⟨read_iff straight, written_iff written⟩

/-! ### An odd chunk before the data -/

def note : Chunk where
  id := [0x4c, 0x49, 0x53, 0x54]
  body := [0x21]
  pad := 0
  four := rfl

theorem one_fits : 1 < 65536 := by
  decide

def speech : Format where
  channels := 1
  rate := 8000
  byteRate := 16000
  blockAlign := 2
  extension := []
  pad := 0
  some := Nat.one_pos
  fits := one_fits

def plainFile : WavFile where
  fmt := speech
  frames := [#v[5], #v[7]]
  before := []
  between := []
  after := [note]
  others := by decide
  fits := by decide

def notedFile : WavFile where
  fmt := speech
  frames := [#v[5], #v[7]]
  before := []
  between := [note]
  after := []
  others := by decide
  fits := by decide

theorem wavRead_iff_plain :
    (wavRead plainFile.bytes = some plainFile.content ↔ plainFile.Within) ∧
      ∃ file, wavWrite [5, 7] 8000 = some file ∧ wavRead file = some ([5, 7], 8000) := by
  have straight : plainFile.Straight :=
    ⟨rfl, rfl, by simp [plainFile], .inl rfl⟩
  have written : (wavWrite [5, 7] 8000).isSome = true := by decide
  obtain ⟨file, written⟩ := Option.isSome_iff_exists.mp written
  obtain ⟨read, back⟩ := wavRead_iff straight written
  exact ⟨read, file, written, back.mpr (by decide)⟩

/-- The padding of a chunk shifts the walk, which then finds no data. -/
theorem odd_chunk_lost : ¬ ∀ f : WavFile, wavRead f.bytes = some f.content := by
  intro all
  have lost : wavRead notedFile.bytes ≠ some notedFile.content := by decide
  exact lost (all notedFile)


end Kerchunk.Wav
