import Kerchunk.Cdr.CsvRow
import Kerchunk.Lib.JsonEscape

set_option autoImplicit false

/-!
# Call records on the dashboard (`handle_admin_api_cdr` in `modules/mod_web.c`)

The records that the module wrote in a day, and what the dashboard is sent of that day's file.
-/

namespace Kerchunk.Cdr.WebApi

open Config
open Machine (Guarded run)

/-! ## The handler -/

def jsonEscapeFrom : Nat → Text → Text
  -- `json_escape_str`, with so much of the buffer left, less two characters.
  | 0, _ => []
  | _ + 1, [] => []
  | room + 1, c :: rest =>
    if c = doubleQuote ∨ c = '\\' then '\\' :: c :: jsonEscapeFrom (room - 1) rest
    else if c = newline then '\\' :: 'n' :: jsonEscapeFrom (room - 1) rest
    else if c = carriageReturn then '\\' :: 'r' :: jsonEscapeFrom (room - 1) rest
    else if c = Json.tab then '\\' :: 't' :: jsonEscapeFrom (room - 1) rest
    -- Other control characters are skipped.
    else if c.toNat < 0x20 then jsonEscapeFrom (room + 1) rest
    else c :: jsonEscapeFrom room rest

def jsonEscapeStr (text : Text) (max : Nat) : Text :=
  jsonEscapeFrom (max - 2) text

/-- What is printed of a row. -/
structure ApiRow where
  ts : Text
  time : Text
  userId : Text
  userName : Text
  method : Text
  durationS : Text
  emergency : Bool
  avgRms : Text
  peakRms : Text
  recording : Text
deriving DecidableEq

def integerText (text : Text) : Bool :=
  text.all fun c => c.isDigit || c = '-'

def printedRow (ts time userId userName method durationS emergency avgRms peakRms recording : Text) :
    ApiRow where
  ts := ts
  time := time
  userId := userId
  userName := jsonEscapeStr userName 96
  method := jsonEscapeStr method 32
  durationS := durationS
  emergency := emergency.head? = some '1'
  avgRms := avgRms
  peakRms := peakRms
  recording := jsonEscapeStr recording 1024

def apiRow (line : Text) : Option ApiRow :=
  match csvSplitRow 12 (cstr line) with
  | ts :: _ :: time :: userId :: userName :: method :: durationS :: emergency :: avgRms :: peakRms ::
      recording :: _ =>
    if integerText avgRms && integerText peakRms then
      some (printedRow ts time userId userName method durationS emergency avgRms peakRms recording)
    else none
  | _ => none

def rowText (first : Bool) (row : ApiRow) : Text :=
  (if first then [] else [',']) ++ "\x7b\"ts\":".toList ++ row.ts ++ ",\"time\":\"".toList ++
    row.time ++ "\",\"user_id\":".toList ++ row.userId ++ ",\"user_name\":\"".toList ++
    row.userName ++ "\",\"method\":\"".toList ++ row.method ++ "\",\"duration_s\":".toList ++
    row.durationS ++ ",\"emergency\":".toList ++
    (if row.emergency then "true".toList else "false".toList) ++ ",\"avg_rms\":".toList ++
    row.avgRms ++ ",\"peak_rms\":".toList ++ row.peakRms ++ ",\"recording\":\"".toList ++
    row.recording ++ "\"\x7d".toList

-- The response always has room for a row: `rowText_fits`.
def apiRows (csv : Option Text) : List ApiRow :=
  -- The first line is the header. Without a file there are no rows.
  match csv with
  | some text => (chunks text).tail.filterMap apiRow
  | none => []

/-! ## What its client reads -/

/-- The values of a row; numbers as they are written. -/
structure Shown where
  ts : Text
  time : Text
  userId : Text
  userName : Text
  method : Text
  durationS : Text
  emergency : Bool
  avgRms : Text
  peakRms : Text
  recording : Text
deriving DecidableEq

def readText (escaped : Text) : Option Text :=
  -- The string that stands between two quotes.
  match Json.readString (escaped.length + 2) (escaped ++ ['"']) with
  | some (text, []) => some text
  | _ => none

def ApiRow.read (row : ApiRow) : Option Shown :=
  match readText row.time, readText row.userName, readText row.method, readText row.recording with
  | some time, some userName, some method, some recording =>
    some
      { ts := row.ts
        time := time
        userId := row.userId
        userName := userName
        method := method
        durationS := row.durationS
        emergency := row.emergency
        avgRms := row.avgRms
        peakRms := row.peakRms
        recording := recording }
  | _, _, _, _ => none

/-! ## What the module wrote -/

structure Record where
  clock : Clock
  userId : Int
  userName : Text
  method : Text
  tenths : Int
  emergency : Bool
  avgRms : Nat
  peakRms : Nat
  recording : Text
  cleanName : nul ∉ userName
  cleanMethod : nul ∉ method
  cleanRecording : nul ∉ recording

def Record.shown (r : Record) : Shown where
  ts := intText r.clock.now
  time := timeText r.clock
  userId := intText r.userId
  userName := r.userName
  method := r.method
  durationS := tenthsText r.tenths
  emergency := r.emergency
  avgRms := digits r.avgRms
  peakRms := digits r.peakRms
  recording := r.recording

def callRecord (s : State) (clock : Clock) : Record where
  clock := clock
  userId := s.userId
  userName := cstr s.callName
  method := cstr (orUnknown s.method)
  tenths := 10 * s.duration clock
  emergency := s.emergency
  avgRms := s.avgRms
  peakRms := s.sqPeakRms
  recording := cstr s.recording
  cleanName := nul_cstr _
  cleanMethod := nul_cstr _
  cleanRecording := nul_cstr _

def txRecord (clock : Clock) (tenths : Int) (emergency : Bool) (path : Text) : Record where
  clock := clock
  userId := 0
  userName := "transmit".toList
  method := "TX".toList
  tenths := tenths
  emergency := emergency
  avgRms := 0
  peakRms := 0
  recording := cstr path
  cleanName := by decide
  cleanMethod := by decide
  cleanRecording := nul_cstr _

def announcementRecord (clock : Clock) (source description : Text) : Record where
  clock := clock
  userId := 0
  userName := "system".toList
  method := cstr source
  tenths := 0
  emergency := false
  avgRms := 0
  peakRms := 0
  recording := cstr description
  cleanName := by decide
  cleanMethod := nul_cstr _
  cleanRecording := nul_cstr _

def wrote (s : State) : Input → List Record
  -- The records that a step adds to the file.
  | .corDrop clock .whole => if s.enabled && s.inCall then [callRecord s clock] else []
  | .recordingSaved (some direction) (some path) clock tenths emergency .whole =>
    if cstr direction = "TX".toList && s.enabled then [txRecord clock tenths emergency path] else []
  | .announcement source description clock .whole =>
    if s.enabled then [announcementRecord clock (source.getD []) (description.getD [])] else []
  | .restart true clock .whole _ => if s.inCall then [callRecord s clock] else []
  | _ => []

def records (day : Day) : State → List Input → List Record
  | _, [] => []
  | s, i :: inputs => wrote s i ++ records day (step day s i) inputs

def Faithful (csv : Option Text) (log : List Record) : Prop :=
  -- The dashboard's rows are the records.
  (apiRows csv).map ApiRow.read = log.map fun r => some r.shown

instance (csv : Option Text) (log : List Record) : Decidable (Faithful csv log) :=
  inferInstanceAs (Decidable (_ = _))

/-! ## What it takes -/

structure Legible (max : Nat) (text : Text) : Prop where
  writable : ∀ c ∈ text, Json.writable c = true
  fits : Json.Fits (max - 2) text
  oneLine : newline ∉ text

def beforeBreak (text : Text) : Text :=
  text.takeWhile (· ≠ newline)

def afterBreak (text : Text) : Text :=
  (text.dropWhile (· ≠ newline)).tail

/-- A text with a line break gets through when what follows the break is just what the unescaping of
what precedes it leaves behind, and makes no row of its own. -/
structure Lucky (text : Text) : Prop where
  same : Json.kept 1022 (beforeBreak text ++ newline :: leftover (beforeBreak text)) = text
  noRow : ∀ line ∈ chunks (doubled (afterBreak text) ++ [doubleQuote, newline]), apiRow line = none

structure Readable (r : Record) : Prop where
  name : Legible 96 r.userName
  method : Legible 32 r.method
  writable : ∀ c ∈ r.recording, Json.writable c = true
  fits : Json.Fits 1022 r.recording
  recording : newline ∈ r.recording → Lucky r.recording

instance (max : Nat) (text : Text) : Decidable (Legible max text) :=
  decidable_of_iff (text.all Json.writable = true ∧ Json.Fits (max - 2) text ∧ newline ∉ text)
    ⟨fun holds => ⟨List.all_eq_true.mp holds.1, holds.2.1, holds.2.2⟩,
      fun legible => ⟨List.all_eq_true.mpr legible.writable, legible.fits, legible.oneLine⟩⟩

instance (text : Text) : Decidable (Lucky text) :=
  decidable_of_iff (Json.kept 1022 (beforeBreak text ++ newline :: leftover (beforeBreak text)) =
      text ∧ ∀ line ∈ chunks (doubled (afterBreak text) ++ [doubleQuote, newline]),
        apiRow line = none)
    ⟨fun holds => ⟨holds.1, holds.2⟩, fun lucky => ⟨lucky.same, lucky.noRow⟩⟩

instance (r : Record) : Decidable (Readable r) :=
  decidable_of_iff (Legible 96 r.userName ∧ Legible 32 r.method ∧
      r.recording.all Json.writable = true ∧ Json.Fits 1022 r.recording ∧
        (newline ∈ r.recording → Lucky r.recording))
    ⟨fun holds => ⟨holds.1, holds.2.1, List.all_eq_true.mp holds.2.2.1, holds.2.2.2.1,
        holds.2.2.2.2⟩,
      fun readable => ⟨readable.name, readable.method, List.all_eq_true.mpr readable.writable,
        readable.fits, readable.recording⟩⟩

/-! ## Numbers of the machine -/

/-- More than any number type of the source can hold. -/
def bound : Nat := 10 ^ 40

structure SmallDay (day : Day) : Prop where
  year : day.year < bound
  mon : day.mon < bound
  mday : day.mday < bound

structure SmallClock (clock : Clock) : Prop where
  now : clock.now.natAbs < 10 ^ 30
  hour : clock.hour < bound
  min : clock.min < bound
  sec : clock.sec < bound

def Ordinary : Input → Prop
  -- The numbers are machine numbers, and no write fails half way.
  | .corAssert clock _ => SmallClock clock
  | .corDrop clock append => SmallClock clock ∧ ∀ bytes, append ≠ .cut bytes
  | .callerIdentified userId _ _ => userId.natAbs < bound
  | .recordingSaved _ _ clock tenths _ append =>
    SmallClock clock ∧ tenths.natAbs < bound ∧ ∀ bytes, append ≠ .cut bytes
  | .announcement _ _ clock append => SmallClock clock ∧ ∀ bytes, append ≠ .cut bytes
  | .audio samples => ∀ v ∈ samples, v.natAbs ≤ 2 ^ 16
  | .configure _ => True
  | .restart _ clock append _ => SmallClock clock ∧ ∀ bytes, append ≠ .cut bytes

structure SmallState (s : State) : Prop where
  callStart : s.callStart.natAbs < 10 ^ 30
  userId : s.userId.natAbs < bound
  level : s.sqSum ≤ 2 ^ 32 * s.sqCount
  peak : s.sqPeakRms ≤ 2 ^ 32

structure Small (r : Record) : Prop where
  clock : SmallClock r.clock
  userId : r.userId.natAbs < bound
  tenths : r.tenths.natAbs < bound
  avgRms : r.avgRms < bound
  peakRms : r.peakRms < bound

/-! ## Escaping -/

theorem jsonEscapeFrom_eq (room : Nat) (text : Text) :
    jsonEscapeFrom room text = Json.escaped (Json.kept room text) := by
  induction text generalizing room with
  | nil => cases room <;> rfl
  | cons c rest ih =>
    cases room with
    | zero => rfl
    | succ room =>
      have quote : doubleQuote = '"' := by decide
      have feed : newline = Json.lineFeed := by decide
      have carriage : carriageReturn = Json.carriageReturn := by decide
      rw [jsonEscapeFrom, Json.kept]
      simp only [ih, quote, feed, carriage]
      by_cases written : Json.writable c = true
      next =>
        have printed : Json.escaped (c :: Json.kept (room + 1 - (Json.shortEscape c).length) rest) =
            Json.shortEscape c ++
              Json.escaped (Json.kept (room + 1 - (Json.shortEscape c).length) rest) := by
          simp [Json.escaped]
        rw [if_pos written, printed]
        unfold Json.shortEscape
        split_ifs with special broke returned tabbed control
        next => rfl
        next => rfl
        next => rfl
        next => rfl
        next =>
          have printable : ¬ c.toNat < 0x20 := by
            simpa [Json.writable, broke, returned, tabbed] using written
          exact absurd control printable
        next => rfl
      next =>
        simp only [Json.writable, Bool.or_eq_true, decide_eq_true_eq, not_or, Nat.not_le] at written
        obtain ⟨⟨⟨control, broke⟩, returned⟩, tabbed⟩ := written
        have special : ¬ (c = '"' ∨ c = '\\') := by
          rintro (rfl | rfl) <;> exact absurd control (by decide)
        rw [if_neg special, if_neg broke, if_neg returned, if_neg tabbed, if_pos control, if_neg]
        simp only [Json.writable, Bool.or_eq_true, decide_eq_true_eq, not_or, Nat.not_le]
        exact ⟨⟨⟨control, broke⟩, returned⟩, tabbed⟩

theorem jsonEscapeStr_length (text : Text) {max : Nat} (room : 2 ≤ max) :
    (jsonEscapeStr text max).length < max := by
  rw [jsonEscapeStr, jsonEscapeFrom_eq]
  have bound := Json.escaped_kept_length (max - 2) text
  omega

theorem fgets_length (room : Nat) (text : Text) : (fgets room text).1.length ≤ room := by
  induction room generalizing text with
  | zero => simp [fgets]
  | succ room ih =>
    cases text with
    | nil => simp [fgets]
    | cons c rest =>
      have later := ih rest
      rw [fgets]
      split <;> simp only [List.length_cons, List.length_nil] <;> omega

theorem apiRow_some {line : Text} {row : ApiRow} (found : apiRow line = some row) :
    ∃ ts date time userId userName method durationS emergency avgRms peakRms recording others,
      csvSplitRow 12 (cstr line) = ts :: date :: time :: userId :: userName :: method :: durationS ::
        emergency :: avgRms :: peakRms :: recording :: others ∧
      row = printedRow ts time userId userName method durationS emergency avgRms peakRms
        recording := by
  unfold apiRow at found
  split at found
  next split =>
    split at found
    next => exact ⟨_, _, _, _, _, _, _, _, _, _, _, _, split, (Option.some.inj found).symm⟩
    next => cases found
  next => cases found

theorem printedRow_length (first : Bool)
    (ts time userId userName method durationS emergency avgRms peakRms recording : Text) :
    (rowText first (printedRow ts time userId userName method durationS emergency avgRms peakRms
      recording)).length ≤ ts.length + time.length + userId.length + durationS.length +
        avgRms.length + peakRms.length + 1400 := by
  have named := @jsonEscapeStr_length userName 96 (by omega)
  have by_ := @jsonEscapeStr_length method 32 (by omega)
  have recorded := @jsonEscapeStr_length recording 1024 (by omega)
  have comma : (if first then ([] : Text) else [',']).length ≤ 1 := by cases first <;> simp
  have flag (raised : Bool) :
      (if raised then "true".toList else "false".toList).length ≤ 5 := by
    cases raised <;> decide
  have raised := flag (decide (emergency.head? = some '1'))
  have keys : "\x7b\"ts\":".toList.length + ",\"time\":\"".toList.length +
      "\",\"user_id\":".toList.length + ",\"user_name\":\"".toList.length +
      "\",\"method\":\"".toList.length + "\",\"duration_s\":".toList.length +
      ",\"emergency\":".toList.length + ",\"avg_rms\":".toList.length +
      ",\"peak_rms\":".toList.length + ",\"recording\":\"".toList.length +
      "\"\x7d".toList.length < 200 := by decide
  unfold rowText printedRow
  dsimp only
  repeat rw [List.length_append]
  omega

/-- At least 4096 characters are free before a row is printed. -/
theorem rowText_fits {text line : Text} (member : line ∈ chunks text) {row : ApiRow}
    (found : apiRow line = some row) (first : Bool) : (rowText first row).length < 4096 := by
  obtain ⟨rest, rfl⟩ := mem_fileLines member
  have short := fgets_length (lineSize - 1) rest
  have visible : (cstr (fgets (lineSize - 1) rest).1).length ≤ (fgets (lineSize - 1) rest).1.length :=
    (List.takeWhile_prefix _).length_le
  have columns := csvSplitRow_length 12 (cstr (fgets (lineSize - 1) rest).1)
  have size : lineSize = 2048 := rfl
  obtain ⟨ts, date, time, userId, userName, method, durationS, emergency, avgRms, peakRms, recording,
    others, split, rfl⟩ := apiRow_some found
  have printed := printedRow_length first ts time userId userName method durationS emergency avgRms
    peakRms recording
  rw [split] at columns
  simp only [List.map_cons, List.sum_cons] at columns
  omega

theorem readText_escaped {text : Text} (writable : ∀ c ∈ text, Json.writable c = true) :
    readText (Json.escaped text) = some text := by
  have short := Json.length_le_escaped text
  rw [readText, Json.readString_escaped writable [] (by omega)]

theorem readText_printed (text : Text) (max : Nat) :
    readText (jsonEscapeStr text max) = some (Json.kept (max - 2) text) := by
  rw [jsonEscapeStr, jsonEscapeFrom_eq, readText_escaped Json.kept_writable]

theorem numeric_plain {text : Text} (numeric : Numeric text) : Json.Plain text := by
  intro c member
  rw [Json.plainChar_iff]
  rcases numeric c member with digit | rfl | rfl | rfl
  next =>
    have bounds := Char.isDigit_iff_toNat.mp digit
    have zero : '0'.toNat = 48 := rfl
    refine ⟨?_, ?_, by omega⟩
    next =>
      rintro rfl
      cases digit
    next =>
      rintro rfl
      cases digit
  next => decide
  next => decide
  next => decide

theorem readText_numeric {text : Text} (numeric : Numeric text) : readText text = some text := by
  rw [readText, Json.readString_plain (numeric_plain numeric) [] (by omega)]

theorem Legible.kept {max : Nat} {text : Text} (legible : Legible max text) :
    Json.kept (max - 2) text = text :=
  Json.kept_eq legible.writable legible.fits

theorem legible_of_kept {max : Nat} {text : Text} (oneLine : newline ∉ text) :
    Legible max (Json.kept (max - 2) text) where
  writable := Json.kept_writable
  fits := Json.kept_fits _ _
  oneLine := fun member => oneLine ((Json.kept_sublist _ _).subset member)

/-! ## The row of a record -/

def Record.fields (day : Day) (r : Record) : List Text :=
  -- All but the last.
  [intText r.clock.now, dateText day, timeText r.clock, intText r.userId, r.userName, r.method,
    tenthsText r.tenths, flagText r.emergency, digits r.avgRms, digits r.peakRms]

def Record.row (day : Day) (r : Record) : Text :=
  csvRow ((r.fields day).map csvField ++ [csvField r.recording])

def Record.printed (r : Record) (recording : Text) : ApiRow where
  ts := intText r.clock.now
  time := timeText r.clock
  userId := intText r.userId
  userName := jsonEscapeStr r.userName 96
  method := jsonEscapeStr r.method 32
  durationS := tenthsText r.tenths
  emergency := r.emergency
  avgRms := digits r.avgRms
  peakRms := digits r.peakRms
  recording := jsonEscapeStr recording 1024

theorem csvField_numeric {text : Text} (numeric : Numeric text) : csvField text = text := by
  have plain : text.any needsQuote = false := by
    rw [List.any_eq_false]
    intro c member
    rcases numeric c member with digit | rfl | rfl | rfl
    next =>
      have bounds := Char.isDigit_iff_toNat.mp digit
      have zero : '0'.toNat = 48 := rfl
      simp only [needsQuote, Bool.or_eq_true, decide_eq_true_eq, not_or]
      refine ⟨⟨⟨?_, ?_⟩, ?_⟩, ?_⟩ <;> rintro rfl <;> cases digit
    next => decide
    next => decide
    next => decide
  rw [csvField_eq numeric.column.clean, plain]
  rfl

theorem csvField_cstr (text : Text) : csvField (cstr text) = csvField text := by
  simp only [csvField, cstr_same (nul_cstr text)]

theorem row_eq (day : Day) (r : Record) : r.row day =
    csvRow [intText r.clock.now, dateText day, timeText r.clock, intText r.userId,
      csvField r.userName, csvField r.method, tenthsText r.tenths, flagText r.emergency,
      digits r.avgRms, digits r.peakRms, csvField r.recording] := by
  simp only [Record.row, Record.fields, List.map_cons, List.map_nil, List.cons_append,
    List.nil_append, csvField_numeric (intText_numeric _), csvField_numeric (dateText_numeric _),
    csvField_numeric (timeText_numeric _), csvField_numeric (tenthsText_numeric _),
    csvField_numeric (flagText_numeric _), csvField_numeric (digits_numeric _)]

theorem voiceRow_eq (day : Day) (s : State) (clock : Clock) :
    voiceRow day s clock = (callRecord s clock).row day := by
  rw [row_eq]
  simp only [voiceRow, callRecord, csvField_cstr]

theorem txRow_eq (day : Day) (clock : Clock) (tenths : Int) (emergency : Bool) (path : Text) :
    txRow day clock tenths emergency path = (txRecord clock tenths emergency path).row day := by
  have name : csvField "transmit".toList = "transmit".toList := by decide
  have method : csvField "TX".toList = "TX".toList := by decide
  have none : intText 0 = ['0'] := by decide
  have zero : digits 0 = ['0'] := by decide
  rw [row_eq]
  simp only [txRow, txRecord, csvField_cstr, name, method, none, zero]

theorem announcementRow_eq (day : Day) (clock : Clock) (source description : Text) :
    announcementRow day clock source description =
      (announcementRecord clock source description).row day := by
  have name : csvField "system".toList = "system".toList := by decide
  have tenths : tenthsText 0 = "0.0".toList := by decide
  have flag : flagText false = ['0'] := rfl
  have none : intText 0 = ['0'] := by decide
  have zero : digits 0 = ['0'] := by decide
  rw [row_eq]
  simp only [announcementRow, announcementRecord, csvField_cstr, name, tenths, flag, none, zero]

theorem fields_clean (day : Day) (r : Record) : ∀ s ∈ r.fields day, nul ∉ s := by
  simp only [Record.fields, List.forall_mem_cons]
  exact ⟨(intText_numeric _).column.clean, (dateText_numeric _).column.clean,
    (timeText_numeric _).column.clean, (intText_numeric _).column.clean, r.cleanName,
    r.cleanMethod, (tenthsText_numeric _).column.clean, (flagText_numeric _).column.clean,
    (digits_numeric _).column.clean, (digits_numeric _).column.clean, by simp⟩

theorem integerText_digits (n : Nat) : integerText (digits n) = true := by
  rw [integerText, List.all_eq_true]
  intro c member
  have digit := Decimal.isDigit_toDigits n c member
  simp [digit]

theorem apiRow_printed {day : Day} {r : Record} {line recording : Text}
    (split : csvSplitRow 12 (cstr line) = r.fields day ++ [recording]) :
    apiRow line = some (r.printed recording) := by
  have flag : decide ((flagText r.emergency).head? = some '1') = r.emergency := by
    cases r.emergency <;> rfl
  simp only [apiRow, split, Record.fields, List.cons_append, List.nil_append, integerText_digits,
    Bool.and_self, if_true, printedRow, flag]
  rfl

theorem printed_read (r : Record) (recording : Text) : (r.printed recording).read =
    some { r.shown with
      userName := Json.kept 94 r.userName
      method := Json.kept 30 r.method
      recording := Json.kept 1022 recording } := by
  simp only [ApiRow.read, Record.printed, readText_numeric (timeText_numeric _), readText_printed]
  rfl

/-! ## The lines of a row -/

theorem digits_length {n : Nat} (small : n < bound) : (digits n).length ≤ 40 :=
  (Nat.length_toDigits_le_iff (by decide) (by decide)).mpr small

theorem padded_length {width n : Nat} (narrow : width ≤ 40) (small : n < bound) :
    (padded width n).length ≤ 40 := by
  have size := digits_length small
  rw [padded, List.length_append, List.length_replicate]
  omega

theorem intText_length {n : Int} (small : n.natAbs < bound) : (intText n).length ≤ 41 := by
  have size := digits_length small
  unfold intText
  split
  next =>
    rw [List.length_cons]
    omega
  next => omega

theorem dateText_length {day : Day} (small : SmallDay day) : (dateText day).length ≤ 122 := by
  have year := padded_length (show 4 ≤ 40 by decide) small.year
  have mon := padded_length (show 2 ≤ 40 by decide) small.mon
  have mday := padded_length (show 2 ≤ 40 by decide) small.mday
  simp only [dateText, List.length_append, List.length_cons]
  omega

theorem timeText_length {clock : Clock} (small : SmallClock clock) :
    (timeText clock).length ≤ 122 := by
  have hour := padded_length (show 2 ≤ 40 by decide) small.hour
  have min := padded_length (show 2 ≤ 40 by decide) small.min
  have sec := padded_length (show 2 ≤ 40 by decide) small.sec
  simp only [timeText, List.length_append, List.length_cons]
  omega

theorem tenthsText_length {tenths : Int} (small : tenths.natAbs < bound) :
    (tenthsText tenths).length ≤ 82 := by
  have whole : (digits (tenths.natAbs / 10)).length ≤ 40 :=
    digits_length (Nat.lt_of_le_of_lt (Nat.div_le_self ..) small)
  have fraction : (digits (tenths.natAbs % 10)).length ≤ 40 :=
    digits_length (Nat.lt_of_le_of_lt (Nat.mod_le ..) small)
  simp only [tenthsText, List.length_append, List.length_cons]
  split
  next =>
    rw [List.length_singleton]
    omega
  next =>
    rw [List.length_nil]
    omega

theorem doubled_length (text : Text) : (doubled text).length ≤ (Json.escaped text).length := by
  induction text with
  | nil => rfl
  | cons c text ih =>
    have one : (if c = doubleQuote then [doubleQuote, c] else [c]).length ≤
        (Json.shortEscape c).length := by
      have size := Json.shortEscape_length c
      split
      next quote => simp [Json.shortEscape, quote, show doubleQuote = '"' by decide]
      next =>
        rw [List.length_singleton]
        omega
    simp only [doubled, Json.escaped, List.flatMap_cons, List.length_append] at ih ⊢
    omega

theorem doubled_fits {room : Nat} {text : Text} (writable : ∀ c ∈ text, Json.writable c = true)
    (fits : Json.Fits room text) : (doubled text).length ≤ room + 1 := by
  have size := doubled_length text
  have written := Json.escaped_kept_length room text
  rw [Json.kept_eq writable fits] at written
  omega

theorem csvField_length {text : Text} (clean : nul ∉ text) :
    (csvField text).length ≤ (doubled text).length + 2 := by
  rw [csvField_eq clean]
  split
  next => simp
  next plain =>
    have size : text.length ≤ (doubled text).length := by
      clear plain clean
      induction text with
      | nil => rfl
      | cons c text ih =>
        simp only [doubled, List.flatMap_cons, List.length_append, List.length_cons] at ih ⊢
        split <;> simp only [List.length_cons, List.length_nil] <;> omega
    omega

/-- What a record must be so that its row starts as it should. -/
structure Shaped (r : Record) : Prop where
  name : Legible 96 r.userName
  method : Legible 32 r.method
  writable : ∀ c ∈ r.recording, Json.writable c = true
  fits : Json.Fits 1022 r.recording

theorem fields_length {day : Day} {r : Record} (smallDay : SmallDay day) (small : Small r)
    (shaped : Shaped r) :
    ((r.fields day).flatMap fun s => csvField s ++ [',']).length ≤ 800 := by
  have now : r.clock.now.natAbs < bound := by
    have now := small.clock.now
    have wide : 10 ^ 30 ≤ bound := by decide
    omega
  have ts := intText_length now
  have date := dateText_length smallDay
  have time := timeText_length small.clock
  have userId := intText_length small.userId
  have name := csvField_length r.cleanName
  have nameFits := doubled_fits shaped.name.writable shaped.name.fits
  have method := csvField_length r.cleanMethod
  have methodFits := doubled_fits shaped.method.writable shaped.method.fits
  have tenths := tenthsText_length small.tenths
  have flag : (flagText r.emergency).length = 1 := by cases r.emergency <;> rfl
  have avg := digits_length small.avgRms
  have peak := digits_length small.peakRms
  simp only [Record.fields, List.flatMap_cons, List.flatMap_nil, List.length_append,
    List.length_cons, List.length_nil, csvField_numeric (intText_numeric _),
    csvField_numeric (dateText_numeric _), csvField_numeric (timeText_numeric _),
    csvField_numeric (tenthsText_numeric _), csvField_numeric (flagText_numeric _),
    csvField_numeric (digits_numeric _)]
  omega

theorem fields_oneLine {day : Day} {r : Record} (shaped : Shaped r) :
    ∀ field ∈ (r.fields day).map csvField, newline ∉ field := by
  have column {text : Text} (clean : nul ∉ text) (oneLine : newline ∉ text) :
      newline ∉ csvField text := fun member =>
    (mem_csvField member).elim (fun inside => oneLine (cstr_same clean ▸ inside))
      fun quote => absurd quote (by decide)
  have numeric {text : Text} (numeric : Numeric text) : newline ∉ csvField text :=
    column numeric.column.clean numeric.column.noNewline
  simp only [Record.fields, List.map_cons, List.map_nil, List.forall_mem_cons]
  exact ⟨numeric (intText_numeric _), numeric (dateText_numeric _), numeric (timeText_numeric _),
    numeric (intText_numeric _), column r.cleanName shaped.name.oneLine,
    column r.cleanMethod shaped.method.oneLine, numeric (tenthsText_numeric _),
    numeric (flagText_numeric _), numeric (digits_numeric _), numeric (digits_numeric _), by simp⟩

theorem chunks_first {day : Day} {r : Record} (smallDay : SmallDay day) (small : Small r)
    (shaped : Shaped r) {last : Text} (oneLine : newline ∉ last) (short : last.length ≤ 1200) :
    chunks (csvRow ((r.fields day).map csvField ++ [last])) =
      [csvRow ((r.fields day).map csvField ++ [last])] := by
  refine chunks_row ?_ ?_
  next =>
    intro field member
    rcases List.mem_append.mp member with front | ends
    next => exact fields_oneLine shaped field front
    next => exact List.mem_singleton.mp ends ▸ oneLine
  next =>
    have front := fields_length smallDay small shaped
    rw [csvRow_concat, List.length_append, List.length_append, List.length_singleton, lineSize]
    omega

theorem row_clean {day : Day} {r : Record} {last : Text} (clean : nul ∉ last) :
    cstr (csvRow ((r.fields day).map csvField ++ [last])) =
      csvRow ((r.fields day).map csvField ++ [last]) := by
  refine cstr_same fun member => ?_
  refine (List.mem_append.mp member).elim (notMem_csvColumns (by decide) fun field among => ?_)
    (by decide)
  rcases List.mem_append.mp among with front | ends
  next =>
    obtain ⟨s, -, rfl⟩ := List.mem_map.mp front
    exact fun inside => (mem_csvField inside).elim (nul_cstr s) fun quote =>
      absurd quote (by decide)
  next => exact List.mem_singleton.mp ends ▸ clean

/-! What the lines of a row are read as: a row with what stood before a line break, and whatever
what stood behind it makes. -/

def seen (text : Text) : Text :=
  if newline ∈ text then beforeBreak text ++ newline :: leftover (beforeBreak text) else text

def more (text : Text) : List ApiRow :=
  if newline ∈ text then
    (chunks (doubled (afterBreak text) ++ [doubleQuote, newline])).filterMap apiRow
  else []

theorem break_split {text : Text} (broken : newline ∈ text) :
    beforeBreak text ++ newline :: afterBreak text = text ∧ newline ∉ beforeBreak text := by
  have whole := List.takeWhile_append_dropWhile (p := (· ≠ newline)) (l := text)
  have stops : ∃ rest, text.dropWhile (· ≠ newline) = newline :: rest := by
    cases left : text.dropWhile (· ≠ newline) with
    | nil =>
      rw [List.dropWhile_eq_nil_iff] at left
      exact absurd rfl (of_decide_eq_true (left _ broken))
    | cons c rest =>
      have stopped := List.head?_dropWhile_not (· ≠ newline) text
      rw [left] at stopped
      have same : c = newline := by simpa using stopped
      exact ⟨rest, by rw [same]⟩
  obtain ⟨rest, left⟩ := stops
  rw [left] at whole
  constructor
  next =>
    unfold beforeBreak afterBreak
    rw [left]
    exact whole
  next => exact fun member => absurd (List.mem_takeWhile_imp member) (by simp)

theorem doubled_break {text : Text} (broken : newline ∈ text) :
    doubled text = doubled (beforeBreak text) ++ newline :: doubled (afterBreak text) := by
  calc doubled text
    _ = doubled (beforeBreak text ++ newline :: afterBreak text) := by
      rw [(break_split broken).1]
    _ = doubled (beforeBreak text) ++ newline :: doubled (afterBreak text) := by
      simp [doubled, show newline ≠ doubleQuote by decide]

theorem quoted_break {text : Text} (broken : newline ∈ text) (clean : nul ∉ text) :
    csvField text ++ [newline] = doubleQuote :: doubled (beforeBreak text) ++ [newline] ++
      (doubled (afterBreak text) ++ [doubleQuote, newline]) := by
  have quoted : text.any needsQuote = true :=
    List.any_eq_true.mpr ⟨newline, broken, by decide⟩
  rw [csvField_eq clean, if_pos quoted, doubled_break broken]
  simp

theorem mem_doubled {text : Text} {c : Char} (member : c ∈ doubled text) : c ∈ text := by
  obtain ⟨d, present, among⟩ := List.mem_flatMap.mp member
  split at among
  next quote =>
    have same : c = d := by simpa [quote] using among
    exact same ▸ present
  next => exact List.mem_singleton.mp among ▸ present

theorem row_read {day : Day} {r : Record} (smallDay : SmallDay day) (small : Small r)
    (shaped : Shaped r) :
    (chunks (r.row day)).filterMap apiRow = r.printed (seen r.recording) :: more r.recording := by
  have clean := fields_clean day r
  have size := doubled_fits shaped.writable shaped.fits
  by_cases broken : newline ∈ r.recording
  next =>
    obtain ⟨whole, front⟩ := break_split broken
    have split : r.row day =
        csvRow ((r.fields day).map csvField ++ [doubleQuote :: doubled (beforeBreak r.recording)]) ++
          (doubled (afterBreak r.recording) ++ [doubleQuote, newline]) := by
      rw [Record.row, csvRow_concat, csvRow_concat, quoted_break broken r.cleanRecording]
      simp
    have oneLine : newline ∉ doubleQuote :: doubled (beforeBreak r.recording) := by
      intro member
      rcases List.mem_cons.mp member with same | inside
      next => exact absurd same (by decide)
      next => exact front (mem_doubled inside)
    have short : (doubleQuote :: doubled (beforeBreak r.recording)).length ≤ 1200 := by
      rw [doubled_break broken, List.length_append] at size
      rw [List.length_cons]
      omega
    have cleanCut : nul ∉ doubleQuote :: doubled (beforeBreak r.recording) := by
      intro member
      rcases List.mem_cons.mp member with same | inside
      next => exact absurd same (by decide)
      next =>
        refine r.cleanRecording ?_
        rw [← whole]
        exact List.mem_append_left _ (mem_doubled inside)
    have columns := @csvSplitRow_cut (r.fields day) (beforeBreak r.recording) clean 1
    have read : apiRow (csvRow ((r.fields day).map csvField ++
        [doubleQuote :: doubled (beforeBreak r.recording)])) =
          some (r.printed (seen r.recording)) := by
      rw [seen, if_pos broken]
      refine @apiRow_printed day r _ _ ?_
      rw [row_clean cleanCut]
      exact columns
    rw [split, chunks_append (csvRow_terminated _), chunks_first smallDay small shaped oneLine short,
      List.filterMap_append, List.filterMap_cons, read, more, if_pos broken]
    rfl
  next =>
    have oneLine : newline ∉ csvField r.recording := fun member =>
      (mem_csvField member).elim (fun inside => broken (cstr_same r.cleanRecording ▸ inside))
        fun quote => absurd quote (by decide)
    have short := csvField_length r.cleanRecording
    have cleanField : nul ∉ csvField r.recording := fun member =>
      (mem_csvField member).elim (nul_cstr _) fun quote => absurd quote (by decide)
    have columns := csvSplitRow_whole clean r.cleanRecording 1
    have read : apiRow (r.row day) = some (r.printed (seen r.recording)) := by
      rw [seen, if_neg broken]
      refine @apiRow_printed day r _ _ ?_
      rw [Record.row, row_clean cleanField]
      exact columns
    have line : chunks (r.row day) = [r.row day] :=
      chunks_first smallDay small shaped oneLine (by omega)
    rw [line, List.filterMap_cons, read, more, if_neg broken]
    rfl

/-! ## What no line is read as -/

theorem chunk_line {text line : Text} (member : line ∈ chunks text) : Line (cstr line) := by
  obtain ⟨rest, rfl⟩ := mem_fileLines member
  obtain ⟨whole, clear, ends⟩ := fgets_ends (lineSize - 1) rest
  have inside : ∀ c ∈ (fgets (lineSize - 1) rest).1.dropLast, c ∈ whole := by
    rcases ends with same | same <;> rw [same]
    next => exact fun c member => List.dropLast_subset _ member
    next => simp
  obtain ⟨after, split⟩ := List.takeWhile_prefix (p := (· ≠ nul)) (l := (fgets (lineSize - 1) rest).1)
  intro broken
  refine clear (inside _ ?_)
  rw [← split]
  by_cases none : after = []
  next =>
    rw [none, List.append_nil]
    exact broken
  next =>
    rw [List.dropLast_append_of_ne_nil none]
    exact List.mem_append_left _ (List.dropLast_subset _ broken)

theorem shaped_of_shown {text line : Text} {row : ApiRow} {r : Record} (member : line ∈ chunks text)
    (found : apiRow line = some row) (read : row.read = some r.shown) : Shaped r := by
  obtain ⟨ts, date, time, userId, name, method, durationS, emergency, avgRms, peakRms, recording,
    others, split, rfl⟩ := apiRow_some found
  have early : ∀ s ∈ ([ts, date, time, userId] ++ name :: method :: durationS :: emergency ::
      avgRms :: peakRms :: recording :: others).dropLast, newline ∉ s := by
    rw [List.cons_append, List.cons_append, List.cons_append, List.cons_append, List.nil_append,
      ← split]
    exact csvSplitRow_line (chunk_line member)
  rw [List.dropLast_append_of_ne_nil (List.cons_ne_nil _ _),
    List.dropLast_cons_of_ne_nil (List.cons_ne_nil _ _),
    List.dropLast_cons_of_ne_nil (List.cons_ne_nil _ _)] at early
  have values : r.userName = Json.kept 94 name ∧ r.method = Json.kept 30 method ∧
      r.recording = Json.kept 1022 recording := by
    simp only [ApiRow.read, printedRow, readText_printed] at read
    cases shown : readText time with
    | none =>
      rw [shown] at read
      cases read
    | some time' =>
      rw [shown] at read
      have same := Option.some.inj read
      exact ⟨(congrArg Shown.userName same).symm, (congrArg Shown.method same).symm,
        (congrArg Shown.recording same).symm⟩
  obtain ⟨sameName, sameMethod, sameRecording⟩ := values
  refine ⟨?_, ?_, ?_, ?_⟩
  next => exact sameName ▸ legible_of_kept (early _ (by simp))
  next => exact sameMethod ▸ legible_of_kept (early _ (by simp))
  next => exact sameRecording ▸ Json.kept_writable
  next => exact sameRecording ▸ Json.kept_fits _ _

/-! ## Files -/

def fileOf (day : Day) (log : List Record) : Option Text :=
  if log = [] then none else some (header ++ log.flatMap (Record.row day))

theorem chunks_rows (day : Day) (log : List Record) :
    chunks (log.flatMap (Record.row day)) = log.flatMap fun r => chunks (r.row day) := by
  induction log with
  | nil => rfl
  | cons r log ih =>
    have ends : Terminated (r.row day) := csvRow_terminated _
    rw [List.flatMap_cons, chunks_append ends, ih, List.flatMap_cons]

theorem apiRows_file (day : Day) (log : List Record) :
    apiRows (fileOf day log) = log.flatMap fun r => (chunks (r.row day)).filterMap apiRow := by
  unfold fileOf
  split
  next none => simp [none, apiRows]
  next =>
    have ends : Terminated header := csvRow_terminated _
    rw [apiRows, chunks_append ends, chunks_header, chunks_rows,
      List.singleton_append, List.tail_cons, List.filterMap_flatMap]

theorem length_le_flatMap {α β : Type} (l : List α) (first : α → β) (others : α → List β) :
    l.length ≤ (l.flatMap fun a => first a :: others a).length := by
  induction l with
  | nil => simp
  | cons a l ih =>
    rw [List.flatMap_cons, List.length_append, List.length_cons, List.length_cons]
    omega

theorem flatMap_eq_map {α β : Type} (l : List α) (first whole : α → β) (others : α → List β) :
    (l.flatMap fun a => first a :: others a) = l.map whole ↔
      ∀ a ∈ l, first a = whole a ∧ others a = [] := by
  induction l with
  | nil => simp
  | cons a l ih =>
    rw [List.flatMap_cons, List.map_cons, List.cons_append, List.cons.injEq, List.forall_mem_cons,
      ← ih]
    constructor
    next =>
      rintro ⟨same, later⟩
      have size := congrArg List.length later
      have long := length_le_flatMap l first others
      have none : others a = [] := by
        rw [List.length_append, List.length_map] at size
        exact List.eq_nil_of_length_eq_zero (by omega)
      rw [none, List.nil_append] at later
      exact ⟨⟨same, none⟩, later⟩
    next =>
      rintro ⟨⟨same, none⟩, later⟩
      rw [none, List.nil_append]
      exact ⟨same, later⟩

theorem readable_iff (r : Record) : Readable r ↔
    Shaped r ∧ (r.printed (seen r.recording)).read = some r.shown ∧ more r.recording = [] := by
  rw [printed_read]
  constructor
  next =>
    intro readable
    have name : Json.kept 94 r.userName = r.userName := readable.name.kept
    have method : Json.kept 30 r.method = r.method := readable.method.kept
    have recording : Json.kept 1022 (seen r.recording) = r.recording ∧ more r.recording = [] := by
      unfold seen more
      split
      next broken =>
        have lucky := readable.recording broken
        exact ⟨lucky.same, List.filterMap_eq_nil_iff.mpr lucky.noRow⟩
      next => exact ⟨Json.kept_eq readable.writable readable.fits, rfl⟩
    refine ⟨⟨readable.name, readable.method, readable.writable, readable.fits⟩, ?_, recording.2⟩
    rw [name, method, recording.1]
    rfl
  next =>
    rintro ⟨shaped, read, none⟩
    refine ⟨shaped.name, shaped.method, shaped.writable, shaped.fits, fun broken => ?_⟩
    have recording := congrArg Shown.recording (Option.some.inj read)
    unfold seen at recording
    unfold more at none
    rw [if_pos broken] at recording none
    exact ⟨recording, List.filterMap_eq_nil_iff.mp none⟩

theorem file_faithful {day : Day} (smallDay : SmallDay day) {log : List Record}
    (small : ∀ r ∈ log, Small r) : Faithful (fileOf day log) log ↔ ∀ r ∈ log, Readable r := by
  have rows (shaped : ∀ r ∈ log, Shaped r) : (apiRows (fileOf day log)).map ApiRow.read =
      log.flatMap fun r => (r.printed (seen r.recording)).read ::
        (more r.recording).map ApiRow.read := by
    rw [apiRows_file, List.map_flatMap]
    refine List.flatMap_congr fun r member => ?_
    rw [row_read smallDay (small r member) (shaped r member)]
    rfl
  unfold Faithful
  constructor
  next =>
    intro same
    have shaped : ∀ r ∈ log, Shaped r := by
      intro r member
      have shown : some r.shown ∈ (apiRows (fileOf day log)).map ApiRow.read := by
        rw [same]
        exact List.mem_map.mpr ⟨r, member, rfl⟩
      obtain ⟨row, among, read⟩ := List.mem_map.mp shown
      rw [apiRows_file] at among
      obtain ⟨other, -, inside⟩ := List.mem_flatMap.mp among
      obtain ⟨line, here, found⟩ := List.mem_filterMap.mp inside
      exact shaped_of_shown here found read
    rw [rows shaped, flatMap_eq_map] at same
    intro r member
    obtain ⟨read, none⟩ := same r member
    exact (readable_iff r).mpr ⟨shaped r member, read, List.map_eq_nil_iff.mp none⟩
  next =>
    intro readable
    have each := fun r member => (readable_iff r).mp (readable r member)
    rw [rows fun r member => (each r member).1, flatMap_eq_map]
    intro r member
    obtain ⟨-, read, none⟩ := each r member
    exact ⟨read, by rw [none]; rfl⟩

/-! ## Runs -/

theorem append_file {day : Day} {s : State} {log : List Record} (file : s.csv = fileOf day log)
    (r : Record) : (s.append .whole (r.row day)).csv = fileOf day (log ++ [r]) := by
  have more : log ++ [r] ≠ [] := by simp
  simp only [State.append, file, fileOf, if_neg more, List.flatMap_append, List.flatMap_singleton]
  by_cases none : log = []
  next => simp [none, appended]
  next =>
    have old : header ++ log.flatMap (Record.row day) ≠ [] := by simp [header, csvRow]
    rw [if_neg none]
    simp [appended, old]

theorem writeCdr_file {day : Day} {s : State} {log : List Record} (file : s.csv = fileOf day log)
    (clock : Clock) : (writeCdr day s clock .whole).csv =
      fileOf day (log ++ if s.inCall then [callRecord s clock] else []) := by
  unfold writeCdr
  cases called : s.inCall with
  | false => simpa using file
  | true =>
    have same := newDay_csv day s
    have written := append_file (same.trans file) (callRecord s clock)
    rw [← voiceRow_eq] at written
    exact written

theorem writeCdr_refused (day : Day) (s : State) (clock : Clock) :
    (writeCdr day s clock .refused).csv = s.csv := by
  unfold writeCdr
  split
  next => rfl
  next => exact newDay_csv day s

theorem writeTxCdr_file {day : Day} {s : State} {log : List Record} (file : s.csv = fileOf day log)
    (clock : Clock) (tenths : Int) (emergency : Bool) (path : Text) :
    (writeTxCdr day s clock tenths emergency path .whole).csv =
      fileOf day (log ++ if s.enabled then [txRecord clock tenths emergency path] else []) := by
  unfold writeTxCdr
  cases enabled : s.enabled with
  | false => simpa using file
  | true =>
    have same := newDay_csv day s
    have written := append_file (same.trans file) (txRecord clock tenths emergency path)
    rw [← txRow_eq] at written
    exact written

theorem writeTxCdr_refused (day : Day) (s : State) (clock : Clock) (tenths : Int) (emergency : Bool)
    (path : Text) : (writeTxCdr day s clock tenths emergency path .refused).csv = s.csv := by
  unfold writeTxCdr
  split
  next => rfl
  next => exact newDay_csv day s

theorem configure_csv (day : Day) (s : State) (enabled : Bool) :
    (configure day s enabled).csv = s.csv := by
  unfold configure
  dsimp only
  split
  next => rfl
  next => cases s.csv <;> rfl

theorem recordingSaved_file {day : Day} {s : State} {log : List Record}
    (file : s.csv = fileOf day log) (direction path : Text) (clock : Clock) (tenths : Int)
    (emergency : Bool) {append : Append} (uncut : ∀ bytes, append ≠ .cut bytes) :
    (onRecordingSaved day s (some direction) (some path) clock tenths emergency append).csv =
      fileOf day (log ++
        wrote s (.recordingSaved (some direction) (some path) clock tenths emergency append)) := by
  have nothing : s.csv = fileOf day (log ++ []) := by rwa [List.append_nil]
  cases append with
  | cut bytes => exact absurd rfl (uncut bytes)
  | refused =>
    unfold onRecordingSaved
    dsimp only
    split_ifs
    next => exact nothing
    next => exact nothing
    next => exact (writeTxCdr_refused ..).trans nothing
    next => exact nothing
  | whole =>
    by_cases tx : cstr direction = "TX".toList
    next =>
      have written := writeTxCdr_file file clock tenths emergency path
      have rx : ¬ "TX".toList = "RX".toList := by decide
      simp only [onRecordingSaved, wrote, tx, rx, if_false, if_true, decide_true, Bool.true_and]
      exact written
    next =>
      simp only [onRecordingSaved, wrote, tx, if_false, decide_false, Bool.false_and,
        Bool.false_eq_true]
      split_ifs <;> exact nothing

theorem step_file {day : Day} {s : State} {log : List Record} (file : s.csv = fileOf day log)
    {i : Input} (ordinary : Ordinary i) :
    (step day s i).csv = fileOf day (log ++ wrote s i) := by
  have nothing : s.csv = fileOf day (log ++ []) := by rwa [List.append_nil]
  cases i with
  | corAssert clock emergency =>
    rw [step, onCorAssert]
    split <;> exact nothing
  | corDrop clock append =>
    rw [step, onCorDrop]
    cases append with
    | cut bytes => exact absurd rfl (ordinary.2 bytes)
    | refused =>
      split
      next => exact nothing
      next => exact (writeCdr_refused ..).trans nothing
    | whole =>
      have written := writeCdr_file file clock
      cases enabled : s.enabled <;> cases called : s.inCall <;>
        simp only [wrote, enabled, called, Bool.not_false, Bool.not_true, Bool.true_or,
          Bool.or_true, Bool.or_self, Bool.and_true, Bool.and_false, Bool.and_self, if_true,
          Bool.false_eq_true, if_false] at written ⊢
      next => exact nothing
      next => exact nothing
      next => exact nothing
      next => exact written
  | callerIdentified userId name method =>
    rw [step, onCallerIdentified]
    split <;> exact nothing
  | recordingSaved direction path clock tenths emergency append =>
    cases direction with
    | none => exact nothing
    | some direction =>
      cases path with
      | none => exact nothing
      | some path =>
        exact recordingSaved_file file direction path clock tenths emergency ordinary.2.2
  | announcement source description clock append =>
    rw [step, onAnnouncement]
    have same := newDay_csv day s
    cases enabled : s.enabled with
    | false =>
      cases append <;> simpa [wrote, enabled] using file
    | true =>
      cases append with
      | cut bytes => exact absurd rfl (ordinary.2 bytes)
      | refused => exact same.trans nothing
      | whole =>
        have written := append_file (same.trans file)
          (announcementRecord clock (source.getD []) (description.getD []))
        rw [← announcementRow_eq] at written
        simpa [wrote, enabled] using written
  | audio samples =>
    rw [step, sqAudioTap]
    split <;> exact nothing
  | configure enabled => exact (configure_csv day s enabled).trans nothing
  | restart graceful clock append enabled =>
    rw [step, configure_csv]
    cases graceful with
    | false => exact nothing
    | true =>
      cases append with
      | cut bytes => exact absurd rfl (ordinary.2 bytes)
      | refused => exact (writeCdr_refused ..).trans nothing
      | whole => exact writeCdr_file file clock

theorem rootUp_le (n : Nat) : rootUp n ≤ n := by
  unfold rootUp
  cases found : (List.range (n + 1)).find? fun r => decide (n ≤ r * r) with
  | none => exact Nat.le_refl n
  | some r =>
    have member := List.mem_range.mp (List.mem_of_find?_eq_some found)
    exact Nat.le_of_lt_succ member

theorem level_avg {s : State} (small : SmallState s) : s.avgRms < bound := by
  have wide : 2 ^ 32 < bound := by decide
  unfold State.avgRms
  split
  next some =>
    have root := rootUp_le (s.sqSum / s.sqCount)
    have mean : s.sqSum / s.sqCount ≤ 2 ^ 32 :=
      Nat.div_le_of_le_mul (by rw [Nat.mul_comm]; exact small.level)
    omega
  next => omega

theorem callRecord_small {s : State} (small : SmallState s) {clock : Clock}
    (ordinary : SmallClock clock) : Small (callRecord s clock) where
  clock := ordinary
  userId := small.userId
  tenths := by
    have now := ordinary.now
    have began := small.callStart
    have wide : 10 * (10 ^ 30 + 10 ^ 30) < bound := by decide
    simp only [callRecord, State.duration]
    omega
  avgRms := level_avg small
  peakRms := by
    have wide : 2 ^ 32 < bound := by decide
    have peak := small.peak
    simp only [callRecord]
    omega

theorem wrote_small {s : State} (small : SmallState s) {i : Input} (ordinary : Ordinary i) :
    ∀ r ∈ wrote s i, Small r := by
  have zero : (0 : Nat) < bound := by decide
  intro r member
  unfold wrote at member
  split at member
  next =>
    split at member
    next => exact List.mem_singleton.mp member ▸ callRecord_small small ordinary.1
    next => cases member
  next =>
    split at member
    next => exact List.mem_singleton.mp member ▸ ⟨ordinary.1, zero, ordinary.2.1, zero, zero⟩
    next => cases member
  next =>
    split at member
    next => exact List.mem_singleton.mp member ▸ ⟨ordinary.1, zero, zero, zero, zero⟩
    next => cases member
  next =>
    split at member
    next => exact List.mem_singleton.mp member ▸ callRecord_small small ordinary.1
    next => cases member
  next => cases member

theorem frameSum_le {samples : List Int} (sized : ∀ v ∈ samples, v.natAbs ≤ 2 ^ 16) :
    (samples.map fun v => v.natAbs * v.natAbs).sum ≤ 2 ^ 32 * samples.length := by
  induction samples with
  | nil => simp
  | cons v samples ih =>
    have later := ih fun w member => sized w (List.mem_cons_of_mem _ member)
    have here : v.natAbs * v.natAbs ≤ 2 ^ 16 * 2 ^ 16 :=
      Nat.mul_le_mul (sized v (List.mem_cons_self ..)) (sized v (List.mem_cons_self ..))
    rw [List.map_cons, List.sum_cons, List.length_cons]
    omega

theorem small_same {s after : State} (small : SmallState s) (callStart : after.callStart = s.callStart)
    (userId : after.userId = s.userId) (sum : after.sqSum = s.sqSum)
    (count : after.sqCount = s.sqCount) (peak : after.sqPeakRms = s.sqPeakRms) : SmallState after where
  callStart := by
    rw [callStart]
    exact small.callStart
  userId := by
    rw [userId]
    exact small.userId
  level := by
    rw [sum, count]
    exact small.level
  peak := by
    rw [peak]
    exact small.peak

theorem append_small {s : State} (small : SmallState s) (append : Append) (row : Text) :
    SmallState (s.append append row) := by
  cases append <;> exact small_same small rfl rfl rfl rfl rfl

theorem newDay_small {s : State} (small : SmallState s) (day : Day) : SmallState (s.newDay day) := by
  unfold State.newDay
  split <;> exact small_same small rfl rfl rfl rfl rfl

theorem writeCdr_small {s : State} (small : SmallState s) (day : Day) (clock : Clock)
    (append : Append) : SmallState (writeCdr day s clock append) := by
  have written := append_small (newDay_small small day) append (voiceRow day s clock)
  unfold writeCdr
  split
  next => exact small
  next =>
    cases append with
    | refused => exact written
    | whole => exact small_same written rfl rfl rfl rfl rfl
    | cut bytes => exact small_same written rfl rfl rfl rfl rfl

theorem writeTxCdr_small {s : State} (small : SmallState s) (day : Day) (clock : Clock)
    (tenths : Int) (emergency : Bool) (path : Text) (append : Append) :
    SmallState (writeTxCdr day s clock tenths emergency path append) := by
  unfold writeTxCdr
  split
  next => exact small
  next => exact append_small (newDay_small small day) append _

theorem configure_small {s : State} (small : SmallState s) (day : Day) (enabled : Bool) :
    SmallState (configure day s enabled) := by
  unfold configure
  dsimp only
  split
  next => exact small_same small rfl rfl rfl rfl rfl
  next => cases s.csv <;> exact small_same small rfl rfl rfl rfl rfl

theorem zero_small : (0 : Int).natAbs < bound := by
  decide

theorem statics_small (csv : Option Text) : SmallState (statics csv) where
  callStart := by simp [statics]
  userId := zero_small
  level := by simp [statics]
  peak := by simp [statics]

theorem step_small {day : Day} {s : State} (small : SmallState s) {i : Input}
    (ordinary : Ordinary i) : SmallState (step day s i) := by
  cases i with
  | corAssert clock emergency =>
    rw [step, onCorAssert]
    split
    next => exact small
    next => exact ⟨ordinary.now, small.userId, by simp, by simp⟩
  | corDrop clock append =>
    have written := writeCdr_small small day clock append
    rw [step, onCorDrop]
    split
    next => exact small
    next => exact ⟨written.callStart, zero_small, written.level, written.peak⟩
  | callerIdentified userId name method =>
    rw [step, onCallerIdentified]
    split
    next => exact small
    next => exact ⟨small.callStart, ordinary, small.level, small.peak⟩
  | recordingSaved direction path clock tenths emergency append =>
    rw [step]
    unfold onRecordingSaved
    split
    next =>
      split_ifs
      next => exact small_same small rfl rfl rfl rfl rfl
      next => exact small
      next => exact writeTxCdr_small small ..
      next => exact small
    next => exact small
  | announcement source description clock append =>
    rw [step, onAnnouncement]
    split
    next => exact small
    next => exact append_small (newDay_small small day) append _
  | audio samples =>
    have sum := frameSum_le ordinary
    rw [step, sqAudioTap]
    split
    next => exact small
    next some =>
      have length : samples.length ≠ 0 := by
        intro none
        simp [List.eq_nil_of_length_eq_zero none] at some
      have root := rootUp_le ((samples.map fun v => v.natAbs * v.natAbs).sum / samples.length)
      have mean : (samples.map fun v => v.natAbs * v.natAbs).sum / samples.length ≤ 2 ^ 32 :=
        Nat.div_le_of_le_mul (by rw [Nat.mul_comm]; exact sum)
      refine ⟨small.callStart, small.userId, ?_, ?_⟩
      next =>
        have level := small.level
        dsimp only
        rw [Nat.mul_add]
        omega
      next =>
        have peak := small.peak
        dsimp only
        omega
  | configure enabled => exact configure_small small day enabled
  | restart graceful clock append enabled => exact configure_small (statics_small _) day enabled

theorem records_file {day : Day} {inputs : List Input}
    (ordinary : ∀ i ∈ inputs, Ordinary i) {s : State} {log : List Record}
    (file : s.csv = fileOf day log) (small : SmallState s) (earlier : ∀ r ∈ log, Small r) :
    (run (step day) s inputs).csv = fileOf day (log ++ records day s inputs) ∧
      ∀ r ∈ log ++ records day s inputs, Small r := by
  induction inputs generalizing s log with
  | nil => simpa [records] using ⟨file, earlier⟩
  | cons i inputs ih =>
    have here := ordinary i (List.mem_cons_self ..)
    have each : ∀ r ∈ log ++ wrote s i, Small r := by
      intro r member
      rcases List.mem_append.mp member with old | new
      next => exact earlier r old
      next => exact wrote_small small here r new
    have later := ih (fun j member => ordinary j (List.mem_cons_of_mem _ member))
      (step_file file here) (step_small small here) each
    rw [List.append_assoc] at later
    exact later

theorem api_faithful {day : Day} (smallDay : SmallDay day) {s : State} (noFile : s.csv = none)
    (small : SmallState s) {inputs : List Input} (ordinary : ∀ i ∈ inputs, Ordinary i) :
    Faithful (run (step day) s inputs).csv (records day s inputs) ↔
      ∀ r ∈ records day s inputs, Readable r := by
  obtain ⟨file, each⟩ := @records_file day inputs ordinary s [] noFile small (by simp)
  rw [List.nil_append] at file each
  rw [file]
  exact file_faithful smallDay each

/-! ## A day of three records -/

def threeRecords : List Input :=
  callBy "Doe, Jane \"JD\"" ++
    [.recordingSaved (some "TX".toList) (some " tx, \"1\".wav".toList) (noon 6) 15 false .whole,
      .announcement (some "tts".toList) (some "One\ttwo".toList) (noon 7) .whole]

theorem noon_small {sec : Nat} (early : sec < 60) : SmallClock (noon sec) where
  now := by
    simp only [noon]
    omega
  hour := show 12 < bound by decide
  min := show 0 < bound by decide
  sec := Nat.lt_trans early (by decide)

theorem three_readable : ∀ r ∈ records newYear (statics none) threeRecords, Readable r := by
  decide +kernel

theorem three_ordinary : ∀ i ∈ threeRecords, Ordinary i := by
  simp only [threeRecords, callBy, List.cons_append, List.nil_append, List.forall_mem_cons]
  have user : (7 : Int).natAbs < bound := by decide
  have tenths : (15 : Int).natAbs < bound := by decide
  exact ⟨noon_small (by decide), user, ⟨noon_small (by decide), by simp⟩,
    ⟨noon_small (by decide), tenths, by simp⟩, ⟨noon_small (by decide), by simp⟩, by simp⟩

theorem three_shown :
    Faithful (run (step newYear) (statics none) threeRecords).csv
      (records newYear (statics none) threeRecords) :=
  (api_faithful ⟨by decide, by decide, by decide⟩ rfl (statics_small none) three_ordinary).mpr
    three_readable

-- An announcement of two lines.
theorem two_lines_lost :
    ¬ Faithful
      (run (step newYear) (statics none)
        [.announcement (some "tts".toList) (some "One\nTwo".toList) (noon 7) .whole]).csv
      (records newYear (statics none)
        [.announcement (some "tts".toList) (some "One\nTwo".toList) (noon 7) .whole]) := by
  decide +kernel

end Kerchunk.Cdr.WebApi
