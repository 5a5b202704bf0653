import Kerchunk.Cdr.Model
import Kerchunk.Lib.CString
import Kerchunk.Lib.Machine
import Mathlib.Data.Rat.Defs
import Mathlib.Tactic.Ring

set_option autoImplicit false

/-!
# Whether the replay agrees with the counters
-/

namespace Kerchunk.Cdr

open Config
open Machine (Guarded run)

/-! ## Columns -/

/-- The reader splits a row neither inside nor behind this text. -/
structure Column (text : Text) : Prop where
  noComma : ',' ∉ text
  noNewline : newline ∉ text
  clean : nul ∉ text

def Numeric (text : Text) : Prop :=
  ∀ c ∈ text, c.isDigit = true ∨ c = '-' ∨ c = ':' ∨ c = '.'

theorem Numeric.column {text : Text} (numeric : Numeric text) : Column text := by
  constructor
  next => exact fun member => absurd (numeric _ member) (by decide)
  next => exact fun member => absurd (numeric _ member) (by decide)
  next => exact fun member => absurd (numeric _ member) (by decide)

theorem Numeric.append {first second : Text} (one : Numeric first) (two : Numeric second) :
    Numeric (first ++ second) := fun c member =>
  (List.mem_append.mp member).elim (one c) (two c)

theorem Numeric.cons {c : Char} (sign : c = '-' ∨ c = ':' ∨ c = '.') {text : Text}
    (numeric : Numeric text) : Numeric (c :: text) := fun d member =>
  (List.mem_cons.mp member).elim (fun same => same ▸ .inr sign) (numeric d)

theorem digits_numeric (n : Nat) : Numeric (digits n) := fun c member =>
  .inl (Decimal.isDigit_toDigits n c member)

theorem padded_numeric (width n : Nat) : Numeric (padded width n) := fun c member =>
  .inl (Decimal.isDigit_padded _ n c member)

theorem intText_numeric (n : Int) : Numeric (intText n) := by
  unfold intText
  split
  next => exact (digits_numeric _).cons (.inl rfl)
  next => exact digits_numeric _

theorem dateText_numeric (day : Day) : Numeric (dateText day) :=
  ((padded_numeric 4 day.year).append ((padded_numeric 2 day.mon).cons (.inl rfl))).append
    ((padded_numeric 2 day.mday).cons (.inl rfl))

theorem timeText_numeric (clock : Clock) : Numeric (timeText clock) :=
  ((padded_numeric 2 clock.hour).append
    ((padded_numeric 2 clock.min).cons (.inr (.inl rfl)))).append
    ((padded_numeric 2 clock.sec).cons (.inr (.inl rfl)))

theorem tenthsText_numeric (tenths : Int) : Numeric (tenthsText tenths) := by
  refine Numeric.append (Numeric.append ?_ (digits_numeric _))
    ((digits_numeric _).cons (.inr (.inr rfl)))
  split
  next => exact Numeric.cons (.inl rfl) fun _ member => absurd member List.not_mem_nil
  next => exact fun _ member => absurd member List.not_mem_nil

theorem flagText_numeric (flag : Bool) : Numeric (flagText flag) := by
  cases flag <;> exact fun c member => .inl (List.mem_singleton.mp member ▸ rfl)

theorem mem_csvField {value : Text} {c : Char} (member : c ∈ csvField value) :
    c ∈ cstr value ∨ c = doubleQuote := by
  -- Quoting adds quotes only.
  simp only [csvField] at member
  split at member
  next =>
    simp only [List.mem_append, List.mem_cons, List.mem_flatMap] at member
    rcases member with (rfl | ⟨d, present, among⟩) | last
    next => exact .inr rfl
    next =>
      split at among
      next quote =>
        have isQuote : c = doubleQuote := by simpa [quote] using among
        exact .inr isQuote
      next => exact .inl (List.mem_singleton.mp among ▸ present)
    next => exact .inr (by simpa using last)
  next => exact .inl member

theorem csvField_column {value : Text} (noComma : ',' ∉ cstr value)
    (noNewline : newline ∉ cstr value) : Column (csvField value) := by
  constructor
  next =>
    intro member
    rcases mem_csvField member with inside | quote
    next => exact noComma inside
    next => exact absurd quote (by decide)
  next =>
    intro member
    rcases mem_csvField member with inside | quote
    next => exact noNewline inside
    next => exact absurd quote (by decide)
  next =>
    intro member
    rcases mem_csvField member with inside | quote
    next => exact nul_cstr value inside
    next => exact absurd quote (by decide)

/-! ## Rows -/

theorem splitCommas_column {field : Text} (noComma : ',' ∉ field) (count : Nat) (rest : Text) :
    splitCommas (count + 1) (field ++ ',' :: rest) = field :: splitCommas count rest := by
  have plain : ∀ c ∈ field, decide (c ≠ ',') = true := by
    intro c member
    exact decide_eq_true fun same => noComma (same ▸ member)
  rw [splitCommas, List.dropWhile_append_of_pos plain, List.takeWhile_append_of_pos plain]
  simp

theorem replayRow_columns {a b c d name f g : Text} {rest : List Text} (columns : ∀ text ∈ [a, b, c, d, name, f], ',' ∉ text)
    (clean : nul ∉ csvRow (a :: b :: c :: d :: name :: f :: g :: rest)) :
    replayRow (csvRow (a :: b :: c :: d :: name :: f :: g :: rest)) =
      if name = "system".toList then none else some (atof (csvRow (g :: rest))) := by
  -- A row of these columns, read alone.
  have split : splitCommas 6 (csvRow (a :: b :: c :: d :: name :: f :: g :: rest)) =
      [a, b, c, d, name, f, csvRow (g :: rest)] := by
    simp only [csvRow, csvColumns, List.append_assoc, List.cons_append]
    rw [splitCommas_column (columns a (by simp)), splitCommas_column (columns b (by simp)),
      splitCommas_column (columns c (by simp)), splitCommas_column (columns d (by simp)),
      splitCommas_column (columns name (by simp)), splitCommas_column (columns f (by simp)),
      splitCommas]
  rw [replayRow, cstr_same clean, split]

theorem mem_csvColumns {fields : List Text} {c : Char} (member : c ∈ csvColumns fields) :
    c = ',' ∨ ∃ field ∈ fields, c ∈ field := by
  induction fields with
  | nil => cases member
  | cons field rest ih =>
    cases rest with
    | nil => exact .inr ⟨field, List.mem_cons_self .., member⟩
    | cons next rest =>
      rcases List.mem_append.mp member with here | later
      next => exact .inr ⟨field, List.mem_cons_self .., here⟩
      next =>
        rcases List.mem_cons.mp later with comma | later
        next => exact .inl comma
        next =>
          rcases ih later with comma | ⟨other, present, inside⟩
          next => exact .inl comma
          next => exact .inr ⟨other, List.mem_cons_of_mem _ present, inside⟩

theorem notMem_csvColumns {fields : List Text} {c : Char} (other : c ≠ ',')
    (absent : ∀ field ∈ fields, c ∉ field) : c ∉ csvColumns fields := fun member =>
  (mem_csvColumns member).elim other fun ⟨field, present, inside⟩ => absent field present inside

theorem chunks_row {fields : List Text} (whole : ∀ field ∈ fields, newline ∉ field)
    (short : (csvRow fields).length < lineSize) : chunks (csvRow fields) = [csvRow fields] := by
  have noNewline : newline ∉ csvColumns fields := notMem_csvColumns (by decide) whole
  have fits : (csvColumns fields).length < lineSize - 1 := by
    rw [csvRow, List.length_append, List.length_singleton] at short
    omega
  have saved := @fileLines_saved [csvColumns fields] (by simpa using noNewline)
    (by simpa using fits) _ (Nat.le_refl _)
  simpa [chunks, csvRow] using saved

theorem terminated_append {first second : Text} (some : second ≠ []) (terminated : Terminated second) :
    Terminated (first ++ second) := by
  intro c isLast
  rw [List.getLast?_append_of_ne_nil _ some] at isLast
  exact terminated c isLast

theorem csvRow_ne_nil (fields : List Text) : csvRow fields ≠ [] := by
  simp [csvRow]

theorem csvRow_terminated (fields : List Text) : Terminated (csvRow fields) :=
  terminated_concat _

/-! ## Numbers -/

theorem decimalValue_whole (n : Nat) (rest : Text) :
    decimalValue (digits n ++ '.' :: '0' :: ',' :: rest) = n := by
  have dot : ∀ c ∈ ('.' :: '0' :: ',' :: rest).head?, c.isDigit = false := by simp
  obtain ⟨whole, after⟩ := Decimal.takeWhile_digits (Decimal.isDigit_toDigits n) dot
  rw [← digits] at whole after
  have zero : ('0' :: ',' :: rest).takeWhile Char.isDigit = ['0'] := by
    simp [show Char.isDigit '0' = true by decide, show Char.isDigit ',' = false by decide]
  have left : ('0' :: ',' :: rest).dropWhile Char.isDigit = ',' :: rest := by
    simp [show Char.isDigit '0' = true by decide, show Char.isDigit ',' = false by decide]
  have value : Nat.ofDigitChars 10 (digits n ++ ['0']) 0 = n * 10 := by
    rw [Nat.ofDigitChars_append, digits, Nat.ofDigitChars_ten_toDigits]
    simp [Nat.ofDigitChars, Nat.mul_comm]
  simp only [decimalValue, whole, after, List.head?_cons, if_true, List.tail_cons, zero, left]
  rw [value]
  simp only [exponent, show ¬ (',' = 'e' ∨ ',' = 'E') by decide, if_false]
  have power : (if digits n ++ ['0'] = [] then (0 : Int) else 0) = 0 := ite_self 0
  rw [power]
  calc mkRat ((n * 10 * 1 : Nat) : Int) (10 * 1 * 1)
    _ = mkRat ((n : Int) * (10 : Nat)) (1 * 10) := by simp
    _ = mkRat n 1 := Rat.mkRat_mul_right (by decide)
    _ = n := Rat.mkRat_one ..

theorem tenthsText_whole (d : Int) :
    tenthsText (10 * d) = (if d < 0 then ['-'] else []) ++ digits d.natAbs ++ ['.', '0'] := by
  have sign : 10 * d < 0 ↔ d < 0 := by omega
  have whole : (10 * d).natAbs / 10 = d.natAbs := by omega
  have fraction : (10 * d).natAbs % 10 = 0 := by omega
  rw [tenthsText, whole, fraction]
  simp only [sign]
  rfl

theorem atof_whole (d : Int) (rest : Text) : atof (tenthsText (10 * d) ++ ',' :: rest) = d := by
  -- A whole number of seconds is read back.
  rw [tenthsText_whole]
  by_cases negative : d < 0
  next =>
    have text : (if d < 0 then ['-'] else []) ++ digits d.natAbs ++ ['.', '0'] ++ ',' :: rest =
        '-' :: (digits d.natAbs ++ '.' :: '0' :: ',' :: rest) := by simp [negative]
    have sign : isspace '-' = false := by decide
    rw [text, atof, List.dropWhile_cons_of_neg (by simp [sign])]
    simp only [decimalValue_whole]
    have abs : (d.natAbs : Int) = -d := by omega
    rw [← Int.cast_natCast, abs]
    simp
  next =>
    have text : (if d < 0 then ['-'] else []) ++ digits d.natAbs ++ ['.', '0'] ++ ',' :: rest =
        digits d.natAbs ++ '.' :: '0' :: ',' :: rest := by simp [negative]
    have value := decimalValue_whole d.natAbs rest
    have abs : (d.natAbs : Int) = d := by omega
    rw [← Int.cast_natCast, abs] at value
    rw [text]
    cases first : digits d.natAbs with
    | nil => exact absurd first Nat.toDigits_ne_nil
    | cons c more =>
      have isDigit : c.isDigit = true :=
        Decimal.isDigit_toDigits d.natAbs c
          (show c ∈ digits d.natAbs by rw [first]; exact List.mem_cons_self ..)
      have noSpace : isspace c = false := by
        have bounds := Char.isDigit_iff_toNat.mp isDigit
        have zero : '0'.toNat = 48 := rfl
        have nine : '9'.toNat = 57 := rfl
        simp only [isspace, Bool.or_eq_false_iff, Bool.and_eq_false_iff, decide_eq_false_iff_not]
        omega
      rw [first, List.cons_append] at value
      rw [List.cons_append, atof, List.dropWhile_cons_of_neg (by simp [noSpace])]
      split
      next same =>
        obtain ⟨rfl, _⟩ := List.cons.inj same
        exact absurd isDigit (by decide)
      next same =>
        obtain ⟨rfl, _⟩ := List.cons.inj same
        exact absurd isDigit (by decide)
      next => exact value

/-! ## Files -/

def counts (row : Text) : List Rat :=
  -- What the reader makes of a row.
  (chunks row).filterMap replayRow

structure Written (text : Text) : Prop where
  some : text ≠ []
  terminated : Terminated text

theorem chunks_ne_nil {text : Text} (some : text ≠ []) : chunks text ≠ [] := by
  rw [chunks_cons some]
  exact List.cons_ne_nil _ _

theorem replay_append {text : Text} (written : Written text) (row : Text) :
    replay (text ++ row) = replay text ++ counts row := by
  rw [replay, chunks_append written.terminated, List.tail_append_of_ne_nil (chunks_ne_nil written.some),
    List.filterMap_append]
  rfl

theorem chunks_header : chunks header = [header] := by decide

theorem replay_header (row : Text) : replay (header ++ row) = counts row := by
  have ends : Terminated header := csvRow_terminated _
  rw [replay, chunks_append ends, chunks_header]
  rfl

theorem appended_written {old : Text} (written : old ≠ [] → Written old) (fields : List Text) :
    Written (old ++ appended old (csvRow fields)) ∧
      replay (old ++ appended old (csvRow fields)) = replay old ++ counts (csvRow fields) := by
  have ends (front : Text) : Written (front ++ csvRow fields) :=
    ⟨by simp [csvRow_ne_nil], terminated_append (csvRow_ne_nil fields) (csvRow_terminated fields)⟩
  by_cases first : old = []
  next =>
    rw [appended, if_pos first, first, List.nil_append]
    exact ⟨ends header, replay_header _⟩
  next =>
    rw [appended, if_neg first, List.nil_append]
    exact ⟨ends old, replay_append (written first) _⟩

theorem total_concat (seconds : List Rat) (last : Rat) :
    total (seconds ++ [last]) = total seconds + last := by
  simp [total, List.foldl_append]

/-! ## When the replay is right -/

variable (day : Day)

def restarted (s : State) : State :=
  -- A new process that reads the file of the day.
  configure day (statics s.csv) true

def Agrees (s : State) : Prop :=
  -- After a restart the counters of the day are what they were.
  s.enabled = true → s.todayDay = day.yday →
    (restarted day s).todayCalls = s.todayCalls ∧ (restarted day s).todaySeconds = s.todaySeconds

/-- The reader finds the columns of the call's row, and does not take it for an announcement. -/
structure LegibleCall (s : State) (clock : Clock) : Prop where
  noComma : ',' ∉ s.callName
  noNewline : newline ∉ s.callName
  notSystem : s.callName ≠ "system".toList
  recording : newline ∉ cstr s.recording
  short : (voiceRow day s clock).length < lineSize

def CallReads (s : State) (clock : Clock) : Append → Prop
  | .whole => LegibleCall day s clock
  | .refused => True
  | .cut _ => False

def Uncounted (row : Text) : Append → Prop
  -- The reader counts no line of the row.
  | .whole => counts row = []
  | .refused => True
  | .cut _ => False

def IsRefused : Append → Prop
  | .refused => True
  | _ => False

/-- Rows are written whole, those of calls legible, those of announcements uncounted, those of
transmissions not at all. A reload before the first row of the day finds no counts of another. -/
def Legible (s : State) : Input → Prop
  | .corDrop clock append => s.enabled = true → s.inCall = true → CallReads day s clock append
  | .recordingSaved direction path _ _ _ append =>
    s.enabled = true → direction.map cstr = some "TX".toList → path.isSome = true → IsRefused append
  | .announcement source description clock append =>
    s.enabled = true →
      Uncounted (announcementRow day clock (source.getD []) (description.getD [])) append
  | .configure enabled =>
    enabled = true → s.csv = none → s.todayCalls = 0 ∧ s.todaySeconds = 0
  | .restart graceful clock append _ =>
    graceful = true → s.inCall = true → CallReads day s clock append
  | _ => True

/-- The day begins: there is no file of it, and the counters of the day before may be left. -/
structure DayBegins (s : State) : Prop where
  noFile : s.csv = none
  noCalls : s.enabled = true → s.todayDay = day.yday → s.todayCalls = 0 ∧ s.todaySeconds = 0
  method : s.method = [] ∨ ∃ code, s.method = methodText code

/-! ## Steps -/

def Counted (s : State) : Prop :=
  s.todayCalls = (replay (s.csv.getD [])).length ∧
    s.todaySeconds = total (replay (s.csv.getD []))

structure Sound (s : State) : Prop where
  file : ∀ text ∈ s.csv, Written text
  method : s.method = [] ∨ ∃ code, s.method = methodText code
  notYet : s.enabled = true → s.todayDay ≠ day.yday → s.csv = none
  today : s.enabled = true → s.todayDay = day.yday → Counted s

variable {day} {s : State}

theorem methodText_column (code : Int) : Column (methodText code) := by
  unfold methodText
  split
  next => exact ⟨by decide, by decide, by decide⟩
  split
  next => exact ⟨by decide, by decide, by decide⟩
  split
  next => exact ⟨by decide, by decide, by decide⟩
  split
  next => exact ⟨by decide, by decide, by decide⟩
  split
  next => exact ⟨by decide, by decide, by decide⟩
  next => exact ⟨by decide, by decide, by decide⟩

theorem cstr_orUnknown (value : Text) : cstr (orUnknown value) = orUnknown value := by
  apply cstr_same
  unfold orUnknown
  split
  next => decide
  next => exact nul_cstr value

theorem method_column (method : s.method = [] ∨ ∃ code, s.method = methodText code) :
    Column (csvField (orUnknown s.method)) := by
  have known : Column (orUnknown s.method) := by
    unfold orUnknown
    split
    next => exact ⟨by decide, by decide, by decide⟩
    next named =>
      rcases method with none | ⟨code, same⟩
      next =>
        rw [none] at named
        exact absurd rfl named
      next =>
        rw [same, cstr_same (methodText_column code).clean]
        exact methodText_column code
  apply csvField_column <;> rw [cstr_orUnknown]
  next => exact known.noComma
  next => exact known.noNewline

theorem csvField_ne_system {value : Text} (clean : cstr value = value)
    (other : value ≠ "system".toList) : csvField value ≠ "system".toList := by
  simp only [csvField, clean]
  split
  next =>
    intro same
    exact absurd (List.cons.inj same).1 (by decide)
  next => exact other

theorem counts_voiceRow {clock : Clock} (legible : LegibleCall day s clock)
    (method : s.method = [] ∨ ∃ code, s.method = methodText code) :
    counts (voiceRow day s clock) = [((s.duration clock : Int) : Rat)] := by
  -- A legible row counts for one call of its duration.
  have cleanName : cstr s.callName = s.callName := cstr_orUnknown s.userName
  have name : Column (csvField s.callName) :=
    csvField_column (by rw [cleanName]; exact legible.noComma)
      (by rw [cleanName]; exact legible.noNewline)
  have methodColumn := method_column method
  have date := (dateText_numeric day).column
  have time := (timeText_numeric clock).column
  have now := (intText_numeric clock.now).column
  have user := (intText_numeric s.userId).column
  have duration := (tenthsText_numeric (10 * s.duration clock)).column
  have emergency := (flagText_numeric s.emergency).column
  have avg := (digits_numeric s.avgRms).column
  have peak := (digits_numeric s.sqPeakRms).column
  have noNewline : newline ∉ csvField s.recording := fun member =>
    (mem_csvField member).elim legible.recording fun quote => absurd quote (by decide)
  have clean : nul ∉ csvField s.recording := fun member =>
    (mem_csvField member).elim (nul_cstr _) fun quote => absurd quote (by decide)
  have cleanRow : nul ∉ voiceRow day s clock := by
    refine fun member => (List.mem_append.mp member).elim (notMem_csvColumns (by decide) ?_) (by decide)
    simp [date.clean, time.clean, now.clean, user.clean, name.clean, methodColumn.clean,
      duration.clean, emergency.clean, avg.clean, peak.clean, clean]
  have whole : chunks (voiceRow day s clock) = [voiceRow day s clock] := by
    refine chunks_row ?_ legible.short
    simp [date.noNewline, time.noNewline, now.noNewline, user.noNewline, name.noNewline,
      methodColumn.noNewline, duration.noNewline, emergency.noNewline, avg.noNewline,
      peak.noNewline, noNewline]
  have read : replayRow (voiceRow day s clock) = some ((s.duration clock : Int) : Rat) := by
    unfold voiceRow at cleanRow ⊢
    rw [replayRow_columns (by simp [date.noComma, time.noComma, now.noComma, user.noComma,
      name.noComma, methodColumn.noComma]) cleanRow,
      if_neg (csvField_ne_system cleanName legible.notSystem)]
    simp only [csvRow, csvColumns, List.append_assoc, List.cons_append, atof_whole]
  rw [counts, whole, List.filterMap_cons, read]
  rfl

theorem newDay_csv (day : Day) (s : State) : (s.newDay day).csv = s.csv := by
  unfold State.newDay
  split <;> rfl

theorem newDay_day (day : Day) (s : State) : (s.newDay day).todayDay = day.yday := by
  unfold State.newDay
  split
  next same => exact same.symm
  next => rfl

theorem newDay_counted (sound : Sound day s) (enabled : s.enabled = true) :
    Counted (s.newDay day) := by
  by_cases same : day.yday = s.todayDay
  next =>
    rw [State.newDay, if_pos same]
    exact sound.today enabled same.symm
  next =>
    have none := sound.notYet enabled (Ne.symm same)
    rw [State.newDay, if_neg same]
    simp only [Counted, none]
    exact ⟨rfl, rfl⟩

theorem file_written (file : ∀ text ∈ s.csv, Written text) :
    s.csv.getD [] ≠ [] → Written (s.csv.getD []) := by
  cases csv : s.csv with
  | none => exact fun some => absurd rfl some
  | some text => exact fun _ => file text csv

theorem append_whole (file : ∀ text ∈ s.csv, Written text) (fields : List Text) :
    (∀ text ∈ (s.append .whole (csvRow fields)).csv, Written text) ∧
      replay ((s.append .whole (csvRow fields)).csv.getD []) =
        replay (s.csv.getD []) ++ counts (csvRow fields) := by
  obtain ⟨written, replayed⟩ := appended_written (file_written file) fields
  refine ⟨fun text isFile => ?_, replayed⟩
  rw [← Option.some.inj (Option.mem_def.mp isFile)]
  exact written

theorem writeCdr_counts {clock : Clock} {append : Append}
    (file : ∀ text ∈ s.csv, Written text)
    (method : s.method = [] ∨ ∃ code, s.method = methodText code)
    (reads : s.inCall = true → CallReads day s clock append) :
    (∀ text ∈ (writeCdr day s clock append).csv, Written text) ∧
      (Counted (s.newDay day) → s.inCall = true → Counted (writeCdr day s clock append)) := by
  -- The file after a call's row, and the counters beside it.
  have sameCsv := newDay_csv day s
  have newFile : ∀ text ∈ (s.newDay day).csv, Written text := by rwa [sameCsv]
  cases inCall : s.inCall with
  | false =>
    rw [writeCdr, if_pos (by simp [inCall])]
    exact ⟨file, fun _ called => absurd called (by simp)⟩
  | true =>
    rw [writeCdr, if_neg (by simp [inCall])]
    cases append with
    | refused => exact ⟨newFile, fun counted _ => counted⟩
    | cut bytes => exact (reads inCall).elim
    | whole =>
      obtain ⟨written, replayed⟩ := append_whole newFile
        [intText clock.now, dateText day, timeText clock, intText s.userId, csvField s.callName,
          csvField (orUnknown s.method), tenthsText (10 * s.duration clock), flagText s.emergency,
          digits s.avgRms, digits s.sqPeakRms, csvField s.recording]
      have row := counts_voiceRow (reads inCall) method
      refine ⟨written, fun counted _ => ?_⟩
      unfold voiceRow at row
      rw [row] at replayed
      constructor
      next =>
        dsimp only
        rw [show voiceRow day s clock = csvRow _ from rfl, replayed, List.length_append,
          ← counted.1]
        rfl
      next =>
        dsimp only
        rw [show voiceRow day s clock = csvRow _ from rfl, replayed, total_concat, ← counted.2]
        rfl

theorem append_uncounted {fields : List Text} {append : Append}
    (uncounted : Uncounted (csvRow fields) append) (file : ∀ text ∈ s.csv, Written text)
    (counted : Counted s) :
    (∀ text ∈ (s.append append (csvRow fields)).csv, Written text) ∧
      Counted (s.append append (csvRow fields)) := by
  -- A row that is not counted leaves the counts.
  cases append with
  | refused => exact ⟨file, counted⟩
  | cut bytes => exact uncounted.elim
  | whole =>
    obtain ⟨written, replayed⟩ := append_whole file fields
    have none : counts (csvRow fields) = [] := uncounted
    rw [none, List.append_nil] at replayed
    refine ⟨written, ?_⟩
    unfold Counted
    rw [replayed]
    exact counted

theorem append_frame (s : State) (append : Append) (row : Text) :
    (s.append append row).todayDay = s.todayDay ∧ (s.append append row).method = s.method ∧
      (s.append append row).enabled = s.enabled := by
  cases append <;> exact ⟨rfl, rfl, rfl⟩

theorem newDay_frame (day : Day) (s : State) :
    (s.newDay day).method = s.method ∧ (s.newDay day).enabled = s.enabled := by
  unfold State.newDay
  split <;> exact ⟨rfl, rfl⟩

theorem writeCdr_frame (day : Day) (s : State) (clock : Clock) (append : Append) :
    (writeCdr day s clock append).enabled = s.enabled ∧
      (s.inCall = true → (writeCdr day s clock append).todayDay = day.yday) := by
  have same := newDay_frame day s
  have today := newDay_day day s
  unfold writeCdr
  split
  next idle => exact ⟨rfl, fun called => absurd called (by simpa using idle)⟩
  next => cases append <;> exact ⟨same.2, fun _ => today⟩

theorem sound_same {after : State} (sound : Sound day s) (csv : after.csv = s.csv)
    (enabled : after.enabled = s.enabled) (today : after.todayDay = s.todayDay)
    (calls : after.todayCalls = s.todayCalls) (seconds : after.todaySeconds = s.todaySeconds)
    (method : after.method = [] ∨ ∃ code, after.method = methodText code) : Sound day after := by
  -- A handler that leaves the file and the counters.
  constructor
  next => rw [csv]; exact sound.file
  next => exact method
  next => rw [csv, enabled, today]; exact sound.notYet
  next =>
    rw [enabled, today, Counted, csv, calls, seconds]
    exact sound.today

theorem configure_none (day : Day) (none : s.csv = none) :
    configure day s true = { s with enabled := true, todayDay := day.yday } := by
  simp only [configure, none, Bool.not_true, Bool.false_eq_true, if_false]

theorem configure_some (day : Day) {text : Text} (some : s.csv = some text) :
    configure day s true =
      { s with
        enabled := true
        todayCalls := (replay text).length
        todaySeconds := total (replay text)
        todayDay := day.yday } := by
  simp only [configure, some, Bool.not_true, Bool.false_eq_true, if_false]

theorem sound_configure (file : ∀ text ∈ s.csv, Written text)
    (method : s.method = [] ∨ ∃ code, s.method = methodText code) {enabled : Bool}
    (zero : enabled = true → s.csv = none → s.todayCalls = 0 ∧ s.todaySeconds = 0) :
    Sound day (configure day s enabled) := by
  cases enabled with
  | false =>
    have off : configure day s false = { s with enabled := false } := rfl
    rw [off]
    exact ⟨file, method, fun on => absurd on (by simp), fun on => absurd on (by simp)⟩
  | true =>
    cases csv : s.csv with
    | none =>
      rw [configure_none day csv]
      refine ⟨file, method, fun _ other => absurd rfl other, fun _ _ => ?_⟩
      simp only [Counted, csv]
      exact zero rfl csv
    | some text =>
      rw [configure_some day csv]
      refine ⟨file, method, fun _ other => absurd rfl other, fun _ _ => ?_⟩
      simp only [Counted, csv]
      exact ⟨rfl, rfl⟩

theorem sound_recording {direction path : Text} {clock : Clock} {tenths : Int} {emergency : Bool}
    {append : Append} (sound : Sound day s)
    (legible :
      Legible day s (.recordingSaved (some direction) (some path) clock tenths emergency append)) :
    Sound day
      (onRecordingSaved day s (some direction) (some path) clock tenths emergency append) := by
  simp only [onRecordingSaved]
  split
  next =>
    split
    next => exact sound_same sound rfl rfl rfl rfl rfl sound.method
    next => exact sound
  split
  next isTx =>
    rw [writeTxCdr]
    split
    next => exact sound
    next active =>
      have enabled : s.enabled = true := by simpa using active
      have refused := legible enabled (congrArg some isTx) rfl
      cases append with
      | refused =>
        exact ⟨(newDay_csv day s).symm ▸ sound.file, (newDay_frame day s).1 ▸ sound.method,
          fun _ other => absurd (newDay_day day s) other, fun _ _ => newDay_counted sound enabled⟩
      | whole => exact refused.elim
      | cut bytes => exact refused.elim
  next => exact sound

theorem sound_step {i : Input} (sound : Sound day s) (legible : Legible day s i) :
    Sound day (step day s i) := by
  cases i with
  | corAssert clock emergency =>
    rw [step, onCorAssert]
    split
    next => exact sound
    next => exact sound_same sound rfl rfl rfl rfl rfl sound.method
  | corDrop clock append =>
    rw [step, onCorDrop]
    split
    next => exact sound
    next active =>
      obtain ⟨enabled, inCall⟩ : s.enabled = true ∧ s.inCall = true := by simpa using active
      obtain ⟨file, counted⟩ := writeCdr_counts sound.file sound.method (legible enabled)
      obtain ⟨_, today⟩ := writeCdr_frame day s clock append
      exact ⟨file, .inl rfl, fun _ other => absurd (today inCall) other, fun _ _ =>
        counted (newDay_counted sound enabled) inCall⟩
  | callerIdentified userId name method =>
    rw [step, onCallerIdentified]
    split
    next => exact sound
    next => exact sound_same sound rfl rfl rfl rfl rfl (.inr ⟨method, rfl⟩)
  | recordingSaved direction path clock tenths emergency append =>
    cases direction with
    | none => exact sound
    | some direction =>
      cases path with
      | none => exact sound
      | some path => exact sound_recording sound legible
  | announcement source description clock append =>
    rw [step, onAnnouncement]
    split
    next => exact sound
    next active =>
      have enabled : s.enabled = true := by simpa using active
      have newFile : ∀ text ∈ (s.newDay day).csv, Written text := by
        rw [newDay_csv]
        exact sound.file
      obtain ⟨file, counted⟩ :=
        append_uncounted (legible enabled) newFile (newDay_counted sound enabled)
      obtain ⟨today, method, _⟩ := append_frame (s.newDay day) append
        (announcementRow day clock (source.getD []) (description.getD []))
      refine ⟨file, ?_, fun _ other => absurd (today.trans (newDay_day day s)) other, fun _ _ =>
        counted⟩
      rw [method, (newDay_frame day s).1]
      exact sound.method
  | audio samples =>
    rw [step, sqAudioTap]
    split
    next => exact sound
    next => exact sound_same sound rfl rfl rfl rfl rfl sound.method
  | configure enabled => exact sound_configure sound.file sound.method legible
  | restart graceful clock append enabled =>
    refine sound_configure (s := statics _) ?_ (.inl rfl) fun _ _ => ⟨rfl, rfl⟩
    cases graceful with
    | false => exact sound.file
    | true => exact (writeCdr_counts sound.file sound.method (legible rfl)).1

theorem sound_begins (begins : DayBegins day s) : Sound day s := by
  refine ⟨by simp [begins.noFile], begins.method, fun _ _ => begins.noFile, fun enabled today => ?_⟩
  rw [Counted, begins.noFile]
  exact begins.noCalls enabled today

theorem sound_agrees (sound : Sound day s) : Agrees day s := by
  intro enabled today
  obtain ⟨calls, seconds⟩ := sound.today enabled today
  cases csv : s.csv with
  | none =>
    rw [csv] at calls seconds
    rw [restarted, configure_none day (s := statics s.csv) csv, calls, seconds]
    exact ⟨rfl, rfl⟩
  | some text =>
    rw [csv] at calls seconds
    rw [restarted, configure_some day (s := statics s.csv) csv, calls, seconds]
    exact ⟨rfl, rfl⟩

/-! ## Runs -/

theorem replay_agrees {start : State} (begins : DayBegins day start) {inputs : List Input}
    (legible : Guarded (step day) (Legible day) start inputs) :
    Agrees day (run (step day) start inputs) :=
  sound_agrees (Machine.run_invariant (step day) (fun _ _ => sound_step) (sound_begins begins)
    legible)

/-! ## A call of five seconds -/

def newYear : Day where
  year := 2025
  mon := 1
  mday := 2
  yday := 1

def noon (sec : Nat) : Clock where
  now := 1735819200 + sec
  hour := 12
  min := 0
  sec := sec

def callBy (name : String) : List Input :=
  [.corAssert (noon 0) false, .callerIdentified 7 (some name.toList) 4, .corDrop (noon 5) .whole]

theorem plain_call_agrees :
    Agrees newYear (run (step newYear) (statics none) (callBy "Jane \"JD\" Doe")) :=
  replay_agrees ⟨rfl, fun _ _ => ⟨rfl, rfl⟩, .inl rfl⟩
    ⟨trivial, trivial,
      fun _ _ => ⟨by decide, by decide, by decide, by decide, by decide +kernel⟩, trivial⟩

-- With a comma in the name the reader takes the method for the duration.
theorem comma_loses_seconds :
    ¬ Agrees newYear (run (step newYear) (statics none) (callBy "Doe, Jane")) := by
  intro agrees
  have kept := (agrees (by decide +kernel) (by decide +kernel)).2
  exact absurd kept (by decide +kernel)

end Kerchunk.Cdr
