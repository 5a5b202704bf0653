import Kerchunk.Config.Layout
import Mathlib.Algebra.GroupWithZero.Nat

set_option autoImplicit false

/-!
# Call detail records (`modules/mod_cdr.c`)

The log of one day. Durations of calls are whole seconds, on which the arithmetic of doubles is
exact.
-/

namespace Kerchunk.Cdr

open Config

/-! ## Columns -/

/-- A day, as `localtime` gives it. -/
structure Day where
  year : Nat
  mon : Nat
  mday : Nat
  yday : Nat
deriving DecidableEq

/-- The clock at some moment of the day. -/
structure Clock where
  now : Int
  hour : Nat
  min : Nat
  sec : Nat

def digits (n : Nat) : Text :=
  Nat.toDigits 10 n

def intText (n : Int) : Text :=
  if n < 0 then '-' :: digits n.natAbs else digits n.natAbs

def padded (width n : Nat) : Text :=
  List.replicate (width - (digits n).length) '0' ++ digits n

def dateText (day : Day) : Text :=
  padded 4 day.year ++ '-' :: padded 2 day.mon ++ '-' :: padded 2 day.mday

def timeText (clock : Clock) : Text :=
  padded 2 clock.hour ++ ':' :: padded 2 clock.min ++ ':' :: padded 2 clock.sec

def tenthsText (tenths : Int) : Text :=
  -- `%.1f` of so many tenths.
  (if tenths < 0 then ['-'] else []) ++ digits (tenths.natAbs / 10) ++
    '.' :: digits (tenths.natAbs % 10)

def flagText (flag : Bool) : Text :=
  if flag then ['1'] else ['0']

def needsQuote (c : Char) : Bool :=
  c = ',' || c = doubleQuote || c = newline || c = carriageReturn

def csvField (value : Text) : Text :=
  let s := cstr value
  if s.any needsQuote then
    doubleQuote :: s.flatMap (fun c => if c = doubleQuote then [doubleQuote, c] else [c]) ++
      [doubleQuote]
  else s

def csvColumns : List Text → Text
  | [] => []
  | [field] => field
  | field :: next :: rest => field ++ ',' :: csvColumns (next :: rest)

def csvRow (fields : List Text) : Text :=
  csvColumns fields ++ [newline]

def header : Text :=
  csvRow ["timestamp".toList, "date".toList, "time".toList, "user_id".toList, "user_name".toList,
    "method".toList, "duration_s".toList, "emergency".toList, "avg_rms".toList, "peak_rms".toList,
    "recording".toList]

/-! ## Replay -/

def splitCommas : Nat → Text → List Text
  | 0, text => [text]
  | count + 1, text =>
    match text.dropWhile (· ≠ ',') with
    | [] => [text]
    | _ :: rest => text.takeWhile (· ≠ ',') :: splitCommas count rest

def pow10 : Nat → Nat
  | 0 => 1
  | n + 1 => 10 * pow10 n

def leadingNat (text : Text) : Nat :=
  Nat.ofDigitChars 10 (text.takeWhile Char.isDigit) 0

def exponent (text : Text) : Int :=
  match text with
  | [] => 0
  | c :: rest =>
    if c = 'e' ∨ c = 'E' then
      match rest with
      | '-' :: power => -(leadingNat power : Int)
      | '+' :: power => leadingNat power
      | power => leadingNat power
    else 0

def decimalValue (text : Text) : Rat :=
  -- The decimal number at the start of an unsigned text, 0 when there is none.
  let whole := text.takeWhile Char.isDigit
  let rest := text.dropWhile Char.isDigit
  let fraction := if rest.head? = some '.' then rest.tail.takeWhile Char.isDigit else []
  let after := if rest.head? = some '.' then rest.tail.dropWhile Char.isDigit else rest
  let power := if whole ++ fraction = [] then 0 else exponent after
  mkRat (Nat.ofDigitChars 10 (whole ++ fraction) 0 * pow10 power.toNat)
    (pow10 fraction.length * pow10 (-power).toNat)

def atof (text : Text) : Rat :=
  -- `atof` of a decimal number.
  match text.dropWhile isspace with
  | '-' :: rest => -decimalValue rest
  | '+' :: rest => decimalValue rest
  | rest => decimalValue rest

def replayRow (line : Text) : Option Rat :=
  -- The seconds that a line counts for; `none` when it counts for no call.
  match splitCommas 6 (cstr line) with
  | [_, _, _, _, userName, _, duration] =>
    if userName = "system".toList then none else some (atof duration)
  | _ => none

-- The first line is the header.
def replay (csv : Text) : List Rat :=
  (chunks csv).tail.filterMap replayRow

def total (seconds : List Rat) : Rat :=
  seconds.foldl (· + ·) 0

/-! ## State -/

/-- The module's variables, and the day's file when there is one. -/
structure State where
  enabled : Bool
  inCall : Bool
  callStart : Int
  userId : Int
  userName : Text
  method : Text
  emergency : Bool
  recording : Text
  sqSum : Nat
  sqCount : Nat
  sqPeakRms : Nat
  todayCalls : Nat
  todaySeconds : Rat
  todayDay : Nat
  csv : Option Text

def statics (csv : Option Text) : State where
  -- The variables of a new process.
  enabled := true
  inCall := false
  callStart := 0
  userId := 0
  userName := []
  method := []
  emergency := false
  recording := []
  sqSum := 0
  sqCount := 0
  sqPeakRms := 0
  todayCalls := 0
  todaySeconds := 0
  todayDay := 0
  csv := csv

/-- How appending a row ends. Writes that fail half way are not noticed. -/
inductive Append where
  | whole
  | refused
  | cut (bytes : Nat)

variable (day : Day)

/-! ## Writing -/

def State.newDay (s : State) : State :=
  -- `open_daily_csv`, up to opening the file.
  if day.yday = s.todayDay then s
  else { s with todayCalls := 0, todaySeconds := 0, todayDay := day.yday }

def appended (old row : Text) : Text :=
  -- What is written behind the old text.
  (if old = [] then header else []) ++ row

def State.append (s : State) (append : Append) (row : Text) : State :=
  let old := s.csv.getD []
  match append with
  | .whole => { s with csv := some (old ++ appended old row) }
  | .refused => s
  | .cut bytes => { s with csv := some (old ++ (appended old row).take bytes) }

def rootUp (n : Nat) : Nat :=
  -- The first number whose square is not less.
  ((List.range (n + 1)).find? fun r => n ≤ r * r).getD n

def orUnknown (value : Text) : Text :=
  if cstr value = [] then "unknown".toList else cstr value

def State.callName (s : State) : Text :=
  orUnknown s.userName

def State.duration (s : State) (clock : Clock) : Int :=
  clock.now - s.callStart

def State.avgRms (s : State) : Nat :=
  if s.sqCount > 0 then rootUp (s.sqSum / s.sqCount) else 0

def voiceRow (s : State) (clock : Clock) : Text :=
  csvRow [intText clock.now, dateText day, timeText clock, intText s.userId, csvField s.callName,
    csvField (orUnknown s.method), tenthsText (10 * s.duration clock), flagText s.emergency,
    digits s.avgRms, digits s.sqPeakRms, csvField s.recording]

def writeCdr (s : State) (clock : Clock) (append : Append) : State :=
  if !s.inCall then s
  else
    let after := (s.newDay day).append append (voiceRow day s clock)
    match append with
    | .refused => after
    | _ =>
      { after with
        todayCalls := after.todayCalls + 1
        todaySeconds := after.todaySeconds + s.duration clock }

def txRow (clock : Clock) (tenths : Int) (emergency : Bool) (path : Text) : Text :=
  csvRow [intText clock.now, dateText day, timeText clock, ['0'], "transmit".toList, "TX".toList,
    tenthsText tenths, flagText emergency, ['0'], ['0'], csvField path]

def writeTxCdr (s : State) (clock : Clock) (tenths : Int) (emergency : Bool) (path : Text)
    (append : Append) : State :=
  if !s.enabled then s else (s.newDay day).append append (txRow day clock tenths emergency path)

def announcementRow (clock : Clock) (source description : Text) : Text :=
  csvRow [intText clock.now, dateText day, timeText clock, ['0'], "system".toList, csvField source,
    "0.0".toList, ['0'], ['0'], ['0'], csvField description]

/-! ## Event handlers -/

def onCorAssert (s : State) (clock : Clock) (emergency : Bool) : State :=
  if !s.enabled then s
  else
    { s with
      inCall := true
      callStart := clock.now
      recording := []
      emergency := emergency
      sqSum := 0
      sqCount := 0
      sqPeakRms := 0 }

def onCorDrop (s : State) (clock : Clock) (append : Append) : State :=
  if !s.enabled || !s.inCall then s
  else
    { writeCdr day s clock append with
      inCall := false
      userId := 0
      userName := []
      method := [] }

def methodText (method : Int) : Text :=
  if method = 1 then "CTCSS".toList
  else if method = 2 then "DCS".toList
  else if method = 3 then "ANI".toList
  else if method = 4 then "DTMF".toList
  else if method = 5 then "WEB".toList
  else "unknown".toList

def onCallerIdentified (s : State) (userId : Int) (name : Option Text) (method : Int) : State :=
  -- `name` is the one of the user that is found.
  if !s.inCall then s
  else
    { s with
      userId := userId
      userName := (name.map fun n => bounded 32 (cstr n)).getD s.userName
      method := methodText method }

def onRecordingSaved (s : State) (direction path : Option Text) (clock : Clock) (tenths : Int)
    (emergency : Bool) (append : Append) : State :=
  match direction, path with
  | some direction, some path =>
    if cstr direction = "RX".toList then
      if s.inCall then { s with recording := bounded 512 (cstr path) } else s
    else if cstr direction = "TX".toList then writeTxCdr day s clock tenths emergency path append
    else s
  | _, _ => s

def onAnnouncement (s : State) (source description : Option Text) (clock : Clock) (append : Append) :
    State :=
  if !s.enabled then s
  else (s.newDay day).append append (announcementRow day clock (source.getD []) (description.getD []))

def sqAudioTap (s : State) (samples : List Int) : State :=
  if !s.inCall || samples.isEmpty then s
  else
    let frameSum := (samples.map fun v => v.natAbs * v.natAbs).sum
    { s with
      sqSum := s.sqSum + frameSum
      sqCount := s.sqCount + samples.length
      sqPeakRms := max s.sqPeakRms (rootUp (frameSum / samples.length)) }

/-! ## Restarts -/

def configure (s : State) (enabled : Bool) : State :=
  let after := { s with enabled := enabled }
  if !enabled then after
  else
    match s.csv with
    | none => { after with todayDay := day.yday }
    | some text =>
      { after with
        todayCalls := (replay text).length
        todaySeconds := total (replay text)
        todayDay := day.yday }

inductive Input where
  | corAssert (clock : Clock) (emergency : Bool)
  | corDrop (clock : Clock) (append : Append)
  | callerIdentified (userId : Int) (name : Option Text) (method : Int)
  | recordingSaved (direction path : Option Text) (clock : Clock) (tenths : Int) (emergency : Bool)
      (append : Append)
  | announcement (source description : Option Text) (clock : Clock) (append : Append)
  | audio (samples : List Int)
  | configure (enabled : Bool)
  | restart (graceful : Bool) (clock : Clock) (append : Append) (enabled : Bool)

def step (s : State) : Input → State
  | .corAssert clock emergency => onCorAssert s clock emergency
  | .corDrop clock append => onCorDrop day s clock append
  | .callerIdentified userId name method => onCallerIdentified s userId name method
  | .recordingSaved direction path clock tenths emergency append =>
    onRecordingSaved day s direction path clock tenths emergency append
  | .announcement source description clock append =>
    onAnnouncement day s source description clock append
  | .audio samples => sqAudioTap s samples
  | .configure enabled => configure day s enabled
  | .restart graceful clock append enabled =>
    let last := if graceful then writeCdr day s clock append else s
    configure day (statics last.csv) enabled

end Kerchunk.Cdr
