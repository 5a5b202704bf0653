import Kerchunk.Lib.RoundRobin

set_option autoImplicit false

/-!
# The statistics database (`src/kerchunk_rrd.c`)
-/

namespace Kerchunk.Stats

open RoundRobin

/-! ## The file -/

abbrev rrdMinutes : Nat := 60
abbrev rrdHours : Nat := 24
abbrev rrdDays : Nat := 30

structure Slot where
  rxCount : UInt32
  txCount : UInt32
  rxMs : UInt32
  txMs : UInt32
deriving DecidableEq

-- Consolidation adds slots field by field.
instance instSlotAdd : Add Slot where
  add a b := ⟨a.rxCount + b.rxCount, a.txCount + b.txCount, a.rxMs + b.rxMs, a.txMs + b.txMs⟩

instance instSlotZero : Zero Slot where
  zero := ⟨0, 0, 0, 0⟩

theorem Slot.add_eq (a b : Slot) :
    a + b = ⟨a.rxCount + b.rxCount, a.txCount + b.txCount, a.rxMs + b.rxMs, a.txMs + b.txMs⟩ := rfl

theorem Slot.zero_eq : (0 : Slot) = ⟨0, 0, 0, 0⟩ := rfl

instance instSlotAddCommMonoid : AddCommMonoid Slot where
  add_assoc a b c := by simp only [Slot.add_eq, UInt32.add_assoc]
  zero_add a := by simp only [Slot.add_eq, Slot.zero_eq, UInt32.zero_add]
  add_zero a := by simp only [Slot.add_eq, Slot.zero_eq, UInt32.add_zero]
  add_comm a b := by
    simp only [Slot.add_eq, UInt32.add_comm b.rxCount, UInt32.add_comm b.txCount,
      UInt32.add_comm b.rxMs, UInt32.add_comm b.txMs]
  nsmul := nsmulRec

structure Counters where
  rxTimeMs : UInt64
  txTimeMs : UInt64
  rxCount : UInt32
  txCount : UInt32
  longestRxMs : UInt32
  shortestRxMs : UInt32
  kerchunkCount : UInt32
  queueItems : UInt32
  restarts : UInt32
  totalUptimeMs : UInt64
  startTime : Int

structure RrdUser where
  userId : Int
  txCount : UInt32
  txTimeMs : UInt64
  lastHeard : Int
  longestMs : UInt32

structure RrdFile where
  lastMinuteTs : Int
  lastHourTs : Int
  lastDayTs : Int
  minutes : Ring Slot rrdMinutes
  hours : Ring Slot rrdHours
  days : Ring Slot rrdDays
  counters : Counters
  users : List RrdUser

/-! ## Opening -/

-- The fields of `gmtime`.
def tmSec (now : Int) : Int := now % 60
def tmMin (now : Int) : Int := now / 60 % 60
def tmHour (now : Int) : Int := now / 3600 % 24

def RrdFile.align (d : RrdFile) (now : Int) : RrdFile :=
  -- Timestamps on the clock boundaries.
  { d with
    lastMinuteTs := now - tmSec now
    lastHourTs := now - tmSec now - tmMin now * 60
    lastDayTs := now - tmSec now - tmMin now * 60 - tmHour now * 3600 }

def create (now : Int) : RrdFile :=
  -- `kerchunk_rrd_open` of a new file.
  RrdFile.align
    { lastMinuteTs := 0
      lastHourTs := 0
      lastDayTs := 0
      minutes := empty
      hours := empty
      days := empty
      counters := ⟨0, 0, 0, 0, 0, 0, 0, 0, 0, 0, now⟩
      users := [] } now

def Counters.restart (c : Counters) (now : Int) : Counters :=
  let prevSession := now - c.startTime
  { c with
    restarts := c.restarts + 1
    totalUptimeMs :=
      if c.startTime > 0 ∧ prevSession > 0 then
        c.totalUptimeMs + UInt64.ofNat prevSession.toNat * 1000
      else c.totalUptimeMs
    startTime := now }

def RrdFile.restart (d : RrdFile) (now : Int) : RrdFile :=
  -- `kerchunk_rrd_open` of an existing file.
  { d with counters := d.counters.restart now }.align now

/-! ## Rotation -/

def toInt32 (x : Int) : Int :=
  -- The cast to `int`.
  (x + 2147483648) % 4294967296 - 2147483648

def elapsed (now last period : Int) (slots : Nat) : Nat :=
  -- How often a ring of so many slots rotates.
  if now - last ≥ period then min ((toInt32 (now - last)).tdiv period).toNat slots else 0

def rotated (now last period : Int) : Int :=
  if now - last ≥ period then now else last

def RrdFile.minutesElapsed (d : RrdFile) (now : Int) : Nat :=
  elapsed now d.lastMinuteTs 60 rrdMinutes

def RrdFile.hoursElapsed (d : RrdFile) (now : Int) : Nat :=
  elapsed now d.lastHourTs 3600 rrdHours

def RrdFile.daysElapsed (d : RrdFile) (now : Int) : Nat :=
  elapsed now d.lastDayTs 86400 rrdDays

/-- The current minute is left behind before the hour is added up, the current hour before the
day. -/
def RrdFile.tick (d : RrdFile) (now : Int) : RrdFile :=
  let minutes := d.minutes.rotate (d.minutesElapsed now)
  let hours := d.hours.close minutes.total (d.hoursElapsed now)
  let days := d.days.close hours.total (d.daysElapsed now)
  { d with
    lastMinuteTs := rotated now d.lastMinuteTs 60
    lastHourTs := rotated now d.lastHourTs 3600
    lastDayTs := rotated now d.lastDayTs 86400
    minutes := minutes
    hours := hours
    days := days }

/-! ## Recording -/

inductive Event where
  | rx (durMs : UInt32) (userId : Int)
  | tx (durMs : UInt32)

def Event.slot : Event → Slot
  | .rx durMs _ => ⟨1, 0, durMs, 0⟩
  | .tx durMs => ⟨0, 1, 0, durMs⟩

def RrdFile.count (d : RrdFile) (e : Event) : RrdFile :=
  -- Count the event in the current minute slot.
  { d with minutes := d.minutes.write (d.minutes.current + e.slot) }

def Counters.rx (c : Counters) (durMs : UInt32) : Counters :=
  { c with
    rxCount := c.rxCount + 1
    rxTimeMs := c.rxTimeMs + durMs.toUInt64
    longestRxMs := if durMs > c.longestRxMs then durMs else c.longestRxMs
    shortestRxMs := if c.shortestRxMs = 0 ∨ durMs < c.shortestRxMs then durMs else c.shortestRxMs
    kerchunkCount := if durMs < 1000 then c.kerchunkCount + 1 else c.kerchunkCount }

def Counters.tx (c : Counters) (durMs : UInt32) : Counters :=
  { c with
    txCount := c.txCount + 1
    txTimeMs := c.txTimeMs + durMs.toUInt64
    queueItems := c.queueItems + 1 }

def RrdUser.heard (u : RrdUser) (durMs : UInt32) (now : Int) : RrdUser :=
  { u with
    txCount := u.txCount + 1
    txTimeMs := u.txTimeMs + durMs.toUInt64
    lastHeard := now
    longestMs := if durMs > u.longestMs then durMs else u.longestMs }

-- Only the first entry of a user is looked at.
def hearUser (userId : Int) (durMs : UInt32) (now : Int) : List RrdUser → List RrdUser
  | [] => []
  | u :: rest =>
    if u.userId = userId then u.heard durMs now :: rest else u :: hearUser userId durMs now rest

def RrdFile.record (d : RrdFile) (e : Event) (now : Int) : RrdFile :=
  let d := d.count e
  match e with
  | .rx durMs userId =>
    { d with
      counters := d.counters.rx durMs
      users := if userId > 0 then hearUser userId durMs now d.users else d.users }
  | .tx durMs => { d with counters := d.counters.tx durMs }

/-! ## Steps -/

/-- The file, and whether it is open. -/
structure State where
  file : RrdFile
  opened : Bool

inductive Input where
  | openFile (now : Int)
  | closeFile
  | tick (now : Int)
  | record (e : Event) (now : Int)

def step (s : State) : Input → State
  | .openFile now => { file := s.file.restart now, opened := true }
  | .closeFile => { s with opened := false }
  | .tick now => if s.opened then { s with file := s.file.tick now } else s
  | .record e now => if s.opened then { s with file := s.file.record e now } else s

def start (now : Int) : State where
  file := create now
  opened := true

end Kerchunk.Stats
