import Kerchunk.Config.Duration
import Mathlib.Algebra.Order.Ring.Int

set_option autoImplicit false

/-!
# FLEX paging (`modules/mod_flex.c`)

The table of pending pages, the requests that fill it and the worker threads that empty it. What a
mutex protects is one step. The pages sent with `flex now`, which pass the table by, are left out.
-/

namespace Kerchunk.Flex

open Kerchunk.Config (Text bounded)

def maxPending : Nat := 16

def flexPrerollMs : Int := 200

/-! ## Frame timing -/

structure Timespec where
  sec : Int
  nsec : Int
deriving DecidableEq

def Timespec.Reached (now fireTime : Timespec) : Prop :=
  -- The fire time has arrived.
  now.sec > fireTime.sec ∨ (now.sec = fireTime.sec ∧ now.nsec ≥ fireTime.nsec)

instance (now fireTime : Timespec) : Decidable (now.Reached fireTime) :=
  inferInstanceAs (Decidable (_ ∨ _))

def flexFrameAtTime (utc : Int) : Int × Int :=
  -- The cycle and the frame of a second.
  let secInHour := utc % 3600
  (secInHour / 240 % 15, secInHour % 240 * 1000 / 1875 % 128)

def waitMs (targetFrame curFrame : Int) : Int :=
  -- Next cycle.
  let delta := targetFrame - curFrame
  let delta := if delta ≤ 0 then delta + 128 else delta
  let waitMs := delta * 1875 - flexPrerollMs
  if waitMs < 0 then waitMs + 128 * 1875 else waitMs

def flexNextFrameTime (capcode : UInt32) (now : Timespec) : Timespec :=
  let waitMs := waitMs (capcode % 128).toNat (flexFrameAtTime now.sec).2
  let sec := now.sec + waitMs / 1000
  let nsec := now.nsec + waitMs % 1000 * 1000000
  if nsec ≥ 1000000000 then ⟨sec + 1, nsec - 1000000000⟩ else ⟨sec, nsec⟩

/-! ## Pending pages -/

inductive MsgType where
  | alpha
  | numeric
  | toneOnly
deriving DecidableEq

inductive Speed where
  | speed1600_2
  | speed3200_2
  | speed6400_4
deriving DecidableEq

/-- `serial` tells the pages apart; the module does not have it. -/
structure FlexPending where
  serial : Nat
  capcode : UInt32
  type : MsgType
  speed : Speed
  text : Text
  targetFrame : UInt32
  fireTime : Timespec
  pcm : Option (List Int)
  valid : Bool
deriving DecidableEq

/-- What the encoder makes of a page for a cycle and a frame; it may fail. -/
abbrev Encoder := FlexPending → Int → Int → Option (List Int)

def preEncode (encode : Encoder) (p : FlexPending) : Option FlexPending :=
  match p.pcm with
  | some _ => some p
  | none =>
    let frame := flexFrameAtTime (p.fireTime.sec + flexPrerollMs / 1000)
    (encode p frame.1 frame.2).map fun pcm => { p with pcm := some pcm }

/-- The table after the scan, the place of the page to send, and the pages whose encoding failed. -/
structure Scan where
  pending : List FlexPending
  ready : Option Nat
  failed : List Nat

def Scan.behind (p : FlexPending) (failed : List Nat) (scan : Scan) : Scan where
  pending := p :: scan.pending
  ready := scan.ready.map (· + 1)
  failed := failed ++ scan.failed

def scan (encode : Encoder) (now : Timespec) : List FlexPending → Scan
  | [] => ⟨[], none, []⟩
  | p :: rest =>
    if !p.valid then (scan encode now rest).behind p []
    else
      match preEncode encode p with
      | none => (scan encode now rest).behind { p with valid := false } [p.serial]
      | some p =>
        if now.Reached p.fireTime then ⟨p :: rest, some 0, []⟩
        else (scan encode now rest).behind p []

/-! ## The module -/

/-- Where a worker thread is. `index` is where `ready` points to, `now` the time of the scan. -/
inductive Worker where
  | resting
  | ready (index : Nat) (now : Timespec)
  | queued (index : Nat)
  | released
  | exited
deriving DecidableEq

/-- A page that was handed to the audio queue, and the time of the scan that found it. -/
structure Sent where
  serial : Nat
  fireTime : Timespec
  now : Timespec
deriving DecidableEq

/-- `workerTid` says whether `g_worker_tid` is the number of a thread, and `created` is what
`thread_create` has returned when it is not stored yet. How many pages were reported as scheduled,
which were sent and whose encoding failed is noted besides. -/
structure State where
  enabled : Bool
  pending : List FlexPending
  workerTid : Bool
  created : Option Bool
  workers : List Worker
  txCount : Nat
  scheduled : Nat
  sent : List Sent
  failed : List Nat
deriving DecidableEq

def start : State where
  enabled := true
  pending := []
  workerTid := false
  created := none
  workers := []
  txCount := 0
  scheduled := 0
  sent := []
  failed := []

/-- A page as the CLI asks for it. -/
structure Page where
  capcode : UInt32
  type : MsgType
  speed : Speed
  text : Option Text
deriving DecidableEq

inductive Response where
  | scheduled
  | pendingQueueFull
deriving DecidableEq

def newPending (serial : Nat) (page : Page) (now : Timespec) : FlexPending where
  serial := serial
  capcode := page.capcode
  type := page.type
  speed := page.speed
  text := bounded 512 (page.text.getD [])
  targetFrame := page.capcode % 128
  fireTime := flexNextFrameTime page.capcode now
  pcm := none
  valid := true

def flexSchedulePage (s : State) (page : Page) (now : Timespec) : State × Response :=
  if s.pending.length ≥ maxPending then (s, .pendingQueueFull)
  else
    ({ s with
        pending := s.pending ++ [newPending s.scheduled page now]
        scheduled := s.scheduled + 1 }, .scheduled)

def configure (s : State) (off created : Bool) : State :=
  -- Once the module is off it stays off; its worker goes on.
  let s := { s with enabled := s.enabled && !off }
  if s.enabled then
    { s with
      workers := if created then s.workers ++ [.resting] else s.workers
      created := some created }
  else s

def storeTid (s : State) : State :=
  match s.created with
  | none => s
  | some created => { s with workerTid := created, created := none }

def beginPass (s : State) (w : Nat) (encode : Encoder) (now : Timespec) : State :=
  -- `thread_should_stop`, then the scan under the mutex.
  if s.workers[w]? ≠ some .resting then s
  else if !s.workerTid then { s with workers := s.workers.set w .exited }
  else
    let scan := scan encode now s.pending
    { s with
      pending := scan.pending
      failed := s.failed ++ scan.failed
      workers :=
        match scan.ready with
        | some index => s.workers.set w (.ready index now)
        | none => s.workers }

def release (p : FlexPending) : FlexPending :=
  { p with pcm := none, valid := false }

def compact (pending : List FlexPending) : List FlexPending :=
  pending.filter (·.valid)

def proceed (s : State) (w : Nat) : State :=
  match s.workers[w]? with
  | some (.ready index now) =>
    -- `queue_audio_buffer`
    { s with
      sent := s.sent ++ (s.pending[index]?.toList.map fun p => ⟨p.serial, p.fireTime, now⟩)
      workers := s.workers.set w (.queued index) }
  | some (.queued index) =>
    { s with
      pending := s.pending.modify index release
      txCount := s.txCount + 1
      workers := s.workers.set w .released }
  | some .released =>
    { s with pending := compact s.pending, workers := s.workers.set w .resting }
  | _ => s

inductive Input where
  | schedulePage (page : Page) (now : Timespec)
  | configure (off created : Bool)
  | storeTid
  | beginPass (w : Nat) (encode : Encoder) (now : Timespec)
  | proceed (w : Nat)

def step (s : State) : Input → State
  | .schedulePage page now => (flexSchedulePage s page now).1
  | .configure off created => configure s off created
  | .storeTid => storeTid s
  | .beginPass w encode now => beginPass s w encode now
  | .proceed w => proceed s w

end Kerchunk.Flex

/-!
## The frames that pages go out in (`modules/mod_flex.c`)

Frames of 1.875 s follow each other from the hour on, 128 in a cycle and 15 cycles in an hour. They
are counted here from the epoch, in nanoseconds.
-/

namespace Kerchunk.Flex

def nsPerSec : Int := 1000000000
def frameNs : Int := 1875000000
def framesPerCycle : Int := 128
def cyclesPerHour : Int := 15

def frameStart (m : Int) : Int :=
  m * frameNs

def frameNumber (m : Int) : Int :=
  m % framesPerCycle

def cycleNumber (m : Int) : Int :=
  m / framesPerCycle % cyclesPerHour

def Timespec.ns (t : Timespec) : Int :=
  t.sec * nsPerSec + t.nsec

def prerollNs : Int :=
  flexPrerollMs * 1000000

/-- What `clock_gettime` returns. -/
structure ClockTime where
  time : Timespec
  normal : 0 ≤ time.nsec ∧ time.nsec < nsPerSec

def encodedFrame (fireTime : Timespec) : Int × Int :=
  -- The cycle and the frame that the page is encoded for.
  flexFrameAtTime (fireTime.sec + flexPrerollMs / 1000)

/-- The page begins, after its pre-roll, with the frame `m`. -/
def StartsFrame (capcode : UInt32) (now : Timespec) (m : Int) : Prop :=
  (flexNextFrameTime capcode now).ns + prerollNs = frameStart m ∧
    frameNumber m = capcode.toNat % framesPerCycle

/-- It is the first frame of that number that can be reached, and the page says that it is. -/
structure OnTime (capcode : UInt32) (now : Timespec) : Prop where
  frame : ∃ m, StartsFrame capcode now m ∧
    now.ns ≤ frameStart m - prerollNs ∧
    (∀ earlier, frameNumber earlier = capcode.toNat % framesPerCycle →
      now.ns ≤ frameStart earlier - prerollNs → m ≤ earlier) ∧
    encodedFrame (flexNextFrameTime capcode now) = (cycleNumber m, frameNumber m)

/-! ### The frame of a second -/

theorem flexFrameAtTime_eq (utc : Int) :
    flexFrameAtTime utc = (cycleNumber (utc * 8 / 15), frameNumber (utc * 8 / 15)) := by
  have few : 0 ≤ utc % 3600 % 240 * 1000 / 1875 ∧ utc % 3600 % 240 * 1000 / 1875 < 128 := by omega
  have cycles : 0 ≤ utc % 3600 / 240 ∧ utc % 3600 / 240 < 15 := by omega
  have total : utc * 8 / 15 =
      1920 * (utc / 3600) + 128 * (utc % 3600 / 240) + utc % 3600 % 240 * 1000 / 1875 := by
    omega
  generalize frame_eq : utc % 3600 % 240 * 1000 / 1875 = frame at *
  generalize cycle_eq : utc % 3600 / 240 = cycle at *
  have inFrames : utc * 8 / 15 / 128 = 15 * (utc / 3600) + cycle := by omega
  simp only [flexFrameAtTime, cycleNumber, frameNumber, framesPerCycle, cyclesPerHour, frame_eq,
    cycle_eq, inFrames, Prod.mk.injEq]
  omega

/-! ### The time that is computed -/

/-- The frames that are waited for. -/
def framesAhead (capcode : UInt32) (now : Timespec) : Int :=
  let delta := capcode.toNat % framesPerCycle - frameNumber (now.sec * 8 / 15)
  if delta ≤ 0 then delta + framesPerCycle else delta

theorem framesAhead_bounds (capcode : UInt32) (now : Timespec) :
    1 ≤ framesAhead capcode now ∧ framesAhead capcode now ≤ 128 := by
  unfold framesAhead frameNumber framesPerCycle
  dsimp only
  split <;> omega

theorem framesAhead_number (capcode : UInt32) (now : Timespec) :
    (frameNumber (now.sec * 8 / 15) + framesAhead capcode now) % framesPerCycle =
      capcode.toNat % framesPerCycle := by
  unfold framesAhead frameNumber framesPerCycle
  dsimp only
  split <;> omega

theorem waitMs_frames (capcode : UInt32) (now : Timespec) :
    waitMs (capcode % 128).toNat (flexFrameAtTime now.sec).2 =
      framesAhead capcode now * 1875 - flexPrerollMs := by
  -- A frame is longer than the pre-roll, so that the page is never put off for another cycle.
  have bounds := framesAhead_bounds capcode now
  have target : ((capcode % 128).toNat : Int) = capcode.toNat % framesPerCycle := by
    rw [UInt32.toNat_mod]
    rfl
  unfold framesAhead at *
  rw [flexFrameAtTime_eq, target]
  unfold waitMs flexPrerollMs framesPerCycle at *
  dsimp only at *
  generalize frameNumber (now.sec * 8 / 15) = cur at *
  split_ifs at * <;> omega

theorem fire_time (capcode : UInt32) (now : ClockTime) :
    (flexNextFrameTime capcode now.time).ns + prerollNs =
        now.time.ns + framesAhead capcode now.time * frameNs ∧
      0 ≤ (flexNextFrameTime capcode now.time).nsec ∧
      (flexNextFrameTime capcode now.time).nsec < nsPerSec := by
  have bounds := framesAhead_bounds capcode now.time
  have normal := now.normal
  unfold flexNextFrameTime
  rw [waitMs_frames]
  unfold Timespec.ns prerollNs flexPrerollMs frameNs nsPerSec at *
  dsimp only
  split <;> dsimp only <;> omega

/-! ### The pages that begin with their frame -/

theorem starts_frame_iff (capcode : UInt32) (now : ClockTime) :
    (∃ m, StartsFrame capcode now.time m) ↔ now.time.nsec = 0 ∧ now.time.sec % 15 = 0 := by
  -- What has passed of the frame in course is passed over: the page is as late in its own frame.
  have fire := (fire_time capcode now).1
  have number := framesAhead_number capcode now.time
  have normal := now.normal
  unfold StartsFrame
  rw [fire]
  unfold frameNumber framesPerCycle frameStart Timespec.ns frameNs nsPerSec at *
  generalize framesAhead capcode now.time = ahead at *
  constructor
  · rintro ⟨m, starts, page⟩
    have same : m - ahead = now.time.sec * 8 / 15 := by omega
    have exactly : 15 * (now.time.sec * 8 / 15) = 8 * now.time.sec := by omega
    omega
  · rintro ⟨whole, aligned⟩
    exact ⟨now.time.sec * 8 / 15 + ahead, by omega, by omega⟩

theorem starts_first_frame (capcode : UInt32) (now : ClockTime) {m : Int}
    (starts : StartsFrame capcode now.time m) :
    now.time.ns ≤ frameStart m - prerollNs ∧
      ∀ earlier, frameNumber earlier = capcode.toNat % framesPerCycle →
        now.time.ns ≤ frameStart earlier - prerollNs → m ≤ earlier := by
  have fire := (fire_time capcode now).1
  have bounds := framesAhead_bounds capcode now.time
  obtain ⟨begins, number⟩ := starts
  rw [fire] at begins
  unfold frameStart prerollNs flexPrerollMs frameNs frameNumber framesPerCycle at *
  refine ⟨by omega, fun earlier page reached => ?_⟩
  omega

theorem encoded_frame_before (capcode : UInt32) (now : ClockTime) {m : Int}
    (starts : StartsFrame capcode now.time m) :
    encodedFrame (flexNextFrameTime capcode now.time) =
      (cycleNumber (m - 1), frameNumber (m - 1)) := by
  -- The pre-roll has no whole second, so that the frame is the one that the pre-roll is in.
  have normal := (fire_time capcode now).2
  have begins := starts.1
  have before : ((flexNextFrameTime capcode now.time).sec + flexPrerollMs / 1000) * 8 / 15 =
      m - 1 := by
    unfold Timespec.ns prerollNs flexPrerollMs frameStart frameNs nsPerSec at *
    omega
  unfold encodedFrame
  rw [flexFrameAtTime_eq, before]

theorem never_on_time (capcode : UInt32) (now : ClockTime) : ¬ OnTime capcode now.time := by
  intro onTime
  obtain ⟨m, starts, -, -, encoded⟩ := onTime.frame
  rw [encoded_frame_before capcode now starts, Prod.mk.injEq] at encoded
  have other := encoded.2
  unfold frameNumber framesPerCycle at other
  omega

/-- A second into the hour, the page of the pager 1 is sent 1.8 s later. -/
theorem page_in_midframe : ¬ OnTime 1 ⟨1, 0⟩ := by
  intro onTime
  obtain ⟨m, starts, -⟩ := onTime.frame
  have begins := starts.1
  have fire : (flexNextFrameTime 1 ⟨1, 0⟩).ns + prerollNs = 2875000000 := by decide
  rw [fire] at begins
  unfold frameStart frameNs at begins
  omega

end Kerchunk.Flex
