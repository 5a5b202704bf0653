import Kerchunk.Reflectd.Resequencing

set_option autoImplicit false

/-!
# A listener's loss reports

The client of node `l` takes what the daemon sends it without loss and in order, and reports at times
of its own.
-/

namespace Kerchunk.Reflectd

open Link (Quality)
open Machine (Guarded run trace)
open Serial (Seq ahead)

/-- `active` is `g_session_active`, and `heard` the numbers received in this session. -/
structure Listener where
  active : Bool
  quality : Quality
  heard : List Seq

inductive Turn where
  | arrive (item : Item)
  | hangUp
  | report
deriving DecidableEq

namespace Listener

def init : Listener where
  active := false
  quality := Quality.init
  heard := []

def drainUdpRecv (c : Listener) (o : Outgoing) : Listener :=
  -- One turn of the loop, on a packet that authenticates.
  if !c.active then c
  else
    let c := { c with heard := c.heard ++ [o.seq] }
    if o.len ≤ 12 then c else { c with quality := c.quality.qualityTrackSeq o.seq }

def turn (c : Listener) : Turn → Listener
  -- Neither `session_setup` nor `session_cleanup` resets the accounting.
  | .arrive .session => { c with active := true, heard := [] }
  | .arrive (.packet o) => c.drainUdpRecv o
  | .hangUp => { c with active := false }
  | .report => { c with quality := (c.quality.sendQualityReport c.active).2 }

def report (c : Listener) : Option Int :=
  -- The loss that a report would give now, in tenths of a percent.
  (c.quality.sendQualityReport c.active).1

end Listener

def Turn.item : Turn → Option Item
  | .arrive item => some item
  | _ => none

/-- A packet has a payload, and the first of a later session is not 2 to 199 ahead of the last one
counted in an earlier session. -/
def Countable (c : Listener) (t : Turn) : Prop :=
  ∀ o, t = .arrive (.packet o) → c.active = true →
    12 < o.len ∧ (c.heard = [] → c.quality.recvHaveSeq = true →
      ¬ (2 ≤ ahead o.seq c.quality.recvLastSeq ∧ ahead o.seq c.quality.recvLastSeq < 200))

def Consecutive (seqs : List Seq) : Prop :=
  seqs.IsChain fun a b => b = a + 1

def ReportsNone (c : Listener) (t : Turn) : Prop :=
  -- Every report that is sent gives no loss.
  t = .report → ∀ loss ∈ c.report, loss = 0

/-! ## In step with the daemon -/

/-- The next packet of the session is due after the last one heard. -/
structure InStep (due : Option Seq) (c : Listener) : Prop where
  consecutive : Consecutive c.heard
  next : c.active = true → ∀ last ∈ c.heard.getLast?, due = some (last + 1)

/-- Nothing is charged, and the last packet heard is not ahead of the last one counted. -/
structure Uncharged (c : Listener) : Prop where
  lost : c.quality.recvLost = 0
  last : c.active = true → ∀ last ∈ c.heard.getLast?,
    c.quality.recvHaveSeq = true ∧ ahead last c.quality.recvLastSeq ≤ 0

section

variable {c : Listener} {o : Outgoing}

theorem inStep_packet (inStep : InStep (some o.seq) c) :
    InStep (some (o.seq + 1)) (c.drainUdpRecv o) := by
  unfold Listener.drainUdpRecv
  split
  next idle =>
    refine ⟨inStep.consecutive, fun active => ?_⟩
    simp [active] at idle
  next listening =>
    have active : c.active = true := by simpa using listening
    have grown : Consecutive (c.heard ++ [o.seq]) := by
      refine List.isChain_append.mpr ⟨inStep.consecutive, List.isChain_singleton _, ?_⟩
      intro last isLast first isFirst
      obtain rfl : o.seq = first := by simpa using isFirst
      exact Option.some.inj (inStep.next active last isLast)
    simp only
    split <;> exact ⟨grown, by simp⟩

theorem track_uncharged {q : Quality} {seq : Seq} (lost : q.recvLost = 0)
    (plain : q.recvHaveSeq = true → ¬ (2 ≤ ahead seq q.recvLastSeq ∧ ahead seq q.recvLastSeq < 200)) :
    (q.qualityTrackSeq seq).recvLost = 0 ∧ (q.qualityTrackSeq seq).recvHaveSeq = true ∧
      ahead seq (q.qualityTrackSeq seq).recvLastSeq ≤ 0 := by
  -- A number that is not 2 to 199 ahead is not charged.
  cases seen : q.recvHaveSeq with
  | false => simp [Quality.track_first seen, lost]
  | true =>
    have window : Link.reorderWindow = 200 := rfl
    have fine := plain seen
    by_cases later : 0 < ahead seq q.recvLastSeq
    next =>
      have moved : ahead seq q.recvLastSeq ≠ 0 := by omega
      simp only [Quality.qualityTrackSeq, seen, Bool.not_true, Bool.false_eq_true, if_false, later,
        if_true, moved, ne_eq, not_false_eq_true]
      refine ⟨?_, trivial, by simp⟩
      split <;> omega
    next =>
      simp only [Quality.qualityTrackSeq, seen, Bool.not_true, Bool.false_eq_true, if_false, later]
      split <;> split <;> simp_all

theorem uncharged_packet (inStep : InStep (some o.seq) c) (uncharged : Uncharged c)
    (countable : Countable c (.arrive (.packet o))) : Uncharged (c.drainUdpRecv o) := by
  unfold Listener.drainUdpRecv
  split
  next => exact uncharged
  next listening =>
    have active : c.active = true := by simpa using listening
    obtain ⟨payload, start⟩ := countable o rfl active
    have plain : c.quality.recvHaveSeq = true →
        ¬ (2 ≤ ahead o.seq c.quality.recvLastSeq ∧ ahead o.seq c.quality.recvLastSeq < 200) := by
      cases heard : c.heard.getLast? with
      | none => exact start (List.getLast?_eq_none_iff.mp heard)
      | some last =>
        -- Within a session the next number is one further on.
        have follows : o.seq = last + 1 := Option.some.inj (inStep.next active last heard)
        have behind := (uncharged.last active last heard).2
        have moved := Serial.ahead_succ_left (a := last) (b := c.quality.recvLastSeq) (by omega)
        rw [follows, moved]
        omega
    have counted := track_uncharged uncharged.lost plain
    simp only [Nat.not_le.mpr payload, if_false]
    exact ⟨counted.1, by simpa using fun _ => counted.2⟩

theorem uncharged_report (uncharged : Uncharged c) : Uncharged (c.turn .report) := by
  have cleared : (c.quality.sendQualityReport c.active).2.recvLost = 0 ∧
      (c.quality.sendQualityReport c.active).2.recvHaveSeq = c.quality.recvHaveSeq ∧
      (c.quality.sendQualityReport c.active).2.recvLastSeq = c.quality.recvLastSeq := by
    unfold Quality.sendQualityReport
    split
    next => exact ⟨uncharged.lost, rfl, rfl⟩
    next => exact ⟨rfl, rfl, rfl⟩
  obtain ⟨lost, haveSeq, lastSeq⟩ := cleared
  refine ⟨lost, fun active last heard => ?_⟩
  simp only [Listener.turn, haveSeq, lastSeq]
  exact uncharged.last active last heard

theorem reports_none (uncharged : Uncharged c) : ∀ loss ∈ c.report, loss = 0 := by
  intro loss reported
  simp only [Listener.report, Quality.sendQualityReport] at reported
  split at reported
  next => cases reported
  next =>
    simp only [Quality.lossPctX10, uncharged.lost] at reported
    split at reported
    next => cases reported
    next =>
      simp only [Int.zero_mul, Int.zero_tdiv, ite_self, Option.mem_some_iff] at reported
      exact reported.symm

end

/-! ## Whole runs -/

theorem inStep_run {c : Listener} {due due' : Option Seq} {turns : List Turn} {more : List Item}
    (sent : Numbered due (turns.filterMap Turn.item ++ more) due') (inStep : InStep due c) :
    Consecutive (run Listener.turn c turns).heard := by
  induction turns generalizing c due with
  | nil => exact inStep.consecutive
  | cons t rest ih =>
    cases t with
    | hangUp => exact ih sent ⟨inStep.consecutive, nofun⟩
    | report => exact ih sent ⟨inStep.consecutive, inStep.next⟩
    | arrive item =>
      cases item with
      | session =>
        obtain ⟨start, later⟩ := sent
        exact ih later ⟨List.isChain_nil, by simp [Listener.turn]⟩
      | packet o =>
        obtain ⟨rfl, later⟩ := sent
        exact ih later (inStep_packet inStep)

theorem uncharged_run {c : Listener} {due due' : Option Seq} {turns : List Turn} {more : List Item}
    (sent : Numbered due (turns.filterMap Turn.item ++ more) due') (inStep : InStep due c)
    (uncharged : Uncharged c) (countable : Guarded Listener.turn Countable c turns) :
    Guarded Listener.turn ReportsNone c turns := by
  induction turns generalizing c due with
  | nil => trivial
  | cons t rest ih =>
    obtain ⟨now, later⟩ := countable
    cases t with
    | hangUp => exact ⟨nofun, ih sent ⟨inStep.consecutive, nofun⟩ ⟨uncharged.lost, nofun⟩ later⟩
    | report =>
      exact ⟨fun _ => reports_none uncharged,
        ih sent ⟨inStep.consecutive, inStep.next⟩ (uncharged_report uncharged) later⟩
    | arrive item =>
      cases item with
      | session =>
        obtain ⟨start, following⟩ := sent
        exact ⟨nofun, ih following ⟨List.isChain_nil, by simp [Listener.turn]⟩
          ⟨uncharged.lost, by simp [Listener.turn]⟩ later⟩
      | packet o =>
        obtain ⟨rfl, following⟩ := sent
        exact ⟨nofun, ih following (inStep_packet inStep) (uncharged_packet inStep uncharged now) later⟩

/-- The numbers heard in a session are consecutive, and no report gives a loss, where every packet is
countable. -/
theorem listener_hears_no_gap (cfg : Rcfg) (bootMs : Nat) (inputs : List (Moment × Event)) (l : Nat)
    (turns : List Turn) (delivered : ∀ timed ∈ inputs, Delivers l timed)
    (inOrder : turns.filterMap Turn.item <+:
      trace step (items l) (State.init cfg bootMs) inputs) :
    Consecutive (run Listener.turn Listener.init turns).heard ∧
      (Guarded Listener.turn Countable Listener.init turns →
        Guarded Listener.turn ReportsNone Listener.init turns) := by
  obtain ⟨more, all⟩ := inOrder
  have sent := numbered_run (s := State.init cfg bootMs) delivered
  rw [← all] at sent
  have started : InStep ((State.init cfg bootMs).nodeRt l).nextSeq Listener.init :=
    ⟨List.isChain_nil, nofun⟩
  exact ⟨inStep_run sent started, uncharged_run sent started ⟨rfl, nofun⟩⟩

/-! ## A listener that signs in twice -/

def startingAt (seq : Nat) : Moment × Event → Moment × Event
  | (m, .wsMsg c frame draw) => (m, .wsMsg c frame { draw with rtpStart := some (seq, 0) })
  | timed => timed

def overheard (c seq : Nat) : List (Moment × Event) :=
  -- Node B signs in and makes its address known, and node A talks.
  (signIn c "B").map (startingAt seq) ++ [(after 5, packet 1 99), (after 60, packet 0 100)]

/-- Within a session the second packet is one after the first. -/
theorem one_session_hears_no_gap :
    Consecutive (run Listener.turn Listener.init
      [.arrive .session, .arrive (.packet ⟨7, 0, 2001, 190⟩), .arrive (.packet ⟨8, 2880, 2001, 190⟩),
        .report]).heard ∧
      (Guarded Listener.turn Countable Listener.init
        [.arrive .session, .arrive (.packet ⟨7, 0, 2001, 190⟩),
          .arrive (.packet ⟨8, 2880, 2001, 190⟩), .report] →
        Guarded Listener.turn ReportsNone Listener.init
          [.arrive .session, .arrive (.packet ⟨7, 0, 2001, 190⟩),
            .arrive (.packet ⟨8, 2880, 2001, 190⟩), .report]) :=
  listener_hears_no_gap roster 0
    (signIn 0 "A" ++ overheard 1 7 ++ [(after 60, packet 0 100)]) 1 _
    (by simp [Delivers, overheard, signIn, startingAt, packet, rtp]) (by decide)

/-- B's second session starts at 100, and its client charges 99 packets after the one of the first. -/
theorem second_session_charged :
    (∀ timed ∈ signIn 0 "A" ++ overheard 1 0 ++ (after 5, .close 1) :: overheard 2 100,
      Delivers 1 timed) ∧
    trace step (items 1) (State.init roster 0)
        (signIn 0 "A" ++ overheard 1 0 ++ (after 5, .close 1) :: overheard 2 100) =
      [.session, .packet ⟨0, 0, 2001, 190⟩, .session, .packet ⟨100, 0, 2002, 190⟩] ∧
    ¬ Guarded Listener.turn ReportsNone Listener.init
      [.arrive .session, .arrive (.packet ⟨0, 0, 2001, 190⟩), .hangUp,
        .arrive .session, .arrive (.packet ⟨100, 0, 2002, 190⟩), .report] := by
  refine ⟨by simp [Delivers, overheard, signIn, startingAt, packet, rtp], by decide, fun guarded => ?_⟩
  obtain ⟨-, -, -, -, -, none_charged, -⟩ := guarded
  exact absurd (none_charged rfl 980 (by decide)) (by decide)

end Kerchunk.Reflectd
