import Kerchunk.Lib.Tumbling
import Kerchunk.Link.Client
import Kerchunk.Reflectd.Daemon

set_option autoImplicit false

/-!
# The three abuse thresholds

Messages without a type and failed SRTP packets in `src/reflectd/main.c`, and failed downlink packets
in `modules/mod_link.c`. Each is called a sliding window, and is kept with the start of a window and a
count.
-/

namespace Kerchunk.Link

open Reflectd (Conn NodeRt countAuthFail)

/-! ## The reflector -/

def badMsgWindowMs : Int := 60000
def badMsgThreshold : Nat := 3
def srtpWindowMs : Int := 30000

/-- What a message without a type does to its connection, and whether it is one too many. -/
def malformed (cs : Conn) (nowMs : Int) : Conn × Bool :=
  (cs.countBadMsg nowMs, decide (badMsgThreshold < (cs.countBadMsg nowMs).badMsgCount))

/-- What a packet that nobody authenticates does to the node that it seems to come from. -/
def srtpFailed (authFailKick : Int) (n : NodeRt) (nowMs : Int) : NodeRt × Bool :=
  (countAuthFail n nowMs, decide (authFailKick < (countAuthFail n nowMs).srtpFailCount))

/-! ## The client -/

def srtpDriftWindowMs : Int := 10000
def srtpDriftThreshold : Nat := 1000

structure Downlink where
  client : Client
  srtpAuthFail : Nat
  srtpWindowStartMs : Int
  srtpWindowCount : Nat

def Downlink.init (cfg : LinkCfg) : Downlink :=
  ⟨.init cfg, 0, 0, 0⟩

def Downlink.counted (d : Downlink) (nowMs : Int) : Downlink :=
  let d := { d with srtpAuthFail := d.srtpAuthFail + 1 }
  if nowMs - d.srtpWindowStartMs > srtpDriftWindowMs then
    { d with srtpWindowStartMs := nowMs, srtpWindowCount := 1 }
  else { d with srtpWindowCount := d.srtpWindowCount + 1 }

/-- `drain_udp_recv`, where `srtp_unprotect` fails. The second component drops the session. -/
def Downlink.unprotectFailed (d : Downlink) (nowMs : Int) : Downlink × Bool :=
  let d := d.counted nowMs
  if d.srtpWindowCount > srtpDriftThreshold then
    let client := d.client.setError "SRTP auth fail > 1000/10s — reconnecting (key drift)"
    ({ d with
        client := client.closeWs
        srtpWindowCount := 0
        srtpWindowStartMs := nowMs }, true)
  else (d, false)

/-! ## Each is a tumbling window -/

open Tumbling

theorem malformed_counts : Counts malformed false badMsgWindowMs badMsgThreshold
    fun cs start n => cs.badMsgWindowStartMs = start ∧ cs.badMsgCount = n where
  expired := by
    rintro cs nowMs start n ⟨rfl, rfl⟩ expired
    have counted : cs.countBadMsg nowMs =
        { cs with badMsgWindowStartMs := nowMs, badMsgCount := 1 } := if_pos expired
    constructor <;> simp [malformed, counted]
  continues := by
    rintro cs nowMs start n ⟨rfl, rfl⟩ open_
    have counted : cs.countBadMsg nowMs = { cs with badMsgCount := cs.badMsgCount + 1 } :=
      if_neg open_
    constructor <;> simp [malformed, counted]

theorem srtpFailed_counts (authFailKick : Int) :
    Counts (srtpFailed authFailKick) false srtpWindowMs authFailKick.toNat
      fun n start count => n.srtpWindowStartMs = start ∧ n.srtpFailCount = count where
  expired := by
    rintro n nowMs start count ⟨rfl, same⟩ expired
    have counted : countAuthFail n nowMs =
        { n with srtpWindowStartMs := nowMs, srtpFailCount := 1 } := if_pos expired
    constructor <;> simp [srtpFailed, counted]
    omega
  continues := by
    rintro n nowMs start count ⟨rfl, same⟩ open_
    have counted : countAuthFail n nowMs = { n with srtpFailCount := n.srtpFailCount + 1 } :=
      if_neg open_
    constructor <;> simp [srtpFailed, counted, same]

theorem unprotectFailed_takes (d : Downlink) (nowMs : Int) {n : Nat}
    (counted : (d.counted nowMs).srtpWindowCount = n + 1) :
    Takes Downlink.unprotectFailed true srtpDriftThreshold
      (fun d start n => d.srtpWindowStartMs = start ∧ d.srtpWindowCount = n) d nowMs
      (d.counted nowMs).srtpWindowStartMs n := by
  by_cases tripped : srtpDriftThreshold < n + 1
  next => constructor <;> simp [Downlink.unprotectFailed, counted, tripped]
  next => constructor <;> simp [Downlink.unprotectFailed, counted, tripped]

theorem unprotectFailed_counts : Counts Downlink.unprotectFailed true srtpDriftWindowMs
    srtpDriftThreshold fun d start n => d.srtpWindowStartMs = start ∧ d.srtpWindowCount = n where
  expired := by
    rintro d nowMs start n ⟨rfl, rfl⟩ expired
    have counted : d.counted nowMs =
        { d with srtpAuthFail := d.srtpAuthFail + 1
                 srtpWindowStartMs := nowMs
                 srtpWindowCount := 1 } := if_pos expired
    have takes := @unprotectFailed_takes d nowMs 0 (by rw [counted])
    rwa [counted] at takes
  continues := by
    rintro d nowMs start n ⟨rfl, rfl⟩ open_
    have counted : d.counted nowMs =
        { d with srtpAuthFail := d.srtpAuthFail + 1
                 srtpWindowCount := d.srtpWindowCount + 1 } := if_neg open_
    have takes := @unprotectFailed_takes d nowMs d.srtpWindowCount (by rw [counted])
    rwa [counted] at takes

/-! ## When the thresholds slide -/

/-- Every verdict of a run is that of the sliding windows. -/
def Sliding {S : Type} (note : S → Int → S × Bool) (restarts : Bool) (lengthMs : Int)
    (threshold : Nat) (s : S) (gaps : List Nat) : Prop :=
  Machine.Guarded (Run.step note restarts lengthMs threshold)
    (fun r gap => Slides lengthMs threshold r.log.times (r.log.now gap)
      (note r.state (r.log.now gap)).2) ⟨s, Tumbling.init⟩ gaps

/-- No event of a run that exceeds a threshold has a window begin among the events that it exceeds it
with. -/
def Steady {S : Type} (note : S → Int → S × Bool) (restarts : Bool) (lengthMs : Int)
    (threshold : Nat) (s : S) (gaps : List Nat) : Prop :=
  Machine.Guarded (Run.step note restarts lengthMs threshold)
    (fun r gap => Unbroken lengthMs threshold r.log (r.log.now gap)) ⟨s, Tumbling.init⟩ gaps

/-- The gaps are the milliseconds between the bad events, the first one counted from boot. -/
theorem abuse_thresholds (authFailKick : Int) (cfg : LinkCfg)
    (malformedGaps srtpGaps downlinkGaps : List Nat) :
    (Sliding malformed false badMsgWindowMs badMsgThreshold Conn.fresh malformedGaps ↔
        Steady malformed false badMsgWindowMs badMsgThreshold Conn.fresh malformedGaps) ∧
      (Sliding (srtpFailed authFailKick) false srtpWindowMs authFailKick.toNat .zero srtpGaps ↔
        Steady (srtpFailed authFailKick) false srtpWindowMs authFailKick.toNat .zero srtpGaps) ∧
      (Sliding Downlink.unprotectFailed true srtpDriftWindowMs srtpDriftThreshold (.init cfg)
          downlinkGaps ↔
        Steady Downlink.unprotectFailed true srtpDriftWindowMs srtpDriftThreshold (.init cfg)
          downlinkGaps) :=
  ⟨run_slides malformed_counts (by decide) ⟨rfl, rfl⟩ malformedGaps,
    run_slides (srtpFailed_counts authFailKick) (by decide) ⟨rfl, rfl⟩ srtpGaps,
    run_slides unprotectFailed_counts (by decide) ⟨rfl, rfl⟩ downlinkGaps⟩

/-- Four messages without a type within 1200 ms, and one a minute before that. -/
theorem straddling_messages_kept :
    ¬ Sliding malformed false badMsgWindowMs badMsgThreshold Conn.fresh
      [1000000, 59000, 500, 600, 100] := by
  intro sliding
  have last := sliding.2.2.2.2.1.exceeds ⟨1059000, by decide, by decide, by decide⟩
  exact absurd last (by decide)

end Kerchunk.Link
