import Kerchunk.Lib.Machine
import Kerchunk.Reflectd.FloorSafety

set_option autoImplicit false

/-!
# Floor time

Every hold is announced, credited to its holder for as long as it lasted, and
announced as ended before anyone else's is announced.
-/

namespace Kerchunk.Reflectd

open Acceptor (accept)
open Machine (Guarded run)
open Hall (Seated Allowed Placed)

/-- Where a talkgroup's log is: nobody talks, a node talks since a time, or it has been credited and
its end is not yet announced. -/
inductive Hold where
  | idle
  | talking (node : Nat) (since : Int)
  | paid (node : Nat)
deriving DecidableEq

def Hold.talker : Hold → Option Nat
  | .idle => none
  | .talking node _ | .paid node => some node

/-- The order of a talkgroup's log: a grant, the holder's credit for the time since, the end of
talk, and only then the next grant. -/
def holdNext (j : Nat) (phase : Hold) : Note → Option Hold
  | .talker i node _ _ stamp =>
      if i = j then
        match phase, node with
        | .idle, some k => some (.talking k stamp)
        | .paid _, none => some .idle
        | _, _ => none
      else some phase
  | .airtime i k ms stamp =>
      if i = j then
        match phase with
        | .talking holder since => if holder = k ∧ ms = stamp - since then some (.paid k) else none
        | _ => none
      else some phase
  | .login _ | .forwarded _ _ _ => some phase

def creditNext (k : Nat) (total : Int) : Note → Int
  -- What a node has been credited since it last logged in.
  | .airtime _ holder ms _ => if holder = k then total + ms else total
  | .login node => if node = k then 0 else total
  | .talker _ _ _ _ _ | .forwarded _ _ _ => total

def credited (log : List Note) (k : Nat) : Int :=
  log.foldl (creditNext k) 0

theorem credited_snoc (log : List Note) (n : Note) (k : Nat) :
    credited (log ++ [n]) k = creditNext k (credited log k) n := by
  simp [credited]

namespace Hall

def hold (h : Hall) (j : Nat) : Hold :=
  match h.talker j with
  | none => .idle
  | some k => .talking k (h.station k).since

structure Accounts (h : Hall) : Prop where
  clock : 0 < h.now
  slot : ∀ j < h.cfg.tgs.length, accept (holdNext j) .idle h.log = some (h.hold j)
  running : ∀ j < h.cfg.tgs.length, ∀ k, h.talker j = some k →
    0 < (h.station k).since ∧ (h.station k).since ≤ h.now
  account : ∀ k, (h.station k).airtime = credited h.log k

theorem hold_same {g h : Hall} {j : Nat} (talker : g.talker j = h.talker j)
    (since : ∀ k, h.talker j = some k → (g.station k).since = (h.station k).since) :
    g.hold j = h.hold j := by
  unfold hold
  rw [talker]
  cases talks : h.talker j with
  | none => rfl
  | some k => simp only [since k talks]

theorem accounts_same {g h : Hall} (accounts : Accounts h) (cfg : g.cfg = h.cfg) (now : h.now ≤ g.now)
    (talker : ∀ j, g.talker j = h.talker j) (since : ∀ k, (g.station k).since = (h.station k).since)
    (airtime : ∀ k, (g.station k).airtime = (h.station k).airtime) (log : g.log = h.log) :
    Accounts g where
  clock := Int.lt_of_lt_of_le accounts.clock now
  slot := by
    intro j bound
    rw [cfg] at bound
    rw [log, hold_same (talker j) fun k _ => since k]
    exact accounts.slot j bound
  running := by
    intro j bound k talks
    rw [cfg] at bound
    rw [talker] at talks
    rw [since]
    obtain ⟨started, past⟩ := accounts.running j bound k talks
    exact ⟨started, Int.le_trans past now⟩
  account := by
    intro k
    rw [airtime, log]
    exact accounts.account k

theorem tell_now (h : Hall) (c : Option Nat) (t : Told) : (h.tell c t).now = h.now := by
  cases c <;> rfl

def Vacant (h : Hall) : Move → Prop
  -- The floor is not taken over from another node.
  | .grant j k => ∀ holder, h.talker j = some holder → holder = k
  | .reload _ => False
  | _ => True

theorem release_held {h : Hall} {j k : Nat} (talks : h.talker j = some k)
    (started : 0 < (h.station k).since) :
    (h.release j).log = h.log ++ [.airtime j k (h.now - (h.station k).since) h.now,
        .talker j none (h.cfg.tgNumber j) none h.now] ∧
      ∀ i, (h.release j).station i =
        if i = k then
          { h.station i with
            airtime := if 0 < h.now - (h.station k).since then
                (h.station i).airtime + (h.now - (h.station k).since)
              else (h.station i).airtime
            since := 0 }
        else h.station i := by
  unfold release
  simp only [talks, pay, started, if_true]
  refine ⟨by simp [announce, note, setFloor, setStation], fun i => ?_⟩
  simp only [announce, note, setFloor, setStation_station]

theorem holder_elsewhere {h : Hall} (placed : Placed h) {i j k k' : Nat}
    (first : i < h.cfg.tgs.length) (talks : h.talker i = some k') (other : i ≠ j)
    (onTg : rcfgTgIdx h.cfg (h.station k).tg = some j) : k' ≠ k := by
  -- A holder keeps its start while it holds one floor and another is granted or released.
  rintro rfl
  have here := (placed i first k' talks).2
  exact other (Option.some.inj (here.symm.trans onTg))

theorem accounts_grant {h : Hall} {j k : Nat} (placed : Placed h) (accounts : Accounts h)
    (allowed : Allowed h (.grant j k)) (vacant : h.Vacant (.grant j k)) :
    Accounts (h.grant j k) := by
  obtain ⟨_, onTg, _⟩ := allowed
  have places := grant_places h j k
  by_cases held : h.talker j = some k
  · -- A refresh only prolongs the lease.
    have same : h.grant j k = h.setFloor j
        { talkerNodeIdx := some k, leaseExpiresMs := h.now + h.cfg.hangtimeMs } := by
      simp only [grant, held, if_true]
    refine accounts_same accounts places.cfg (Int.le_of_eq places.now.symm) (fun i => ?_)
      (by simp [same, setFloor]) (by simp [same, setFloor]) (by simp [same, setFloor])
    rw [grant_talker]
    split
    next at_ => rw [at_, held]
    next => rfl
  · have idle : h.talker j = none := by
      cases talks : h.talker j with
      | none => rfl
      | some holder => exact absurd (vacant holder talks ▸ talks) held
    have log : (h.grant j k).log =
        h.log ++ [.talker j (some k) (h.cfg.tgNumber j) (some (h.cfg.nodeId k)) h.now] := by
      simp [grant, held, announce, note, setFloor, setStation]
    have station : ∀ i, (h.grant j k).station i =
        if i = k then { h.station i with since := h.now } else h.station i := by
      intro i
      simp only [grant, held, if_false, setStation_station, announce, note, setFloor]
    refine ⟨?_, fun i bound => ?_, fun i bound k' talks => ?_, fun i => ?_⟩
    · rw [places.now]
      exact accounts.clock
    · rw [places.cfg] at bound
      rw [log, Acceptor.accept_snoc _ (accounts.slot i bound)]
      by_cases at_ : i = j
      · subst at_
        simp [hold, idle, grant_talker, holdNext, station]
      · have same : (h.grant j k).hold i = h.hold i := by
          refine hold_same (by rw [grant_talker, if_neg at_]) fun k' talks => ?_
          rw [station, if_neg (holder_elsewhere placed bound talks at_ onTg)]
        simp [holdNext, Ne.symm at_, same]
    · rw [places.cfg] at bound
      rw [grant_talker] at talks
      rw [places.now]
      split at talks
      next =>
        cases talks
        simp [station, accounts.clock]
      next at_ =>
        rw [station, if_neg (holder_elsewhere placed bound talks at_ onTg)]
        exact accounts.running i bound k' talks
    · rw [log, credited_snoc, creditNext, ← accounts.account i, station]
      split <;> rfl

theorem accounts_release {h : Hall} {j : Nat} (placed : Placed h) (accounts : Accounts h)
    (bound : j < h.cfg.tgs.length) : Accounts (h.release j) := by
  have places := release_places h j
  cases talks : h.talker j with
  | none =>
      have same : h.release j = h := by simp only [release, talks]
      rw [same]
      exact accounts
  | some k =>
      obtain ⟨started, past⟩ := accounts.running j bound k talks
      obtain ⟨_, onTg⟩ := placed j bound k talks
      obtain ⟨log, station⟩ := release_held talks started
      refine ⟨?_, fun i first => ?_, fun i first k' talks' => ?_, fun i => ?_⟩
      · rw [places.now]
        exact accounts.clock
      · rw [places.cfg] at first
        have before := accounts.slot i first
        rw [log, ← List.singleton_append, ← List.append_assoc]
        by_cases at_ : i = j
        · subst at_
          have paid : accept (holdNext i) .idle
              (h.log ++ [.airtime i k (h.now - (h.station k).since) h.now]) = some (.paid k) := by
            rw [Acceptor.accept_snoc _ before]
            simp [holdNext, hold, talks]
          rw [Acceptor.accept_snoc _ paid]
          simp [holdNext, hold, release_talker]
        · have kept : accept (holdNext i) .idle
              (h.log ++ [.airtime j k (h.now - (h.station k).since) h.now]) = some (h.hold i) := by
            rw [Acceptor.accept_snoc _ before]
            simp [holdNext, Ne.symm at_]
          have same : (h.release j).hold i = h.hold i := by
            refine hold_same (by rw [release_talker, if_neg at_]) fun k' talks' => ?_
            rw [station, if_neg (holder_elsewhere placed first talks' at_ onTg)]
          rw [Acceptor.accept_snoc _ kept, same]
          simp [holdNext, Ne.symm at_]
      · rw [places.cfg] at first
        rw [release_talker] at talks'
        rw [places.now]
        split at talks'
        next => cases talks'
        next at_ =>
          rw [station, if_neg (holder_elsewhere placed first talks' at_ onTg)]
          exact accounts.running i first k' talks'
      · rw [log, ← List.singleton_append, ← List.append_assoc, credited_snoc, credited_snoc,
          creditNext, creditNext, ← accounts.account i, station]
        by_cases at_ : i = k
        · subst at_
          simp only [if_true]
          split <;> omega
        · simp [at_, Ne.symm at_]

theorem accounts_apply {h : Hall} {m : Move} (placed : Placed h) (accounts : Accounts h)
    (allowed : Allowed h m) (vacant : h.Vacant m) : Accounts (h.apply m) := by
  cases m with
  | advance elapsed =>
      have later : h.now ≤ h.now + elapsed := by omega
      exact accounts_same accounts rfl later (fun _ => rfl) (fun _ => rfl) (fun _ => rfl) rfl
  | enter c | drain c =>
      exact accounts_same accounts rfl (Int.le_refl _) (fun _ => rfl) (fun _ => rfl) (fun _ => rfl)
        rfl
  | grant j k => exact accounts_grant placed accounts allowed vacant
  | release j => exact accounts_release placed accounts allowed
  | join c node tg =>
      have log : (h.join c node tg).log = h.log ++ [.login node] := by
        simp [join, tell_log, note, setStation, setDoor]
      have since : ∀ k, ((h.join c node tg).station k).since = (h.station k).since := by
        intro k
        rw [join_station]
        split <;> rfl
      refine ⟨accounts.clock, fun j bound => ?_, fun j bound k talks => ?_, fun k => ?_⟩
      · have same : (h.join c node tg).hold j = h.hold j := hold_same rfl fun k _ => since k
        rw [apply, log, Acceptor.accept_snoc _ (accounts.slot j bound), same]
        rfl
      · rw [apply, since]
        exact accounts.running j bound k talks
      · rw [apply, log, credited_snoc, creditNext, ← accounts.account k, join_station]
        by_cases at_ : k = node
        · simp [at_]
        · simp [at_, Ne.symm at_]
  | tune c node tg =>
      refine accounts_same accounts rfl (Int.le_refl _) (fun _ => rfl) (fun k => ?_) (fun k => ?_) rfl
      · simp only [apply, tune, tell_station, setStation_station]
        split <;> rfl
      · simp only [apply, tune, tell_station, setStation_station]
        split <;> rfl
  | mute node c | unmute node c =>
      have now : h.now ≤ (h.apply (.mute node c)).now ∧ h.now ≤ (h.apply (.unmute node c)).now := by
        simp [apply, tell_now, setStation]
      refine accounts_same accounts (tell_cfg _ _ _) (by simp [now]) (fun j => ?_) (fun k => ?_)
        (fun k => ?_) (tell_log _ _ _)
      · simp only [apply, talker, tell_floor, setStation]
      · simp only [apply, tell_station, setStation_station]
        split <;> rfl
      · simp only [apply, tell_station, setStation_station]
        split <;> rfl
  | leave c =>
      have same : (h.leave c).floor = h.floor ∧ (h.leave c).cfg = h.cfg ∧
          (h.leave c).log = h.log ∧ (h.leave c).now = h.now := by
        unfold leave
        cases h.seat c <;> exact ⟨rfl, rfl, rfl, rfl⟩
      obtain ⟨floor, cfg, log, now⟩ := same
      refine accounts_same accounts cfg (Int.le_of_eq now.symm) (fun j => ?_) (fun k => ?_)
        (fun k => ?_) log
      · simp only [apply, talker, floor]
      · rw [apply, leave_station]
        split <;> rfl
      · rw [apply, leave_station]
        split <;> rfl
  | reload cfg => exact vacant.elim

end Hall

open Hall (Accounts)

/-! ## Takeovers -/

def speaker (s : State) : Event → Option Nat
  -- The node that the event is voice or a simulated start from.
  | .datagram d =>
      if rtpOk d then
        (findSender s d).bind fun (k, p) =>
          if (s.nodeRt k).muted ∨ p.payloadType = Link.rtpBootstrapPt then none else some k
      else none
  | .wsMsg c frame _ =>
      if frame.len ≤ Link.maxMsg ∧ frame.request = .simulateTalkStart then seatOf s c else none
  | _ => none

def NoTakeover (s : State) (timed : Moment × Event) : Prop :=
  -- The speaker does not find the floor with another node whose lease has run out.
  ∀ k ∈ speaker (s.at timed.1) timed.2, ∀ j ∈ rcfgTgIdx s.cfg (s.nodeRt k).curTg,
    (s.tgRt j).heldByOther k = true → (s.at timed.1).nowMs < (s.tgRt j).leaseExpiresMs

instance (s : State) (timed : Moment × Event) : Decidable (NoTakeover s timed) :=
  inferInstanceAs (Decidable (∀ k ∈ speaker (s.at timed.1) timed.2,
    ∀ j ∈ rcfgTgIdx s.cfg (s.nodeRt k).curTg, _ → _))

theorem speaker_of_talks {s : State} {e : Event} {k : Nat} (talks : Talks s e k) :
    speaker s e = some k := by
  cases talks with
  | audio wellFormed sender unmuted voice => simp [speaker, wellFormed, sender, unmuted, voice]
  | simulated here state fits asks => simp [speaker, fits, asks, seatOf_some here state]

theorem moves_of_speaker {s : State} {e : Event} {k : Nat} (speaks : speaker s e = some k) :
    moves s e = talkMoves s k := by
  cases e with
  | datagram d =>
      simp only [speaker] at speaks
      split at speaks
      next wellFormed =>
        obtain ⟨⟨k', p⟩, sender, accepted⟩ := Option.bind_eq_some_iff.mp speaks
        split at accepted
        next => cases accepted
        next free =>
          cases accepted
          simp only [moves, datagramMoves, wellFormed, if_true, sender, free, if_false]
      next => cases speaks
  | wsMsg c frame draw =>
      simp only [speaker] at speaks
      split at speaks
      next asks =>
        obtain ⟨cs, here, node⟩ := Option.bind_eq_some_iff.mp speaks
        have short : ¬ Link.maxMsg < frame.len := Nat.not_lt.mpr asks.1
        cases state : cs.state with
        | awaitingLogin => simp [Conn.nodeIdx, state] at node
        | authenticated k' =>
            obtain rfl : k' = k := by simpa [Conn.nodeIdx, state] using node
            simp only [moves, receiveMoves, here, short, if_false, messageMoves, asks.2, state,
              requestMoves]
      next => cases speaks
  | _ => cases speaks

theorem vacant_moves {s : State} {timed : Moment × Event} (noReload : timed.2.loaded = none)
    (spared : NoTakeover s timed) :
    Guarded Hall.apply Hall.Vacant (hall s) (stepMoves s timed) := by
  refine ⟨trivial, ?_⟩
  obtain ⟨m, e⟩ := timed
  rw [← hall_at]
  have shape := moves_shape (s.at m) e
  generalize moves (s.at m) e = ms at shape ⊢
  cases shape with
  | plain only =>
      refine Machine.guarded_of_forall _ (fun m member h => ?_) _
      have plain := only m member
      cases m with
      | grant | mute | reload => cases plain
      | _ => trivial
  | @grant j k talks onTg free =>
      refine ⟨fun holder held => ?_, trivial⟩
      by_contra other
      have taken : (s.tgRt j).heldByOther k = true := by
        have shown : (s.tgRt j).talkerNodeIdx = some holder := held
        simp [TgRt.heldByOther, shown, other]
      have running := spared k (speaker_of_talks talks) j onTg taken
      have late : (s.tgRt j).leaseExpiresMs ≤ (s.at m).nowMs := floorBusy_false free held other
      exact absurd late (Int.not_le.mpr running)
  | mute => exact ⟨trivial, trivial⟩
  | reload loaded =>
      subst loaded
      cases noReload

/-! ## Whole runs -/

/-- Each talkgroup's log is in order and ends with the holder that it has now, and each node's floor
time is what it was credited. -/
structure Accounted (s : State) : Prop where
  holds : ∀ j < s.cfg.tgs.length,
    (accept (holdNext j) .idle s.log).map Hold.talker = some (s.tgRt j).talkerNodeIdx
  floorTime : ∀ k, (s.nodeRt k).floorMs = credited s.log k

def AccountInv (s : State) : Prop :=
  Seated (hall s) ∧ Placed (hall s) ∧ Accounts (hall s)

theorem accept_hall (s : State) (j : Nat) :
    accept (holdNext j) .idle (hall s).log = accept (holdNext j) .idle s.log := by
  refine Acceptor.accept_filter _ (fun phase n other => ?_) _ _
  cases n with
  | forwarded => rfl
  | _ => cases other

theorem credited_hall (s : State) (k : Nat) : credited (hall s).log k = credited s.log k := by
  have kept : ∀ (log : List Note) (total : Int),
      (log.filter Note.ofFloor).foldl (creditNext k) total = log.foldl (creditNext k) total := by
    intro log
    induction log with
    | nil => exact fun _ => rfl
    | cons n rest ih =>
        intro total
        cases n <;> simp [Note.ofFloor, List.filter_cons, ih, creditNext]
  exact kept s.log 0

theorem accounted_of_inv {s : State} (inv : AccountInv s) : Accounted s where
  holds := by
    intro j bound
    have talker : (hall s).talker j = (s.tgRt j).talkerNodeIdx := rfl
    rw [← accept_hall, inv.2.2.slot j bound, ← talker, Option.map_some, Hall.hold]
    cases (hall s).talker j <;> rfl
  floorTime := by
    intro k
    rw [← credited_hall]
    exact inv.2.2.account k

theorem accountInv_step {s : State} {timed : Moment × Event} (inv : AccountInv s)
    (noReload : timed.2.loaded = none) (spared : NoTakeover s timed) :
    AccountInv (step s timed) := by
  obtain ⟨seated, placed, accounts⟩ := inv
  refine ⟨seated_step s timed seated, ?_⟩
  rw [hall_step]
  have both := Machine.guarded_and _ (stepMoves_allowed s timed seated)
    (vacant_moves noReload spared)
  refine Machine.run_invariant (P := fun h => Placed h ∧ Accounts h) _ ?_ ⟨placed, accounts⟩ both
  intro h m held ok
  refine ⟨Hall.placed_apply held.1 ok.1 ?_, Hall.accounts_apply held.1 held.2 ok.1 ok.2⟩
  rintro cfg rfl
  exact ok.2.elim

theorem accountInv_init (cfg : Rcfg) (bootMs : Nat) : AccountInv (State.init cfg bootMs) := by
  have idle : ∀ j < cfg.tgs.length, (hall (State.init cfg bootMs)).talker j = none := by
    intro j bound
    simp [hall, State.init, Hall.talker, bound]
  refine ⟨seated_init cfg bootMs, fun j bound k talks => ?_, ?_, fun j bound => ?_,
    fun j bound k talks => ?_, fun k => rfl⟩
  · exact absurd (talks.symm.trans (idle j bound)) (by simp)
  · have clock : (hall (State.init cfg bootMs)).now = bootMs + 1 := rfl
    omega
  · simp only [Hall.hold, idle j bound]
    rfl
  · exact absurd (talks.symm.trans (idle j bound)) (by simp)

/-! ### A takeover is never made good -/

theorem log_apply (h : Hall) (m : Move) : ∃ more, (h.apply m).log = h.log ++ more := by
  cases m with
  | advance | enter | drain => exact ⟨[], (List.append_nil _).symm⟩
  | join c node tg =>
      exact ⟨[.login node], by simp [Hall.apply, Hall.join, Hall.tell_log, Hall.note, Hall.setStation,
        Hall.setDoor]⟩
  | grant j k =>
      by_cases held : h.talker j = some k
      · exact ⟨[], by simp [Hall.apply, Hall.grant, held, Hall.setFloor]⟩
      · exact ⟨_, by simp only [Hall.apply, Hall.grant, held, if_false]; rfl⟩
  | release j =>
      cases talks : h.talker j with
      | none => exact ⟨[], by simp [Hall.apply, Hall.release, talks]⟩
      | some k =>
          by_cases started : 0 < (h.station k).since
          · exact ⟨_, (Hall.release_held talks started).1⟩
          · exact ⟨_, by
              simp only [Hall.apply, Hall.release, talks, Hall.pay, started, if_false]; rfl⟩
  | tune c node tg => exact ⟨[], by simp [Hall.apply, Hall.tune, Hall.tell_log, Hall.setStation]⟩
  | mute node c | unmute node c => exact ⟨[], by simp [Hall.apply, Hall.tell_log, Hall.setStation]⟩
  | leave c =>
      refine ⟨[], ?_⟩
      simp only [Hall.apply, Hall.leave, List.append_nil]
      cases h.seat c <;> rfl
  | reload cfg =>
      exact ⟨[], by
        rw [List.append_nil]
        exact (Hall.visited_all cfg h h.cfg.nodes.length).log⟩

def Refused (j : Nat) (h : Hall) : Prop :=
  -- The log of slot `j` is out of order.
  accept (holdNext j) .idle h.log = none

theorem refused_run {j : Nat} {s : State} (refused : Refused j (hall s))
    (inputs : List (Moment × Event)) : Refused j (hall (run step s inputs)) := by
  refine Machine.run_holds (P := fun t => Refused j (hall t)) _ (fun t timed held => ?_) refused
  rw [hall_step]
  refine Machine.run_holds (P := Refused j) _ (fun h m held => ?_) held
  obtain ⟨more, log⟩ := log_apply h m
  rw [Refused, log]
  exact Acceptor.accept_refused _ held more

theorem refused_takeover {s : State} {timed : Moment × Event} (inv : AccountInv s)
    (takes : ¬ NoTakeover s timed) :
    ∃ j < s.cfg.tgs.length, Refused j (hall (step s timed)) := by
  simp only [NoTakeover, not_forall] at takes
  obtain ⟨k, speaks, j, onTg, taken, late⟩ := takes
  obtain ⟨bound, _⟩ := rcfgTgIdx_some onTg
  refine ⟨j, bound, ?_⟩
  have free : floorBusy (s.at timed.1) j k = false := by
    have lapsed : ¬ (s.at timed.1).nowMs < ((s.at timed.1).tgRt j).leaseExpiresMs := late
    simp [floorBusy, lapsed]
  have onTg' : rcfgTgIdx (s.at timed.1).cfg ((s.at timed.1).nodeRt k).curTg = some j := onTg
  have grants : moves (s.at timed.1) timed.2 = [.grant j k] := by
    rw [moves_of_speaker speaks]
    simp only [talkMoves, onTg', grantMoves, free, Bool.false_eq_true, if_false]
  obtain ⟨holder, holds, other⟩ : ∃ holder, (hall s).talker j = some holder ∧ holder ≠ k := by
    have held : (hall s).talker j = (s.tgRt j).talkerNodeIdx := rfl
    simpa [held, TgRt.heldByOther, Option.any_eq_true] using taken
  have before := inv.2.2.slot j bound
  have notOwn : ¬ ((hall s).apply (.advance timed.1.elapsed)).talker j = some k := fun own =>
    other (Option.some.inj (holds.symm.trans own))
  rw [hall_step, stepMoves, grants]
  change accept (holdNext j) .idle (((hall s).apply (.advance timed.1.elapsed)).grant j k).log = none
  simp only [Hall.grant, if_neg notOwn]
  change accept (holdNext j) .idle ((hall s).log ++ [_]) = none
  rw [Acceptor.accept_snoc _ before]
  simp [holdNext, Hall.hold, holds]

theorem accounted_run_iff {s : State} {inputs : List (Moment × Event)} (inv : AccountInv s)
    (noReload : ∀ timed ∈ inputs, timed.2.loaded = none) :
    Accounted (run step s inputs) ↔ Guarded step NoTakeover s inputs := by
  induction inputs generalizing s with
  | nil => exact iff_of_true (accounted_of_inv inv) trivial
  | cons timed rest ih =>
      have first := noReload timed (List.mem_cons_self ..)
      have later : ∀ timed ∈ rest, timed.2.loaded = none := fun timed member =>
        noReload timed (List.mem_cons_of_mem _ member)
      by_cases spared : NoTakeover s timed
      · rw [Machine.run_cons, ih (accountInv_step inv first spared) later]
        exact (and_iff_right spared).symm
      · refine iff_of_false (fun accounted => ?_) fun guarded => spared guarded.1
        obtain ⟨j, bound, refused⟩ := refused_takeover inv spared
        have same : (run step s (timed :: rest)).cfg = s.cfg := cfg_run noReload
        have inOrder := accounted.holds j (by rw [same]; exact bound)
        have broken : Refused j (hall (run step s (timed :: rest))) := refused_run refused rest
        rw [← accept_hall, broken] at inOrder
        cases inOrder

/-- Without reloads, the holds of a run are accounted for exactly if none ends by a takeover. -/
theorem accounted_iff_no_takeover (cfg : Rcfg) (bootMs : Nat) (inputs : List (Moment × Event))
    (noReload : ∀ timed ∈ inputs, timed.2.loaded = none) :
    Accounted (run step (State.init cfg bootMs) inputs) ↔
      Guarded step NoTakeover (State.init cfg bootMs) inputs :=
  accounted_run_iff (accountInv_init cfg bootMs) noReload

/-- Without a tick after the lease, the second node's packet ends the hold unaccounted. -/
theorem taken_over_hold_not_accounted :
    ¬ Accounted (run step (State.init roster 0)
      (signIn 0 "A" ++ signIn 1 "B" ++ [(after 100, packet 0 100), (after 1600, packet 1 100)])) := by
  intro accounted
  exact absurd (accounted.holds 0 (by decide)) (by decide)

/-- With a tick it is accounted. -/
theorem ticked_hold_accounted :
    Accounted (run step (State.init roster 0)
      (signIn 0 "A" ++ signIn 1 "B" ++
        [(after 100, packet 0 100), (after 1600, .floorTick), (after 0, packet 1 100)])) :=
  (accounted_iff_no_takeover roster 0 _ (by decide)).mpr (by decide)

end Kerchunk.Reflectd
